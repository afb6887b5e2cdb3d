import Mathlib.Data.List.Induction
import Mathlib.Logic.Function.Basic
import Mathlib.Logic.Relation

/-! Executable transition systems under an environment contract. A `System` has initial states
and a partial step; a `Contract` says which actions the environment takes in which state. Safety
proofs use two induction rules: `Reachable.invariant` for a property of every reachable state and
`Steps.preserves` for a fact that stays true along a run. -/
namespace WispDisk.Transition
set_option autoImplicit false

/-- Initial states and an executable step; `none` means that the action is not enabled. -/
structure System (σ α : Type) where
  initial : σ → Prop
  step : σ → α → Option σ

/-- The actions an environment may take in a state. -/
abbrev Contract (σ α : Type) := σ → α → Prop

/-- The environment that takes any action. -/
def anyAction {σ α : Type} : Contract σ α := fun _ _ => True

variable {σ α : Type} {M : System σ α} {C : Contract σ α}

/-- `Steps M C s t`: some sequence of actions allowed by `C` leads from `s` to `t`. -/
inductive Steps (M : System σ α) (C : Contract σ α) : σ → σ → Prop
  | refl (s : σ) : Steps M C s s
  | step {s t u : σ} {a : α} (h : Steps M C s t) (ha : C t a) (hs : M.step t a = some u) :
      Steps M C s u

/-- A state that the system reaches from an initial state under the contract. -/
inductive Reachable (M : System σ α) (C : Contract σ α) : σ → Prop
  | initial {s : σ} (h : M.initial s) : Reachable M C s
  | step {s t : σ} {a : α} (h : Reachable M C s) (ha : C s a) (hs : M.step s a = some t) :
      Reachable M C t

theorem Steps.single {s t : σ} {a : α} (ha : C s a) (hs : M.step s a = some t) : Steps M C s t :=
  Steps.step (Steps.refl s) ha hs

theorem Steps.trans {s t u : σ} (h₁ : Steps M C s t) (h₂ : Steps M C t u) : Steps M C s u := by
  induction h₂ with
  | refl => exact h₁
  | step _ ha hs ih => exact Steps.step ih ha hs

theorem Reachable.path {s t : σ} (h : Reachable M C s) (hp : Steps M C s t) : Reachable M C t := by
  induction hp with
  | refl => exact h
  | step _ ha hs ih => exact Reachable.step ih ha hs

theorem Reachable.mono {C' : Contract σ α} (hC : ∀ s a, C s a → C' s a) {s : σ}
    (h : Reachable M C s) : Reachable M C' s := by
  induction h with
  | initial h => exact Reachable.initial h
  | step _ ha hs ih => exact Reachable.step ih (hC _ _ ha) hs

theorem Steps.mono {C' : Contract σ α} (hC : ∀ s a, C s a → C' s a) {s t : σ}
    (h : Steps M C s t) : Steps M C' s t := by
  induction h with
  | refl => exact Steps.refl _
  | step _ ha hs ih => exact Steps.step ih (hC _ _ ha) hs

/-- The invariant rule: what holds initially and survives every allowed step of a reachable
state holds in every reachable state. -/
theorem Reachable.invariant {P : σ → Prop} (base : ∀ s, M.initial s → P s)
    (inductive_step : ∀ s a t, Reachable M C s → P s → C s a → M.step s a = some t → P t)
    {s : σ} (h : Reachable M C s) : P s := by
  induction h with
  | initial h => exact base _ h
  | step hr ha hs ih => exact inductive_step _ _ _ hr ih ha hs

/-- The stability rule: a fact that every allowed step of a reachable state keeps is kept by
every run from a reachable state. -/
theorem Steps.preserves {P : σ → Prop} {s t : σ} (hp : Steps M C s t) (hr : Reachable M C s)
    (stable : ∀ u a v, Reachable M C u → P u → C u a → M.step u a = some v → P v)
    (h : P s) : P t := by
  induction hp with
  | refl => exact h
  | step hp ha hs ih => exact stable _ _ _ (hr.path hp) ih ha hs

/-- The same rule for a relation between the first state and the current one. -/
theorem Steps.relates {R : σ → σ → Prop} {s t : σ} (hp : Steps M C s t) (hr : Reachable M C s)
    (refl : R s s)
    (extend : ∀ u a v, Steps M C s u → Reachable M C u → R s u → C u a → M.step u a = some v → R s v) :
    R s t := by
  induction hp with
  | refl => exact refl
  | step hp ha hs ih => exact extend _ _ _ hp (hr.path hp) ih ha hs

/-! ## Simulation -/

section Simulation

variable {τ : Type} (abstract : σ → τ) (start : τ → Prop) (next : τ → τ → Prop) (P : σ → Prop)

/-- The simulation rule: when every step is one abstract step or none, an invariant `P` of the
concrete states helping, every reachable state lies over an abstractly reachable one. -/
theorem Reachable.simulated (base : ∀ s, M.initial s → P s ∧ start (abstract s))
    (step : ∀ s a t, P s → (∃ c, start c ∧ Relation.ReflTransGen next c (abstract s)) → C s a →
      M.step s a = some t → P t ∧ Relation.ReflGen next (abstract s) (abstract t))
    {s : σ} (h : Reachable M C s) :
    P s ∧ ∃ c, start c ∧ Relation.ReflTransGen next c (abstract s) := by
  induction h with
  | initial h => exact ⟨(base _ h).1, _, (base _ h).2, Relation.ReflTransGen.refl⟩
  | step _ ha hs ih =>
    obtain ⟨hP, c, hstart, hreach⟩ := ih
    obtain ⟨hP', hnext⟩ := step _ _ _ hP ⟨c, hstart, hreach⟩ ha hs
    exact ⟨hP', c, hstart, hreach.trans hnext.to_reflTransGen⟩

/-- The same for the part of a run between two states. -/
theorem Steps.simulated
    (step : ∀ s a t, Reachable M C s → C s a → M.step s a = some t →
      Relation.ReflGen next (abstract s) (abstract t))
    {s t : σ} (hr : Reachable M C s) (hp : Steps M C s t) :
    Relation.ReflTransGen next (abstract s) (abstract t) := by
  induction hp with
  | refl => exact Relation.ReflTransGen.refl
  | step hp ha hs ih => exact ih.trans (step _ _ _ (hr.path hp) ha hs).to_reflTransGen

end Simulation

/-! ## Observed systems -/

section Logged

variable {ε : Type} (observe : σ → α → σ → List ε)

/-- The system with a log of what an observer records of each step. -/
def System.logged (M : System σ α) : System (σ × List ε) α where
  initial s := M.initial s.1 ∧ s.2 = []
  step s a := (M.step s.1 a).map fun t => (t, s.2 ++ observe s.1 a t)

/-- The environment does not see the log. -/
abbrev Contract.logged (ε : Type) (C : Contract σ α) : Contract (σ × List ε) α := fun s => C s.1

variable {observe}

theorem System.logged_step {s t : σ × List ε} {a : α} (h : (M.logged observe).step s a = some t) :
    M.step s.1 a = some t.1 ∧ t.2 = s.2 ++ observe s.1 a t.1 := by
  obtain ⟨u, hu, rfl⟩ := Option.map_eq_some_iff.mp h
  exact ⟨hu, rfl⟩

theorem Reachable.unlogged {s : σ × List ε} (h : Reachable (M.logged observe) (C.logged ε) s) :
    Reachable M C s.1 := by
  induction h with
  | initial h => exact Reachable.initial h.1
  | step _ ha hs ih => exact Reachable.step ih ha (System.logged_step hs).1

theorem Steps.unlogged {s t : σ × List ε} (h : Steps (M.logged observe) (C.logged ε) s t) :
    Steps M C s.1 t.1 := by
  induction h with
  | refl => exact Steps.refl _
  | step _ ha hs ih => exact Steps.step ih ha (System.logged_step hs).1

/-- Observing restricts nothing. -/
theorem Reachable.logged (observe : σ → α → σ → List ε) {s : σ} (h : Reachable M C s) :
    ∃ log, Reachable (M.logged observe) (C.logged ε) (s, log) := by
  induction h with
  | initial h => exact ⟨[], Reachable.initial ⟨h, rfl⟩⟩
  | step _ ha hs ih =>
    obtain ⟨log, hlog⟩ := ih
    exact ⟨_, Reachable.step hlog ha (by simp only [System.logged, hs, Option.map_some]; rfl)⟩

theorem Steps.logged (observe : σ → α → σ → List ε) {s t : σ} (h : Steps M C s t) (log : List ε) :
    ∃ more, Steps (M.logged observe) (C.logged ε) (s, log) (t, log ++ more) := by
  induction h with
  | refl => exact ⟨[], by rw [List.append_nil]; exact Steps.refl _⟩
  | @step t u a _ ha hs ih =>
    obtain ⟨more, hmore⟩ := ih
    refine ⟨more ++ observe t a u, Steps.step hmore ha ?_⟩
    simp only [System.logged, hs, Option.map_some, List.append_assoc]

end Logged

/-! ## Runs -/

/-- Executing a list of actions in order. -/
def run (M : System σ α) : σ → List α → Option σ
  | s, [] => some s
  | s, a :: as => (M.step s a).bind (run M · as)

theorem run_append (s : σ) (as bs : List α) :
    run M s (as ++ bs) = (run M s as).bind (run M · bs) := by
  induction as generalizing s with
  | nil => rfl
  | cons a as ih =>
    simp only [List.cons_append, run]
    cases M.step s a with
    | none => rfl
    | some t => exact ih t

/-- The states around one action of a run. -/
theorem run_split {s t : σ} {as bs : List α} {a : α} (h : run M s (as ++ a :: bs) = some t) :
    ∃ u v, run M s as = some u ∧ M.step u a = some v ∧ run M v bs = some t := by
  rw [run_append] at h
  obtain ⟨u, hu, h⟩ := Option.bind_eq_some_iff.mp h
  obtain ⟨v, hv, h⟩ := Option.bind_eq_some_iff.mp h
  exact ⟨u, v, hu, hv, h⟩

/-- What holds at the start and is kept by every step, the actions so far being known, holds at
the end of a run. -/
theorem run_invariant {P : List α → σ → Prop} {s : σ} (base : P [] s)
    (extend : ∀ as a u v, P as u → M.step u a = some v → P (as ++ [a]) v) {as : List α} {t : σ}
    (h : run M s as = some t) : P as t := by
  induction as using List.reverseRecOn generalizing t with
  | nil =>
    cases h
    exact base
  | append_singleton as a ih =>
    obtain ⟨u, v, hu, hv, hrest⟩ := run_split h
    cases hrest
    exact extend as a u _ (ih hu) hv

/-- A run whose every action the contract allows is a path. -/
theorem path_of_run {s t : σ} {as : List α} (hrun : run M s as = some t)
    (allowed : ∀ pre a post u, as = pre ++ a :: post → run M s pre = some u → C u a) :
    Steps M C s t := by
  induction as generalizing s with
  | nil =>
    simp only [run, Option.some.injEq] at hrun
    subst hrun
    exact Steps.refl s
  | cons a as ih =>
    simp only [run] at hrun
    cases hs : M.step s a with
    | none => simp [hs] at hrun
    | some u =>
      simp only [hs, Option.bind_some] at hrun
      have ha : C s a := allowed [] a as s rfl rfl
      have hrest : Steps M C u t := by
        refine ih hrun fun pre b post v hsplit hv => ?_
        refine allowed (a :: pre) b post v (by rw [hsplit]; rfl) ?_
        simp only [run, hs, Option.bind_some]
        exact hv
      exact (Steps.single ha hs).trans hrest

/-- The contract allows every action of a run. -/
def Obeys (M : System σ α) (C : Contract σ α) (s : σ) (as : List α) : Prop :=
  ∀ pre a post u, as = pre ++ a :: post → run M s pre = some u → C u a

/-- A property holds in every state that a run goes through. -/
def Throughout (M : System σ α) (P : σ → Prop) (s : σ) (as : List α) : Prop :=
  ∀ pre t, pre <+: as → run M s pre = some t → P t

theorem Obeys.of_all {s : σ} {as : List α} (h : ∀ a ∈ as, ∀ u, C u a) : Obeys M C s as :=
  fun pre a post u hsplit _ =>
    h a (hsplit ▸ List.mem_append_right pre (List.mem_cons_self (l := post))) u

/-- A check of every action of a run. -/
def checked (M : System σ α) (check : σ → α → Bool) : σ → List α → Bool
  | _, [] => true
  | s, a :: as => check s a && (M.step s a).elim true fun t => checked M check t as

theorem Obeys.of_checked {check : σ → α → Bool} (hcheck : ∀ s a, check s a = true → C s a) {s : σ}
    {as : List α} (h : checked M check s as = true) : Obeys M C s as := by
  induction as generalizing s with
  | nil =>
    intro pre a post u hsplit _
    exact absurd hsplit.symm (List.append_ne_nil_of_right_ne_nil pre (List.cons_ne_nil a post))
  | cons b as ih =>
    rw [checked, Bool.and_eq_true] at h
    intro pre a post u hsplit hu
    cases pre with
    | nil =>
      cases hsplit
      cases hu
      exact hcheck s b h.1
    | cons c pre =>
      rw [List.cons_append] at hsplit
      obtain ⟨rfl, hrest⟩ := List.cons.inj hsplit
      simp only [run] at hu
      cases hs : M.step s b with
      | none =>
        rw [hs] at hu
        cases hu
      | some t =>
        rw [hs, Option.bind_some] at hu
        rw [hs, Option.elim_some] at h
        exact ih h.2 pre a post u hrest hu

theorem Obeys.initial_segment {s : σ} {as pre : List α} (h : Obeys M C s as) (hpre : pre <+: as) :
    Obeys M C s pre := by
  obtain ⟨rest, rfl⟩ := hpre
  intro first a post u hsplit hu
  exact h first a (post ++ rest) u (by rw [hsplit, List.append_assoc, List.cons_append]) hu

theorem reachable_of_run {s t : σ} {as : List α} (hi : M.initial s)
    (hrun : run M s as = some t) : Reachable M anyAction t :=
  (Reachable.initial hi).path (path_of_run hrun fun _ _ _ _ _ _ => trivial)

end WispDisk.Transition
