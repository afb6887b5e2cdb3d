import WispDisk.Foundations.Procedure

/-! Procedures in a world that changes under them. Every call is answered by the world as it is at
that moment, and between two calls others may change it; `Triple` is a Hoare triple for such runs,
whose assertions the others' changes keep. -/
namespace WispDisk.Procedures
set_option autoImplicit false

variable {W C : Type} {A : C → Type} {α β : Type}

/-- A run of a procedure, finished or so far: the calls with the world in which each was made, the
world after the last of them, and what the procedure returned. -/
inductive Executes (answers : W → (c : C) → A c → W → Prop) (others : W → W → Prop) :
    W → Procedure C A α → List (W × Event A) → W → Option α → Prop
  | done (w : W) (a : α) : Executes answers others w (.done a) [] w (some a)
  | pending (w : W) (p : Procedure C A α) : Executes answers others w p [] w none
  | call {w w₁ w₂ : W} {c : C} {next : A c → Procedure C A α} {answer : A c}
      {t : List (W × Event A)} {r : Option α} (hanswer : answers w c answer w₁)
      (hrest : Executes answers others w₁ (next answer) t w₂ r) :
      Executes answers others w (.call c next) ((w, ⟨c, answer⟩) :: t) w₂ r
  | other {w w₁ w₂ : W} {p : Procedure C A α} {t : List (W × Event A)} {r : Option α}
      (hother : others w w₁) (hrest : Executes answers others w₁ p t w₂ r) :
      Executes answers others w p t w₂ r

variable {answers : W → (c : C) → A c → W → Prop} {others : W → W → Prop}

namespace Executes

variable {w w' : W} {p : Procedure C A α} {t : List (W × Event A)} {r : Option α}

/-- A finished run without the worlds. -/
theorem runs {a : α} (h : Executes answers others w p t w' (some a)) :
    Runs p (t.map Prod.snd) a := by
  generalize hr : some a = r at h
  induction h with
  | done w b =>
    cases hr
    exact .done _
  | pending w p => cases hr
  | call hanswer _ ih => exact .call _ (ih hr)
  | other _ _ ih => exact ih hr

/-- Every call of a run was answered by the world it was made in. -/
theorem answered (h : Executes answers others w p t w' r) :
    ∀ e ∈ t, ∃ w₁, answers e.1 e.2.call e.2.answer w₁ := by
  induction h with
  | done w a => exact fun e he => absurd he List.not_mem_nil
  | pending w p => exact fun e he => absurd he List.not_mem_nil
  | call hanswer _ ih =>
    intro e he
    cases List.mem_cons.mp he with
    | inl heq =>
      subst heq
      exact ⟨_, hanswer⟩
    | inr hrest => exact ih e hrest
  | other _ _ ih => exact ih

theorem mono {answers' : W → (c : C) → A c → W → Prop}
    (hanswers : ∀ w c answer w', answers w c answer w' → answers' w c answer w')
    (h : Executes answers others w p t w' r) : Executes answers' others w p t w' r := by
  induction h with
  | done w a => exact .done w a
  | pending w p => exact .pending w p
  | call hanswer _ ih => exact .call (hanswers _ _ _ _ hanswer) ih
  | other hother _ ih => exact .other hother ih

/-- A run whose answers all have a further property. -/
theorem restrict {φ : W → (c : C) → A c → Prop} (h : Executes answers others w p t w' r)
    (hall : ∀ e ∈ t, φ e.1 e.2.call e.2.answer) :
    Executes (fun w c answer w' => answers w c answer w' ∧ φ w c answer) others w p t w' r := by
  induction h with
  | done w a => exact .done w a
  | pending w p => exact .pending w p
  | call hanswer _ ih =>
    exact .call ⟨hanswer, hall _ List.mem_cons_self⟩
      (ih fun e he => hall e (List.mem_cons_of_mem _ he))
  | other hother _ ih => exact .other hother (ih hall)

/-- A run of two procedures in sequence has not left the first, or it goes on with the second. -/
theorem bind_cases {f : α → Procedure C A β} {s : Option β}
    (h : Executes answers others w (p.bind f) t w' s) :
    (Executes answers others w p t w' none ∧ s = none) ∨
    ∃ a t₁ t₂ w₁, Executes answers others w p t₁ w₁ (some a) ∧
      Executes answers others w₁ (f a) t₂ w' s ∧ t = t₁ ++ t₂ := by
  generalize hq : p.bind f = q at h
  induction h generalizing p with
  | done w b =>
    cases p with
    | done a =>
      have hf : f a = .done b := hq
      refine Or.inr ⟨a, [], [], w, .done w a, ?_, rfl⟩
      rw [hf]
      exact .done w b
    | call c next => cases hq
  | pending w q => exact Or.inl ⟨.pending w p, rfl⟩
  | @call w w₁ w₂ c next answer t s hanswer hrest ih =>
    cases p with
    | done a =>
      have hf : f a = .call c next := hq
      refine Or.inr ⟨a, [], _, w, .done w a, ?_, rfl⟩
      rw [hf]
      exact .call hanswer hrest
    | call c' next' =>
      cases hq
      rcases ih rfl with ⟨hp, hs⟩ | ⟨a, t₁, t₂, w₃, hp, hf, rfl⟩
      · exact Or.inl ⟨.call hanswer hp, hs⟩
      · exact Or.inr ⟨a, _ :: t₁, t₂, w₃, .call hanswer hp, hf, rfl⟩
  | other hother _ ih =>
    rcases ih hq with ⟨hp, hs⟩ | ⟨a, t₁, t₂, w₃, hp, hf, ht⟩
    · exact Or.inl ⟨.other hother hp, hs⟩
    · exact Or.inr ⟨a, t₁, t₂, w₃, .other hother hp, hf, ht⟩

end Executes

/-- The worlds of a trace: each answer is given by the world then, and the others step in between. -/
inductive Follows (answers : W → (c : C) → A c → W → Prop) (others : W → W → Prop) :
    W → List (Event A) → List (W × Event A) → W → Prop
  | nil (w : W) : Follows answers others w [] [] w
  | call {w w₁ w₂ : W} {c : C} {answer : A c} {t : List (Event A)} {u : List (W × Event A)}
      (hanswer : answers w c answer w₁) (hrest : Follows answers others w₁ t u w₂) :
      Follows answers others w (⟨c, answer⟩ :: t) ((w, ⟨c, answer⟩) :: u) w₂
  | other {w w₁ w₂ : W} {t : List (Event A)} {u : List (W × Event A)} (hother : others w w₁)
      (hrest : Follows answers others w₁ t u w₂) : Follows answers others w t u w₂

namespace Follows

variable {w w₁ w₂ : W} {t t' : List (Event A)} {u u' : List (W × Event A)}

/-- A run of the procedure alone whose trace the worlds follow. -/
theorem executes {p : Procedure C A α} {a : α} (h : Follows answers others w t u w₁)
    (hrun : Runs p t a) : Executes answers others w p u w₁ (some a) := by
  induction h generalizing p with
  | nil w =>
    cases hrun
    exact .done w a
  | call hanswer _ ih =>
    cases hrun with
    | call answer hrun => exact .call hanswer (ih hrun)
  | other hother _ ih => exact .other hother (ih hrun)

theorem cons {c : C} {answer : A c} (hanswer : answers w c answer w₁)
    (h : ∃ u, Follows answers others w₁ t u w₂) :
    ∃ u, Follows answers others w (⟨c, answer⟩ :: t) u w₂ := by
  obtain ⟨u, h⟩ := h
  exact ⟨_, .call hanswer h⟩

theorem append (h : Follows answers others w t u w₁) (h' : Follows answers others w₁ t' u' w₂) :
    Follows answers others w (t ++ t') (u ++ u') w₂ := by
  induction h with
  | nil w => exact h'
  | call hanswer _ ih => exact .call hanswer (ih h')
  | other hother _ ih => exact .other hother (ih h')

/-- Answers that leave the world as it is. -/
theorem same (h : ∀ e ∈ t, answers w e.call e.answer w) :
    Follows answers others w t (t.map fun e => (w, e)) w := by
  induction t with
  | nil => exact .nil w
  | cons e t ih =>
    exact .call (h e List.mem_cons_self) (ih fun e he => h e (List.mem_cons_of_mem _ he))

end Follows

/-! ## Triples -/

/-- What the others' changes keep. -/
def Stable (others : W → W → Prop) (P : W → Prop) : Prop := ∀ w w', others w w' → P w → P w'

/-- From a world in which `P` holds, every call of a run is `good`, and when the procedure returns
the result and the world satisfy `Q`. -/
def Triple (answers : W → (c : C) → A c → W → Prop) (others : W → W → Prop)
    (good : W → Event A → Prop) (P : W → Prop) (p : Procedure C A α) (Q : α → W → Prop) : Prop :=
  ∀ w t w' r, P w → Executes answers others w p t w' r →
    (∀ e ∈ t, good e.1 e.2) ∧ ∀ a, r = some a → Q a w'

namespace Triple

variable {good : W → Event A → Prop} {P : W → Prop} {Q : α → W → Prop}

theorem done {a : α} (hP : Stable others P) (h : ∀ w, P w → Q a w) :
    Triple answers others good P (.done a) Q := by
  intro w t w' r hw hrun
  generalize hp : (Procedure.done a : Procedure C A α) = p at hrun
  induction hrun with
  | done w b =>
    cases hp
    refine ⟨fun e he => absurd he List.not_mem_nil, fun b hb => ?_⟩
    cases hb
    exact h w hw
  | pending w p => exact ⟨fun e he => absurd he List.not_mem_nil, fun b hb => by cases hb⟩
  | call _ _ _ => cases hp
  | other hother _ ih => exact ih (hP _ _ hother hw) hp

theorem call {c : C} {next : A c → Procedure C A α} {R : A c → W → Prop} (hP : Stable others P)
    (hcall : ∀ w answer w', P w → answers w c answer w' → good w ⟨c, answer⟩ ∧ R answer w')
    (hnext : ∀ answer, Triple answers others good (R answer) (next answer) Q) :
    Triple answers others good P (.call c next) Q := by
  intro w t w' r hw hrun
  generalize hp : (Procedure.call c next : Procedure C A α) = p at hrun
  induction hrun with
  | done w b => cases hp
  | pending w p => exact ⟨fun e he => absurd he List.not_mem_nil, fun b hb => by cases hb⟩
  | @call w w₁ w₂ c next' answer t r hanswer hrest _ =>
    cases hp
    obtain ⟨hgood, hR⟩ := hcall w answer w₁ hw hanswer
    obtain ⟨hgoods, hresult⟩ := hnext answer w₁ t w₂ r hR hrest
    refine ⟨fun e he => ?_, hresult⟩
    cases List.mem_cons.mp he with
    | inl heq =>
      subst heq
      exact hgood
    | inr hrest => exact hgoods e hrest
  | other hother _ ih => exact ih (hP _ _ hother hw) hp

theorem bind {p : Procedure C A α} {f : α → Procedure C A β} {R : α → W → Prop}
    {Q : β → W → Prop} (hp : Triple answers others good P p R)
    (hf : ∀ a, Triple answers others good (R a) (f a) Q) :
    Triple answers others good P (p.bind f) Q := by
  intro w t w' r hw hrun
  rcases hrun.bind_cases with ⟨hfirst, hr⟩ | ⟨a, t₁, t₂, w₁, hfirst, hsecond, rfl⟩
  · subst hr
    exact ⟨(hp w t w' none hw hfirst).1, fun b hb => by cases hb⟩
  · obtain ⟨hgood₁, hR⟩ := hp w t₁ w₁ (some a) hw hfirst
    obtain ⟨hgood₂, hQ⟩ := hf a w₁ t₂ w' r (hR a rfl) hsecond
    refine ⟨fun e he => ?_, hQ⟩
    cases List.mem_append.mp he with
    | inl he => exact hgood₁ e he
    | inr he => exact hgood₂ e he

theorem tryBind {ε : Type} {p : Procedure C A (Except ε α)} {f : α → Procedure C A (Except ε β)}
    {R : Except ε α → W → Prop} {Q : Except ε β → W → Prop}
    (hp : Triple answers others good P p R) (hstable : ∀ error, Stable others (R (.error error)))
    (herror : ∀ error w, R (.error error) w → Q (.error error) w)
    (hf : ∀ a, Triple answers others good (R (.ok a)) (f a) Q) :
    Triple answers others good P (p.tryBind f) Q := by
  refine bind hp fun r => ?_
  cases r with
  | error error => exact done (hstable error) (herror error)
  | ok a => exact hf a

theorem weaken {p : Procedure C A α} {P' : W → Prop} {Q' : α → W → Prop}
    (h : Triple answers others good P p Q) (hP : ∀ w, P' w → P w) (hQ : ∀ a w, Q a w → Q' a w) :
    Triple answers others good P' p Q' := by
  intro w t w' r hw hrun
  obtain ⟨hgood, hresult⟩ := h w t w' r (hP w hw) hrun
  exact ⟨hgood, fun a ha => hQ a w' (hresult a ha)⟩

theorem conj {p : Procedure C A α} {P' : W → Prop} {Q' : α → W → Prop}
    (h : Triple answers others good P p Q) (h' : Triple answers others good P' p Q') :
    Triple answers others good (fun w => P w ∧ P' w) p fun a w => Q a w ∧ Q' a w := by
  intro w t w' r hw hrun
  obtain ⟨hgood, hresult⟩ := h w t w' r hw.1 hrun
  exact ⟨hgood, fun a ha => ⟨hresult a ha, (h' w t w' r hw.2 hrun).2 a ha⟩⟩

/-- A fact that is not about the world. -/
theorem fact {φ : Prop} {p : Procedure C A α} (h : φ → Triple answers others good P p Q) :
    Triple answers others good (fun w => P w ∧ φ) p Q :=
  fun w t w' r hw hrun => h hw.2 w t w' r hw.1 hrun

/-- A procedure whose calls all keep an assertion. -/
theorem only {G : C → Prop} {p : Procedure C A α} (h : p.Only G) (hP : Stable others P)
    (hcall : ∀ w c answer w', G c → P w → answers w c answer w' →
      good w ⟨c, answer⟩ ∧ P w') : Triple answers others good P p fun _ => P := by
  induction p with
  | done a => exact done hP fun _ hw => hw
  | call c next ih =>
    exact call hP (fun w answer w' => hcall w c answer w' h.1) fun answer => ih answer (h.2 answer)

/-- The loop rule, with the invariant a property of the accumulator. -/
theorem tryFold {ε : Type} {f : β → α → Procedure C A (Except ε β)} {I : β → W → Prop}
    {E : W → Prop} (hI : ∀ b, Stable others (I b)) (hE : Stable others E)
    (as : List α) (hf : ∀ b, ∀ a ∈ as, Triple answers others good (I b) (f b a) fun r w =>
      match r with
      | .error _ => E w
      | .ok b => I b w) (b : β) :
    Triple answers others good (I b) (Procedure.tryFold f b as) fun r w => match r with
      | .error _ => E w
      | .ok b => I b w := by
  induction as generalizing b with
  | nil => exact done (hI b) fun _ hw => hw
  | cons a as ih =>
    refine bind (hf b a List.mem_cons_self) fun r => ?_
    cases r with
    | error error => exact done hE fun _ hw => hw
    | ok b => exact ih (fun b a ha => hf b a (List.mem_cons_of_mem _ ha)) b

end Triple

end WispDisk.Procedures
