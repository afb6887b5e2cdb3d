import Mathlib.Data.List.Basic
import Mathlib.Logic.Relation

/-! Procedures that call an interface they do not control. A `Procedure` is the tree of the calls a
program makes, with one branch for every answer; `Runs p t a` says that `p` returns `a` after the
calls and answers of the trace `t`, and `Only` which calls it can make at all. -/
namespace WispDisk.Procedures
set_option autoImplicit false

/-- The calls that a program makes and what it returns. -/
inductive Procedure (C : Type) (A : C → Type) (α : Type)
  | done (result : α)
  | call (c : C) (next : A c → Procedure C A α)

/-- A call with its answer. -/
structure Event {C : Type} (A : C → Type) where
  call : C
  answer : A call

variable {C : Type} {A : C → Type} {α β : Type}

namespace Procedure

/-- The call alone. -/
def ask (c : C) : Procedure C A (A c) := .call c .done

def bind : Procedure C A α → (α → Procedure C A β) → Procedure C A β
  | .done a, f => f a
  | .call c next, f => .call c fun answer => (next answer).bind f

/-- A loop over a list with an accumulator; the first error ends it. -/
def tryFold {ε : Type} (f : β → α → Procedure C A (Except ε β)) :
    β → List α → Procedure C A (Except ε β)
  | b, [] => .done (.ok b)
  | b, a :: as => (f b a).bind fun
    | .error error => .done (.error error)
    | .ok b => tryFold f b as

/-- The `?` operator: the first error ends the procedure. -/
def tryBind {ε : Type} (p : Procedure C A (Except ε α)) (f : α → Procedure C A (Except ε β)) :
    Procedure C A (Except ε β) :=
  p.bind fun
    | .error error => .done (.error error)
    | .ok a => f a

end Procedure

/-! ## Traces -/

/-- `Runs p t a`: given the answers in `t`, the procedure makes the calls in `t` and returns `a`. -/
inductive Runs : Procedure C A α → List (Event A) → α → Prop
  | done (a : α) : Runs (.done a) [] a
  | call {c : C} {next : A c → Procedure C A α} (answer : A c) {t : List (Event A)} {a : α}
      (h : Runs (next answer) t a) : Runs (.call c next) (⟨c, answer⟩ :: t) a

namespace Runs

theorem done_iff {a b : α} {t : List (Event A)} : Runs (.done a) t b ↔ t = [] ∧ b = a := by
  constructor
  · intro h
    cases h
    exact ⟨rfl, rfl⟩
  · rintro ⟨rfl, rfl⟩
    exact .done _

theorem call_iff {c : C} {next : A c → Procedure C A α} {t : List (Event A)} {a : α} :
    Runs (.call c next) t a ↔ ∃ answer rest, t = ⟨c, answer⟩ :: rest ∧ Runs (next answer) rest a := by
  constructor
  · intro h
    cases h with
    | call answer h => exact ⟨answer, _, rfl, h⟩
  · rintro ⟨answer, rest, rfl, h⟩
    exact .call answer h

theorem ask_iff {c : C} {t : List (Event A)} {answer : A c} :
    Runs (.ask c) t answer ↔ t = [⟨c, answer⟩] := by
  rw [Procedure.ask, call_iff]
  constructor
  · rintro ⟨_, rest, rfl, h⟩
    obtain ⟨rfl, rfl⟩ := done_iff.mp h
    rfl
  · intro h
    exact ⟨answer, [], h, .done _⟩

/-- The bind rule: the run of the first procedure, then that of the second. -/
theorem bind_iff {p : Procedure C A α} {f : α → Procedure C A β} {t : List (Event A)} {b : β} :
    Runs (p.bind f) t b ↔ ∃ a t₁ t₂, Runs p t₁ a ∧ Runs (f a) t₂ b ∧ t = t₁ ++ t₂ := by
  induction p generalizing t with
  | done a =>
    simp only [Procedure.bind, done_iff]
    constructor
    · intro h
      exact ⟨a, [], t, ⟨rfl, rfl⟩, h, rfl⟩
    · rintro ⟨_, _, t₂, ⟨rfl, rfl⟩, h, rfl⟩
      exact h
  | call c next ih =>
    simp only [Procedure.bind, call_iff, ih]
    constructor
    · rintro ⟨answer, _, rfl, a, t₁, t₂, hp, hf, rfl⟩
      exact ⟨a, ⟨c, answer⟩ :: t₁, t₂, ⟨answer, t₁, rfl, hp⟩, hf, rfl⟩
    · rintro ⟨a, _, t₂, ⟨answer, t₁, rfl, hp⟩, hf, rfl⟩
      exact ⟨answer, t₁ ++ t₂, rfl, a, t₁, t₂, hp, hf, rfl⟩

/-- The rule for `?`: the error of the first procedure, or both. -/
theorem tryBind_iff {ε : Type} {p : Procedure C A (Except ε α)}
    {f : α → Procedure C A (Except ε β)} {t : List (Event A)} {r : Except ε β} :
    Runs (p.tryBind f) t r ↔
      (∃ error, Runs p t (.error error) ∧ r = .error error) ∨
      ∃ a t₁ t₂, Runs p t₁ (.ok a) ∧ Runs (f a) t₂ r ∧ t = t₁ ++ t₂ := by
  rw [Procedure.tryBind, bind_iff]
  constructor
  · rintro ⟨x, t₁, t₂, hp, hf, rfl⟩
    cases x with
    | error error =>
      obtain ⟨rfl, rfl⟩ := done_iff.mp hf
      exact .inl ⟨error, by rwa [List.append_nil], rfl⟩
    | ok a => exact .inr ⟨a, t₁, t₂, hp, hf, rfl⟩
  · rintro (⟨error, hp, rfl⟩ | ⟨a, t₁, t₂, hp, hf, rfl⟩)
    · exact ⟨.error error, t, [], hp, .done _, (List.append_nil t).symm⟩
    · exact ⟨.ok a, t₁, t₂, hp, hf, rfl⟩

end Runs

/-! ## Replaying a trace -/

namespace Procedure

/-- The result of a procedure on the answers of a trace, if it makes exactly the calls there. -/
def replay [DecidableEq C] : Procedure C A α → List (Event A) → Option α
  | .done a, [] => some a
  | .call c next, ⟨c', answer⟩ :: t => if h : c' = c then (next (h ▸ answer)).replay t else none
  | _, _ => none

end Procedure

theorem Runs.of_replay [DecidableEq C] {p : Procedure C A α} {t : List (Event A)} {a : α}
    (h : p.replay t = some a) : Runs p t a := by
  induction p generalizing t with
  | done result =>
    cases t with
    | nil =>
      cases h
      exact .done _
    | cons e t => cases h
  | call c next ih =>
    cases t with
    | nil => cases h
    | cons e t =>
      obtain ⟨c', answer⟩ := e
      rw [Procedure.replay] at h
      by_cases hc : c' = c
      · subst hc
        rw [dif_pos rfl] at h
        exact .call answer (ih answer h)
      · rw [dif_neg hc] at h
        cases h

/-! ## The calls of a procedure -/

namespace Procedure

/-- Whatever the answers, the procedure makes only calls that satisfy `P`. -/
def Only (P : C → Prop) : Procedure C A α → Prop
  | .done _ => True
  | .call c next => P c ∧ ∀ answer, (next answer).Only P

variable {P : C → Prop}

theorem only_done (a : α) : (done a : Procedure C A α).Only P := trivial

theorem only_call {c : C} {next : A c → Procedure C A α} (hc : P c)
    (h : ∀ answer, (next answer).Only P) : (call c next).Only P := ⟨hc, h⟩

theorem only_bind {p : Procedure C A α} {f : α → Procedure C A β} (hp : p.Only P)
    (hf : ∀ a, (f a).Only P) : (p.bind f).Only P := by
  induction p with
  | done a => exact hf a
  | call c next ih => exact ⟨hp.1, fun answer => ih answer (hp.2 answer)⟩

theorem only_tryBind {ε : Type} {p : Procedure C A (Except ε α)}
    {f : α → Procedure C A (Except ε β)} (hp : p.Only P) (hf : ∀ a, (f a).Only P) :
    (p.tryBind f).Only P := by
  refine only_bind hp fun r => ?_
  cases r with
  | error error => exact only_done _
  | ok a => exact hf a

theorem only_tryFold {ε : Type} {f : β → α → Procedure C A (Except ε β)}
    (hf : ∀ b a, (f b a).Only P) (b : β) (as : List α) : (tryFold f b as).Only P := by
  induction as generalizing b with
  | nil => exact only_done _
  | cons a as ih =>
    refine only_bind (hf b a) fun r => ?_
    cases r with
    | error error => exact only_done _
    | ok b => exact ih b

end Procedure

theorem Runs.only {P : C → Prop} {p : Procedure C A α} {t : List (Event A)} {a : α}
    (h : Runs p t a) (hp : p.Only P) : ∀ e ∈ t, P e.call := by
  induction h with
  | done a => exact fun _ he => absurd he List.not_mem_nil
  | call answer _ ih =>
    intro e he
    rcases List.mem_cons.mp he with rfl | he
    · exact hp.1
    · exact ih (hp.2 answer) e he

end WispDisk.Procedures
