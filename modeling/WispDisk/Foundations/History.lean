import WispDisk.Foundations.Procedure

/-! Procedures over two interfaces, and Hoare triples about the calls made so far: the assertions of a
`HistoryTriple` are about the history before and after a procedure, and every call on the way is judged
by the history in which it is made. -/
namespace WispDisk.Procedures
set_option autoImplicit false

/-! ## Two interfaces -/

section Both

variable {C D : Type} {A : C → Type} {B : D → Type} {α β : Type}

/-- The answers of two interfaces together. -/
@[reducible] def Both (A : C → Type) (B : D → Type) : C ⊕ D → Type
  | .inl c => A c
  | .inr d => B d

/-- A call of the first interface as one of both. -/
def Event.lift (e : Event A) : Event (Both A B) := ⟨.inl e.call, e.answer⟩

namespace Procedure

/-- A procedure over the first interface as one over both. -/
def lift : Procedure C A α → Procedure (C ⊕ D) (Both A B) α
  | .done a => .done a
  | .call c next => .call (.inl c) fun answer => (next answer).lift

theorem only_imp {P Q : C → Prop} {p : Procedure C A α} (hp : p.Only P) (h : ∀ c, P c → Q c) :
    p.Only Q := by
  induction p with
  | done a => exact only_done a
  | call c next ih => exact ⟨h c hp.1, fun answer => ih answer (hp.2 answer)⟩

theorem only_lift {P : C → Prop} {Q : C ⊕ D → Prop} {p : Procedure C A α} (hp : p.Only P)
    (h : ∀ c, P c → Q (.inl c)) : (p.lift : Procedure (C ⊕ D) (Both A B) α).Only Q := by
  induction p with
  | done a => exact only_done _
  | call c next ih => exact ⟨h c hp.1, fun answer => ih answer (hp.2 answer)⟩

end Procedure

/-- The runs of a lifted procedure are its own. -/
theorem Runs.lift_iff {p : Procedure C A α} {t : List (Event (Both A B))} {a : α} :
    Runs p.lift t a ↔ ∃ s, Runs p s a ∧ t = s.map Event.lift := by
  induction p generalizing t with
  | done b =>
    simp only [Procedure.lift, done_iff]
    constructor
    · rintro ⟨rfl, rfl⟩
      exact ⟨[], ⟨rfl, rfl⟩, rfl⟩
    · rintro ⟨s, ⟨rfl, rfl⟩, rfl⟩
      exact ⟨rfl, rfl⟩
  | call c next ih =>
    simp only [Procedure.lift, call_iff, ih]
    constructor
    · rintro ⟨answer, _, rfl, s, hs, rfl⟩
      exact ⟨⟨c, answer⟩ :: s, ⟨answer, s, rfl, hs⟩, rfl⟩
    · rintro ⟨_, ⟨answer, s, rfl, hs⟩, rfl⟩
      exact ⟨answer, s.map Event.lift, rfl, s, hs, rfl⟩

end Both

/-- A call whose answer is only converted. -/
theorem Runs.call_done_iff {C : Type} {A : C → Type} {α : Type} {c : C} {f : A c → α}
    {t : List (Event A)} {a : α} :
    Runs (.call c fun answer => .done (f answer)) t a ↔ ∃ answer, t = [⟨c, answer⟩] ∧ a = f answer := by
  rw [call_iff]
  constructor
  · rintro ⟨answer, rest, rfl, h⟩
    obtain ⟨rfl, rfl⟩ := done_iff.mp h
    exact ⟨answer, rfl, rfl⟩
  · rintro ⟨answer, rfl, rfl⟩
    exact ⟨answer, [], rfl, .done _⟩

/-! ## Histories -/

section History

variable {C : Type} {A : C → Type} {α β : Type}

/-- From a history in which `P` holds, every call of a run is `good` where it is made, and at the end
the result and the history satisfy `Q`. -/
def HistoryTriple (good : List (Event A) → Event A → Prop) (P : List (Event A) → Prop)
    (p : Procedure C A α) (Q : α → List (Event A) → Prop) : Prop :=
  ∀ h t a, P h → Runs p t a →
    (∀ before e after, t = before ++ e :: after → good (h ++ before) e) ∧ Q a (h ++ t)

/-- What holds after an error, and after a success. -/
def Outcome {ε : Type} (E : List (Event A) → Prop) (R : α → List (Event A) → Prop)
    (r : Except ε α) (h : List (Event A)) : Prop :=
  (∀ error, r = .error error → E h) ∧ ∀ a, r = .ok a → R a h

namespace Outcome

variable {ε : Type} {E : List (Event A) → Prop} {R : α → List (Event A) → Prop}
  {h : List (Event A)}

theorem error {error : ε} (hE : E h) : Outcome E R (.error error : Except ε α) h := by
  constructor
  · intro _ _
    exact hE
  · intro a ha
    cases ha

theorem ok {a : α} (hR : R a h) : Outcome E R (.ok a : Except ε α) h := by
  constructor
  · intro _ ha
    cases ha
  · intro b hb
    cases hb
    exact hR

end Outcome

/-- What stays true as calls are made. -/
def Lasting (P : List (Event A) → Prop) : Prop := ∀ h t, P h → P (h ++ t)

theorem Lasting.mem (e : Event A) : Lasting fun h => e ∈ h :=
  fun _ t he => List.mem_append_left t he

theorem Lasting.within (u : List (Event A)) : Lasting fun h => u <:+: h :=
  fun h t hu => hu.trans (List.infix_append [] h t)

namespace HistoryTriple

variable {good : List (Event A) → Event A → Prop} {P : List (Event A) → Prop}

theorem done {a : α} {Q : α → List (Event A) → Prop} (h : ∀ t, P t → Q a t) :
    HistoryTriple good P (.done a) Q := by
  intro past t b hP hrun
  obtain ⟨rfl, rfl⟩ := Runs.done_iff.mp hrun
  refine ⟨fun before e after ht => ?_, ?_⟩
  · cases before <;> cases ht
  · rw [List.append_nil]
    exact h past hP

theorem call {c : C} {next : A c → Procedure C A α} {R : A c → List (Event A) → Prop}
    {Q : α → List (Event A) → Prop}
    (hcall : ∀ t answer, P t → good t ⟨c, answer⟩ ∧ R answer (t ++ [⟨c, answer⟩]))
    (hnext : ∀ answer, HistoryTriple good (R answer) (next answer) Q) :
    HistoryTriple good P (.call c next) Q := by
  intro past t a hP hrun
  obtain ⟨answer, rest, rfl, hrest⟩ := Runs.call_iff.mp hrun
  obtain ⟨hgood, hR⟩ := hcall past answer hP
  obtain ⟨hgoods, hQ⟩ := hnext answer _ rest a hR hrest
  refine ⟨fun before e after ht => ?_, ?_⟩
  · cases before with
    | nil =>
      cases ht
      rw [List.append_nil]
      exact hgood
    | cons e' before =>
      cases ht
      have h := hgoods before e after rfl
      rwa [List.append_assoc, List.singleton_append] at h
  · rwa [List.append_assoc, List.singleton_append] at hQ

theorem bind {p : Procedure C A α} {f : α → Procedure C A β} {R : α → List (Event A) → Prop}
    {Q : β → List (Event A) → Prop} (hp : HistoryTriple good P p R)
    (hf : ∀ a, HistoryTriple good (R a) (f a) Q) : HistoryTriple good P (p.bind f) Q := by
  intro past t b hP hrun
  obtain ⟨a, t₁, t₂, hfirst, hsecond, rfl⟩ := Runs.bind_iff.mp hrun
  obtain ⟨hgood₁, hR⟩ := hp past t₁ a hP hfirst
  obtain ⟨hgood₂, hQ⟩ := hf a _ t₂ b hR hsecond
  rw [List.append_assoc] at hQ
  refine ⟨fun before e after ht => ?_, hQ⟩
  rcases List.append_eq_append_iff.mp ht with ⟨u, rfl, hu⟩ | ⟨u, rfl, hu⟩
  · have h := hgood₂ u e after hu
    rwa [List.append_assoc] at h
  · cases u with
    | nil =>
      have h := hgood₂ [] e after hu.symm
      rwa [List.append_nil, List.append_nil] at h
    | cons e' u =>
      cases hu
      exact hgood₁ before e u rfl

/-- The rule for `?`, when what holds after an error is the same for both parts. -/
theorem tryBind {ε : Type} {p : Procedure C A (Except ε α)} {f : α → Procedure C A (Except ε β)}
    {E : List (Event A) → Prop} {R : α → List (Event A) → Prop} {Q : β → List (Event A) → Prop}
    (hp : HistoryTriple good P p (Outcome E R))
    (hf : ∀ a, HistoryTriple good (R a) (f a) (Outcome E Q)) :
    HistoryTriple good P (p.tryBind f) (Outcome E Q) := by
  refine bind hp fun r => ?_
  cases r with
  | error error => exact done fun t h => .error (h.1 error rfl)
  | ok a => exact fun past t b h hrun => hf a past t b (h.2 a rfl) hrun

theorem weaken {p : Procedure C A α} {P' : List (Event A) → Prop}
    {Q Q' : α → List (Event A) → Prop} (h : HistoryTriple good P p Q) (hP : ∀ t, P' t → P t)
    (hQ : ∀ a t, Q a t → Q' a t) : HistoryTriple good P' p Q' := by
  intro past t a hP' hrun
  obtain ⟨hgood, hresult⟩ := h past t a (hP past hP') hrun
  exact ⟨hgood, hQ a _ hresult⟩

/-- A procedure all of whose calls are good and keep an assertion. -/
theorem only {G : C → Prop} {p : Procedure C A α} (hp : p.Only G)
    (hcall : ∀ t c answer, G c → P t → good t ⟨c, answer⟩ ∧ P (t ++ [⟨c, answer⟩])) :
    HistoryTriple good P p fun _ => P := by
  induction p with
  | done a => exact done fun _ h => h
  | call c next ih =>
    exact call (fun t answer hP => hcall t c answer hp.1 hP) fun answer => ih answer (hp.2 answer)

end HistoryTriple

end History

end WispDisk.Procedures
