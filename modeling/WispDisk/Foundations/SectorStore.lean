import Mathlib.Algebra.Group.Pi.Basic
import Mathlib.Data.List.Basic

/-! Devices that keep the last value written to each block: the store that a history of creations
and writes leaves, and that a block holds what the last event touching it gave it. -/
namespace WispDisk.SectorStore
set_option autoImplicit false

variable {δ β : Type}

/-- A device appears, all zero, or a run of its blocks is written. -/
inductive Event (δ β : Type)
  | created (device : δ)
  | wrote (device : δ) (lba blocks : ℕ) (data : ℕ → β)

namespace Event

def touches : Event δ β → δ → ℕ → Prop
  | created device, d, _ => device = d
  | wrote device lba blocks _, d, block => device = d ∧ lba ≤ block ∧ block < lba + blocks

/-- What an event leaves in a block it touches. -/
def value [Zero β] : Event δ β → ℕ → β
  | created _, _ => 0
  | wrote _ lba _ data, block => data (block - lba)

end Event

/-- The last event of a history that touches a block leaves `value` there. -/
def Latest [Zero β] (log : List (Event δ β)) (d : δ) (block : ℕ) (value : β) : Prop :=
  ∃ pre e post, log = pre ++ e :: post ∧ e.touches d block ∧ e.value block = value ∧
    ∀ e' ∈ post, ¬e'.touches d block

section Latest

variable [Zero β] {log : List (Event δ β)} {d : δ} {block : ℕ} {value : β}

theorem Latest.last {e : Event δ β} (h : e.touches d block) :
    Latest (log ++ [e]) d block (e.value block) :=
  ⟨log, e, [], rfl, h, rfl, nofun⟩

theorem Latest.append (h : Latest log d block value) {more : List (Event δ β)}
    (hmore : ∀ e ∈ more, ¬e.touches d block) : Latest (log ++ more) d block value := by
  obtain ⟨pre, e, post, rfl, htouches, hvalue, hpost⟩ := h
  refine ⟨pre, e, post ++ more, by simp, htouches, hvalue, fun e' he' => ?_⟩
  rcases List.mem_append.mp he' with hold | hnew
  · exact hpost e' hold
  · exact hmore e' hnew

/-- The last event is unique. -/
theorem Latest.unique {value' : β} (h : Latest log d block value)
    (h' : Latest log d block value') : value = value' := by
  obtain ⟨pre, e, post, rfl, htouches, rfl, hpost⟩ := h
  obtain ⟨pre', e', post', heq, htouches', rfl, hpost'⟩ := h'
  rcases List.append_eq_append_iff.mp heq with ⟨mid, hpre, hrest⟩ | ⟨mid, hpre, hrest⟩
  · cases mid with
    | nil =>
      rw [List.nil_append] at hrest
      cases hrest
      rfl
    | cons x mid =>
      rw [List.cons_append] at hrest
      cases hrest
      exact absurd htouches' (hpost e' (List.mem_append_right mid List.mem_cons_self))
  · cases mid with
    | nil =>
      rw [List.nil_append] at hrest
      cases hrest
      rfl
    | cons x mid =>
      rw [List.cons_append] at hrest
      cases hrest
      exact absurd htouches (hpost' e (List.mem_append_right mid List.mem_cons_self))

end Latest

end WispDisk.SectorStore
