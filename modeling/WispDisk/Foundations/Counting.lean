import Mathlib.Data.List.Perm.Subperm
import Mathlib.Data.List.Basic

/-! Counting the entries of a list of threads that is changed at one position. -/
namespace WispDisk.Counting
set_option autoImplicit false

variable {α : Type} {l : List α} {i : ℕ} {x : α}

theorem countP_snoc (p : α → Bool) (l : List α) (x : α) :
    (l ++ [x]).countP p = l.countP p + if p x = true then 1 else 0 := by
  rw [List.countP_append, List.countP_singleton]

theorem countP_eraseIdx (hx : l[i]? = some x) (p : α → Bool) :
    (l.eraseIdx i).countP p + (if p x = true then 1 else 0) = l.countP p := by
  obtain ⟨hi, hget⟩ := List.getElem?_eq_some_iff.mp hx
  have hperm : (x :: l.eraseIdx i).Perm l := by
    rw [← hget]
    exact List.getElem_cons_eraseIdx_perm hi
  have hcount := hperm.countP_eq p
  rwa [List.countP_cons] at hcount

/-- A thread that counts as before does not change the count. -/
theorem countP_set_same (hx : l[i]? = some x) {y : α} {p : α → Bool} (hp : p y = p x) :
    (l.set i y).countP p = l.countP p := by
  induction l generalizing i with
  | nil => cases hx
  | cons z l ih =>
    cases i with
    | zero =>
      obtain rfl : z = x := Option.some.inj hx
      rw [List.set_cons_zero, List.countP_cons, List.countP_cons, hp]
    | succ i =>
      rw [List.set_cons_succ, List.countP_cons, List.countP_cons, ih hx]

end WispDisk.Counting
