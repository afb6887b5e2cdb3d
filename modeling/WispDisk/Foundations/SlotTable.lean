import Mathlib.Algebra.BigOperators.Group.Finset.Basic
import Mathlib.Algebra.Order.BigOperators.Group.Finset
import Mathlib.Data.Fintype.Card

/-! Tables with one entry a slot, changed one slot at a time: sums over all slots, entries told
apart by a key, and how many entries there can be when each is told apart from the others. -/
namespace WispDisk.SlotTable
set_option autoImplicit false

variable {ι α : Type} [DecidableEq ι]

section Sum

variable [Fintype ι] (table : ι → α) (size : α → ℕ)

/-- Writing one slot exchanges its part of the sum. -/
theorem sum_update (i : ι) (entry : α) :
    ∑ j, size (Function.update table i entry j) + size (table i) =
      ∑ j, size (table j) + size entry := by
  have hrest : ∑ j ∈ Finset.univ.erase i, size (Function.update table i entry j) =
      ∑ j ∈ Finset.univ.erase i, size (table j) :=
    Finset.sum_congr rfl fun j hj => by rw [Function.update_of_ne (Finset.ne_of_mem_erase hj)]
  rw [← Finset.add_sum_erase Finset.univ _ (Finset.mem_univ i), hrest, Function.update_self,
    ← Finset.add_sum_erase Finset.univ (fun j => size (table j)) (Finset.mem_univ i)]
  omega

omit [DecidableEq ι] in
theorem size_le_sum (i : ι) : size (table i) ≤ ∑ j, size (table j) := by
  have hpositive : ∀ j ∈ Finset.univ, 0 ≤ size (table j) := fun j _ => Nat.zero_le _
  exact Finset.single_le_sum hpositive (Finset.mem_univ i)

end Sum

section Count

variable {κ : Type}

omit [DecidableEq ι] in
/-- When a map tells the marked slots apart, all but as many slots as it has values are unmarked. -/
theorem card_le_unmarked [Fintype ι] [Fintype κ] (marked : ι → Prop) [DecidablePred marked]
    (f : ι → κ) (hf : ∀ i j, marked i → marked j → f i = f j → i = j) :
    Fintype.card ι ≤ Fintype.card κ + (Finset.univ.filter fun i => ¬marked i).card := by
  have hmarked : (Finset.univ.filter marked).card ≤ Fintype.card κ := by
    refine Finset.card_le_card_of_injOn f (fun _ _ => Finset.mem_univ _) fun i hi j hj hij => ?_
    exact hf i j (Finset.mem_filter.mp hi).2 (Finset.mem_filter.mp hj).2 hij
  have hsplit := Finset.card_filter_add_card_filter_not (s := Finset.univ) marked
  rw [Finset.card_univ] at hsplit
  omega

omit [DecidableEq ι] in
/-- Slots with distinct keys from a list are at most as many as the list is long. -/
theorem card_le_length [DecidableEq κ] (slots : Finset ι) (key : ι → κ) (keys : List κ)
    (hmem : ∀ i ∈ slots, key i ∈ keys)
    (hdistinct : ∀ i ∈ slots, ∀ j ∈ slots, key i = key j → i = j) : slots.card ≤ keys.length := by
  have hle : slots.card ≤ keys.toFinset.card :=
    Finset.card_le_card_of_injOn key (fun i hi => List.mem_toFinset.mpr (hmem i hi))
      fun i hi j hj hij => hdistinct i hi j hj hij
  exact hle.trans (List.toFinset_card_le keys)

end Count

/-- Writing an entry keeps what is true of every slot if it is true of the entry. -/
theorem forall_update (table : ι → α) (P : ι → α → Prop) {i : ι} {entry : α} (hi : P i entry)
    (h : ∀ j, P j (table j)) (j : ι) : P j (Function.update table i entry j) := by
  rcases eq_or_ne j i with rfl | hj
  · rw [Function.update_self]
    exact hi
  · rw [Function.update_of_ne hj]
    exact h j

/-- A relation between two tables that differ in one slot only needs that slot. -/
theorem relate_update {R : α → α → Prop} (hrefl : ∀ a, R a a) {table : ι → α} {i : ι} {entry : α}
    (hi : R (table i) entry) (j : ι) : R (table j) (Function.update table i entry j) := by
  rcases eq_or_ne j i with rfl | hj
  · rw [Function.update_self]
    exact hi
  · rw [Function.update_of_ne hj]
    exact hrefl _

end WispDisk.SlotTable
