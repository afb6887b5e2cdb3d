import Mathlib.Data.List.Basic
import Mathlib.Data.List.Nodup

/-! Identifiers from a counter that counts up and stops for good when it wraps to zero. `Issued`
relates the counter to the list of all identifiers it has handed out, in order; `value` reads an
identifier as a number. -/
namespace WispDisk.Identifiers
set_option autoImplicit false

variable {α : Type} {value : α → ℕ} {next next' : α} {ids : List α}

structure Issued (value : α → ℕ) (next : α) (ids : List α) : Prop where
  ordered : ids.Pairwise fun x y => value x < value y
  positive : ∀ x ∈ ids, 0 < value x
  below : value next ≠ 0 → ∀ x ∈ ids, value x < value next

theorem Issued.empty (next : α) : Issued value next [] where
  ordered := List.Pairwise.nil
  positive := by simp
  below := by simp

theorem Issued.fresh (h : Issued value next ids) (hnext : value next ≠ 0) : next ∉ ids :=
  fun hmem => Nat.lt_irrefl _ (h.below hnext next hmem)

theorem Issued.nodup (h : Issued value next ids) : ids.Nodup :=
  h.ordered.imp fun hlt heq => by
    subst heq
    exact Nat.lt_irrefl _ hlt

/-- Handing out the counter's value and counting up keeps the relation. -/
theorem Issued.issue (h : Issued value next ids) (hnext : value next ≠ 0)
    (hsucc : value next' = 0 ∨ value next' = value next + 1) :
    Issued value next' (ids ++ [next]) where
  ordered := by
    rw [List.pairwise_append]
    refine ⟨h.ordered, List.pairwise_singleton _ _, fun x hx y hy => ?_⟩
    rw [List.mem_singleton] at hy
    subst hy
    exact h.below hnext x hx
  positive := by
    intro x hx
    rcases List.mem_append.mp hx with hx | hx
    · exact h.positive x hx
    · rw [List.mem_singleton] at hx
      subst hx
      exact Nat.pos_of_ne_zero hnext
  below := by
    intro hnext' x hx
    have hvalue : value next' = value next + 1 := hsucc.resolve_left hnext'
    rcases List.mem_append.mp hx with hx | hx
    · have hlt : value x < value next := h.below hnext x hx
      omega
    · rw [List.mem_singleton] at hx
      subst hx
      omega

/-- What was handed out before an identifier is smaller, what came after it is larger. -/
theorem Issued.split {pre post : List α} {x y : α} (h : Issued value next (pre ++ x :: post))
    (hy : y ∈ pre ++ x :: post) (hlt : value x < value y) : y ∈ post := by
  have hpre : ∀ z ∈ pre, value z < value x := fun z hz =>
    (List.pairwise_append.mp h.ordered).2.2 z hz x List.mem_cons_self
  rcases List.mem_append.mp hy with hmem | hmem
  · exact absurd (hpre y hmem) (by omega)
  · rcases List.mem_cons.mp hmem with heq | hmem
    · subst heq
      exact absurd hlt (Nat.lt_irrefl _)
    · exact hmem

theorem toNat_succ_uint32 (n : UInt32) : (n + 1).toNat = 0 ∨ (n + 1).toNat = n.toNat + 1 := by
  have h := n.toNat_lt
  rw [UInt32.toNat_add, UInt32.toNat_one]
  omega

theorem toNat_succ_uint64 (n : UInt64) : (n + 1).toNat = 0 ∨ (n + 1).toNat = n.toNat + 1 := by
  have h := n.toNat_lt
  rw [UInt64.toNat_add, UInt64.toNat_one]
  omega

end WispDisk.Identifiers
