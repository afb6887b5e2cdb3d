import WispDisk.Foundations.Layout

/-! Bounded access to byte memory. A decoder reads at most `n` bytes (`Reads`) when no byte outside
of them changes its result, and a program whose steps commute with replacing the bytes from `n` on
(`withTail`) neither reads nor writes them. -/
namespace WispDisk.Layout
set_option autoImplicit false

variable {α : Type} {read : Bytes → ℕ → α} {k n o : ℕ}

/-- The decoder depends on no byte but the `n` from its offset on. -/
def Reads (read : Bytes → ℕ → α) (n : ℕ) : Prop :=
  ∀ (m m' : Bytes) (o : ℕ), (∀ i, o ≤ i → i < o + n → m i = m' i) → read m o = read m' o

/-- A field inside a structure of `n` bytes. -/
theorem Reads.inside (h : Reads read k) {m m' : Bytes} {p : ℕ} (hp : p + k ≤ n)
    (hsame : ∀ i, o ≤ i → i < o + n → m i = m' i) : read m (o + p) = read m' (o + p) :=
  h m m' (o + p) fun i h₁ h₂ => hsame i (by omega) (by omega)

/-- The bytes from `n` on replaced by those of `tail`. -/
def withTail (n : ℕ) (tail m : Bytes) : Bytes := fun i => if i < n then m i else tail i

theorem withTail_below (tail m : Bytes) {i : ℕ} (h : i < n) : withTail n tail m i = m i := if_pos h

theorem withTail_above (tail m : Bytes) {i : ℕ} (h : n ≤ i) : withTail n tail m i = tail i :=
  if_neg (Nat.not_lt.mpr h)

theorem withTail_self (n : ℕ) (m : Bytes) : withTail n m m = m := by
  funext i
  unfold withTail
  split <;> rfl

theorem Reads.withTail (h : Reads read k) (tail m : Bytes) (hk : o + k ≤ n) :
    read (withTail n tail m) o = read m o :=
  h _ _ o fun _ _ hi => withTail_below tail m (by omega)

/-- The memory from `p` on. -/
theorem withTail_shift (p : ℕ) (tail m : Bytes) (hp : p ≤ n) :
    (fun i => withTail n tail m (p + i)) =
      withTail (n - p) (fun i => tail (p + i)) fun i => m (p + i) := by
  funext i
  by_cases hi : p + i < n
  · rw [withTail_below _ _ hi, withTail_below _ _ (by omega)]
  · rw [withTail_above _ _ (by omega), withTail_above _ _ (by omega)]

theorem overwrite_withTail (tail m : Bytes) (bs : List UInt8) (h : o + bs.length ≤ n) :
    overwrite (withTail n tail m) o bs = withTail n tail (overwrite m o bs) := by
  funext i
  by_cases hbefore : i < o
  · rw [overwrite_before _ _ _ hbefore]
    by_cases hi : i < n
    · rw [withTail_below _ _ hi, withTail_below _ _ hi, overwrite_before _ _ _ hbefore]
    · rw [withTail_above _ _ (by omega), withTail_above _ _ (by omega)]
  by_cases hinside : i < o + bs.length
  · obtain ⟨j, rfl⟩ : ∃ j, i = o + j := ⟨i - o, by omega⟩
    rw [overwrite_inside _ _ _ (by omega), withTail_below _ _ (by omega),
      overwrite_inside _ _ _ (by omega)]
  · rw [overwrite_after _ _ _ (by omega)]
    by_cases hi : i < n
    · rw [withTail_below _ _ hi, withTail_below _ _ hi, overwrite_after _ _ _ (by omega)]
    · rw [withTail_above _ _ (by omega), withTail_above _ _ (by omega)]

end WispDisk.Layout
