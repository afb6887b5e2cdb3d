import Mathlib.Tactic.Ring
import WispDisk.Foundations.Layout

/-! Big-endian numbers in byte memory: their value as an unbounded number, the byte string of a
value, and the shifts and ors by which fixed-width code assembles them. -/
namespace WispDisk.Layout
set_option autoImplicit false

/-- The value of the `n` bytes at `o`, most significant first. -/
def readBE (m : Bytes) (o : ℕ) : ℕ → ℕ
  | 0 => 0
  | n + 1 => 256 * readBE m o n + (m (o + n)).toNat

/-- The `n` big-endian bytes of a value. -/
def bytesBE : ℕ → ℕ → List UInt8
  | 0, _ => []
  | n + 1, v => bytesBE n (v / 256) ++ [UInt8.ofNat v]

theorem bytesBE_length (n v : ℕ) : (bytesBE n v).length = n := by
  induction n generalizing v with
  | zero => rfl
  | succ n ih => rw [bytesBE, List.length_append, ih, List.length_singleton]

theorem readBE_lt (m : Bytes) (o n : ℕ) : readBE m o n < 256 ^ n := by
  induction n with
  | zero => exact Nat.one_pos
  | succ n ih =>
    have hb := (m (o + n)).toNat_lt
    simp only [readBE, pow_succ]
    omega

theorem readBE_congr {m m' : Bytes} {o n : ℕ} (h : ∀ i, o ≤ i → i < o + n → m i = m' i) :
    readBE m o n = readBE m' o n := by
  induction n with
  | zero => rfl
  | succ n ih =>
    simp only [readBE]
    rw [h (o + n) (by omega) (by omega), ih fun i h₁ h₂ => h i h₁ (by omega)]

theorem readBE_bytesBE (m : Bytes) (o n v : ℕ) (pre post : List UInt8) :
    readBE (overwrite m o (pre ++ (bytesBE n v ++ post))) (o + pre.length) n = v % 256 ^ n := by
  induction n generalizing v post with
  | zero => rw [readBE, pow_zero, Nat.mod_one]
  | succ n ih =>
    have hbytes : bytesBE (n + 1) v ++ post = bytesBE n (v / 256) ++ (UInt8.ofNat v :: post) := by
      rw [bytesBE, List.append_assoc, List.singleton_append]
    have hlast : overwrite m o (pre ++ (bytesBE n (v / 256) ++ (UInt8.ofNat v :: post)))
        (o + pre.length + n) = UInt8.ofNat v := by
      have hlt : pre.length + n <
          (pre ++ (bytesBE n (v / 256) ++ (UInt8.ofNat v :: post))).length := by
        simp [bytesBE_length]
      rw [Nat.add_assoc, overwrite_inside _ _ _ hlt]
      simp [bytesBE_length]
    rw [hbytes, readBE, ih, hlast, pow_succ, Nat.mul_comm (256 ^ n) 256, Nat.mod_mul,
      UInt8.toNat_ofNat']
    exact Nat.add_comm _ _

/-! ## Assembling a value from its bytes -/

theorem shiftLeft_or_byte {a b : ℕ} (hb : b < 256) : (a <<< 8) ||| b = 256 * a + b := by
  rw [← Nat.shiftLeft_add_eq_or_of_lt (i := 8) (by omega), Nat.shiftLeft_eq, Nat.mul_comm]

theorem uint64_shift_or_byte {a : UInt64} {b : UInt8} (h : a.toNat < 2 ^ 56) :
    ((a <<< 8) ||| b.toUInt64).toNat = 256 * a.toNat + b.toNat := by
  have hshift : (a <<< 8).toNat = a.toNat <<< 8 := by
    rw [UInt64.toNat_shiftLeft]
    change a.toNat <<< 8 % 2 ^ 64 = _
    rw [Nat.shiftLeft_eq, Nat.mod_eq_of_lt (by omega)]
  rw [UInt64.toNat_or, hshift, UInt8.toNat_toUInt64, shiftLeft_or_byte b.toNat_lt]

end WispDisk.Layout
