import Mathlib.Data.List.Basic
import Mathlib.Data.Nat.ModEq
import Mathlib.Tactic.Ring

/-! Packed little-endian layouts in byte memory. A layout is the list of its fields as pairs of a
width in bytes and a value; `encode` is its byte string. `readLE_encode` says that reading a field
at the offset given by the widths before it returns the field's value, wherever the layout has
been copied to. -/
namespace WispDisk.Layout
set_option autoImplicit false

/-- Memory as the bytes from an address on. -/
abbrev Bytes := ℕ → UInt8

/-- The value of the `n` bytes at `o`, least significant first. -/
def readLE (m : Bytes) (o : ℕ) : ℕ → ℕ
  | 0 => 0
  | n + 1 => (m o).toNat + 256 * readLE m (o + 1) n

/-- The `n` little-endian bytes of a value. -/
def bytesLE : ℕ → ℕ → List UInt8
  | 0, _ => []
  | n + 1, v => UInt8.ofNat v :: bytesLE n (v / 256)

/-- Copying a byte string to an offset. -/
def overwrite (m : Bytes) (o : ℕ) (bs : List UInt8) : Bytes :=
  fun i => if o ≤ i then (bs[i - o]?).getD (m i) else m i

theorem bytesLE_length (n v : ℕ) : (bytesLE n v).length = n := by
  induction n generalizing v with
  | zero => rfl
  | succ n ih => simp [bytesLE, ih]

theorem readLE_congr {m m' : Bytes} {o n : ℕ} (h : ∀ i, o ≤ i → i < o + n → m i = m' i) :
    readLE m o n = readLE m' o n := by
  induction n generalizing o with
  | zero => rfl
  | succ n ih =>
    simp only [readLE]
    rw [h o (by omega) (by omega), ih fun i h₁ h₂ => h i (by omega) (by omega)]

/-! ## Copies -/

theorem overwrite_inside (m : Bytes) (o : ℕ) (bs : List UInt8) {i : ℕ} (h : i < bs.length) :
    overwrite m o bs (o + i) = bs[i] := by
  simp [overwrite, h]

theorem overwrite_before (m : Bytes) (o : ℕ) (bs : List UInt8) {i : ℕ} (h : i < o) :
    overwrite m o bs i = m i := by
  simp [overwrite, Nat.not_le.mpr h]

theorem overwrite_after (m : Bytes) (o : ℕ) (bs : List UInt8) {i : ℕ} (h : o + bs.length ≤ i) :
    overwrite m o bs i = m i := by
  have hle : o ≤ i := by omega
  have hlen : bs.length ≤ i - o := by omega
  simp [overwrite, hle, hlen]

theorem readLE_bytesLE (m : Bytes) (o n v : ℕ) (pre post : List UInt8) :
    readLE (overwrite m o (pre ++ bytesLE n v ++ post)) (o + pre.length) n = v % 256 ^ n := by
  induction n generalizing v pre with
  | zero => simp [readLE, Nat.mod_one]
  | succ n ih =>
    have hbyte : overwrite m o (pre ++ bytesLE (n + 1) v ++ post) (o + pre.length) =
        UInt8.ofNat v := by
      rw [overwrite_inside _ _ _ (by simp [bytesLE])]
      simp [bytesLE]
    have hsplit : pre ++ bytesLE (n + 1) v ++ post =
        (pre ++ [UInt8.ofNat v]) ++ bytesLE n (v / 256) ++ post := by
      simp [bytesLE]
    have hrest := ih (v / 256) (pre ++ [UInt8.ofNat v])
    rw [← hsplit, List.length_append, List.length_singleton, ← Nat.add_assoc] at hrest
    simp only [readLE]
    rw [hbyte, hrest, pow_succ, Nat.mul_comm (256 ^ n) 256, Nat.mod_mul]
    simp

/-! ## Field lists -/

/-- The fields of a packed layout: width in bytes and value. -/
abbrev Fields := List (ℕ × ℕ)

def encode (fs : Fields) : List UInt8 := fs.flatMap fun f => bytesLE f.1 f.2

/-- The offset of field `k`. -/
def offset (fs : Fields) (k : ℕ) : ℕ := ((fs.take k).map Prod.fst).sum

theorem encode_length (fs : Fields) : (encode fs).length = (fs.map Prod.fst).sum := by
  induction fs with
  | nil => rfl
  | cons f fs ih =>
    simp only [encode, List.flatMap_cons, List.length_append, bytesLE_length, List.map_cons,
      List.sum_cons] at ih ⊢
    omega

theorem encode_append (fs gs : Fields) : encode (fs ++ gs) = encode fs ++ encode gs := by
  simp [encode]

theorem readLE_encode (m : Bytes) (o : ℕ) (fs : Fields) (k : ℕ) {w v : ℕ}
    (hk : fs[k]? = some (w, v)) (hv : v < 256 ^ w) :
    readLE (overwrite m o (encode fs)) (o + offset fs k) w = v := by
  obtain ⟨hlt, hget⟩ := List.getElem?_eq_some_iff.mp hk
  have hsplit : encode fs = encode (fs.take k) ++ bytesLE w v ++ encode (fs.drop (k + 1)) := by
    have hfs : fs = fs.take k ++ (w, v) :: fs.drop (k + 1) := by
      rw [← hget, List.getElem_cons_drop, List.take_append_drop]
    conv_lhs => rw [hfs]
    simp [encode]
  have hoffset : offset fs k = (encode (fs.take k)).length := (encode_length _).symm
  rw [hsplit, hoffset, readLE_bytesLE, Nat.mod_eq_of_lt hv]

/-- `readLE_encode` for a layout of known widths, followed by any other fields. -/
theorem readLE_encode_widths (m : Bytes) (o : ℕ) {fs : Fields} (rest : Fields) {ws : List ℕ}
    (hw : fs.map Prod.fst = ws) (k : ℕ) {p w v : ℕ} (hp : (ws.take k).sum = p)
    (hk : fs[k]? = some (w, v)) (hv : v < 256 ^ w) :
    readLE (overwrite m o (encode (fs ++ rest))) (o + p) w = v := by
  have hlt : k < fs.length := (List.getElem?_eq_some_iff.mp hk).1
  have hoffset : offset (fs ++ rest) k = p := by
    rw [offset, List.take_append_of_le_length hlt.le, List.map_take, hw, hp]
  have hfield : (fs ++ rest)[k]? = some (w, v) := by
    rw [List.getElem?_append_left hlt, hk]
  rw [← hoffset]
  exact readLE_encode m o (fs ++ rest) k hfield hv

attribute [irreducible] readLE overwrite encode

end WispDisk.Layout
