import Mathlib.Data.List.Basic
import Mathlib.Data.Nat.ModEq
import Mathlib.Logic.Function.Basic

/-! A ring of slots into which a log is written in order. Entry `k` stands in the slot `k % n` until
the entry `k + n` takes it, so the newest `n` entries can be read back. -/
namespace WispDisk.RingLog
set_option autoImplicit false

variable {α : Type} {n : ℕ} [NeZero n]

/-- The slots hold the newest `n` entries of the log. -/
def Holds (slots : Fin n → α) (log : List α) : Prop :=
  ∀ k a, log[k]? = some a → log.length ≤ k + n → slots (Fin.ofNat n k) = a

theorem Holds.empty (slots : Fin n → α) : Holds slots [] := by
  intro k a h
  rw [List.getElem?_nil] at h
  cases h

/-- Two entries less than `n` apart have different slots. -/
theorem slot_ne {j k : ℕ} (hlt : j < k) (hnear : k < j + n) : Fin.ofNat n j ≠ Fin.ofNat n k := by
  intro h
  have hmod : j % n = k % n := Fin.ext_iff.mp h
  have hdvd : n ∣ k - j := (Nat.modEq_iff_dvd' hlt.le).mp hmod
  have hle := Nat.le_of_dvd (by omega) hdvd
  omega

theorem Holds.push {slots : Fin n → α} {log : List α} (h : Holds slots log) (a : α) :
    Holds (Function.update slots (Fin.ofNat n log.length) a) (log ++ [a]) := by
  intro k b hb hrecent
  rw [List.length_append, List.length_singleton] at hrecent
  by_cases hk : k < log.length
  · rw [List.getElem?_append_left hk] at hb
    rw [Function.update_of_ne (slot_ne hk (by omega))]
    exact h k b hb (by omega)
  · have hlast : k = log.length := by
      have hlt := (List.getElem?_eq_some_iff.mp hb).1
      rw [List.length_append, List.length_singleton] at hlt
      omega
    rw [hlast, List.getElem?_concat_length] at hb
    rw [hlast, Function.update_self, Option.some.inj hb]

/-- A counter that wraps at a multiple of `n` selects the slot that an unbounded one does. -/
theorem slot_mod {m : ℕ} (hdvd : n ∣ m) (k : ℕ) : Fin.ofNat n (k % m) = Fin.ofNat n k :=
  Fin.ext (Nat.mod_mod_of_dvd k hdvd)

/-- Reading the newest `count` slots reads the end of the log. -/
theorem Holds.recent {slots : Fin n → α} {log : List α} (h : Holds slots log) {count : ℕ}
    (hn : count ≤ n) (hcount : count ≤ log.length) :
    (List.range count).map (fun i => slots (Fin.ofNat n (log.length - count + i))) =
      log.drop (log.length - count) := by
  apply List.ext_getElem?
  intro i
  rw [List.getElem?_drop, List.getElem?_map]
  by_cases hi : i < count
  · have hlt : log.length - count + i < log.length := by omega
    rw [List.getElem?_range hi, List.getElem?_eq_getElem hlt]
    exact congrArg some (h _ _ (List.getElem?_eq_getElem hlt) (by omega))
  · rw [List.getElem?_eq_none (by rw [List.length_range]; omega), List.getElem?_eq_none (by omega)]
    rfl

end WispDisk.RingLog
