import Mathlib.Data.Fintype.Option
import WispDisk.Lifecycle.Agreement

/-! How long the operation table keeps a record. At most 16 records are live creates, one for each
LUN, and at most one is pending; all others can be reclaimed, oldest first. So a reservation finds
a slot, and a record outlives 110 later reservations. -/
namespace WispDisk
open Identifiers ManagementController SlotTable
set_option autoImplicit false

namespace Machine

variable {c c' : Machine}

/-- The LUN of a live create, or none for the pending record. -/
def pinnedTo (c : Machine) (i : Fin kMaximumOperationCount) : Option (Fin kMaximumDiskCount) :=
  if (c.operations i).state = .pending then none
  else some (Fin.ofNat kMaximumDiskCount (c.operations i).lun.toNat)

theorem pinned_iff (r : OperationRecord) : pinned r = true ↔ r.state = .pending ∨ r.LiveCreate := by
  unfold pinned OperationRecord.LiveCreate
  simp only [Bool.or_eq_true, Bool.and_eq_true, beq_iff_eq]
  exact or_congr_right and_comm

/-- Each pinned record has a LUN of its own or is the one pending record. -/
theorem pinnedTo_inj (h : c.Reachable beforeTeardown) {i j : Fin kMaximumOperationCount}
    (hi : pinned (c.operations i) = true) (hj : pinned (c.operations j) = true)
    (hij : c.pinnedTo i = c.pinnedTo j) : i = j := by
  have hrecords := Records.reachable h
  have hagreement := Agreement.reachable h
  unfold pinnedTo at hij
  rcases (pinned_iff _).mp hi with hpending | hlive
  · rw [if_pos hpending] at hij
    split at hij
    · rename_i hpending'
      exact hrecords.pending_unique hpending hpending'
    · cases hij
  · have hnot : (c.operations i).state ≠ .pending := by
      rw [hlive.2]
      exact OperationState.noConfusion
    rw [if_neg hnot] at hij
    split at hij
    · cases hij
    · rename_i hnot'
      have hlive' := ((pinned_iff _).mp hj).resolve_left hnot'
      obtain ⟨l, hl, hholds⟩ := hagreement.named i hlive
      obtain ⟨m, hm, hholds'⟩ := hagreement.named j hlive'
      have hlm : l = m := by
        rw [hl, hm, lunNumber_toNat, lunNumber_toNat] at hij
        simpa using hij
      subst hlm
      have hne : (c.operations i).state ≠ .unset := by
        rw [hlive.2]
        exact OperationState.noConfusion
      exact hrecords.unique i j (hrecords.id_ne_zero hne)
        (hholds.operation.symm.trans hholds'.operation)

/-- At least 111 of the 128 records are not pinned. -/
theorem unpinned_card (h : c.Reachable beforeTeardown) :
    111 ≤ (Finset.univ.filter fun i => ¬pinned (c.operations i) = true).card := by
  have hcard := card_le_unmarked (fun i => pinned (c.operations i) = true) c.pinnedTo
    fun i j => pinnedTo_inj h
  rw [Fintype.card_option, Fintype.card_fin, Fintype.card_fin] at hcard
  change 128 ≤ 16 + 1 + _ at hcard
  omega

/-- The slot search always succeeds. -/
theorem selectSlot_isSome (h : c.Reachable beforeTeardown) :
    ∃ i, selectSlot c.operations recordIndices none = some i := by
  cases hslot : selectSlot c.operations recordIndices none with
  | some i => exact ⟨i, rfl⟩
  | none =>
    have hcard := unpinned_card h
    have hempty : (Finset.univ.filter fun i => ¬pinned (c.operations i) = true) = ∅ :=
      Finset.filter_eq_empty_iff.mpr fun i _ => not_not.mpr (selectSlot_full hslot i)
    rw [hempty, Finset.card_empty] at hcard
    omega

/-! ## A record outlives later reservations -/

/-- A step other than a reservation changes no ID in the table. -/
theorem Step.ids {restartable : Machine → Prop} (hs : c.Step restartable c') :
    (c'.reservations = c.reservations ∧ ∀ i, (c'.operations i).id = (c.operations i).id) ∨
      ∃ i mutation, selectSlot c.operations recordIndices none = some i ∧
        c'.reservations = c.reservations ++ [c.nextOperationId] ∧
        c'.operations =
          Function.update c.operations i (reservedRecord c.nextOperationId mutation) := by
  have hone : ∀ (i : Fin kMaximumOperationCount) (r : OperationRecord),
      r.id = (c.operations i).id → ∀ j,
        (Function.update c.operations i r j).id = (c.operations j).id := fun i r hr j =>
    relate_update (R := fun (r r' : OperationRecord) => r'.id = r.id) (fun _ => rfl) hr j
  have hfail : ∀ {command operations}, Failing c.operations command operations →
      ∀ i, (operations i).id = (c.operations i).id := by
    intro command operations hfail i
    cases hfail with
    | legacy | missing => rfl
    | failed h k hid hzero status hstatus =>
      exact hone k { c.operations k with state := .failed, result := status } rfl i
  have hmark : ∀ deviceId i, (markDeleted deviceId (c.operations i)).id = (c.operations i).id := by
    intro deviceId i
    unfold markDeleted
    split <;> rfl
  cases hs with
  | reserved i mutation hmutation hopen hnext hslot =>
    exact Or.inr ⟨i, mutation, hslot, rfl, rfl⟩
  | admittedReserved command i => exact Or.inl ⟨rfl, hone i _ rfl⟩
  | queueFailed command htask operations h | rejected command htask hkind operations h =>
    exact Or.inl ⟨rfl, hfail h⟩
  | published command snapshot correlation status created i htask hid hzero =>
    exact Or.inl ⟨rfl, hone i _ ((resolvedRecord_id ..).trans hid.symm)⟩
  | workerFinalized command work l htask => exact Or.inl ⟨rfl, hmark _⟩
  | teardownFinalized l deviceId hclosing => exact Or.inl ⟨rfl, hmark _⟩
  | workerDrained command work l stage next d htask hdrain =>
    cases hdrain <;> exact Or.inl ⟨rfl, fun _ => rfl⟩
  | teardownDrained l stage next d hclosing hdrain =>
    cases hdrain <;> exact Or.inl ⟨rfl, fun _ => rfl⟩
  | _ => exact Or.inl ⟨rfl, fun _ => rfl⟩

/-- The operation IDs reserved last are all in the table. -/
def Retained (c : Machine) : Prop :=
  ∀ pre x post, c.reservations = pre ++ x :: post → post.length ≤ 110 →
    ∃ i, (c.operations i).id = x

/-- A reservation evicts no record that 109 or fewer later ones have followed. -/
theorem not_evicted (h : c.Reachable beforeTeardown) {i : Fin kMaximumOperationCount}
    (hslot : selectSlot c.operations recordIndices none = some i)
    {pre post : List ULONGLONG} (hsplit : c.reservations = pre ++ (c.operations i).id :: post)
    (hne : (c.operations i).id ≠ 0) : 110 ≤ post.length := by
  have hrecords := Records.reachable h
  obtain ⟨hused, hfree, hmin⟩ := (selectSlot_evicts hslot).resolve_left hne
  have hcard := unpinned_card h
  have hi : i ∈ Finset.univ.filter fun j => ¬pinned (c.operations j) = true :=
    Finset.mem_filter.mpr ⟨Finset.mem_univ i, by rw [hfree]; exact Bool.false_ne_true⟩
  rw [← Finset.card_erase_add_one hi] at hcard
  have hlater := card_le_length ((Finset.univ.filter fun j => ¬pinned (c.operations j) = true).erase i)
    (fun j => (c.operations j).id) post ?_ fun j _ k _ hjk => hrecords.unique j k (hused j) hjk
  · omega
  · intro j hj
    obtain ⟨hji, hj⟩ := Finset.mem_erase.mp hj
    have hunpinned := Bool.eq_false_iff.mpr (Finset.mem_filter.mp hj).2
    have hle := UInt64.le_iff_toNat_le.mp (hmin j hunpinned)
    have hdistinct : (c.operations i).id.toNat ≠ (c.operations j).id.toNat := fun heq =>
      hji (hrecords.unique i j hne (UInt64.toNat_inj.mp heq)).symm
    have hissued : Issued UInt64.toNat c.nextOperationId (pre ++ (c.operations i).id :: post) :=
      hsplit ▸ hrecords.issued
    have hknown : (c.operations j).id ∈ pre ++ (c.operations i).id :: post :=
      hsplit ▸ hrecords.known j (hused j)
    exact hissued.split hknown (by omega)

theorem Retained.step {restartable : Machine → Prop} (h : c.Retained)
    (hr : c.Reachable beforeTeardown) (hs : c.Step restartable c') : c'.Retained := by
  intro pre x post hsplit hlength
  rcases hs.ids with ⟨hreservations, hids⟩ | ⟨i, mutation, hslot, hreservations, hoperations⟩
  · rw [hreservations] at hsplit
    obtain ⟨k, hk⟩ := h pre x post hsplit hlength
    exact ⟨k, (hids k).trans hk⟩
  · rw [hreservations] at hsplit
    rcases List.eq_nil_or_concat post with hnil | ⟨rest, y, hconcat⟩
    · subst hnil
      have hx := (List.append_inj' hsplit rfl).2
      cases hx
      exact ⟨i, by rw [hoperations, Function.update_self]; rfl⟩
    · subst hconcat
      rw [List.concat_eq_append, ← List.cons_append, ← List.append_assoc] at hsplit
      have hbefore := (List.append_inj' hsplit rfl).1
      rw [List.concat_eq_append, List.length_append, List.length_singleton] at hlength
      obtain ⟨k, hk⟩ := h pre x rest hbefore (by omega)
      rcases eq_or_ne k i with rfl | hki
      · exfalso
        have hx : x ∈ c.reservations := by
          rw [hbefore]
          exact List.mem_append_right _ List.mem_cons_self
        have hpositive := (Records.reachable hr).issued.positive x hx
        have hne : (c.operations k).id ≠ 0 := fun hzero => by
          rw [← hk, hzero] at hpositive
          exact absurd hpositive (by decide)
        have hbefore' : c.reservations = pre ++ (c.operations k).id :: rest := by
          rw [hk]
          exact hbefore
        have hlater := not_evicted hr hslot hbefore' hne
        omega
      · exact ⟨k, by rw [hoperations, Function.update_of_ne hki]; exact hk⟩

theorem Retained.reachable (h : c.Reachable beforeTeardown) : c.Retained := by
  obtain ⟨adapterInstance, hrun⟩ := h
  induction hrun with
  | refl =>
    intro pre x post hsplit
    simp at hsplit
  | tail hrun hs ih => exact ih.step ⟨adapterInstance, hrun⟩ hs

end Machine

end WispDisk
