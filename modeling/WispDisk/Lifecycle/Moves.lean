import WispDisk.Lifecycle.Outcomes

/-! How a record changes over a run. `OperationRecord.Move` is one change in place: bound, finished,
deleted. A record that leaves the table never comes back, since no operation ID is issued twice. -/
namespace WispDisk
open ManagementController
set_option autoImplicit false

namespace OperationRecord

/-- One change of a record. -/
inductive Move (r : OperationRecord) : OperationRecord → Prop
  | bound (command : MutationCommand) (hstate : r.state = .reserved)
      (hmutation : r.mutation = command.mutation) : Move r (boundRecord r command)
  | finished (r' : OperationRecord) (hstate : r.state = .pending)
      (hfinal : r'.state = .succeeded ∨ r'.state = .failed) (hid : r'.id = r.id)
      (hmutation : r'.mutation = r.mutation) (hcreate : r'.create = r.create)
      (hdelete : r'.delete = r.delete) : Move r r'
  | deleted (hstate : r.state = .succeeded) (hmutation : r.mutation = wispDiskControlCreateDisk) :
      Move r { r with state := .deleted }

/-- Any number of changes. -/
abbrev Moves : OperationRecord → OperationRecord → Prop := Relation.ReflTransGen Move

variable {r r' : OperationRecord}

theorem Move.id_eq (h : Move r r') : r'.id = r.id := by
  cases h with
  | bound | deleted => rfl
  | finished _ _ _ hid => exact hid

theorem Moves.id_eq (h : Moves r r') : r'.id = r.id := by
  induction h with
  | refl => rfl
  | tail _ hmove ih => exact hmove.id_eq.trans ih

/-- What a settled record keeps. -/
structure Kept (r r' : OperationRecord) : Prop where
  state : r'.state = .succeeded ∨ r'.state = .failed ∨ r'.state = .deleted
  mutation : r'.mutation = r.mutation
  result : r'.result = r.result
  deviceId : r'.deviceId = r.deviceId
  lun : r'.lun = r.lun

theorem Moves.kept (h : Moves r r') (hsettled : r.state = .succeeded ∨ r.state = .failed) :
    Kept r r' := by
  induction h with
  | refl => exact ⟨hsettled.imp_right Or.inl, rfl, rfl, rfl, rfl⟩
  | tail _ hmove ih =>
    cases hmove with
    | bound command hstate =>
      have hkept := ih.state
      rw [hstate] at hkept
      simp at hkept
    | finished _ hstate =>
      have hkept := ih.state
      rw [hstate] at hkept
      simp at hkept
    | deleted hstate hmutation =>
      exact ⟨Or.inr (Or.inr rfl), ih.mutation, ih.result, ih.deviceId, ih.lun⟩

end OperationRecord

open OperationRecord

/-- A record that fails keeps the command it was bound to. -/
theorem Failing.moves {operations operations' : Fin kMaximumOperationCount → OperationRecord}
    {command : MutationCommand} (h : Failing operations command operations')
    (hpending : ∀ i, command.isReserved = true → (operations i).id = command.operationId →
      (operations i).state = .pending) (i : Fin kMaximumOperationCount) :
    Moves (operations i) (operations' i) := by
  cases h with
  | legacy | missing => exact Relation.ReflTransGen.refl
  | failed hkind k hid hzero status hstatus =>
    rcases eq_or_ne i k with rfl | hne
    · rw [Function.update_self]
      exact Relation.ReflTransGen.single
        (Move.finished _ (hpending i hkind hid) (Or.inr rfl) rfl rfl rfl rfl)
    · rw [Function.update_of_ne hne]

theorem markDeleted_moves (deviceId : ULONG) (r : OperationRecord) :
    Moves r (markDeleted deviceId r) := by
  unfold markDeleted
  split
  · rename_i hmatch
    exact Relation.ReflTransGen.single (Move.deleted hmatch.2.2 hmatch.1)
  · exact Relation.ReflTransGen.refl

theorem resolvedRecord_move {r : OperationRecord} (hstate : r.state = .pending)
    (status : NTSTATUS) (created : Option (ULONG × UCHAR)) :
    Move r (resolvedRecord r status created) := by
  refine Move.finished _ hstate ?_ (resolvedRecord_id ..) (resolvedRecord_mutation ..)
    (resolvedRecord_create ..) (resolvedRecord_delete ..)
  rw [resolvedRecord_state]
  split
  · exact Or.inl rfl
  · exact Or.inr rfl

namespace Machine

variable {restartable : Machine → Prop} {c c' : Machine}

/-- A step moves a record, or reserves its slot for a new operation. -/
theorem Step.moves (hs : c.Step restartable c') (h : Records c.log c.task)
    (i : Fin kMaximumOperationCount) : Moves (c.operations i) (c'.operations i) ∨
      c.nextOperationId ≠ 0 ∧
        ∃ mutation, c'.operations i = reservedRecord c.nextOperationId mutation := by
  have hone : ∀ (k : Fin kMaximumOperationCount) (r : OperationRecord), Moves (c.operations k) r →
      Moves (c.operations i) (Function.update c.operations k r i) := fun k r hr => by
    rcases eq_or_ne i k with rfl | hne
    · rw [Function.update_self]
      exact hr
    · rw [Function.update_of_ne hne]
  have hfail : ∀ {command operations}, c.task = some ⟨command, .bound⟩ →
      Failing c.operations command operations → Moves (c.operations i) (operations i) := by
    intro command operations htask hfailing
    refine hfailing.moves (fun k hkind hid => ?_) i
    obtain ⟨j, hj, _⟩ := (h.inFlight command .bound htask).pending hkind rfl
    have hkj : k = j := by
      rw [htask] at h
      exact h.slot_eq hj hid
    rw [hkj]
    exact hj.state
  cases hs with
  | reserved k mutation hmutation hopen hnext hslot =>
    rcases eq_or_ne i k with rfl | hne
    · exact Or.inr ⟨hnext, mutation, Function.update_self ..⟩
    · simp only [Function.update_of_ne hne]
      exact Or.inl Relation.ReflTransGen.refl
  | admittedReserved command k hopen hidle hkind hvalid hinstance hid hzero hmutation hstate =>
    exact Or.inl (hone k _ (Relation.ReflTransGen.single (Move.bound command hstate hmutation)))
  | queueFailed command htask operations hfailing
  | rejected command htask hkind operations hfailing => exact Or.inl (hfail htask hfailing)
  | published command snapshot correlation status created k htask hid hzero =>
    rw [htask] at h
    have hsnapshot : snapshot = c.operations k := (h.publish rfl hid hzero status created).1
    subst hsnapshot
    obtain ⟨j, _, _, hj, hpending⟩ := h.pending_of_work rfl rfl
    have hjk : j = k := (h.unique k j hzero hj.symm).symm
    subst hjk
    exact Or.inl (hone j _
      (Relation.ReflTransGen.single (resolvedRecord_move hpending status created)))
  | workerFinalized | teardownFinalized => exact Or.inl (markDeleted_moves _ _)
  | workerDrained command work l stage next d htask hdrain =>
    cases hdrain <;> exact Or.inl Relation.ReflTransGen.refl
  | teardownDrained l stage next d hclosing hdrain =>
    cases hdrain <;> exact Or.inl Relation.ReflTransGen.refl
  | _ => exact Or.inl Relation.ReflTransGen.refl

/-- The record of an operation is where it was, or in no slot. -/
def Followed (r : OperationRecord) (i : Fin kMaximumOperationCount) (c : Machine) : Prop :=
  Moves r (c.operations i) ∨ ∀ j, (c.operations j).id ≠ r.id

theorem Followed.step {r : OperationRecord} {i : Fin kMaximumOperationCount}
    (hknown : r.id ∈ c.reservations) (h : Followed r i c) (hrecords : Records c.log c.task)
    (hs : c.Step restartable c') : Followed r i c' := by
  have hzero : r.id ≠ 0 := fun heq => by
    have hpositive := hrecords.issued.positive _ hknown
    rw [heq] at hpositive
    exact absurd hpositive (by decide)
  have hfresh : c.nextOperationId ≠ 0 → c.nextOperationId ≠ r.id := fun hnext heq => by
    rw [← heq] at hknown
    exact hrecords.next_unknown hnext hknown
  rcases h with hmoves | hgone
  · rcases hs.moves hrecords i with hmove | ⟨hnext, mutation, hreserved⟩
    · exact Or.inl (hmoves.trans hmove)
    · refine Or.inr fun j hj => ?_
      -- the reservation took the slot of the record itself
      have hij : i = j := by
        rcases hs.moves hrecords j with hmove | ⟨_, mutation', hreserved'⟩
        · have hid : (c.operations j).id = r.id := hmove.id_eq.symm.trans hj
          exact hrecords.unique i j (hmoves.id_eq ▸ hzero) (hmoves.id_eq.trans hid.symm)
        · rw [hreserved'] at hj
          exact absurd hj (hfresh hnext)
      rw [← hij, hreserved] at hj
      exact hfresh hnext hj
  · refine Or.inr fun j hj => ?_
    rcases hs.moves hrecords j with hmove | ⟨hnext, mutation, hreserved⟩
    · exact hgone j (hmove.id_eq.symm.trans hj)
    · rw [hreserved] at hj
      exact hfresh hnext hj

theorem Step.reservations_grow (hs : c.Step restartable c') {x : ULONGLONG}
    (hx : x ∈ c.reservations) : x ∈ c'.reservations := by
  cases hs with
  | reserved => exact List.mem_append_left _ hx
  | workerDrained command work l stage next d htask hdrain => cases hdrain <;> exact hx
  | teardownDrained l stage next d hclosing hdrain => cases hdrain <;> exact hx
  | _ => exact hx

/-- Over a run a record moves in its slot, or leaves the table for good. -/
theorem Followed.run (hr : c.Reachable restartable)
    (hrun : Relation.ReflTransGen (Step restartable) c c') {i : Fin kMaximumOperationCount}
    (hid : (c.operations i).id ≠ 0) : Followed (c.operations i) i c' := by
  have hknown : (c.operations i).id ∈ c.reservations := (Records.reachable hr).known i hid
  have hall : Followed (c.operations i) i c' ∧ (c.operations i).id ∈ c'.reservations := by
    induction hrun with
    | refl => exact ⟨Or.inl Relation.ReflTransGen.refl, hknown⟩
    | tail hrun hs ih =>
      obtain ⟨adapterInstance, hinit⟩ := hr
      exact ⟨ih.1.step ih.2 (Records.reachable ⟨adapterInstance, hinit.trans hrun⟩) hs,
        hs.reservations_grow ih.2⟩
  exact hall.1

end Machine

end WispDisk
