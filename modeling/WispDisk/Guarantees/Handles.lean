import WispDisk.Driver.Instances
import WispDisk.Guarantees.Schedules
import WispDisk.Lifecycle.Retention
import WispDisk.Lifecycle.Simulation

/-! Operation handles. The compare-exchange loop of `Initialize` hands out increasing instance
numbers and each adapter increasing operation IDs, so no pair is returned twice; a pair that has
left the table is refused for good. -/
namespace WispDisk
open ControlDispatch Identifiers Layout ManagementController Transition
set_option autoImplicit false

/-! ## Refusals -/

/-- A request for a handle is answered with an error, and nothing else happens. -/
def Refused (ext : AdapterExtension) (control : ControlRequest) (outcome : Outcome) : Prop :=
  ∃ status correlation, ntSuccess status = false ∧
    outcome = .complete ext
      (control.writeError control.ioControl.controlCode status correlation)

/-- No record of the table answers to a handle. -/
def AdapterExtension.Unknown (ext : AdapterExtension) (adapterInstance operation : ULONGLONG) :
    Prop :=
  adapterInstance ≠ ext.adapterInstance ∨ ∀ i, (ext.operations i).id ≠ operation

section Refusals

variable {ext : AdapterExtension} {control : ControlRequest}

theorem readOperationRequest_refused {Request : Type} {control' : ControlRequest} {size : ULONG}
    {read : Bytes → ℕ → Request} {initial : Request}
    (h : readOperationRequest control size read initial = .error control') :
    Refused ext control (.complete ext control') := by
  unfold readOperationRequest at h
  simp only at h
  split at h
  · split at h
    · rename_i hstatus
      cases h
      exact ⟨_, _, by rwa [Bool.not_eq_true'] at hstatus, rfl⟩
    · cases h
  · split at h
    · rename_i hstatus
      cases h
      exact ⟨_, _, by rwa [Bool.not_eq_true'] at hstatus, rfl⟩
    · cases h

theorem queryOperation_unknown {adapterInstance operation : ULONGLONG}
    (h : ext.Unknown adapterInstance operation) :
    queryOperation ext adapterInstance operation = .error statusNotFound := by
  unfold queryOperation
  cases hfind : findOperationLocked ext operation with
  | none => rfl
  | some i =>
    have hid := (findOperationLocked_some hfind).1
    rcases h with hinstance | hnone
    · simp only [if_pos hinstance]
    · exact absurd hid (hnone i)

theorem handleQueryOperation_refused
    (hcode : control.ioControl.controlCode = wispDiskControlQueryOperation)
    (h : ext.Unknown (OperationRequest.read control.payload 0).adapterInstance
      (OperationRequest.read control.payload 0).operationId) :
    Refused ext control (handleQueryOperation ext control) := by
  unfold handleQueryOperation
  split
  · rename_i hread
    exact readOperationRequest_refused hread
  · rename_i request header hread
    rw [readOperationRequest_ok hread, queryOperation_unknown h, ← hcode]
    exact ⟨statusNotFound, _, ntSuccess_notFound, rfl⟩

/-- A reserved command for an unknown handle is not admitted and leaves the adapter as it is. -/
theorem submit_refused {command : MutationCommand} (now : LONGLONG)
    (hidle : ext.managementIdleEvent = !ext.managementBusy) (hkind : command.isReserved = true)
    (hcode : control.ioControl.controlCode = command.operation.code)
    (h : ext.Unknown command.identity.adapterInstance command.identity.operationId) :
    Refused ext control (submit ext control command now) := by
  have hspec := prepareSubmission_spec ext control command now
  unfold submit
  generalize prepareSubmission ext control command now = prepared at hspec
  have hnot : ∀ i, command.identity.adapterInstance = ext.adapterInstance →
      (ext.operations i).id ≠ command.identity.operationId := by
    intro i hinstance
    exact h.resolve_left (not_not.mpr hinstance) i
  cases hspec with
  | refused status hstatus =>
    refine ⟨status, command.correlationId, ?_, by rw [hcode]⟩
    rcases hstatus with ⟨rfl, _⟩ | ⟨rfl, _⟩
    · exact ntSuccess_deviceNotReady
    · exact ntSuccess_deviceBusy
  | unbound status hopen hbusy _ hstatus =>
    have hsame : endManagementLocked (begun ext) = ext := by
      rw [hbusy] at hidle
      cases ext
      simp only [endManagementLocked, begun] at hbusy hidle ⊢
      rw [hbusy, hidle]
      rfl
    refine ⟨status, command.correlationId, ?_, by rw [hsame, hcode]⟩
    rcases hstatus with ⟨rfl, _⟩ | ⟨rfl, _⟩
    · exact ntSuccess_notFound
    · exact ntSuccess_invalidParameter
  | replayed i _ _ _ hinstance hid => exact absurd hid (hnot i hinstance)
  | legacy _ _ hlegacy =>
    rw [hkind] at hlegacy
    cases hlegacy
  | bound i _ _ _ hinstance hid => exact absurd hid (hnot i hinstance)

theorem handleReservedCreateControl_refused (now : LONGLONG)
    (hidle : ext.managementIdleEvent = !ext.managementBusy)
    (hcode : control.ioControl.controlCode = wispDiskControlCreateReserved)
    (h : ext.Unknown (OperationRequest.read control.payload 0).adapterInstance
      (OperationRequest.read control.payload 0).operationId) :
    Refused ext control (handleReservedCreateControl ext control now) := by
  unfold handleReservedCreateControl
  split
  · rename_i hread
    exact readOperationRequest_refused hread
  · rename_i request header hread
    rw [readOperationRequest_ok hread]
    simp only
    split
    · rename_i hstatus
      exact ⟨_, _, by rwa [Bool.not_eq_true'] at hstatus, by rw [hcode]⟩
    · exact submit_refused now hidle rfl hcode h

theorem handleReservedDeleteControl_refused (now : LONGLONG)
    (hidle : ext.managementIdleEvent = !ext.managementBusy)
    (hcode : control.ioControl.controlCode = wispDiskControlDeleteReserved)
    (h : ext.Unknown (OperationRequest.read control.payload 0).adapterInstance
      (OperationRequest.read control.payload 0).operationId) :
    Refused ext control (handleReservedDeleteControl ext control now) := by
  unfold handleReservedDeleteControl
  split
  · rename_i hread
    exact readOperationRequest_refused hread
  · rename_i request header hread
    rw [readOperationRequest_ok hread]
    simp only
    split
    · rename_i hstatus
      exact ⟨_, _, by rwa [Bool.not_eq_true'] at hstatus, by rw [hcode]⟩
    · exact submit_refused now hidle rfl hcode h

/-- The requests that name a handle. -/
def namesHandle (code : ULONG) : Bool :=
  code = wispDiskControlQueryOperation ∨ code = wispDiskControlCreateReserved ∨
    code = wispDiskControlDeleteReserved

theorem dispatchControlRequest_refused (now : LONGLONG)
    (hidle : ext.managementIdleEvent = !ext.managementBusy)
    (hcode : namesHandle control.ioControl.controlCode = true)
    (h : ext.Unknown (OperationRequest.read control.payload 0).adapterInstance
      (OperationRequest.read control.payload 0).operationId) :
    Refused ext control (dispatchControlRequest ext control now) := by
  unfold dispatchControlRequest
  simp only
  rcases of_decide_eq_true hcode with hquery | hcreate | hdelete
  · rw [hquery, if_neg (by decide), if_neg (by decide), if_pos rfl]
    exact handleQueryOperation_refused hquery h
  · rw [hcreate, if_neg (by decide), if_neg (by decide), if_neg (by decide), if_neg (by decide),
      if_pos rfl]
    exact handleReservedCreateControl_refused now hidle hcreate h
  · rw [hdelete, if_neg (by decide), if_neg (by decide), if_neg (by decide), if_neg (by decide),
      if_neg (by decide), if_pos rfl]
    exact handleReservedDeleteControl_refused now hidle hdelete h

end Refusals

/-! ## Evicted operations -/

namespace Machine

variable {restartable : Machine → Prop} {c c' : Machine} {x : ULONGLONG}

/-- An operation that was reserved and has left the table. -/
def Evicted (c : Machine) (x : ULONGLONG) : Prop :=
  x ∈ c.reservations ∧ ∀ i, (c.operations i).id ≠ x

theorem Step.adapterInstance (hs : c.Step restartable c') :
    c'.adapterInstance = c.adapterInstance := by
  cases hs with
  | workerDrained command work l stage next d htask hdrain => cases hdrain <;> rfl
  | teardownDrained l stage next d hclosing hdrain => cases hdrain <;> rfl
  | _ => rfl

/-- Its ID is not handed out again, so it stays away. -/
theorem Evicted.step (h : c.Evicted x) (hrecords : Records c.log c.task)
    (hs : c.Step restartable c') : c'.Evicted x := by
  obtain ⟨hmem, hnone⟩ := h
  rcases hs.ids with ⟨hreservations, hids⟩ | ⟨k, mutation, _, hreservations, hoperations⟩
  · rw [Evicted, hreservations]
    exact ⟨hmem, fun i heq => hnone i ((hids i).symm.trans heq)⟩
  · rw [Evicted, hreservations, hoperations]
    refine ⟨List.mem_append_left _ hmem, fun i => ?_⟩
    by_cases hi : i = k
    · rw [hi, Function.update_self]
      intro heq
      have hnext : c.nextOperationId = x := heq
      have hissued : Issued UInt64.toNat c.nextOperationId c.reservations := hrecords.issued
      have hpositive := hissued.positive x hmem
      have hfresh := hissued.fresh (by rw [hnext]; omega)
      rw [hnext] at hfresh
      exact hfresh hmem
    · rw [Function.update_of_ne hi]
      exact hnone i

theorem Evicted.run (h : c.Evicted x) (hr : c.Reachable restartable)
    (hrun : Relation.ReflTransGen (Step restartable) c c') : c'.Evicted x := by
  obtain ⟨adapterInstance, hinit⟩ := hr
  induction hrun with
  | refl => exact h
  | tail hrun hs ih => exact ih.step (Records.reachable ⟨adapterInstance, hinit.trans hrun⟩) hs

theorem adapterInstance_run (hrun : Relation.ReflTransGen (Step restartable) c c') :
    c'.adapterInstance = c.adapterInstance := by
  induction hrun with
  | refl => rfl
  | tail _ hs ih => exact hs.adapterInstance.trans ih

end Machine

/-! ## Instance numbers -/

theorem toNat_toUInt64 {x : LONG64} (h : 0 ≤ x.toInt) : (x.toUInt64.toNat : ℤ) = x.toInt := by
  have hle : 0 ≤ x := Int64.le_iff_toInt_le.mpr h
  rw [Int64.toNat_toUInt64_of_le hle, Int64.cast_toNatClampNeg x hle]

/-- A round chooses a later instance than the one it has read. -/
theorem chosenInstance_later (instanceTime : LONG64) {previous : LONG64}
    (hpositive : 0 ≤ previous.toInt) (hlimit : previous.toInt < 2 ^ 63 - 1) :
    previous.toInt < (chosenInstance instanceTime previous).toInt := by
  unfold chosenInstance
  split
  · rename_i hlt
    exact Int64.lt_iff_toInt_lt.mp hlt
  · have hone : (1 : Int64).toInt = 1 := rfl
    rw [Int64.toInt_add, hone, Int.bmod_def]
    omega

namespace Driver

/-- Every adapter is one that runs from its initialization, and `lastInstance` is the largest
instance number so far. -/
structure Numbered (d : Driver) : Prop where
  positive : 0 ≤ d.lastInstance.toInt
  reached : ∀ a ∈ d.adapters, Reachable Adapter.system anyAction a
  below : ∀ a ∈ d.adapters, 0 < a.extension.adapterInstance.toNat ∧
    (a.extension.adapterInstance.toNat : ℤ) ≤ d.lastInstance.toInt
  ordered : d.adapters.Pairwise fun a b =>
    a.extension.adapterInstance.toNat < b.extension.adapterInstance.toNat

theorem adapter_instance {a b : Adapter} (ha : Reachable Adapter.system anyAction a)
    (hp : Steps Adapter.system anyAction a b) :
    b.extension.adapterInstance = a.extension.adapterInstance :=
  Machine.adapterInstance_run (Adapter.path_anywhere ha hp)

namespace Numbered

variable {d e : Driver}

theorem exchange (h : d.Numbered) (i : ℕ) {instanceTime previous : LONG64}
    (hlimit : previous.toInt < 2 ^ 63 - 1) (granted dbg : Bool) (contents : Allocation → Bytes) :
    (d.exchange i instanceTime previous granted dbg contents).Numbered := by
  unfold Driver.exchange
  simp only
  split
  · rename_i hsame
    subst hsame
    have hlater := chosenInstance_later instanceTime h.positive hlimit
    have hpositive := h.positive
    generalize chosenInstance instanceTime d.lastInstance = chosen at hlater
    have hvalue : (chosen.toUInt64.toNat : ℤ) = chosen.toInt := toNat_toUInt64 (by omega)
    cases granted with
    | false =>
      refine ⟨by simp only; omega, h.reached, fun a ha => ?_, h.ordered⟩
      have hbelow := h.below a ha
      exact ⟨hbelow.1, by simp only; omega⟩
    | true =>
      refine ⟨by simp only; omega, fun a ha => ?_, fun a ha => ?_, ?_⟩
      · rcases List.mem_append.mp ha with hold | hnew
        · exact h.reached a hold
        · rw [List.mem_singleton.mp hnew]
          exact Reachable.initial ⟨chosen.toUInt64, dbg, contents, rfl⟩
      · rcases List.mem_append.mp ha with hold | hnew
        · have hbelow := h.below a hold
          exact ⟨hbelow.1, by simp only; omega⟩
        · rw [List.mem_singleton.mp hnew]
          show 0 < chosen.toUInt64.toNat ∧ (chosen.toUInt64.toNat : ℤ) ≤ chosen.toInt
          omega
      · refine List.pairwise_append.mpr ⟨h.ordered, List.pairwise_singleton _ _, ?_⟩
        intro a ha b hb
        rw [List.mem_singleton.mp hb]
        have hbelow := h.below a ha
        show a.extension.adapterInstance.toNat < chosen.toUInt64.toNat
        omega
  · exact ⟨h.positive, h.reached, h.below, h.ordered⟩

theorem adapter (h : d.Numbered) {i : ℕ} {a b : Adapter} {action : Action}
    (ha : d.adapters[i]? = some a) (hs : a.step action = some b) :
    Numbered { d with adapters := d.adapters.set i b } := by
  have hreach := h.reached a (List.mem_of_getElem? ha)
  have hsame : b.extension.adapterInstance = a.extension.adapterInstance :=
    adapter_instance hreach (Steps.single trivial hs)
  obtain ⟨hi, hget⟩ := List.getElem?_eq_some_iff.mp ha
  have hnumbers : ∀ j (hj : j < (d.adapters.set i b).length) (hj' : j < d.adapters.length),
      (d.adapters.set i b)[j].extension.adapterInstance =
        d.adapters[j].extension.adapterInstance := by
    intro j hj hj'
    rw [List.getElem_set]
    split
    · rename_i heq
      subst heq
      rw [hsame, hget]
    · rfl
  refine ⟨h.positive, fun x hx => ?_, fun x hx => ?_, ?_⟩
  · rcases List.mem_or_eq_of_mem_set hx with hold | rfl
    · exact h.reached x hold
    · exact hreach.step trivial hs
  · rcases List.mem_or_eq_of_mem_set hx with hold | rfl
    · exact h.below x hold
    · rw [hsame]
      exact h.below a (List.mem_of_getElem? ha)
  · refine List.pairwise_iff_getElem.mpr fun j k hj hk hjk => ?_
    have hlength : (d.adapters.set i b).length = d.adapters.length := List.length_set
    rw [hnumbers j hj (hlength ▸ hj), hnumbers k hk (hlength ▸ hk)]
    exact List.pairwise_iff_getElem.mp h.ordered j k _ _ hjk

theorem step {action : DriverAction} (h : d.Numbered) (hallowed : belowLimit d action)
    (hs : Driver.step d action = some e) : e.Numbered := by
  cases action with
  | findAdapter instanceTime =>
    cases hs
    exact ⟨h.positive, h.reached, h.below, h.ordered⟩
  | select i granted dbg contents =>
    simp only [Driver.step] at hs
    split at hs
    · cases hs
      exact ⟨h.positive, h.reached, h.below, h.ordered⟩
    · rename_i instanceTime previous hselection
      cases hs
      exact h.exchange i (hallowed i granted dbg contents instanceTime previous rfl hselection)
        granted dbg contents
    · cases hs
  | adapter i action =>
    simp only [Driver.step] at hs
    split at hs
    · rename_i a ha
      split at hs
      · rename_i b hb
        cases hs
        exact h.adapter ha hb
      · cases hs
    · cases hs

theorem reachable (h : Reachable system belowLimit d) : d.Numbered := by
  induction h with
  | initial h =>
    cases h
    refine ⟨le_refl 0, ?_, ?_, List.Pairwise.nil⟩
    · intro a ha
      cases ha
    · intro a ha
      cases ha
  | step _ ha hs ih => exact ih.step ha hs

end Numbered

/-- An adapter of the driver runs on as an adapter. -/
theorem adapters_run {d e : Driver} (hp : Steps system belowLimit d e) {i : ℕ} {a : Adapter}
    (ha : d.adapters[i]? = some a) :
    ∃ b, e.adapters[i]? = some b ∧ Steps Adapter.system anyAction a b := by
  induction hp with
  | refl => exact ⟨a, ha, Steps.refl a⟩
  | @step e f action _ _ hs ih =>
    obtain ⟨b, hb, hpath⟩ := ih
    have hi : i < e.adapters.length := (List.getElem?_eq_some_iff.mp hb).1
    cases action with
    | findAdapter instanceTime =>
      cases hs
      exact ⟨b, hb, hpath⟩
    | select k granted dbg contents =>
      simp only [system, Driver.step] at hs
      split at hs
      · cases hs
        exact ⟨b, hb, hpath⟩
      · cases hs
        refine ⟨b, ?_, hpath⟩
        unfold Driver.exchange
        simp only
        split
        · cases granted with
          | false => exact hb
          | true =>
            simp only [if_true]
            rw [List.getElem?_append_left hi]
            exact hb
        · exact hb
      · cases hs
    | adapter k action =>
      simp only [system, Driver.step] at hs
      split at hs
      · rename_i c hc
        split at hs
        · rename_i c' hc'
          cases hs
          by_cases hk : k = i
          · subst hk
            have hcb : c = b := Option.some.inj (hc.symm.trans hb)
            subst hcb
            exact ⟨c', List.getElem?_set_self hi, Steps.step hpath trivial hc'⟩
          · refine ⟨b, ?_, hpath⟩
            simp only
            rw [List.getElem?_set_ne hk]
            exact hb
        · cases hs
      · cases hs

end Driver

/-! ## Uniqueness -/

theorem writeError_srbStatus (control : ControlRequest) (operation : ULONG) (status : NTSTATUS)
    (correlation : ULONGLONG) :
    (control.writeError operation status correlation).srb.srbStatus = srbStatusSuccess := by
  unfold ControlRequest.writeError ControlRequest.writeResponse
  split
  · split <;> rfl
  · rfl

/-- `HwStartIo` answers every request for a handle with an error, and does nothing else. -/
def Adapter.Refuses (b : Adapter) (adapterInstance operation : ULONGLONG) : Prop :=
  ∀ srb control now, srb.function = srbFunctionIoControl → ControlRequest.fromSrb srb = some control →
    namesHandle control.ioControl.controlCode = true →
    (OperationRequest.read control.payload 0).adapterInstance = adapterInstance →
    (OperationRequest.read control.payload 0).operationId = operation →
    ∃ status correlation, ntSuccess status = false ∧ b.startIo srb now =
      { b with
        nextSrb := b.nextSrb + 1
        returned := b.returned ++ [{
          id := b.nextSrb
          srb := (control.writeError control.ioControl.controlCode status correlation).toSrb
          status := srbStatusSuccess }] }

theorem Adapter.refuses_unknown {b : Adapter} (hgate : b.Gate) {adapterInstance operation : ULONGLONG}
    (h : b.extension.Unknown adapterInstance operation) :
    b.Refuses adapterInstance operation := by
  intro srb control now hfunction hcontrol hcode hinstance hoperation
  have hunknown : b.extension.Unknown (OperationRequest.read control.payload 0).adapterInstance
      (OperationRequest.read control.payload 0).operationId := by
    rw [hinstance, hoperation]
    exact h
  obtain ⟨status, correlation, hstatus, houtcome⟩ :=
    dispatchControlRequest_refused now hgate.idle hcode hunknown
  refine ⟨status, correlation, hstatus, ?_⟩
  have hhandled : handleIoControl b.extension srb now = .complete b.extension
      (control.writeError control.ioControl.controlCode status correlation).toSrb := by
    unfold handleIoControl
    simp only [hcontrol, houtcome]
  have hsuccess : controlStatus
      (control.writeError control.ioControl.controlCode status correlation).toSrb =
        srbStatusSuccess := by
    have hne : srbStatusSuccess ≠ srbStatusPending := by decide
    unfold controlStatus ControlRequest.toSrb
    simp only [writeError_srbStatus, if_neg hne]
  unfold startIo startIoControl
  simp only [if_pos hfunction, hhandled, hsuccess]
  simp [giveBack, reservationOf]

/-- Handles on a run of the driver from `d` to `e`. -/
structure UniqueHandles (d e : Driver) : Prop where
  distinct : e.handles.Nodup
  nonzero : ∀ handle ∈ e.handles, handle.1 ≠ 0 ∧ handle.2 ≠ 0
  /-- `ReserveOperation` returns a new pair, and `handles` logs it. -/
  returned : ∀ a ∈ e.adapters, ∀ mutation ext result,
    reserveOperation a.extension mutation = .ok (ext, result) →
      (result.adapterInstance, result.operationId) ∉ e.handles ∧
        result.adapterInstance = a.extension.adapterInstance ∧ result.adapterInstance ≠ 0 ∧
          result.operationId ≠ 0 ∧ Adapter.reservationOf a.extension ext = [result.operationId]
  /-- A pair of another adapter, or whose record was evicted, is refused from then on. -/
  refused : ∀ (i : ℕ) a, d.adapters[i]? = some a → ∀ adapterInstance operation,
    (adapterInstance ≠ a.extension.adapterInstance ∨ operation ∈ a.history.reservations ∧
      ∀ j, (a.extension.operations j).id ≠ operation) →
        ∃ b, e.adapters[i]? = some b ∧ b.Refuses adapterInstance operation

namespace Driver

theorem Numbered.same {d : Driver} (h : d.Numbered) {a b : Adapter} (ha : a ∈ d.adapters)
    (hb : b ∈ d.adapters)
    (heq : a.extension.adapterInstance = b.extension.adapterInstance) : a = b := by
  obtain ⟨j, hj, rfl⟩ := List.mem_iff_getElem.mp ha
  obtain ⟨k, hk, rfl⟩ := List.mem_iff_getElem.mp hb
  have hordered := List.pairwise_iff_getElem.mp h.ordered
  have hjk : j = k := by
    by_contra hne
    rcases Nat.lt_or_gt_of_ne hne with hlt | hlt
    · have hless := hordered j k hj hk hlt
      rw [heq] at hless
      omega
    · have hless := hordered k j hk hj hlt
      rw [heq] at hless
      omega
  subst hjk
  rfl

theorem issued {a : Adapter} (h : Reachable Adapter.system anyAction a) :
    Issued UInt64.toNat a.extension.nextOperationId a.history.reservations :=
  (Records.reachable (Adapter.reachable_anywhere h)).issued

theorem Numbered.handles_nodup {d : Driver} (h : d.Numbered) : d.handles.Nodup := by
  unfold handles
  rw [List.nodup_flatMap]
  refine ⟨fun a ha => ?_, ?_⟩
  · refine (issued (h.reached a ha)).nodup.map fun x y hxy => ?_
    exact (Prod.mk.inj hxy).2
  · refine h.ordered.imp fun {a b} hlt => ?_
    show List.Disjoint _ _
    intro handle hfirst hsecond
    obtain ⟨x, _, rfl⟩ := List.mem_map.mp hfirst
    obtain ⟨y, _, hy⟩ := List.mem_map.mp hsecond
    have hsame := (Prod.mk.inj hy).1
    rw [hsame] at hlt
    omega

/-- Handles are unique on every run of the driver, for every order of the loops of `Initialize`. -/
theorem handles_unique (d e : Driver) (hd : Reachable system belowLimit d)
    (hp : Steps system belowLimit d e) : UniqueHandles d e := by
  have hnumbered : e.Numbered := Numbered.reachable (hd.path hp)
  have hzero : ∀ a ∈ e.adapters, a.extension.adapterInstance ≠ 0 := by
    intro a ha heq
    have hpositive := (hnumbered.below a ha).1
    rw [heq] at hpositive
    exact absurd hpositive (by decide)
  refine ⟨hnumbered.handles_nodup, fun handle hhandle => ?_,
    fun a ha mutation ext result hreserve => ?_, fun i a ha adapterInstance operation hpair => ?_⟩
  · obtain ⟨a, ha, hmem⟩ := List.mem_flatMap.mp hhandle
    obtain ⟨operation, hoperation, rfl⟩ := List.mem_map.mp hmem
    refine ⟨hzero a ha, fun heq => ?_⟩
    have hpositive := (issued (hnumbered.reached a ha)).positive operation hoperation
    rw [show operation = 0 from heq] at hpositive
    exact absurd hpositive (by decide)
  · obtain ⟨_, _, hnext, rfl, slot, _, rfl⟩ := reserveOperation_ok hreserve
    have hissued := issued (hnumbered.reached a ha)
    have hvalue : a.extension.nextOperationId.toNat ≠ 0 := fun heq =>
      hnext (UInt64.toNat_inj.mp heq)
    refine ⟨fun hmem => ?_, rfl, hzero a ha, hnext, ?_⟩
    · obtain ⟨b, hb, hpair⟩ := List.mem_flatMap.mp hmem
      obtain ⟨operation, hoperation, heq⟩ := List.mem_map.mp hpair
      have hsame : b = a := hnumbered.same hb ha (Prod.mk.inj heq).1
      have hid : operation = a.extension.nextOperationId := (Prod.mk.inj heq).2
      subst hsame
      rw [hid] at hoperation
      exact hissued.fresh hvalue hoperation
    · have hne : a.extension.nextOperationId ≠ a.extension.nextOperationId + 1 := by
        intro heq
        have hsucc := toNat_succ_uint64 a.extension.nextOperationId
        rw [← heq] at hsucc
        omega
      show (if a.extension.nextOperationId = a.extension.nextOperationId + 1 then []
        else [a.extension.nextOperationId]) = [a.extension.nextOperationId]
      rw [if_neg hne]
  · obtain ⟨b, hb, hrun⟩ := adapters_run hp ha
    have hreach := (Numbered.reachable hd).reached a (List.mem_of_getElem? ha)
    have hmachine := Adapter.path_anywhere hreach hrun
    refine ⟨b, hb, Adapter.refuses_unknown (Adapter.Gate.reachable (hreach.path hrun)) ?_⟩
    rcases hpair with hinstance | hevicted
    · exact Or.inl fun heq => hinstance (heq.trans (adapter_instance hreach hrun))
    · have hgone : b.machine.Evicted operation :=
        Machine.Evicted.run (show a.machine.Evicted operation from hevicted)
          (Adapter.reachable_anywhere hreach) hmachine
      exact Or.inr hgone.2

/-! ## Two adapters at one time -/

def limitCheck (d : Driver) : DriverAction → Bool
  | .select i _ _ _ =>
    match d.selecting[i]? with
    | some (.exchange _ previous) => previous.toInt < 2 ^ 63 - 1
    | _ => true
  | _ => true

theorem belowLimit_of_check (d : Driver) (action : DriverAction)
    (h : limitCheck d action = true) : belowLimit d action := by
  intro i granted dbg contents instanceTime previous haction hselection
  subst haction
  simp only [limitCheck, hselection] at h
  exact of_decide_eq_true h

/-- Both calls of `Initialize` read the same clock and the same `lastInstance`; the second exchange
fails once. -/
def twoAdapters : List DriverAction :=
  let select (i : ℕ) : DriverAction := .select i true false fun _ _ => 0
  [.findAdapter 5, .findAdapter 5, select 0, select 1, select 0, select 0, select 0, select 0]

def reservations : List DriverAction :=
  [.adapter 0 (.startIo (reserveSrb wispDiskControlCreateDisk) 0),
    .adapter 1 (.startIo (reserveSrb wispDiskControlCreateDisk) 0)]

def afterRun (d : Driver) (actions : List DriverAction) : Driver := (run system d actions).getD d

theorem steps_afterRun {d : Driver} {actions : List DriverAction}
    (h : (run system d actions).isSome = true)
    (hlimit : checked system limitCheck d actions = true) :
    Steps system belowLimit d (d.afterRun actions) := by
  obtain ⟨e, he⟩ := Option.isSome_iff_exists.mp h
  have hafter : d.afterRun actions = e := by
    rw [afterRun, he]
    rfl
  rw [hafter]
  exact path_of_run he (Obeys.of_checked belowLimit_of_check hlimit)

theorem handles_unique_raced :
    UniqueHandles (afterRun {} twoAdapters) ((afterRun {} twoAdapters).afterRun reservations) :=
  handles_unique _ _
    ((Reachable.initial rfl).path (steps_afterRun (by decide +kernel) (by decide +kernel)))
    (steps_afterRun (by decide +kernel) (by decide +kernel))

example : ((afterRun {} twoAdapters).afterRun reservations).handles = [(5, 1), (6, 1)] := by
  decide +kernel

end Driver

end WispDisk
