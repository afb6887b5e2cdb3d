import WispDisk.Lifecycle.Confinement

/-! A run commutes with replacing the bytes of one SRB's data buffer behind the envelope's `Length`
(`Confined.run_withTail`): neither a handler nor the worker reads or writes them. -/
namespace WispDisk
open Layout ControlDispatch ManagementController Transition
set_option autoImplicit false

def Submission.withTail (id n : ℕ) (tail : Bytes) (s : Submission) : Submission :=
  if s.id = id then { s with control := s.control.withTail n tail } else s

def Returned.withTail (id n : ℕ) (tail : Bytes) (r : Returned) : Returned :=
  if r.id = id then { r with srb := r.srb.withTail n tail } else r

/-- A completed SRB over the other tail. -/
def completionWithTail (id n : ℕ) (tail : Bytes) (completion : ℕ × ScsiRequestBlock) :
    ℕ × ScsiRequestBlock :=
  if completion.1 = id then (completion.1, completion.2.withTail n tail) else completion

namespace Adapter

/-- The adapter with other bytes behind the first `n` of the SRB `id`. -/
def withTail (id n : ℕ) (tail : Bytes) (a : Adapter) : Adapter :=
  { a with
    submissions := a.submissions.map (Submission.withTail id n tail)
    returned := a.returned.map (Returned.withTail id n tail)
    history := { a.history with
      completions := a.history.completions.map (completionWithTail id n tail) } }

variable {id n : ℕ} (tail : Bytes)

theorem withTail_submission {s : Submission} (h : s.id = id) :
    s.withTail id n tail = { s with control := s.control.withTail n tail } := if_pos h

theorem withTail_other {s : Submission} (h : s.id ≠ id) : s.withTail id n tail = s := if_neg h

theorem withTail_giveBack (a : Adapter) (srb : ScsiRequestBlock) (status : UCHAR) :
    (a.withTail id n tail).giveBack id (srb.withTail n tail) status =
      (a.giveBack id srb status).withTail id n tail := by
  unfold giveBack withTail
  simp only [List.map_append, List.map_cons, List.map_nil, Returned.withTail, if_true]

theorem withTail_giveBack_other (a : Adapter) {id' : ℕ} (h : id' ≠ id) (srb : ScsiRequestBlock)
    (status : UCHAR) :
    (a.withTail id n tail).giveBack id' srb status =
      (a.giveBack id' srb status).withTail id n tail := by
  unfold giveBack withTail
  simp only [List.map_append, List.map_cons, List.map_nil, Returned.withTail, if_neg h]

theorem withTail_complete (a : Adapter) (srb : ScsiRequestBlock) :
    (a.withTail id n tail).complete id (srb.withTail n tail) =
      (a.complete id srb).withTail id n tail := by
  unfold complete withTail
  simp only [List.map_append, List.map_cons, List.map_nil, completionWithTail, if_true]

theorem withTail_complete_other (a : Adapter) {id' : ℕ} (h : id' ≠ id) (srb : ScsiRequestBlock) :
    (a.withTail id n tail).complete id' srb = (a.complete id' srb).withTail id n tail := by
  unfold complete withTail
  simp only [List.map_append, List.map_cons, List.map_nil, completionWithTail, if_neg h]

/-! ## Steps of a submission -/

theorem withTail_failTransport (fault : Mode) (control : ControlRequest) :
    failTransport fault (control.withTail n tail) = (failTransport fault control).withTail n tail := by
  have henvelope : (control.withTail n tail).ioControl = control.ioControl := rfl
  unfold failTransport
  rw [henvelope]
  split <;> rfl

/-- The metadata is read from a response that `Length` covers. -/
theorem withTail_metadata {control : ControlRequest} (h : control.Fits n) :
    metadata (control.withTail n tail) = metadata control := by
  have henvelope : (control.withTail n tail).ioControl = control.ioControl := rfl
  have hstatus : (control.withTail n tail).srb.srbStatus = control.srb.srbStatus := rfl
  unfold metadata
  rw [henvelope, hstatus]
  simp only
  split
  · rename_i hresponse
    rw [ControlRequest.withTail_read tail OperationResponse.reads h
      (Nat.le_of_eq (congrArg UInt32.toNat hresponse.2.symm))]
  · rfl

theorem withTail_publish (a : Adapter) {s : Submission} (h : s.control.Fits n) (work : Work)
    (status : NTSTATUS) (created : Option (ULONG × UCHAR)) (now : LONGLONG) :
    (a.withTail id n tail).publish { s with control := s.control.withTail n tail } work status created
        now =
      ((a.publish s work status created now).1.withTail id n tail,
        { (a.publish s work status created now).2 with
          control := (a.publish s work status created now).2.control.withTail n tail }) := by
  cases work with
  | legacyCreate request =>
    simp only [publish]
    rw [withTail_writeCreateResponse tail h]
  | legacyDelete request =>
    simp only [publish]
    rw [withTail_writeDeleteResponse tail h]
  | reserved snapshot correlation =>
    have hextension : (a.withTail id n tail).extension = a.extension := rfl
    simp only [publish]
    rw [hextension, withTail_publishOperationResult tail a.extension h]
    rfl

theorem withTail_beginWork (a : Adapter) {s : Submission} (h : s.control.Fits n) :
    (a.withTail id n tail).beginWork { s with control := s.control.withTail n tail } =
      ((a.beginWork s).1.withTail id n tail,
        { (a.beginWork s).2 with control := (a.beginWork s).2.control.withTail n tail }) := by
  have henvelope : (s.control.withTail n tail).ioControl = s.control.ioControl := rfl
  have hextension : (a.withTail id n tail).extension = a.extension := rfl
  unfold beginWork
  simp only [henvelope, hextension, withTail_validateCreateRequest tail h,
    withTail_validateDeleteRequest tail h, ControlRequest.withTail_writeError tail h]
  split
  · rfl
  split
  · rfl
  split <;> rfl

/-- The worker's step of the submission itself. -/
theorem withTail_advance_same (a : Adapter) {limit : ULONG} {s : Submission} (hid : s.id = id)
    (h : s.Confined n limit) (granted : Bool) (now : LONGLONG) :
    advance (a.withTail id n tail) { s with control := s.control.withTail n tail } granted now =
      (advance a s granted now).map fun p =>
        (p.1.withTail id n tail, p.2.map (Submission.withTail id n tail)) := by
  have h28 : 28 ≤ n := le_trans (Nat.le_add_right _ _) h.fits
  have henvelope : (s.control.withTail n tail).ioControl = s.control.ioControl := rfl
  have hextension : (a.withTail id n tail).extension = a.extension := rfl
  have hpool : (a.withTail id n tail).pool = a.pool := rfl
  have hnext : ∀ {x : Option (Adapter × Option Submission)} {b : Adapter} {s' : Submission},
      s'.id = s.id →
      x = some (b.withTail id n tail, some { s' with control := s'.control.withTail n tail }) →
        x = (some (b, some s')).map fun p : Adapter × Option Submission =>
          (p.1.withTail id n tail, p.2.map (Submission.withTail id n tail)) := by
    intro x b s' heq hx
    rw [hx, Option.map_some, Option.map_some, withTail_submission tail (heq.trans hid)]
  have hidentity : OperationResponse.size ≤ s.control.ioControl.length →
      OperationRequest.read (s.control.withTail n tail).payload 0 =
        OperationRequest.read s.control.payload 0 := fun hroom =>
    ControlRequest.withTail_read tail OperationRequest.reads h.fits
      (Nat.le_trans (by decide) (UInt32.le_iff_toNat_le.mp hroom))
  have hrequest : ∀ phase, s.phase = phase →
      phase.readsRequest s.control.ioControl.controlCode = true →
        OperationResponse.size ≤ s.control.ioControl.length := fun phase heq hreads =>
    h.request (heq ▸ hreads)
  unfold advance
  cases hphase : s.phase with
  | prepared | freeAllocation | freePool | finalize | zeroMemory =>
    exact hnext (by rfl) (by rfl)
  | detach work lun =>
    simp only [hextension]
    exact hnext (by rfl) (by rfl)
  | queueFailed =>
    simp only [hextension]
    rw [withTail_failQueueing tail a.extension h.fits]
    simp only
    rw [ControlRequest.withTail_toSrb tail _ h28, hid]
    refine congrArg some (Prod.ext ?_ rfl)
    exact withTail_giveBack tail
      { a with
        extension := (failQueueing a.extension s.control s.command now).1
        history := { a.history with ended := a.history.ended ++ [id] } } _ _
  | queued =>
    simp only
    rw [ControlRequest.withTail_toSrb tail _ h28,
      ControlRequest.withTail_fromSrb tail s.control.toSrb fun _ => h28]
    cases hdecoded : ControlRequest.fromSrb s.control.toSrb with
    | none => exact hnext (by rfl) (by rfl)
    | some decoded =>
      have hdecoded' := ControlRequest.fromSrb_toSrb_some hdecoded
      have hcode : decoded.ioControl = s.control.ioControl := by rw [hdecoded']
      have hfits : decoded.Fits n := by
        unfold ControlRequest.Fits
        rw [hcode]
        exact h.fits
      have hread : (if isReservedCode decoded.ioControl.controlCode = true then
            OperationRequest.read (decoded.withTail n tail).payload 0 else {}) =
          if isReservedCode decoded.ioControl.controlCode = true then
            OperationRequest.read decoded.payload 0 else {} := by
        split
        · rename_i hreserved
          rw [hcode] at hreserved
          have hroom := UInt32.le_iff_toNat_le.mp (hrequest _ hphase hreserved)
          rw [← hcode] at hroom
          exact ControlRequest.withTail_read tail OperationRequest.reads hfits
            (Nat.le_trans (by decide) hroom)
        · rfl
      have henvelope' : (decoded.withTail n tail).ioControl = decoded.ioControl := rfl
      simp only [Option.map_some, henvelope', hread]
      exact hnext (by rfl) (by rfl)
  | takeFault =>
    simp only
    rw [← hphase, withTail_beginWork tail a h.fits]
    refine hnext ?_ (by rfl)
    exact ((beginWork_advanced a s).continued _ rfl).1
  | rejectOperation =>
    simp only [hextension]
    rw [hidentity (hrequest _ hphase rfl), withTail_failOperationLocked tail a.extension _ _ h.fits]
    exact hnext (by rfl) (by rfl)
  | snapshotPending =>
    simp only [hextension]
    rw [hidentity (hrequest _ hphase rfl), withTail_snapshotPendingOperation tail a.extension h.fits]
    cases snapshotPendingOperation a.extension s.control
      (OperationRequest.read s.control.payload 0) with
    | error control => exact hnext (by rfl) (by rfl)
    | ok snapshot => exact hnext (by rfl) (by rfl)
  | selectLun | allocate | commit | markStopping =>
    simp only [hextension]
    split <;> exact hnext (by rfl) (by rfl)
  | waitForLunIo work lun =>
    simp only [hextension]
    split
    · exact hnext (by rfl) (by rfl)
    · rfl
  | publish work status created =>
    simp only
    rw [← hphase, withTail_publish tail a h.fits]
    refine hnext ?_ (by rfl)
    exact ((publish_advanced a s work status created now).continued _ rfl).1
  | respond =>
    simp only
    have hfits : (failTransport s.fault s.control).Fits n := by
      unfold failTransport
      split <;> exact h.fits
    rw [withTail_failTransport, withTail_metadata tail hfits]
    exact hnext (by rfl) (by rfl)
  | traceResponse m => exact hnext (by rfl) (by rfl)
  | complete m =>
    simp only
    rw [ControlRequest.withTail_toSrb tail _ h28, hid, withTail_complete]
    exact hnext (by exact hid.symm) (by rfl)
  | notifyBus m => exact hnext (by rfl) (by rfl)
  | endManagement => rfl

theorem withTail_beginWork_other (a : Adapter) (s : Submission) :
    (a.withTail id n tail).beginWork s = ((a.beginWork s).1.withTail id n tail, (a.beginWork s).2) := by
  have hextension : (a.withTail id n tail).extension = a.extension := rfl
  unfold beginWork
  simp only [hextension]
  split
  · rfl
  split
  · rfl
  split <;> rfl

/-- Another submission does not notice. -/
theorem withTail_advance_other (a : Adapter) {s : Submission} (h : s.id ≠ id) (granted : Bool)
    (now : LONGLONG) :
    advance (a.withTail id n tail) s granted now =
      (advance a s granted now).map fun p =>
        (p.1.withTail id n tail, p.2.map (Submission.withTail id n tail)) := by
  have hextension : (a.withTail id n tail).extension = a.extension := rfl
  have hnext : ∀ {x : Option (Adapter × Option Submission)} {b : Adapter} {s' : Submission},
      s'.id = s.id → x = some (b.withTail id n tail, some s') →
        x = (some (b, some s')).map fun p : Adapter × Option Submission =>
          (p.1.withTail id n tail, p.2.map (Submission.withTail id n tail)) := by
    intro x b s' heq hx
    rw [hx, Option.map_some, Option.map_some, withTail_other tail (by rw [heq]; exact h)]
  unfold advance
  cases hphase : s.phase with
  | queueFailed =>
    refine congrArg some (Prod.ext ?_ rfl)
    exact withTail_giveBack_other tail
      { a with
        extension := (failQueueing a.extension s.control s.command now).1
        history := { a.history with ended := a.history.ended ++ [s.id] } } h _ _
  | takeFault =>
    simp only
    rw [withTail_beginWork_other]
    exact hnext ((beginWork_advanced a s).continued _ rfl).1 (by rfl)
  | publish work status created =>
    refine hnext ((publish_advanced a s work status created now).continued _ rfl).1 ?_
    cases work <;> rfl
  | complete m =>
    simp only
    rw [withTail_complete_other tail a h]
    exact hnext (by rfl) (by rfl)
  | endManagement => rfl
  | queued | snapshotPending | selectLun | allocate | commit | markStopping =>
    simp only [hextension]
    split <;> exact hnext (by rfl) (by rfl)
  | waitForLunIo =>
    simp only [hextension]
    split
    · exact hnext (by rfl) (by rfl)
    · rfl
  | prepared | rejectOperation | zeroMemory | freeAllocation | detach | freePool | finalize
  | respond | traceResponse | notifyBus =>
    exact hnext (by rfl) (by rfl)

theorem withTail_advance (a : Adapter) {limit : ULONG} {s : Submission}
    (h : s.id = id → s.Confined n limit) (granted : Bool) (now : LONGLONG) :
    advance (a.withTail id n tail) (s.withTail id n tail) granted now =
      (advance a s granted now).map fun p =>
        (p.1.withTail id n tail, p.2.map (Submission.withTail id n tail)) := by
  by_cases hid : s.id = id
  · rw [withTail_submission tail hid]
    exact withTail_advance_same tail a hid (h hid) granted now
  · rw [withTail_other tail hid]
    exact withTail_advance_other tail a hid granted now

/-! ## Runs -/

/-- The SRB `id` is a control SRB below `n`, completed with at most `limit` bytes. -/
structure Confined (a : Adapter) (id n : ℕ) (limit : ULONG) : Prop where
  gate : a.Gate
  begun : id < a.nextSrb
  every : a.Every (fun c => c.id ≠ id) (fun s => s.id = id → s.Confined n limit)
    fun id' srb => id' = id → srb.dataTransferLength ≤ limit

namespace Confined

variable {a b : Adapter} {limit : ULONG}

theorem step {action : Action} (h : a.Confined id n limit) (hn : n ≤ limit.toNat)
    (hs : Adapter.step a action = some b) : b.Confined id n limit := by
  have htracks : b.Tracks id (Submission.Confined n limit)
      fun srb => srb.dataTransferLength ≤ limit := by
    apply Tracks.step ⟨h.gate, h.begun, h.every⟩ hs
    · intro s granted now a' next _ hconfined hadvance _
      exact advance_confined hn hconfined hadvance
    · exact fun _ _ hle => hle
  exact ⟨htracks.gate, htracks.begun, htracks.every⟩

end Confined

theorem withTail_startIo_other (a : Adapter) (hnew : a.nextSrb ≠ id) (srb : ScsiRequestBlock)
    (now : LONGLONG) :
    (a.withTail id n tail).startIo srb now = (a.startIo srb now).withTail id n tail := by
  have hgive : ∀ (b : Adapter) (srb : ScsiRequestBlock) (status : UCHAR),
      (b.withTail id n tail).giveBack a.nextSrb srb status =
        (b.giveBack a.nextSrb srb status).withTail id n tail := fun b =>
    withTail_giveBack_other tail b hnew
  unfold startIo
  simp only
  split
  · unfold startIoControl
    have hextension : (a.withTail id n tail).extension = a.extension := rfl
    simp only [hextension]
    split
    · exact hgive { a with
        nextSrb := a.nextSrb + 1
        extension := _
        history := { a.history with reservations := _ } } _ _
    · unfold withTail
      simp only [List.map_append, List.map_cons, List.map_nil, Submission.withTail, if_neg hnew]
  split
  · unfold startExecuteScsi
    have hextension : (a.withTail id n tail).extension = a.extension := rfl
    split
    · exact hgive { a with nextSrb := a.nextSrb + 1 } _ _
    split
    · exact hgive { a with nextSrb := a.nextSrb + 1 } _ _
    simp only [hextension]
    split
    · exact hgive { a with nextSrb := a.nextSrb + 1 } _ _
    · rfl
  split
  · exact hgive { a with nextSrb := a.nextSrb + 1 } _ _
  · exact hgive { a with nextSrb := a.nextSrb + 1 } _ _

theorem withTail_advanceTeardown (a : Adapter) (workerBusy : Bool) :
    (a.withTail id n tail).advanceTeardown workerBusy =
      (a.advanceTeardown workerBusy).map (withTail id n tail) := by
  have hextension : (a.withTail id n tail).extension = a.extension := rfl
  have hteardown : (a.withTail id n tail).teardown = a.teardown := rfl
  unfold advanceTeardown
  rw [hteardown]
  cases a.teardown with
  | notStarted | waitForIdle | firstStopping | waitForLunIo | releaseWorker =>
    simp only [hextension]
    split <;> rfl
  | _ => rfl

theorem Confined.withTail_step {a : Adapter} {limit : ULONG} (h : a.Confined id n limit)
    (action : Action) :
    Adapter.step (a.withTail id n tail) action =
      (Adapter.step a action).map (Adapter.withTail id n tail) := by
  have hsubmissions : (a.withTail id n tail).submissions =
      a.submissions.map (Submission.withTail id n tail) := rfl
  have hreturned : (a.withTail id n tail).returned =
      a.returned.map (Returned.withTail id n tail) := rfl
  have hcommands : (a.withTail id n tail).commands = a.commands := rfl
  cases action with
  | startIo srb now =>
    have houtstanding : (a.withTail id n tail).outstanding = a.outstanding := by
      unfold outstanding
      rw [hsubmissions, hreturned, hcommands, List.length_map, List.length_map]
    simp only [Adapter.step, houtstanding]
    rw [withTail_startIo_other tail a (Nat.ne_of_gt h.begun)]
    split <;> rfl
  | command i =>
    simp only [Adapter.step, hcommands]
    cases hc : a.commands[i]? with
    | none => rfl
    | some c =>
      have hother : c.id ≠ id := h.every.commands c (List.mem_of_getElem? hc)
      simp only [Option.map_some]
      unfold advanceCommand
      cases c.status with
      | none => rfl
      | some status =>
        exact congrArg some (withTail_giveBack_other tail
          { a with
            extension := LunStore.releaseLunIo a.extension c.lun
            commands := a.commands.eraseIdx i } hother _ _)
  | completeRequest i =>
    simp only [Adapter.step, hreturned, List.getElem?_map]
    cases hr : a.returned[i]? with
    | none => rfl
    | some r =>
      simp only [Option.map_some]
      refine congrArg some ?_
      rw [List.eraseIdx_map]
      by_cases hid : r.id = id
      · subst hid
        have hsame : r.withTail r.id n tail = { r with srb := r.srb.withTail n tail } := if_pos rfl
        rw [hsame]
        exact withTail_complete tail { a with returned := a.returned.eraseIdx i }
          (completeRequest r.srb r.status)
      · have hother : r.withTail id n tail = r := if_neg hid
        rw [hother]
        exact withTail_complete_other tail { a with returned := a.returned.eraseIdx i } hid _
  | submission i granted now =>
    simp only [Adapter.step, hsubmissions, List.getElem?_map]
    cases hs : a.submissions[i]? with
    | none => rfl
    | some s =>
      simp only [Option.map_some]
      rw [withTail_advance tail a (h.every.submissions s (List.mem_of_getElem? hs))]
      cases advance a s granted now with
      | none => rfl
      | some p =>
        obtain ⟨b, next⟩ := p
        have hlist : (b.withTail id n tail).submissions =
          b.submissions.map (Submission.withTail id n tail) := rfl
        cases next with
        | none =>
          simp only [Option.map_some, Option.map_none, hlist, List.eraseIdx_map]
          rfl
        | some s' =>
          simp only [Option.map_some, hlist, ← List.map_set]
          rfl
  | setStopping stopping => rfl
  | teardown workerBusy => exact withTail_advanceTeardown tail a workerBusy

theorem Confined.withTail_run {a : Adapter} {limit : ULONG} (h : a.Confined id n limit)
    (hn : n ≤ limit.toNat) (actions : List Action) :
    run system (a.withTail id n tail) actions =
      (run system a actions).map (Adapter.withTail id n tail) := by
  induction actions generalizing a with
  | nil => rfl
  | cons action actions ih =>
    have hstep := h.withTail_step tail action
    simp only [run]
    change Option.bind (Adapter.step _ action) _ = Option.map _ (Option.bind (Adapter.step a action) _)
    rw [hstep]
    cases hs : Adapter.step a action with
    | none => rfl
    | some b => exact ih (h.step hn hs)

theorem Confined.run {a b : Adapter} {limit : ULONG} (h : a.Confined id n limit)
    (hn : n ≤ limit.toNat) {actions : List Action}
    (hrun : Transition.run system a actions = some b) : b.Confined id n limit :=
  run_invariant (P := fun _ c => c.Confined id n limit) h (fun _ _ _ _ hc hs => hc.step hn hs) hrun

/-! ## Admission -/

/-- Replacing the bytes behind the extent of a control SRB that comes in. -/
theorem withTail_startIo {a : Adapter} (ha : a.Below) {srb : ScsiRequestBlock}
    (hcontrol : srb.function = srbFunctionIoControl) (now : LONGLONG) :
    a.startIo (srb.withTail (extent srb) tail) now =
      (a.startIo srb now).withTail a.nextSrb (extent srb) tail := by
  have hcontrol' : (srb.withTail (extent srb) tail).function = srbFunctionIoControl := hcontrol
  have hsubmissions : a.submissions.map (Submission.withTail a.nextSrb (extent srb) tail) =
      a.submissions := by
    refine (List.map_congr_left fun s hs => ?_).trans (List.map_id _)
    exact withTail_other tail (Nat.ne_of_lt (ha.submissions s hs))
  have hreturned : a.returned.map (Returned.withTail a.nextSrb (extent srb) tail) =
      a.returned := by
    refine (List.map_congr_left fun r hr => ?_).trans (List.map_id _)
    exact if_neg (Nat.ne_of_lt (ha.returned r hr))
  have hcompletions : a.history.completions.map (completionWithTail a.nextSrb (extent srb) tail) =
      a.history.completions := by
    refine (List.map_congr_left fun e he => ?_).trans (List.map_id _)
    exact if_neg (Nat.ne_of_lt (ha.completions e he))
  unfold startIo
  simp only
  rw [if_pos hcontrol, if_pos hcontrol']
  unfold startIoControl
  simp only
  rw [withTail_handleIoControl]
  cases handleIoControl a.extension srb now with
  | complete ext reply =>
    unfold giveBack withTail
    simp only [IoControlOutcome.withTail, List.map_append, List.map_cons, List.map_nil,
      Returned.withTail, if_true, hsubmissions, hreturned, hcompletions]
    rfl
  | submitted ext control command =>
    unfold withTail
    simp only [IoControlOutcome.withTail, List.map_append, List.map_cons, List.map_nil,
      Submission.withTail, if_true, hsubmissions, hreturned, hcompletions]

/-- What `WispDiskHandleIoControl` leaves of a control SRB stays within its bounds. -/
theorem handleIoControl_confined (ext : AdapterExtension) (srb : ScsiRequestBlock) (id : ℕ)
    (now : LONGLONG) :
    (∀ ext' reply, handleIoControl ext srb now = .complete ext' reply →
        reply.dataTransferLength ≤ srb.dataTransferLength) ∧
      ∀ ext' control command, handleIoControl ext srb now = .submitted ext' control command →
        Submission.Confined (extent srb) srb.dataTransferLength
          { id := id, control := control, command := command } := by
  unfold handleIoControl
  cases hview : ControlRequest.fromSrb srb with
  | none =>
    refine ⟨fun ext' reply heq => ?_, fun ext' control command heq => by cases heq⟩
    cases heq
    exact UInt32.le_iff_toNat_le.mpr (Nat.zero_le _)
  | some control =>
    have hfits := fits_extent hview
    have hsrb := (ControlRequest.fromSrb_enveloped hview).2
    have hreplies := dispatchControlRequest_replies ext control now
    simp only
    generalize dispatchControlRequest ext control now = outcome at hreplies
    cases hreplies with
    | @complete ext' control' hreply =>
      refine ⟨fun ext'' reply heq => ?_, fun _ _ _ heq => by cases heq⟩
      cases heq
      exact hreply.dataTransferLength_le hfits (extent_le srb)
    | submitted ext' command hroom =>
      refine ⟨fun _ _ heq => (by cases heq), fun ext'' control' command' heq => ?_⟩
      cases heq
      refine ⟨hfits, ?_, hroom⟩
      show control.srb.dataTransferLength ≤ srb.dataTransferLength
      rw [hsrb]
      exact UInt32.le_refl _

/-- The SRB that comes in is confined to its extent. -/
theorem startIo_confined {a : Adapter} (hgate : a.Gate) (ha : a.Below) {srb : ScsiRequestBlock}
    (hcontrol : srb.function = srbFunctionIoControl) (now : LONGLONG) :
    (a.startIo srb now).Confined a.nextSrb (extent srb) srb.dataTransferLength := by
  obtain ⟨hcomplete, hsubmitted⟩ := handleIoControl_confined a.extension srb a.nextSrb now
  have htracks : (a.startIo srb now).Tracks a.nextSrb
      (Submission.Confined (extent srb) srb.dataTransferLength)
      fun reply => reply.dataTransferLength ≤ srb.dataTransferLength :=
    startIo_tracks hgate ha hcontrol hcomplete hsubmitted
  exact ⟨htracks.gate, htracks.begun, htracks.every⟩

end Adapter

end WispDisk
