import WispDisk.Cli.Session
import WispDisk.Guarantees.MeaningfulReplies
import WispDisk.Lifecycle.Finality

/-! Recovery is safe end to end. A call resubmits only while its operation is still Reserved, a
rejection of a submission leaves it unaccepted for good, and every other result it acts on is that
of a record of the driver's table, which tells what was done to the disks. -/
namespace WispDisk
open ControlDispatch ManagementController Transition Cli
set_option autoImplicit false

/-! ## Accepting commands -/

/-- A step accepts a command only when none is in flight. -/
theorem Machine.Step.accepts {restartable : Machine → Prop} {c c' : Machine}
    (hs : c.Step restartable c') :
    c'.accepted = c.accepted ∨ c.task = none ∧ c'.task ≠ none := by
  cases hs with
  | admittedReserved command i hopen hidle => exact Or.inr ⟨hidle, Option.some_ne_none _⟩
  | workerDrained command work l stage next d htask hdrain => cases hdrain <;> exact Or.inl rfl
  | teardownDrained l stage next d hclosing hdrain => cases hdrain <;> exact Or.inl rfl
  | _ => exact Or.inl rfl

theorem Machine.accepted_grow {restartable : Machine → Prop} {c c' : Machine}
    (hrun : Relation.ReflTransGen (Machine.Step restartable) c c') :
    ∀ command ∈ c.accepted, command ∈ c'.accepted := by
  induction hrun with
  | refl => exact fun _ h => h
  | tail _ hs ih =>
    intro command hcommand
    have hbefore := ih command hcommand
    cases hs with
    | admittedReserved => exact List.mem_append_left _ hbefore
    | workerDrained command work l stage next d htask hdrain => cases hdrain <;> exact hbefore
    | teardownDrained l stage next d hclosing hdrain => cases hdrain <;> exact hbefore
    | _ => exact hbefore

namespace Adapter

variable {a b : Adapter}

/-- Only `HwStartIo` takes in a submission. -/
theorem step_idle {action : Action} (hs : Adapter.step a action = some b)
    (hstart : ∀ srb now, action ≠ .startIo srb now) (hidle : a.submissions = []) :
    b.submissions = [] := by
  cases action with
  | startIo srb now => exact absurd rfl (hstart srb now)
  | command i =>
    simp only [Adapter.step] at hs
    split at hs
    · cases hs
      unfold advanceCommand
      split <;> exact hidle
    · cases hs
  | completeRequest i =>
    simp only [Adapter.step] at hs
    split at hs
    · cases hs
      exact hidle
    · cases hs
  | submission i granted now =>
    simp only [Adapter.step, hidle, List.getElem?_nil] at hs
    cases hs
  | setStopping stopping =>
    cases hs
    exact hidle
  | teardown workerBusy => exact (advanceTeardown_aside hs).submissions.trans hidle

theorem step_accepted (ha : Reachable system anyAction a) {action : Action}
    (hs : Adapter.step a action = some b) (hstart : ∀ srb now, action ≠ .startIo srb now) :
    b.history.accepted = a.history.accepted := by
  have hrestart : ∀ b : Adapter, anyAction b (Action.setStopping false) →
      Machine.anywhere b.machine := fun _ _ => trivial
  obtain ⟨⟨hgate, hcoherent⟩, hreach⟩ := reachable_simulated hrestart ha
  have hanywhere : action = .setStopping false → Machine.anywhere a.machine := fun _ => trivial
  have hsimulates :=
    (step_simulates hgate hcoherent (Records.reachable hreach).unique hanywhere hs).2
  rcases (Relation.reflGen_iff _ _ _).mp hsimulates with heq | hstep
  · exact congrArg Machine.accepted heq
  · rcases hstep.accepts with hsame | ⟨hnone, hsome⟩
    · exact hsame
    · have hidle : a.submissions = [] := by
        cases hlist : a.submissions with
        | nil => rfl
        | cons s rest =>
          unfold machine machineWith at hnone
          rw [hlist] at hnone
          cases hnone
      refine absurd ?_ hsome
      unfold machine machineWith
      rw [step_idle hs hstart hidle]
      rfl

/-- A command that `HwStartIo` accepts is a reserved one that the SRB carries. -/
theorem startIo_accepted (a : Adapter) (srb : ScsiRequestBlock) (now : LONGLONG) :
    ∀ command ∈ (a.startIo srb now).history.accepted, command ∈ a.history.accepted ∨
      ∃ control, ControlRequest.fromSrb srb = some control ∧
        isReservedCode control.ioControl.controlCode = true ∧
        OperationRequest.read control.payload 0 = command.identity ∧
        command.identity.adapterInstance = a.extension.adapterInstance := by
  intro command hcommand
  unfold startIo at hcommand
  simp only at hcommand
  split at hcommand
  · unfold startIoControl at hcommand
    simp only at hcommand
    have hspec := handleIoControl_spec a.extension srb now
    unfold handleIoControl at hspec hcommand
    cases hdecoded : ControlRequest.fromSrb srb with
    | none =>
      rw [hdecoded] at hcommand
      exact Or.inl hcommand
    | some control =>
      rw [hdecoded] at hcommand hspec
      simp only at hcommand hspec
      have hreplies := dispatchControlRequest_replies a.extension control now
      generalize dispatchControlRequest a.extension control now = outcome at *
      cases hreplies with
      | complete ext h => exact Or.inl hcommand
      | submitted ext new hroom =>
        simp only at hcommand hspec
        rcases hspec with ⟨_, _, hcomplete, _⟩ | ⟨_, _, _, hsubmitted, hadmitted⟩
        · cases hcomplete
        · cases hsubmitted
          rcases List.mem_append.mp hcommand with hold | hnew
          · exact Or.inl hold
          · split at hnew
            · rename_i hreserved
              rw [List.mem_singleton.mp hnew]
              refine Or.inr ⟨control, rfl, ?_, hadmitted.carries.identity hreserved, ?_⟩
              · have hcode := hadmitted.carries.code
                show isReservedCode (markPending control).ioControl.controlCode = true
                rw [hcode, MutationCommand.isReservedCode_eq]
                exact hreserved
              · cases hadmitted.extension with
                | legacy debug hkind =>
                  rw [hreserved] at hkind
                  cases hkind
                | bound debug i hkind hinstance => exact hinstance
            · cases hnew
  · split at hcommand
    · unfold startExecuteScsi at hcommand
      split at hcommand
      · exact Or.inl hcommand
      · split at hcommand
        · exact Or.inl hcommand
        · split at hcommand <;> exact Or.inl hcommand
    · split at hcommand <;> exact Or.inl hcommand

theorem startIo_accepts {request : Request} {adapterInstance : ULONGLONG}
    {P : OperationRecord → Prop} {C : MutationCommand → Prop} {now : LONGLONG}
    (hhandles : request.Handles adapterInstance P C
      (dispatchControlRequest a.extension request.control now)) :
    ∀ command ∈ (a.startIo request.toSrb now).history.accepted,
      command ∈ a.history.accepted ∨ C command := by
  intro command hcommand
  unfold startIo at hcommand
  simp only at hcommand
  rw [if_pos (show request.toSrb.function = srbFunctionIoControl from rfl)] at hcommand
  unfold startIoControl at hcommand
  simp only at hcommand
  rw [handleIoControl, request.fromSrb_toSrb] at hcommand
  simp only at hcommand
  generalize dispatchControlRequest a.extension request.control now = outcome at *
  cases hhandles with
  | refused ext status h => exact Or.inl hcommand
  | shown ext h => exact Or.inl hcommand
  | submitted ext new h =>
    rcases List.mem_append.mp hcommand with hold | hnew
    · exact Or.inl hold
    · split at hnew
      · rw [List.mem_singleton.mp hnew]
        exact Or.inr h
      · cases hnew

end Adapter

/-! ## What a call knows -/

namespace Cli

/-- The command asks for what the call asks for. -/
def MutationCall.Means (command : MutationCommand) : MutationCall → Prop
  | .createDisk letter media sizeBytes =>
    ∃ correlationId, command.create = createdParameters letter media sizeBytes correlationId
  | .deleteById _ deviceId => command.remove.deviceId = deviceId

namespace OperationHandle

/-- No command has been accepted for the operation. -/
def Unaccepted (handle : OperationHandle) (a : Adapter) : Prop :=
  ∀ command ∈ a.history.accepted, command.operationId ≠ handle.id

/-- The record is that of the operation, as the table has or had it. A Reserved one tells that no
command has been accepted since. -/
structure Known (handle : OperationHandle) (a : Adapter) (record : OperationRecord) : Prop where
  id : record.id = handle.id
  seen : ∃ b i, Reachable Adapter.system anyAction b ∧ Steps Adapter.system anyAction b a ∧
    b.extension.operations i = record ∧ record.id ≠ 0
  reserved : record.state = .reserved → handle.Unaccepted a

/-- The operation will never do anything to a disk, or its disk will never be there again. -/
def Over (handle : OperationHandle) (mutation : ULONG) (a : Adapter) : Prop :=
  handle.Unaccepted a ∨ ∃ record, handle.Known a record ∧ record.mutation = mutation ∧
    (record.state = .failed ∨ record.state = .deleted)

/-- The operation has succeeded with that record. -/
structure Succeeded (handle : OperationHandle) (mutation : ULONG) (a : Adapter)
    (record : OperationRecord) : Prop extends handle.Known a record where
  state : record.state = .succeeded
  mutation : record.mutation = mutation

/-- A step that accepts no command for the operation. -/
structure Spares (handle : OperationHandle) (a b : Adapter) : Prop where
  step : Steps Adapter.system anyAction a b
  accepted : ∀ command ∈ b.history.accepted,
    command ∈ a.history.accepted ∨ command.operationId ≠ handle.id

variable {handle : OperationHandle} {a b : Adapter} {record : OperationRecord}

theorem Unaccepted.step (h : handle.Unaccepted a) (hspares : handle.Spares a b) :
    handle.Unaccepted b := by
  intro command hcommand
  rcases hspares.accepted command hcommand with hold | hother
  · exact h command hold
  · exact hother

theorem Known.step (h : handle.Known a record) (hspares : handle.Spares a b) :
    handle.Known b record := by
  obtain ⟨c, i, hc, hpath, hrecord⟩ := h.seen
  exact ⟨h.id, ⟨c, i, hc, hpath.trans hspares.step, hrecord⟩,
    fun hreserved => (h.reserved hreserved).step hspares⟩

theorem Over.step {mutation : ULONG} (h : handle.Over mutation a) (hspares : handle.Spares a b) :
    handle.Over mutation b := by
  rcases h with h | ⟨record, hknown, hfinal⟩
  · exact Or.inl (h.step hspares)
  · exact Or.inr ⟨record, hknown.step hspares, hfinal⟩

theorem Succeeded.step {mutation : ULONG} (h : handle.Succeeded mutation a record)
    (hspares : handle.Spares a b) : handle.Succeeded mutation b record :=
  ⟨h.toKnown.step hspares, h.state, h.mutation⟩

/-- A record of the table. -/
theorem Known.of_table (ha : Reachable Adapter.system anyAction a) {i : Fin kMaximumOperationCount}
    (hid : (a.extension.operations i).id = handle.id) (hzero : (a.extension.operations i).id ≠ 0) :
    handle.Known a (a.extension.operations i) where
  id := hid
  seen := ⟨a, i, ha, Steps.refl a, rfl, hzero⟩
  reserved := fun hreserved command hcommand heq => by
    have hunaccepted := (Records.reachable (Adapter.reachable_anywhere ha)).unaccepted i hreserved
    apply hunaccepted
    rw [show (a.machine.log.operations i).id = command.operationId from hid.trans heq.symm]
    exact List.mem_map_of_mem hcommand

theorem Spares.of_kept {action : Action} (hs : Adapter.step a action = some b)
    (hkept : b.history.accepted = a.history.accepted) : handle.Spares a b := by
  have hstep : Adapter.system.step a action = some b := hs
  exact ⟨Steps.single trivial hstep, fun command hcommand => Or.inl (hkept ▸ hcommand)⟩

/-- A step that is not a create or delete request of the handle. -/
theorem Spares.of_step (ha : Reachable Adapter.system anyAction a)
    (hinstance : handle.adapterInstance = a.extension.adapterInstance) {action : Action}
    (hs : Adapter.step a action = some b)
    (hoff : ∀ srb now, action = .startIo srb now → ¬ handle.MutatedBy srb) :
    handle.Spares a b := by
  refine ⟨Steps.single trivial hs, fun command hcommand => ?_⟩
  by_cases hstart : ∃ srb now, action = .startIo srb now
  · obtain ⟨srb, now, rfl⟩ := hstart
    rw [Adapter.step_startIo hs] at hcommand
    rcases Adapter.startIo_accepted a srb now command hcommand with hold |
      ⟨control, hdecoded, hcode, hread, hsame⟩
    · exact Or.inl hold
    · refine Or.inr fun hid => hoff srb now rfl ⟨control, hdecoded, hcode, ?_, ?_⟩
      · rw [hread]
        exact hsame.trans hinstance.symm
      · rw [hread]
        exact hid
  · have hsame := Adapter.step_accepted ha hs fun srb now heq => hstart ⟨srb, now, heq⟩
    exact Or.inl (hsame ▸ hcommand)

end OperationHandle

/-- A request that is no create or delete. -/
theorem Request.spares {request : Request} (hcode : isReservedCode request.operation.code = false)
    (handle : OperationHandle) : ¬ handle.MutatedBy request.toSrb := by
  rintro ⟨control, hdecoded, hreserved, _⟩
  rw [request.fromSrb_toSrb] at hdecoded
  cases hdecoded
  rw [show request.control.ioControl.controlCode = request.operation.code from rfl, hcode] at hreserved
  cases hreserved

end Cli

/-! ## Waiting for a reply -/

theorem Cli.Request.Pursues.mono {request : Request} {handle : OperationHandle} {mutation : ULONG}
    {adapterInstance : ULONGLONG} {P P' : OperationRecord → Prop} {s : Submission}
    (h : request.Pursues handle mutation adapterInstance P s)
    (hP : ∀ record, P record → P' record) :
    request.Pursues handle mutation adapterInstance P' s :=
  ⟨h.commands, h.bound, h.working, fun hfinished => (h.answered hfinished).mono (fun _ hnever => hnever) hP⟩

namespace Adapter

theorem Tracks.mono {a : Adapter} {id : ℕ} {S S' : Submission → Prop}
    {R R' : ScsiRequestBlock → Prop} (h : a.Tracks id S R) (hS : ∀ s, S s → S' s)
    (hR : ∀ srb, R srb → R' srb) : a.Tracks id S' R' where
  gate := h.gate
  begun := h.begun
  every :=
    { commands := h.every.commands
      submissions := fun s hs hid => hS s (h.every.submissions s hs hid)
      returned := fun r hr hid => hR _ (h.every.returned r hr hid)
      completions := fun e he hid => hR _ (h.every.completions e he hid) }

/-- The SRB of a create or delete request of the call: a rejection means that the operation is
unaccepted, and whatever is shown is known of it. -/
def Mutates (a : Adapter) (id : ℕ) (request : Request) (handle : OperationHandle)
    (mutation : ULONG) : Prop :=
  a.Tracks id
    (request.Pursues handle mutation a.extension.adapterInstance (handle.Known a))
    (request.Replied a.extension.adapterInstance (fun _ => handle.Unaccepted a) (handle.Known a))

/-- The SRB of a query of the operation. -/
def Queries (a : Adapter) (id : ℕ) (request : Request) (handle : OperationHandle) : Prop :=
  a.Tracks id (fun _ => False)
    (request.Replied a.extension.adapterInstance (fun _ => True) (handle.Known a))

/-- The SRB of the reservation of the handle. -/
def Reserves (a : Adapter) (id : ℕ) (request : Request) (handle : Option OperationHandle) : Prop :=
  a.Tracks id (fun _ => False)
    (request.Replied a.extension.adapterInstance (fun _ => True) fun record =>
      handle = some { adapterInstance := a.extension.adapterInstance, id := record.id })

section Step

variable {a b : Adapter} {id : ℕ} {request : Request} {handle : OperationHandle} {mutation : ULONG}
  {action : Action}

theorem step_instance (ha : Reachable system anyAction a) (hs : Adapter.step a action = some b) :
    b.extension.adapterInstance = a.extension.adapterInstance :=
  Driver.adapter_instance ha (Steps.single trivial hs)

theorem Mutates.step (h : a.Mutates id request handle mutation)
    (hsize : request.operation.responseSize = OperationResponse.size)
    (ha : Reachable system anyAction a) (hs : Adapter.step a action = some b)
    (hspares : handle.Spares a b) : b.Mutates id request handle mutation := by
  have hb : Reachable system anyAction b := Reachable.step ha trivial hs
  have hweak : a.Tracks id
      (request.Pursues handle mutation a.extension.adapterInstance (handle.Known b))
      (request.Replied a.extension.adapterInstance (fun _ => handle.Unaccepted b)
        (handle.Known b)) := by
    apply h.mono
    · intro s hs
      exact hs.mono fun record hknown => hknown.step hspares
    · intro srb hreplied
      exact hreplied.mono (fun _ hunaccepted => hunaccepted.step hspares)
        fun record hknown => hknown.step hspares
  unfold Mutates
  rw [step_instance ha hs]
  apply hweak.step hs _ Request.Replied.completed
  intro s granted now a' next hlist hpursues hadvance hsame
  have hadvances := advance_pursues ha hlist hsize rfl hpursues hadvance fun i hnames hzero => by
    rw [← hsame] at hnames hzero ⊢
    exact OperationHandle.Known.of_table hb hnames.id hzero
  exact hadvances.mono fun srb hreplied => hreplied.mono (fun _ hnever => hnever.elim)
    fun _ hknown => hknown

theorem Queries.step (h : a.Queries id request handle) (ha : Reachable system anyAction a)
    (hs : Adapter.step a action = some b) (hspares : handle.Spares a b) :
    b.Queries id request handle := by
  unfold Queries
  rw [step_instance ha hs]
  have hweak : a.Tracks id (fun _ => False)
      (request.Replied a.extension.adapterInstance (fun _ => True) (handle.Known b)) :=
    h.mono (fun _ h => h) fun srb hreplied =>
      hreplied.mono (fun _ h => h) fun record hknown => hknown.step hspares
  apply hweak.step hs _ Request.Replied.completed
  intro s granted now a' next hlist hnever
  exact hnever.elim

theorem Reserves.step {handle : Option OperationHandle} (h : a.Reserves id request handle)
    (ha : Reachable system anyAction a) (hs : Adapter.step a action = some b) :
    b.Reserves id request handle := by
  unfold Reserves
  rw [step_instance ha hs]
  apply Tracks.step h hs _ Request.Replied.completed
  intro s granted now a' next hlist hnever
  exact hnever.elim

end Step

/-! ## Sending -/

section Send

variable {a b : Adapter} {handle : OperationHandle} {correlationId : ULONGLONG} {now : LONGLONG}

theorem mutation_handles {ext : AdapterExtension} (call : MutationCall) (handle : OperationHandle)
    (correlationId : ULONGLONG) (now : LONGLONG) {P : OperationRecord → Prop}
    (hmeaningful : AllMeaningful ext)
    (hP : ∀ i, (ext.operations i).id = handle.id → (ext.operations i).id ≠ 0 →
      P (ext.operations i)) :
    (call.request handle correlationId).Handles ext.adapterInstance P
      (fun command => (call.request handle correlationId).Commands handle call.mutation command ∧
        call.Means command)
      (dispatchControlRequest ext (call.request handle correlationId).control now) := by
  cases call with
  | createDisk letter media sizeBytes =>
    have hhandles := create_handles ext now handle correlationId letter media sizeBytes hmeaningful
      fun i hnames hzero _ => hP i hnames.id hzero
    exact hhandles.imp fun command h => ⟨h.1, correlationId, h.2⟩
  | deleteById adapterInstance deviceId =>
    have hhandles := delete_handles ext now handle correlationId deviceId hmeaningful
      fun i hnames hzero _ => hP i hnames.id hzero
    exact hhandles.imp fun command h => ⟨h.1, h.2⟩

theorem mutation_responseSize (call : MutationCall) (handle : OperationHandle)
    (correlationId : ULONGLONG) :
    (call.request handle correlationId).operation.responseSize = OperationResponse.size := by
  cases call <;> rfl

/-- A create or delete request of the call, sent while its operation is unaccepted. -/
theorem send_mutates (call : MutationCall) (ha : Reachable system anyAction a)
    (hunaccepted : handle.Unaccepted a)
    (hsend : Adapter.step a (.startIo (call.request handle correlationId).toSrb now) = some b) :
    b.Mutates a.nextSrb (call.request handle correlationId) handle call.mutation ∧
      ∀ command ∈ b.history.accepted, command ∈ a.history.accepted ∨ call.Means command := by
  have hhandles := mutation_handles call handle correlationId now (allMeaningful ha)
    (P := handle.Known a) fun i hid hzero => OperationHandle.Known.of_table ha hid hzero
  have hstart := step_startIo hsend
  refine ⟨?_, fun command hcommand => ?_⟩
  · unfold Mutates
    rw [step_instance ha hsend, hstart]
    refine startIo_handled ha hhandles (fun hkept srb hreplied => ?_) fun command hcommand =>
      Commands.pursues hcommand.1 _
    have hspares : handle.Spares a (a.startIo (call.request handle correlationId).toSrb now) :=
      .of_kept (hstart ▸ hsend) hkept
    exact hreplied.mono (fun _ _ => hunaccepted.step hspares) fun record hknown => hknown.step hspares
  · rw [hstart] at hcommand
    exact (startIo_accepts hhandles command hcommand).imp_right And.right

theorem send_queries (ha : Reachable system anyAction a)
    (hinstance : handle.adapterInstance = a.extension.adapterInstance)
    (hsend : Adapter.step a (.startIo (Request.query handle correlationId).toSrb now) = some b) :
    b.Queries a.nextSrb (Request.query handle correlationId) handle := by
  have hspares : handle.Spares a b := OperationHandle.Spares.of_step ha hinstance hsend
    fun srb now' heq => by
      cases heq
      exact Request.spares rfl handle
  have hhandles := query_handles (C := fun _ => False) a.extension now handle correlationId
    (allMeaningful ha) (P := handle.Known b) fun i hid hzero _ =>
      (OperationHandle.Known.of_table ha hid hzero).step hspares
  unfold Queries
  rw [step_instance ha hsend, step_startIo hsend] at *
  exact startIo_handled ha hhandles (fun _ _ h => h.mono (fun _ _ => trivial) fun _ h => h)
    fun _ h => h

/-- What a reservation leaves of the tables. -/
theorem reserve_extension (a : Adapter) (mutation : ULONG) (correlationId : ULONGLONG)
    (now : LONGLONG) :
    (a.startIo (Request.reserve mutation correlationId).toSrb now).extension =
      match reserveOperation a.extension mutation with
      | .error _ => a.extension
      | .ok (ext, _) => ext := by
  have hfunction : (Request.reserve mutation correlationId).toSrb.function =
      srbFunctionIoControl := rfl
  unfold startIo
  simp only
  rw [if_pos hfunction]
  unfold startIoControl
  simp only
  rw [handleIoControl, Request.fromSrb_toSrb]
  simp only
  rw [reserve_dispatched]
  cases reserveOperation a.extension mutation <;> rfl

theorem reservedHandle_ok {mutation : ULONG} {ext : AdapterExtension} {result : OperationResult}
    (hreserve : reserveOperation a.extension mutation = .ok (ext, result))
    (hextension : b.extension = ext) : Session.reservedHandle a b = some
      { adapterInstance := a.extension.adapterInstance, id := a.extension.nextOperationId } := by
  obtain ⟨_, _, _, _, i, _, hext⟩ := reserveOperation_ok hreserve
  have hnext : b.extension.nextOperationId = a.extension.nextOperationId + 1 := by
    rw [hextension, hext]
  have hne : a.extension.nextOperationId ≠ a.extension.nextOperationId + 1 := by
    intro heq
    exact absurd (UInt64.left_eq_add.mp heq) (by decide)
  unfold Session.reservedHandle reservationOf
  rw [hnext, if_neg hne]
  rfl

/-- The reservation of the call: the handle is new, and nothing was accepted for it. -/
theorem send_reserves {mutation : ULONG} (ha : Reachable system anyAction a)
    (hsend : Adapter.step a (.startIo (Request.reserve mutation correlationId).toSrb now) = some b) :
    b.Reserves a.nextSrb (Request.reserve mutation correlationId) (Session.reservedHandle a b) ∧
      ∀ handle, Session.reservedHandle a b = some handle →
        handle.adapterInstance = b.extension.adapterInstance ∧ handle.Unaccepted b := by
  have hstart := step_startIo hsend
  have hextension := reserve_extension a mutation correlationId now
  rw [← hstart] at hextension
  refine ⟨?_, fun handle hhandle => ?_⟩
  · have hreserved : ∀ ext' result, reserveOperation a.extension mutation = .ok (ext', result) →
        Session.reservedHandle a b = some
          { adapterInstance := a.extension.adapterInstance
            id := (reservedRecord a.extension.nextOperationId mutation).id } := by
      intro ext' result hreserve
      rw [hreserve] at hextension
      exact reservedHandle_ok hreserve hextension
    have hhandles := reserve_handles (C := fun _ => False) a.extension now correlationId
      mutation (P := fun record => Session.reservedHandle a b = some
        { adapterInstance := a.extension.adapterInstance, id := record.id }) hreserved
    unfold Reserves
    rw [step_instance ha hsend]
    have htracks := startIo_handled ha hhandles (S := fun _ => False)
      (fun _ _ h => h.mono (fun _ _ => trivial) fun _ h => h) fun _ h => h
    rwa [← hstart] at htracks
  · cases hreserve : reserveOperation a.extension mutation with
    | error status =>
      rw [hreserve] at hextension
      unfold Session.reservedHandle reservationOf at hhandle
      rw [hextension, if_pos rfl] at hhandle
      cases hhandle
    | ok reserved =>
      rw [hreserve] at hextension
      have hnext := (reserveOperation_ok hreserve).2.2.1
      rw [reservedHandle_ok hreserve hextension] at hhandle
      cases hhandle
      refine ⟨(step_instance ha hsend).symm, fun command hcommand hid => ?_⟩
      rw [hstart] at hcommand
      rcases startIo_accepted a _ now command hcommand with hold | ⟨control, hdecoded, hcode, _⟩
      · have hrecords := Records.reachable (reachable_anywhere ha)
        have hknown := hrecords.acceptedKnown command hold
        rw [hid] at hknown
        exact hrecords.next_unknown hnext hknown
      · rw [Request.fromSrb_toSrb] at hdecoded
        cases hdecoded
        cases hcode

end Send

end Adapter

/-! ## The call -/

namespace Cli

/-- The result is that of the record. -/
def MutationResult.Reports (call : MutationCall) (handle : OperationHandle)
    (record : OperationRecord) (result : MutationResult) : Prop :=
  match call, result with
  | .createDisk _ _ _, .created disk => disk.adapterInstance = handle.adapterInstance ∧
      disk.deviceId = record.deviceId ∧ disk.lun = record.lun
  | .deleteById _ _, .deleted => True
  | _, _ => False

namespace Progress

/-- What a call relies on where it is; `idle` when none of its requests is in flight. -/
def Rests (call : MutationCall) (handle : Option OperationHandle) (idle : Prop) (a : Adapter) :
    Progress → Prop
  | checking => handle = none
  | reserving => idle → handle = none
  | resolving h (.submitting _) => handle = some h ∧ (idle → h.Unaccepted a)
  | resolving h (.querying _) => handle = some h
  | resolving h (.waiting action _) => handle = some h ∧ (action = .submit → h.Unaccepted a)
  | resolving _ (.returned _) => False
  | confirming h => handle = some h ∧ ∃ record, h.Succeeded call.mutation a record ∧
      ∃ adapterInstance deviceId, call = .deleteById adapterInstance deviceId
  | returned (.ok result) => ∃ h record, handle = some h ∧ h.Succeeded call.mutation a record ∧
      result.Reports call h record
  | returned (.error error) => error.unresolved? = none → ∀ h, handle = some h → h.Over call.mutation a

/-- What is known of the SRB that a call waits for. -/
def Awaits (call : MutationCall) (handle : Option OperationHandle) (a : Adapter) (id : ℕ)
    (request : Request) : Progress → Prop
  | checking => True
  | reserving => (∀ h, handle = some h → h.Unaccepted a) ∧ a.Reserves id request handle
  | resolving h (.submitting _) => a.Mutates id request h call.mutation ∧
      request.operation.responseSize = OperationResponse.size
  | resolving h (.querying _) => a.Queries id request h
  | resolving _ _ => False
  | confirming _ => True
  | returned _ => False

variable {call : MutationCall} {handle : Option OperationHandle} {idle idle' : Prop} {a b : Adapter}
  {p : Progress}

theorem Rests.step (h : p.Rests call handle idle a)
    (hspares : ∀ h, handle = some h → h.Spares a b) : p.Rests call handle idle b := by
  cases p with
  | checking => exact h
  | reserving => exact h
  | resolving handle' resolution =>
    cases resolution with
    | submitting errors => exact ⟨h.1, fun hidle => (h.2 hidle).step (hspares _ h.1)⟩
    | querying errors => exact h
    | waiting action errors => exact ⟨h.1, fun haction => (h.2 haction).step (hspares _ h.1)⟩
    | returned result => exact h
  | confirming handle' =>
    obtain ⟨hhandle, record, hsucceeded, hcall⟩ := h
    exact ⟨hhandle, record, hsucceeded.step (hspares _ hhandle), hcall⟩
  | returned result =>
    cases result with
    | ok result =>
      obtain ⟨handle', record, hhandle, hsucceeded, hreports⟩ := h
      exact ⟨handle', record, hhandle, hsucceeded.step (hspares _ hhandle), hreports⟩
    | error error =>
      intro hresolved handle' hhandle
      exact (h hresolved handle' hhandle).step (hspares _ hhandle)

theorem Rests.imp (h : p.Rests call handle idle a) (hidle : idle' → idle) :
    p.Rests call handle idle' a := by
  cases p with
  | reserving => exact fun hidle' => h (hidle hidle')
  | resolving handle' resolution =>
    cases resolution with
    | submitting errors => exact ⟨h.1, fun hidle' => h.2 (hidle hidle')⟩
    | querying errors => exact h
    | waiting action errors => exact h
    | returned result => exact h
  | checking => exact h
  | confirming handle' => exact h
  | returned result => cases result <;> exact h

theorem Awaits.step {id : ℕ} {request : Request} (h : p.Awaits call handle a id request)
    (hrests : p.Rests call handle idle a) (ha : Reachable Adapter.system anyAction a)
    {action : Action} (hs : Adapter.step a action = some b)
    (hspares : ∀ h, handle = some h → h.Spares a b) : p.Awaits call handle b id request := by
  cases p with
  | checking => trivial
  | reserving => exact ⟨fun h' hh => (h.1 h' hh).step (hspares h' hh), h.2.step ha hs⟩
  | resolving handle' resolution =>
    cases resolution with
    | submitting errors => exact ⟨h.1.step h.2 ha hs (hspares _ hrests.1), h.2⟩
    | querying errors => exact Adapter.Queries.step h ha hs (hspares _ hrests)
    | waiting action errors => exact h.elim
    | returned result => exact h.elim
  | confirming handle' => trivial
  | returned result => exact h.elim

/-- The handle of a call is the one that it has been given. -/
theorem of_handle {handle : Option OperationHandle} {given : OperationHandle}
    {P : OperationHandle → Prop} (hhandle : handle = some given) (h : P given) :
    ∀ h', handle = some h' → P h' := by
  intro h' heq
  rw [hhandle] at heq
  cases heq
  exact h

/-- What follows a result of `resolve_operation` that rests on a record. -/
theorem rests_resolved {handle' : OperationHandle} {errors : RecoveryErrors}
    {request : Request} {reply : OperationResponse} (hhandle : handle = some handle')
    (hshows : request.Shows a.extension.adapterInstance (handle'.Known a) reply) :
    (call.resolved handle'
      (Resolution.settle handle' call.mutation errors (.ok reply))).Rests call handle idle a := by
  obtain ⟨record, hmeaningful, hknown, hreply⟩ := hshows
  have hstate : reply.state = record.state.code := by rw [hreply]
  have hquery : ∀ errors, (call.resolved handle' (.waiting .query errors)).Rests call handle idle a :=
    fun errors => ⟨hhandle, fun haction => (by cases haction)⟩
  unfold Resolution.settle OperationHandle.interpret
  simp only
  by_cases hmatches : reply.matchesOperation handle'.adapterInstance handle'.id call.mutation = false
  · rw [if_pos hmatches]
    exact hquery _
  rw [if_neg hmatches]
  rw [Bool.not_eq_false] at hmatches
  unfold OperationResponse.matchesOperation at hmatches
  simp only [Bool.and_eq_true, beq_iff_eq] at hmatches
  obtain ⟨⟨hinstance, _⟩, hmutation⟩ := hmatches
  have hrecord : record.mutation = call.mutation := by rw [← hmutation, hreply]
  by_cases hsucceeded : reply.state = OperationState.succeeded.code ∧ reply.resultStatus = 0
  · rw [if_pos hsucceeded]
    have hrecord : handle'.Succeeded call.mutation a record :=
      ⟨hknown, OperationState.code_injective (hstate.symm.trans hsucceeded.1), hrecord⟩
    cases call with
    | createDisk letter media sizeBytes =>
      unfold MutationCall.resolved CreatedDisk.ofResponse
      simp only
      by_cases hvalid : reply.isValidCreatedDisk = false
      · rw [if_pos hvalid]
        exact fun hresolved => by cases hresolved
      · rw [if_neg hvalid]
        refine ⟨handle', record, hhandle, hrecord, hinstance, ?_, ?_⟩
        · show reply.deviceId = record.deviceId
          rw [hreply]
        · show reply.lun = record.lun
          rw [hreply]
    | deleteById adapterInstance deviceId =>
      exact ⟨hhandle, record, hrecord, adapterInstance, deviceId, rfl⟩
  rw [if_neg hsucceeded]
  by_cases hfailed : reply.state = OperationState.failed.code ∧ reply.resultStatus < 0
  · rw [if_pos hfailed]
    have hover : handle'.Over call.mutation a := Or.inr ⟨record, hknown, hrecord,
      Or.inl (OperationState.code_injective (hstate.symm.trans hfailed.1))⟩
    exact fun _ => of_handle hhandle hover
  rw [if_neg hfailed]
  by_cases hdeleted : reply.state = OperationState.deleted.code
  · rw [if_pos hdeleted]
    have hover : handle'.Over call.mutation a := Or.inr ⟨record, hknown, hrecord,
      Or.inr (OperationState.code_injective (hstate.symm.trans hdeleted))⟩
    exact fun _ => of_handle hhandle hover
  rw [if_neg hdeleted]
  by_cases hreserved : reply.state = OperationState.reserved.code
  · rw [if_pos hreserved]
    exact ⟨hhandle, fun _ =>
      hknown.reserved (OperationState.code_injective (hstate.symm.trans hreserved))⟩
  rw [if_neg hreserved]
  by_cases hpending : reply.state = OperationState.pending.code
  · rw [if_pos hpending]
    exact hquery _
  · rw [if_neg hpending]
    exact hquery _

/-- An error ends the call or has the outcome queried; only a terminal rejection of a submission ends
it without an unresolved outcome. -/
theorem rests_error {p' : Progress} {error : Error} (hrests : p.Rests call handle idle a)
    (hreserving : p = .reserving → ∀ h, handle = some h → h.Unaccepted a)
    (hrejected : error.rejection?.any isTerminal = true → ∀ h errors,
      p = .resolving h (.submitting errors) → h.Unaccepted a)
    (hreceive : p.receive call (.error error) = some p') : p'.Rests call handle idle' a := by
  cases p with
  | checking =>
    cases hreceive
    intro _ h hhandle
    cases (show handle = none from hrests).symm.trans hhandle
  | reserving =>
    cases hreceive
    exact fun _ h hhandle => Or.inl (hreserving rfl h hhandle)
  | resolving handle' resolution =>
    cases resolution with
    | submitting errors =>
      obtain ⟨hhandle, _⟩ := hrests
      simp only [Progress.receive, Except.map, Resolution.step] at hreceive
      by_cases hterminal : error.rejection?.any isTerminal = true
      · have hrecord : errors.recordSubmission error = .error error := if_pos hterminal
        rw [hrecord] at hreceive
        cases hreceive
        exact fun _ => of_handle hhandle (Or.inl (hrejected hterminal handle' errors rfl))
      · have hrecord : errors.recordSubmission error =
            .ok { errors with submission := some error } := if_neg hterminal
        rw [hrecord] at hreceive
        cases hreceive
        exact hhandle
    | querying errors =>
      cases hreceive
      exact ⟨hrests, fun haction => (by cases haction)⟩
    | waiting action errors => cases hreceive
    | returned result => cases hreceive
  | confirming handle' =>
    obtain ⟨_, _, _, adapterInstance, deviceId, rfl⟩ := hrests
    cases hreceive
    exact fun hresolved => by cases hresolved
  | returned result => cases hreceive

/-- The end of a reservation. -/
theorem rests_reserved {request : Request} {reply : OperationResponse}
    (hunaccepted : ∀ h, handle = some h → h.Unaccepted a)
    (hshows : request.Shows a.extension.adapterInstance (fun record =>
      handle = some { adapterInstance := a.extension.adapterInstance, id := record.id }) reply) :
    (call.acceptReservation reply).Rests call handle idle a := by
  have herror : ∀ error, (Progress.returned (.error error)).Rests call handle idle a :=
    fun error _ h hhandle => Or.inl (hunaccepted h hhandle)
  obtain ⟨record, _, hhandle, hreply⟩ := hshows
  unfold MutationCall.acceptReservation OperationHandle.ofReservation
  split
  · exact herror _
  · by_cases hvalid : reply.isValidReservation = true
    · rw [if_pos hvalid]
      have hsame : handle = some { adapterInstance := reply.adapterInstance
                                   id := reply.operationId } := by
        rw [hhandle, hreply]
      have hstart : (Progress.resolving { adapterInstance := reply.adapterInstance
                                          id := reply.operationId } .start).Rests call handle
          idle a := ⟨hsame, fun _ => hunaccepted _ hsame⟩
      simp only
      unfold MutationCall.reserved
      split
      · exact hstart
      · split
        · exact herror _
        · exact hstart
    · rw [if_neg hvalid]
      exact herror _

theorem Awaits.receive {p' : Progress} {id : ℕ} {request : Request} {srb : ScsiRequestBlock}
    (h : p.Awaits call handle a id request) (hrests : p.Rests call handle idle a)
    (hdone : (id, srb) ∈ a.history.completions)
    (hreceive : p.receive call (request.receiveSrb srb) = some p') :
    p'.Rests call handle idle' a := by
  cases p with
  | checking =>
    have hnone : handle = none := hrests
    simp only [Progress.receive] at hreceive
    split at hreceive
    · cases hreceive
      intro _ h hhandle
      cases hnone.symm.trans hhandle
    · cases hreceive
      exact fun _ => hnone
  | reserving =>
    obtain ⟨hunaccepted, htracks⟩ := h
    cases htracks.every.completions _ hdone rfl with
    | rejected status _ _ _ herror =>
      rw [herror] at hreceive
      exact rests_error hrests (fun _ => hunaccepted) (fun _ h errors hp => by cases hp) hreceive
    | shown payload _ hpayload hshows =>
      rw [hpayload] at hreceive
      cases hreceive
      exact rests_reserved hunaccepted hshows
  | resolving handle' resolution =>
    cases resolution with
    | submitting errors =>
      cases h.1.every.completions _ hdone rfl with
      | rejected status hunaccepted _ _ herror =>
        rw [herror] at hreceive
        refine rests_error hrests (fun hp => by cases hp) (fun _ h errors hp => ?_) hreceive
        cases hp
        exact hunaccepted
      | shown payload _ hpayload hshows =>
        rw [hpayload] at hreceive
        cases hreceive
        exact rests_resolved hrests.1 hshows
    | querying errors =>
      cases Adapter.Every.completions (Adapter.Tracks.every h) _ hdone rfl with
      | rejected status _ _ _ herror =>
        rw [herror] at hreceive
        exact rests_error hrests (fun hp => by cases hp) (fun _ h errors hp => by cases hp) hreceive
      | shown payload _ hpayload hshows =>
        rw [hpayload] at hreceive
        cases hreceive
        exact rests_resolved hrests hshows
    | waiting action errors => exact h.elim
    | returned result => exact h.elim
  | confirming handle' =>
    obtain ⟨hhandle, record, hsucceeded, adapterInstance, deviceId, rfl⟩ := hrests
    cases hreceive
    unfold MutationCall.confirm
    split
    · exact fun hresolved => by cases hresolved
    · split
      · exact fun hresolved => by cases hresolved
      · exact ⟨handle', record, hhandle, hsucceeded, trivial⟩
  | returned result => exact h.elim

theorem Rests.wait {p' : Progress} {again : Bool} (h : p.Rests call handle idle a)
    (hwait : p.wait call again = some p') : p'.Rests call handle idle' a := by
  cases p with
  | resolving handle' resolution =>
    cases resolution with
    | waiting action errors =>
      obtain ⟨hhandle, hsubmit⟩ := h
      cases again with
      | false =>
        cases hwait
        exact fun hresolved => by cases hresolved
      | true =>
        cases hwait
        cases action with
        | submit => exact ⟨hhandle, fun _ => hsubmit rfl⟩
        | query => exact hhandle
    | submitting errors => cases hwait
    | querying errors => cases hwait
    | returned result => cases hwait
  | checking => cases hwait
  | reserving => cases hwait
  | confirming handle' => cases hwait
  | returned result => cases hwait

end Progress

end Cli

namespace Session

variable {call : MutationCall} {s t : Session}

/-- What holds between any two steps of a call and its adapter. -/
structure Sound (call : MutationCall) (s : Session) : Prop where
  reached : Reachable Adapter.system anyAction s.adapter
  sameInstance : ∀ h, s.handle = some h →
    h.adapterInstance = s.adapter.extension.adapterInstance
  /-- Whatever was accepted for the operation is what the call asks for. -/
  ours : ∀ h, s.handle = some h → ∀ command ∈ s.adapter.history.accepted,
    command.operationId = h.id → call.Means command
  rests : s.progress.Rests call s.handle (s.sent = none) s.adapter
  awaits : ∀ id request, s.sent = some (id, request) →
    s.progress.Awaits call s.handle s.adapter id request

theorem Sound.initial (h : (system call).initial s) : s.Sound call := by
  obtain ⟨hreached, hprogress, hsent, hhandle⟩ := h
  refine ⟨hreached, fun h heq => ?_, fun h heq => ?_, ?_, fun id request heq => ?_⟩
  · cases hhandle.symm.trans heq
  · cases hhandle.symm.trans heq
  · rw [hprogress]
    exact hhandle
  · cases hsent.symm.trans heq

/-- The call goes on with its next request, or returns. -/
theorem Sound.proceed (h : s.Sound call) {progress : Progress}
    (hrests : progress.Rests call s.handle True s.adapter) :
    ({ s with progress := progress, sent := none } : Session).Sound call where
  reached := h.reached
  sameInstance := h.sameInstance
  ours := h.ours
  rests := by
    have hidle : ((none : Option (ℕ × Request)) = none) = True := eq_self none
    rw [hidle]
    exact hrests
  awaits := fun id request heq => by cases heq

theorem Sound.driver (h : s.Sound call) {action : Action} {a : Adapter}
    (hs : s.adapter.step action = some a)
    (hoff : ∀ handle, s.handle = some handle → ∀ srb now, action = .startIo srb now →
      ¬ handle.MutatedBy srb) : ({ s with adapter := a } : Session).Sound call := by
  have hspares : ∀ handle, s.handle = some handle → handle.Spares s.adapter a :=
    fun handle hhandle => .of_step h.reached (h.sameInstance handle hhandle) hs (hoff handle hhandle)
  refine ⟨Reachable.step h.reached trivial hs, fun handle hhandle => ?_,
    fun handle hhandle command hcommand hid => ?_, h.rests.step hspares,
    fun id request hsent => (h.awaits id request hsent).step h.rests h.reached hs hspares⟩
  · exact (h.sameInstance handle hhandle).trans (Adapter.step_instance h.reached hs).symm
  · rcases (hspares handle hhandle).accepted command hcommand with hold | hother
    · exact h.ours handle hhandle command hold hid
    · exact absurd hid hother

/-- The call sends a request that is no create or delete. -/
theorem Sound.inquire (h : s.Sound call) (hidle : s.sent = none) {request : Request}
    (hcode : isReservedCode request.operation.code = false) {now : LONGLONG} {a : Adapter}
    (hs : s.adapter.step (.startIo request.toSrb now) = some a)
    (hawaits : s.progress.Awaits call s.handle a s.adapter.nextSrb request) :
    ({ s with adapter := a, sent := some (s.adapter.nextSrb, request) } : Session).Sound call := by
  have hdriver := h.driver hs fun handle _ srb now heq => by
    cases heq
    exact request.spares hcode handle
  refine ⟨hdriver.reached, hdriver.sameInstance, hdriver.ours, ?_, fun id request' heq => ?_⟩
  · exact hdriver.rests.imp fun _ => hidle
  · cases heq
    exact hawaits

theorem Sound.send (h : s.Sound call) (hidle : s.sent = none) {correlationId : ULONGLONG}
    {request : Request} (hrequest : s.progress.request call correlationId = some request)
    {now : LONGLONG} {a : Adapter} (hs : s.adapter.step (.startIo request.toSrb now) = some a) :
    ({ adapter := a
       progress := s.progress
       sent := some (s.adapter.nextSrb, request)
       handle :=
         match s.progress with
         | .reserving => reservedHandle s.adapter a
         | _ => s.handle } : Session).Sound call := by
  have hinquire := fun (hcode : isReservedCode request.operation.code = false) =>
    h.inquire hidle hcode hs
  have hinstance := Adapter.step_instance h.reached hs
  obtain ⟨hreached, hsameInstance, hours, hrests, _⟩ := h
  obtain ⟨adapter, progress, sent, handle⟩ := s
  simp only at *
  have hstep : Adapter.system.step adapter (.startIo request.toSrb now) = some a := hs
  have ha : Reachable Adapter.system anyAction a := Reachable.step hreached trivial hstep
  cases progress with
  | checking =>
    cases hrequest
    exact hinquire rfl trivial
  | reserving =>
    cases hrequest
    obtain ⟨hreserves, hnew⟩ := Adapter.send_reserves hreached hs
    refine ⟨ha, fun handle hhandle => (hnew handle hhandle).1,
      fun handle hhandle command hcommand hid => ?_, fun hnone => (by cases hnone),
      fun id request heq => ?_⟩
    · exact absurd hid ((hnew handle hhandle).2 command hcommand)
    · cases heq
      exact ⟨fun handle hhandle => (hnew handle hhandle).2, hreserves⟩
  | resolving handle' resolution =>
    cases resolution with
    | submitting errors =>
      cases hrequest
      obtain ⟨hhandle, hunaccepted⟩ := hrests
      obtain ⟨hmutates, hmeans⟩ := Adapter.send_mutates call hreached (hunaccepted hidle) hs
      refine ⟨ha, fun handle hhandle => (hsameInstance handle hhandle).trans hinstance.symm,
        fun handle hhandle command hcommand hid => ?_, ⟨hhandle, fun hnone => (by cases hnone)⟩,
        fun id request heq => ?_⟩
      · rcases hmeans command hcommand with hold | hmeant
        · exact hours handle hhandle command hold hid
        · exact hmeant
      · cases heq
        exact ⟨hmutates, Adapter.mutation_responseSize call handle' correlationId⟩
    | querying errors =>
      cases hrequest
      exact hinquire rfl (Adapter.send_queries hreached (hsameInstance handle' hrests) hs)
    | waiting action errors => cases hrequest
    | returned result => cases hrequest
  | confirming handle' =>
    cases hrequest
    exact hinquire rfl trivial
  | returned result => cases hrequest

theorem Sound.step (h : s.Sound call) {action : SessionAction} (hoff : othersKeepOff s action)
    (hs : Session.step call s action = some t) : t.Sound call := by
  cases action with
  | driver action =>
    obtain ⟨a, ha, rfl⟩ := Option.map_eq_some_iff.mp hs
    exact h.driver ha fun handle hhandle srb now heq => hoff srb now (heq ▸ rfl) handle hhandle
  | send correlationId now =>
    simp only [Session.step] at hs
    split at hs
    · rename_i request hsent hrequest
      obtain ⟨a, ha, rfl⟩ := Option.map_eq_some_iff.mp hs
      exact h.send hsent hrequest ha
    · cases hs
  | receive i =>
    simp only [Session.step] at hs
    split at hs
    · rename_i id request completed srb hsent hdone
      split at hs
      · rename_i hid
        obtain ⟨progress, hreceive, rfl⟩ := Option.map_eq_some_iff.mp hs
        have hmem : (id, srb) ∈ s.adapter.history.completions :=
          hid ▸ List.mem_of_getElem? hdone
        exact h.proceed ((h.awaits id request hsent).receive h.rests hmem hreceive)
      · cases hs
    · cases hs
  | lose error =>
    simp only [Session.step] at hs
    split at hs
    · rename_i hlost
      have hnone : error.rejection? = none := Option.isNone_iff_eq_none.mp hlost
      obtain ⟨progress, hreceive, rfl⟩ := Option.map_eq_some_iff.mp hs
      refine h.proceed (Progress.rests_error h.rests (fun hprogress handle hhandle => ?_)
        (fun hterminal => ?_) hreceive)
      · cases hsent : s.sent with
        | none =>
          have hrests := h.rests
          rw [hprogress] at hrests
          cases (hrests hsent).symm.trans hhandle
        | some sent =>
          have hawaits := h.awaits sent.1 sent.2 hsent
          rw [hprogress] at hawaits
          exact hawaits.1 handle hhandle
      · rw [hnone] at hterminal
        cases hterminal
    · cases hs
  | wait again =>
    obtain ⟨progress, hwait, rfl⟩ := Option.map_eq_some_iff.mp hs
    have hsent : s.sent = none := by
      cases hsent : s.sent with
      | none => rfl
      | some sent =>
        have hawaits := h.awaits sent.1 sent.2 hsent
        cases hprogress : s.progress with
        | resolving handle resolution =>
          rw [hprogress] at hawaits hwait
          cases resolution with
          | waiting action errors => exact hawaits.elim
          | submitting errors => cases hwait
          | querying errors => cases hwait
          | returned result => cases hwait
        | checking => rw [hprogress] at hwait; cases hwait
        | reserving => rw [hprogress] at hwait; cases hwait
        | confirming handle => rw [hprogress] at hwait; cases hwait
        | returned result => rw [hprogress] at hwait; cases hwait
    have hproceed := h.proceed (h.rests.wait hwait)
    rwa [← hsent] at hproceed

theorem Sound.reachable (h : Reachable (system call) othersKeepOff s) : s.Sound call := by
  induction h with
  | initial h => exact .initial h
  | step _ hoff hs ih => exact ih.step hoff hs

end Session

/-! ## What the call tells -/

namespace Cli

/-- What the driver did for the operation, the call having succeeded with that result. -/
def MutationCall.Done (call : MutationCall) (handle : OperationHandle) (a : Adapter)
    (result : MutationResult) : Prop :=
  match call, result with
  | .createDisk letter media sizeBytes, .created disk =>
    disk.adapterInstance = a.extension.adapterInstance ∧
      ∃ commit ∈ a.history.commits, commit.operation = some handle.id ∧
        commit.deviceId = disk.deviceId ∧ UInt8.ofNat commit.lun.val = disk.lun ∧
        ∃ correlationId, commit.request = createdParameters letter media sizeBytes correlationId
  | .deleteById _ deviceId, .deleted =>
    ∃ removal ∈ a.history.removals, removal.operation = some handle.id ∧
      removal.deviceId = deviceId
  | _, _ => False

/-- What the operation has not left behind: a disk, or a removal. -/
def MutationCall.Undone (handle : OperationHandle) (a : Adapter) : MutationCall → Prop
  | .createDisk _ _ _ => ∀ l, (a.extension.luns l).state ≠ .empty →
      ∀ commit ∈ a.history.commits, commit.operation = some handle.id →
        commit.deviceId ≠ (a.extension.luns l).deviceId
  | .deleteById _ _ => ∀ removal ∈ a.history.removals, removal.operation ≠ some handle.id

namespace OperationHandle

variable {handle : OperationHandle} {a : Adapter} {record : OperationRecord}

/-- An operation that nothing was accepted for has touched no disk. -/
theorem Unaccepted.untouched (h : handle.Unaccepted a) (ha : Reachable Adapter.system anyAction a) :
    a.machine.effects.Untouched handle.id := by
  have hmachine := Adapter.reachable_anywhere ha
  apply (Outcomes.reachable hmachine).untouched
  intro hexecuted
  obtain ⟨execution, hexecution, hid⟩ := List.mem_map.mp hexecuted
  obtain ⟨command, hcommand, hsame, _⟩ := (Records.reachable hmachine).executed execution hexecution
  exact h command hcommand (hsame.symm.trans hid)

theorem Over.undone {call : MutationCall} (h : handle.Over call.mutation a)
    (ha : Reachable Adapter.system anyAction a) : call.Undone handle a := by
  have huntouched : a.machine.effects.Untouched handle.id → call.Undone handle a := by
    intro huntouched
    cases call with
    | createDisk letter media sizeBytes =>
      intro l _ commit hcommit hoperation
      exact absurd hoperation (huntouched.commits commit hcommit)
    | deleteById adapterInstance deviceId => exact huntouched.removals
  rcases h with hunaccepted | ⟨record, hknown, hmutation, hfinal⟩
  · exact huntouched (hunaccepted.untouched ha)
  obtain ⟨b, i, hb, hpath, rfl, _⟩ := hknown.seen
  have hreach := Adapter.reachable_anywhere hb
  have hrun := Adapter.path_anywhere hb hpath
  rcases hfinal with hfailed | hdeleted
  · apply huntouched
    rw [← hknown.id]
    exact Machine.untouched_of_failed hreach hrun hfailed
  · cases call with
    | createDisk letter media sizeBytes =>
      intro l _ commit hcommit hoperation heq
      rw [← hknown.id] at hoperation
      exact (Machine.gone_of_deleted hreach hrun hdeleted hcommit hoperation).2 l heq.symm
    | deleteById adapterInstance deviceId =>
      -- only creates are ever Deleted
      have hcreate := ((Outcomes.reachable hreach).truthful i).deleted hdeleted
      cases hcreate.symm.trans hmutation

/-- A Succeeded operation has done what the call asks for. -/
theorem Succeeded.done {call : MutationCall} {result : MutationResult}
    (h : handle.Succeeded call.mutation a record)
    (hinstance : handle.adapterInstance = a.extension.adapterInstance)
    (hours : ∀ command ∈ a.history.accepted, command.operationId = handle.id → call.Means command)
    (hreports : result.Reports call handle record) : call.Done handle a result := by
  have hid := h.id
  have hstate := h.state
  have hmutation := h.mutation
  obtain ⟨b, i, hb, hpath, rfl, hzero⟩ := h.seen
  have hreach := Adapter.reachable_anywhere hb
  have hrun := Adapter.path_anywhere hb hpath
  have htruthful := (Outcomes.reachable hreach).truthful i
  obtain ⟨hcommits, hremovals⟩ := Machine.effects_grow hrun
  have hmeans : ∃ command, call.Means command ∧
      command.create = (b.extension.operations i).create ∧
        command.remove = (b.extension.operations i).delete := by
    have hbound := (Records.reachable hreach).bound i hzero fun hreserved => by
      cases hstate.symm.trans hreserved
    obtain ⟨command, hcommand, hsame, _, hcreate, hdelete⟩ := hbound
    have haccepted : command ∈ a.history.accepted := Machine.accepted_grow hrun command hcommand
    exact ⟨command, hours command haccepted (hsame.trans hid), hcreate, hdelete⟩
  obtain ⟨command, hmeant, hcreate, hdelete⟩ := hmeans
  cases call with
  | createDisk letter media sizeBytes =>
    cases result with
    | deleted => exact hreports.elim
    | created disk =>
      obtain ⟨hdisk, hdevice, hlun⟩ := hreports
      obtain ⟨commit, hcommit, hoperation, hrequest, hnumber, hplace⟩ :=
        htruthful.created hmutation (Or.inl hstate)
      obtain ⟨correlationId, hparameters⟩ := hmeant
      refine ⟨hdisk.trans hinstance, commit, hcommits commit hcommit, ?_, hnumber.trans hdevice.symm,
        hplace.trans hlun.symm, correlationId, ?_⟩
      · rw [hoperation, ← hid]
        rfl
      · rw [hrequest, ← hparameters, hcreate]
        rfl
  | deleteById adapterInstance deviceId =>
    cases result with
    | created disk => exact hreports.elim
    | deleted =>
      have hdeletes : (b.extension.operations i).mutation ≠ wispDiskControlCreateDisk := by
        intro hcreate
        cases hmutation.symm.trans hcreate
      obtain ⟨removal, hremoval, hoperation, hnumber⟩ := htruthful.removed hdeletes hstate
      refine ⟨removal, hremovals removal hremoval, ?_, ?_⟩
      · rw [hoperation, ← hid]
        rfl
      · rw [hnumber, ← show command.remove.deviceId = deviceId from hmeant, hdelete]
        rfl

end OperationHandle

/-- What has been done was executed. -/
theorem MutationCall.Done.executed {call : MutationCall} {handle : OperationHandle} {a : Adapter}
    {result : MutationResult} (h : call.Done handle a result)
    (ha : Reachable Adapter.system anyAction a) :
    ∃ execution ∈ a.history.executions, execution.operationId = handle.id := by
  have houtcomes := Outcomes.reachable (Adapter.reachable_anywhere ha)
  cases call with
  | createDisk letter media sizeBytes =>
    cases result with
    | deleted => exact h.elim
    | created disk =>
      obtain ⟨_, commit, hcommit, hoperation, _⟩ := h
      obtain ⟨execution, hexecution, hid, _⟩ := houtcomes.committed commit hcommit _ hoperation
      exact ⟨execution, hexecution, hid⟩
  | deleteById adapterInstance deviceId =>
    cases result with
    | created disk => exact h.elim
    | deleted =>
      obtain ⟨removal, hremoval, hoperation, _⟩ := h
      obtain ⟨execution, hexecution, hid, _⟩ := houtcomes.removed removal hremoval _ hoperation
      exact ⟨execution, hexecution, hid⟩

end Cli

namespace Session

/-- A call that has returned stays so. -/
theorem returned_stays {call : MutationCall} {C : Contract Session SessionAction} {s t : Session}
    {result : Except Error MutationResult} (hrun : Steps (system call) C s t)
    (h : s.progress = .returned result) : t.progress = .returned result := by
  induction hrun with
  | refl => exact h
  | @step t u action _ _ hs ih =>
    have hs' : Session.step call t action = some u := hs
    cases action with
    | driver action =>
      obtain ⟨a, _, rfl⟩ := Option.map_eq_some_iff.mp hs'
      exact ih
    | send correlationId now =>
      simp only [Session.step, ih, Progress.request] at hs'
      split at hs' <;> contradiction
    | receive i =>
      simp only [Session.step, ih, Progress.receive] at hs'
      split at hs'
      · split at hs' <;> cases hs'
      · cases hs'
    | lose error =>
      simp only [Session.step, ih, Progress.receive] at hs'
      split at hs' <;> cases hs'
    | wait again =>
      simp only [Session.step, ih, Progress.wait] at hs'
      cases hs'

/-- The call in session `s`, and in any later one `t`. -/
structure RecoverySafe (call : MutationCall) (s t : Session) : Prop where
  once : ∀ handle, s.handle = some handle →
    (s.adapter.history.executions.map Execution.operationId).count handle.id ≤ 1
  done : ∀ result, s.progress = .returned (.ok result) → ∃ handle, s.handle = some handle ∧
    (∃ execution ∈ s.adapter.history.executions, execution.operationId = handle.id) ∧
      call.Done handle s.adapter result
  undone : ∀ error, s.progress = .returned (.error error) → error.unresolved? = none →
    ∀ handle, t.handle = some handle → call.Undone handle t.adapter

end Session

/-- End-to-end recovery safety, for every schedule of the call, its transport and its adapter. -/
theorem recovery_safe {call : MutationCall} {s t : Session}
    (hs : Reachable (Session.system call) Session.othersKeepOff s)
    (hrun : Steps (Session.system call) Session.othersKeepOff s t) :
    Session.RecoverySafe call s t := by
  have hsound := Session.Sound.reachable hs
  refine ⟨fun handle _ => ?_, fun result hprogress => ?_,
    fun error hprogress hresolved handle hhandle => ?_⟩
  · have hrecords := Records.reachable (Adapter.reachable_anywhere hsound.reached)
    exact List.nodup_iff_count_le_one.mp hrecords.executedOnce handle.id
  · have hrests := hsound.rests
    rw [hprogress] at hrests
    obtain ⟨handle, record, hhandle, hsucceeded, hreports⟩ := hrests
    have hdone := hsucceeded.done (hsound.sameInstance handle hhandle)
      (hsound.ours handle hhandle) hreports
    exact ⟨handle, hhandle, hdone.executed hsound.reached, hdone⟩
  · have hlater := Session.Sound.reachable (hs.path hrun)
    have hrests := hlater.rests
    rw [Session.returned_stays hrun hprogress] at hrests
    exact (hrests hresolved handle hhandle).undone hlater.reached

/-- The driver serves another client. -/
def SessionAction.servesOthers : SessionAction → Bool
  | .driver (.startIo _ _) => true
  | _ => false

namespace Session

theorem steps_alone {call : MutationCall} {s t : Session} {schedule : List SessionAction}
    (hrun : run (system call) s schedule = some t)
    (halone : schedule.all (fun action => !SessionAction.servesOthers action) = true) :
    Steps (system call) othersKeepOff s t := by
  refine path_of_run hrun fun pre action post u hsplit _ srb now heq => ?_
  have hmem : action ∈ schedule := by
    rw [hsplit]
    exact List.mem_append_right pre List.mem_cons_self
  have hnot := List.all_eq_true.mp halone action hmem
  rw [heq] at hnot
  cases hnot

/-- `create_disk` of 16 MiB for the letter R. -/
theorem letter_range : 65 ≤ 'R'.toNat ∧ 'R'.toNat ≤ 90 := by decide

def creating : MutationCall := .createDisk ⟨'R', letter_range⟩ .fixed 16777216

/-- The reply to the create request is lost, and the query finds its result. -/
def lostReply : List SessionAction :=
  [.send 1 0, .driver (.completeRequest 0), .receive 0,
    .send 2 0, .driver (.completeRequest 0), .receive 1,
    .send 3 0, .lose (.os "DeviceIoControl" 1117)] ++ (serve 14).map .driver ++
    [.send 4 0, .driver (.completeRequest 0), .receive 3]

def recovered : Session :=
  (run (system creating) { adapter := Adapter.fresh } lostReply).getD { adapter := Adapter.fresh }

/-- The device ID and the LUN of a call that has created a disk. -/
def createdDisk (s : Session) : Option (ULONG × UCHAR) :=
  match s.progress with
  | .returned (.ok (.created disk)) => some (disk.deviceId, disk.lun)
  | _ => none

end Session

open Session in
theorem recovery_safe_lostReply :
    createdDisk recovered = some (1, 0) ∧ RecoverySafe creating recovered recovered := by
  have hsome : (run (system creating) { adapter := Adapter.fresh } lostReply).isSome = true := by
    decide +kernel
  have hrun : run (system creating) { adapter := Adapter.fresh } lostReply = some recovered := by
    obtain ⟨t, ht⟩ := Option.isSome_iff_exists.mp hsome
    unfold recovered
    rw [ht]
    rfl
  have hinitial : (system creating).initial { adapter := Adapter.fresh } :=
    ⟨Reachable.initial Adapter.fresh_initial, rfl, rfl, rfl⟩
  exact ⟨by decide +kernel, recovery_safe
    ((Reachable.initial hinitial).path (steps_alone hrun (by decide +kernel))) (Steps.refl _)⟩

end WispDisk
