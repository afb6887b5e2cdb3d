import WispDisk.Driver.Sections

/-! The control request that an SRB carries. The worker decodes the SRB it was given a second time,
and finds the request that the submission was admitted with (`Carries`); `handleIoControl` either
leaves the tables alone, reserves an operation, or admits such a request. -/
namespace WispDisk
open Layout
set_option autoImplicit false

/-! ## The envelope -/

namespace ControlRequest

/-- What `FromSrb` has checked of a control view. -/
structure Enveloped (control : ControlRequest) : Prop where
  header : control.ioControl.headerLength = SrbIoControl.size
  signature : control.ioControl.signature = wispdiskSrbSignature
  room : SrbIoControl.size ≤ control.srb.dataTransferLength
  fits : control.ioControl.length ≤ control.srb.dataTransferLength - SrbIoControl.size

theorem fromSrb_enveloped {srb : ScsiRequestBlock} {control : ControlRequest}
    (h : fromSrb srb = some control) : control.Enveloped ∧ control.srb = srb := by
  unfold fromSrb at h
  split at h
  · cases h
  · split at h
    · cases h
    · rename_i hroom
      simp only at h
      split at h
      · cases h
      · rename_i hvalid
        rw [not_or, not_or, not_not, not_not, UInt32.not_lt] at hvalid
        cases h
        exact ⟨⟨hvalid.1, hvalid.2.1, UInt32.not_lt.mp hroom, hvalid.2.2⟩, rfl⟩

/-- The buffer is the envelope written before the payload. -/
theorem buffer_eq (control : ControlRequest) : control.buffer =
    overwrite (fun i => control.payload (i - 28)) 0 (encode control.ioControl.fields) := by
  have hlength : (encode control.ioControl.fields).length = 28 := by
    rw [encode_length, SrbIoControl.widths]
    rfl
  funext i
  unfold buffer
  split
  · rename_i hi
    have hbyte : ∀ m : Bytes, overwrite m 0 (encode control.ioControl.fields) i =
        (encode control.ioControl.fields)[i] := fun m => by
      have h := overwrite_inside m 0 (encode control.ioControl.fields) (i := i) (by omega)
      rwa [Nat.zero_add] at h
    rw [hbyte, hbyte]
  · rw [overwrite_after _ _ _ (by omega)]

theorem buffer_ioControl (control : ControlRequest) :
    SrbIoControl.read control.buffer 0 = control.ioControl := by
  have hread := SrbIoControl.read_encode (fun i => control.payload (i - 28)) 0 control.ioControl []
  rwa [List.append_nil, ← buffer_eq] at hread

theorem buffer_payload (control : ControlRequest) :
    (fun i => control.buffer (28 + i)) = control.payload := by
  funext i
  unfold buffer
  rw [if_neg (by omega), Nat.add_sub_cancel_left]

/-- Decoding the SRB again gives the view back. -/
theorem fromSrb_toSrb {control : ControlRequest} (h : control.Enveloped) :
    fromSrb control.toSrb =
      some { srb := control.toSrb, ioControl := control.ioControl, payload := control.payload } := by
  unfold fromSrb toSrb
  simp only [buffer_ioControl, buffer_payload]
  rw [if_neg (UInt32.not_lt.mpr h.room), if_neg]
  rw [not_or, not_or, not_not, not_not, UInt32.not_lt]
  exact ⟨h.header, h.signature, h.fits⟩

end ControlRequest

/-! ## The validators -/

theorem validateCreateRequest_acceptable {control : ControlRequest} {request : CreateRequest}
    (h : validateCreateRequest control = (statusSuccess, request)) :
    request.acceptable = true := by
  unfold validateCreateRequest at h
  simp only at h
  split at h
  · rename_i hfailed
    rw [(Prod.mk.inj h).1] at hfailed
    cases hfailed
  · split at h
    · exact absurd (Prod.mk.inj h).1 (by decide)
    · rename_i hacceptable
      cases h
      simpa using hacceptable

theorem validateDeleteRequest_deviceId {control : ControlRequest} {request : DeleteRequest}
    (h : validateDeleteRequest control = (statusSuccess, request)) : request.deviceId ≠ 0 := by
  unfold validateDeleteRequest at h
  simp only at h
  split at h
  · rename_i hfailed
    rw [(Prod.mk.inj h).1] at hfailed
    cases hfailed
  · split at h
    · exact absurd (Prod.mk.inj h).1 (by decide)
    · rename_i hvalid
      cases h
      exact fun hzero => hvalid (Or.inl hzero)

theorem validateCreateRequest_status {control : ControlRequest}
    (h : ntSuccess (validateCreateRequest control).1 = true) :
    (validateCreateRequest control).1 = statusSuccess := by
  unfold validateCreateRequest at h ⊢
  simp only at h ⊢
  split at h
  · rename_i hfailed
    simp only at h
    rw [h] at hfailed
    cases hfailed
  · rename_i hread
    rw [if_neg hread]
    split at h
    · cases h
    · rename_i hacceptable
      rw [if_neg hacceptable]

theorem validateDeleteRequest_status {control : ControlRequest}
    (h : ntSuccess (validateDeleteRequest control).1 = true) :
    (validateDeleteRequest control).1 = statusSuccess := by
  unfold validateDeleteRequest at h ⊢
  simp only at h ⊢
  split at h
  · rename_i hfailed
    simp only at h
    rw [h] at hfailed
    cases hfailed
  · rename_i hread
    rw [if_neg hread]
    split at h
    · cases h
    · rename_i hvalid
      rw [if_neg hvalid]

/-- What the validators have checked before a command is submitted. -/
def MutationCommand.validated (command : MutationCommand) : Prop :=
  if command.mutation = wispDiskControlCreateDisk then command.create.acceptable = true
  else command.remove.deviceId ≠ 0

/-- The control request carries the command. -/
structure Carries (control : ControlRequest) (command : MutationCommand) : Prop where
  enveloped : control.Enveloped
  code : control.ioControl.controlCode = command.operation.code
  identity : command.isReserved = true →
    OperationRequest.read control.payload 0 = command.identity
  create : command.operation = .createDisk →
    validateCreateRequest control = (statusSuccess, command.create)
  remove : command.operation = .deleteDisk →
    validateDeleteRequest control = (statusSuccess, command.remove)

theorem Carries.of_payload {control control' : ControlRequest} {command : MutationCommand}
    (h : Carries control command) (henveloped : control'.Enveloped)
    (hcode : control'.ioControl.controlCode = control.ioControl.controlCode)
    (hlength : control'.ioControl.length = control.ioControl.length)
    (hpayload : control'.payload = control.payload) : Carries control' command where
  enveloped := henveloped
  code := hcode.trans h.code
  identity := fun hk => by
    rw [hpayload]
    exact h.identity hk
  create := fun hop => by
    rw [← h.create hop]
    unfold validateCreateRequest ControlRequest.readRequest
    rw [hpayload, hlength]
  remove := fun hop => by
    rw [← h.remove hop]
    unfold validateDeleteRequest ControlRequest.readRequest
    rw [hpayload, hlength]

theorem Carries.markPending {control : ControlRequest} {command : MutationCommand}
    (h : Carries control command) : Carries (ManagementController.markPending control) command :=
  h.of_payload ⟨h.enveloped.header, h.enveloped.signature, h.enveloped.room, h.enveloped.fits⟩
    rfl rfl rfl

/-- The worker's decoding finds the command again. -/
theorem Carries.decoded {control : ControlRequest} {command : MutationCommand}
    (h : Carries control command) :
    Carries { srb := control.toSrb, ioControl := control.ioControl, payload := control.payload }
      command :=
  h.of_payload ⟨h.enveloped.header, h.enveloped.signature, h.enveloped.room, h.enveloped.fits⟩
    rfl rfl rfl

/-! ## HandleIoControl -/

namespace ControlDispatch
open ManagementController

/-- What answering a control request at once can do to the tables. -/
inductive Answered (ext : AdapterExtension) : AdapterExtension → Prop
  | kept (debug : Option DebugState) : Answered ext { ext with debug := debug }
  | passed (hidle : ext.managementBusy = false) : Answered ext (endManagementLocked (begun ext))
  | reserved (mutation : ULONG) (i : Fin kMaximumOperationCount)
      (hmutation : mutation = wispDiskControlCreateDisk ∨ mutation = wispDiskControlDeleteDisk)
      (hopen : ext.adapterStopping = false) (hnext : ext.nextOperationId ≠ 0)
      (hslot : selectSlot ext.operations recordIndices none = some i) :
      Answered ext { ext with
        operations := Function.update ext.operations i
          (reservedRecord ext.nextOperationId mutation)
        nextOperationId := ext.nextOperationId + 1 }

theorem Answered.refl (ext : AdapterExtension) : Answered ext ext := Answered.kept ext.debug

/-- What admission does to the tables. -/
inductive AdmittedExtension (ext : AdapterExtension) (command : MutationCommand) :
    AdapterExtension → Prop
  | legacy (debug : Option DebugState) (hkind : command.isReserved = false) :
      AdmittedExtension ext command { begun ext with debug := debug }
  | bound (debug : Option DebugState) (i : Fin kMaximumOperationCount)
      (hkind : command.isReserved = true)
      (hinstance : command.identity.adapterInstance = ext.adapterInstance)
      (hid : (ext.operations i).id = command.identity.operationId)
      (hzero : (ext.operations i).id ≠ 0)
      (hmutation : (ext.operations i).mutation = command.mutation)
      (hstate : (ext.operations i).state = .reserved) :
      AdmittedExtension ext command
        { (begun ext).setOperation i (boundRecord (ext.operations i) command) with debug := debug }

/-- An admitted submission. -/
structure Admitted (ext ext' : AdapterExtension) (control : ControlRequest)
    (command : MutationCommand) : Prop where
  opened : ext.adapterStopping = false
  idle : ext.managementBusy = false
  validated : command.validated
  carries : Carries control command
  extension : AdmittedExtension ext command ext'

/-- What a handler leaves of the extension. -/
inductive Handled (ext : AdapterExtension) : Outcome → Prop
  | complete {ext' : AdapterExtension} (control : ControlRequest) (h : Answered ext ext') :
      Handled ext (.complete ext' control)
  | submitted {ext' : AdapterExtension} {control : ControlRequest} {command : MutationCommand}
      (h : Admitted ext ext' control command) : Handled ext (.submitted ext' control command)

theorem Handled.refused (ext : AdapterExtension) (control : ControlRequest) :
    Handled ext (.complete ext control) := Handled.complete control (Answered.refl ext)

theorem submit_handled {ext : AdapterExtension} {control : ControlRequest}
    {command : MutationCommand} (hvalid : command.validated) (hcarries : Carries control command)
    (now : LONGLONG) : Handled ext (submit ext control command now) := by
  have hspec := prepareSubmission_spec ext control command now
  unfold submit
  generalize prepareSubmission ext control command now = prepared at hspec ⊢
  cases hspec with
  | refused status hstatus => exact Handled.refused _ _
  | unbound status hopen hidle hkind hstatus => exact Handled.complete _ (Answered.passed hidle)
  | replayed i hopen hidle hkind hinstance hid hzero hmutation hstate hparameters =>
    exact Handled.complete _ (Answered.passed hidle)
  | legacy hopen hidle hkind =>
    exact Handled.submitted ⟨hopen, hidle, hvalid, hcarries.markPending, .legacy _ hkind⟩
  | bound i hopen hidle hkind hinstance hid hzero hmutation hstate =>
    exact Handled.submitted ⟨hopen, hidle, hvalid, hcarries.markPending,
      .bound _ i hkind hinstance hid hzero hmutation hstate⟩

/-- A request that `ReadOperationRequest` accepts is what the payload holds. -/
theorem readOperationRequest_ok {Request : Type} {control : ControlRequest} {size : ULONG}
    {read : Bytes → ℕ → Request} {initial request : Request} {header : RequestHeader}
    (h : readOperationRequest control size read initial = .ok (request, header)) :
    request = read control.payload 0 := by
  unfold readOperationRequest at h
  simp only at h
  split at h
  · split at h
    · cases h
    · rename_i hstatus
      exact absurd rfl hstatus
  · split at h
    · cases h
    rename_i hstatus
    rw [Bool.not_eq_true', Bool.not_eq_false] at hstatus
    cases h
    have hread : ntSuccess (control.readRequest size read initial
        control.ioControl.controlCode).1 = true := hstatus
    unfold ControlRequest.readRequest at hread ⊢
    simp only at hread ⊢
    rw [if_pos hread]

theorem handleReserveOperation_handled (ext : AdapterExtension) (control : ControlRequest) :
    Handled ext (handleReserveOperation ext control) := by
  unfold handleReserveOperation
  split
  · exact Handled.refused _ _
  · simp only
    split
    · exact Handled.refused _ _
    · rename_i result hreserve
      split at hreserve
      · obtain ⟨hmutation, hopen, hnext, _, i, hslot, heq⟩ := reserveOperation_ok hreserve
        subst heq
        exact Handled.complete _ (Answered.reserved _ i hmutation hopen hnext hslot)
      · cases hreserve

theorem handleQueryOperation_handled (ext : AdapterExtension) (control : ControlRequest) :
    Handled ext (handleQueryOperation ext control) := by
  unfold handleQueryOperation
  split
  · exact Handled.refused _ _
  · split <;> exact Handled.refused _ _

theorem handleReservedCreateControl_handled (ext : AdapterExtension) {control : ControlRequest}
    (henveloped : control.Enveloped)
    (hcode : control.ioControl.controlCode = wispDiskControlCreateReserved) (now : LONGLONG) :
    Handled ext (handleReservedCreateControl ext control now) := by
  unfold handleReservedCreateControl
  split
  · exact Handled.refused _ _
  · rename_i request header hread
    have hrequest := readOperationRequest_ok hread
    simp only
    split
    · exact Handled.refused _ _
    · rename_i hvalid
      rw [Bool.not_eq_true', Bool.not_eq_false] at hvalid
      have hsuccess := validateCreateRequest_status hvalid
      refine submit_handled ?_ ?_ now
      · exact validateCreateRequest_acceptable (Prod.ext hsuccess rfl)
      · refine Carries.mk henveloped hcode (fun _ => ?_) (fun h => ?_) (fun h => ?_)
        · rw [hrequest]
          rfl
        · cases h
        · cases h

theorem handleReservedDeleteControl_handled (ext : AdapterExtension) {control : ControlRequest}
    (henveloped : control.Enveloped)
    (hcode : control.ioControl.controlCode = wispDiskControlDeleteReserved) (now : LONGLONG) :
    Handled ext (handleReservedDeleteControl ext control now) := by
  unfold handleReservedDeleteControl
  split
  · exact Handled.refused _ _
  · rename_i request header hread
    have hrequest := readOperationRequest_ok hread
    simp only
    split
    · exact Handled.refused _ _
    · rename_i hvalid
      rw [Bool.not_eq_true', Bool.not_eq_false] at hvalid
      have hsuccess := validateDeleteRequest_status hvalid
      refine submit_handled ?_ ?_ now
      · exact validateDeleteRequest_deviceId (Prod.ext hsuccess rfl)
      · refine Carries.mk henveloped hcode (fun _ => ?_) (fun h => ?_) (fun h => ?_)
        · rw [hrequest]
          rfl
        · cases h
        · cases h

theorem handleCreateControl_handled (ext : AdapterExtension) {control : ControlRequest}
    (henveloped : control.Enveloped)
    (hcode : control.ioControl.controlCode = wispDiskControlCreateDisk) (now : LONGLONG) :
    Handled ext (handleCreateControl ext control now) := by
  unfold handleCreateControl
  simp only
  split
  · exact Handled.refused _ _
  · rename_i hvalid
    rw [Bool.not_eq_true', Bool.not_eq_false] at hvalid
    have hsuccess := validateCreateRequest_status hvalid
    refine submit_handled ?_ ?_ now
    · exact validateCreateRequest_acceptable (Prod.ext hsuccess rfl)
    · refine Carries.mk henveloped hcode (fun h => ?_) (fun _ => Prod.ext hsuccess rfl) (fun h => ?_)
      · cases h
      · cases h

theorem handleDeleteControl_handled (ext : AdapterExtension) {control : ControlRequest}
    (henveloped : control.Enveloped)
    (hcode : control.ioControl.controlCode = wispDiskControlDeleteDisk) (now : LONGLONG) :
    Handled ext (handleDeleteControl ext control now) := by
  unfold handleDeleteControl
  simp only
  split
  · exact Handled.refused _ _
  · rename_i hvalid
    rw [Bool.not_eq_true', Bool.not_eq_false] at hvalid
    have hsuccess := validateDeleteRequest_status hvalid
    refine submit_handled ?_ ?_ now
    · exact validateDeleteRequest_deviceId (Prod.ext hsuccess rfl)
    · refine Carries.mk henveloped hcode (fun h => ?_) (fun h => ?_) (fun _ => Prod.ext hsuccess rfl)
      · cases h
      · cases h

theorem handleControl_answered (ext : AdapterExtension) (control : ControlRequest) :
    Answered ext (Diagnostics.handleControl ext control).1 := by
  unfold Diagnostics.handleControl
  simp only
  split
  · exact Answered.refl ext
  · rename_i debug _
    split
    · split
      · exact Answered.refl ext
      · split
        · exact Answered.refl ext
        · unfold Diagnostics.configure
          split
          · split
            · exact Answered.refl ext
            · exact Answered.kept _
          · exact Answered.refl ext
    · split
      · exact Answered.refl ext
      · split <;> exact Answered.refl ext

theorem dispatchControlRequest_handled (ext : AdapterExtension) {control : ControlRequest}
    (henveloped : control.Enveloped) (now : LONGLONG) :
    Handled ext (dispatchControlRequest ext control now) := by
  unfold dispatchControlRequest
  simp only
  split
  · exact Handled.complete _ (handleControl_answered ext control)
  split
  · exact handleReserveOperation_handled ext control
  split
  · exact handleQueryOperation_handled ext control
  split
  · unfold handleListState
    simp only
    split
    · split <;> exact Handled.refused _ _
    · split <;> exact Handled.refused _ _
  split
  · rename_i hcode
    exact handleReservedCreateControl_handled ext henveloped hcode now
  split
  · rename_i hcode
    exact handleReservedDeleteControl_handled ext henveloped hcode now
  split
  · unfold handleQueryVersion
    simp only
    split
    · exact Handled.refused _ _
    · split <;> exact Handled.refused _ _
  split
  · unfold handleListDisks
    simp only
    split <;> exact Handled.refused _ _
  split
  · rename_i hcode
    exact handleCreateControl_handled ext henveloped hcode now
  split
  · rename_i hcode
    exact handleDeleteControl_handled ext henveloped hcode now
  · exact Handled.refused _ _

/-- `WispDiskHandleIoControl` answers at once or admits a submission. -/
theorem handleIoControl_spec (ext : AdapterExtension) (srb : ScsiRequestBlock) (now : LONGLONG) :
    (∃ ext' srb', handleIoControl ext srb now = .complete ext' srb' ∧ Answered ext ext') ∨
      ∃ ext' control command, handleIoControl ext srb now = .submitted ext' control command ∧
        Admitted ext ext' control command := by
  unfold handleIoControl
  cases hview : ControlRequest.fromSrb srb with
  | none => exact Or.inl ⟨_, _, rfl, Answered.refl ext⟩
  | some control =>
    have henveloped := (ControlRequest.fromSrb_enveloped hview).1
    cases hdispatch : dispatchControlRequest ext control now with
    | complete ext' control' =>
      have hhandled := dispatchControlRequest_handled ext henveloped now
      rw [hdispatch] at hhandled
      cases hhandled with
      | complete _ h => exact Or.inl ⟨ext', control'.toSrb, by simp only [hdispatch], h⟩
    | submitted ext' control' command =>
      have hhandled := dispatchControlRequest_handled ext henveloped now
      rw [hdispatch] at hhandled
      cases hhandled with
      | submitted h => exact Or.inr ⟨ext', control', command, by simp only [hdispatch], h⟩

end ControlDispatch

end WispDisk
