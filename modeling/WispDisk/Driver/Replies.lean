import WispDisk.Driver.Adapter
import WispDisk.Driver.Tails

/-! What the handlers do to the SRB: every answer is one response, no longer than the envelope's
`Length`, or a bare completion (`Reply`). An admitted request leaves the SRB as it is, apart from
the status PENDING. -/
namespace WispDisk
open Layout
set_option autoImplicit false

/-- A control request after its answer has been written. -/
inductive ControlRequest.Reply (control : ControlRequest) : ControlRequest → Prop
  | bare (status : NTSTATUS) : Reply control (control.prepareCompletion status 0)
  | filled (size : ULONG) (response : Fields) (status : NTSTATUS)
      (hroom : size ≤ control.ioControl.length) :
      Reply control
        ({ control with payload := overwrite control.payload 0 (encode response) }.prepareCompletion
          status size)

namespace ControlRequest

theorem writeResponse_reply (control : ControlRequest) (size : ULONG) (response : Fields)
    (status : NTSTATUS) : control.Reply (control.writeResponse size response status) := by
  unfold writeResponse
  split
  · exact Reply.bare _
  · rename_i hroom
    exact Reply.filled _ _ _ (UInt32.not_lt.mp hroom)

theorem writeError_reply (control : ControlRequest) (operation : ULONG) (status : NTSTATUS)
    (correlationId : ULONGLONG) :
    control.Reply (control.writeError operation status correlationId) := by
  unfold writeError
  split
  · exact writeResponse_reply _ _ _ _
  · exact Reply.bare _

namespace Reply

variable {control control' : ControlRequest} {n : ℕ}

theorem length_le (h : control.Reply control') :
    control'.ioControl.length ≤ control.ioControl.length := by
  cases h with
  | bare status => exact UInt32.le_iff_toNat_le.mpr (Nat.zero_le _)
  | filled size response status hroom => exact hroom

theorem fits (h : control.Reply control') (hfits : control.Fits n) : control'.Fits n := by
  have hlength := UInt32.le_iff_toNat_le.mp h.length_le
  unfold Fits at hfits ⊢
  omega

/-- The completed length is the envelope and the payload that was written. -/
theorem dataTransferLength_le {limit : ULONG} (h : control.Reply control')
    (hfits : control.Fits n) (hn : n ≤ limit.toNat) :
    control'.srb.dataTransferLength ≤ limit := by
  have hfits' := h.fits hfits
  have hlimit := limit.toNat_lt
  have hsize : SrbIoControl.size.toNat = 28 := rfl
  have hlength : control'.srb.dataTransferLength =
      SrbIoControl.size + control'.ioControl.length := by
    cases h <;> rfl
  unfold Fits at hfits'
  rw [hlength, UInt32.le_iff_toNat_le, UInt32.toNat_add, hsize]
  omega

end Reply

end ControlRequest

namespace ManagementController

theorem failOperationLocked_reply (ext : AdapterExtension) (id : ULONGLONG) (status : NTSTATUS)
    (control : ControlRequest) (correlation : ULONGLONG) (now : LONGLONG) :
    control.Reply (failOperationLocked ext id status control correlation now).2 := by
  unfold failOperationLocked
  split
  · exact ControlRequest.writeError_reply _ _ _ _
  · exact ControlRequest.writeResponse_reply _ _ _ _

theorem failQueueing_reply (ext : AdapterExtension) (control : ControlRequest)
    (command : MutationCommand) (now : LONGLONG) :
    control.Reply (failQueueing ext control command now).2 := by
  unfold failQueueing
  by_cases hkind : command.isReserved = true
  · simp only [hkind, if_true]
    exact failOperationLocked_reply _ _ _ _ _ _
  · simp only [hkind, Bool.false_eq_true, if_false]
    exact ControlRequest.writeError_reply _ _ _ _

theorem publishOperationResult_reply (ext : AdapterExtension) (control : ControlRequest)
    (snapshot : OperationRecord) (correlation : ULONGLONG) (now : LONGLONG) :
    control.Reply (publishOperationResult ext control snapshot correlation now).2 := by
  unfold publishOperationResult
  split
  · exact ControlRequest.writeError_reply _ _ _ _
  · exact ControlRequest.writeResponse_reply _ _ _ _

theorem snapshotPendingOperation_reply {ext : AdapterExtension} {control control' : ControlRequest}
    {identity : OperationRequest}
    (h : snapshotPendingOperation ext control identity = .error control') :
    control.Reply control' := by
  unfold snapshotPendingOperation at h
  simp only at h
  split at h
  · cases h
    exact ControlRequest.writeError_reply _ _ _ _
  · split at h
    · cases h
      exact ControlRequest.writeError_reply _ _ _ _
    · cases h

end ManagementController

namespace ControlDispatch
open ManagementController

/-- A handler's outcome: an answer, or the request marked PENDING, with room for the structure that
the worker reads and for the response. -/
inductive Replies (control : ControlRequest) : Outcome → Prop
  | complete (ext : AdapterExtension) {control' : ControlRequest} (h : control.Reply control') :
      Replies control (.complete ext control')
  | submitted (ext : AdapterExtension) (command : MutationCommand)
      (hroom : isReservedCode control.ioControl.controlCode = true →
        OperationResponse.size ≤ control.ioControl.length) :
      Replies control (.submitted ext (markPending control) command)

variable {ext : AdapterExtension} {control : ControlRequest}

theorem submit_replies (ext : AdapterExtension) (command : MutationCommand) (now : LONGLONG)
    (hroom : isReservedCode control.ioControl.controlCode = true →
      OperationResponse.size ≤ control.ioControl.length) :
    Replies control (submit ext control command now) := by
  have hspec := prepareSubmission_spec ext control command now
  unfold submit
  generalize prepareSubmission ext control command now = prepared at hspec ⊢
  cases hspec with
  | refused | unbound => exact Replies.complete _ (ControlRequest.writeError_reply _ _ _ _)
  | replayed => exact Replies.complete _ (ControlRequest.writeResponse_reply _ _ _ _)
  | legacy | bound => exact Replies.submitted _ _ hroom

theorem readOperationRequest_reply {Request : Type} {control' : ControlRequest} {size : ULONG}
    {read : Bytes → ℕ → Request} {initial : Request}
    (h : readOperationRequest control size read initial = .error control') :
    control.Reply control' := by
  unfold readOperationRequest at h
  simp only at h
  split at h
  · split at h
    · cases h
      exact ControlRequest.writeError_reply _ _ _ _
    · cases h
  · split at h
    · cases h
      exact ControlRequest.writeError_reply _ _ _ _
    · cases h

/-- A request that is read in has room for its response. -/
theorem readOperationRequest_room {Request : Type} {size : ULONG} {read : Bytes → ℕ → Request}
    {initial request : Request} {header : RequestHeader}
    (h : readOperationRequest control size read initial = .ok (request, header)) :
    OperationResponse.size ≤ control.ioControl.length := by
  unfold readOperationRequest at h
  simp only at h
  split at h
  · cases h
  · rename_i hstatus
    split at h
    · cases h
    · rename_i hsuccess
      rw [Bool.not_eq_true', Bool.not_eq_false] at hsuccess
      exact UInt32.not_lt.mp fun hshort => hstatus ⟨hsuccess, hshort⟩

theorem handleReserveOperation_replies (ext : AdapterExtension) (control : ControlRequest) :
    Replies control (handleReserveOperation ext control) := by
  unfold handleReserveOperation
  split
  · rename_i hread
    exact Replies.complete _ (readOperationRequest_reply hread)
  · simp only
    split
    · exact Replies.complete _ (ControlRequest.writeError_reply _ _ _ _)
    · exact Replies.complete _ (ControlRequest.writeResponse_reply _ _ _ _)

theorem handleQueryOperation_replies (ext : AdapterExtension) (control : ControlRequest) :
    Replies control (handleQueryOperation ext control) := by
  unfold handleQueryOperation
  split
  · rename_i hread
    exact Replies.complete _ (readOperationRequest_reply hread)
  · split
    · exact Replies.complete _ (ControlRequest.writeError_reply _ _ _ _)
    · exact Replies.complete _ (ControlRequest.writeResponse_reply _ _ _ _)

theorem handleReservedCreateControl_replies (ext : AdapterExtension) (control : ControlRequest)
    (now : LONGLONG) : Replies control (handleReservedCreateControl ext control now) := by
  unfold handleReservedCreateControl
  split
  · rename_i hread
    exact Replies.complete _ (readOperationRequest_reply hread)
  · rename_i hread
    simp only
    split
    · exact Replies.complete _ (ControlRequest.writeError_reply _ _ _ _)
    · exact submit_replies _ _ now fun _ => readOperationRequest_room hread

theorem handleReservedDeleteControl_replies (ext : AdapterExtension) (control : ControlRequest)
    (now : LONGLONG) : Replies control (handleReservedDeleteControl ext control now) := by
  unfold handleReservedDeleteControl
  split
  · rename_i hread
    exact Replies.complete _ (readOperationRequest_reply hread)
  · rename_i hread
    simp only
    split
    · exact Replies.complete _ (ControlRequest.writeError_reply _ _ _ _)
    · exact submit_replies _ _ now fun _ => readOperationRequest_room hread

theorem handleControl_reply (ext : AdapterExtension) (control : ControlRequest) :
    control.Reply (Diagnostics.handleControl ext control).2 := by
  have herror := ControlRequest.writeError_reply control
  unfold Diagnostics.handleControl
  simp only
  split
  · exact herror _ _ _
  · split
    · split
      · exact herror _ _ _
      · split <;> exact herror _ _ _
    · split
      · exact herror _ _ _
      · split
        · exact herror _ _ _
        · exact ControlRequest.writeResponse_reply _ _ _ _

theorem dispatchControlRequest_replies (ext : AdapterExtension) (control : ControlRequest)
    (now : LONGLONG) : Replies control (dispatchControlRequest ext control now) := by
  have herror := ControlRequest.writeError_reply control
  have hresponse := ControlRequest.writeResponse_reply control
  unfold dispatchControlRequest
  simp only
  split
  · exact Replies.complete _ (handleControl_reply ext control)
  split
  · exact handleReserveOperation_replies ext control
  split
  · exact handleQueryOperation_replies ext control
  split
  · unfold handleListState
    simp only
    split <;> split
    · exact Replies.complete _ (herror _ _ _)
    · exact Replies.complete _ (hresponse _ _ _)
    · exact Replies.complete _ (herror _ _ _)
    · exact Replies.complete _ (hresponse _ _ _)
  split
  · exact handleReservedCreateControl_replies ext control now
  split
  · exact handleReservedDeleteControl_replies ext control now
  split
  · unfold handleQueryVersion
    simp only
    split
    · exact Replies.complete _ (herror _ _ _)
    · split
      · exact Replies.complete _ (herror _ _ _)
      · exact Replies.complete _ (hresponse _ _ _)
  split
  · unfold handleListDisks
    simp only
    split
    · exact Replies.complete _ (herror _ _ _)
    · exact Replies.complete _ (hresponse _ _ _)
  have hlegacy : ∀ code, control.ioControl.controlCode = code → isReservedCode code = false →
      isReservedCode control.ioControl.controlCode = true →
        OperationResponse.size ≤ control.ioControl.length := by
    intro code hcode hnot hreserved
    rw [hcode, hnot] at hreserved
    cases hreserved
  split
  · rename_i hcode
    unfold handleCreateControl
    simp only
    split
    · exact Replies.complete _ (hresponse _ _ _)
    · exact submit_replies _ _ now (hlegacy _ hcode (by decide))
  split
  · rename_i hcode
    unfold handleDeleteControl
    simp only
    split
    · exact Replies.complete _ (hresponse _ _ _)
    · exact submit_replies _ _ now (hlegacy _ hcode (by decide))
  · exact Replies.complete _ (herror _ _ _)

end ControlDispatch

end WispDisk
