import WispDisk.Foundations.Tail
import WispDisk.Protocol.Wire

/-! How far into a buffer the messages reach. Every decoder reads no further than its structure is
long, and every response encodes to exactly the size it is written with. -/
namespace WispDisk
open Layout
set_option autoImplicit false

theorem reads_readUCHAR : Reads readUCHAR 1 := fun m m' o h => by
  unfold readUCHAR
  rw [readLE_congr h]

theorem reads_readUSHORT : Reads readUSHORT 2 := fun m m' o h => by
  unfold readUSHORT
  rw [readLE_congr h]

theorem reads_readULONG : Reads readULONG 4 := fun m m' o h => by
  unfold readULONG
  rw [readLE_congr h]

theorem reads_readULONGLONG : Reads readULONGLONG 8 := fun m m' o h => by
  unfold readULONGLONG
  rw [readLE_congr h]

theorem reads_readNTSTATUS : Reads readNTSTATUS 4 := fun m m' o h => by
  unfold readNTSTATUS
  rw [reads_readULONG m m' o h]

/-! ## Decoders -/

theorem SrbIoControl.reads : Reads SrbIoControl.read SrbIoControl.size.toNat := by
  intro m m' o h
  unfold SrbIoControl.read
  rw [reads_readULONG.inside (p := 0) (by decide) h, reads_readULONGLONG.inside (p := 4) (by decide) h,
    reads_readULONG.inside (p := 12) (by decide) h, reads_readULONG.inside (p := 16) (by decide) h,
    reads_readULONG.inside (p := 20) (by decide) h, reads_readULONG.inside (p := 24) (by decide) h]

theorem RequestHeader.reads : Reads RequestHeader.read RequestHeader.size.toNat := by
  intro m m' o h
  unfold RequestHeader.read
  rw [reads_readULONG.inside (p := 0) (by decide) h, reads_readULONG.inside (p := 4) (by decide) h,
    reads_readULONG.inside (p := 8) (by decide) h, reads_readULONG.inside (p := 12) (by decide) h,
    reads_readULONGLONG.inside (p := 16) (by decide) h]

theorem ResponseHeader.reads : Reads ResponseHeader.read ResponseHeader.size.toNat := by
  intro m m' o h
  unfold ResponseHeader.read
  rw [reads_readULONG.inside (p := 0) (by decide) h, reads_readULONG.inside (p := 4) (by decide) h,
    reads_readULONG.inside (p := 8) (by decide) h, reads_readNTSTATUS.inside (p := 12) (by decide) h,
    reads_readULONGLONG.inside (p := 16) (by decide) h]

theorem CreateRequest.reads : Reads CreateRequest.read CreateRequest.size.toNat := by
  intro m m' o h
  have hheader : RequestHeader.read m o = RequestHeader.read m' o :=
    RequestHeader.reads.inside (p := 0) (by decide) h
  unfold CreateRequest.read
  rw [hheader, reads_readULONGLONG.inside (p := 24) (by decide) h,
    reads_readULONG.inside (p := 32) (by decide) h, reads_readULONG.inside (p := 36) (by decide) h,
    reads_readUSHORT.inside (p := 40) (by decide) h, reads_readUSHORT.inside (p := 42) (by decide) h,
    reads_readULONG.inside (p := 44) (by decide) h]

theorem DeleteRequest.reads : Reads DeleteRequest.read DeleteRequest.size.toNat := by
  intro m m' o h
  have hheader : RequestHeader.read m o = RequestHeader.read m' o :=
    RequestHeader.reads.inside (p := 0) (by decide) h
  unfold DeleteRequest.read
  rw [hheader, reads_readULONG.inside (p := 24) (by decide) h,
    reads_readULONG.inside (p := 28) (by decide) h]

theorem ReserveRequest.reads : Reads ReserveRequest.read ReserveRequest.size.toNat := by
  intro m m' o h
  have hheader : RequestHeader.read m o = RequestHeader.read m' o :=
    RequestHeader.reads.inside (p := 0) (by decide) h
  unfold ReserveRequest.read
  rw [hheader, reads_readULONG.inside (p := 24) (by decide) h,
    reads_readULONG.inside (p := 28) (by decide) h]

theorem OperationRequest.reads : Reads OperationRequest.read OperationRequest.size.toNat := by
  intro m m' o h
  have hheader : RequestHeader.read m o = RequestHeader.read m' o :=
    RequestHeader.reads.inside (p := 0) (by decide) h
  unfold OperationRequest.read
  rw [hheader, reads_readULONGLONG.inside (p := 24) (by decide) h,
    reads_readULONGLONG.inside (p := 32) (by decide) h]

theorem ReservedCreateRequest.reads : Reads ReservedCreateRequest.read ReservedCreateRequest.size.toNat := by
  intro m m' o h
  have hidentity : OperationRequest.read m o = OperationRequest.read m' o :=
    OperationRequest.reads.inside (p := 0) (by decide) h
  unfold ReservedCreateRequest.read
  rw [hidentity, reads_readULONGLONG.inside (p := 40) (by decide) h,
    reads_readULONG.inside (p := 48) (by decide) h, reads_readULONG.inside (p := 52) (by decide) h,
    reads_readUSHORT.inside (p := 56) (by decide) h, reads_readUSHORT.inside (p := 58) (by decide) h,
    reads_readULONG.inside (p := 60) (by decide) h]

theorem ReservedDeleteRequest.reads : Reads ReservedDeleteRequest.read ReservedDeleteRequest.size.toNat := by
  intro m m' o h
  have hidentity : OperationRequest.read m o = OperationRequest.read m' o :=
    OperationRequest.reads.inside (p := 0) (by decide) h
  unfold ReservedDeleteRequest.read
  rw [hidentity, reads_readULONG.inside (p := 40) (by decide) h,
    reads_readULONG.inside (p := 44) (by decide) h]

theorem OperationResponse.reads : Reads OperationResponse.read OperationResponse.size.toNat := by
  intro m m' o h
  have hheader : ResponseHeader.read m o = ResponseHeader.read m' o :=
    ResponseHeader.reads.inside (p := 0) (by decide) h
  unfold OperationResponse.read
  rw [hheader, reads_readULONGLONG.inside (p := 24) (by decide) h,
    reads_readULONGLONG.inside (p := 32) (by decide) h,
    reads_readULONG.inside (p := 40) (by decide) h, reads_readULONG.inside (p := 44) (by decide) h,
    reads_readNTSTATUS.inside (p := 48) (by decide) h, reads_readULONG.inside (p := 52) (by decide) h,
    reads_readUCHAR.inside (p := 56) (by decide) h, reads_readUCHAR.inside (p := 57) (by decide) h,
    reads_readUCHAR.inside (p := 58) (by decide) h, reads_readUCHAR.inside (p := 59) (by decide) h,
    reads_readULONG.inside (p := 60) (by decide) h]

/-! ## Responses -/

theorem ResponseHeader.encode_length (r : ResponseHeader) :
    (encode r.fields).length = ResponseHeader.size.toNat := by
  rw [Layout.encode_length, r.widths]
  rfl

theorem OperationResponse.encode_length (r : OperationResponse) :
    (encode r.fields).length = OperationResponse.size.toNat := by
  rw [Layout.encode_length, r.widths]
  rfl

theorem QueryVersionResponse.encode_length (r : QueryVersionResponse) :
    (encode r.fields).length = QueryVersionResponse.size.toNat := by
  rw [Layout.encode_length]
  rfl

theorem CreateResponse.encode_length (r : CreateResponse) :
    (encode r.fields).length = CreateResponse.size.toNat := by
  rw [Layout.encode_length]
  rfl

theorem flatMap_encode_length {α : Type} (fields : α → Fields) {width : ℕ}
    (hwidth : ∀ a, (encode (fields a)).length = width) (entries : List α) :
    (encode (entries.flatMap fields)).length = entries.length * width := by
  induction entries with
  | nil => rw [List.flatMap_nil, Layout.encode_length]; simp
  | cons entry rest ih =>
    rw [List.flatMap_cons, encode_append, List.length_append, hwidth, ih, List.length_cons,
      Nat.succ_mul, Nat.add_comm]

theorem diskArray_encode_length {α : Type} (zero : α) (fields : α → Fields) {width : ℕ}
    (hwidth : ∀ a, (encode (fields a)).length = width) {entries : List α}
    (hroom : entries.length ≤ 16) :
    (encode (diskArray zero fields entries)).length = 16 * width := by
  have hcount : wispdiskMaximumDiskCount.toNat = 16 := rfl
  unfold diskArray
  rw [flatMap_encode_length fields hwidth, List.length_append, List.length_replicate, hcount,
    Nat.add_sub_cancel' hroom]

theorem DiskInfo.encode_length (r : DiskInfo) : (encode r.fields).length = 32 := by
  rw [Layout.encode_length]
  rfl

theorem DiskState.encode_length (r : DiskState) : (encode r.fields).length = 48 := by
  rw [Layout.encode_length]
  rfl

theorem ListResponse.encode_length (r : ListResponse) (hroom : r.disks.length ≤ 16) :
    (encode r.fields).length = ListResponse.size.toNat := by
  unfold ListResponse.fields
  rw [encode_append, List.length_append, diskArray_encode_length _ _ DiskInfo.encode_length hroom,
    Layout.encode_length]
  rfl

theorem StateResponse.encode_length (r : StateResponse) (hroom : r.disks.length ≤ 16) :
    (encode r.fields).length = StateResponse.size.toNat := by
  unfold StateResponse.fields
  rw [encode_append, List.length_append, diskArray_encode_length _ _ DiskState.encode_length hroom,
    Layout.encode_length]
  rfl

end WispDisk
