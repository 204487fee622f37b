import RmwConnextdds.WaitSet.Basic
import Mathlib.Data.List.Basic

/-! # Request/reply correlation

A client stamps each request with its request writer's identity and a sequence number; the
service copies both into the request id its caller gets, hands that id back to `send_response`,
which stamps them as the reply's related identity; the client copies them out of the reply.
Outside emulation mode the pair travels in the samples' `sample_identity` (requests) and
`related_sample_identity` (replies), converted by `requestreply_header_to_dds` and
`requestreply_header_from_dds`.

## Transcription choices

* Byte arrays are lists whose length is a field of the structure that holds them: a
  `DDS_GUID_t` has 16 bytes, an `rmw_gid_t` has `rmwGidStorageSize` (rmw's
  `RMW_GID_STORAGE_SIZE`; the code needs only that it is at least 16).
* `int64_t` and the two halves of `DDS_SequenceNumber_t` are `BitVec 64` and `BitVec 32`.
* Modelled from the spec: `rmw_connextdds_sn_ros_to_dds` and `rmw_connextdds_sn_dds_to_ros`
  (macros of `rmw_impl.hpp`) split a sequence number into its signed high and unsigned low
  32 bits and join them back; a writer's `gid()` (built by `rmw_connextdds_ih_to_gid`, also in
  `rmw_impl.hpp`) is its 16-byte identity, zero-padded, tagged with this implementation.
* `send_response` copies 16 bytes into an `rmw_gid_t` on its stack and leaves the rest of the
  array as it was: those bytes are a parameter.
* A failed `rmw_connextdds_gid_to_guid` (`RMW_RET_INCORRECT_RMW_IMPLEMENTATION`) is `none`.
-/

namespace RmwConnextdds
set_option autoImplicit false

/-! ## Identities and sequence numbers -/

/-- `RMW_GID_STORAGE_SIZE`. -/
def rmwGidStorageSize : Nat := 24

/-- The implementation identifier an `rmw_gid_t` carries. -/
inductive ImplId
  | connextdds
  | other
  deriving DecidableEq, Repr

/-- `DDS_GUID_t`: 16 bytes. -/
@[ext] structure Guid where
  value : List UInt8
  length_eq : value.length = 16

/-- `rmw_gid_t`. -/
structure Gid where
  implementationIdentifier : ImplId
  data : List UInt8
  length_eq : data.length = rmwGidStorageSize

/-- `DDS_SequenceNumber_t`. -/
structure DdsSn where
  high : BitVec 32
  low : BitVec 32

/-- `DDS_SampleIdentity_t`. -/
structure SampleIdentity where
  writerGuid : Guid
  sequenceNumber : DdsSn

/-- `rmw_request_id_t`: `writer_guid` has 16 bytes. -/
structure RequestId where
  writerGuid : List UInt8
  sequenceNumber : BitVec 64
  length_eq : writerGuid.length = 16

/-- The header fields of `RMW_Connext_RequestReplyMessage` (the payload is not read here). -/
structure RrMsg where
  request : Bool
  gid : Gid
  sn : BitVec 64

/-- `memcpy(dst, src, 16)`: the first 16 bytes of `src`, then `dst` from byte 16 on. -/
def memcpy16 (dst src : List UInt8) : List UInt8 := src.take 16 ++ dst.drop 16

theorem length_memcpy16 {dst src : List UInt8} (hd : 16 ≤ dst.length) (hs : 16 ≤ src.length) :
    (memcpy16 dst src).length = dst.length := by
  simp [memcpy16]
  omega

theorem take_memcpy16 (dst src : List UInt8) (h : src.length = 16) :
    (memcpy16 dst src).take 16 = src := by
  simp [memcpy16, List.take_append_eq_append_take, h, List.take_of_length_le (le_of_eq h)]

/-- `rmw_connextdds_gid_to_guid`. -/
def gidToGuid (gid : Gid) : Option Guid :=
  if gid.implementationIdentifier = .connextdds then
    some ⟨gid.data.take 16, by simp [gid.length_eq, rmwGidStorageSize]⟩
  else none

/-- `rmw_connextdds_guid_to_gid`: zero the array, copy the 16 bytes, tag it. -/
def guidToGid (guid : Guid) : Gid :=
  { implementationIdentifier := .connextdds
    data := memcpy16 (List.replicate rmwGidStorageSize 0) guid.value
    length_eq := by simp [length_memcpy16, guid.length_eq, rmwGidStorageSize] }

@[simp] theorem take_guidToGid (g : Guid) : (guidToGid g).data.take 16 = g.value :=
  take_memcpy16 _ _ g.length_eq

@[simp] theorem gidToGuid_guidToGid (g : Guid) : gidToGuid (guidToGid g) = some g := by
  simp only [gidToGuid, guidToGid, if_true, Option.some.injEq]
  exact Guid.ext (take_memcpy16 _ _ g.length_eq)

/-- Modelled from the spec: `rmw_connextdds_sn_ros_to_dds`. -/
def snRosToDds (sn : BitVec 64) : DdsSn := ⟨sn.extractLsb' 32 32, sn.extractLsb' 0 32⟩

/-- Modelled from the spec: `rmw_connextdds_sn_dds_to_ros`. -/
def snDdsToRos (sn : DdsSn) : BitVec 64 := (sn.high.signExtend 64 <<< 32) ||| sn.low.setWidth 64

/-- Modelled from the spec: a writer's `gid()`, its identity tagged with this implementation. -/
def writerGid (g : Guid) : Gid := guidToGid g

/-! ## The header conversions -/

/-- `RMW_Connext_Publisher::requestreply_header_to_dds`: a request fills `sample_identity`, a
reply `related_sample_identity`; the other is left as it was. -/
def requestreplyHeaderToDds (rr : RrMsg) (si rsi : SampleIdentity) :
    Option (SampleIdentity × SampleIdentity) :=
  (gidToGuid rr.gid).map fun guid =>
    let id : SampleIdentity := ⟨guid, snRosToDds rr.sn⟩
    if rr.request then (id, rsi) else (si, id)

/-- `RMW_Connext_Subscriber::requestreply_header_from_dds`: a request reads `sample_identity`,
a reply `related_sample_identity`. -/
def requestreplyHeaderFromDds (rr : RrMsg) (si rsi : SampleIdentity) : RrMsg :=
  let src := if rr.request then si else rsi
  { rr with gid := guidToGid src.writerGuid, sn := snDdsToRos src.sequenceNumber }

/-! ## Client and service -/

/-- The header `RMW_Connext_Client::send_request` writes: its request writer's `gid()` and the
sequence number stamped on the request. -/
def sendRequest (gid : Gid) (sn : BitVec 64) : RrMsg := { request := true, gid, sn }

/-- The request id `RMW_Connext_Service::take_request` and `RMW_Connext_Client::take_response`
copy out of a taken header. -/
def takenRequestId (rr : RrMsg) : RequestId :=
  ⟨rr.gid.data.take 16, rr.sn, by simp [rr.gid.length_eq, rmwGidStorageSize]⟩

/-- The header `RMW_Connext_Service::send_response` writes; `stack` is what its `rmw_gid_t`
held before the 16 bytes were copied in. -/
def sendResponse (id : RequestId) (stack : Gid) : RrMsg :=
  { request := false, sn := id.sequenceNumber
    gid := { implementationIdentifier := .connextdds
             data := memcpy16 stack.data id.writerGuid
             length_eq := by
               simp only [memcpy16, List.length_append, List.length_take, List.length_drop,
                 stack.length_eq, id.length_eq, rmwGidStorageSize]
               rfl } }

@[simp] theorem sendResponse_request (id : RequestId) (stack : Gid) :
    (sendResponse id stack).request = false := rfl

@[simp] theorem sendResponse_sn (id : RequestId) (stack : Gid) :
    (sendResponse id stack).sn = id.sequenceNumber := rfl

@[simp] theorem gidToGuid_sendResponse (id : RequestId) (stack : Gid) :
    gidToGuid (sendResponse id stack).gid = some ⟨id.writerGuid, id.length_eq⟩ := by
  simp only [gidToGuid, sendResponse, if_true, Option.some.injEq]
  exact Guid.ext (take_memcpy16 _ _ id.length_eq)

/-! ## The exchange -/

/-- A request and its reply, with the engine delivering each sample's identities as they were
written: the client sends (`g`, `s`); the service takes the request and answers it; the client
takes the reply. `si₀` and `rsi₀` are the identities a write starts from, `stack` what
`send_response`'s `rmw_gid_t` held, `junk` the taken headers before they are filled in. The
result is the service's request id, the reply's `related_sample_identity` and the client's
request id. -/
def exchange (g : Guid) (s : BitVec 64) (si₀ rsi₀ : SampleIdentity) (stack : Gid) (junk : RrMsg) :
    Option (RequestId × SampleIdentity × RequestId) := do
  let (si, rsi) ← requestreplyHeaderToDds (sendRequest (writerGid g) s) si₀ rsi₀
  let serviceId := takenRequestId (requestreplyHeaderFromDds { junk with request := true } si rsi)
  let (si', rsi') ← requestreplyHeaderToDds (sendResponse serviceId stack) si₀ rsi₀
  let clientId := takenRequestId (requestreplyHeaderFromDds { junk with request := false } si' rsi')
  return (serviceId, rsi', clientId)

@[simp] theorem snDdsToRos_snRosToDds (sn : BitVec 64) : snDdsToRos (snRosToDds sn) = sn := by
  unfold snDdsToRos snRosToDds
  ext i
  simp only [BitVec.getLsbD_or, BitVec.getLsbD_shiftLeft, BitVec.getLsbD_signExtend,
    BitVec.getLsbD_setWidth, BitVec.getLsbD_extractLsb']
  by_cases h : i.val < 32
  · simp [h]
  · have e : 32 + (i.val - 32) = i.val := by omega
    simp [h, e, show i.val - 32 < 32 by omega, show i.val - 32 < 64 by omega]

/-- The service's request id, the reply's related identity and the client's request id all
carry the client's request writer identity `g` and the request's sequence number `s`. -/
theorem exchange_correlates (g : Guid) (s : BitVec 64) (si₀ rsi₀ : SampleIdentity) (stack : Gid)
    (junk : RrMsg) :
    ∃ rsi, exchange g s si₀ rsi₀ stack junk =
        some (⟨g.value, s, g.length_eq⟩, rsi, ⟨g.value, s, g.length_eq⟩) ∧
      rsi.writerGuid.value = g.value := by
  refine ⟨⟨g, snRosToDds s⟩, ?_, rfl⟩
  simp [exchange, requestreplyHeaderToDds, requestreplyHeaderFromDds, sendRequest, writerGid,
    takenRequestId]

end RmwConnextdds
