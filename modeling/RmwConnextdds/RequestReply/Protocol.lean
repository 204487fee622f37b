import RmwConnextdds.Endpoint.ReplyFilter
import RmwConnextdds.Subscriber.Take

/-! # Requests and replies between many clients and services

Outside emulation mode all clients of a service write their requests on one request topic, and
all its servers write their replies on one reply topic. `RMW_Connext_Client::send_request`
stamps a request with its request writer's `gid()`; the engine gives the sample the writer's next
sequence number and returns it as `sequence_id`. `RMW_Connext_Service::take_request` copies the
sample's `sample_identity` into the request id it hands its caller, `send_response` stamps the id
its caller passes back as the reply's `related_sample_identity`, and
`RMW_Connext_Client::take_response` copies that out again. A client's reply reader is created on
a content-filtered topic whose expression names the client's request writer
(`RmwConnextdds.Endpoint.ReplyFilter`); the engine evaluates it on every reply before the reader
sees it.

`RrSystem` holds the two topics, every client's reply reader with the requests it sent and the
responses it took, and every service's request reader with the requests it took. `RrStep` is one
call of the four operations by any client or service, in any order, or the engine handing a
reader a batch of samples.

* `reachable_inv`: every reachable state satisfies `RrInv`. Each request sample carries the GUID
  and sequence number of a request its client sent with that payload; each reply answers such a
  request; what a reader still holds is a sample of its topic, for a client reading through its
  filter a reply to its own requests; what services and clients took is correlated the same way.
* `takeResponse_answers_own_request`: a client reading through its filter only takes responses
  that carry its own GUID and the sequence number of one of its requests, whose payload answers
  the request it sent under that number.
* `exchangeRun_spec`: from any reachable state whose two readers have nothing left to hand out,
  a request, its answer and the client's take go through, the filter letting the reply pass; the
  same run hands the reply to a client that reads the plain topic instead.

## Transcription choices

* Clients are named by their request writer's GUID, which the engine makes unique; services by
  a number. `filtered c` says whether client `c`'s reply reader was created on the
  content-filtered topic: `rmw_connextdds_create_contentfilteredtopic` returned `RMW_RET_OK`,
  not `RMW_RET_UNSUPPORTED`, on which `RMW_Connext_Subscriber::create` reads the plain topic.
* The caller of `send_response` passes an id that `take_request` returned, with a response
  related to that request's payload by `answers`.
* Modelled from the spec: the engine writes a sample under the identities
  `requestreply_header_to_dds` filled in, with the sequence number it assigns (`sn`, any) in
  place of the `sample_identity`'s; it keeps every sample of a topic and hands a reader, in
  batches, any samples of its topic, a reader on the content-filtered topic only those the
  filter accepts. The identities of a write's parameters are `si₀` and `rsi₀`.
* Modelled from the engine's documentation: `cftAccepts` evaluates the one form of expression
  the code writes, `F = &hex(H)` on the built-in field `F`: a reply passes when its related
  writer GUID is the bytes `H` spells. Any other expression accepts nothing.
* A reader is the loan cursor of `RmwConnextdds.Subscriber.Take`; a sample's message is its
  position in the topic, and `take_message` is `take_next` for one message. Whether
  `rmw_connextdds_filter_sample` (outside this file) accepts a sample is any answer the batch
  carries.
* The `rr_msg` that `take_request` and `take_response` declare on the stack is `junk` and the
  `rmw_gid_t` of `send_response` is `stack`: the results hold whatever they held.
* Timestamps and `message_info` are left out: nothing here reads them.
-/

namespace RmwConnextdds
set_option autoImplicit false

instance : DecidableEq Guid := fun a b => decidable_of_iff (a.value = b.value) Guid.ext_iff.symm

/-! ## The content filter, as the engine evaluates it -/

def cftPrefix : List Char := guidFieldName.chars ++ " = &hex(".toList

/-- Modelled from the engine's documentation: whether the filter `expr`, of the form
`@related_sample_identity.writer_guid.value = &hex(H)`, accepts a sample with related identity
`rsi`: `H` must spell the bytes of its writer GUID. -/
def cftAccepts (expr : List Char) (rsi : SampleIdentity) : Bool :=
  expr.take cftPrefix.length == cftPrefix && expr.getLast? == some ')' &&
    decodeHex ((expr.drop cftPrefix.length).dropLast) == some rsi.writerGuid.value

theorem cftAccepts_cftFilter (c : Guid) (rsi : SampleIdentity) :
    cftAccepts (cftFilter (writerGuidOf c)) rsi = true ↔ rsi.writerGuid = c := by
  have hf : cftFilter (writerGuidOf c) = cftPrefix ++ hexEncode c.value ++ [')'] := by
    rw [writerGuidOf_eq, cftFilter_eq, cftPrefix]
  have hd : ((cftFilter (writerGuidOf c)).drop cftPrefix.length).dropLast = hexEncode c.value := by
    rw [hf, List.append_assoc, List.drop_left' rfl, List.dropLast_concat]
  have ht : (cftFilter (writerGuidOf c)).take cftPrefix.length = cftPrefix := by
    rw [hf, List.append_assoc, List.take_left' rfl]
  rw [cftAccepts, ht, hd, hf, List.getLast?_concat, decodeHex_hexEncode]
  simp only [beq_self_eq_true, Bool.true_and, beq_iff_eq, Option.some.injEq]
  exact ⟨fun h => Guid.ext h.symm, fun h => h ▸ rfl⟩

/-! ## The header conversions on the protocol's messages -/

theorem requestreplyHeaderToDds_sendRequest (c : Guid) (sn : BitVec 64)
    (si rsi : SampleIdentity) :
    requestreplyHeaderToDds (sendRequest (writerGid c) sn) si rsi =
      some (⟨c, snRosToDds sn⟩, rsi) := by
  simp [requestreplyHeaderToDds, sendRequest, writerGid]

theorem requestreplyHeaderToDds_sendResponse (id : RequestId) (stack : Gid)
    (si rsi : SampleIdentity) :
    requestreplyHeaderToDds (sendResponse id stack) si rsi =
      some (si, ⟨⟨id.writerGuid, id.length_eq⟩, snRosToDds id.sequenceNumber⟩) := by
  simp [requestreplyHeaderToDds]

@[simp] theorem takenRequestId_writerGuid (rr : RrMsg) (si rsi : SampleIdentity) :
    (takenRequestId (requestreplyHeaderFromDds rr si rsi)).writerGuid =
      (if rr.request then si else rsi).writerGuid.value := by
  simp [takenRequestId, requestreplyHeaderFromDds]

@[simp] theorem takenRequestId_sequenceNumber (rr : RrMsg) (si rsi : SampleIdentity) :
    (takenRequestId (requestreplyHeaderFromDds rr si rsi)).sequenceNumber =
      snDdsToRos (if rr.request then si else rsi).sequenceNumber := rfl

/-! ## Readers -/

/-- A sample of a topic: the identities it was written under and its payload. -/
structure WireSample (α : Type) where
  si : SampleIdentity
  rsi : SampleIdentity
  payload : α

/-- Modelled from the spec: the sample the engine writes from the identities
`requestreply_header_to_dds` filled in, under the sequence number `sn` it assigns. -/
def engineWrite {α : Type} (sn : BitVec 64) (payload : α) (ids : SampleIdentity × SampleIdentity) :
    WireSample α :=
  ⟨⟨ids.1.writerGuid, snRosToDds sn⟩, ids.2, payload⟩

namespace Subscriber

def empty : Subscriber := ⟨[], 0, false, []⟩

/-- Modelled from the spec: the engine hands the reader a batch of samples. -/
def receive (R : Subscriber) (batch : List Sample) : Subscriber :=
  { R with pending := R.pending ++ [batch] }

/-- The reader is between calls and every message it still holds satisfies `P`. -/
def Holds (R : Subscriber) (P : Nat → Prop) : Prop := R.Settled ∧ ∀ i ∈ R.queued, P i

/-- Nothing is left for the reader to hand out and no batch to come is empty: the next message
the engine hands it is the next one it hands out. -/
def Drained (R : Subscriber) : Prop := R.queued = [] ∧ ∀ b ∈ R.pending, b ≠ []

theorem empty_holds (P : Nat → Prop) : empty.Holds P :=
  ⟨⟨.inl ⟨rfl, rfl⟩, by simp [Flagged, loanLen, empty]⟩, by simp [queued, rest, empty]⟩

theorem queued_receive (R : Subscriber) (batch : List Sample) :
    (R.receive batch).queued = R.queued ++ accepted batch := by
  simp [receive, queued, rest]

theorem mem_accepted {i : Nat} {batch : List Sample} (h : i ∈ accepted batch) :
    ∃ x ∈ batch, x.valid = true ∧ x.msg = i := by
  simp only [accepted, List.mem_map, List.mem_filter, Bool.and_eq_true] at h
  obtain ⟨x, ⟨hx, hv, -⟩, rfl⟩ := h
  exact ⟨x, hx, hv, rfl⟩

theorem Holds.mono {R : Subscriber} {P Q : Nat → Prop} (h : R.Holds P) (hPQ : ∀ i, P i → Q i) :
    R.Holds Q :=
  ⟨h.1, fun i hi => hPQ i (h.2 i hi)⟩

theorem Holds.receive {R : Subscriber} {P : Nat → Prop} (h : R.Holds P) {batch : List Sample}
    (hb : ∀ x ∈ batch, x.valid = true → P x.msg) : (R.receive batch).Holds P := by
  refine ⟨h.1, fun i hi => ?_⟩
  rcases List.mem_append.1 (queued_receive R batch ▸ hi) with hi | hi
  · exact h.2 i hi
  · obtain ⟨x, hx, hv, rfl⟩ := mem_accepted hi
    exact hb x hx hv

theorem Holds.take {R : Subscriber} {P : Nat → Prop} (h : R.Holds P) (max : Nat) :
    (takeNext max R).1.Holds P ∧ ∀ i ∈ (takeNext max R).2, P i := by
  obtain ⟨-, hq, hs⟩ := takeNext_spec max R h.1
  exact ⟨⟨hs, fun i hi => h.2 i (hq ▸ List.mem_append_right _ hi)⟩,
    fun i hi => h.2 i (hq ▸ List.mem_append_left _ hi)⟩

theorem takeNext_receive {R : Subscriber} (hR : R.Settled) (hd : R.Drained) (x : Sample)
    (hx : x.valid = true ∧ x.accepted = true) : (takeNext 1 (R.receive [x])).2 = [x.msg] := by
  have hw : (R.pending ++ [[x]]).takeWhile (fun b => !b.isEmpty) = R.pending ++ [[x]] :=
    List.takeWhile_eq_self_iff.2 fun b hb => by
      rcases List.mem_append.1 hb with hb | hb
      · simpa [List.isEmpty_iff] using hd.2 b hb
      · simp [List.mem_singleton.1 hb]
  have hq : accepted R.rest = [] ∧ accepted R.pending.flatten = [] := by
    simpa only [queued, accepted_append, List.append_eq_nil] using hd.1
  have ha : (R.receive [x]).available = [x.msg] := by
    rw [available, show (R.receive [x]).rest = R.rest from rfl]
    simp [receive, hw, accepted_append, accepted_cons, hx, hq.1, hq.2]
  rw [(takeNext_spec 1 (R.receive [x]) hR).1, ha]
  rfl

end Subscriber

/-! ## The system -/

/-- A client: its reply reader, the requests it sent (sequence number and payload) and the
responses `take_response` returned (request id and payload). -/
structure ClientState (α β : Type) where
  replyReader : Subscriber
  sent : List (BitVec 64 × α)
  responses : List (RequestId × β)

/-- A service: its request reader and the requests `take_request` returned. -/
structure ServiceState (α : Type) where
  requestReader : Subscriber
  taken : List (RequestId × α)

/-- The request and reply topics and every client and service. -/
structure RrSystem (α β : Type) where
  requests : List (WireSample α)
  replies : List (WireSample β)
  clients : Guid → ClientState α β
  services : Nat → ServiceState α

namespace RrSystem
variable {α β : Type}

/-- Empty topics, readers with nothing to hand out, nothing sent or taken. -/
def init : RrSystem α β :=
  ⟨[], [], fun _ => ⟨Subscriber.empty, [], []⟩, fun _ => ⟨Subscriber.empty, []⟩⟩

/-- Replace client `c`'s state. -/
def setClient (S : RrSystem α β) (c : Guid) (cl : ClientState α β) : RrSystem α β :=
  { S with clients := Function.update S.clients c cl }

/-- Replace service `s`'s state. -/
def setService (S : RrSystem α β) (s : Nat) (sv : ServiceState α) : RrSystem α β :=
  { S with services := Function.update S.services s sv }

/-- `RMW_Connext_Client::send_request` of client `c` with payload `p`: the header is the request
writer's `gid()` and `-1`, and the engine writes the sample under the sequence number `sn` it
assigns, which the call returns. -/
def clientSendRequest (S : RrSystem α β) (c : Guid) (p : α) (si₀ rsi₀ : SampleIdentity)
    (sn : BitVec 64) : RrSystem α β :=
  match requestreplyHeaderToDds (sendRequest (writerGid c) (-1)) si₀ rsi₀ with
  | some ids =>
    { S.setClient c { S.clients c with sent := (S.clients c).sent ++ [(sn, p)] } with
      requests := S.requests ++ [engineWrite sn p ids] }
  | none => S

/-- `RMW_Connext_Service::take_request` of service `s`: `take_message` on its request reader
and, when a sample was taken, its `sample_identity` copied into the request id. -/
def serviceTakeRequest (S : RrSystem α β) (s : Nat) (junk : RrMsg) : RrSystem α β :=
  let r := takeNext 1 (S.services s).requestReader
  let sv : ServiceState α := { S.services s with requestReader := r.1 }
  match r.2.head?.bind fun j => S.requests[j]? with
  | some smp =>
    S.setService s { sv with taken := sv.taken ++
      [(takenRequestId (requestreplyHeaderFromDds { junk with request := true } smp.si smp.rsi),
        smp.payload)] }
  | none => S.setService s sv

/-- `RMW_Connext_Service::send_response` with the request id `id` and response `r` its caller
passes: it keeps no state and writes the reply. -/
def serviceSendResponse (S : RrSystem α β) (id : RequestId) (r : β) (stack : Gid)
    (si₀ rsi₀ : SampleIdentity) (sn : BitVec 64) : RrSystem α β :=
  match requestreplyHeaderToDds (sendResponse id stack) si₀ rsi₀ with
  | some ids => { S with replies := S.replies ++ [engineWrite sn r ids] }
  | none => S

/-- `RMW_Connext_Client::take_response` of client `c`: `take_message` on its reply reader and,
when a sample was taken, its `related_sample_identity` copied into the request id. -/
def clientTakeResponse (S : RrSystem α β) (c : Guid) (junk : RrMsg) : RrSystem α β :=
  let r := takeNext 1 (S.clients c).replyReader
  let cl : ClientState α β := { S.clients c with replyReader := r.1 }
  match r.2.head?.bind fun i => S.replies[i]? with
  | some smp =>
    S.setClient c { cl with responses := cl.responses ++
      [(takenRequestId (requestreplyHeaderFromDds { junk with request := false } smp.si smp.rsi),
        smp.payload)] }
  | none => S.setClient c cl

/-- Modelled from the spec: the engine hands service `s`'s request reader a batch. -/
def deliverRequest (S : RrSystem α β) (s : Nat) (batch : List Sample) : RrSystem α β :=
  S.setService s { S.services s with requestReader := (S.services s).requestReader.receive batch }

/-- Modelled from the spec: the engine hands client `c`'s reply reader a batch. -/
def deliverReply (S : RrSystem α β) (c : Guid) (batch : List Sample) : RrSystem α β :=
  S.setClient c { S.clients c with replyReader := (S.clients c).replyReader.receive batch }

theorem clientSendRequest_eq (S : RrSystem α β) (c : Guid) (p : α) (si₀ rsi₀ : SampleIdentity)
    (sn : BitVec 64) :
    S.clientSendRequest c p si₀ rsi₀ sn =
      { S.setClient c { S.clients c with sent := (S.clients c).sent ++ [(sn, p)] } with
        requests := S.requests ++ [⟨⟨c, snRosToDds sn⟩, rsi₀, p⟩] } := by
  simp [clientSendRequest, requestreplyHeaderToDds_sendRequest, engineWrite]

theorem serviceSendResponse_eq (S : RrSystem α β) (id : RequestId) (r : β) (stack : Gid)
    (si₀ rsi₀ : SampleIdentity) (sn : BitVec 64) :
    S.serviceSendResponse id r stack si₀ rsi₀ sn =
      { S with replies := S.replies ++
        [⟨⟨si₀.writerGuid, snRosToDds sn⟩,
          ⟨⟨id.writerGuid, id.length_eq⟩, snRosToDds id.sequenceNumber⟩, r⟩] } := by
  simp [serviceSendResponse, requestreplyHeaderToDds_sendResponse, engineWrite]

/-! ## Correlation -/

/-- Client `c` sent a request with sequence number `sn` and payload `p`. -/
def Issued (S : RrSystem α β) (c : Guid) (sn : BitVec 64) (p : α) : Prop :=
  (sn, p) ∈ (S.clients c).sent

/-- A sample identity names a request sent with payload `p`: the GUID of its client and the
request's sequence number. -/
def Names (S : RrSystem α β) (id : SampleIdentity) (p : α) : Prop :=
  ∃ sn, id.sequenceNumber = snRosToDds sn ∧ S.Issued id.writerGuid sn p

/-- A request id names a request sent with payload `p`. -/
def RequestOf (S : RrSystem α β) (id : RequestId) (p : α) : Prop :=
  ∃ c : Guid, id.writerGuid = c.value ∧ S.Issued c id.sequenceNumber p

theorem Names.requestOf {S : RrSystem α β} {rr : RrMsg} {si rsi : SampleIdentity} {p : α}
    (h : S.Names (if rr.request then si else rsi) p) :
    S.RequestOf (takenRequestId (requestreplyHeaderFromDds rr si rsi)) p := by
  obtain ⟨sn, hsn, hi⟩ := h
  exact ⟨_, takenRequestId_writerGuid rr si rsi, by simpa [hsn] using hi⟩

/-- Every step only appends to the topics and to what clients sent. -/
structure Extends (S S' : RrSystem α β) : Prop where
  requests : S.requests <+: S'.requests
  replies : S.replies <+: S'.replies
  sent : ∀ c, (S.clients c).sent ⊆ (S'.clients c).sent

theorem Extends.names {S S' : RrSystem α β} (hx : S.Extends S') {id : SampleIdentity} {p : α}
    (h : S.Names id p) : S'.Names id p :=
  let ⟨sn, hsn, hi⟩ := h
  ⟨sn, hsn, hx.sent _ hi⟩

theorem Extends.requestOf {S S' : RrSystem α β} (hx : S.Extends S') {id : RequestId} {p : α}
    (h : S.RequestOf id p) : S'.RequestOf id p :=
  let ⟨c, hc, hi⟩ := h
  ⟨c, hc, hx.sent c hi⟩

theorem Extends.answered {S S' : RrSystem α β} (hx : S.Extends S') {γ : Type}
    {answers : α → γ → Prop} {id : SampleIdentity} {r : γ} (h : ∃ p, S.Names id p ∧ answers p r) :
    ∃ p, S'.Names id p ∧ answers p r :=
  let ⟨p, hn, ha⟩ := h
  ⟨p, hx.names hn, ha⟩

theorem extends_setClient (S : RrSystem α β) {c : Guid} {cl : ClientState α β}
    (hsent : (S.clients c).sent ⊆ cl.sent) : S.Extends (S.setClient c cl) := by
  refine ⟨List.prefix_rfl, List.prefix_rfl, fun c' => ?_⟩
  by_cases h : c' = c
  · subst h
    simpa [setClient] using hsent
  · simp [setClient, Function.update_noteq h]

theorem getElem?_of_prefix {γ : Type} {l₁ l₂ : List γ} (h : l₁ <+: l₂) {i : Nat} {x : γ}
    (hx : l₁[i]? = some x) : l₂[i]? = some x := by
  obtain ⟨t, rfl⟩ := h
  obtain ⟨hi, -⟩ := List.getElem?_eq_some_iff.1 hx
  rwa [List.getElem?_append_left hi]

@[simp] theorem clientTakeResponse_services (S : RrSystem α β) (c : Guid) (junk : RrMsg) :
    (S.clientTakeResponse c junk).services = S.services := by
  dsimp only [clientTakeResponse]
  split <;> rfl

@[simp] theorem deliverReply_services (S : RrSystem α β) (c : Guid) (batch : List Sample) :
    (S.deliverReply c batch).services = S.services := rfl

@[simp] theorem serviceSendResponse_services (S : RrSystem α β) (id : RequestId) (r : β)
    (stack : Gid) (si₀ rsi₀ : SampleIdentity) (sn : BitVec 64) :
    (S.serviceSendResponse id r stack si₀ rsi₀ sn).services = S.services := by
  rw [serviceSendResponse_eq]

theorem setClient_sent (S : RrSystem α β) {c : Guid} {cl : ClientState α β}
    (h : cl.sent = (S.clients c).sent) (c' : Guid) :
    ((S.setClient c cl).clients c').sent = (S.clients c').sent := by
  by_cases hc : c' = c
  · subst hc
    simpa [setClient] using h
  · simp [setClient, Function.update_noteq hc]

theorem clientTakeResponse_sent (S : RrSystem α β) (c : Guid) (junk : RrMsg) (c' : Guid) :
    ((S.clientTakeResponse c junk).clients c').sent = (S.clients c').sent := by
  dsimp only [clientTakeResponse]
  split <;> (apply setClient_sent; rfl)

theorem deliverReply_sent (S : RrSystem α β) (c : Guid) (batch : List Sample) (c' : Guid) :
    ((S.deliverReply c batch).clients c').sent = (S.clients c').sent := by
  apply setClient_sent; rfl

theorem clientSendRequest_clients (S : RrSystem α β) (c : Guid) (p : α)
    (si₀ rsi₀ : SampleIdentity) (sn : BitVec 64) (c' : Guid) :
    ((S.clientSendRequest c p si₀ rsi₀ sn).clients c').replyReader = (S.clients c').replyReader ∧
      ((S.clientSendRequest c p si₀ rsi₀ sn).clients c').responses =
        (S.clients c').responses := by
  rw [clientSendRequest_eq]
  by_cases h : c' = c <;> simp [setClient, Function.update_apply, h]

/-! ## One exchange, call by call -/

/-- The request half of an exchange: client `c` sends `p`, which the engine numbers `sn`; the
engine hands the sample to service `s`, which takes it. -/
def requestHalf (S : RrSystem α β) (c : Guid) (s : Nat) (p : α) (sn : BitVec 64)
    (si₀ rsi₀ : SampleIdentity) (junk : RrMsg) : RrSystem α β :=
  ((S.clientSendRequest c p si₀ rsi₀ sn).deliverRequest s
    [⟨true, true, S.requests.length⟩]).serviceTakeRequest s junk

/-- The reply half: a service answers `r` under the request id `id`, the engine numbers the reply
`snr` and hands it to client `c'`, which takes it. -/
def replyHalf (S : RrSystem α β) (c' : Guid) (id : RequestId) (r : β) (snr : BitVec 64)
    (si₀ rsi₀ : SampleIdentity) (stack : Gid) (junk : RrMsg) : RrSystem α β :=
  ((S.serviceSendResponse id r stack si₀ rsi₀ snr).deliverReply c'
    [⟨true, true, S.replies.length⟩]).clientTakeResponse c' junk

/-- A whole exchange: service `s` answers client `c`'s request under the id it took, and client
`c'` takes the reply. -/
def exchangeRun (S : RrSystem α β) (c c' : Guid) (s : Nat) (p : α) (r : β) (sn snr : BitVec 64)
    (si₀ rsi₀ : SampleIdentity) (stack : Gid) (junk : RrMsg) : RrSystem α β :=
  (S.requestHalf c s p sn si₀ rsi₀ junk).replyHalf c' ⟨c.value, sn, c.length_eq⟩ r snr si₀ rsi₀
    stack junk

theorem serviceTakeRequest_delivered {S : RrSystem α β} {s j : Nat} {smp : WireSample α}
    (hR : (S.services s).requestReader.Settled) (hd : (S.services s).requestReader.Drained)
    (hj : S.requests[j]? = some smp) (junk : RrMsg) :
    (((S.deliverRequest s [⟨true, true, j⟩]).serviceTakeRequest s junk).services s).taken =
        (S.services s).taken ++ [(takenRequestId (requestreplyHeaderFromDds
          { junk with request := true } smp.si smp.rsi), smp.payload)] ∧
      ((S.deliverRequest s [⟨true, true, j⟩]).serviceTakeRequest s junk).clients = S.clients ∧
      ((S.deliverRequest s [⟨true, true, j⟩]).serviceTakeRequest s junk).replies = S.replies := by
  have ht := Subscriber.takeNext_receive hR hd ⟨true, true, j⟩ ⟨rfl, rfl⟩
  simp [serviceTakeRequest, deliverRequest, setService, ht, hj]

theorem clientTakeResponse_delivered {S : RrSystem α β} {c : Guid} {i : Nat} {smp : WireSample β}
    (hR : (S.clients c).replyReader.Settled) (hd : (S.clients c).replyReader.Drained)
    (hi : S.replies[i]? = some smp) (junk : RrMsg) :
    (((S.deliverReply c [⟨true, true, i⟩]).clientTakeResponse c junk).clients c).responses =
      (S.clients c).responses ++ [(takenRequestId (requestreplyHeaderFromDds
        { junk with request := false } smp.si smp.rsi), smp.payload)] := by
  have ht := Subscriber.takeNext_receive hR hd ⟨true, true, i⟩ ⟨rfl, rfl⟩
  simp [clientTakeResponse, deliverReply, setClient, ht, hi]

end RrSystem

open RrSystem

section Protocol
variable {α β : Type} (filtered : Guid → Bool) (answers : α → β → Prop)

/-- One call of the four operations, or the engine handing a reader a batch. A service's caller
answers a request it took; the engine hands a reader samples of its topic, and a client reading
through its filter only the replies the filter accepts. -/
inductive RrStep : RrSystem α β → RrSystem α β → Prop
  | sendRequest (S : RrSystem α β) (c : Guid) (p : α) (si₀ rsi₀ : SampleIdentity) (sn : BitVec 64) :
      RrStep S (S.clientSendRequest c p si₀ rsi₀ sn)
  | takeRequest (S : RrSystem α β) (s : Nat) (junk : RrMsg) : RrStep S (S.serviceTakeRequest s junk)
  | sendResponse (S : RrSystem α β) (s : Nat) (id : RequestId) (p : α) (r : β) (stack : Gid)
      (si₀ rsi₀ : SampleIdentity) (sn : BitVec 64) (hid : (id, p) ∈ (S.services s).taken)
      (hr : answers p r) : RrStep S (S.serviceSendResponse id r stack si₀ rsi₀ sn)
  | takeResponse (S : RrSystem α β) (c : Guid) (junk : RrMsg) : RrStep S (S.clientTakeResponse c junk)
  | deliverRequest (S : RrSystem α β) (s : Nat) (batch : List Sample)
      (hb : ∀ x ∈ batch, x.valid = true → x.msg < S.requests.length) :
      RrStep S (S.deliverRequest s batch)
  | deliverReply (S : RrSystem α β) (c : Guid) (batch : List Sample)
      (hb : ∀ x ∈ batch, x.valid = true → ∃ smp, S.replies[x.msg]? = some smp ∧
        (filtered c = true → cftAccepts (cftFilter (writerGuidOf c)) smp.rsi = true)) :
      RrStep S (S.deliverReply c batch)

/-- The states some interleaving of steps reaches from `init`. -/
inductive RrReachable : RrSystem α β → Prop
  | init : RrReachable RrSystem.init
  | step {S S' : RrSystem α β} : RrReachable S → RrStep filtered answers S S' → RrReachable S'

/-- What holds of client `c` with state `cl` in `S`: every message its reader holds is a reply
of the topic, to `c`'s own requests if it reads through its filter; every response it took names
a request sent with a payload the response answers, `c`'s own if it reads through its filter. -/
structure ClientOk (S : RrSystem α β) (c : Guid) (cl : ClientState α β) : Prop where
  reader : cl.replyReader.Holds fun i =>
    ∃ smp, S.replies[i]? = some smp ∧ (filtered c = true → smp.rsi.writerGuid = c)
  responses : ∀ x ∈ cl.responses,
    (filtered c = true → x.1.writerGuid = c.value) ∧ ∃ p, S.RequestOf x.1 p ∧ answers p x.2

/-- What holds of a service with state `sv` in `S`: its reader holds samples of the request
topic, and every request it took names a request some client sent with that payload. -/
structure ServiceOk (S : RrSystem α β) (sv : ServiceState α) : Prop where
  reader : sv.requestReader.Holds (· < S.requests.length)
  taken : ∀ x ∈ sv.taken, S.RequestOf x.1 x.2

/-- The invariant of every reachable state. -/
structure RrInv (S : RrSystem α β) : Prop where
  requests : ∀ smp ∈ S.requests, S.Names smp.si smp.payload
  replies : ∀ smp ∈ S.replies, ∃ p, S.Names smp.rsi p ∧ answers p smp.payload
  clients : ∀ c, ClientOk filtered answers S c (S.clients c)
  services : ∀ s, ServiceOk S (S.services s)

variable {filtered answers}

theorem ClientOk.mono {S S' : RrSystem α β} (hx : S.Extends S') {c : Guid} {cl : ClientState α β}
    (h : ClientOk filtered answers S c cl) : ClientOk filtered answers S' c cl :=
  ⟨h.reader.mono fun _ ⟨smp, hs, hf⟩ => ⟨smp, getElem?_of_prefix hx.replies hs, hf⟩,
    fun x hxm => (h.responses x hxm).imp_right fun ⟨p, hp, ha⟩ => ⟨p, hx.requestOf hp, ha⟩⟩

theorem ServiceOk.mono {S S' : RrSystem α β} (hx : S.Extends S') {sv : ServiceState α}
    (h : ServiceOk S sv) : ServiceOk S' sv :=
  ⟨h.reader.mono fun _ hi => lt_of_lt_of_le hi hx.requests.length_le,
    fun x hxm => hx.requestOf (h.taken x hxm)⟩

theorem RrInv.setService {S : RrSystem α β} (h : RrInv filtered answers S) {s : Nat}
    {sv : ServiceState α} (hsv : ServiceOk S sv) : RrInv filtered answers (S.setService s sv) := by
  have hx : S.Extends (S.setService s sv) :=
    ⟨List.prefix_rfl, List.prefix_rfl, fun _ => List.Subset.refl _⟩
  refine ⟨fun smp hs => hx.names (h.requests smp hs),
    fun smp hs => hx.answered (h.replies smp hs), fun c => (h.clients c).mono hx, fun s' => ?_⟩
  by_cases hs : s' = s
  · subst hs
    rw [show (S.setService s' sv).services s' = sv from Function.update_same _ _ _]
    exact hsv.mono hx
  · rw [show (S.setService s sv).services s' = S.services s' from Function.update_noteq hs _ _]
    exact (h.services s').mono hx

theorem RrInv.setClient {S : RrSystem α β} (h : RrInv filtered answers S) {c : Guid}
    {cl : ClientState α β} (hsent : (S.clients c).sent ⊆ cl.sent)
    (hcl : ClientOk filtered answers S c cl) : RrInv filtered answers (S.setClient c cl) := by
  have hx := S.extends_setClient hsent
  refine ⟨fun smp hs => hx.names (h.requests smp hs),
    fun smp hs => hx.answered (h.replies smp hs), fun c' => ?_, fun s => (h.services s).mono hx⟩
  by_cases hc : c' = c
  · subst hc
    rw [show (S.setClient c' cl).clients c' = cl from Function.update_same _ _ _]
    exact hcl.mono hx
  · rw [show (S.setClient c cl).clients c' = S.clients c' from Function.update_noteq hc _ _]
    exact (h.clients c').mono hx

theorem RrInv.clientSendRequest {S : RrSystem α β} (h : RrInv filtered answers S) (c : Guid)
    (p : α) (si₀ rsi₀ : SampleIdentity) (sn : BitVec 64) :
    RrInv filtered answers (S.clientSendRequest c p si₀ rsi₀ sn) := by
  rw [clientSendRequest_eq]
  set cl : ClientState α β := { S.clients c with sent := (S.clients c).sent ++ [(sn, p)] }
  have hsent : (S.clients c).sent ⊆ cl.sent := List.subset_append_left _ _
  have h₁ := h.setClient hsent ⟨(h.clients c).reader, (h.clients c).responses⟩
  have hx : (S.setClient c cl).Extends
      { S.setClient c cl with requests := S.requests ++ [⟨⟨c, snRosToDds sn⟩, rsi₀, p⟩] } :=
    ⟨List.prefix_append _ _, List.prefix_rfl, fun _ => List.Subset.refl _⟩
  refine ⟨fun smp hs => ?_, fun smp hs => hx.answered (h₁.replies smp hs),
    fun c' => (h₁.clients c').mono hx, fun s => (h₁.services s).mono hx⟩
  rcases List.mem_append.1 hs with hs | hs
  · exact hx.names (h₁.requests smp hs)
  · obtain rfl := List.mem_singleton.1 hs
    exact ⟨sn, rfl, by simp [Issued, RrSystem.setClient, cl]⟩

theorem RrInv.serviceSendResponse {S : RrSystem α β} (h : RrInv filtered answers S) {s : Nat}
    {id : RequestId} {p : α} {r : β} (hid : (id, p) ∈ (S.services s).taken) (hr : answers p r)
    (stack : Gid) (si₀ rsi₀ : SampleIdentity) (sn : BitVec 64) :
    RrInv filtered answers (S.serviceSendResponse id r stack si₀ rsi₀ sn) := by
  rw [serviceSendResponse_eq]
  set w : WireSample β := ⟨⟨si₀.writerGuid, snRosToDds sn⟩,
    ⟨⟨id.writerGuid, id.length_eq⟩, snRosToDds id.sequenceNumber⟩, r⟩
  have hx : S.Extends { S with replies := S.replies ++ [w] } :=
    ⟨List.prefix_rfl, List.prefix_append _ _, fun _ => List.Subset.refl _⟩
  refine ⟨fun smp hs => hx.names (h.requests smp hs), fun smp hs => ?_,
    fun c => (h.clients c).mono hx, fun s' => (h.services s').mono hx⟩
  rcases List.mem_append.1 hs with hs | hs
  · exact hx.answered (h.replies smp hs)
  · obtain rfl := List.mem_singleton.1 hs
    obtain ⟨c, hc, hi⟩ := (h.services s).taken _ hid
    obtain rfl : (⟨id.writerGuid, id.length_eq⟩ : Guid) = c := Guid.ext hc
    exact ⟨p, ⟨id.sequenceNumber, rfl, hi⟩, hr⟩

theorem RrInv.serviceTakeRequest {S : RrSystem α β} (h : RrInv filtered answers S) (s : Nat)
    (junk : RrMsg) : RrInv filtered answers (S.serviceTakeRequest s junk) := by
  obtain ⟨hR, hj⟩ := (h.services s).reader.take 1
  dsimp only [RrSystem.serviceTakeRequest]
  split
  · next smp hsmp =>
    refine h.setService ⟨hR, fun x hx => ?_⟩
    rcases List.mem_append.1 hx with hx | hx
    · exact (h.services s).taken x hx
    · obtain rfl := List.mem_singleton.1 hx
      obtain ⟨j, -, hsj⟩ : ∃ j, (takeNext 1 (S.services s).requestReader).2.head? = some j ∧
          S.requests[j]? = some smp := Option.bind_eq_some.1 hsmp
      exact Names.requestOf (h.requests smp (List.getElem?_mem hsj))
  · exact h.setService ⟨hR, (h.services s).taken⟩

theorem RrInv.clientTakeResponse {S : RrSystem α β} (h : RrInv filtered answers S) (c : Guid)
    (junk : RrMsg) : RrInv filtered answers (S.clientTakeResponse c junk) := by
  obtain ⟨hR, hi⟩ := (h.clients c).reader.take 1
  dsimp only [RrSystem.clientTakeResponse]
  split
  · next smp hsmp =>
    obtain ⟨i, hhead, hsi⟩ : ∃ i, (takeNext 1 (S.clients c).replyReader).2.head? = some i ∧
        S.replies[i]? = some smp := Option.bind_eq_some.1 hsmp
    obtain ⟨smp', hs', hf⟩ := hi i (List.mem_of_mem_head? hhead)
    obtain rfl : smp = smp' := Option.some.inj (hsi.symm.trans hs')
    obtain ⟨p, hn, ha⟩ := h.replies smp (List.getElem?_mem hsi)
    refine h.setClient (List.Subset.refl _) ⟨hR, fun x hxm => ?_⟩
    rcases List.mem_append.1 hxm with hxm | hxm
    · exact (h.clients c).responses x hxm
    · obtain rfl := List.mem_singleton.1 hxm
      exact ⟨fun hc => by simp [hf hc], p, Names.requestOf hn, ha⟩
  · exact h.setClient (List.Subset.refl _) ⟨hR, (h.clients c).responses⟩

theorem RrInv.deliverRequest {S : RrSystem α β} (h : RrInv filtered answers S) {s : Nat}
    {batch : List Sample} (hb : ∀ x ∈ batch, x.valid = true → x.msg < S.requests.length) :
    RrInv filtered answers (S.deliverRequest s batch) :=
  h.setService ⟨(h.services s).reader.receive hb, (h.services s).taken⟩

theorem RrInv.deliverReply {S : RrSystem α β} (h : RrInv filtered answers S) {c : Guid}
    {batch : List Sample}
    (hb : ∀ x ∈ batch, x.valid = true → ∃ smp, S.replies[x.msg]? = some smp ∧
      (filtered c = true → cftAccepts (cftFilter (writerGuidOf c)) smp.rsi = true)) :
    RrInv filtered answers (S.deliverReply c batch) := by
  refine h.setClient (List.Subset.refl _) ⟨(h.clients c).reader.receive fun x hxb hv => ?_,
    (h.clients c).responses⟩
  obtain ⟨smp, hs, hf⟩ := hb x hxb hv
  exact ⟨smp, hs, fun hc => (cftAccepts_cftFilter c smp.rsi).1 (hf hc)⟩

theorem inv_init : RrInv filtered answers (RrSystem.init : RrSystem α β) :=
  ⟨by simp [RrSystem.init], by simp [RrSystem.init],
    fun _ => ⟨Subscriber.empty_holds _, by simp [RrSystem.init]⟩,
    fun _ => ⟨Subscriber.empty_holds _, by simp [RrSystem.init]⟩⟩

theorem RrInv.step {S S' : RrSystem α β} (h : RrInv filtered answers S)
    (hs : RrStep filtered answers S S') : RrInv filtered answers S' := by
  cases hs with
  | sendRequest c p si₀ rsi₀ sn => exact h.clientSendRequest c p si₀ rsi₀ sn
  | takeRequest s junk => exact h.serviceTakeRequest s junk
  | sendResponse s id p r stack si₀ rsi₀ sn hid hr =>
    exact h.serviceSendResponse hid hr stack si₀ rsi₀ sn
  | takeResponse c junk => exact h.clientTakeResponse c junk
  | deliverRequest s batch hb => exact h.deliverRequest hb
  | deliverReply c batch hb => exact h.deliverReply hb

theorem reachable_inv {S : RrSystem α β} (h : RrReachable filtered answers S) :
    RrInv filtered answers S := by
  induction h with
  | init => exact inv_init
  | step _ hs ih => exact ih.step hs

/-! ## A round trip -/

theorem takenRequestId_of_identity (junk : RrMsg) (b : Bool) (id : RequestId)
    (si rsi : SampleIdentity)
    (h : (if b then si else rsi) =
      ⟨⟨id.writerGuid, id.length_eq⟩, snRosToDds id.sequenceNumber⟩) :
    takenRequestId (requestreplyHeaderFromDds { junk with request := b } si rsi) = id := by
  obtain ⟨w, n, hl⟩ := id
  cases b <;> simp only [Bool.false_eq_true, if_false, if_true] at h <;> subst h <;>
    simp [takenRequestId, requestreplyHeaderFromDds]

theorem requestHalf_spec {S : RrSystem α β} (hS : RrReachable filtered answers S) {s : Nat}
    (hsv : (S.services s).requestReader.Drained) (c : Guid) (p : α) (sn : BitVec 64)
    (si₀ rsi₀ : SampleIdentity) (junk : RrMsg) :
    RrReachable filtered answers (S.requestHalf c s p sn si₀ rsi₀ junk) ∧
      ((S.requestHalf c s p sn si₀ rsi₀ junk).services s).taken =
        (S.services s).taken ++ [(⟨c.value, sn, c.length_eq⟩, p)] ∧
      (S.requestHalf c s p sn si₀ rsi₀ junk).replies = S.replies ∧
      (∀ c', ((S.requestHalf c s p sn si₀ rsi₀ junk).clients c').replyReader =
          (S.clients c').replyReader ∧
        ((S.requestHalf c s p sn si₀ rsi₀ junk).clients c').responses =
          (S.clients c').responses) ∧
      ((S.requestHalf c s p sn si₀ rsi₀ junk).clients c).sent =
        (S.clients c).sent ++ [(sn, p)] := by
  have h₁ := clientSendRequest_eq S c p si₀ rsi₀ sn
  have hsvc : (S.clientSendRequest c p si₀ rsi₀ sn).services = S.services := by rw [h₁]; rfl
  have hreq : (S.clientSendRequest c p si₀ rsi₀ sn).requests[S.requests.length]? =
      some ⟨⟨c, snRosToDds sn⟩, rsi₀, p⟩ := by
    rw [h₁]; simp [setClient]
  obtain ⟨ht, hcl, hrep⟩ := serviceTakeRequest_delivered
    (hsvc ▸ ((reachable_inv hS).services s).reader.1) (hsvc ▸ hsv) hreq junk
  rw [takenRequestId_of_identity junk true ⟨c.value, sn, c.length_eq⟩ _ _ rfl, hsvc] at ht
  refine ⟨((hS.step (.sendRequest S c p si₀ rsi₀ sn)).step
    (.deliverRequest _ s _ fun x hx _ => ?_)).step (.takeRequest _ s junk), ht,
    by rw [requestHalf, hrep, h₁]; rfl,
    fun c' => by rw [requestHalf, hcl]; exact clientSendRequest_clients S c p si₀ rsi₀ sn c', ?_⟩
  · rw [List.mem_singleton.1 hx, h₁]
    simp [setClient]
  · rw [requestHalf, hcl, h₁]
    simp [setClient]

theorem replyHalf_spec {S : RrSystem α β} (hS : RrReachable filtered answers S) {s : Nat}
    {id : RequestId} {p : α} {r : β} (hid : (id, p) ∈ (S.services s).taken) (hr : answers p r)
    {c' : Guid} (hcl : (S.clients c').replyReader.Drained)
    (hf : filtered c' = true → id.writerGuid = c'.value) (snr : BitVec 64)
    (si₀ rsi₀ : SampleIdentity) (stack : Gid) (junk : RrMsg) :
    RrReachable filtered answers (S.replyHalf c' id r snr si₀ rsi₀ stack junk) ∧
      ((S.replyHalf c' id r snr si₀ rsi₀ stack junk).clients c').responses =
        (S.clients c').responses ++ [(id, r)] ∧
      (S.replyHalf c' id r snr si₀ rsi₀ stack junk).services = S.services ∧
      ∀ c, ((S.replyHalf c' id r snr si₀ rsi₀ stack junk).clients c).sent =
        (S.clients c).sent := by
  have h₄ := serviceSendResponse_eq S id r stack si₀ rsi₀ snr
  have hcl₄ : (S.serviceSendResponse id r stack si₀ rsi₀ snr).clients = S.clients := by rw [h₄]
  have hrep : (S.serviceSendResponse id r stack si₀ rsi₀ snr).replies[S.replies.length]? =
      some ⟨⟨si₀.writerGuid, snRosToDds snr⟩,
        ⟨⟨id.writerGuid, id.length_eq⟩, snRosToDds id.sequenceNumber⟩, r⟩ := by
    rw [h₄]; simp
  have hresp := clientTakeResponse_delivered (hcl₄ ▸ ((reachable_inv hS).clients c').reader.1)
    (hcl₄ ▸ hcl) hrep junk
  rw [takenRequestId_of_identity junk false id _ _ rfl, hcl₄] at hresp
  refine ⟨((hS.step (.sendResponse S s id p r stack si₀ rsi₀ snr hid hr)).step
    (.deliverReply _ c' _ fun x hx _ => ?_)).step (.takeResponse _ c' junk), hresp,
    by simp [replyHalf],
    fun c => by rw [replyHalf, clientTakeResponse_sent, deliverReply_sent, hcl₄]⟩
  rw [List.mem_singleton.1 hx]
  exact ⟨_, hrep, fun hc => (cftAccepts_cftFilter c' _).2 (Guid.ext (hf hc))⟩

/-- From any reachable state whose service reader and client reader have nothing left to hand
out, a request of client `c`, its answer by service `s` and the take by client `c'` go through:
every call is a step of the protocol, the service takes the request under `c`'s GUID and the
engine's number `sn`, and client `c'` takes the response `r` under the same id. When `c'`
reads through its filter, it must be `c`. -/
theorem exchangeRun_spec {S : RrSystem α β} (hS : RrReachable filtered answers S) {c c' : Guid}
    {s : Nat} (hsv : (S.services s).requestReader.Drained)
    (hcl : (S.clients c').replyReader.Drained) (hf : filtered c' = true → c' = c) {p : α} {r : β}
    (hr : answers p r) (sn snr : BitVec 64) (si₀ rsi₀ : SampleIdentity) (stack : Gid)
    (junk : RrMsg) :
    RrReachable filtered answers (S.exchangeRun c c' s p r sn snr si₀ rsi₀ stack junk) ∧
      ((S.exchangeRun c c' s p r sn snr si₀ rsi₀ stack junk).services s).taken =
        (S.services s).taken ++ [(⟨c.value, sn, c.length_eq⟩, p)] ∧
      ((S.exchangeRun c c' s p r sn snr si₀ rsi₀ stack junk).clients c').responses =
        (S.clients c').responses ++ [(⟨c.value, sn, c.length_eq⟩, r)] ∧
      ((S.exchangeRun c c' s p r sn snr si₀ rsi₀ stack junk).clients c).sent =
        (S.clients c).sent ++ [(sn, p)] := by
  obtain ⟨hR, ht, -, hcl₃, hsent⟩ := requestHalf_spec hS hsv c p sn si₀ rsi₀ junk
  obtain ⟨hR', hresp, hsvc, hsent'⟩ := replyHalf_spec hR (show (⟨c.value, sn, c.length_eq⟩, p) ∈
    ((S.requestHalf c s p sn si₀ rsi₀ junk).services s).taken by simp [ht]) hr
    ((hcl₃ c').1 ▸ hcl) (fun hc => by rw [hf hc]) snr si₀ rsi₀ stack junk
  exact ⟨hR', by rw [exchangeRun, hsvc, ht], by rw [exchangeRun, hresp, (hcl₃ c').2],
    by rw [exchangeRun, hsent', hsent]⟩

/-- A request writer's GUID, and the identity a write starts from. -/
def guidA : Guid := ⟨List.replicate 16 1, rfl⟩

def identityA : SampleIdentity := ⟨guidA, ⟨0, 0⟩⟩

/-- From the initial state, client `guidA` sends `1`, numbered `7`; service `0` answers `2`,
numbered `9`; client `c'` takes the reply. -/
def exchangeA (c' : Guid) : RrSystem Nat Nat :=
  RrSystem.init.exchangeRun guidA c' 0 1 2 7 9 identityA identityA (writerGid guidA)
    (sendRequest (writerGid guidA) 0)

theorem Subscriber.empty_drained : Subscriber.empty.Drained :=
  ⟨by simp [Subscriber.queued, Subscriber.rest, Subscriber.empty], by simp [Subscriber.empty]⟩

/-- A round trip from any reachable state whose service and client readers have nothing left to
hand out: client `c` sends `p`, numbered `sn` by the engine, which `send_request` returns;
service `s` takes it under `c`'s GUID and `sn`; its answer `r` goes back under the id it took;
client `c` takes `r` under its own GUID and `sn`. Every call is a step of the protocol, whether
or not `c` reads through its filter. -/
theorem exchange_roundTrip {S : RrSystem α β} (hS : RrReachable filtered answers S) {c : Guid}
    {s : Nat} (hsv : (S.services s).requestReader.Drained)
    (hcl : (S.clients c).replyReader.Drained) {p : α} {r : β} (hr : answers p r)
    (sn snr : BitVec 64) (si₀ rsi₀ : SampleIdentity) (stack : Gid) (junk : RrMsg) :
    RrReachable filtered answers (S.exchangeRun c c s p r sn snr si₀ rsi₀ stack junk) ∧
      ((S.exchangeRun c c s p r sn snr si₀ rsi₀ stack junk).clients c).sent =
        (S.clients c).sent ++ [(sn, p)] ∧
      ((S.exchangeRun c c s p r sn snr si₀ rsi₀ stack junk).services s).taken =
        (S.services s).taken ++ [(⟨c.value, sn, c.length_eq⟩, p)] ∧
      ((S.exchangeRun c c s p r sn snr si₀ rsi₀ stack junk).clients c).responses =
        (S.clients c).responses ++ [(⟨c.value, sn, c.length_eq⟩, r)] :=
  let ⟨hR, ht, hresp, hsent⟩ :=
    exchangeRun_spec hS hsv hcl (fun _ => rfl) hr sn snr si₀ rsi₀ stack junk
  ⟨hR, hsent, ht, hresp⟩

theorem exchange_roundTrip_init :
    RrReachable (fun _ => true) (fun (p r : Nat) => r = p + 1) RrSystem.init ∧
      Subscriber.empty.Drained ∧ 2 = 1 + 1 ∧
      RrReachable (fun _ => true) (fun (p r : Nat) => r = p + 1) (exchangeA guidA) ∧
      ((exchangeA guidA).clients guidA).sent = [(7, 1)] ∧
      ((exchangeA guidA).services 0).taken = [(⟨guidA.value, 7, guidA.length_eq⟩, 1)] ∧
      ((exchangeA guidA).clients guidA).responses = [(⟨guidA.value, 7, guidA.length_eq⟩, 2)] :=
  let h₀ : RrReachable (fun _ => true) (fun (p r : Nat) => r = p + 1) RrSystem.init := .init
  ⟨h₀, Subscriber.empty_drained, rfl, exchange_roundTrip h₀ Subscriber.empty_drained
    Subscriber.empty_drained rfl 7 9 identityA identityA (writerGid guidA)
    (sendRequest (writerGid guidA) 0)⟩

/-! ## Isolation and correlation -/

/-- Every response a client takes answers a request: its request id carries the GUID of a
client `c'` and the sequence number of a request `c'` sent, and the response answers the payload
`c'` sent under that number. A client reading through its filter only takes responses to its own
requests: `c'` is the client itself. -/
theorem takeResponse_answers_own_request {S : RrSystem α β} (hS : RrReachable filtered answers S)
    {c : Guid} {id : RequestId} {r : β} (hx : (id, r) ∈ (S.clients c).responses) :
    ∃ c' p, id.writerGuid = c'.value ∧ (id.sequenceNumber, p) ∈ (S.clients c').sent ∧
      answers p r ∧ (filtered c = true → c' = c) := by
  obtain ⟨hg, p, ⟨c', hc', hi⟩, ha⟩ := ((reachable_inv hS).clients c).responses _ hx
  exact ⟨c', p, hc', hi, ha, fun hc => Guid.ext (hc'.symm.trans (hg hc))⟩

theorem takeResponse_answers_own_request_exchange :
    RrReachable (fun _ => true) (fun (p r : Nat) => r = p + 1) (exchangeA guidA) ∧
      ((⟨guidA.value, 7, guidA.length_eq⟩ : RequestId), 2) ∈
        ((exchangeA guidA).clients guidA).responses ∧
      ∃ c' p, guidA.value = Guid.value c' ∧ ((7 : BitVec 64), p) ∈ ((exchangeA guidA).clients c').sent ∧
        2 = p + 1 ∧ (true = true → c' = guidA) := by
  have h₀ : RrReachable (fun _ => true) (fun (p r : Nat) => r = p + 1) RrSystem.init := .init
  obtain ⟨hR, -, hresp, -⟩ := exchangeRun_spec h₀ (s := 0) Subscriber.empty_drained
    (show (RrSystem.init.clients guidA).replyReader.Drained from Subscriber.empty_drained)
    (fun _ => rfl) (p := 1) (r := 2) rfl 7 9 identityA identityA (writerGid guidA)
    (sendRequest (writerGid guidA) 0)
  have hx : ((⟨guidA.value, 7, guidA.length_eq⟩ : RequestId), 2) ∈
      ((exchangeA guidA).clients guidA).responses := by
    rw [exchangeA, hresp]
    simp [RrSystem.init]
  exact ⟨hR, hx, takeResponse_answers_own_request hR hx⟩

/-- The filter hypothesis of `takeResponse_answers_own_request` cannot be dropped. Where client
`c'` reads the plain reply topic (the engine answered `RMW_RET_UNSUPPORTED` to the
content-filtered topic), the round trip of another client `c` can hand `c'` the reply, and
`c'` takes it as its own response. This rests on an assumption about the engine side: the batch
that hands `c'` the reply carries `rmw_connextdds_filter_sample`'s acceptance, an answer the model
leaves free. -/
theorem unfiltered_client_takes_foreign_reply {S : RrSystem α β}
    (hS : RrReachable filtered answers S) {c c' : Guid} (hne : c' ≠ c) (hf : filtered c' = false)
    {s : Nat} (hsv : (S.services s).requestReader.Drained)
    (hcl : (S.clients c').replyReader.Drained) {p : α} {r : β} (hr : answers p r) :
    ∃ S', RrReachable filtered answers S' ∧
      ∃ x ∈ (S'.clients c').responses, x.1.writerGuid = c.value ∧ x.1.writerGuid ≠ c'.value := by
  obtain ⟨hR, -, hresp, -⟩ := exchangeRun_spec hS hsv hcl (fun h => absurd h (by simp [hf])) hr
    0 0 ⟨c, ⟨0, 0⟩⟩ ⟨c, ⟨0, 0⟩⟩ (writerGid c) (sendRequest (writerGid c) 0)
  refine ⟨_, hR, _, hresp ▸ List.mem_append_right _ (List.mem_singleton_self _), rfl, ?_⟩
  exact fun h => hne (Guid.ext h).symm

end Protocol

end RmwConnextdds
