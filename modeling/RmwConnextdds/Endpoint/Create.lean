import Mathlib.Data.List.Basic

/-! # Creating publishers, subscribers, clients and services

`RMW_Connext_Publisher::create` and `RMW_Connext_Subscriber::create` register the message type,
find or create the topic, create the DataWriter or DataReader (the subscriber optionally through a
content-filtered topic) and allocate the endpoint object. `RMW_Connext_Client::create` and
`RMW_Connext_Service::create` build one publisher and one subscriber. Each registers a scope guard
after every step that created something, and cancels them all on success.

## Transcription choices

* The engine and the heap are a list of live entities, named by type or topic name or by a fresh
  handle. A fault plan makes the `n`-th engine call or allocation of the run fail (`failAt`);
  the clean-up calls the guards make succeed.
* A scope guard is the `StateM` action its lambda runs, built from the values it captures when it
  is registered: a capture by value keeps the value of that moment.
* Modelled from the spec: `register_type_support` and `unregister_type_support` (type support
  code outside this file) allocate a type support object and register the type unless it is
  registered already, and unregister it; `ctx->assert_topic` finds the topic or creates it;
  `rmw_connextdds_create_contentfilteredtopic` returns `RMW_RET_UNSUPPORTED` where the engine
  has no content filters. `status_condition.invalidate()` touches no entity.
* QoS objects and the filter strings are finalized or freed on every path; only their
  allocation, which may fail, is kept.
-/

namespace RmwConnextdds
set_option autoImplicit false

inductive Entity
  | typeReg (name : Nat)
  | topic (name : Nat)
  | cft (h : Nat)
  | writer (h : Nat)
  | reader (h : Nat)
  | typeSupport (h : Nat)
  | publisher (h : Nat)
  | subscriber (h : Nat)
  | client (h : Nat)
  | service (h : Nat)
  deriving DecidableEq, Repr

/-- The live entities, the next fresh handle, the calls made so far, the fault plan, and whether
the engine supports content filters. -/
structure Engine where
  live : List Entity
  fresh : Nat
  calls : Nat
  failAt : Option Nat
  cftSupported : Bool
  deriving DecidableEq, Repr

namespace Engine

/-- One engine call or allocation: whether it succeeds under the fault plan. -/
def attempt : StateM Engine Bool := fun E =>
  (E.failAt != some E.calls, { E with calls := E.calls + 1 })

def add (e : Entity) : StateM Engine Unit := fun E => ((), { E with live := E.live ++ [e] })

def kill (e : Entity) : StateM Engine Unit := fun E => ((), { E with live := E.live.erase e })

def create (mk : Nat → Entity) : StateM Engine (Option Nat) := do
  if !(← attempt) then return none
  let h := (← get).fresh
  modify fun E => { E with fresh := E.fresh + 1 }
  add (mk h)
  return some h

def isLive (e : Entity) : StateM Engine Bool := fun E => (E.live.contains e, E)

end Engine

open Engine

/-! ## The engine calls -/

/-- Modelled from the spec: `RMW_Connext_MessageTypeSupport::register_type_support`: a type support
object, and whether this call registered the type. -/
def registerTypeSupport (name : Nat) : StateM Engine (Option (Nat × Bool)) := do
  let some ts ← create .typeSupport | return none
  if ← isLive (.typeReg name) then return some (ts, false)
  add (.typeReg name)
  return some (ts, true)

/-- Modelled from the spec: `RMW_Connext_MessageTypeSupport::unregister_type_support`. -/
def unregisterTypeSupport (name : Nat) : StateM Engine Unit := kill (.typeReg name)

/-- Modelled from the spec: `ctx->assert_topic`: whether this call created the topic. -/
def assertTopic (name : Nat) : StateM Engine (Option Bool) := do
  if !(← attempt) then return none
  if ← isLive (.topic name) then return some false
  add (.topic name)
  return some true

/-- What `rmw_connextdds_create_contentfilteredtopic` returns. -/
inductive CftRc
  | ok (h : Nat)
  | unsupported
  | error

/-- Modelled from the spec: `rmw_connextdds_create_contentfilteredtopic`. -/
def createContentFilteredTopic : StateM Engine CftRc := do
  if !(← get).cftSupported then return .unsupported
  match ← create .cft with
  | some h => return .ok h
  | none => return .error

/-! ## Publisher and subscriber -/

/-- The fields of an `RMW_Connext_Publisher` its `finalize` reads. -/
structure PubImpl where
  self : Nat
  writer : Nat
  topic : Nat
  createdTopic : Bool
  typeName : Nat
  typeSupport : Nat

/-- The scope guard `scope_exit_type_unregister` of `RMW_Connext_Publisher::create`. -/
def pubTypeExit (registered : Bool) (name ts : Nat) : StateM Engine Unit := do
  if registered then unregisterTypeSupport name
  kill (.typeSupport ts)

/-- The scope guard `scope_exit_topic_delete` of `RMW_Connext_Publisher::create`. -/
def pubTopicExit (created : Bool) (name : Nat) : StateM Engine Unit :=
  if created then kill (.topic name) else pure ()

/-- `RMW_Connext_Publisher::create`. -/
def publisherCreate (typeName topicName : Nat) : StateM Engine (Option PubImpl) := do
  let some (ts, registered) ← registerTypeSupport typeName | return none
  let exitType := pubTypeExit registered typeName ts
  let some created ← assertTopic topicName | do exitType; return none
  let exitTopic := pubTopicExit created topicName
  -- `DDS_Publisher_get_default_datawriter_qos`
  if !(← attempt) then exitTopic; exitType; return none
  let some w ← create .writer | do exitTopic; exitType; return none
  let exitWriter := kill (.writer w)
  let some p ← create .publisher | do exitWriter; exitTopic; exitType; return none
  return some ⟨p, w, topicName, created, typeName, ts⟩

/-- `RMW_Connext_Publisher::finalize`, then `delete`. -/
def publisherFinalize (p : PubImpl) : StateM Engine Unit := do
  kill (.writer p.writer)
  if p.createdTopic then kill (.topic p.topic)
  unregisterTypeSupport p.typeName
  kill (.typeSupport p.typeSupport)
  kill (.publisher p.self)

/-- The scope guard `scope_exit_type_unregister` of `RMW_Connext_Subscriber::create`: unlike the
publisher's, it does not delete the type support object. -/
def subTypeExit (registered : Bool) (name : Nat) : StateM Engine Unit :=
  if registered then unregisterTypeSupport name else pure ()

/-- The scope guard `scope_exit_topic_delete` of `RMW_Connext_Subscriber::create`, with the
`cft_topic` it captured. -/
def subTopicExit (created : Bool) (name : Nat) (cftTopic : Option Nat) : StateM Engine Unit := do
  if let some c := cftTopic then kill (.cft c)
  if created then kill (.topic name)

/-- `RMW_Connext_Subscriber::create`, with a content filter when `cft` is set. The topic guard is
registered while `cft_topic` is still `nullptr`. -/
def subscriberCreate (typeName topicName : Nat) (cft : Bool) : StateM Engine (Option Nat) := do
  let some (_, registered) ← registerTypeSupport typeName | return none
  let exitType := subTypeExit registered typeName
  let some created ← assertTopic topicName | do exitType; return none
  let exitTopic := subTopicExit created topicName none
  if cft then
    if let .error ← createContentFilteredTopic then
      exitTopic; exitType; return none
  -- `DDS_Subscriber_get_default_datareader_qos`
  if !(← attempt) then exitTopic; exitType; return none
  let some r ← create .reader | do exitTopic; exitType; return none
  let exitReader := kill (.reader r)
  let some s ← create .subscriber | do exitReader; exitTopic; exitType; return none
  return some s

/-! ## Client and service -/

/-- `RMW_Connext_Client::create`: its guard finalizes and deletes the endpoints created so far,
then the client. -/
def clientCreate (reqType resType reqTopic resTopic : Nat) : StateM Engine (Option Nat) := do
  let some cl ← create .client | return none
  let some pub ← publisherCreate reqType reqTopic | do kill (.client cl); return none
  let exitClient := do publisherFinalize pub; kill (.client cl)
  -- the filter's name and expression, `DDS_String_alloc`
  if !(← attempt) then exitClient; return none
  if !(← attempt) then exitClient; return none
  let some _ ← subscriberCreate resType resTopic true | do exitClient; return none
  return some cl

/-- `RMW_Connext_Service::create`: its guard only deletes the service object. -/
def serviceCreate (reqType resType reqTopic resTopic : Nat) : StateM Engine (Option Nat) := do
  let some svc ← create .service | return none
  let exitService := kill (.service svc)
  let some _ ← publisherCreate resType resTopic | do exitService; return none
  let some _ ← subscriberCreate reqType reqTopic false | do exitService; return none
  return some svc

/-- Two failed constructions from an engine with nothing live. `RMW_Connext_Service::create` whose
request subscriber fails at its type registration (the seventh call) returns `nullptr` with the
reply publisher, its DataWriter, topic, type registration and type support object still live.
`RMW_Connext_Subscriber::create` with a content filter whose DataReader fails (the fifth call)
returns `nullptr` with the content-filtered topic and the type support object still live. -/
theorem create_failures_leave_entities :
    ((serviceCreate 0 1 10 11).run ⟨[], 0, 0, some 6, true⟩).1 = none ∧
      ((serviceCreate 0 1 10 11).run ⟨[], 0, 0, some 6, true⟩).2.live =
        [.typeSupport 1, .typeReg 1, .topic 11, .writer 2, .publisher 3] ∧
      ((subscriberCreate 0 10 true).run ⟨[], 0, 0, some 4, true⟩).1 = none ∧
      ((subscriberCreate 0 10 true).run ⟨[], 0, 0, some 4, true⟩).2.live =
        [.typeSupport 0, .cft 1] :=
  ⟨rfl, rfl, rfl, rfl⟩

end RmwConnextdds
