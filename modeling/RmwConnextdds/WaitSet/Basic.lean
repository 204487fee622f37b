import Mathlib.Logic.Function.Basic

/-! # The wait-set core of `rmw_impl.cpp`: conditions, wait sets and the state they share

A thread calls `RMW_Connext_WaitSet::wait()` with five arrays of sources (subscriptions, guard
conditions, services, clients, events). The wait set attaches the condition of every source,
blocks in the engine's multi-wait, then nulls out the entries that are not ready. Conditions are
shared: a condition points back at the one wait set it is attached to (`attached_waitset`), the
wait set lists the sources it attached (`attached_subscribers` … `attached_events`), and an
entity's destruction marks its condition `deleted` and invalidates the wait set holding it.

This module is the state all of that reads and writes, and the condition operations. An event is
created on a subscription or on a publisher, on the subscription where `ros_event_for_reader` says
its type is a reader's event; the wait set enables `ros_event_to_dds` of its type on that
entity's status condition, and the condition's `get_status` reads the event's status.
`eventStatus_consistent` shows that the two tables and the two `get_status` agree.

## Transcription choices

* **Pointers are names.** A subscription, client, service or guard condition is named by a `Nat`
  (its pointer); an event by the `Nat` address of its `rmw_event_t`, whose current contents are
  `Sys.events`. Two sources of one kind are the same iff their names are equal, which is what
  `memcmp` over pointer arrays compares.
* **A condition is named by the object it lives in** (`CondId`): the status condition of a
  subscription's reader, of a client's reply reader, of a service's request reader, of a
  publisher's writer, or a guard condition. `sub->condition()`,
  `client->subscriber()->condition()` and `RMW_Connext_Event::condition(e)` are then the
  constructors applied to the name (`EventRec.condition` for events).
* **The engine is an oracle.** Every engine call the wait set makes (detaching, resetting and
  enabling statuses, attaching, resetting a trigger, `has_data`, the multi-wait) is answered by
  an `Oracle`; a theorem quantified over the oracle holds for every answer the engine may give.
* **Missing code.** `RMW_Connext_Condition`'s `attach`, `detach`, `reset_statuses` and
  `enable_statuses` are declared in `rmw_impl.hpp`, which is not under `src/`; they are
  modelled from the spec (§4.1) below.
* The `DDS_StatusKind` bits are the engine's (the DDS standard's values); only that they are
  distinct bits of one mask matters.
* `get_status` returns the status kind whose engine getter it calls, or the message it sets; the
  fields it copies are left out, and so is the event type number the `unsupported` messages print.
  Whether a getter returns `DDS_RETCODE_OK` is `getOk` of its status kind.
-/

namespace RmwConnextdds
set_option autoImplicit false

/-- The `rmw_ret_t` values the wait-set core returns. -/
inductive RmwRet
  | ok
  | error
  | timeout
  deriving DecidableEq, Repr

/-- `RMW_CONNEXT_WAITSET_*`. -/
inductive WaitSetState
  | free
  | acquiring
  | blocked
  | releasing
  | invalidating
  deriving DecidableEq, Repr

/-- `rmw_event_type_t`; `other` stands for every value `ros_event_to_dds` does not know. -/
inductive RmwEventType
  | livelinessChanged
  | requestedDeadlineMissed
  | livelinessLost
  | offeredDeadlineMissed
  | requestedQosIncompatible
  | offeredQosIncompatible
  | messageLost
  | other
  deriving DecidableEq, Repr

/-! ## Status masks -/

def ddsOfferedDeadlineMissedStatus : Nat := 2
def ddsRequestedDeadlineMissedStatus : Nat := 4
def ddsOfferedIncompatibleQosStatus : Nat := 32
def ddsRequestedIncompatibleQosStatus : Nat := 64
def ddsSampleLostStatus : Nat := 128
def ddsDataAvailableStatus : Nat := 1024
def ddsLivelinessLostStatus : Nat := 2048
def ddsLivelinessChangedStatus : Nat := 4096

/-- `ros_event_to_dds` (with `RMW_CONNEXT_HAVE_MESSAGE_LOST`): an unknown event type maps to
`(DDS_StatusKind)UINT32_MAX`, every bit. -/
def rosEventToDds : RmwEventType → Nat
  | .livelinessChanged => ddsLivelinessChangedStatus
  | .requestedDeadlineMissed => ddsRequestedDeadlineMissedStatus
  | .livelinessLost => ddsLivelinessLostStatus
  | .offeredDeadlineMissed => ddsOfferedDeadlineMissedStatus
  | .requestedQosIncompatible => ddsRequestedIncompatibleQosStatus
  | .offeredQosIncompatible => ddsOfferedIncompatibleQosStatus
  | .messageLost => ddsSampleLostStatus
  | .other => 4294967295

/-- `ros_event_for_reader`. -/
def rosEventForReader : RmwEventType → Bool
  | .livelinessChanged | .requestedDeadlineMissed | .requestedQosIncompatible | .messageLost => true
  | _ => false

/-- One case of `get_status`: the engine's getter of status `kind`, failing with `msg` when it
does not return `DDS_RETCODE_OK`. -/
def readStatus (getOk : Nat → Bool) (kind : Nat) (msg : String) : Except String Nat :=
  if getOk kind then .ok kind else .error msg

/-- `RMW_Connext_SubscriberStatusCondition::get_status`. -/
def subscriberGetStatus (getOk : Nat → Bool) : RmwEventType → Except String Nat
  | .livelinessChanged =>
    readStatus getOk ddsLivelinessChangedStatus "failed to get liveliness changed status"
  | .requestedDeadlineMissed =>
    readStatus getOk ddsRequestedDeadlineMissedStatus
      "failed to get requested deadline missed status"
  | .requestedQosIncompatible =>
    readStatus getOk ddsRequestedIncompatibleQosStatus
      "failed to get requested incompatible qos status"
  | .messageLost => readStatus getOk ddsSampleLostStatus "failed to get sample lost status"
  | _ => .error "unsupported subscriber qos"

/-- `RMW_Connext_PublisherStatusCondition::get_status`. -/
def publisherGetStatus (getOk : Nat → Bool) : RmwEventType → Except String Nat
  | .livelinessLost =>
    readStatus getOk ddsLivelinessLostStatus "failed to get liveliness lost status"
  | .offeredDeadlineMissed =>
    readStatus getOk ddsOfferedDeadlineMissedStatus "failed to get offered deadline missed status"
  | .offeredQosIncompatible =>
    readStatus getOk ddsOfferedIncompatibleQosStatus
      "failed to get offered incompatible qos status"
  | _ => .error "unsupported publisher qos"

/-- For every event type, the `get_status` of the entity kind `ros_event_for_reader` names calls
the getter of the status `ros_event_to_dds` enables for it, and the other kind's `get_status`
refuses the type; a type `ros_event_to_dds` does not know is refused by both. -/
theorem eventStatus_consistent (getOk : Nat → Bool) (e : RmwEventType) :
    (rosEventForReader e = true →
        (∃ msg, subscriberGetStatus getOk e = readStatus getOk (rosEventToDds e) msg) ∧
          publisherGetStatus getOk e = .error "unsupported publisher qos") ∧
      (rosEventForReader e = false →
        subscriberGetStatus getOk e = .error "unsupported subscriber qos" ∧
          (e ≠ .other → ∃ msg, publisherGetStatus getOk e = readStatus getOk (rosEventToDds e) msg) ∧
          (e = .other → publisherGetStatus getOk e = .error "unsupported publisher qos")) := by
  cases e <;> simp [rosEventForReader, subscriberGetStatus, publisherGetStatus, rosEventToDds]

/-! ## Sources and conditions -/

/-- A condition, named by the object it lives in. -/
inductive CondId
  | subscriber (i : Nat)
  | client (i : Nat)
  | service (i : Nat)
  | publisher (i : Nat)
  | guard (i : Nat)
  deriving DecidableEq, Repr

/-- The entity an `rmw_event_t` was created on (its `data`). -/
inductive EventEntity
  | subscription (i : Nat)
  | publisher (i : Nat)
  deriving DecidableEq, Repr

/-- The fields of an `rmw_event_t` the wait set reads; `attached_events_cache` holds copies. -/
structure EventRec where
  data : EventEntity
  eventType : RmwEventType
  deriving DecidableEq, Repr

/-- `RMW_Connext_Event::condition`: the status condition of the event's entity. -/
def EventRec.condition (e : EventRec) : CondId :=
  match e.data with
  | .subscription i => .subscriber i
  | .publisher i => .publisher i

/-- The fields of an `RMW_Connext_Condition` the wait set reads and writes. -/
structure CondSt where
  attachedWaitset : Option Nat := none
  deleted : Bool := false
  enabledStatuses : Nat := 0
  deriving DecidableEq, Repr

/-- An `RMW_Connext_WaitSet`: its state and the sources it attached, in attach order, with the
copy of each attached event (`attached_events_cache`, a map keyed by the event's address). -/
structure WaitSetSt where
  state : WaitSetState := .free
  attachedSubscribers : List Nat := []
  attachedConditions : List Nat := []
  attachedClients : List Nat := []
  attachedServices : List Nat := []
  attachedEvents : List Nat := []
  attachedEventsCache : Nat → Option EventRec := fun _ => none

/-- Everything the wait sets share: the conditions, the wait sets, and the current contents of
every `rmw_event_t` address. -/
structure Sys where
  conds : CondId → CondSt
  waitsets : Nat → WaitSetSt
  events : Nat → EventRec

/-- Nothing attached, deleted or enabled, and every wait set `FREE` and empty. -/
def Sys.initial (events : Nat → EventRec) : Sys :=
  { conds := fun _ => {}, waitsets := fun _ => {}, events }

/-- The five kinds of sources, one attached list and one caller array each. -/
inductive SrcKind
  | subscription
  | guardCondition
  | client
  | service
  | event
  deriving DecidableEq, Repr

namespace WaitSetSt

def attached (W : WaitSetSt) : SrcKind → List Nat
  | .subscription => W.attachedSubscribers
  | .guardCondition => W.attachedConditions
  | .client => W.attachedClients
  | .service => W.attachedServices
  | .event => W.attachedEvents

/-- `push_back` on the attached list of one kind. -/
def pushBack (W : WaitSetSt) : SrcKind → Nat → WaitSetSt
  | .subscription, x => { W with attachedSubscribers := W.attachedSubscribers ++ [x] }
  | .guardCondition, x => { W with attachedConditions := W.attachedConditions ++ [x] }
  | .client, x => { W with attachedClients := W.attachedClients ++ [x] }
  | .service, x => { W with attachedServices := W.attachedServices ++ [x] }
  | .event, x => { W with attachedEvents := W.attachedEvents ++ [x] }

/-- `attached_events_cache.emplace(e, *e)`: a key already present keeps its copy. -/
def emplace (W : WaitSetSt) (e : Nat) (r : EventRec) : WaitSetSt :=
  { W with attachedEventsCache := fun k =>
      if k = e then (W.attachedEventsCache k).orElse (fun _ => some r) else W.attachedEventsCache k }

/-- The five `clear()`s at the end of `detach()`. -/
def clear (W : WaitSetSt) : WaitSetSt :=
  { W with attachedSubscribers := [], attachedConditions := [], attachedClients := [],
           attachedServices := [], attachedEvents := [], attachedEventsCache := fun _ => none }

@[simp] theorem attached_pushBack_self (W : WaitSetSt) (k : SrcKind) (x : Nat) :
    (W.pushBack k x).attached k = W.attached k ++ [x] := by
  cases k <;> rfl

theorem attached_pushBack_ne (W : WaitSetSt) {k k' : SrcKind} (x : Nat) (h : k' ≠ k) :
    (W.pushBack k x).attached k' = W.attached k' := by
  cases k <;> cases k' <;> first | rfl | exact absurd rfl h

@[simp] theorem pushBack_state (W : WaitSetSt) (k : SrcKind) (x : Nat) :
    (W.pushBack k x).state = W.state := by
  cases k <;> rfl

@[simp] theorem pushBack_cache (W : WaitSetSt) (k : SrcKind) (x : Nat) :
    (W.pushBack k x).attachedEventsCache = W.attachedEventsCache := by
  cases k <;> rfl

@[simp] theorem attached_clear (W : WaitSetSt) (k : SrcKind) : W.clear.attached k = [] := by
  cases k <;> rfl

@[simp] theorem clear_state (W : WaitSetSt) : W.clear.state = W.state := rfl

@[simp] theorem attached_emplace (W : WaitSetSt) (e : Nat) (r : EventRec) (k : SrcKind) :
    (W.emplace e r).attached k = W.attached k := by
  cases k <;> rfl

@[simp] theorem emplace_state (W : WaitSetSt) (e : Nat) (r : EventRec) :
    (W.emplace e r).state = W.state := rfl

@[simp] theorem attached_withState (W : WaitSetSt) (st : WaitSetState) (k : SrcKind) :
    ({ W with state := st } : WaitSetSt).attached k = W.attached k := by
  cases k <;> rfl

end WaitSetSt

namespace Sys

def setCond (S : Sys) (c : CondId) (cs : CondSt) : Sys :=
  { S with conds := Function.update S.conds c cs }

def setWaitSet (S : Sys) (w : Nat) (W : WaitSetSt) : Sys :=
  { S with waitsets := Function.update S.waitsets w W }

/-- Set a condition's `attached_waitset`. -/
def setBackRef (S : Sys) (c : CondId) (v : Option Nat) : Sys :=
  S.setCond c { S.conds c with attachedWaitset := v }

def setMask (S : Sys) (c : CondId) (m : Nat) : Sys :=
  S.setCond c { S.conds c with enabledStatuses := m }

/-- Modelled from the spec: the destruction of a condition's owning entity marks it `deleted`. -/
def markDeleted (S : Sys) (c : CondId) : Sys :=
  S.setCond c { S.conds c with deleted := true }

/-- Set a wait set's `state`. -/
def setState (S : Sys) (w : Nat) (st : WaitSetState) : Sys :=
  S.setWaitSet w { S.waitsets w with state := st }

@[simp] theorem setCond_conds (S : Sys) (c c' : CondId) (cs : CondSt) :
    (S.setCond c cs).conds c' = if c' = c then cs else S.conds c' :=
  Function.update_apply _ _ _ _

@[simp] theorem setCond_waitsets (S : Sys) (c : CondId) (cs : CondSt) :
    (S.setCond c cs).waitsets = S.waitsets := rfl

@[simp] theorem setCond_events (S : Sys) (c : CondId) (cs : CondSt) :
    (S.setCond c cs).events = S.events := rfl

@[simp] theorem setWaitSet_waitsets (S : Sys) (w w' : Nat) (W : WaitSetSt) :
    (S.setWaitSet w W).waitsets w' = if w' = w then W else S.waitsets w' :=
  Function.update_apply _ _ _ _

@[simp] theorem setWaitSet_conds (S : Sys) (w : Nat) (W : WaitSetSt) :
    (S.setWaitSet w W).conds = S.conds := rfl

@[simp] theorem setWaitSet_events (S : Sys) (w : Nat) (W : WaitSetSt) :
    (S.setWaitSet w W).events = S.events := rfl

@[simp] theorem setState_attached (S : Sys) (w : Nat) (st : WaitSetState) (k : SrcKind) :
    ((S.setState w st).waitsets w).attached k = (S.waitsets w).attached k := by
  cases k <;> simp [setState, WaitSetSt.attached]

@[simp] theorem setState_state (S : Sys) (w : Nat) (st : WaitSetState) :
    ((S.setState w st).waitsets w).state = st := by
  simp [setState]

theorem setState_waitsets_ne (S : Sys) {w w' : Nat} (st : WaitSetState) (h : w' ≠ w) :
    (S.setState w st).waitsets w' = S.waitsets w' := by
  simp [setState, h]

@[simp] theorem setState_conds (S : Sys) (w : Nat) (st : WaitSetState) :
    (S.setState w st).conds = S.conds := rfl

@[simp] theorem setState_events (S : Sys) (w : Nat) (st : WaitSetState) :
    (S.setState w st).events = S.events := rfl

end Sys

/-! ## The engine -/

inductive CondOp
  | detach
  | resetStatuses
  | enableStatuses
  | attach
  | attachData
  | resetTrigger
  deriving DecidableEq, Repr

/-- `DDS_WaitSet_wait`'s return code, as far as `wait()` distinguishes it. -/
inductive DdsWaitRc
  | ok
  | timeout
  | error
  deriving DecidableEq, Repr

/-- The engine's answers: whether each call on a condition succeeds, whether the active-condition
sequence can be resized, what the multi-wait returns and which conditions it reports active,
`has_data()` of each reader, and `RMW_Connext_Event::active` of each event. -/
structure Oracle where
  callOk : CondOp → CondId → Bool
  ensureLengthOk : Bool
  waitRc : DdsWaitRc
  activeConditions : List CondId
  hasData : CondId → Bool
  eventActive : EventRec → Bool

/-- An engine on which every call succeeds, the multi-wait returns with no active condition, and
every reader has data and every event is active. -/
def Oracle.allOk : Oracle :=
  { callOk := fun _ _ => true, ensureLengthOk := true, waitRc := .ok, activeConditions := [],
    hasData := fun _ => true, eventActive := fun _ => true }

/-- Continue with `g` after a call that returned `RMW_RET_OK`; any other return code is
returned at once, with the state the call left. -/
def thenOk (r : RmwRet × Sys) (g : Sys → RmwRet × Sys) : RmwRet × Sys :=
  match r with
  | (.ok, S) => g S
  | r => r

@[simp] theorem thenOk_ok (S : Sys) (g : Sys → RmwRet × Sys) : thenOk (.ok, S) g = g S := rfl

@[simp] theorem thenOk_error (S : Sys) (g : Sys → RmwRet × Sys) :
    thenOk (.error, S) g = (.error, S) := rfl

/-! ## Condition operations

Modelled from the spec (§4.1): `RMW_Connext_Condition` is declared in `rmw_impl.hpp`. -/

/-- Modelled from the spec: `attach(coordinator)` fails if the condition is attached to a
different wait set and is idempotent for the same one; otherwise the engine attaches it and the
back-reference is set. -/
def conditionAttach (o : Oracle) (w : Nat) (c : CondId) (S : Sys) : RmwRet × Sys :=
  match (S.conds c).attachedWaitset with
  | some w' => (if w' = w then .ok else .error, S)
  | none => if o.callOk .attach c then (.ok, S.setBackRef c (some w)) else (.error, S)

/-- Modelled from the spec: `detach()` succeeds unless the engine rejects the detachment, and
clears the back-reference. -/
def conditionDetach (o : Oracle) (c : CondId) (S : Sys) : RmwRet × Sys :=
  match (S.conds c).attachedWaitset with
  | none => (.ok, S)
  | some _ => if o.callOk .detach c then (.ok, S.setBackRef c none) else (.error, S)

/-- Modelled from the spec: `reset_statuses()` disables every status. -/
def resetStatuses (o : Oracle) (c : CondId) (S : Sys) : RmwRet × Sys :=
  if o.callOk .resetStatuses c then (.ok, S.setMask c 0) else (.error, S)

/-- Modelled from the spec: `enable_statuses(mask)` also enables the statuses of `mask`. -/
def enableStatuses (o : Oracle) (c : CondId) (m : Nat) (S : Sys) : RmwRet × Sys :=
  if o.callOk .enableStatuses c then (.ok, S.setMask c ((S.conds c).enabledStatuses ||| m))
  else (.error, S)

end RmwConnextdds
