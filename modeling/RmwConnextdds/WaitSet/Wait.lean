import RmwConnextdds.WaitSet.Attach

/-! # `process_wait()` and `wait()` of `RMW_Connext_WaitSet`

`wait()` moves its wait set from `FREE` to `ACQUIRING`, attaches the caller's sources, checks the
attached count, sizes the active-condition sequence, converts the timeout, moves to `BLOCKED`,
blocks in `DDS_WaitSet_wait`, moves to `RELEASING` and demultiplexes with `process_wait()`. Two
scope guards run on every return after the acquisition: `scope_exit` (declared second, so run
first) moves the wait set back to `FREE`, then `scope_exit_detach` detaches everything unless the
success path cancelled it.

`process_wait()` decides readiness per attached entry, independently of the engine's active
list except for guard conditions: `has_data()` for subscriptions, clients and services, presence
in the active list for guard conditions (whose trigger is then reset), and
`RMW_Connext_Event::active` on the cached copy for events. Entries found not ready are nulled
in the caller's arrays in place. Every loop but the one over services also checks that the
entry's condition has not been marked `deleted`.

## Transcription choices

* `process_wait`'s loops are maps over the attached lists: each turn reads only its own entry,
  and the accumulated `valid`, `failed` and `active_conditions` are conjunctions, a disjunction
  and a count. The `i`-th write `subs->subscribers[i] = nullptr` is position `i` of `nullOut`.
* `RMW_CONNEXT_ASSERT(active_conditions > 0 || timeout)` (a macro of `rmw_impl.hpp`) changes no
  state and no return value here, so it is left out.
* Alone, a thread that finds the wait set `INVALIDATING` waits on `state_cond` forever: `none`.
-/

namespace RmwConnextdds
set_option autoImplicit false

/-! ## `process_wait` -/

/-- `RMW_Connext_WaitSet::active_condition`: the condition owns one of the active conditions the
multi-wait returned. -/
def activeCondition (o : Oracle) (c : CondId) : Bool := decide (c ∈ o.activeConditions)

/-- `RMW_Connext_Event::active` of an attached event, on its cached copy. -/
def eventReady (o : Oracle) (W : WaitSetSt) (e : Nat) : Bool :=
  match W.attachedEventsCache e with
  | some r => o.eventActive r
  | none => false

/-- The cached event's condition is not marked `deleted`. -/
def eventUndeleted (S : Sys) (W : WaitSetSt) (e : Nat) : Bool :=
  match W.attachedEventsCache e with
  | some r => !(S.conds r.condition).deleted
  | none => true

/-- What `process_wait` decides for an entry of kind `k` named `x`. -/
def readyOf (o : Oracle) (W : WaitSetSt) : SrcKind → Nat → Bool
  | .subscription, x => o.hasData (.subscriber x)
  | .guardCondition, x => activeCondition o (.guard x)
  | .client, x => o.hasData (.client x)
  | .service, x => o.hasData (.service x)
  | .event, x => eventReady o W x

/-- What `process_wait` computes: which attached entries are ready, `active_conditions`, and the
return code. -/
structure ProcessResult where
  ready : SrcKind → List Bool
  active : Nat
  rc : RmwRet

/-- `failed`: the trigger reset of an active guard condition failed. -/
def resetFailed (o : Oracle) (W : WaitSetSt) : Bool :=
  W.attachedConditions.any fun g => activeCondition o (.guard g) && !o.callOk .resetTrigger (.guard g)

/-- `valid`, accumulated by the loops over subscriptions, guard conditions, clients and events;
the loop over services does not touch it. -/
def undeleted (S : Sys) (W : WaitSetSt) : Bool :=
  (W.attachedSubscribers.all fun i => !(S.conds (.subscriber i)).deleted) &&
  (W.attachedConditions.all fun g => !(S.conds (.guard g)).deleted) &&
  (W.attachedClients.all fun i => !(S.conds (.client i)).deleted) &&
  W.attachedEvents.all (eventUndeleted S W)

/-- `RMW_Connext_WaitSet::process_wait`. -/
def processWait (o : Oracle) (S : Sys) (W : WaitSetSt) : ProcessResult where
  ready k := (W.attached k).map (readyOf o W k)
  active := [SrcKind.subscription, .guardCondition, .client, .service, .event].foldr
    (fun k n => ((W.attached k).filter (readyOf o W k)).length + n) 0
  rc := if !resetFailed o W && undeleted S W then .ok else .error

/-- `process_wait` returns `RMW_RET_OK` exactly when no active guard condition's trigger reset
failed and no attached subscription, guard condition, client or event condition is `deleted`;
services are not looked at. -/
theorem processWait_rc_eq_ok_iff (o : Oracle) (S : Sys) (W : WaitSetSt) :
    (processWait o S W).rc = .ok ↔
      resetFailed o W = false ∧
      (∀ i ∈ W.attachedSubscribers, (S.conds (.subscriber i)).deleted = false) ∧
      (∀ g ∈ W.attachedConditions, (S.conds (.guard g)).deleted = false) ∧
      (∀ i ∈ W.attachedClients, (S.conds (.client i)).deleted = false) ∧
      (∀ e ∈ W.attachedEvents, eventUndeleted S W e = true) := by
  simp only [processWait, undeleted]
  split_ifs with h <;> simp_all [List.all_eq_true]

theorem EventRec.condition_ne_service (e : EventRec) (i : Nat) : e.condition ≠ .service i := by
  unfold EventRec.condition
  split <;> simp

/-- `process_wait`'s return code does not depend on whether a service's condition is `deleted`:
the loop over services reads only `has_data()`. -/
theorem processWait_markDeleted_service (o : Oracle) (S : Sys) (W : WaitSetSt) (i : Nat) :
    (processWait o (S.markDeleted (.service i)) W).rc = (processWait o S W).rc := by
  have he : eventUndeleted (S.markDeleted (.service i)) W = eventUndeleted S W := by
    funext e
    unfold eventUndeleted
    split <;> simp [Sys.markDeleted, EventRec.condition_ne_service]
  simp only [processWait, undeleted, he]
  simp [Sys.markDeleted]

/-! ## `wait` -/

/-- `rmw_time_t`. -/
structure RmwTime where
  sec : UInt64
  nsec : UInt64

/-- `DDS_Duration_t`. -/
structure DdsDuration where
  sec : Int
  nanosec : Nat

/-- `rmw_connextdds_duration_from_ros_time`: a duration `DDS_Duration_t` cannot hold is an error
and leaves the output as it was. -/
def durationFromRosTime (d : DdsDuration) (t : RmwTime) : RmwRet × DdsDuration :=
  if 2147483647 < t.sec.toNat ∨ 4294967295 < t.nsec.toNat then (.error, d)
  else (.ok, ⟨t.sec.toNat, t.nsec.toNat⟩)

/-- A caller array after `wait()`. -/
abbrev OutArray := Option (List (Option Nat))

/-- `process_wait`'s writes into one caller array: entry `i` is nulled when attached entry `i`
was not ready. -/
def nullOut : List Nat → List Bool → List (Option Nat)
  | [], _ => []
  | x :: xs, [] => some x :: nullOut xs []
  | x :: xs, r :: rs => (if r then some x else none) :: nullOut xs rs

/-- What `wait()` leaves: its return code, the caller's arrays, `active_conditions` (zero when
`process_wait` did not run), and the shared state. -/
structure WaitResult where
  rc : RmwRet
  out : SrcKind → OutArray
  active : Nat
  sys : Sys

def WaitArgs.untouched (a : WaitArgs) (k : SrcKind) : OutArray := (a.array k).map (List.map some)

/-- The two scope guards, in the order C++ destroys them: `scope_exit` moves the wait set back to
`FREE`, then `scope_exit_detach` detaches everything unless it was cancelled. -/
def waitExit (o : Oracle) (w : Nat) (rc : RmwRet) (cancelled : Bool) (out : SrcKind → OutArray)
    (active : Nat) (S : Sys) : WaitResult :=
  let S := S.setState w .free
  { rc, out, active, sys := if cancelled then S else (detach o w S).2 }

/-- `wait()` from `BLOCKED` on: the multi-wait, `RELEASING`, `process_wait`. -/
def waitRelease (o : Oracle) (w : Nat) (a : WaitArgs) (S : Sys) : WaitResult :=
  match o.waitRc with
  | .error => waitExit o w .error false a.untouched 0 S
  | r =>
    let S := S.setState w .releasing
    let p := processWait o S (S.waitsets w)
    let out := fun k => (a.array k).map fun l => nullOut l (p.ready k)
    if p.rc = .ok then waitExit o w (if r = .timeout then .timeout else .ok) true out p.active S
    else waitExit o w p.rc false out p.active S

/-- `wait()` after a successful `attach()`: the size checks, the timeout, `BLOCKED`. -/
def waitBlock (o : Oracle) (w : Nat) (a : WaitArgs) (timeout : Option RmwTime) (S : Sys) :
    WaitResult :=
  let W := S.waitsets w
  let count := W.attachedSubscribers.length + W.attachedConditions.length +
    W.attachedClients.length + W.attachedServices.length + W.attachedEvents.length
  if 2147483647 < count then waitExit o w .error false a.untouched 0 S
  else if !o.ensureLengthOk then waitExit o w .error false a.untouched 0 S
  else match timeout.map (fun t => (durationFromRosTime ⟨0, 0⟩ t).1) with
    | some .ok | none => waitRelease o w a (S.setState w .blocked)
    | some rc => waitExit o w rc false a.untouched 0 S

/-- `RMW_Connext_WaitSet::wait`, run by a thread alone. -/
def wait (o : Oracle) (w : Nat) (a : WaitArgs) (timeout : Option RmwTime) (S : Sys) :
    Option WaitResult :=
  match (S.waitsets w).state with
  | .free =>
    (attach o w a (S.setState w .acquiring)).map fun r =>
      if r.1 = .ok then waitBlock o w a timeout r.2 else waitExit o w r.1 false a.untouched 0 r.2
  | .invalidating => none
  | _ => some { rc := .error, out := a.untouched, active := 0, sys := S }

/-- The engine fails every `attach_data()`. -/
def attachDataFails : Oracle := { Oracle.allOk with callOk := fun op _ => op != .attachData }

/-- `attach_data()` fails after `cond->attach(this)` has set the back-reference and before the
`push_back`: `wait()` returns `RMW_RET_ERROR`, its `detach()` does not see the subscription, and
the subscription's condition is left pointing at a wait set that does not list it. -/
theorem wait_attachData_failure_leaves_backRef :
    ∃ r, wait attachDataFails 0 ⟨some [0], none, none, none, none⟩ none
        (Sys.initial fun _ => ⟨.subscription 0, .other⟩) = some r ∧
      r.rc = .error ∧ (r.sys.conds (.subscriber 0)).attachedWaitset = some 0 ∧
      isAttached (r.sys.waitsets 0) (.subscriber 0) = false := by
  have h : wait attachDataFails 0 ⟨some [0], none, none, none, none⟩ none
      (Sys.initial fun _ => ⟨.subscription 0, .other⟩) = some _ := rfl
  exact ⟨_, h, rfl, rfl, rfl⟩

/-- A service attached by a successful `attach()` and then marked `deleted`: `process_wait` returns
`RMW_RET_OK`, and the rest of `wait()` returns `RMW_RET_OK` with the service still attached. -/
theorem wait_misses_deleted_service :
    ∃ S₁, attach .allOk 0 ⟨none, none, some [0], none, none⟩
        ((Sys.initial fun _ => ⟨.subscription 0, .other⟩).setState 0 .acquiring) = some (.ok, S₁) ∧
      ((S₁.markDeleted (.service 0)).waitsets 0).attachedServices = [0] ∧
      ((S₁.markDeleted (.service 0)).conds (.service 0)).deleted = true ∧
      (processWait .allOk (S₁.markDeleted (.service 0))
        ((S₁.markDeleted (.service 0)).waitsets 0)).rc = .ok ∧
      (waitRelease .allOk 0 ⟨none, none, some [0], none, none⟩
        ((S₁.markDeleted (.service 0)).setState 0 .blocked)).rc = .ok ∧
      ((waitRelease .allOk 0 ⟨none, none, some [0], none, none⟩
        ((S₁.markDeleted (.service 0)).setState 0 .blocked)).sys.waitsets 0).attachedServices = [0] := by
  have h : attach .allOk 0 ⟨none, none, some [0], none, none⟩
      ((Sys.initial fun _ => ⟨.subscription 0, .other⟩).setState 0 .acquiring) = some (.ok, _) := rfl
  exact ⟨_, h, rfl, rfl, rfl, rfl, rfl⟩

/-! ## Demultiplexing is positional -/

theorem durationFromRosTime_ne_timeout (d : DdsDuration) (t : RmwTime) :
    (durationFromRosTime d t).1 ≠ .timeout := by
  unfold durationFromRosTime
  split_ifs <;> simp

theorem processWait_ne_timeout (o : Oracle) (S : Sys) (W : WaitSetSt) :
    (processWait o S W).rc ≠ .timeout := by
  simp only [processWait]
  split_ifs <;> simp

theorem waitRelease_ok {o : Oracle} {w : Nat} {a : WaitArgs} {S : Sys}
    (hrc : (waitRelease o w a S).rc = .ok ∨ (waitRelease o w a S).rc = .timeout) :
    (waitRelease o w a S).out = (fun k => (a.array k).map fun l => nullOut l
        ((processWait o (S.setState w .releasing) ((S.setState w .releasing).waitsets w)).ready k)) ∧
      (waitRelease o w a S).active =
        (processWait o (S.setState w .releasing) ((S.setState w .releasing).waitsets w)).active ∧
      (waitRelease o w a S).sys = (S.setState w .releasing).setState w .free := by
  unfold waitRelease at hrc ⊢
  split
  · simp_all [waitExit]
  · simp only at hrc ⊢
    by_cases hp : (processWait o (S.setState w .releasing)
      ((S.setState w .releasing).waitsets w)).rc = .ok
    · simp [hp, waitExit]
    · have := processWait_ne_timeout o (S.setState w .releasing) ((S.setState w .releasing).waitsets w)
      simp [hp, waitExit, this] at hrc

theorem waitBlock_ok {o : Oracle} {w : Nat} {a : WaitArgs} {t : Option RmwTime} {S : Sys}
    (hrc : (waitBlock o w a t S).rc = .ok ∨ (waitBlock o w a t S).rc = .timeout) :
    waitBlock o w a t S = waitRelease o w a (S.setState w .blocked) := by
  simp only [waitBlock] at hrc ⊢
  split_ifs at hrc ⊢
  · simp [waitExit] at hrc
  · simp [waitExit] at hrc
  · revert hrc
    split
    · exact fun _ => rfl
    · exact fun _ => rfl
    · rename_i rc _ hrc'
      obtain ⟨t, -, ht⟩ := Option.map_eq_some'.mp hrc'
      have := durationFromRosTime_ne_timeout ⟨0, 0⟩ t
      simp_all [waitExit]

theorem wait_ok_eq_waitRelease {o : Oracle} {w : Nat} {a : WaitArgs} {t : Option RmwTime}
    {S : Sys} {r : WaitResult} (h : wait o w a t S = some r) (hrc : r.rc = .ok ∨ r.rc = .timeout) :
    ∃ S₁, (∀ k, (S₁.waitsets w).attached k = a.elems k) ∧ r = waitRelease o w a S₁ := by
  unfold wait at h
  split at h
  · obtain ⟨⟨rc, S₁⟩, hp, rfl⟩ := Option.map_eq_some'.mp h
    by_cases hok : rc = .ok
    · subst hok
      simp only [if_true] at hrc ⊢
      exact ⟨S₁.setState w .blocked, fun k => by simp [attach_ok_attached hp], waitBlock_ok hrc⟩
    · have := attach_noTimeout o w a (S.setState w .acquiring) _ hp
      simp_all [waitExit]
  · cases h
  · cases h
    simp at hrc

/-- Calling `wait()` again with the same arrays right after one that returned `RMW_RET_OK` or
`RMW_RET_TIMEOUT` attaches and enables nothing: `attach()` takes its fast path, and whatever the
engine answers, the call goes straight from `ACQUIRING` to the block phase. -/
theorem wait_again_skips_attach {o : Oracle} {w : Nat} {a : WaitArgs} {t : Option RmwTime}
    {S : Sys} {r : WaitResult} (h : wait o w a t S = some r) (hrc : r.rc = .ok ∨ r.rc = .timeout)
    (o' : Oracle) (t' : Option RmwTime) :
    wait o' w a t' r.sys = some (waitBlock o' w a t' (r.sys.setState w .acquiring)) := by
  obtain ⟨S₁, hl, rfl⟩ := wait_ok_eq_waitRelease h hrc
  obtain ⟨-, -, hsys⟩ := waitRelease_ok hrc
  have hfree : ((waitRelease o w a S₁).sys.waitsets w).state = .free := by simp [hsys]
  have hfast : refreshAttach
      (((waitRelease o w a S₁).sys.setState w .acquiring).waitsets w) a = false :=
    (refreshAttach_eq_false_iff _ _).mpr fun k => by simp [hsys, hl]
  simp [wait, hfree, attach, hfast]

/-- A second `wait()` on subscription `5` goes straight to the block phase. -/
theorem wait_again_skips_attach_subscription :
    ∃ r, wait .allOk 0 ⟨some [5], none, none, none, none⟩ none
        (Sys.initial fun _ => ⟨.subscription 5, .other⟩) = some r ∧ (r.rc = .ok ∨ r.rc = .timeout) ∧
      wait .allOk 0 ⟨some [5], none, none, none, none⟩ none r.sys =
        some (waitBlock .allOk 0 ⟨some [5], none, none, none, none⟩ none
          (r.sys.setState 0 .acquiring)) := by
  have h : wait .allOk 0 ⟨some [5], none, none, none, none⟩ none
      (Sys.initial fun _ => ⟨.subscription 5, .other⟩) = some _ := rfl
  exact ⟨_, h, .inl rfl, wait_again_skips_attach h (.inl rfl) _ _⟩

end RmwConnextdds
