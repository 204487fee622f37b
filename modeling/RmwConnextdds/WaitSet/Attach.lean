import RmwConnextdds.WaitSet.Basic

/-! # `attach()`, `detach()` and `is_attached()` of `RMW_Connext_WaitSet`

`attach()` first asks `require_attach()` whether each attached list differs from the caller's
array. If none does it returns at once (the fast path). Otherwise it detaches everything and
runs six loops: the events (resetting statuses), the subscriptions, clients and services
(resetting, enabling `DATA_AVAILABLE`, attaching), the events again (enabling the event's status,
attaching, caching a copy of the `rmw_event_t`) and the guard conditions. Each loop but the
second event loop first takes the condition over from another wait set it is attached to, by
calling that wait set's `invalidate()` and ignoring what it returns.

Everything here is one thread's code run alone; `RmwConnextdds.Threads.Step` cuts the
same code into the steps other threads can come between.

## Transcription choices

* `attach()`'s `return rc` inside a loop is `thenOk`: the state the failed call left is kept.
  The three loops over subscriptions, clients and services are one definition, `attachSource`,
  applied to the kind and to how the source's condition is found.
* `invalidate()` run alone cannot leave `state_cond.wait` (no other thread moves the state on),
  so `invalidate` and everything that calls it return `none` in that case: the call never returns.
* `attached_events_cache[e]` is read only for attached events, which always have an entry
  (`emplace` follows each `push_back`), so `operator[]`'s default entry is never made.
-/

namespace RmwConnextdds
set_option autoImplicit false

/-- A caller's source array (`rmw_subscriptions_t` and its siblings): `none` is a null pointer,
`some l` the `count` pointers it holds. -/
abbrev SrcArray := Option (List Nat)

/-- The five caller arrays of `wait()` and `attach()`. -/
structure WaitArgs where
  subs : SrcArray
  gcs : SrcArray
  srvs : SrcArray
  cls : SrcArray
  evs : SrcArray

namespace WaitArgs

def array (a : WaitArgs) : SrcKind → SrcArray
  | .subscription => a.subs
  | .guardCondition => a.gcs
  | .client => a.cls
  | .service => a.srvs
  | .event => a.evs

/-- The pointers a loop `for (i = 0; i < count; ++i)` visits: none for a null array. -/
def elems (a : WaitArgs) (k : SrcKind) : List Nat := (a.array k).getD []

end WaitArgs

/-! ## `require_attach` -/

/-- `RMW_Connext_WaitSet::require_attach`: whether an attached list differs from the caller's
array. A null array and a zero count both mean "empty"; `memcmp` compares the pointers
positionally. -/
def requireAttach (attachedEls : List Nat) (newEls : SrcArray) : Bool :=
  match newEls with
  | none => decide (0 < attachedEls.length)
  | some l =>
    if l.length = 0 then decide (0 < attachedEls.length)
    else if l.length ≠ attachedEls.length then true
    else decide (attachedEls ≠ l)

theorem requireAttach_eq_false_iff (l : List Nat) (a : SrcArray) :
    requireAttach l a = false ↔ l = a.getD [] := by
  cases a with
  | none => simp [requireAttach]
  | some m =>
    simp only [requireAttach, Option.getD_some]
    split_ifs with h0 hl
    · simp [List.length_eq_zero.mp h0]
    · simp only [Bool.true_eq_false, false_iff]
      rintro rfl
      exact hl rfl
    · simp

/-- Whether `attach()` takes the full path: some kind's list differs from the caller's array. -/
def refreshAttach (W : WaitSetSt) (a : WaitArgs) : Bool :=
  requireAttach W.attachedSubscribers a.subs || requireAttach W.attachedConditions a.gcs ||
    requireAttach W.attachedEvents a.evs || requireAttach W.attachedServices a.srvs ||
    requireAttach W.attachedClients a.cls

theorem refreshAttach_eq_false_iff (W : WaitSetSt) (a : WaitArgs) :
    refreshAttach W a = false ↔ ∀ k, W.attached k = a.elems k := by
  simp only [refreshAttach, Bool.or_eq_false_iff, requireAttach_eq_false_iff]
  constructor
  · rintro ⟨⟨⟨⟨hs, hg⟩, he⟩, hv⟩, hc⟩ k
    cases k <;> assumption
  · intro h
    exact ⟨⟨⟨⟨h .subscription, h .guardCondition⟩, h .event⟩, h .service⟩, h .client⟩

/-! ## The conditions a wait set holds -/

namespace WaitSetSt

/-- The conditions of the attached sources, in the order of `detach()`'s loops: an event's
condition is found through its cached copy. -/
def attachedConds (W : WaitSetSt) : List CondId :=
  W.attachedSubscribers.map .subscriber ++ W.attachedConditions.map .guard ++
    W.attachedClients.map .client ++ W.attachedServices.map .service ++
    W.attachedEvents.filterMap fun e => (W.attachedEventsCache e).map EventRec.condition

@[simp] theorem attachedConds_clear (W : WaitSetSt) : W.clear.attachedConds = [] := rfl

end WaitSetSt

/-- `RMW_Connext_WaitSet::is_attached`: some attached source's condition is `c`. -/
def isAttached (W : WaitSetSt) (c : CondId) : Bool := decide (c ∈ W.attachedConds)

/-! ## `detach` -/

/-- The loops of `detach()`: each condition is detached in turn under its own lock; the flag
says whether one of them failed. -/
def detachConds (o : Oracle) : List CondId → Sys → Bool × Sys
  | [], S => (false, S)
  | c :: cs, S =>
    let r := conditionDetach o c S
    let t := detachConds o cs r.2
    (r.1 != .ok || t.1, t.2)

/-- `RMW_Connext_WaitSet::detach`: detach every attached condition, then clear the lists and the
event cache whether or not a detachment failed. -/
def detach (o : Oracle) (w : Nat) (S : Sys) : RmwRet × Sys :=
  let t := detachConds o (S.waitsets w).attachedConds S
  (if t.1 then .error else .ok, t.2.setWaitSet w (S.waitsets w).clear)

theorem conditionDetach_waitsets (o : Oracle) (c : CondId) (S : Sys) :
    (conditionDetach o c S).2.waitsets = S.waitsets := by
  unfold conditionDetach
  split
  · rfl
  · split <;> rfl

theorem conditionDetach_events (o : Oracle) (c : CondId) (S : Sys) :
    (conditionDetach o c S).2.events = S.events := by
  unfold conditionDetach
  split
  · rfl
  · split <;> rfl

theorem detachConds_waitsets (o : Oracle) (cs : List CondId) (S : Sys) :
    (detachConds o cs S).2.waitsets = S.waitsets := by
  induction cs generalizing S with
  | nil => rfl
  | cons c cs ih => simp only [detachConds, ih, conditionDetach_waitsets]

theorem detachConds_events (o : Oracle) (cs : List CondId) (S : Sys) :
    (detachConds o cs S).2.events = S.events := by
  induction cs generalizing S with
  | nil => rfl
  | cons c cs ih => simp only [detachConds, ih, conditionDetach_events]

@[simp] theorem detach_waitsets (o : Oracle) (w w' : Nat) (S : Sys) :
    (detach o w S).2.waitsets w' = if w' = w then (S.waitsets w).clear else S.waitsets w' := by
  simp [detach, detachConds_waitsets]

@[simp] theorem detach_events (o : Oracle) (w : Nat) (S : Sys) :
    (detach o w S).2.events = S.events := by
  simp [detach, detachConds_events]

/-! ## `invalidate` run alone -/

/-- `RMW_Connext_WaitSet::invalidate` run by a thread alone. A condition that is not attached
needs nothing; a `FREE` wait set is marked `INVALIDATING`, detached and freed again; in `BLOCKED`,
`RELEASING` or `INVALIDATING` the call fails ("cannot delete and wait on the same object"); in
`ACQUIRING` it waits on `state_cond` for a transition no other thread will make (`none`). -/
def invalidate (o : Oracle) (w : Nat) (c : CondId) (S : Sys) : Option (RmwRet × Sys) :=
  if !isAttached (S.waitsets w) c then some (.ok, S)
  else match (S.waitsets w).state with
    | .free =>
      let r := detach o w (S.setState w .invalidating)
      some (r.1, r.2.setState w .free)
    | .acquiring => none
    | _ => some (.error, S)

/-! ## The loops of `attach` -/

/-- The unlocked head of every loop but the second event loop: a condition attached to another
wait set is taken over by `otherws->invalidate(cond)`, whose result is ignored; the flag is
`detached`. -/
def takeover (o : Oracle) (w : Nat) (c : CondId) (S : Sys) : Option (Bool × Sys) :=
  match (S.conds c).attachedWaitset with
  | some w' => if w' = w then some (false, S) else (invalidate o w' c S).map fun r => (true, r.2)
  | none => some (false, S)

def lockedResetEvent (o : Oracle) (c : CondId) (detached : Bool) (S : Sys) : RmwRet × Sys :=
  if (S.conds c).deleted then (.error, S)
  else resetStatuses o c (if detached then S.setBackRef c none else S)

def lockedSource (o : Oracle) (w : Nat) (c : CondId) (detached : Bool) (S : Sys) :
    RmwRet × Sys :=
  if (S.conds c).deleted then (.error, S)
  else thenOk (resetStatuses o c (if detached then S.setBackRef c none else S)) fun S =>
    thenOk (enableStatuses o c ddsDataAvailableStatus S) fun S =>
    thenOk (conditionAttach o w c S) fun S =>
    (if o.callOk .attachData c then .ok else .error, S)

/-- The locked block of the second event loop: enable the event's status, attach. -/
def lockedEnableEvent (o : Oracle) (w : Nat) (c : CondId) (evt : Nat) (S : Sys) :
    RmwRet × Sys :=
  if (S.conds c).deleted then (.error, S)
  else thenOk (enableStatuses o c evt S) fun S => conditionAttach o w c S

def lockedGuard (o : Oracle) (w : Nat) (c : CondId) (detached : Bool) (S : Sys) :
    RmwRet × Sys :=
  if (S.conds c).deleted then (.error, S)
  else conditionAttach o w c (if detached then S.setBackRef c none else S)

/-- `push_back` onto wait set `w`'s list of kind `k`. -/
def Sys.pushAttached (S : Sys) (w : Nat) (k : SrcKind) (x : Nat) : Sys :=
  S.setWaitSet w ((S.waitsets w).pushBack k x)

def attachEventReset (o : Oracle) (w e : Nat) (S : Sys) : Option (RmwRet × Sys) :=
  let c := (S.events e).condition
  (takeover o w c S).map fun r => lockedResetEvent o c r.1 r.2

/-- One turn of the loop over subscriptions (`cond = .subscriber`), clients (`.client`) or
services (`.service`): take over, the locked block, `push_back`. -/
def attachSource (k : SrcKind) (cond : Nat → CondId) (o : Oracle) (w x : Nat) (S : Sys) :
    Option (RmwRet × Sys) :=
  (takeover o w (cond x) S).map fun r =>
    thenOk (lockedSource o w (cond x) r.1 r.2) fun S => (.ok, S.pushAttached w k x)

/-- One turn of the second event loop: the locked block, `push_back`, and the copy of the
`rmw_event_t` in `attached_events_cache`. -/
def attachEventEnable (o : Oracle) (w e : Nat) (S : Sys) : RmwRet × Sys :=
  let ev := S.events e
  thenOk (lockedEnableEvent o w ev.condition (rosEventToDds ev.eventType) S) fun S =>
    (.ok, S.setWaitSet w (((S.waitsets w).pushBack .event e).emplace e ev))

def attachGuard (o : Oracle) (w g : Nat) (S : Sys) : Option (RmwRet × Sys) :=
  (takeover o w (.guard g) S).map fun r =>
    thenOk (lockedGuard o w (.guard g) r.1 r.2) fun S =>
      (.ok, S.pushAttached w .guardCondition g)

/-- Continue with `g` after a step that returned `RMW_RET_OK`. -/
def thenOkOpt (r : Option (RmwRet × Sys)) (g : Sys → Option (RmwRet × Sys)) :
    Option (RmwRet × Sys) :=
  r.bind fun r => match r with
    | (.ok, S) => g S
    | r => some r

/-- A `for` loop of `attach()`: the first turn that does not return `RMW_RET_OK` ends it. -/
def attachLoop (f : Nat → Sys → Option (RmwRet × Sys)) : List Nat → Sys → Option (RmwRet × Sys)
  | [], S => some (.ok, S)
  | x :: xs, S => thenOkOpt (f x S) (attachLoop f xs)

/-- `attach()` past its early return: `detach()`, then the six loops. -/
def attachFull (o : Oracle) (w : Nat) (a : WaitArgs) (S : Sys) : Option (RmwRet × Sys) :=
  thenOkOpt (some (detach o w S)) fun S =>
  thenOkOpt (attachLoop (attachEventReset o w) (a.elems .event) S) fun S =>
  thenOkOpt (attachLoop (attachSource .subscription .subscriber o w) (a.elems .subscription) S)
    fun S =>
  thenOkOpt (attachLoop (attachSource .client .client o w) (a.elems .client) S) fun S =>
  thenOkOpt (attachLoop (attachSource .service .service o w) (a.elems .service) S) fun S =>
  thenOkOpt (attachLoop (fun e S => some (attachEventEnable o w e S)) (a.elems .event) S) fun S =>
  attachLoop (attachGuard o w) (a.elems .guardCondition) S

/-- `RMW_Connext_WaitSet::attach`. -/
def attach (o : Oracle) (w : Nat) (a : WaitArgs) (S : Sys) : Option (RmwRet × Sys) :=
  if refreshAttach (S.waitsets w) a then attachFull o w a S else some (.ok, S)

/-! ## Frames: what each piece of `attach` leaves alone -/

theorem thenOk_eq_ok {r : RmwRet × Sys} {g : Sys → RmwRet × Sys} {S' : Sys}
    (h : thenOk r g = (.ok, S')) : ∃ S₁, r = (.ok, S₁) ∧ g S₁ = (.ok, S') := by
  obtain ⟨rc, S⟩ := r
  cases rc <;> simp_all [thenOk]

theorem thenOkOpt_eq_ok {r : Option (RmwRet × Sys)} {g : Sys → Option (RmwRet × Sys)} {S' : Sys}
    (h : thenOkOpt r g = some (.ok, S')) : ∃ S₁, r = some (.ok, S₁) ∧ g S₁ = some (.ok, S') := by
  obtain _ | ⟨rc, S⟩ := r
  · cases h
  · cases rc <;> simp_all [thenOkOpt]

theorem conditionAttach_waitsets (o : Oracle) (w : Nat) (c : CondId) (S : Sys) :
    (conditionAttach o w c S).2.waitsets = S.waitsets ∧
      (conditionAttach o w c S).2.events = S.events := by
  unfold conditionAttach
  split
  · exact ⟨rfl, rfl⟩
  · split <;> exact ⟨rfl, rfl⟩

theorem resetStatuses_waitsets (o : Oracle) (c : CondId) (S : Sys) :
    (resetStatuses o c S).2.waitsets = S.waitsets ∧ (resetStatuses o c S).2.events = S.events := by
  unfold resetStatuses
  split <;> exact ⟨rfl, rfl⟩

theorem enableStatuses_waitsets (o : Oracle) (c : CondId) (m : Nat) (S : Sys) :
    (enableStatuses o c m S).2.waitsets = S.waitsets ∧
      (enableStatuses o c m S).2.events = S.events := by
  unfold enableStatuses
  split <;> exact ⟨rfl, rfl⟩

theorem thenOk_frame {r : RmwRet × Sys} {g : Sys → RmwRet × Sys} {S : Sys}
    (hr : r.2.waitsets = S.waitsets ∧ r.2.events = S.events)
    (hg : ∀ S₁, (g S₁).2.waitsets = S₁.waitsets ∧ (g S₁).2.events = S₁.events) :
    (thenOk r g).2.waitsets = S.waitsets ∧ (thenOk r g).2.events = S.events := by
  obtain ⟨rc, S₁⟩ := r
  cases rc
  · exact ⟨(hg S₁).1.trans hr.1, (hg S₁).2.trans hr.2⟩
  · exact hr
  · exact hr

theorem lockedSource_waitsets (o : Oracle) (w : Nat) (c : CondId) (d : Bool) (S : Sys) :
    (lockedSource o w c d S).2.waitsets = S.waitsets ∧
      (lockedSource o w c d S).2.events = S.events := by
  unfold lockedSource
  split
  · exact ⟨rfl, rfl⟩
  · refine thenOk_frame ?_ fun S₁ => thenOk_frame (enableStatuses_waitsets ..)
      fun S₂ => thenOk_frame (conditionAttach_waitsets ..) fun S₃ => ⟨rfl, rfl⟩
    have h := resetStatuses_waitsets o c (if d then S.setBackRef c none else S)
    cases d <;> exact h

theorem lockedGuard_waitsets (o : Oracle) (w : Nat) (c : CondId) (d : Bool) (S : Sys) :
    (lockedGuard o w c d S).2.waitsets = S.waitsets ∧
      (lockedGuard o w c d S).2.events = S.events := by
  unfold lockedGuard
  split
  · exact ⟨rfl, rfl⟩
  · have h := conditionAttach_waitsets o w c (if d then S.setBackRef c none else S)
    cases d <;> exact h

theorem lockedResetEvent_waitsets (o : Oracle) (c : CondId) (d : Bool) (S : Sys) :
    (lockedResetEvent o c d S).2.waitsets = S.waitsets ∧
      (lockedResetEvent o c d S).2.events = S.events := by
  unfold lockedResetEvent
  split
  · exact ⟨rfl, rfl⟩
  · have h := resetStatuses_waitsets o c (if d then S.setBackRef c none else S)
    cases d <;> exact h

theorem lockedEnableEvent_waitsets (o : Oracle) (w : Nat) (c : CondId) (m : Nat) (S : Sys) :
    (lockedEnableEvent o w c m S).2.waitsets = S.waitsets ∧
      (lockedEnableEvent o w c m S).2.events = S.events := by
  unfold lockedEnableEvent
  split
  · exact ⟨rfl, rfl⟩
  · exact thenOk_frame (enableStatuses_waitsets ..) fun S₁ => conditionAttach_waitsets ..

theorem invalidate_frame {o : Oracle} {w' w : Nat} {c : CondId} {S : Sys} {r : RmwRet × Sys}
    (h : invalidate o w' c S = some r) (hw : w ≠ w') :
    r.2.waitsets w = S.waitsets w ∧ r.2.events = S.events := by
  unfold invalidate at h
  split at h
  · cases h; exact ⟨rfl, rfl⟩
  · split at h <;> cases h <;> simp [Sys.setState, hw]

theorem takeover_frame {o : Oracle} {w : Nat} {c : CondId} {S : Sys} {r : Bool × Sys}
    (h : takeover o w c S = some r) : r.2.waitsets w = S.waitsets w ∧ r.2.events = S.events := by
  unfold takeover at h
  split at h
  · split at h
    · cases h; exact ⟨rfl, rfl⟩
    · obtain ⟨r', hr', rfl⟩ := Option.map_eq_some'.mp h
      exact invalidate_frame hr' (Ne.symm ‹_›)
  · cases h; exact ⟨rfl, rfl⟩

/-! ## A successful `attach` lists exactly the caller's arrays -/

theorem WaitSetSt.attached_pushBack (W : WaitSetSt) (k k' : SrcKind) (x : Nat) :
    (W.pushBack k x).attached k' = W.attached k' ++ if k = k' then [x] else [] := by
  cases k <;> cases k' <;> simp [WaitSetSt.pushBack, WaitSetSt.attached]

/-- A loop turn that, when it returns `RMW_RET_OK`, appends its element to wait set `w`'s list of
kind `k` (`none`: to no list) and leaves the other lists as they were. -/
def PushesTo (w : Nat) (k : Option SrcKind) (f : Nat → Sys → Option (RmwRet × Sys)) : Prop :=
  ∀ x S S', f x S = some (.ok, S') → ∀ k', (S'.waitsets w).attached k' =
    (S.waitsets w).attached k' ++ if k = some k' then [x] else []

theorem attachLoop_attached {w : Nat} {k : Option SrcKind} {f : Nat → Sys → Option (RmwRet × Sys)}
    (hf : PushesTo w k f) (xs : List Nat) (S S' : Sys) (h : attachLoop f xs S = some (.ok, S'))
    (k' : SrcKind) :
    (S'.waitsets w).attached k' = (S.waitsets w).attached k' ++ if k = some k' then xs else [] := by
  induction xs generalizing S with
  | nil => cases h; simp
  | cons x xs ih =>
    obtain ⟨S₁, h₁, h₂⟩ := thenOkOpt_eq_ok h
    rw [ih S₁ h₂, hf x S S₁ h₁ k']
    split_ifs <;> simp

theorem attachEventReset_pushes (o : Oracle) (w : Nat) : PushesTo w none (attachEventReset o w) := by
  intro x S S' h k'
  obtain ⟨r, hr, hl⟩ := Option.map_eq_some'.mp h
  have hS : S'.waitsets = r.2.waitsets := by simpa [hl] using (lockedResetEvent_waitsets o (S.events x).condition r.1 r.2).1
  simp [hS, (takeover_frame hr).1]

theorem attachSource_pushes (k : SrcKind) (cond : Nat → CondId) (o : Oracle) (w : Nat) :
    PushesTo w (some k) (attachSource k cond o w) := by
  intro x S S' h k'
  obtain ⟨r, hr, hl⟩ := Option.map_eq_some'.mp h
  obtain ⟨S₂, h₂, h₃⟩ := thenOk_eq_ok hl
  injection h₃ with _ h₃
  subst h₃
  have hS : S₂.waitsets = r.2.waitsets := by
    simpa [h₂] using (lockedSource_waitsets o w (cond x) r.1 r.2).1
  simp [Sys.pushAttached, hS, (takeover_frame hr).1, WaitSetSt.attached_pushBack]

theorem attachEventEnable_pushes (o : Oracle) (w : Nat) :
    PushesTo w (some .event) (fun e S => some (attachEventEnable o w e S)) := by
  intro x S S' h k'
  obtain ⟨S₂, h₂, h₃⟩ := thenOk_eq_ok (Option.some.inj h)
  injection h₃ with _ h₃
  subst h₃
  have hS : S₂.waitsets = S.waitsets := by
    simpa [h₂] using (lockedEnableEvent_waitsets o w (S.events x).condition
      (rosEventToDds (S.events x).eventType) S).1
  simp [hS, WaitSetSt.attached_pushBack]

theorem attachGuard_pushes (o : Oracle) (w : Nat) :
    PushesTo w (some .guardCondition) (attachGuard o w) := by
  intro x S S' h k'
  obtain ⟨r, hr, hl⟩ := Option.map_eq_some'.mp h
  obtain ⟨S₂, h₂, h₃⟩ := thenOk_eq_ok hl
  injection h₃ with _ h₃
  subst h₃
  have hS : S₂.waitsets = r.2.waitsets := by
    simpa [h₂] using (lockedGuard_waitsets o w (.guard x) r.1 r.2).1
  simp [Sys.pushAttached, hS, (takeover_frame hr).1, WaitSetSt.attached_pushBack]

theorem attachFull_attached {o : Oracle} {w : Nat} {a : WaitArgs} {S S' : Sys}
    (h : attachFull o w a S = some (.ok, S')) (k : SrcKind) :
    (S'.waitsets w).attached k = a.elems k := by
  unfold attachFull at h
  obtain ⟨S₁, h₁, h⟩ := thenOkOpt_eq_ok h
  obtain ⟨S₂, h₂, h⟩ := thenOkOpt_eq_ok h
  obtain ⟨S₃, h₃, h⟩ := thenOkOpt_eq_ok h
  obtain ⟨S₄, h₄, h⟩ := thenOkOpt_eq_ok h
  obtain ⟨S₅, h₅, h⟩ := thenOkOpt_eq_ok h
  obtain ⟨S₆, h₆, h⟩ := thenOkOpt_eq_ok h
  have e₁ : (S₁.waitsets w).attached k = [] := by
    obtain ⟨-, rfl⟩ := Prod.mk.inj (Option.some.inj h₁)
    simp
  rw [attachLoop_attached (attachGuard_pushes o w) _ _ _ h,
    attachLoop_attached (attachEventEnable_pushes o w) _ _ _ h₆,
    attachLoop_attached (attachSource_pushes _ _ o w) _ _ _ h₅,
    attachLoop_attached (attachSource_pushes _ _ o w) _ _ _ h₄,
    attachLoop_attached (attachSource_pushes _ _ o w) _ _ _ h₃,
    attachLoop_attached (attachEventReset_pushes o w) _ _ _ h₂, e₁]
  cases k <;> simp

theorem attach_ok_attached {o : Oracle} {w : Nat} {a : WaitArgs} {S S' : Sys}
    (h : attach o w a S = some (.ok, S')) (k : SrcKind) :
    (S'.waitsets w).attached k = a.elems k := by
  unfold attach at h
  split at h
  · exact attachFull_attached h k
  · rename_i hr
    cases h
    exact (refreshAttach_eq_false_iff _ _).mp (by simpa using hr) k

/-! ## `attach` returns `RMW_RET_OK` or `RMW_RET_ERROR` -/

theorem conditionAttach_ne_timeout (o : Oracle) (w : Nat) (c : CondId) (S : Sys) :
    (conditionAttach o w c S).1 ≠ .timeout := by
  unfold conditionAttach
  split <;> split_ifs <;> simp

theorem resetStatuses_ne_timeout (o : Oracle) (c : CondId) (S : Sys) :
    (resetStatuses o c S).1 ≠ .timeout := by
  unfold resetStatuses
  split_ifs <;> simp

theorem enableStatuses_ne_timeout (o : Oracle) (c : CondId) (m : Nat) (S : Sys) :
    (enableStatuses o c m S).1 ≠ .timeout := by
  unfold enableStatuses
  split_ifs <;> simp

theorem thenOk_ne_timeout {r : RmwRet × Sys} {g : Sys → RmwRet × Sys} (hr : r.1 ≠ .timeout)
    (hg : ∀ S, (g S).1 ≠ .timeout) : (thenOk r g).1 ≠ .timeout := by
  obtain ⟨rc, S⟩ := r
  cases rc <;> simp_all [thenOk]

theorem lockedSource_ne_timeout (o : Oracle) (w : Nat) (c : CondId) (d : Bool) (S : Sys) :
    (lockedSource o w c d S).1 ≠ .timeout := by
  unfold lockedSource
  split
  · simp
  · refine thenOk_ne_timeout (resetStatuses_ne_timeout _ _ _) fun _ =>
      thenOk_ne_timeout (enableStatuses_ne_timeout _ _ _ _) fun _ =>
      thenOk_ne_timeout (conditionAttach_ne_timeout _ _ _ _) fun _ => ?_
    dsimp only
    split <;> simp

/-- A result none of whose return codes is `RMW_RET_TIMEOUT`. -/
def NoTimeout (r : Option (RmwRet × Sys)) : Prop := ∀ p ∈ r, p.1 ≠ .timeout

theorem thenOkOpt_noTimeout {r : Option (RmwRet × Sys)} {g : Sys → Option (RmwRet × Sys)}
    (hr : NoTimeout r) (hg : ∀ S, NoTimeout (g S)) : NoTimeout (thenOkOpt r g) := by
  rintro p hp
  obtain _ | ⟨rc, S⟩ := r
  · cases hp
  · cases rc
    · exact hg S p hp
    · cases hp; exact hr _ rfl
    · cases hp; exact hr _ rfl

theorem attachLoop_noTimeout {f : Nat → Sys → Option (RmwRet × Sys)}
    (hf : ∀ x S, NoTimeout (f x S)) (xs : List Nat) (S : Sys) :
    NoTimeout (attachLoop f xs S) := by
  induction xs generalizing S with
  | nil => rintro p ⟨⟩; simp
  | cons x xs ih => exact thenOkOpt_noTimeout (hf x S) ih

theorem map_noTimeout {r : Option (Bool × Sys)} {g : Bool × Sys → RmwRet × Sys}
    (hg : ∀ q, (g q).1 ≠ .timeout) : NoTimeout (r.map g) := by
  rintro p hp
  obtain ⟨q, -, rfl⟩ := Option.map_eq_some'.mp hp
  exact hg q

theorem attach_noTimeout (o : Oracle) (w : Nat) (a : WaitArgs) (S : Sys) :
    NoTimeout (attach o w a S) := by
  unfold attach attachFull
  split
  · refine thenOkOpt_noTimeout ?_ fun _ => thenOkOpt_noTimeout ?_ fun _ =>
      thenOkOpt_noTimeout ?_ fun _ => thenOkOpt_noTimeout ?_ fun _ =>
      thenOkOpt_noTimeout ?_ fun _ => thenOkOpt_noTimeout ?_ fun _ => ?_
    · rintro p ⟨⟩
      simp only [detach]
      split_ifs <;> simp
    all_goals refine attachLoop_noTimeout (fun x S => ?_) _ _
    · refine map_noTimeout fun q => ?_
      unfold lockedResetEvent
      split
      · simp
      · exact resetStatuses_ne_timeout _ _ _
    iterate 3
      exact map_noTimeout fun q => thenOk_ne_timeout (lockedSource_ne_timeout _ _ _ _ _) fun _ => by simp
    · rintro p ⟨⟩
      refine thenOk_ne_timeout ?_ fun _ => by simp
      unfold lockedEnableEvent
      split
      · simp
      · exact thenOk_ne_timeout (enableStatuses_ne_timeout _ _ _ _) fun _ => conditionAttach_ne_timeout _ _ _ _
    · refine map_noTimeout fun q => thenOk_ne_timeout ?_ fun _ => by simp
      unfold lockedGuard
      split
      · simp
      · exact conditionAttach_ne_timeout _ _ _ _
  · rintro p ⟨⟩
    simp

end RmwConnextdds
