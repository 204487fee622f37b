import Mathlib.Data.List.Basic
import RmwConnextdds.Threads.Solo

/-! # Calls made one at a time keep the wait sets' bookkeeping coherent

A wait set keeps two records of the sources it attached: its lists, with a copy of each attached
event in `attached_events_cache`, and each condition's `attached_waitset`. `Sys.Coherent` says the
two agree. `attach()`'s fast path trusts the lists alone: when `require_attach` finds them equal to
the caller's arrays, it returns without looking at a back-reference.

Calls made one after another (`runCalls`: `wait()`, and the destruction of a source) keep every
wait set `FREE` and the bookkeeping coherent (`runCalls_coherent`), and on a coherent state the
fast path leaves the lists, the cache and the back-references as a full re-attach leaves them
(`fast_path_matches_full_path`). The proof goes one piece of `attach()` at a time: the condition
operations, a locked block (`AttachesTo`), the `push_back` (`push_coherent`), `detach()`, the
takeover (`takeover_coherent`), a turn of each loop (`turn_coherent`), the loops, `wait()`.

## Transcription choices

* The destruction of a source run alone (`destroy`) is the destruction thread of
  `RmwConnextdds.Threads.Step` without its cuts: the condition is marked `deleted`, and
  `invalidate(cond)` runs on the wait set it is attached to.
* A call that never returns (`none`, a wait on a `state_cond` nobody notifies) ends the sequence.
* While one call runs, every other wait set is `FREE`, so a takeover's `invalidate()` detaches the
  wait set it takes from. With a second thread that wait set can be `BLOCKED`: `invalidate()`
  then fails and the takeover goes on (`RmwConnextdds.Threads.Ownership`).
-/

namespace RmwConnextdds
set_option autoImplicit false

/-! ## Calls one after another -/

/-- Modelled from the spec: the destruction of a source run by a thread alone.
`status_condition.invalidate()` marks the condition `deleted` and calls `invalidate(cond)` on the
wait set it is attached to. -/
def destroy (o : Oracle) (c : CondId) (S : Sys) : Option (RmwRet × Sys) :=
  match (S.conds c).attachedWaitset with
  | some w => invalidate o w c (S.markDeleted c)
  | none => some (.ok, S.markDeleted c)

inductive Call
  | wait (o : Oracle) (w : Nat) (a : WaitArgs) (timeout : Option RmwTime)
  | destroy (o : Oracle) (c : CondId)

def Call.apply : Call → Sys → Option Sys
  | .wait o w a timeout, S => (RmwConnextdds.wait o w a timeout S).map WaitResult.sys
  | .destroy o c, S => (RmwConnextdds.destroy o c S).map Prod.snd

/-- Calls made one after another, each starting when the one before has returned. -/
def runCalls : Sys → List Call → Option Sys
  | S, [] => some S
  | S, c :: cs => (c.apply S).bind fun S' => runCalls S' cs

/-! ## The invariant -/

/-- The two records a wait set keeps of its sources agree. -/
structure Sys.Coherent (S : Sys) : Prop where
  /-- `attached_events_cache` holds a copy of exactly the listed events. -/
  cache : ∀ v e, (S.waitsets v).attachedEventsCache e =
    if e ∈ (S.waitsets v).attachedEvents then some (S.events e) else none
  /-- The condition of every listed source points back at the wait set. -/
  backRef : ∀ v c, c ∈ (S.waitsets v).attachedConds → (S.conds c).attachedWaitset = some v

/-- What every piece of `attach()` on wait set `w` keeps: the bookkeeping coherent, every other
wait set `FREE`, and the events as they were. -/
structure Sys.Attaching (S : Sys) (w : Nat) (events : Nat → EventRec) : Prop where
  coherent : S.Coherent
  free : ∀ v, v ≠ w → (S.waitsets v).state = .free
  events : S.events = events

theorem Sys.coherent_initial (events : Nat → EventRec) : (Sys.initial events).Coherent where
  cache _ _ := rfl
  backRef _ _ h := nomatch h

section
variable {o : Oracle} {S : Sys}

theorem Sys.Coherent.not_mem_of_none (h : S.Coherent) {c : CondId}
    (hc : (S.conds c).attachedWaitset = none) (v : Nat) : c ∉ (S.waitsets v).attachedConds :=
  fun hm => by simp [h.backRef v c hm] at hc

theorem WaitSetSt.attachedConds_of_cache {W : WaitSetSt} {events : Nat → EventRec}
    (h : ∀ e, W.attachedEventsCache e = if e ∈ W.attachedEvents then some (events e) else none) :
    W.attachedConds =
      W.attachedSubscribers.map .subscriber ++ W.attachedConditions.map .guard ++
        W.attachedClients.map .client ++ W.attachedServices.map .service ++
        W.attachedEvents.map fun e => (events e).condition := by
  rw [WaitSetSt.attachedConds]
  congr 1
  rw [← List.filterMap_eq_map]
  exact List.filterMap_congr fun e he => by simp [h, he]

/-! ## Changes of the conditions -/

theorem Sys.Coherent.setCond (h : S.Coherent) {c : CondId} {cs : CondSt}
    (hc : ∀ v, c ∈ (S.waitsets v).attachedConds → cs.attachedWaitset = some v) :
    (S.setCond c cs).Coherent where
  cache := h.cache
  backRef v c' hm := by
    by_cases hc' : c' = c
    · subst hc'; simpa using hc v hm
    · simpa [hc'] using h.backRef v c' hm

theorem Sys.Coherent.setMask (h : S.Coherent) (c : CondId) (m : Nat) : (S.setMask c m).Coherent :=
  h.setCond (h.backRef · c)

theorem Sys.Coherent.markDeleted (h : S.Coherent) (c : CondId) : (S.markDeleted c).Coherent :=
  h.setCond (h.backRef · c)

theorem Sys.Coherent.detached (h : S.Coherent) {c : CondId} {d : Bool}
    (hd : d = true → ∀ v, c ∉ (S.waitsets v).attachedConds) :
    (if d then S.setBackRef c none else S).Coherent := by
  cases d
  · exact h
  · exact h.setCond fun v hm => absurd hm (hd rfl v)

theorem resetStatuses_coherent (h : S.Coherent) (c : CondId) : (resetStatuses o c S).2.Coherent := by
  unfold resetStatuses
  split
  · exact h.setMask c 0
  · exact h

theorem enableStatuses_coherent (h : S.Coherent) (c : CondId) (m : Nat) :
    (enableStatuses o c m S).2.Coherent := by
  unfold enableStatuses
  split
  · exact h.setMask c _
  · exact h

/-! ## The locked blocks -/

/-- What a locked block on condition `c` for wait set `w` promises: the bookkeeping stays
coherent, and a block that returns `RMW_RET_OK` leaves `c` pointing at `w`. -/
def AttachesTo (w : Nat) (c : CondId) (r : RmwRet × Sys) : Prop :=
  r.2.Coherent ∧ (r.1 = .ok → (r.2.conds c).attachedWaitset = some w)

theorem AttachesTo.error {w : Nat} {c : CondId} (h : S.Coherent) : AttachesTo w c (.error, S) :=
  ⟨h, nofun⟩

theorem conditionAttach_attachesTo (h : S.Coherent) (w : Nat) (c : CondId) :
    AttachesTo w c (conditionAttach o w c S) := by
  unfold conditionAttach
  split
  next w' hw' =>
    refine ⟨h, fun hok => ?_⟩
    split at hok
    · simp_all
    · cases hok
  next hn =>
    split
    · exact ⟨h.setCond fun v hm => absurd hm (h.not_mem_of_none hn v), fun _ => by
        simp [Sys.setBackRef]⟩
    · exact .error h

theorem AttachesTo.thenOk {w : Nat} {c : CondId} {r : RmwRet × Sys} {g : Sys → RmwRet × Sys}
    (hr : r.2.Coherent) (hg : ∀ S : Sys, S.Coherent → AttachesTo w c (g S)) :
    AttachesTo w c (thenOk r g) := by
  obtain ⟨rc, S⟩ := r
  cases rc
  · exact hg S hr
  · exact .error hr
  · exact ⟨hr, nofun⟩

theorem AttachesTo.thenCheck {w : Nat} {c : CondId} {r : RmwRet × Sys} (hr : AttachesTo w c r)
    (b : Bool) : AttachesTo w c (RmwConnextdds.thenOk r fun S => (if b then .ok else .error, S)) := by
  obtain ⟨rc, S⟩ := r
  cases rc
  · exact ⟨hr.1, fun hok => hr.2 rfl⟩
  · exact hr
  · exact hr

theorem locked_attachesTo (l : Loop) (hl : l ≠ .eventsReset) (h : S.Coherent) (w : Nat)
    (c : CondId) {d : Bool} (hd : d = true → ∀ v, c ∉ (S.waitsets v).attachedConds) (x : Nat) :
    AttachesTo w c (l.locked o w c d x S) := by
  have h₀ := h.detached hd
  cases l
  case eventsReset => exact absurd rfl hl
  case eventsEnable =>
    simp only [Loop.locked, lockedEnableEvent]
    split
    · exact .error h
    · exact .thenOk (enableStatuses_coherent h c _) fun S₁ h₁ => conditionAttach_attachesTo h₁ w c
  case guards =>
    simp only [Loop.locked, lockedGuard]
    split
    · exact .error h
    · exact conditionAttach_attachesTo h₀ w c
  all_goals
    simp only [Loop.locked, lockedSource]
    split
    · exact .error h
    · exact .thenOk (resetStatuses_coherent h₀ c) fun S₁ h₁ =>
        .thenOk (enableStatuses_coherent h₁ c _) fun S₂ h₂ =>
          (conditionAttach_attachesTo h₂ w c).thenCheck _

theorem locked_coherent (l : Loop) (h : S.Coherent) {w : Nat} {c : CondId} {d : Bool}
    (hd : d = true → ∀ v, c ∉ (S.waitsets v).attachedConds) (x : Nat) :
    (l.locked o w c d x S).2.Coherent := by
  by_cases hl : l = .eventsReset
  · subst hl
    simp only [Loop.locked, lockedResetEvent]
    split
    · exact h
    · exact resetStatuses_coherent (h.detached hd) c
  · exact (locked_attachesTo l hl h w c hd x).1

/-! ## The `push_back` -/

theorem push_cache (l : Loop) (h : S.Coherent) (w x v e : Nat) :
    ((l.push w x S).waitsets v).attachedEventsCache e =
      if e ∈ ((l.push w x S).waitsets v).attachedEvents then some ((l.push w x S).events e)
      else none := by
  by_cases hv : v = w
  · subst hv
    cases l <;> simp [Loop.push, Sys.pushAttached, WaitSetSt.pushBack, WaitSetSt.emplace, h.cache]
    -- the second event loop: `emplace` keeps a copy already there
    by_cases he : e = x
    · subst he
      by_cases hm : e ∈ (S.waitsets v).attachedEvents <;> simp [hm, Option.orElse]
    · simp [he]
  · cases l <;> simp [Loop.push, Sys.pushAttached, hv, h.cache]

theorem mem_push (l : Loop) (h : S.Coherent) {w x : Nat} {c : CondId}
    (hm : c ∈ ((l.push w x S).waitsets w).attachedConds) :
    c ∈ (S.waitsets w).attachedConds ∨ l ≠ .eventsReset ∧ c = l.cond S x := by
  cases l
  case eventsReset => exact .inl hm
  all_goals
    refine Or.imp_right (⟨nofun, ·⟩) ?_
    rw [WaitSetSt.attachedConds_of_cache (push_cache _ h w x w)] at hm
    rw [WaitSetSt.attachedConds_of_cache (h.cache w)]
    simp only [Loop.push, Sys.pushAttached, Sys.setWaitSet_waitsets, Sys.setWaitSet_events,
      eq_self_iff_true, if_true, WaitSetSt.pushBack, WaitSetSt.emplace, Loop.cond,
      List.map_append, List.mem_append, List.map_cons, List.map_nil, List.mem_singleton,
      or_assoc] at hm ⊢
    rcases hm with h | h | h | h | h | h <;> simp only [h, true_or, or_true, eq_self_iff_true]

theorem push_waitsets_ne (l : Loop) {w x v : Nat} (hv : v ≠ w) :
    (l.push w x S).waitsets v = S.waitsets v := by
  cases l <;> simp [Loop.push, Sys.pushAttached, hv]

@[simp] theorem Loop.push_conds (l : Loop) (w x : Nat) : (l.push w x S).conds = S.conds := by
  cases l <;> rfl

@[simp] theorem Loop.push_events (l : Loop) (w x : Nat) : (l.push w x S).events = S.events := by
  cases l <;> rfl

/-- The `push_back` of a source whose condition points at `w` keeps the bookkeeping coherent. -/
theorem push_coherent (l : Loop) (h : S.Coherent) {w x : Nat}
    (hc : l ≠ .eventsReset → (S.conds (l.cond S x)).attachedWaitset = some w) :
    (l.push w x S).Coherent where
  cache := push_cache l h w x
  backRef v c hm := by
    rw [Loop.push_conds]
    by_cases hv : v = w
    · subst hv
      rcases mem_push l h hm with hm | ⟨hl, rfl⟩
      · exact h.backRef v c hm
      · exact hc hl
    · rw [push_waitsets_ne l hv] at hm
      exact h.backRef v c hm

/-! ## `detach` and `invalidate` -/

theorem conditionDetach_conds_ne (o : Oracle) {c c' : CondId} (h : c' ≠ c) (S : Sys) :
    (conditionDetach o c S).2.conds c' = S.conds c' := by
  unfold conditionDetach
  split
  · rfl
  · split <;> simp [Sys.setBackRef, h]

theorem detachConds_conds_of_not_mem (o : Oracle) {c : CondId} :
    ∀ {cs : List CondId} (S : Sys), c ∉ cs → (detachConds o cs S).2.conds c = S.conds c
  | [], _, _ => rfl
  | _ :: _, S, hc => by
    simp only [detachConds]
    rw [detachConds_conds_of_not_mem o _ (List.not_mem_of_not_mem_cons hc),
      conditionDetach_conds_ne o (List.ne_of_not_mem_cons hc) S]

theorem Sys.Coherent.detach (h : S.Coherent) (o : Oracle) (w : Nat) :
    (detach o w S).2.Coherent where
  cache v e := by
    by_cases hv : v = w
    · subst hv; simp [WaitSetSt.clear]
    · simp [hv, h.cache]
  backRef v c hm := by
    by_cases hv : v = w
    · subst hv; simp at hm
    · simp only [detach_waitsets, if_neg hv] at hm
      have hn : c ∉ (S.waitsets w).attachedConds := fun hw =>
        hv (Option.some.inj ((h.backRef v c hm).symm.trans (h.backRef w c hw)))
      have hd : (RmwConnextdds.detach o w S).2.conds = (detachConds o (S.waitsets w).attachedConds S).2.conds := rfl
      rw [hd, detachConds_conds_of_not_mem o S hn]
      exact h.backRef v c hm

theorem Sys.Coherent.setState (h : S.Coherent) (w : Nat) (st : WaitSetState) :
    (S.setState w st).Coherent where
  cache v e := by
    by_cases hv : v = w
    · subst hv; simp [Sys.setState, h.cache]
    · simp [Sys.setState_waitsets_ne _ _ hv, h.cache]
  backRef v c hm := by
    by_cases hv : v = w
    · subst hv; simp only [Sys.setState, Sys.setWaitSet_waitsets, if_true] at hm
      exact h.backRef v c hm
    · rw [Sys.setState_waitsets_ne _ _ hv] at hm
      exact h.backRef v c hm

theorem invalidate_coherent (h : S.Coherent) {w : Nat} {c : CondId} {r : RmwRet × Sys}
    (hi : invalidate o w c S = some r) :
    r.2.Coherent ∧ ∀ v, (r.2.waitsets v).state = (S.waitsets v).state := by
  unfold invalidate at hi
  split at hi
  · cases hi; exact ⟨h, fun _ => rfl⟩
  · split at hi
    next hfree =>
      cases hi
      refine ⟨((h.setState w .invalidating).detach o w).setState w .free, fun v => ?_⟩
      by_cases hv : v = w
      · subst hv; simp [hfree]
      · simp [Sys.setState_waitsets_ne _ _ hv, hv]
    next => cases hi
    next => cases hi; exact ⟨h, fun _ => rfl⟩

theorem invalidate_unlists {w : Nat} {c : CondId} {r : RmwRet × Sys}
    (hfree : (S.waitsets w).state = .free) (hi : invalidate o w c S = some r) :
    c ∉ (r.2.waitsets w).attachedConds := by
  unfold invalidate at hi
  split at hi
  next hatt => cases hi; simpa [isAttached] using hatt
  next => rw [hfree] at hi; cases hi; simp [Sys.setState, WaitSetSt.attachedConds, WaitSetSt.clear]

/-! ## A turn of a loop -/

/-- A takeover keeps the bookkeeping coherent and the other wait sets `FREE`, and a condition it
took over is listed nowhere. -/
theorem takeover_coherent {w : Nat} {ev : Nat → EventRec} (h : S.Attaching w ev) {c : CondId}
    {d : Bool} {S₁ : Sys} (ht : takeover o w c S = some (d, S₁)) :
    S₁.Attaching w ev ∧ (d = true → ∀ v, c ∉ (S₁.waitsets v).attachedConds) := by
  unfold takeover at ht
  split at ht
  next w' hw' =>
    split at ht
    · cases ht; exact ⟨h, nofun⟩
    next hne =>
      obtain ⟨r, hr, he⟩ := Option.map_eq_some'.mp ht
      cases he
      obtain ⟨hc, hs⟩ := invalidate_coherent h.coherent hr
      refine ⟨⟨hc, fun v hv => (hs v).trans (h.free v hv),
        (invalidate_frame hr (Ne.symm hne)).2.trans h.events⟩, fun _ v hm => ?_⟩
      by_cases hv : v = w'
      · subst hv; exact invalidate_unlists (h.free v hne) hr hm
      · rw [(invalidate_frame hr hv).1] at hm
        exact hv (Option.some.inj ((h.coherent.backRef v c hm).symm.trans hw'))
  next => cases ht; exact ⟨h, nofun⟩

theorem thenOk_self (r : RmwRet × Sys) : thenOk r (fun S => (.ok, S)) = r := by
  obtain ⟨rc, S⟩ := r
  cases rc <;> rfl

theorem Loop.locked_frame (l : Loop) (o : Oracle) (w : Nat) (c : CondId) (d : Bool) (x : Nat)
    (S : Sys) :
    (l.locked o w c d x S).2.waitsets = S.waitsets ∧ (l.locked o w c d x S).2.events = S.events := by
  cases l
  case eventsReset => exact lockedResetEvent_waitsets ..
  case eventsEnable => exact lockedEnableEvent_waitsets ..
  case guards => exact lockedGuard_waitsets ..
  all_goals exact lockedSource_waitsets ..

theorem Loop.turn_eq (l : Loop) (o : Oracle) (w x : Nat) (S : Sys) :
    l.turn o w x S =
      (if l = .eventsEnable then some (false, S) else takeover o w (l.cond S x) S).map fun r =>
        thenOk (l.locked o w (l.cond S x) r.1 x r.2) fun S' => (.ok, l.push w x S') := by
  cases l
  case eventsReset => simp [Loop.turn, attachEventReset, Loop.push, thenOk_self]; rfl
  case eventsEnable =>
    simp only [Loop.turn, attachEventEnable, if_true, Option.map_some', Loop.locked, Loop.cond,
      Loop.push]
    have he := (lockedEnableEvent_waitsets o w (S.events x).condition
      (rosEventToDds (S.events x).eventType) S).2
    revert he
    cases lockedEnableEvent o w (S.events x).condition (rosEventToDds (S.events x).eventType) S with
    | mk rc S' =>
      intro he
      simp only at he
      cases rc <;> simp [thenOk, he]
  all_goals rfl

/-- One turn of a loop of `attach()` on `w`. -/
theorem turn_coherent (l : Loop) {w : Nat} {ev : Nat → EventRec} (h : S.Attaching w ev) {x : Nat}
    {rc : RmwRet} {S₁ : Sys} (ht : l.turn o w x S = some (rc, S₁)) : S₁.Attaching w ev := by
  rw [Loop.turn_eq] at ht
  obtain ⟨⟨d, S₂⟩, ht, he⟩ := Option.map_eq_some'.mp ht
  -- the takeover
  obtain ⟨h₂, hd⟩ : S₂.Attaching w ev ∧
      (d = true → ∀ v, l.cond S x ∉ (S₂.waitsets v).attachedConds) := by
    split at ht
    · cases ht; exact ⟨h, nofun⟩
    · exact takeover_coherent h ht
  -- the locked block
  obtain ⟨hw, hev⟩ := l.locked_frame o w (l.cond S x) d x S₂
  have h₃ : (l.locked o w (l.cond S x) d x S₂).2.Attaching w ev :=
    ⟨locked_coherent l h₂.coherent hd x, fun v hv => hw ▸ h₂.free v hv, hev.trans h₂.events⟩
  -- the `push_back`
  rw [thenOk_push] at he
  split at he
  next hok =>
    cases he
    refine ⟨push_coherent l h₃.coherent fun hl => ?_, fun v hv => ?_, by simpa using h₃.events⟩
    · rw [Loop.cond_congr l (h₃.events.trans h.events.symm) x]
      exact (locked_attachesTo l hl h₂.coherent w _ hd x).2 hok
    · rw [push_waitsets_ne l hv]; exact h₃.free v hv
  · have hS : (l.locked o w (l.cond S x) d x S₂).2 = S₁ := congrArg Prod.snd he
    exact hS ▸ h₃

/-! ## `attach()` -/

theorem attachLoop_coherent (l : Loop) {w : Nat} {ev : Nat → EventRec} :
    ∀ {xs : List Nat} {S S₁ : Sys} {rc : RmwRet}, S.Attaching w ev →
      attachLoop (l.turn o w) xs S = some (rc, S₁) → S₁.Attaching w ev
  | [], _, _, _, h, ha => by cases ha; exact h
  | x :: xs, _, _, _, h, ha => by
    obtain ⟨rc₁, S₂, h₁, ⟨rfl, hg⟩ | ⟨-, rfl, rfl⟩⟩ := thenOkOpt_cases ha
    · exact attachLoop_coherent l (turn_coherent l h h₁) hg
    · exact turn_coherent l h h₁

theorem attachLoops_coherent {w : Nat} {a : WaitArgs} {ev : Nat → EventRec} :
    ∀ {ls : List Loop} {S S₁ : Sys} {rc : RmwRet}, S.Attaching w ev →
      attachLoops o w a ls S = some (rc, S₁) → S₁.Attaching w ev
  | [], _, _, _, h, ha => by cases ha; exact h
  | l :: ls, _, _, _, h, ha => by
    obtain ⟨rc₁, S₂, h₁, ⟨rfl, hg⟩ | ⟨-, rfl, rfl⟩⟩ := thenOkOpt_cases ha
    · exact attachLoops_coherent (attachLoop_coherent l h h₁) hg
    · exact attachLoop_coherent l h h₁

theorem Sys.Attaching.detach {w : Nat} {ev : Nat → EventRec} (h : S.Attaching w ev) (o : Oracle) :
    (RmwConnextdds.detach o w S).2.Attaching w ev :=
  ⟨h.coherent.detach o w, fun v hv => by simp [hv, h.free v hv], by simp [h.events]⟩

theorem Sys.Attaching.setState {w : Nat} {ev : Nat → EventRec} (h : S.Attaching w ev)
    (st : WaitSetState) : (S.setState w st).Attaching w ev :=
  ⟨h.coherent.setState w st, fun v hv => by rw [Sys.setState_waitsets_ne _ _ hv]; exact h.free v hv,
    h.events⟩

theorem attachFull_coherent {w : Nat} {a : WaitArgs} {ev : Nat → EventRec} (h : S.Attaching w ev)
    {rc : RmwRet} {S₁ : Sys} (ha : attachFull o w a S = some (rc, S₁)) : S₁.Attaching w ev := by
  rw [attachFull_eq] at ha
  obtain ⟨rc₁, S₂, h₁, ⟨rfl, hg⟩ | ⟨-, rfl, rfl⟩⟩ := thenOkOpt_cases ha
  all_goals have hd : (detach o w S).2 = S₂ := congrArg Prod.snd (Option.some.inj h₁)
  · exact attachLoops_coherent (hd ▸ h.detach o) hg
  · exact hd ▸ h.detach o

theorem attach_coherent {w : Nat} {a : WaitArgs} {ev : Nat → EventRec} (h : S.Attaching w ev)
    {rc : RmwRet} {S₁ : Sys} (ha : attach o w a S = some (rc, S₁)) : S₁.Attaching w ev := by
  unfold attach at ha
  split at ha
  · exact attachFull_coherent h ha
  · cases ha; exact h

/-! ## `wait()` and the destruction of a source -/

theorem waitExit_coherent {w : Nat} {ev : Nat → EventRec} (h : S.Attaching w ev) (rc : RmwRet)
    (cancelled : Bool) (out : SrcKind → OutArray) (active : Nat) :
    (waitExit o w rc cancelled out active S).sys.Coherent ∧
      ∀ v, ((waitExit o w rc cancelled out active S).sys.waitsets v).state = .free := by
  have h₁ := h.setState .free
  have h₂ := h₁.detach o
  refine ⟨by cases cancelled; exacts [h₂.coherent, h₁.coherent], fun v => ?_⟩
  by_cases hv : v = w
  · subst hv; cases cancelled <;> simp [waitExit]
  · cases cancelled; exacts [h₂.free v hv, h₁.free v hv]

theorem waitRelease_coherent {w : Nat} {ev : Nat → EventRec} (h : S.Attaching w ev) (a : WaitArgs) :
    (waitRelease o w a S).sys.Coherent ∧ ∀ v, ((waitRelease o w a S).sys.waitsets v).state = .free := by
  unfold waitRelease
  split
  · exact waitExit_coherent h ..
  · dsimp only
    split <;> exact waitExit_coherent (h.setState .releasing) ..

theorem waitBlock_coherent {w : Nat} {ev : Nat → EventRec} (h : S.Attaching w ev) (a : WaitArgs)
    (tm : Option RmwTime) :
    (waitBlock o w a tm S).sys.Coherent ∧ ∀ v, ((waitBlock o w a tm S).sys.waitsets v).state = .free := by
  unfold waitBlock
  dsimp only
  split
  · exact waitExit_coherent h ..
  · split
    · exact waitExit_coherent h ..
    · split
      · exact waitRelease_coherent (h.setState .blocked) a
      · exact waitRelease_coherent (h.setState .blocked) a
      · exact waitExit_coherent h ..

theorem wait_coherent (h : S.Coherent) (hi : ∀ v, (S.waitsets v).state = .free) {w : Nat}
    {a : WaitArgs} {tm : Option RmwTime} {r : WaitResult} (hw : wait o w a tm S = some r) :
    r.sys.Coherent ∧ ∀ v, (r.sys.waitsets v).state = .free := by
  unfold wait at hw
  split at hw
  · obtain ⟨⟨rc, S₁⟩, ha, rfl⟩ := Option.map_eq_some'.mp hw
    have h₁ := attach_coherent ((⟨h, fun v _ => hi v, rfl⟩ : S.Attaching w S.events).setState
      .acquiring) ha
    split
    · exact waitBlock_coherent h₁ a tm
    · exact waitExit_coherent h₁ ..
  · cases hw
  · cases hw; exact ⟨h, hi⟩

theorem destroy_coherent (h : S.Coherent) (hi : ∀ v, (S.waitsets v).state = .free) {c : CondId}
    {r : RmwRet × Sys} (hd : destroy o c S = some r) :
    r.2.Coherent ∧ ∀ v, (r.2.waitsets v).state = .free := by
  unfold destroy at hd
  split at hd
  · obtain ⟨hc, hs⟩ := invalidate_coherent (h.markDeleted c) hd
    exact ⟨hc, fun v => (hs v).trans (hi v)⟩
  · cases hd; exact ⟨h.markDeleted c, hi⟩

end

/-! ## Runs of calls -/

/-- Calls made one after another, from a state where every wait set is `FREE` and the bookkeeping
is coherent, leave every wait set `FREE` and the bookkeeping coherent. -/
theorem runCalls_coherent {S S' : Sys} {cs : List Call} (h : S.Coherent)
    (hi : ∀ v, (S.waitsets v).state = .free) (hr : runCalls S cs = some S') :
    S'.Coherent ∧ ∀ v, (S'.waitsets v).state = .free := by
  induction cs generalizing S with
  | nil => cases hr; exact ⟨h, hi⟩
  | cons c cs ih =>
    obtain ⟨S₁, h₁, hr⟩ := Option.bind_eq_some.mp hr
    have hc : S₁.Coherent ∧ ∀ v, (S₁.waitsets v).state = .free := by
      cases c with
      | wait o w a tm =>
        obtain ⟨r, hw, rfl⟩ := Option.map_eq_some'.mp h₁
        exact wait_coherent h hi hw
      | destroy o c =>
        obtain ⟨r, hd, rfl⟩ := Option.map_eq_some'.mp h₁
        exact destroy_coherent h hi hd
    exact ih hc.1 hc.2 hr

/-- Three calls from the initial state: a `wait()` that attaches subscription `5`, its
destruction, and a `wait()` that attaches it again and whose `attach_data()` fails. -/
theorem runCalls_coherent_threeCalls :
    ∃ S', runCalls (Sys.initial fun _ => ⟨.subscription 5, .other⟩)
        [.wait .allOk 0 ⟨some [5], none, none, none, none⟩ none, .destroy .allOk (.subscriber 5),
          .wait attachDataFails 1 ⟨some [5], none, none, none, none⟩ none] = some S' ∧
      S'.Coherent ∧ ∀ v, (S'.waitsets v).state = .free := by
  have h : runCalls (Sys.initial fun _ => ⟨.subscription 5, .other⟩)
      [.wait .allOk 0 ⟨some [5], none, none, none, none⟩ none, .destroy .allOk (.subscriber 5),
        .wait attachDataFails 1 ⟨some [5], none, none, none, none⟩ none] = some _ := rfl
  exact ⟨_, h, runCalls_coherent (Sys.coherent_initial _) (fun _ => rfl) h⟩

/-! ## The fast path -/

/-- On a coherent state, with every other wait set `FREE`, `attach()`'s fast path is sound: when
`require_attach` finds the lists equal to the caller's arrays, a full re-attach that succeeds
leaves the same lists and event cache, and every listed source's back-reference as it was. -/
theorem fast_path_matches_full_path {o : Oracle} {w : Nat} {a : WaitArgs} {S S' : Sys}
    (hc : S.Coherent) (hf : ∀ v, v ≠ w → (S.waitsets v).state = .free)
    (hr : refreshAttach (S.waitsets w) a = false) (h : attachFull o w a S = some (.ok, S')) :
    (∀ k, (S'.waitsets w).attached k = (S.waitsets w).attached k) ∧
      (S'.waitsets w).attachedEventsCache = (S.waitsets w).attachedEventsCache ∧
      ∀ c ∈ (S.waitsets w).attachedConds,
        (S'.conds c).attachedWaitset = (S.conds c).attachedWaitset := by
  have hl : ∀ k, (S'.waitsets w).attached k = (S.waitsets w).attached k := fun k =>
    (attachFull_attached h k).trans ((refreshAttach_eq_false_iff _ _).mp hr k).symm
  have h' := attachFull_coherent ⟨hc, hf, rfl⟩ h
  have hcache : (S'.waitsets w).attachedEventsCache = (S.waitsets w).attachedEventsCache := by
    funext e
    rw [h'.coherent.cache, hc.cache, h'.events, show (S'.waitsets w).attachedEvents = _ from hl .event]
    rfl
  have hconds : (S'.waitsets w).attachedConds = (S.waitsets w).attachedConds := by
    simp only [WaitSetSt.attachedConds, hcache, show (S'.waitsets w).attachedSubscribers = _ from
      hl .subscription, show (S'.waitsets w).attachedConditions = _ from hl .guardCondition,
      show (S'.waitsets w).attachedClients = _ from hl .client,
      show (S'.waitsets w).attachedServices = _ from hl .service,
      show (S'.waitsets w).attachedEvents = _ from hl .event]
    rfl
  refine ⟨hl, hcache, fun c hm => ?_⟩
  rw [h'.coherent.backRef w c (hconds ▸ hm), hc.backRef w c hm]

/-- After a `wait()` on wait set `0` for subscription `5`, a second `attach()` with the same array
takes the fast path, and the full path would leave the same bookkeeping. -/
theorem fast_path_matches_full_path_afterWait :
    ∃ r S', wait .allOk 0 ⟨some [5], none, none, none, none⟩ none
        (Sys.initial fun _ => ⟨.subscription 5, .other⟩) = some r ∧
      r.sys.Coherent ∧ (∀ v, v ≠ 0 → (r.sys.waitsets v).state = .free) ∧
      refreshAttach (r.sys.waitsets 0) ⟨some [5], none, none, none, none⟩ = false ∧
      attachFull .allOk 0 ⟨some [5], none, none, none, none⟩ r.sys = some (.ok, S') ∧
      (∀ k, (S'.waitsets 0).attached k = (r.sys.waitsets 0).attached k) ∧
      (S'.waitsets 0).attachedEventsCache = (r.sys.waitsets 0).attachedEventsCache ∧
      ∀ c ∈ (r.sys.waitsets 0).attachedConds,
        (S'.conds c).attachedWaitset = (r.sys.conds c).attachedWaitset := by
  have h : wait .allOk 0 ⟨some [5], none, none, none, none⟩ none
      (Sys.initial fun _ => ⟨.subscription 5, .other⟩) = some _ := rfl
  obtain ⟨hc, hi⟩ := wait_coherent (Sys.coherent_initial _) (fun _ => rfl) h
  exact ⟨_, _, h, hc, fun v _ => hi v, rfl, rfl,
    fast_path_matches_full_path (o := .allOk) (a := ⟨some [5], none, none, none, none⟩) hc
      (fun v _ => hi v) rfl rfl⟩

end RmwConnextdds
