import RmwConnextdds.Threads.Step

/-! # Who owns a wait set

A thread owns wait set `w` from the step that moves `w` from `FREE` to `ACQUIRING` (in `wait()`)
or to `INVALIDATING` (in `invalidate()`) until the step that moves it back to `FREE`. Both
transitions are made under `w`'s mutex after reading `FREE`, so at most one thread owns `w` and
`w` is `FREE` exactly when nobody owns it: `OwnerInv` holds in every reachable state.

Ownership does not cover every write to the attached lists. `wait()` declares
`scope_exit_detach` before `scope_exit`, so on an error return `scope_exit` runs first and frees
the wait set, and only then does `scope_exit_detach` call `detach()`: by that time another thread
may own the wait set and have attached its own sources, which `detach()` then drops.

Two wait sets can also wait on each other: each `wait()` takes over a condition the other has just
attached, finds the other wait set `ACQUIRING`, and blocks in `invalidate()` until it moves on.
-/

namespace RmwConnextdds
set_option autoImplicit false

/-! ## Ownership -/

/-- `invalidate()` owns its wait set from `INVALIDATING` until it frees it. -/
def InvPc.holds : InvPc → Bool
  | .detaching | .freeing _ => true
  | _ => false

/-- `wait()` owns its wait set from `ACQUIRING` until `scope_exit` frees it. -/
def WaitPc.holds : WaitPc → Bool
  | .attaching | .turn .. | .blocking | .ddsWait | .processing _ | .exitFree .. => true
  | _ => false

/-- The wait set a takeover inside `attach()` is invalidating, with where that call is. -/
def WaitPc.inner : WaitPc → Option (Nat × InvPc)
  | .turn _ _ _ (.invalidating w p) => some (w, p)
  | _ => none

/-- The thread owns wait set `w`: as the `wait()` on it, or from inside an `invalidate()` on it
(its own, or one a takeover called). -/
def Thread.owns (w : Nat) : Thread → Bool
  | .waiter w' _ _ p =>
    (w' == w && p.holds) || match p.inner with
      | some (w'', q) => w'' == w && q.holds
      | none => false
  | .destroyer _ (.invalidating w' q) => w' == w && q.holds
  | _ => false

/-- The wait set on whose `state_cond` the thread is blocked inside `invalidate()`. -/
def Thread.blockedOn : Thread → Option Nat
  | .waiter _ _ _ (.turn _ _ _ (.invalidating w (.blocked _))) => some w
  | .destroyer _ (.invalidating w (.blocked _)) => some w
  | _ => none

/-- The step of thread `l.tid` changes wait set `w`'s attached lists. -/
def changesLists (w : Nat) (G : World) (l : Label) : Bool :=
  match step G l with
  | some G' => [SrcKind.subscription, .guardCondition, .client, .service, .event].any fun k =>
      (G'.sys.waitsets w).attached k != (G.sys.waitsets w).attached k
  | none => false

/-! ## The deferred `detach()` -/

/-- Thread `0` waits on wait set `0` for subscriptions `1` and `2`; thread `1` waits on the same
wait set for subscription `3`. -/
def detachRace : World :=
  World.init (Sys.initial fun _ => ⟨.subscription 0, .other⟩)
    [.waiter 0 ⟨some [1, 2], none, none, none, none⟩ none .start,
     .waiter 0 ⟨some [3], none, none, none, none⟩ none .start]

/-- The engine fails `reset_statuses()` on subscription `2`'s condition. -/
def resetFails : Oracle :=
  { Oracle.allOk with callOk := fun op c => !(op == .resetStatuses && c == .subscriber 2) }

/-- Thread `0` attaches subscription `1`, fails on subscription `2` and leaves through
`scope_exit`; thread `1` takes the freed wait set and attaches subscription `3`. Thread `0`'s
`scope_exit_detach` is still to run. -/
def detachRaceTrace : List Label :=
  [⟨0, .allOk⟩, ⟨0, .allOk⟩, ⟨0, .allOk⟩, ⟨0, .allOk⟩, ⟨0, .allOk⟩, ⟨0, .allOk⟩,
   ⟨0, resetFails⟩, ⟨0, .allOk⟩, ⟨1, .allOk⟩, ⟨1, .allOk⟩, ⟨1, .allOk⟩, ⟨1, .allOk⟩,
   ⟨1, .allOk⟩]

/-- After the trace, thread `1` owns wait set `0` and has attached subscription `3`; thread `0`'s
next step, which does not own the wait set, empties its lists. -/
theorem detach_after_free_clears_owned_waitset :
    ∃ G, run detachRace detachRaceTrace = some G ∧
      (G.threads 1).owns 0 = true ∧ (G.sys.waitsets 0).attachedSubscribers = [3] ∧
      (G.threads 0).owns 0 = false ∧ changesLists 0 G ⟨0, .allOk⟩ = true ∧
      ∃ G', step G ⟨0, .allOk⟩ = some G' ∧ (G'.sys.waitsets 0).attachedSubscribers = [] ∧
        (G'.threads 1).owns 0 = true :=
  ⟨_, rfl, rfl, rfl, rfl, rfl, _, rfl, rfl, rfl⟩

/-! ## Two wait sets waiting on each other -/

/-- Thread `0` waits on wait set `0` for subscriptions `0` and `1`; thread `1` waits on wait set
`1` for subscriptions `1` and `0`. -/
def crossWait : World :=
  World.init (Sys.initial fun _ => ⟨.subscription 0, .other⟩)
    [.waiter 0 ⟨some [0, 1], none, none, none, none⟩ none .start,
     .waiter 1 ⟨some [1, 0], none, none, none, none⟩ none .start]

/-- Each thread takes its wait set and attaches its first subscription; then each reaches the
other's subscription and calls `invalidate()` on the other wait set. -/
def crossWaitTrace : List Label :=
  [0, 0, 0, 0, 0, 1, 1, 1, 1, 1, 0, 0, 1, 1].map fun t => ⟨t, .allOk⟩

/-- Each thread is blocked on the wait set the other owns, and no thread can take a step. -/
theorem cross_wait_deadlocks :
    ∃ G, run crossWait crossWaitTrace = some G ∧
      (G.threads 0).blockedOn = some 1 ∧ (G.threads 1).owns 1 = true ∧
      (G.threads 1).blockedOn = some 0 ∧ (G.threads 0).owns 0 = true ∧
      ∀ l, step G l = none := by
  refine ⟨_, rfl, rfl, rfl, rfl, rfl, ?_⟩
  rintro ⟨_ | _ | t, o⟩ <;> rfl

/-! ## Taking a condition from a blocked wait set -/

/-- Threads `0` and `1` wait on wait set `0` one after the other, thread `2` on wait set `1`, all
for subscription `5`. -/
def blockedTakeover : World :=
  World.init (Sys.initial fun _ => ⟨.subscription 0, .other⟩)
    [.waiter 0 ⟨some [5], none, none, none, none⟩ none .start,
     .waiter 0 ⟨some [5], none, none, none, none⟩ none .start,
     .waiter 1 ⟨some [5], none, none, none, none⟩ none .start]

/-- Thread `0`'s `wait()` runs to the end and leaves subscription `5` attached to wait set `0`.
Thread `1` takes wait set `0` by the fast path and blocks in the multi-wait. Thread `2`'s
`attach()` on wait set `1` calls wait set `0`'s `invalidate()`, which fails on the `BLOCKED` wait
set; the error is ignored, the back-reference overwritten, and thread `2`'s `wait()` runs to the
end. Then thread `1`'s `wait()` returns. -/
def blockedTakeoverTrace : List Label :=
  ([0, 0, 0, 0, 0, 0, 0, 0, 0, 0, 1, 1, 1, 2, 2, 2, 2, 2, 2, 2, 2, 2, 2, 2, 1, 1, 1, 1]).map
    fun t => ⟨t, .allOk⟩

/-- After the trace wait set `0` is `FREE` and lists subscription `5`, whose condition points at
wait set `1`. For the same arrays `require_attach` reports no change, so `attach()` returns at once
and leaves the back-reference at wait set `1`; a `detach()` and full attach would set it to wait
set `0`. -/
theorem fast_path_keeps_taken_over_condition :
    ∃ G, run blockedTakeover blockedTakeoverTrace = some G ∧
      (G.sys.waitsets 0).state = .free ∧
      refreshAttach (G.sys.waitsets 0) ⟨some [5], none, none, none, none⟩ = false ∧
      attach .allOk 0 ⟨some [5], none, none, none, none⟩ G.sys = some (.ok, G.sys) ∧
      (G.sys.conds (.subscriber 5)).attachedWaitset = some 1 ∧
      ∃ S', attachFull .allOk 0 ⟨some [5], none, none, none, none⟩ G.sys = some (.ok, S') ∧
        (S'.conds (.subscriber 5)).attachedWaitset = some 0 :=
  ⟨_, rfl, rfl, rfl, rfl, rfl, _, rfl, rfl⟩

/-! ## What a step does to the wait sets' states -/

namespace Sys

def states (S : Sys) (v : Nat) : WaitSetState := (S.waitsets v).state

@[simp] theorem states_setState (S : Sys) (w : Nat) (st : WaitSetState) :
    (S.setState w st).states = Function.update S.states w st := by
  funext v
  by_cases hv : v = w
  · subst hv; simp [states]
  · simp [states, hv, setState_waitsets_ne _ _ hv]

@[simp] theorem states_detach (o : Oracle) (w : Nat) (S : Sys) :
    (detach o w S).2.states = S.states := by
  funext v
  by_cases hv : v = w
  · subst hv; simp [states]
  · simp [states, hv]

@[simp] theorem states_markDeleted (S : Sys) (c : CondId) : (S.markDeleted c).states = S.states :=
  rfl

end Sys

theorem Loop.locked_waitsets (l : Loop) (o : Oracle) (w : Nat) (c : CondId) (d : Bool)
    (x : Nat) (S : Sys) : (l.locked o w c d x S).2.waitsets = S.waitsets := by
  cases l
  exacts [(lockedResetEvent_waitsets ..).1, (lockedSource_waitsets ..).1,
    (lockedSource_waitsets ..).1, (lockedSource_waitsets ..).1, (lockedEnableEvent_waitsets ..).1,
    (lockedGuard_waitsets ..).1]

@[simp] theorem Loop.states_locked (l : Loop) (o : Oracle) (w : Nat) (c : CondId) (d : Bool)
    (x : Nat) (S : Sys) : (l.locked o w c d x S).2.states = S.states := by
  funext v
  simp only [Sys.states, Loop.locked_waitsets]

@[simp] theorem Loop.states_push (l : Loop) (w x : Nat) (S : Sys) :
    (l.push w x S).states = S.states := by
  funext v
  cases l <;> by_cases hv : v = w <;> simp [Sys.states, Loop.push, Sys.pushAttached, hv]

theorem enterLoops_holds (a : WaitArgs) (ls : List Loop) :
    (enterLoops a ls).holds = true ∧ (enterLoops a ls).inner = none := by
  induction ls with
  | nil => exact ⟨rfl, rfl⟩
  | cons l ls ih =>
    simp only [enterLoops]
    split
    · cases l <;> exact ⟨rfl, rfl⟩
    · exact ih

theorem nextTurn_holds (a : WaitArgs) (l : Loop) (xs : List Nat) :
    (nextTurn a l xs).holds = true ∧ (nextTurn a l xs).inner = none := by
  cases xs with
  | nil => exact enterLoops_holds a l.after
  | cons y ys => cases l <;> exact ⟨rfl, rfl⟩

/-! ## How one step moves ownership -/

/-- Whether `invalidate()` owns its wait set after a step: still running at `p`, or returned. -/
def invHolds : InvPc ⊕ RmwRet → Bool
  | .inl p => p.holds
  | .inr _ => false

/-- What one step may do to one wait set's state `st` and to whether the stepping thread owns it
(`o`): nothing; take it from `FREE`; give it back `FREE`; or change it, owned, to another state
that is not `FREE`. -/
def Moves (st st' : WaitSetState) (o o' : Bool) : Prop :=
  (st' = st ∧ o' = o) ∨ (st = .free ∧ st' ≠ .free ∧ o' = true) ∨
    (o = true ∧ st' = .free ∧ o' = false) ∨ (o = true ∧ st' ≠ .free ∧ o' = true)

/-- `Moves` at every wait set, for a thread going from `th` to `th'` and states `s` to `s'`. -/
def OwnMoves (s s' : Nat → WaitSetState) (th th' : Thread) : Prop :=
  ∀ v, Moves (s v) (s' v) (th.owns v) (th'.owns v)

theorem ownMoves_same {s : Nat → WaitSetState} {th th' : Thread}
    (h : ∀ v, th'.owns v = th.owns v) : OwnMoves s s th th' :=
  fun v => .inl ⟨rfl, h v⟩

theorem ownMoves_update {s : Nat → WaitSetState} {w : Nat} {st : WaitSetState} {th th' : Thread}
    (hw : Moves (s w) st (th.owns w) (th'.owns w)) (h : ∀ v, v ≠ w → th'.owns v = th.owns v) :
    OwnMoves s (Function.update s w st) th th' := by
  intro v
  by_cases hv : v = w
  · subst hv; simpa using hw
  · rw [Function.update_noteq hv]; exact .inl ⟨rfl, h v hv⟩

/-- Inside a takeover, the wait set the `invalidate()` owns is not the waiter's own. -/
def Thread.innerApart : Thread → Bool
  | .waiter w _ _ (.turn _ _ _ (.invalidating w' q)) => !(q.holds && w' == w)
  | _ => true

theorem owns_waiter (w : Nat) (a : WaitArgs) (tm : Option RmwTime) {p : WaitPc}
    (hp : p.inner = none) (v : Nat) : (Thread.waiter w a tm p).owns v = (w == v && p.holds) := by
  simp [Thread.owns, hp]

theorem ownMoves_waiter {s : Nat → WaitSetState} {w : Nat} {st : WaitSetState} {a : WaitArgs}
    {tm : Option RmwTime} {p p' : WaitPc} (hi : p.inner = none) (hi' : p'.inner = none)
    (hw : Moves (s w) st p.holds p'.holds) :
    OwnMoves s (Function.update s w st) (.waiter w a tm p) (.waiter w a tm p') :=
  ownMoves_update (by simpa [owns_waiter _ _ _ hi, owns_waiter _ _ _ hi'] using hw)
    fun v hv => by
      simp [owns_waiter _ _ _ hi, owns_waiter _ _ _ hi', beq_eq_false_iff_ne.mpr (Ne.symm hv)]

theorem ownMoves_waiter_same {s : Nat → WaitSetState} {w : Nat} {a : WaitArgs}
    {tm : Option RmwTime} {p p' : WaitPc} (hi : p.inner = none) (hi' : p'.inner = none)
    (hh : p'.holds = p.holds) : OwnMoves s s (.waiter w a tm p) (.waiter w a tm p') :=
  ownMoves_same fun v => by simp [owns_waiter _ _ _ hi, owns_waiter _ _ _ hi', hh]

theorem invStep_cases {o : Oracle} {w : Nat} {c : CondId} {p : InvPc} {G G₁ : World}
    {r : InvPc ⊕ RmwRet} (h : invStep o w c p G = some (G₁, r)) :
    G₁.threads = G.threads ∧
      ((G₁.sys.states = G.sys.states ∧ invHolds r = p.holds) ∨
        (G.sys.states w = .free ∧ p.holds = false ∧ invHolds r = true ∧
          G₁.sys.states = Function.update G.sys.states w .invalidating) ∨
        (p.holds = true ∧ invHolds r = false ∧
          G₁.sys.states = Function.update G.sys.states w .free)) := by
  cases p with
  | start =>
    simp only [invStep] at h
    split at h
    · cases h; exact ⟨rfl, .inl ⟨rfl, rfl⟩⟩
    · split at h
      · cases h; exact ⟨rfl, .inr (.inl ⟨‹_›, rfl, rfl, by simp⟩)⟩
      · cases h; exact ⟨rfl, .inl ⟨rfl, rfl⟩⟩
      · cases h; exact ⟨rfl, .inl ⟨rfl, rfl⟩⟩
  | detaching => cases h; exact ⟨rfl, .inl ⟨by simp, rfl⟩⟩
  | freeing rc => cases h; exact ⟨rfl, .inr (.inr ⟨rfl, rfl, by simp⟩)⟩
  | blocked e =>
    simp only [invStep] at h
    split at h
    · cases h; exact ⟨rfl, .inl ⟨rfl, rfl⟩⟩
    · cases h

theorem innerApart_of_inner {w : Nat} {a : WaitArgs} {tm : Option RmwTime} {p : WaitPc}
    (hp : p.inner = none) : (Thread.waiter w a tm p).innerApart = true := by
  rcases p with _ | _ | _ | ⟨l, x, xs, _ | _ | _ | _⟩ | _ | _ | _ | _ | _ | _ <;>
    first | rfl | cases hp

theorem ownMoves_transition {G : World} {w : Nat} {st : WaitSetState} {a : WaitArgs}
    {tm : Option RmwTime} {p p' : WaitPc} (hi : p.inner = none) (hi' : p'.inner = none)
    (hw : Moves (G.sys.states w) st p.holds p'.holds) :
    OwnMoves G.sys.states (G.transition w st).sys.states (.waiter w a tm p) (.waiter w a tm p') := by
  rw [World.transition_sys, Sys.states_setState]
  exact ownMoves_waiter hi hi' hw

theorem takeover_moves {o : Oracle} {w w' : Nat} {c : CondId} {q : InvPc} {G G₂ : World}
    {r : InvPc ⊕ RmwRet} {th th' : Thread} (hinv : invStep o w' c q G = some (G₂, r))
    (hw : G.sys.states w ≠ .free) (hap : !(q.holds && w' == w) = true)
    (hbefore : ∀ v, th.owns v = (w == v || (w' == v && q.holds)))
    (hafter : ∀ v, th'.owns v = (w == v || (w' == v && invHolds r)))
    (hapart : th'.innerApart = !(invHolds r && w' == w)) :
    G₂.threads = G.threads ∧ OwnMoves G.sys.states G₂.sys.states th th' ∧
      th'.innerApart = true := by
  obtain ⟨hth, hs⟩ := invStep_cases hinv
  refine ⟨hth, ?_⟩
  simp only [OwnMoves, hbefore, hafter, hapart]
  rcases hs with ⟨hs, hr⟩ | ⟨hfree, hq, hr, hs⟩ | ⟨hq, hr, hs⟩
  · -- nothing changes hands
    simpa [hs, hr, Moves] using hap
  · -- the takeover takes `w'` from `FREE`
    have hne : w ≠ w' := fun he => hw (he ▸ hfree)
    refine ⟨fun v => ?_, by simp [hr, Ne.symm hne]⟩
    rw [hs]
    by_cases hv : v = w'
    · subst hv; simp [Moves, hfree, hq, hr, hne]
    · rw [Function.update_noteq hv]
      exact .inl ⟨rfl, by simp [beq_eq_false_iff_ne.mpr (Ne.symm hv)]⟩
  · -- the takeover frees `w'`
    have hne : w' ≠ w := by simpa [hq] using hap
    refine ⟨fun v => ?_, by simp [hr]⟩
    rw [hs]
    by_cases hv : v = w'
    · subst hv; simp [Moves, hq, hr, Ne.symm hne]
    · rw [Function.update_noteq hv]
      exact .inl ⟨rfl, by simp [beq_eq_false_iff_ne.mpr (Ne.symm hv)]⟩

theorem waitStep_moves {o : Oracle} {w : Nat} {a : WaitArgs} {tm : Option RmwTime}
    {p p' : WaitPc} {G G₁ : World} (h : waitStep o w a tm p G = some (G₁, p'))
    (hown : p.holds = true → G.sys.states w ≠ .free)
    (hap : (Thread.waiter w a tm p).innerApart = true) :
    G₁.threads = G.threads ∧
      OwnMoves G.sys.states G₁.sys.states (.waiter w a tm p) (.waiter w a tm p') ∧
      (Thread.waiter w a tm p').innerApart = true := by
  cases p with
  | start =>
    simp only [waitStep] at h
    split at h
    · cases h; exact ⟨rfl, ownMoves_transition rfl rfl (.inr (.inl ⟨‹_›, nofun, rfl⟩)), rfl⟩
    · cases h; exact ⟨rfl, ownMoves_waiter_same rfl rfl rfl, rfl⟩
    · cases h; exact ⟨rfl, ownMoves_waiter_same rfl rfl rfl, rfl⟩
  | entering e =>
    simp only [waitStep] at h
    split at h
    · split at h
      · cases h; exact ⟨rfl, ownMoves_transition rfl rfl (.inr (.inl ⟨‹_›, nofun, rfl⟩)), rfl⟩
      · cases h; exact ⟨rfl, ownMoves_waiter_same rfl rfl rfl, rfl⟩
    · cases h
  | attaching =>
    simp only [waitStep] at h
    split at h
    · cases h
      have hl := enterLoops_holds a allLoops
      simp only [World.setSys_sys, World.setSys_threads, Sys.states_detach]
      split
      · exact ⟨trivial, ownMoves_waiter_same rfl hl.2 hl.1, innerApart_of_inner hl.2⟩
      · exact ⟨trivial, ownMoves_waiter_same rfl rfl rfl, rfl⟩
    · cases h; exact ⟨rfl, ownMoves_waiter_same rfl rfl rfl, rfl⟩
  | turn l x xs q =>
    have hw : G.sys.states w ≠ .free := hown rfl
    cases q with
    | check =>
      simp only [waitStep, turnStep] at h
      cases h
      refine ⟨rfl, ownMoves_same fun v => ?_, ?_⟩ <;> split <;> (try split) <;>
        simp [Thread.owns, WaitPc.holds, WaitPc.inner, InvPc.holds, Thread.innerApart]
    | invalidating w' q =>
      simp only [waitStep, turnStep] at h
      obtain ⟨⟨G₂, r⟩, hinv, heq⟩ := Option.map_eq_some'.mp h
      simp only [Prod.mk.injEq] at heq
      obtain ⟨rfl, rfl⟩ := heq
      refine takeover_moves hinv hw (by simpa [Thread.innerApart] using hap)
        (fun v => by simp [Thread.owns, WaitPc.holds, WaitPc.inner]) (fun v => ?_) ?_ <;>
        cases r <;> simp [Thread.owns, Thread.innerApart, WaitPc.holds, WaitPc.inner, invHolds]
    | locked d =>
      simp only [waitStep, turnStep] at h
      cases h
      have hn := nextTurn_holds a l xs
      simp only [World.setSys_sys, World.setSys_threads, Loop.states_locked]
      split
      · split
        · exact ⟨trivial, ownMoves_waiter_same rfl hn.2 hn.1, innerApart_of_inner hn.2⟩
        · exact ⟨trivial, ownMoves_waiter_same rfl rfl rfl, rfl⟩
      · exact ⟨trivial, ownMoves_waiter_same rfl rfl rfl, rfl⟩
    | push =>
      simp only [waitStep, turnStep] at h
      cases h
      have hn := nextTurn_holds a l xs
      simp only [World.setSys_sys, World.setSys_threads, Loop.states_push]
      exact ⟨trivial, ownMoves_waiter_same rfl hn.2 hn.1, innerApart_of_inner hn.2⟩
  | blocking =>
    simp only [waitStep] at h
    split at h
    · cases h; exact ⟨rfl, ownMoves_waiter_same rfl rfl rfl, rfl⟩
    · split at h
      · cases h; exact ⟨rfl, ownMoves_waiter_same rfl rfl rfl, rfl⟩
      · split at h <;> cases h
        · exact ⟨rfl, ownMoves_transition rfl rfl (.inr (.inr (.inr ⟨rfl, nofun, rfl⟩))), rfl⟩
        · exact ⟨rfl, ownMoves_transition rfl rfl (.inr (.inr (.inr ⟨rfl, nofun, rfl⟩))), rfl⟩
        · exact ⟨rfl, ownMoves_waiter_same rfl rfl rfl, rfl⟩
  | ddsWait =>
    simp only [waitStep] at h
    split at h
    · cases h; exact ⟨rfl, ownMoves_waiter_same rfl rfl rfl, rfl⟩
    · cases h; exact ⟨rfl, ownMoves_transition rfl rfl (.inr (.inr (.inr ⟨rfl, nofun, rfl⟩))), rfl⟩
  | processing timedOut =>
    simp only [waitStep] at h
    cases h
    split <;> exact ⟨rfl, ownMoves_waiter_same rfl rfl rfl, rfl⟩
  | exitFree rc cancelled =>
    simp only [waitStep] at h
    cases h
    exact ⟨rfl, ownMoves_transition rfl rfl (.inr (.inr (.inl ⟨rfl, rfl, rfl⟩))), rfl⟩
  | exitDetach rc cancelled =>
    simp only [waitStep] at h
    cases h
    refine ⟨by split <;> rfl, ?_, rfl⟩
    split
    · exact ownMoves_waiter_same rfl rfl rfl
    · simp only [World.setSys_sys, Sys.states_detach]
      exact ownMoves_waiter_same rfl rfl rfl
  | done rc => cases h

theorem destroyStep_moves {o : Oracle} {c : CondId} {p p' : DestroyPc} {G G₁ : World}
    (h : destroyStep o c p G = some (G₁, p')) :
    G₁.threads = G.threads ∧
      OwnMoves G.sys.states G₁.sys.states (.destroyer c p) (.destroyer c p') := by
  cases p with
  | start =>
    simp only [destroyStep] at h
    cases h
    exact ⟨rfl, ownMoves_same fun v => by split <;> simp [Thread.owns, InvPc.holds]⟩
  | invalidating w q =>
    simp only [destroyStep] at h
    obtain ⟨⟨G₂, r⟩, hinv, heq⟩ := Option.map_eq_some'.mp h
    simp only [Prod.mk.injEq] at heq
    obtain ⟨rfl, hp'⟩ := heq
    obtain ⟨hth, hs⟩ := invStep_cases hinv
    have hafter : ∀ v, (Thread.destroyer c p').owns v = (w == v && invHolds r) := by
      subst hp'; cases r <;> simp [Thread.owns, invHolds]
    refine ⟨hth, ?_⟩
    rcases hs with ⟨hs, hr⟩ | ⟨hfree, hq, hr, hs⟩ | ⟨hq, hr, hs⟩
    · rw [hs]; exact ownMoves_same fun v => by rw [hafter, hr]; rfl
    · rw [hs]
      exact ownMoves_update (by rw [hafter]; simp [Moves, Thread.owns, hfree, hq, hr])
        fun v hv => by rw [hafter]; simp [Thread.owns, beq_eq_false_iff_ne.mpr (Ne.symm hv)]
    · rw [hs]
      exact ownMoves_update (by rw [hafter]; simp [Moves, Thread.owns, hq, hr])
        fun v hv => by rw [hafter]; simp [Thread.owns, beq_eq_false_iff_ne.mpr (Ne.symm hv)]
  | release => cases h; exact ⟨rfl, ownMoves_same fun v => rfl⟩
  | done => cases h

/-! ## The invariant -/

/-- Each wait set is `FREE` exactly when no thread owns it, at most one thread owns it, and no
takeover owns its waiter's own wait set. -/
structure OwnerInv (G : World) : Prop where
  free_iff : ∀ v, G.sys.states v = .free ↔ ∀ t, (G.threads t).owns v = false
  unique : ∀ v t t', (G.threads t).owns v = true → (G.threads t').owns v = true → t = t'
  apart : ∀ t, (G.threads t).innerApart = true

theorem step_moves {G G' : World} {l : Label} (hG : OwnerInv G) (h : step G l = some G') :
    ∃ th', G'.threads = Function.update G.threads l.tid th' ∧
      OwnMoves G.sys.states G'.sys.states (G.threads l.tid) th' ∧ th'.innerApart = true := by
  simp only [step] at h
  cases hth : G.threads l.tid with
  | idle => simp [hth] at h
  | waiter w a tm p =>
    simp only [hth, Option.map_eq_some'] at h
    obtain ⟨⟨G₁, p'⟩, hw, rfl⟩ := h
    have hown : p.holds = true → G.sys.states w ≠ .free := fun hp hfree => by
      simpa [hth, Thread.owns, hp] using (hG.free_iff w).mp hfree l.tid
    obtain ⟨h₁, h₂, h₃⟩ := waitStep_moves hw hown (hth ▸ hG.apart l.tid)
    exact ⟨_, by simp [World.setThread, h₁], h₂, h₃⟩
  | destroyer c p =>
    simp only [hth, Option.map_eq_some'] at h
    obtain ⟨⟨G₁, p'⟩, hd, rfl⟩ := h
    obtain ⟨h₁, h₂⟩ := destroyStep_moves hd
    exact ⟨_, by simp [World.setThread, h₁], h₂, rfl⟩

theorem owns_update (T : Nat → Thread) (t : Nat) (th' : Thread) (u v : Nat) :
    (Function.update T t th' u).owns v = if u = t then th'.owns v else (T u).owns v := by
  by_cases hu : u = t
  · subst hu; simp
  · simp [hu]

theorem OwnerInv.step {G G' : World} {l : Label} (hG : OwnerInv G) (h : step G l = some G') :
    OwnerInv G' := by
  obtain ⟨th', hth, hm, ha⟩ := step_moves hG h
  have hown : ∀ u v, (G'.threads u).owns v =
      if u = l.tid then th'.owns v else (G.threads u).owns v := fun u v => by
    rw [hth, owns_update]
  -- a new owner of `v` is the stepping thread or owned `v` before
  have hnew : ∀ u v, (G'.threads u).owns v = true →
      u = l.tid ∧ th'.owns v = true ∨ (G.threads u).owns v = true := fun u v hu => by
    rw [hown] at hu
    split at hu
    · exact .inl ⟨‹_›, hu⟩
    · exact .inr hu
  refine ⟨fun v => ?_, fun v u u' hu hu' => ?_, fun u => ?_⟩
  · rcases hm v with ⟨hs, ho⟩ | ⟨-, hs', ho'⟩ | ⟨ho, hs', ho'⟩ | ⟨-, hs', ho'⟩
    · rw [hs, hG.free_iff v]
      refine forall_congr' fun u => ?_
      rw [hown]
      split
      · subst u; rw [ho]
      · rfl
    · exact iff_of_false hs' fun hall => by simpa [hown, ho'] using hall l.tid
    · refine iff_of_true hs' fun u => ?_
      rw [hown]
      split
      · exact ho'
      · cases hu : (G.threads u).owns v
        · rfl
        · exact absurd (hG.unique v u l.tid hu ho) ‹_›
    · exact iff_of_false hs' fun hall => by simpa [hown, ho'] using hall l.tid
  · rcases hm v with ⟨-, ho⟩ | ⟨hs, -, -⟩ | ⟨-, -, ho'⟩ | ⟨ho, -, -⟩
    · -- the stepping thread owns `v` after exactly when it did before
      have hold : ∀ u, (G'.threads u).owns v = true → (G.threads u).owns v = true := fun u h =>
        (hnew u v h).elim (fun ⟨hu, h⟩ => hu ▸ ho ▸ h) id
      exact hG.unique v u u' (hold u hu) (hold u' hu')
    · -- `v` was `FREE`: only the stepping thread can own it now
      have hnone := (hG.free_iff v).mp hs
      have hself : ∀ u, (G'.threads u).owns v = true → u = l.tid := fun u h =>
        (hnew u v h).elim (·.1) fun h => by simp [hnone u] at h
      rw [hself u hu, hself u' hu']
    · -- `v` was given back: its owners are the old ones but the stepping thread
      have hold : ∀ u, (G'.threads u).owns v = true → (G.threads u).owns v = true := fun u h =>
        (hnew u v h).elim (fun ⟨_, h⟩ => by simp [ho'] at h) id
      exact hG.unique v u u' (hold u hu) (hold u' hu')
    · -- the stepping thread kept `v`: every owner is the stepping thread
      have hself : ∀ u, (G'.threads u).owns v = true → u = l.tid := fun u h =>
        (hnew u v h).elim (·.1) fun h => hG.unique v u l.tid h ho
      rw [hself u hu, hself u' hu']
  · rw [hth, Function.update_apply]
    split
    · exact ha
    · exact hG.apart u

theorem innerApart_of_owns {th : Thread} (h : ∀ v, th.owns v = false) : th.innerApart = true := by
  rcases th with
    _ | ⟨w, a, tm, _ | _ | _ | ⟨l, x, xs, _ | _ | _ | _⟩ | _ | _ | _ | _ | _ | _⟩ | _
  all_goals first | rfl | simpa [Thread.owns, WaitPc.holds] using h w

theorem OwnerInv.init {S : Sys} {ts : List Thread} (hS : ∀ v, S.states v = .free)
    (hts : ∀ th ∈ ts, ∀ v, th.owns v = false) : OwnerInv (World.init S ts) := by
  have hnone : ∀ t v, ((World.init S ts).threads t).owns v = false := fun t v => by
    simp only [World.init, List.getD_eq_getElem?_getD]
    cases ht : ts[t]? with
    | none => rfl
    | some th => exact hts th (List.mem_iff_getElem?.mpr ⟨t, ht⟩) v
  exact ⟨fun v => iff_of_true (hS v) fun t => hnone t v,
    fun v t _ h => by simp [hnone t v] at h, fun t => innerApart_of_owns (hnone t)⟩

theorem OwnerInv.run {G G' : World} {ls : List Label} (hG : OwnerInv G)
    (h : run G ls = some G') : OwnerInv G' := by
  induction ls generalizing G with
  | nil => cases h; exact hG
  | cons l ls ih =>
    obtain ⟨G₁, h₁, h₂⟩ := Option.bind_eq_some.mp h
    exact ih (hG.step h₁) h₂

/-- From wait sets that are all `FREE` and threads that own none, in every state an interleaving
reaches, a wait set is `FREE` exactly when no thread owns it, and at most one thread owns it. -/
theorem waitset_owned_exclusively {S : Sys} {ts : List Thread} {G : World}
    (hS : ∀ v, (S.waitsets v).state = .free) (hts : ∀ th ∈ ts, ∀ v, th.owns v = false)
    (hR : Reachable (World.init S ts) G) (v : Nat) :
    ((G.sys.waitsets v).state = .free ↔ ∀ t, (G.threads t).owns v = false) ∧
      ∀ t t', (G.threads t).owns v = true → (G.threads t').owns v = true → t = t' := by
  obtain ⟨ls, h⟩ := hR
  have hG := (OwnerInv.init hS hts).run h
  exact ⟨hG.free_iff v, hG.unique v⟩

/-- Eighteen steps into the blocked takeover thread `1` blocks in wait set `0` and thread `2`
attaches to wait set `1` the subscription whose condition thread `1` still waits on: wait set `0`
is not `FREE`, and thread `1` is its only owner. -/
theorem blockedTakeover_owned_exclusively :
    ∃ G, run blockedTakeover (blockedTakeoverTrace.take 18) = some G ∧
      (G.threads 1).owns 0 = true ∧ (G.threads 2).owns 1 = true ∧
      (G.sys.conds (.subscriber 5)).attachedWaitset = some 1 ∧
      (∀ v, ((Sys.initial fun _ => ⟨.subscription 0, .other⟩).waitsets v).state = .free) ∧
      (∀ th ∈ [Thread.waiter 0 ⟨some [5], none, none, none, none⟩ none .start,
        .waiter 0 ⟨some [5], none, none, none, none⟩ none .start,
        .waiter 1 ⟨some [5], none, none, none, none⟩ none .start], ∀ v, th.owns v = false) ∧
      Reachable blockedTakeover G ∧
      (((G.sys.waitsets 0).state = .free ↔ ∀ t, (G.threads t).owns 0 = false) ∧
        ∀ t t', (G.threads t).owns 0 = true → (G.threads t').owns 0 = true → t = t') := by
  have hS : ∀ v,
      ((Sys.initial fun _ => ⟨.subscription 0, .other⟩).waitsets v).state = .free := fun _ => rfl
  have hts : ∀ th ∈ [Thread.waiter 0 ⟨some [5], none, none, none, none⟩ none .start,
      .waiter 0 ⟨some [5], none, none, none, none⟩ none .start,
      .waiter 1 ⟨some [5], none, none, none, none⟩ none .start], ∀ v, th.owns v = false := by
    simp [Thread.owns, WaitPc.holds, WaitPc.inner]
  have h : run blockedTakeover (blockedTakeoverTrace.take 18) = some _ := rfl
  exact ⟨_, h, rfl, rfl, rfl, hS, hts, ⟨_, h⟩, waitset_owned_exclusively hS hts ⟨_, h⟩ 0⟩

end RmwConnextdds
