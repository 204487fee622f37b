import RmwConnextdds.WaitSet.Wait

/-! # Threads interleaved on the wait sets

`RmwConnextdds.WaitSet.Wait` runs `wait()` as one call of one thread. Here the same code is cut
at the points where another thread can come between, and any number of threads run it
interleaved:

* a thread running `RMW_Connext_WaitSet::wait` on wait set `w` with fixed caller arrays;
* a thread destroying a source: `RMW_Connext_Subscriber::finalize` (and its siblings) calls
  `status_condition.invalidate()`, which marks the condition `deleted` and calls
  `invalidate(cond)` on the wait set it is attached to; the source is freed afterwards.

`step W ⟨t, o⟩` runs one step of thread `t`, with the engine answering as `o` says; `none` means
that thread cannot move (it has finished, or waits on a `state_cond` nobody notified). `run`
folds `step` over a list of labels, `Reachable` is every state a list of labels leads to.

## Transcription choices

* The cuts are the source's locks. A block under a mutex is one step: `wait()`'s state checks and
  transitions, each locked block of `attach()`'s loops, `invalidate()`'s scan and state test.
  Code that runs without the wait set's mutex is cut where another thread can observe it: the
  unlocked read of `cond->attached_waitset` before a takeover, the `push_back` after each locked
  block, `detach()`, `process_wait()`, and the two scope guards. Every run here is a run of the
  source in which each step happens without interruption, so a bad run here is one of the source.
* `state_cond` is a notification counter per wait set: `notify_all` increments it, and a thread
  blocked in `state_cond.wait` records the counter and can move on once it has grown. The notify
  after a transition is in the transition's step. Spurious wake-ups are left out; they add runs,
  and none of the runs below needs one.
* A destruction's `status_condition.invalidate()` (in `rmw_impl.hpp`) is modelled from the spec:
  one step marks the condition `deleted` and reads its `attached_waitset`.
* `destroying` and `freed` are history variables that no code writes: the conditions whose
  destruction has begun, and those whose source has been freed.
-/

namespace RmwConnextdds
set_option autoImplicit false

/-! ## Program points -/

/-- The loops of `attach()` after its `detach()`, in source order. -/
inductive Loop
  | eventsReset
  | subscriptions
  | clients
  | services
  | eventsEnable
  | guards
  deriving DecidableEq, Repr

/-- Where a call of `RMW_Connext_WaitSet::invalidate(condition)` is. -/
inductive InvPc
  | start
  | detaching
  | freeing (rc : RmwRet)
  | blocked (epoch : Nat)
  deriving DecidableEq, Repr

/-- Where one turn of an `attach()` loop is: reading `attached_waitset`, inside
`otherws->invalidate(cond)`, at the locked block (with `detached`), or at `push_back`. -/
inductive TurnPc
  | check
  | invalidating (w : Nat) (p : InvPc)
  | locked (detached : Bool)
  | push
  deriving DecidableEq, Repr

/-- Where a call of `RMW_Connext_WaitSet::wait` is. `turn l x xs t` is the turn of loop `l` on
entry `x`, with `xs` still to come. -/
inductive WaitPc
  | start
  | entering (epoch : Nat)
  | attaching
  | turn (l : Loop) (x : Nat) (xs : List Nat) (t : TurnPc)
  | blocking
  | ddsWait
  | processing (timedOut : Bool)
  | exitFree (rc : RmwRet) (cancelled : Bool)
  | exitDetach (rc : RmwRet) (cancelled : Bool)
  | done (rc : RmwRet)
  deriving DecidableEq, Repr

/-- Where the destruction of a source is: `status_condition.invalidate()`, the wait set's
`invalidate`, freeing the source. -/
inductive DestroyPc
  | start
  | invalidating (w : Nat) (p : InvPc)
  | release
  | done
  deriving DecidableEq, Repr

inductive Thread
  | idle
  | waiter (w : Nat) (a : WaitArgs) (timeout : Option RmwTime) (pc : WaitPc)
  | destroyer (c : CondId) (pc : DestroyPc)

/-- The shared state, the threads, `state_cond`'s notification counters, and the history. -/
structure World where
  sys : Sys
  threads : Nat → Thread
  epoch : Nat → Nat
  destroying : List CondId
  freed : List CondId

structure Label where
  tid : Nat
  oracle : Oracle

namespace World

/-- Threads `0, 1, …` run the given programs; the state is `S` and nothing was notified. -/
def init (S : Sys) (ts : List Thread) : World :=
  { sys := S, threads := fun i => ts.getD i .idle, epoch := fun _ => 0, destroying := [],
    freed := [] }

def setSys (G : World) (S : Sys) : World := { G with sys := S }

/-- A transition of wait set `w`'s state under its mutex, then `state_cond.notify_all()`. -/
def transition (G : World) (w : Nat) (st : WaitSetState) : World :=
  { G with sys := G.sys.setState w st, epoch := Function.update G.epoch w (G.epoch w + 1) }

def setThread (G : World) (t : Nat) (th : Thread) : World :=
  { G with threads := Function.update G.threads t th }

@[simp] theorem setSys_sys (G : World) (S : Sys) : (G.setSys S).sys = S := rfl
@[simp] theorem setSys_threads (G : World) (S : Sys) : (G.setSys S).threads = G.threads := rfl
@[simp] theorem transition_sys (G : World) (w : Nat) (st : WaitSetState) :
    (G.transition w st).sys = G.sys.setState w st := rfl
@[simp] theorem transition_threads (G : World) (w : Nat) (st : WaitSetState) :
    (G.transition w st).threads = G.threads := rfl
@[simp] theorem setThread_sys (G : World) (t : Nat) (th : Thread) :
    (G.setThread t th).sys = G.sys := rfl

end World

/-! ## The loops of `attach()`, one turn at a time -/

namespace Loop

def kind : Loop → SrcKind
  | .eventsReset | .eventsEnable => .event
  | .subscriptions => .subscription
  | .clients => .client
  | .services => .service
  | .guards => .guardCondition

/-- The loops after `l`. -/
def after : Loop → List Loop
  | .eventsReset => [.subscriptions, .clients, .services, .eventsEnable, .guards]
  | .subscriptions => [.clients, .services, .eventsEnable, .guards]
  | .clients => [.services, .eventsEnable, .guards]
  | .services => [.eventsEnable, .guards]
  | .eventsEnable => [.guards]
  | .guards => []

/-- The condition of entry `x`: an event's is its entity's status condition. -/
def cond (S : Sys) : Loop → Nat → CondId
  | .eventsReset, e | .eventsEnable, e => (S.events e).condition
  | .subscriptions, x => .subscriber x
  | .clients, x => .client x
  | .services, x => .service x
  | .guards, g => .guard g

/-- Where a turn starts: the second event loop takes nothing over. -/
def first : Loop → TurnPc
  | .eventsEnable => .locked false
  | _ => .check

def locked (o : Oracle) (w : Nat) (c : CondId) (d : Bool) (x : Nat) (S : Sys) :
    Loop → RmwRet × Sys
  | .eventsReset => lockedResetEvent o c d S
  | .subscriptions | .clients | .services => lockedSource o w c d S
  | .eventsEnable => lockedEnableEvent o w c (rosEventToDds (S.events x).eventType) S
  | .guards => lockedGuard o w c d S

/-- The `push_back` after the locked block (and, for events, the cached copy). The first event
loop has none. -/
def push (w x : Nat) (S : Sys) : Loop → Sys
  | .eventsReset => S
  | .subscriptions => S.pushAttached w .subscription x
  | .clients => S.pushAttached w .client x
  | .services => S.pushAttached w .service x
  | .eventsEnable => S.setWaitSet w (((S.waitsets w).pushBack .event x).emplace x (S.events x))
  | .guards => S.pushAttached w .guardCondition x

end Loop

/-- The first turn of the first loop, among `ls`, with entries to visit; `blocking` after the
last loop. -/
def enterLoops (a : WaitArgs) : List Loop → WaitPc
  | [] => .blocking
  | l :: ls =>
    match a.elems l.kind with
    | x :: xs => .turn l x xs l.first
    | [] => enterLoops a ls

/-- The turn after the one on an entry followed by `xs` in loop `l`. -/
def nextTurn (a : WaitArgs) (l : Loop) : List Nat → WaitPc
  | y :: ys => .turn l y ys l.first
  | [] => enterLoops a l.after

def allLoops : List Loop :=
  [.eventsReset, .subscriptions, .clients, .services, .eventsEnable, .guards]

/-! ## Steps -/

/-- One step of `invalidate(c)` on wait set `w`: where it goes next, or what it returns. -/
def invStep (o : Oracle) (w : Nat) (c : CondId) : InvPc → World → Option (World × (InvPc ⊕ RmwRet))
  | .start, G =>
    if !isAttached (G.sys.waitsets w) c then some (G, .inr .ok)
    else match (G.sys.waitsets w).state with
      | .free => some (G.setSys (G.sys.setState w .invalidating), .inl .detaching)
      | .acquiring => some (G, .inl (.blocked (G.epoch w)))
      | _ => some (G, .inr .error)
  | .detaching, G =>
    let r := detach o w G.sys
    some (G.setSys r.2, .inl (.freeing r.1))
  | .freeing rc, G => some (G.transition w .free, .inr rc)
  | .blocked e, G =>
    if e < G.epoch w then
      some (G, .inr (if isAttached (G.sys.waitsets w) c then .error else .ok))
    else none

/-- One step of a turn of loop `l` on entry `x` of wait set `w`'s `attach()`. -/
def turnStep (o : Oracle) (w : Nat) (a : WaitArgs) (l : Loop) (x : Nat) (xs : List Nat) :
    TurnPc → World → Option (World × WaitPc)
  | .check, G =>
    some (G, .turn l x xs (match (G.sys.conds (l.cond G.sys x)).attachedWaitset with
      | some w' => if w' = w then .locked false else .invalidating w' .start
      | none => .locked false))
  | .invalidating w' p, G =>
    (invStep o w' (l.cond G.sys x) p G).map fun r => (r.1, .turn l x xs (match r.2 with
      | .inl p' => .invalidating w' p'
      | .inr _ => .locked true))
  | .locked d, G =>
    let r := l.locked o w (l.cond G.sys x) d x G.sys
    some (G.setSys r.2,
      if r.1 = .ok then (if l = .eventsReset then nextTurn a l xs else .turn l x xs .push)
      else .exitFree r.1 false)
  | .push, G => some (G.setSys (l.push w x G.sys), nextTurn a l xs)

/-- One step of `wait()` on wait set `w` with caller arrays `a`. -/
def waitStep (o : Oracle) (w : Nat) (a : WaitArgs) (timeout : Option RmwTime) :
    WaitPc → World → Option (World × WaitPc)
  | .start, G =>
    match (G.sys.waitsets w).state with
    | .free => some (G.transition w .acquiring, .attaching)
    | .invalidating => some (G, .entering (G.epoch w))
    | _ => some (G, .done .error)
  | .entering e, G =>
    if e < G.epoch w then
      if (G.sys.waitsets w).state = .free then some (G.transition w .acquiring, .attaching)
      else some (G, .done .error)
    else none
  | .attaching, G =>
    if refreshAttach (G.sys.waitsets w) a then
      let r := detach o w G.sys
      some (G.setSys r.2, if r.1 = .ok then enterLoops a allLoops else .exitFree r.1 false)
    else some (G, .blocking)
  | .turn l x xs p, G => turnStep o w a l x xs p G
  | .blocking, G =>
    let W := G.sys.waitsets w
    let count := W.attachedSubscribers.length + W.attachedConditions.length +
      W.attachedClients.length + W.attachedServices.length + W.attachedEvents.length
    if 2147483647 < count then some (G, .exitFree .error false)
    else if !o.ensureLengthOk then some (G, .exitFree .error false)
    else match timeout.map (fun t => (durationFromRosTime ⟨0, 0⟩ t).1) with
      | some .ok | none => some (G.transition w .blocked, .ddsWait)
      | some rc => some (G, .exitFree rc false)
  | .ddsWait, G =>
    match o.waitRc with
    | .error => some (G, .exitFree .error false)
    | r => some (G.transition w .releasing, .processing (r = .timeout))
  | .processing timedOut, G =>
    let p := processWait o G.sys (G.sys.waitsets w)
    some (G, if p.rc = .ok then .exitFree (if timedOut then .timeout else .ok) true
      else .exitFree p.rc false)
  | .exitFree rc cancelled, G => some (G.transition w .free, .exitDetach rc cancelled)
  | .exitDetach rc cancelled, G =>
    some (if cancelled then G else G.setSys (detach o w G.sys).2, .done rc)
  | .done _, _ => none

/-- One step of the destruction of the source whose condition is `c`. -/
def destroyStep (o : Oracle) (c : CondId) : DestroyPc → World → Option (World × DestroyPc)
  | .start, G =>
    let G' := { G.setSys (G.sys.markDeleted c) with destroying := c :: G.destroying }
    some (G', match (G.sys.conds c).attachedWaitset with
      | some w => .invalidating w .start
      | none => .release)
  | .invalidating w p, G =>
    (invStep o w c p G).map fun r => (r.1, match r.2 with
      | .inl p' => .invalidating w p'
      | .inr _ => .release)
  | .release, G => some ({ G with freed := c :: G.freed }, .done)
  | .done, _ => none

/-- One step of thread `l.tid`. -/
def step (G : World) (l : Label) : Option World :=
  match G.threads l.tid with
  | .idle => none
  | .waiter w a t p =>
    (waitStep l.oracle w a t p G).map fun r => r.1.setThread l.tid (.waiter w a t r.2)
  | .destroyer c p =>
    (destroyStep l.oracle c p G).map fun r => r.1.setThread l.tid (.destroyer c r.2)

/-- The steps of a list of labels, in order; `none` if one cannot be taken. -/
def run (G : World) : List Label → Option World
  | [] => some G
  | l :: ls => (step G l).bind fun G' => run G' ls

/-- The states some interleaving leads to from `G₀`. -/
def Reachable (G₀ G : World) : Prop := ∃ ls, run G₀ ls = some G

end RmwConnextdds
