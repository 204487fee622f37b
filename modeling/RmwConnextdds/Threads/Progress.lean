import RmwConnextdds.Threads.Destruction
import RmwConnextdds.Threads.Ownership
import RmwConnextdds.Threads.Sequential

/-! # Waiters that share no source across wait sets never get stuck

A thread in `wait()` stops at two points only: at the start, in `state_cond.wait` on a wait set
that is `INVALIDATING`, and inside a takeover's `invalidate()`, in `state_cond.wait` on a wait set
that is `ACQUIRING`. Both come from a takeover: a thread finds a condition of its arrays attached
to another wait set. When no source is passed to two different wait sets and no source is
destroyed, no takeover ever starts: the back-reference of a waiter's condition names its own wait
set or none (`NoTakeover`), and every thread is idle, done, or can take a step, whatever the
interleaving (`waiters_never_stuck`). `RmwConnextdds.Threads.Ownership` has the two threads that
share sources across two wait sets and deadlock.

## Transcription choices

* A waiter's conditions are `WaitArgs.conds`, with the events' conditions of the initial state:
  no step changes what an event address holds.
* The engine may answer every step as it likes: no step of `wait()` outside the two points above
  depends on the engine to return.
-/

namespace RmwConnextdds
set_option autoImplicit false

/-! ## Program points where a waiter can go on -/

def Thread.waitArgs : Thread → Option (Nat × WaitArgs)
  | .waiter w a _ _ => some (w, a)
  | _ => none

def TurnPc.Clear : TurnPc → Prop
  | .invalidating _ _ => False
  | _ => True

/-- A program point of `wait()` outside the two that can block, with a turn's entries from the
caller's array. -/
def WaitPc.Clear (a : WaitArgs) : WaitPc → Prop
  | .entering _ => False
  | .turn l x xs t => x :: xs ⊆ a.elems l.kind ∧ t.Clear
  | _ => True

theorem Loop.first_clear (l : Loop) : l.first.Clear := by
  cases l <;> trivial

theorem enterLoops_clear (a : WaitArgs) (ls : List Loop) : (enterLoops a ls).Clear a := by
  induction ls with
  | nil => trivial
  | cons l ls ih =>
    simp only [enterLoops]
    split
    next x xs hx => exact ⟨hx ▸ List.Subset.refl _, l.first_clear⟩
    next => exact ih

theorem nextTurn_clear {a : WaitArgs} {l : Loop} {x : Nat} {xs : List Nat}
    (h : x :: xs ⊆ a.elems l.kind) : (nextTurn a l xs).Clear a := by
  cases xs with
  | nil => exact enterLoops_clear a l.after
  | cons y ys => exact ⟨List.subset_of_cons_subset h, l.first_clear⟩

theorem Loop.cond_mem_conds (l : Loop) {a : WaitArgs} {x : Nat} (hx : x ∈ a.elems l.kind)
    (S : Sys) : l.cond S x ∈ a.conds S := by
  simp only [WaitArgs.conds, List.mem_append, List.mem_map]
  cases l
  case eventsReset | eventsEnable => exact .inr ⟨x, hx, rfl⟩
  case subscriptions => exact .inl (.inl (.inl (.inl ⟨x, hx, rfl⟩)))
  case guards => exact .inl (.inl (.inl (.inr ⟨x, hx, rfl⟩)))
  case clients => exact .inl (.inl (.inr ⟨x, hx, rfl⟩))
  case services => exact .inl (.inr ⟨x, hx, rfl⟩)

/-! ## What a waiter's step may do -/

/-- How a step of a waiter on `w` with arrays `a` may move the back-references: each stays, is
cleared, or is set to `w` for a condition of `a`. -/
def BackRefsMove (w : Nat) (a : WaitArgs) (S S' : Sys) : Prop :=
  ∀ c, (S'.conds c).attachedWaitset = (S.conds c).attachedWaitset ∨
    (S'.conds c).attachedWaitset = none ∨
    (S'.conds c).attachedWaitset = some w ∧ c ∈ a.conds S

/-- A locked block on condition `c` for wait set `w` moves no back-reference but `c`'s, and that
one to none or to `w`. -/
def TouchesOnly (w : Nat) (c : CondId) (S S' : Sys) : Prop :=
  ∀ c', (S'.conds c').attachedWaitset = (S.conds c').attachedWaitset ∨
    c' = c ∧ ((S'.conds c').attachedWaitset = none ∨ (S'.conds c').attachedWaitset = some w)

section
variable {w : Nat} {c : CondId} {S S₁ S₂ : Sys}

theorem TouchesOnly.refl (h : ∀ c', (S₁.conds c').attachedWaitset = (S.conds c').attachedWaitset) :
    TouchesOnly w c S S₁ :=
  fun c' => .inl (h c')

theorem TouchesOnly.trans (h₁ : TouchesOnly w c S S₁) (h₂ : TouchesOnly w c S₁ S₂) :
    TouchesOnly w c S S₂ := by
  intro c'
  rcases h₂ c' with h | h
  · rcases h₁ c' with h' | h'
    · exact .inl (h.trans h')
    · exact .inr (h ▸ h')
  · exact .inr h

theorem TouchesOnly.thenOk {r : RmwRet × Sys} {g : Sys → RmwRet × Sys} (hr : TouchesOnly w c S r.2)
    (hg : ∀ S₁, TouchesOnly w c S₁ (g S₁).2) : TouchesOnly w c S (RmwConnextdds.thenOk r g).2 := by
  obtain ⟨rc, S₁⟩ := r
  cases rc
  · exact hr.trans (hg S₁)
  · exact hr
  · exact hr

theorem touchesOnly_setBackRef (o : Option Nat) (ho : o = none ∨ o = some w) :
    TouchesOnly w c S (S.setBackRef c o) := by
  intro c'
  by_cases hc : c' = c
  · subst hc; exact .inr ⟨rfl, by simpa [Sys.setBackRef] using ho⟩
  · exact .inl (by simp [Sys.setBackRef, hc])

theorem touchesOnly_detached (d : Bool) :
    TouchesOnly w c S (if d then S.setBackRef c none else S) := by
  cases d
  · exact .refl fun _ => rfl
  · exact touchesOnly_setBackRef none (.inl rfl)

theorem touchesOnly_conditionAttach (o : Oracle) : TouchesOnly w c S (conditionAttach o w c S).2 := by
  unfold conditionAttach
  split
  · exact .refl fun _ => rfl
  · split
    · exact touchesOnly_setBackRef _ (.inr rfl)
    · exact .refl fun _ => rfl

theorem touchesOnly_resetStatuses (o : Oracle) (c' : CondId) :
    TouchesOnly w c S (resetStatuses o c' S).2 := by
  unfold resetStatuses
  split <;> exact .refl fun c'' => by by_cases h : c'' = c' <;> simp [Sys.setMask, h]

theorem touchesOnly_enableStatuses (o : Oracle) (c' : CondId) (m : Nat) :
    TouchesOnly w c S (enableStatuses o c' m S).2 := by
  unfold enableStatuses
  split <;> exact .refl fun c'' => by by_cases h : c'' = c' <;> simp [Sys.setMask, h]

theorem Loop.locked_touchesOnly (l : Loop) (o : Oracle) (d : Bool) (x : Nat) :
    TouchesOnly w c S (l.locked o w c d x S).2 := by
  cases l
  case eventsReset =>
    simp only [Loop.locked, lockedResetEvent]
    split
    · exact .refl fun _ => rfl
    · exact touchesOnly_detached d |>.trans (touchesOnly_resetStatuses o c)
  case eventsEnable =>
    simp only [Loop.locked, lockedEnableEvent]
    split
    · exact .refl fun _ => rfl
    · exact (touchesOnly_enableStatuses o c _).thenOk fun _ => touchesOnly_conditionAttach o
  case guards =>
    simp only [Loop.locked, lockedGuard]
    split
    · exact .refl fun _ => rfl
    · exact (touchesOnly_detached d).trans (touchesOnly_conditionAttach o)
  all_goals
    simp only [Loop.locked, lockedSource]
    split
    · exact .refl fun _ => rfl
    · exact ((touchesOnly_detached d).trans (touchesOnly_resetStatuses o c)).thenOk fun _ =>
        (touchesOnly_enableStatuses o c _).thenOk fun _ =>
          (touchesOnly_conditionAttach o).thenOk fun _ => .refl fun _ => rfl

theorem detachConds_backRefs (o : Oracle) :
    ∀ (cs : List CondId) (S : Sys) (c : CondId),
      ((detachConds o cs S).2.conds c).attachedWaitset = (S.conds c).attachedWaitset ∨
        ((detachConds o cs S).2.conds c).attachedWaitset = none
  | [], _, _ => .inl rfl
  | c' :: cs, S, c => by
    simp only [detachConds]
    rcases detachConds_backRefs o cs (conditionDetach o c' S).2 c with h | h
    · rw [h]
      unfold conditionDetach
      split
      · exact .inl rfl
      · split
        · by_cases hc : c = c' <;> simp [Sys.setBackRef, hc]
        · exact .inl rfl
    · exact .inr h

end

/-- What a step of a waiter on `w` with arrays `a` may do to the world: no thread changes, nor
the events; no wait set becomes `INVALIDATING`; back-references move as `BackRefsMove` says. -/
structure QuietStep (w : Nat) (a : WaitArgs) (G G₁ : World) : Prop where
  threads : G₁.threads = G.threads
  events : G₁.sys.events = G.sys.events
  states : ∀ v, G₁.sys.states v = .invalidating → G.sys.states v = .invalidating
  backRefs : BackRefsMove w a G.sys G₁.sys

namespace QuietStep
variable {w : Nat} {a : WaitArgs} {G : World}

theorem refl : QuietStep w a G G :=
  ⟨rfl, rfl, fun _ h => h, fun _ => .inl rfl⟩

theorem transition {st : WaitSetState} (hst : st ≠ .invalidating) :
    QuietStep w a G (G.transition w st) := by
  refine ⟨rfl, rfl, fun v h => ?_, fun _ => .inl rfl⟩
  by_cases hv : v = w
  · subst hv; simp at h; exact absurd h hst
  · simpa [hv] using h

theorem detach (o : Oracle) : QuietStep w a G (G.setSys (RmwConnextdds.detach o w G.sys).2) :=
  ⟨rfl, by simp, fun v h => by simpa using h, fun c => by
    rcases detachConds_backRefs o (G.sys.waitsets w).attachedConds G.sys c with h | h
    · exact .inl h
    · exact .inr (.inl h)⟩

theorem locked (l : Loop) (o : Oracle) {c : CondId} (hc : c ∈ a.conds G.sys) (d : Bool) (x : Nat) :
    QuietStep w a G (G.setSys (l.locked o w c d x G.sys).2) :=
  ⟨rfl, (l.locked_frame o w c d x G.sys).2, fun v h => by simpa using h, fun c' => by
    rcases l.locked_touchesOnly o d x c' with h | ⟨hc', h | h⟩
    · exact .inl h
    · exact .inr (.inl h)
    · exact .inr (.inr ⟨h, hc' ▸ hc⟩)⟩

theorem push (l : Loop) (x : Nat) : QuietStep w a G (G.setSys (l.push w x G.sys)) :=
  ⟨rfl, by simp, fun v h => by simpa using h, fun _ => .inl (by simp)⟩

end QuietStep

theorem waitStep_clear {o : Oracle} {w : Nat} {a : WaitArgs} {tm : Option RmwTime}
    {p p' : WaitPc} {G G₁ : World} (h : waitStep o w a tm p G = some (G₁, p')) (hp : p.Clear a)
    (hs : ∀ v, G.sys.states v ≠ .invalidating)
    (hb : ∀ c ∈ a.conds G.sys, (G.sys.conds c).attachedWaitset = none ∨
      (G.sys.conds c).attachedWaitset = some w) :
    QuietStep w a G G₁ ∧ p'.Clear a := by
  cases p with
  | start =>
    simp only [waitStep] at h
    split at h
    · cases h; exact ⟨.transition nofun, trivial⟩
    · exact absurd ‹_› (hs w)
    · cases h; exact ⟨.refl, trivial⟩
  | entering e => exact absurd hp id
  | attaching =>
    simp only [waitStep] at h
    split at h <;> cases h
    · exact ⟨.detach o, by split; exacts [enterLoops_clear a allLoops, trivial]⟩
    · exact ⟨.refl, trivial⟩
  | turn l x xs q =>
    obtain ⟨hxs, hq⟩ := hp
    have hc := l.cond_mem_conds (hxs (List.mem_cons_self x xs)) G.sys
    cases q with
    | check =>
      cases h
      refine ⟨.refl, hxs, ?_⟩
      rcases hb _ hc with hn | hw
      · simp only [hn]; trivial
      · simp only [hw, if_true]; trivial
    | invalidating w' q => exact absurd hq id
    | locked d =>
      cases h
      refine ⟨.locked l o hc d x, ?_⟩
      split
      · split
        · exact nextTurn_clear hxs
        · exact ⟨hxs, trivial⟩
      · trivial
    | push => cases h; exact ⟨.push l x, nextTurn_clear hxs⟩
  | blocking =>
    simp only [waitStep] at h
    split at h
    · cases h; exact ⟨.refl, trivial⟩
    · split at h
      · cases h; exact ⟨.refl, trivial⟩
      · split at h <;> cases h
        · exact ⟨.transition nofun, trivial⟩
        · exact ⟨.transition nofun, trivial⟩
        · exact ⟨.refl, trivial⟩
  | ddsWait =>
    simp only [waitStep] at h
    split at h <;> cases h
    · exact ⟨.refl, trivial⟩
    · exact ⟨.transition nofun, trivial⟩
  | processing timedOut => cases h; exact ⟨.refl, by split <;> trivial⟩
  | exitFree rc cancelled => cases h; exact ⟨.transition nofun, trivial⟩
  | exitDetach rc cancelled =>
    cases h
    cases cancelled
    · exact ⟨.detach o, trivial⟩
    · exact ⟨.refl, trivial⟩
  | done rc => cases h

theorem waitStep_some {o : Oracle} {w : Nat} {a : WaitArgs} {tm : Option RmwTime} {p : WaitPc}
    (G : World) (hp : p.Clear a) (hd : ∀ rc, p ≠ .done rc) :
    ∃ r, waitStep o w a tm p G = some r := by
  cases p with
  | start => simp only [waitStep]; split <;> exact ⟨_, rfl⟩
  | entering e => exact absurd hp id
  | attaching => simp only [waitStep]; split <;> exact ⟨_, rfl⟩
  | turn l x xs q =>
    cases q with
    | invalidating w' q => exact absurd hp.2 id
    | _ => exact ⟨_, rfl⟩
  | blocking =>
    simp only [waitStep]
    split
    · exact ⟨_, rfl⟩
    · split
      · exact ⟨_, rfl⟩
      · split <;> exact ⟨_, rfl⟩
  | ddsWait => simp only [waitStep]; split <;> exact ⟨_, rfl⟩
  | done rc => exact absurd rfl (hd rc)
  | _ => exact ⟨_, rfl⟩

/-! ## The invariant -/

/-- Threads that are all waiters, idle or at a program point where they can go on; no wait set
`INVALIDATING`; every condition of a waiter's arrays pointing at its wait set or at none; and a
source in the arrays of two waiters only if they wait on the same wait set. -/
structure NoTakeover (ev : Nat → EventRec) (G : World) : Prop where
  events : G.sys.events = ev
  notInvalidating : ∀ v, G.sys.states v ≠ .invalidating
  waiters : ∀ t, G.threads t = .idle ∨ ∃ w a tm p, G.threads t = .waiter w a tm p ∧ p.Clear a
  backRef : ∀ t w a, (G.threads t).waitArgs = some (w, a) → ∀ c ∈ a.conds G.sys,
    (G.sys.conds c).attachedWaitset = none ∨ (G.sys.conds c).attachedWaitset = some w
  share : ∀ t u w a w' a', (G.threads t).waitArgs = some (w, a) →
    (G.threads u).waitArgs = some (w', a') → ∀ c ∈ a.conds G.sys, c ∈ a'.conds G.sys → w = w'

theorem waitArgs_update (T : Nat → Thread) (t : Nat) (w : Nat) (a : WaitArgs) (tm : Option RmwTime)
    (p p' : WaitPc) (ht : T t = .waiter w a tm p) (u : Nat) :
    (Function.update T t (.waiter w a tm p') u).waitArgs = (T u).waitArgs := by
  by_cases hu : u = t
  · subst hu; simp [ht, Thread.waitArgs]
  · simp [hu]

theorem NoTakeover.step {ev : Nat → EventRec} {G G' : World} {l : Label} (hG : NoTakeover ev G)
    (h : step G l = some G') : NoTakeover ev G' := by
  unfold RmwConnextdds.step at h
  rcases hG.waiters l.tid with hi | ⟨w, a, tm, p, ht, hp⟩
  · simp [hi] at h
  rw [ht] at h
  obtain ⟨⟨G₁, p'⟩, hw, rfl⟩ := Option.map_eq_some'.mp h
  have hb := hG.backRef l.tid w a (by simp [ht, Thread.waitArgs])
  obtain ⟨hq, hp'⟩ := waitStep_clear hw hp hG.notInvalidating hb
  have hconds : ∀ a' : WaitArgs, a'.conds G₁.sys = a'.conds G.sys := fun a' => by
    simp only [WaitArgs.conds, hq.events]
  have hargs := waitArgs_update G.threads l.tid w a tm p p' ht
  refine ⟨hq.events.trans hG.events, fun v hv => hG.notInvalidating v (hq.states v hv),
    fun u => ?_, fun u w' a' hu c hc => ?_, fun u u' w₁ a₁ w₂ a₂ h₁ h₂ c hc hc' => ?_⟩
  · by_cases hu : u = l.tid
    · subst hu; exact .inr ⟨w, a, tm, p', by simp [World.setThread], hp'⟩
    · simpa [World.setThread, hu, hq.threads] using hG.waiters u
  · simp only [World.setThread, World.setThread_sys, hq.threads, hargs, hconds] at hu hc ⊢
    rcases hq.backRefs c with he | he | ⟨he, hc'⟩
    · rw [he]; exact hG.backRef u w' a' hu c hc
    · exact .inl he
    · rw [he, hG.share l.tid u w a w' a' (by simp [ht, Thread.waitArgs]) hu c hc' hc]
      exact .inr rfl
  · simp only [World.setThread, World.setThread_sys, hq.threads, hargs, hconds] at h₁ h₂ hc hc'
    exact hG.share u u' w₁ a₁ w₂ a₂ h₁ h₂ c hc hc'

theorem NoTakeover.run {ev : Nat → EventRec} {G G' : World} {ls : List Label}
    (hG : NoTakeover ev G) (h : run G ls = some G') : NoTakeover ev G' := by
  induction ls generalizing G with
  | nil => cases h; exact hG
  | cons l ls ih =>
    obtain ⟨G₁, h₁, h⟩ := Option.bind_eq_some.mp h
    exact ih (hG.step h₁) h

theorem getD_idle_or_mem (ts : List Thread) (t : Nat) :
    ts.getD t .idle = .idle ∨ ts.getD t .idle ∈ ts := by
  unfold List.getD
  cases h : ts.get? t with
  | none => exact .inl rfl
  | some th => exact .inr (List.get?_mem h)

section
variable {S : Sys} {ts : List Thread}

theorem NoTakeover.init (hS : ∀ v, (S.waitsets v).state ≠ .invalidating)
    (hts : ∀ th ∈ ts, ∃ w a tm, th = .waiter w a tm .start ∧ ∀ c ∈ a.conds S,
      (S.conds c).attachedWaitset = none ∨ (S.conds c).attachedWaitset = some w)
    (hshare : ∀ w a tm w' a' tm', Thread.waiter w a tm .start ∈ ts →
      Thread.waiter w' a' tm' .start ∈ ts → ∀ c ∈ a.conds S, c ∈ a'.conds S → w = w') :
    NoTakeover S.events (World.init S ts) := by
  have hmem : ∀ t w a, ((World.init S ts).threads t).waitArgs = some (w, a) →
      ∃ tm, Thread.waiter w a tm .start ∈ ts ∧ ∀ c ∈ a.conds S,
        (S.conds c).attachedWaitset = none ∨ (S.conds c).attachedWaitset = some w := by
    intro t w a h
    simp only [World.init] at h
    rcases getD_idle_or_mem ts t with hi | hm
    · rw [hi] at h; cases h
    · obtain ⟨w', a', tm, he, hb⟩ := hts _ hm
      simp only [he, Thread.waitArgs, Option.some.injEq, Prod.mk.injEq] at h
      obtain ⟨rfl, rfl⟩ := h
      exact ⟨tm, he ▸ hm, hb⟩
  refine ⟨rfl, hS, fun t => ?_, fun t w a h => ?_, fun t u w a w' a' h h' => ?_⟩
  · simp only [World.init]
    rcases getD_idle_or_mem ts t with hi | hm
    · exact .inl hi
    · obtain ⟨w, a, tm, he, -⟩ := hts _ hm
      exact .inr ⟨w, a, tm, .start, he, trivial⟩
  · obtain ⟨-, -, hb⟩ := hmem t w a h
    exact hb
  · obtain ⟨tm, hm, -⟩ := hmem t w a h
    obtain ⟨tm', hm', -⟩ := hmem u w' a' h'
    exact hshare w a tm w' a' tm' hm hm'

/-- Waiters that share no source across wait sets, from a state with no wait set `INVALIDATING`
and every condition of a waiter's arrays pointing at its wait set or at none: in every state any
interleaving reaches, every thread is idle, done, or can take a step, whatever the engine answers. -/
theorem waiters_never_stuck {G : World} (hS : ∀ v, (S.waitsets v).state ≠ .invalidating)
    (hts : ∀ th ∈ ts, ∃ w a tm, th = .waiter w a tm .start ∧ ∀ c ∈ a.conds S,
      (S.conds c).attachedWaitset = none ∨ (S.conds c).attachedWaitset = some w)
    (hshare : ∀ w a tm w' a' tm', Thread.waiter w a tm .start ∈ ts →
      Thread.waiter w' a' tm' .start ∈ ts → ∀ c ∈ a.conds S, c ∈ a'.conds S → w = w')
    (hR : Reachable (World.init S ts) G) (t : Nat) (o : Oracle) :
    G.threads t = .idle ∨ (∃ w a tm rc, G.threads t = .waiter w a tm (.done rc)) ∨
      ∃ G', step G ⟨t, o⟩ = some G' := by
  obtain ⟨ls, hrun⟩ := hR
  have hG := (NoTakeover.init hS hts hshare).run hrun
  rcases hG.waiters t with hi | ⟨w, a, tm, p, ht, hp⟩
  · exact .inl hi
  · by_cases hd : ∃ rc, p = .done rc
    · obtain ⟨rc, rfl⟩ := hd
      exact .inr (.inl ⟨w, a, tm, rc, ht⟩)
    · obtain ⟨r, hr⟩ : ∃ r, waitStep o w a tm p G = some r :=
        waitStep_some G hp fun rc h => hd ⟨rc, h⟩
      refine .inr (.inr ⟨r.1.setThread t (.waiter w a tm r.2), ?_⟩)
      simp only [RmwConnextdds.step, ht, hr, Option.map_some']

end

/-- Thread `0` waits on wait set `0` for subscription `0`, thread `1` on wait set `1` for
subscription `1`; three steps of each, interleaved. -/
theorem waiters_never_stuck_disjoint :
    ∃ G, run (World.init (Sys.initial fun _ => ⟨.subscription 0, .other⟩)
        [.waiter 0 ⟨some [0], none, none, none, none⟩ none .start,
         .waiter 1 ⟨some [1], none, none, none, none⟩ none .start])
        ([0, 1, 0, 1, 0, 1].map fun t => ⟨t, .allOk⟩) = some G ∧
      (G.threads 0 = .idle ∨ (∃ w a tm rc, G.threads 0 = .waiter w a tm (.done rc)) ∨
        ∃ G', step G ⟨0, .allOk⟩ = some G') := by
  have hr : run (World.init (Sys.initial fun _ => ⟨.subscription 0, .other⟩)
      [.waiter 0 ⟨some [0], none, none, none, none⟩ none .start,
       .waiter 1 ⟨some [1], none, none, none, none⟩ none .start])
      ([0, 1, 0, 1, 0, 1].map fun t => ⟨t, .allOk⟩) = some _ := rfl
  refine ⟨_, hr, waiters_never_stuck (fun _ => by simp [Sys.initial]) ?_ ?_ ⟨_, hr⟩ 0 .allOk⟩
  · intro th hth
    simp only [List.mem_cons, List.mem_singleton, List.not_mem_nil, or_false] at hth
    rcases hth with rfl | rfl
    exacts [⟨0, _, none, rfl, by decide⟩, ⟨1, _, none, rfl, by decide⟩]
  · intro w a tm w' a' tm' h h'
    simp only [List.mem_cons, List.mem_singleton, List.not_mem_nil, or_false,
      Thread.waiter.injEq] at h h'
    rcases h with ⟨rfl, rfl, rfl, -⟩ | ⟨rfl, rfl, rfl, -⟩ <;>
      rcases h' with ⟨rfl, rfl, rfl, -⟩ | ⟨rfl, rfl, rfl, -⟩ <;> decide

end RmwConnextdds
