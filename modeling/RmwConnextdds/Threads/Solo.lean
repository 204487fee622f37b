import RmwConnextdds.Threads.Step

/-! # A thread alone runs the sequential `wait()`

`RmwConnextdds.WaitSet.Wait` runs `RMW_Connext_WaitSet::wait` as one call (`wait`);
`RmwConnextdds.Threads.Step` cuts the same code at its locks (`waitStep`). This module connects
the two: a thread that runs `wait()` with no other thread taking a step, the engine answering
every step as `o`, reaches `done` with the return code and the shared state that `wait` computes
(`wait_solo`).

`Leads o w a tm (p, S) (p', S')` says that the thread, at program point `p` with shared state `S`,
gets to `p'` with `S'` by its own steps, whatever the other threads are. It is built one program
point at a time: a takeover (`takeover_leads`, through `invalidate_leads`), a turn of each loop of
`attach()` (`turn_leads`), a whole loop (`loop_leads`), the six loops (`loops_leads`), and the
blocking, multi-wait and exit steps.

## Transcription choices

* The sequential turn of each loop is `Loop.turn`, the function `attachFull` folds over that
  loop's array; `attachLoops` folds the loops in order, and `attachFull` is `detach()` followed by
  `attachLoops` over `allLoops` (`attachFull_eq`).
-/

namespace RmwConnextdds
set_option autoImplicit false

/-! ## Runs of one thread -/

theorem run_append (G : World) (ls ls' : List Label) :
    run G (ls ++ ls') = (run G ls).bind fun G' => run G' ls' := by
  induction ls generalizing G with
  | nil => rfl
  | cons l ls ih =>
    simp only [List.cons_append, run]
    cases step G l <;> simp [ih]

/-- The thread running `wait()` on `w` with `a` and `tm`, at `p` with shared state `S`, gets to
`p'` with `S'` by its own steps, the engine answering each as `o`. -/
def Leads (o : Oracle) (w : Nat) (a : WaitArgs) (tm : Option RmwTime) (x y : WaitPc × Sys) :
    Prop :=
  ∀ t G, G.threads t = .waiter w a tm x.1 → G.sys = x.2 →
    ∃ n G', run G (List.replicate n ⟨t, o⟩) = some G' ∧
      G'.threads t = .waiter w a tm y.1 ∧ G'.sys = y.2

section
variable {o : Oracle} {w : Nat} {a : WaitArgs} {tm : Option RmwTime}

theorem Leads.refl (x : WaitPc × Sys) : Leads o w a tm x x :=
  fun _ G ht hS => ⟨0, G, rfl, ht, hS⟩

theorem Leads.trans {x y z : WaitPc × Sys} (h₁ : Leads o w a tm x y)
    (h₂ : Leads o w a tm y z) : Leads o w a tm x z := by
  intro t G ht hS
  obtain ⟨n₁, G₁, hr₁, ht₁, hS₁⟩ := h₁ t G ht hS
  obtain ⟨n₂, G₂, hr₂, ht₂, hS₂⟩ := h₂ t G₁ ht₁ hS₁
  refine ⟨n₁ + n₂, G₂, ?_, ht₂, hS₂⟩
  simp [← List.append_replicate_replicate, run_append, hr₁, hr₂]

instance : Trans (Leads o w a tm) (Leads o w a tm) (Leads o w a tm) := ⟨Leads.trans⟩

theorem Leads.single {p p' : WaitPc} {S S' : Sys}
    (h : ∀ G : World, G.sys = S →
      ∃ G₁, waitStep o w a tm p G = some (G₁, p') ∧ G₁.sys = S') :
    Leads o w a tm (p, S) (p', S') := by
  intro t G ht hS
  obtain ⟨G₁, h₁, h₂⟩ := h G hS
  exact ⟨1, G₁.setThread t (.waiter w a tm p'), by simp [run, step, ht, h₁], by
    simp [World.setThread], h₂⟩

/-! ## Takeovers -/

/-- `invalidate()` on another wait set, run sequentially, is the takeover's steps. -/
theorem invalidate_leads {l : Loop} {x : Nat} {xs : List Nat} {w' : Nat} {S S₂ : Sys}
    {rc : RmwRet} (h : invalidate o w' (l.cond S x) S = some (rc, S₂)) :
    Leads o w a tm (.turn l x xs (.invalidating w' .start), S)
      (.turn l x xs (.locked true), S₂) := by
  unfold invalidate at h
  split at h
  next hatt =>
    cases h
    exact .single fun G hG => ⟨G, by simp [waitStep, turnStep, invStep, hG, hatt], hG⟩
  next hatt =>
    split at h
    next hfree =>
      cases h
      calc Leads o w a tm (.turn l x xs (.invalidating w' .start), S)
            (.turn l x xs (.invalidating w' .detaching), S.setState w' .invalidating) :=
          .single fun G hG => ⟨G.setSys (S.setState w' .invalidating),
            by simp [waitStep, turnStep, invStep, hG, hatt, hfree], rfl⟩
        Leads o w a tm _ (.turn l x xs (.invalidating w'
            (.freeing (detach o w' (S.setState w' .invalidating)).1)),
            (detach o w' (S.setState w' .invalidating)).2) :=
          .single fun G hG => ⟨G.setSys (detach o w' G.sys).2,
            by simp [waitStep, turnStep, invStep, hG], by simp [hG]⟩
        Leads o w a tm _ (.turn l x xs (.locked true), _) :=
          .single fun G hG => ⟨G.transition w' .free, by simp [waitStep, turnStep, invStep],
            by simp [hG]⟩
    next => cases h
    next hst _ =>
      cases h
      exact .single fun G hG => ⟨G, by simp [waitStep, turnStep, invStep, hG, hatt], hG⟩

/-- The takeover at the head of a turn, run sequentially, is the turn's steps up to its locked
block. -/
theorem takeover_leads {l : Loop} {x : Nat} {xs : List Nat} {S S₂ : Sys} {d : Bool}
    (h : takeover o w (l.cond S x) S = some (d, S₂)) :
    Leads o w a tm (.turn l x xs .check, S) (.turn l x xs (.locked d), S₂) := by
  unfold takeover at h
  split at h
  next w' hw' =>
    split at h
    next hww =>
      cases h
      exact .single fun G hG => ⟨G, by simp [waitStep, turnStep, hG, hw', hww], hG⟩
    next hww =>
      obtain ⟨⟨rc, S₃⟩, hinv, he⟩ := Option.map_eq_some'.mp h
      simp only [Prod.mk.injEq] at he
      obtain ⟨rfl, rfl⟩ := he
      calc Leads o w a tm (.turn l x xs .check, S) (.turn l x xs (.invalidating w' .start), S) :=
          .single fun G hG => ⟨G, by simp [waitStep, turnStep, hG, hw', hww], hG⟩
        Leads o w a tm _ _ := invalidate_leads hinv
  next hw' =>
    cases h
    exact .single fun G hG => ⟨G, by simp [waitStep, turnStep, hG, hw'], hG⟩

/-! ## The loops of `attach()` -/

/-- The sequential turn of each loop of `attach()`: the function `attachFull` folds over the
loop's array. -/
def Loop.turn (o : Oracle) (w : Nat) : Loop → Nat → Sys → Option (RmwRet × Sys)
  | .eventsReset => attachEventReset o w
  | .subscriptions => attachSource .subscription .subscriber o w
  | .clients => attachSource .client .client o w
  | .services => attachSource .service .service o w
  | .eventsEnable => fun e S => some (attachEventEnable o w e S)
  | .guards => attachGuard o w

theorem Loop.cond_congr (l : Loop) {S S' : Sys} (h : S'.events = S.events) (x : Nat) :
    l.cond S' x = l.cond S x := by
  cases l <;> simp [Loop.cond, h]

theorem thenOk_push (r : RmwRet × Sys) (f : Sys → Sys) :
    thenOk r (fun S => (.ok, f S)) = if r.1 = .ok then (.ok, f r.2) else r := by
  obtain ⟨rc, S⟩ := r
  cases rc <;> rfl

theorem locked_leads {l : Loop} (hl : l ≠ .eventsReset) {x : Nat} {xs : List Nat} {d : Bool}
    {S : Sys} {rc : RmwRet} {S₁ : Sys} (h : l.locked o w (l.cond S x) d x S = (rc, S₁)) :
    Leads o w a tm (.turn l x xs (.locked d), S)
      (if rc = .ok then nextTurn a l xs else .exitFree rc false,
        if rc = .ok then l.push w x S₁ else S₁) := by
  by_cases hrc : rc = .ok
  · subst hrc
    calc Leads o w a tm (.turn l x xs (.locked d), S) (.turn l x xs .push, S₁) :=
        .single fun G hG => ⟨G.setSys S₁, by simp [waitStep, turnStep, hG, h, hl], rfl⟩
      Leads o w a tm _ (nextTurn a l xs, l.push w x S₁) :=
        .single fun G hG => ⟨G.setSys (l.push w x G.sys), by simp [waitStep, turnStep],
          by simp [hG]⟩
      Leads o w a tm _ _ := by simp only [if_true]; exact .refl _
  · simp only [hrc, if_false]
    exact .single fun G hG => ⟨G.setSys S₁, by simp [waitStep, turnStep, hG, h, hl, hrc], rfl⟩

theorem takeover_turn_leads {l : Loop} (hl : l ≠ .eventsReset) (hf : l.first = .check)
    (hturn : ∀ x S, l.turn o w x S = (takeover o w (l.cond S x) S).map fun r =>
      thenOk (l.locked o w (l.cond r.2 x) r.1 x r.2) fun S => (.ok, l.push w x S))
    {x : Nat} {xs : List Nat} {S S₁ : Sys} {rc : RmwRet} (h : l.turn o w x S = some (rc, S₁)) :
    Leads o w a tm (.turn l x xs l.first, S)
      (if rc = .ok then nextTurn a l xs else .exitFree rc false, S₁) := by
  rw [hturn] at h
  obtain ⟨⟨d, S₂⟩, ht, he⟩ := Option.map_eq_some'.mp h
  cases hr : l.locked o w (l.cond S₂ x) d x S₂ with
  | mk rc₁ S₃ =>
    rw [hf]
    refine (takeover_leads ht).trans ((locked_leads hl hr).trans ?_)
    simp only [hr, thenOk_push, Prod.mk.injEq] at he
    by_cases hrc : rc₁ = .ok
    · simp only [hrc, if_true, Prod.mk.injEq] at he ⊢
      obtain ⟨rfl, rfl⟩ := he
      exact .refl _
    · simp only [if_neg hrc, Prod.mk.injEq] at he ⊢
      obtain ⟨rfl, rfl⟩ := he
      rw [if_neg hrc]
      exact .refl _

/-- A sequential turn of any loop is the thread's steps through that turn. -/
theorem turn_leads {l : Loop} {x : Nat} {xs : List Nat} {S S₁ : Sys} {rc : RmwRet}
    (h : l.turn o w x S = some (rc, S₁)) :
    Leads o w a tm (.turn l x xs l.first, S)
      (if rc = .ok then nextTurn a l xs else .exitFree rc false, S₁) := by
  cases l with
  | eventsReset =>
    obtain ⟨⟨d, S₂⟩, ht, he⟩ := Option.map_eq_some'.mp h
    have hl : Loop.eventsReset.locked o w (Loop.eventsReset.cond S₂ x) d x S₂ = (rc, S₁) := by
      rw [Loop.cond_congr .eventsReset (takeover_frame ht).2 x]; exact he
    calc Leads o w a tm (.turn .eventsReset x xs .check, S)
          (.turn .eventsReset x xs (.locked d), S₂) := takeover_leads ht
      Leads o w a tm _ _ :=
        .single fun G hG => ⟨G.setSys S₁, by simp [waitStep, turnStep, hG, hl], rfl⟩
  | eventsEnable =>
    cases hr : Loop.eventsEnable.locked o w (Loop.eventsEnable.cond S x) false x S with
    | mk rc₁ S₃ =>
      have hev : S₃.events = S.events := by
        have := (lockedEnableEvent_waitsets o w (S.events x).condition
          (rosEventToDds (S.events x).eventType) S).2
        rwa [show lockedEnableEvent o w (S.events x).condition
          (rosEventToDds (S.events x).eventType) S = (rc₁, S₃) from hr] at this
      refine (locked_leads (by decide) hr).trans ?_
      simp only [Loop.turn, attachEventEnable, Option.some.injEq, thenOk_push] at h
      rw [show lockedEnableEvent o w (S.events x).condition
        (rosEventToDds (S.events x).eventType) S = (rc₁, S₃) from hr] at h
      by_cases hrc : rc₁ = .ok
      · simp only [hrc, if_true, Prod.mk.injEq] at h ⊢
        obtain ⟨rfl, rfl⟩ := h
        simp only [Loop.push, hev]
        exact .refl _
      · simp only [if_neg hrc, Prod.mk.injEq] at h ⊢
        obtain ⟨rfl, rfl⟩ := h
        rw [if_neg hrc]
        exact .refl _
  | subscriptions | clients | services | guards =>
    exact takeover_turn_leads (by decide) (by rfl) (fun _ _ => by rfl) h

theorem thenOkOpt_cases {r : Option (RmwRet × Sys)} {g : Sys → Option (RmwRet × Sys)}
    {rc : RmwRet} {S' : Sys} (h : thenOkOpt r g = some (rc, S')) :
    ∃ rc₁ S₁, r = some (rc₁, S₁) ∧
      (rc₁ = .ok ∧ g S₁ = some (rc, S') ∨ rc₁ ≠ .ok ∧ rc₁ = rc ∧ S₁ = S') := by
  rcases r with _ | ⟨rc₁, S₁⟩
  · cases h
  · refine ⟨rc₁, S₁, rfl, ?_⟩
    cases rc₁
    · exact .inl ⟨rfl, h⟩
    · cases h; exact .inr ⟨nofun, rfl, rfl⟩
    · cases h; exact .inr ⟨nofun, rfl, rfl⟩

/-- A whole loop, run sequentially, is the thread's steps through its turns. -/
theorem loop_leads (l : Loop) (x : Nat) (xs : List Nat) {S S' : Sys} {rc : RmwRet}
    (h : attachLoop (l.turn o w) (x :: xs) S = some (rc, S')) :
    Leads o w a tm (.turn l x xs l.first, S)
      (if rc = .ok then enterLoops a l.after else .exitFree rc false, S') := by
  induction xs generalizing x S with
  | nil =>
    obtain ⟨rc₁, S₁, h₁, ⟨rfl, hg⟩ | ⟨-, rfl, rfl⟩⟩ := thenOkOpt_cases h
    · cases hg; exact turn_leads h₁
    · exact turn_leads h₁
  | cons y ys ih =>
    obtain ⟨rc₁, S₁, h₁, ⟨rfl, hg⟩ | ⟨hne, rfl, rfl⟩⟩ := thenOkOpt_cases h
    · exact (turn_leads h₁).trans (ih y hg)
    · simpa only [if_neg hne] using (turn_leads h₁ : Leads o w a tm (.turn l x (y :: ys) _, _) _)

/-- The loops of `attach()` after its `detach()`, in order, each run sequentially. -/
def attachLoops (o : Oracle) (w : Nat) (a : WaitArgs) : List Loop → Sys → Option (RmwRet × Sys)
  | [] => fun S => some (.ok, S)
  | l :: ls => fun S =>
    thenOkOpt (attachLoop (l.turn o w) (a.elems l.kind) S) (attachLoops o w a ls)

theorem thenOkOpt_ok_right (r : Option (RmwRet × Sys)) :
    thenOkOpt r (fun S => some (.ok, S)) = r := by
  rcases r with _ | ⟨rc, S⟩
  · rfl
  · cases rc <;> rfl

/-- `attach()` past its early return is `detach()` and then the six loops. -/
theorem attachFull_eq (o : Oracle) (w : Nat) (a : WaitArgs) (S : Sys) :
    attachFull o w a S = thenOkOpt (some (detach o w S)) (attachLoops o w a allLoops) := by
  simp only [attachFull, allLoops, attachLoops, Loop.turn, Loop.kind, thenOkOpt_ok_right]

def AfterChain : List Loop → Prop
  | [] => True
  | l :: ls => l.after = ls ∧ AfterChain ls

theorem afterChain_allLoops : AfterChain allLoops :=
  ⟨rfl, rfl, rfl, rfl, rfl, rfl, trivial⟩

/-- The loops, run sequentially, are the thread's steps from the first turn to `blocking`, or to
the exit of the turn that failed. -/
theorem loops_leads : ∀ (ls : List Loop) {S S' : Sys} {rc : RmwRet}, AfterChain ls →
    attachLoops o w a ls S = some (rc, S') →
    Leads o w a tm (enterLoops a ls, S) (if rc = .ok then .blocking else .exitFree rc false, S')
  | [], S, S', rc, _, h => by cases h; exact .refl _
  | l :: ls, S, S', rc, ⟨hl, hc⟩, h => by
    obtain ⟨rc₁, S₁, h₁, ⟨rfl, hg⟩ | ⟨hne, rfl, rfl⟩⟩ := thenOkOpt_cases h
    · cases hx : a.elems l.kind with
      | nil =>
        rw [hx] at h₁
        cases h₁
        simpa only [enterLoops, hx] using loops_leads ls hc hg
      | cons x xs =>
        rw [hx] at h₁
        have hL : Leads o w a tm _ _ := loop_leads l x xs h₁
        simp only [if_true, hl] at hL
        simpa only [enterLoops, hx] using hL.trans (loops_leads ls hc hg)
    · cases hx : a.elems l.kind with
      | nil => rw [hx] at h₁; cases h₁; exact absurd rfl hne
      | cons x xs =>
        rw [hx] at h₁
        simpa only [enterLoops, hx, if_neg hne] using (loop_leads l x xs h₁ : Leads o w a tm _ _)

/-! ## `wait()` -/

theorem attach_leads {S S₁ : Sys} {rc : RmwRet} (h : attach o w a S = some (rc, S₁)) :
    Leads o w a tm (.attaching, S) (if rc = .ok then .blocking else .exitFree rc false, S₁) := by
  unfold attach at h
  split at h
  next hr =>
    rw [attachFull_eq] at h
    obtain ⟨rc₁, S₂, h₁, ⟨rfl, hg⟩ | ⟨hne, rfl, rfl⟩⟩ := thenOkOpt_cases h
    · have hd : detach o w S = (.ok, S₂) := Option.some.inj h₁
      calc Leads o w a tm (.attaching, S) (enterLoops a allLoops, S₂) :=
          .single fun G hG => ⟨G.setSys S₂, by simp [waitStep, hG, hr, hd], rfl⟩
        Leads o w a tm _ _ := loops_leads allLoops afterChain_allLoops hg
    · have hd : detach o w S = (rc₁, S₂) := Option.some.inj h₁
      simp only [if_neg hne]
      exact .single fun G hG => ⟨G.setSys S₂, by simp [waitStep, hG, hr, hd, hne], rfl⟩
  next hr =>
    cases h
    exact .single fun G hG => ⟨G, by simp_all [waitStep], hG⟩

theorem exit_leads (rc : RmwRet) (cancelled : Bool) (out : SrcKind → OutArray) (active : Nat)
    (S : Sys) :
    Leads o w a tm (.exitFree rc cancelled, S)
      (.done rc, (waitExit o w rc cancelled out active S).sys) := by
  calc Leads o w a tm (.exitFree rc cancelled, S) (.exitDetach rc cancelled, S.setState w .free) :=
      .single fun G hG => ⟨G.transition w .free, rfl, by simp [hG]⟩
    Leads o w a tm _ _ :=
      .single fun G hG => ⟨if cancelled then G else G.setSys (detach o w G.sys).2, rfl, by
        cases cancelled <;> simp [waitExit, hG]⟩

theorem processing_leads (r : DdsWaitRc) (S : Sys) :
    Leads o w a tm (.processing (r = .timeout), S)
      (.done (if (processWait o S (S.waitsets w)).rc = .ok then
          waitExit o w (if r = .timeout then .timeout else .ok) true
            (fun k => (a.array k).map fun l => nullOut l ((processWait o S (S.waitsets w)).ready k))
            (processWait o S (S.waitsets w)).active S
        else waitExit o w (processWait o S (S.waitsets w)).rc false
            (fun k => (a.array k).map fun l => nullOut l ((processWait o S (S.waitsets w)).ready k))
            (processWait o S (S.waitsets w)).active S).rc,
        (if (processWait o S (S.waitsets w)).rc = .ok then
          waitExit o w (if r = .timeout then .timeout else .ok) true
            (fun k => (a.array k).map fun l => nullOut l ((processWait o S (S.waitsets w)).ready k))
            (processWait o S (S.waitsets w)).active S
        else waitExit o w (processWait o S (S.waitsets w)).rc false
            (fun k => (a.array k).map fun l => nullOut l ((processWait o S (S.waitsets w)).ready k))
            (processWait o S (S.waitsets w)).active S).sys) := by
  by_cases hp : (processWait o S (S.waitsets w)).rc = .ok
  · simp only [hp, if_true]
    calc Leads o w a tm (.processing (r = .timeout), S)
          (.exitFree (if r = .timeout then .timeout else .ok) true, S) :=
        .single fun G hG => ⟨G, by simp [waitStep, hG, hp], hG⟩
      Leads o w a tm _ _ := exit_leads _ true _ _ S
  · simp only [hp, if_false]
    calc Leads o w a tm (.processing (r = .timeout), S)
          (.exitFree (processWait o S (S.waitsets w)).rc false, S) :=
        .single fun G hG => ⟨G, by simp [waitStep, hG, hp], hG⟩
      Leads o w a tm _ _ := exit_leads _ false _ _ S

theorem release_leads (S : Sys) :
    Leads o w a tm (.ddsWait, S) (.done (waitRelease o w a S).rc, (waitRelease o w a S).sys) := by
  cases hw : o.waitRc with
  | error =>
    simp only [waitRelease, hw]
    calc Leads o w a tm (.ddsWait, S) (.exitFree .error false, S) :=
        .single fun G hG => ⟨G, by simp [waitStep, hw], hG⟩
      Leads o w a tm _ _ := exit_leads .error false a.untouched 0 S
  | ok =>
    simp only [waitRelease, hw]
    calc Leads o w a tm (.ddsWait, S) (.processing false, S.setState w .releasing) :=
        .single fun G hG => ⟨G.transition w .releasing, by simp [waitStep, hw], by simp [hG]⟩
      Leads o w a tm _ _ := processing_leads .ok _
  | timeout =>
    simp only [waitRelease, hw]
    calc Leads o w a tm (.ddsWait, S) (.processing true, S.setState w .releasing) :=
        .single fun G hG => ⟨G.transition w .releasing, by simp [waitStep, hw], by simp [hG]⟩
      Leads o w a tm _ _ := processing_leads .timeout _

theorem block_leads (S : Sys) :
    Leads o w a tm (.blocking, S)
      (.done (waitBlock o w a tm S).rc, (waitBlock o w a tm S).sys) := by
  simp only [waitBlock]
  split
  next hc =>
    calc Leads o w a tm (.blocking, S) (.exitFree .error false, S) :=
        .single fun G hG => ⟨G, by simp [waitStep, hG, hc], hG⟩
      Leads o w a tm _ _ := exit_leads .error false a.untouched 0 S
  next hc =>
    split
    next he =>
      calc Leads o w a tm (.blocking, S) (.exitFree .error false, S) :=
          .single fun G hG => ⟨G, by simp [waitStep, hG, hc, he], hG⟩
        Leads o w a tm _ _ := exit_leads .error false a.untouched 0 S
    next he =>
      split
      next hto =>
        calc Leads o w a tm (.blocking, S) (.ddsWait, S.setState w .blocked) :=
            .single fun G hG => ⟨G.transition w .blocked, by simp [waitStep, hG, hc, he, hto],
              by simp [hG]⟩
          Leads o w a tm _ _ := release_leads _
      next hto =>
        calc Leads o w a tm (.blocking, S) (.ddsWait, S.setState w .blocked) :=
            .single fun G hG => ⟨G.transition w .blocked, by simp [waitStep, hG, hc, he, hto],
              by simp [hG]⟩
          Leads o w a tm _ _ := release_leads _
      next rc hto hok =>
        calc Leads o w a tm (.blocking, S) (.exitFree rc false, S) :=
            .single fun G hG => ⟨G, by simp [waitStep, hG, hc, he, hok], hG⟩
          Leads o w a tm _ _ := exit_leads rc false a.untouched 0 S

theorem wait_leads {S : Sys} {r : WaitResult} (h : wait o w a tm S = some r) :
    Leads o w a tm (.start, S) (.done r.rc, r.sys) := by
  unfold wait at h
  split at h
  next hf =>
    obtain ⟨⟨rc₁, S₁⟩, ha, rfl⟩ := Option.map_eq_some'.mp h
    calc Leads o w a tm (.start, S) (.attaching, S.setState w .acquiring) :=
        .single fun G hG => ⟨G.transition w .acquiring, by simp [waitStep, hG, hf],
          by simp [hG]⟩
      Leads o w a tm _ (if rc₁ = .ok then .blocking else .exitFree rc₁ false, S₁) :=
        attach_leads ha
      Leads o w a tm _ _ := by
        by_cases hrc : rc₁ = .ok
        · simp only [hrc, if_true]; exact block_leads S₁
        · simp only [hrc, if_false]; exact exit_leads rc₁ false a.untouched 0 S₁
  next => cases h
  next hfree hinv =>
    cases h
    exact .single fun G hG => ⟨G, by simp only [waitStep, hG], hG⟩

end

/-- A thread that runs `wait()` alone, the engine answering each of its steps as `o`, ends where
the sequential `wait` ends: with the same return code and the same shared state, whatever the
other threads are doing (as long as they take no step). -/
theorem wait_solo {o : Oracle} {w : Nat} {a : WaitArgs} {tm : Option RmwTime} {S : Sys}
    {r : WaitResult} (h : wait o w a tm S = some r) (t : Nat) (G : World)
    (ht : G.threads t = .waiter w a tm .start) (hS : G.sys = S) :
    ∃ n G', run G (List.replicate n ⟨t, o⟩) = some G' ∧
      G'.threads t = .waiter w a tm (.done r.rc) ∧ G'.sys = r.sys :=
  wait_leads h t G ht hS

/-- One `wait()` on wait set `0` for subscription `0`, alone, from the initial state. -/
theorem wait_solo_oneSubscription :
    ∃ r, wait .allOk 0 ⟨some [0], none, none, none, none⟩ none
        (Sys.initial fun _ => ⟨.subscription 0, .other⟩) = some r ∧
      (World.init (Sys.initial fun _ => ⟨.subscription 0, .other⟩)
        [.waiter 0 ⟨some [0], none, none, none, none⟩ none .start]).threads 0 =
        .waiter 0 ⟨some [0], none, none, none, none⟩ none .start ∧
      (World.init (Sys.initial fun _ => ⟨.subscription 0, .other⟩)
        [.waiter 0 ⟨some [0], none, none, none, none⟩ none .start]).sys =
        Sys.initial (fun _ => ⟨.subscription 0, .other⟩) ∧
      ∃ n G', run (World.init (Sys.initial fun _ => ⟨.subscription 0, .other⟩)
          [.waiter 0 ⟨some [0], none, none, none, none⟩ none .start])
          (List.replicate n ⟨0, .allOk⟩) = some G' ∧
        G'.threads 0 = .waiter 0 ⟨some [0], none, none, none, none⟩ none (.done r.rc) ∧
        G'.sys = r.sys := by
  have h : wait .allOk 0 ⟨some [0], none, none, none, none⟩ none
      (Sys.initial fun _ => ⟨.subscription 0, .other⟩) = some _ := rfl
  exact ⟨_, h, rfl, rfl, wait_solo h 0 _ rfl rfl⟩

end RmwConnextdds
