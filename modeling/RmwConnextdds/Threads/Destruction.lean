import RmwConnextdds.Threads.Step

/-! # Destroying a source while a thread waits on it

The sources a step dereferences (`reads`), the two requirements a destruction has to meet
before the wait set can promise anything (`invalidate()` entered on a `FREE` or `ACQUIRING` wait
set, no source handed to a `wait()` that starts after its destruction began), and checks over
every step of a run (`everyStep`) or some step of it (`someStep`).

`invalidate()` decides with `is_attached()`, which scans the attached lists. `attach()` sets a
condition's `attached_waitset` in the locked block and appends the source to its list only after
the lock is released. A destruction that enters `invalidate()` between the two finds nothing
attached, returns `RMW_RET_OK`, and the source is freed; `attach()` then appends it, and
`process_wait()` reads it.
-/

namespace RmwConnextdds
set_option autoImplicit false

/-! ## What a step dereferences -/

/-- The sources `is_attached()` or `detach()` on wait set `w` dereferences. -/
def invReads (G : World) (w : Nat) : InvPc → List CondId
  | .start | .detaching | .blocked _ => (G.sys.waitsets w).attachedConds
  | .freeing _ => []

/-- The sources a step of `wait()`, `attach()`, `process_wait()`, `is_attached()` or `detach()`
dereferences: the condition of the turn's entry, or every attached source for a scan. -/
def reads (G : World) (t : Nat) : List CondId :=
  match G.threads t with
  | .waiter w a _ p =>
    match p with
    | .attaching =>
      if refreshAttach (G.sys.waitsets w) a then (G.sys.waitsets w).attachedConds else []
    | .turn l x _ .check | .turn l x _ (.locked _) => [l.cond G.sys x]
    | .turn _ _ _ (.invalidating w' q) => invReads G w' q
    | .processing _ => (G.sys.waitsets w).attachedConds
    | .exitDetach _ false => (G.sys.waitsets w).attachedConds
    | _ => []
  | .destroyer _ (.invalidating w q) => invReads G w q
  | _ => []

/-- The step of thread `l.tid` dereferences a source that has been freed. -/
def readsFreed (G : World) (l : Label) : Bool := (reads G l.tid).any (· ∈ G.freed)

/-! ## The requirements on destructions -/

def WaitArgs.conds (S : Sys) (a : WaitArgs) : List CondId :=
  (a.elems .subscription).map .subscriber ++ (a.elems .guardCondition).map .guard ++
    (a.elems .client).map .client ++ (a.elems .service).map .service ++
    (a.elems .event).map fun e => (S.events e).condition

/-- A destruction enters the wait set's `invalidate()` only while the wait set is `FREE` or
`ACQUIRING`. -/
def invalidateEnteredFreeOrAcquiring (G : World) (l : Label) : Bool :=
  match G.threads l.tid with
  | .destroyer _ (.invalidating w .start) =>
    match (G.sys.waitsets w).state with
    | .free | .acquiring => true
    | _ => false
  | _ => true

/-- A `wait()` starts only with sources whose destruction has not begun. -/
def noWaitOnDestroyed (G : World) (l : Label) : Bool :=
  match G.threads l.tid with
  | .waiter _ a _ .start => (a.conds G.sys).all (· ∉ G.destroying)
  | _ => true

/-! ## Checks over a run -/

/-- `P` holds before every step of the run. -/
def everyStep (P : World → Label → Bool) : World → List Label → Bool
  | _, [] => true
  | G, l :: ls => P G l && match step G l with
    | some G' => everyStep P G' ls
    | none => true

/-- `P` holds before some step of the run. -/
def someStep (P : World → Label → Bool) : World → List Label → Bool
  | _, [] => false
  | G, l :: ls => P G l || match step G l with
    | some G' => someStep P G' ls
    | none => false

@[simp] theorem run_nil (G : World) : run G [] = some G := rfl

theorem run_cons (G : World) (l : Label) (ls : List Label) :
    run G (l :: ls) = (step G l).bind fun G' => run G' ls := rfl

theorem someStep_iff (P : World → Label → Bool) (G : World) (ls : List Label) :
    someStep P G ls = true ↔
      ∃ ls₁ l ls₂ G₁, ls = ls₁ ++ l :: ls₂ ∧ run G ls₁ = some G₁ ∧ P G₁ l = true := by
  induction ls generalizing G with
  | nil => simp [someStep]
  | cons l ls ih =>
    simp only [someStep, Bool.or_eq_true]
    constructor
    · rintro (hP | hs)
      · exact ⟨[], l, ls, G, rfl, rfl, hP⟩
      · cases hG : step G l with
        | none => simp [hG] at hs
        | some G' =>
          obtain ⟨ls₁, l', ls₂, G₁, rfl, hr, hP⟩ := (ih G').mp (by simpa [hG] using hs)
          exact ⟨l :: ls₁, l', ls₂, G₁, rfl, by simp [run_cons, hG, hr], hP⟩
    · rintro ⟨ls₁, l', ls₂, G₁, hls, hr, hP⟩
      cases ls₁ with
      | nil =>
        obtain ⟨rfl, rfl⟩ := List.cons.inj hls
        cases hr
        exact .inl hP
      | cons l₀ ls₁ =>
        obtain ⟨rfl, rfl⟩ := List.cons.inj hls
        cases hG : step G l with
        | none => simp [run_cons, hG] at hr
        | some G' =>
          refine .inr ?_
          simp only [hG]
          exact (ih G').mpr ⟨ls₁, l', ls₂, G₁, rfl, by simpa [run_cons, hG] using hr, hP⟩

theorem everyStep_iff (P : World → Label → Bool) (G : World) (ls : List Label) :
    everyStep P G ls = true ↔
      ∀ ls₁ l ls₂, ls = ls₁ ++ l :: ls₂ → ∀ G₁, run G ls₁ = some G₁ → P G₁ l = true := by
  have h : everyStep P G ls = !someStep (fun G l => !P G l) G ls := by
    induction ls generalizing G with
    | nil => rfl
    | cons l ls ih =>
      simp only [everyStep, someStep, Bool.not_or, Bool.not_not]
      cases step G l <;> simp [ih]
  rw [h, Bool.not_eq_true', ← Bool.not_eq_true, someStep_iff]
  simp

/-! ## The race -/

/-- Thread `0` waits on wait set `0` for subscription `0`; thread `1` destroys that
subscription. -/
def destroyRace : World :=
  World.init (Sys.initial fun _ => ⟨.subscription 0, .other⟩)
    [.waiter 0 ⟨some [0], none, none, none, none⟩ none .start, .destroyer (.subscriber 0) .start]

/-- The interleaving: `wait()` takes the wait set and runs `attach()` up to the subscription's
`push_back`; the destruction runs to the end (its `invalidate()` finds nothing attached); then
`wait()` appends the subscription, blocks, and demultiplexes. All engine calls succeed. -/
def destroyRaceTrace : List Label :=
  [0, 0, 0, 0, 1, 1, 1, 0, 0, 0, 0].map fun t => ⟨t, .allOk⟩

/-- With both requirements met, `process_wait()` dereferences the freed subscription. -/
theorem wait_reads_destroyed_source :
    ∃ G, run destroyRace destroyRaceTrace = some G ∧
      everyStep invalidateEnteredFreeOrAcquiring destroyRace destroyRaceTrace = true ∧
      everyStep noWaitOnDestroyed destroyRace destroyRaceTrace = true ∧
      someStep readsFreed destroyRace destroyRaceTrace = true :=
  ⟨_, rfl, rfl, rfl, rfl⟩

end RmwConnextdds
