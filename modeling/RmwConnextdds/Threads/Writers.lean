import RmwConnextdds.Threads.Ownership

/-! # Who writes a wait set's attached lists

`RmwConnextdds.Threads.Ownership` shows that a wait set has at most one owner and is `FREE`
exactly when it has none. Here: a step that changes a wait set's attached lists is taken by a
thread that owns it, with one exception, `wait()`'s `scope_exit_detach`, whose `detach()` runs
after `scope_exit` has already freed the wait set (`lists_written_by_owner`). The race of
`detach_after_free_clears_owned_waitset` is that exception, taken while another thread owns the
wait set.

The proof follows the step functions: one lemma per step function (`invStep_keepsLists`,
`waitStep_keepsLists`, `destroyStep_keepsLists`) says which wait set's lists the step may
change and at which program point, from the frame facts of the pieces it is made of.
-/

namespace RmwConnextdds
set_option autoImplicit false

/-! ## What the pieces of a step leave -/

namespace Sys

/-- Wait set `v`'s attached lists are the same in `S'` as in `S`. -/
def KeepsLists (S S' : Sys) (v : Nat) : Prop := (S'.waitsets v).attached = (S.waitsets v).attached

theorem keepsLists_setState (S : Sys) (w : Nat) (st : WaitSetState) (v : Nat) :
    KeepsLists S (S.setState w st) v := by
  funext k
  by_cases hv : v = w
  · subst hv; simp
  · simp [setState_waitsets_ne _ _ hv]

theorem keepsLists_detach (o : Oracle) {w v : Nat} (S : Sys) (hv : v ≠ w) :
    KeepsLists S (detach o w S).2 v := by
  simp [KeepsLists, hv]

end Sys

theorem Loop.keepsLists_locked (l : Loop) (o : Oracle) (w : Nat) (c : CondId) (d : Bool)
    (x : Nat) (S : Sys) (v : Nat) : Sys.KeepsLists S (l.locked o w c d x S).2 v := by
  simp [Sys.KeepsLists, Loop.locked_waitsets]

theorem Loop.keepsLists_push (l : Loop) {w v : Nat} (x : Nat) (S : Sys) (hv : v ≠ w) :
    Sys.KeepsLists S (l.push w x S) v := by
  cases l <;> simp [Sys.KeepsLists, Loop.push, Sys.pushAttached, hv]

/-! ## What each step may change -/

/-- A step of `invalidate()` on wait set `w` changes no lists but `w`'s, and those only in its
`detach()`. -/
theorem invStep_keepsLists {o : Oracle} {w : Nat} {c : CondId} {p : InvPc} {G G₁ : World}
    {r : InvPc ⊕ RmwRet} (h : invStep o w c p G = some (G₁, r)) (v : Nat) :
    Sys.KeepsLists G.sys G₁.sys v ∨ (v = w ∧ p = .detaching) := by
  cases p with
  | start =>
    simp only [invStep] at h
    split at h
    · cases h; exact .inl rfl
    · split at h <;> cases h
      · exact .inl (Sys.keepsLists_setState ..)
      all_goals exact .inl rfl
  | detaching =>
    cases h
    by_cases hv : v = w
    · exact .inr ⟨hv, rfl⟩
    · exact .inl (Sys.keepsLists_detach _ _ hv)
  | freeing rc => cases h; exact .inl (Sys.keepsLists_setState ..)
  | blocked e =>
    simp only [invStep] at h
    split at h <;> cases h
    exact .inl rfl

/-- A step of `wait()` on wait set `w` changes no lists but `w`'s, and those only while it owns
`w` (directly, or in a takeover's `invalidate()`) or in `scope_exit_detach`. -/
theorem waitStep_keepsLists {o : Oracle} {w : Nat} {a : WaitArgs} {tm : Option RmwTime}
    {p p' : WaitPc} {G G₁ : World} (h : waitStep o w a tm p G = some (G₁, p')) (v : Nat) :
    Sys.KeepsLists G.sys G₁.sys v ∨ (Thread.waiter w a tm p).owns v = true ∨
      ∃ rc, v = w ∧ p = .exitDetach rc false := by
  have hself : ∀ {q : WaitPc}, q.holds = true → v = w → (Thread.waiter w a tm q).owns v = true :=
    fun hq hv => by simp [Thread.owns, hq, hv]
  cases p with
  | start =>
    simp only [waitStep] at h
    split at h <;> cases h
    exacts [.inl (Sys.keepsLists_setState ..), .inl rfl, .inl rfl]
  | entering e =>
    simp only [waitStep] at h
    split at h
    · split at h <;> cases h
      exacts [.inl (Sys.keepsLists_setState ..), .inl rfl]
    · cases h
  | attaching =>
    simp only [waitStep] at h
    split at h <;> cases h
    · by_cases hv : v = w
      · exact .inr (.inl (hself rfl hv))
      · exact .inl (Sys.keepsLists_detach _ _ hv)
    · exact .inl rfl
  | turn l x xs q =>
    cases q with
    | check => cases h; exact .inl rfl
    | invalidating w' q =>
      simp only [waitStep, turnStep] at h
      obtain ⟨⟨G₂, r⟩, hinv, heq⟩ := Option.map_eq_some'.mp h
      simp only [Prod.mk.injEq] at heq
      obtain ⟨rfl, -⟩ := heq
      rcases invStep_keepsLists hinv v with hk | ⟨rfl, rfl⟩
      · exact .inl hk
      · exact .inr (.inl (by simp [Thread.owns, WaitPc.holds, WaitPc.inner, InvPc.holds]))
    | locked d => cases h; exact .inl (Loop.keepsLists_locked ..)
    | push =>
      cases h
      by_cases hv : v = w
      · exact .inr (.inl (hself rfl hv))
      · exact .inl (Loop.keepsLists_push _ _ _ hv)
  | blocking =>
    simp only [waitStep] at h
    split at h
    · cases h; exact .inl rfl
    · split at h
      · cases h; exact .inl rfl
      · split at h <;> cases h
        exacts [.inl (Sys.keepsLists_setState ..), .inl (Sys.keepsLists_setState ..), .inl rfl]
  | ddsWait =>
    simp only [waitStep] at h
    split at h <;> cases h
    exacts [.inl rfl, .inl (Sys.keepsLists_setState ..)]
  | processing timedOut => cases h; exact .inl rfl
  | exitFree rc cancelled => cases h; exact .inl (Sys.keepsLists_setState ..)
  | exitDetach rc cancelled =>
    cases h
    cases cancelled
    · by_cases hv : v = w
      · exact .inr (.inr ⟨rc, hv, rfl⟩)
      · exact .inl (Sys.keepsLists_detach _ _ hv)
    · exact .inl rfl
  | done rc => cases h

/-- A step of a source's destruction changes no lists but those of the wait set it invalidates,
and those only in that `invalidate()`'s `detach()`. -/
theorem destroyStep_keepsLists {o : Oracle} {c : CondId} {p p' : DestroyPc} {G G₁ : World}
    (h : destroyStep o c p G = some (G₁, p')) (v : Nat) :
    Sys.KeepsLists G.sys G₁.sys v ∨ (Thread.destroyer c p).owns v = true := by
  cases p with
  | start => cases h; exact .inl rfl
  | invalidating w q =>
    simp only [destroyStep] at h
    obtain ⟨⟨G₂, r⟩, hinv, heq⟩ := Option.map_eq_some'.mp h
    simp only [Prod.mk.injEq] at heq
    obtain ⟨rfl, -⟩ := heq
    rcases invStep_keepsLists hinv v with hk | ⟨rfl, rfl⟩
    · exact .inl hk
    · exact .inr (by simp [Thread.owns, InvPc.holds])
  | release => cases h; exact .inl rfl
  | done => cases h

/-! ## The owner writes the lists -/

/-- A step that changes wait set `v`'s attached lists is taken by a thread that owns `v`, or is
the `detach()` of `scope_exit_detach` in a `wait()` on `v`, which no longer owns it. -/
theorem lists_written_by_owner {G : World} {l : Label} {v : Nat}
    (h : changesLists v G l = true) :
    (G.threads l.tid).owns v = true ∨
      ∃ a tm rc, G.threads l.tid = .waiter v a tm (.exitDetach rc false) := by
  unfold changesLists at h
  split at h
  next G' hs =>
    have hch : ¬Sys.KeepsLists G.sys G'.sys v := fun hk => by
      simp only [Sys.KeepsLists] at hk; simp [hk] at h
    simp only [step] at hs
    split at hs
    · cases hs
    · next w a tm p hth =>
      obtain ⟨⟨G₁, p'⟩, hw, rfl⟩ := Option.map_eq_some'.mp hs
      rcases waitStep_keepsLists hw v with hk | ho | ⟨rc, rfl, rfl⟩
      · exact absurd hk hch
      · exact .inl (hth ▸ ho)
      · exact .inr ⟨a, tm, rc, hth⟩
    · next c p hth =>
      obtain ⟨⟨G₁, p'⟩, hd, rfl⟩ := Option.map_eq_some'.mp hs
      rcases destroyStep_keepsLists hd v with hk | ho
      · exact absurd hk hch
      · exact .inl (hth ▸ ho)
  next => cases h

/-- In the deferred-`detach()` race, the step that empties wait set `0`'s lists is the exception. -/
theorem lists_written_by_owner_detachRace :
    changesLists 0 ((run detachRace detachRaceTrace).getD detachRace) ⟨0, .allOk⟩ = true ∧
      ((((run detachRace detachRaceTrace).getD detachRace).threads 0).owns 0 = true ∨
        ∃ a tm rc, ((run detachRace detachRaceTrace).getD detachRace).threads 0 =
          .waiter 0 a tm (.exitDetach rc false)) := by
  have h : changesLists 0 ((run detachRace detachRaceTrace).getD detachRace) ⟨0, .allOk⟩ = true :=
    rfl
  exact ⟨h, lists_written_by_owner h⟩

end RmwConnextdds
