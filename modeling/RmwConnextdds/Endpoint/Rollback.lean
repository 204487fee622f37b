import RmwConnextdds.Endpoint.Create

/-! # Rolling back a failed publisher or subscriber creation

`RMW_Connext_Publisher::create` registers a scope guard after each step that creates something:
`scope_exit_type_unregister` after the type registration, `scope_exit_topic_delete` after the
topic, `scope_exit_dds_writer_delete` after the DataWriter. A failure runs the guards registered so
far, the latest first. `publisherCreate_failure_releases` shows that they take back everything the
call created: from any live entities and whichever engine call or allocation fails, a `create`
that returns `nullptr` leaves the entities it found, up to order. A type registration or a topic
that was there before is left alone.

`RMW_Connext_Subscriber::create` has the same guards with two differences: its type guard does not
delete the type support object, and its topic guard is registered while `cft_topic` is still
`nullptr`. `subscriberCreate_failure_leaks` bounds what a failure leaves behind by exactly these
two entities, and shows the first is left on every failure past the type registration.

## Proof layout

* Each engine call has a closed form (`create_run`, `registerTypeSupport_run`, ...), from which
  small lemmas say what it adds to the live entities (`create_live`, `registerTypeSupport_live`,
  ...).
* `Undoes g added` says that the clean-up `g` takes back `added`; guards compose with
  `Undoes.seq`, the later guard first, as C++ runs them.
-/

namespace RmwConnextdds
set_option autoImplicit false

open Engine

namespace Engine

@[simp] theorem attempt_run (E : Engine) :
    attempt.run E = (E.failAt != some E.calls, { E with calls := E.calls + 1 }) := rfl

@[simp] theorem add_run (e : Entity) (E : Engine) :
    (add e).run E = ((), { E with live := E.live ++ [e] }) := rfl

@[simp] theorem kill_run (e : Entity) (E : Engine) :
    (kill e).run E = ((), { E with live := E.live.erase e }) := rfl

@[simp] theorem isLive_run (e : Entity) (E : Engine) : (isLive e).run E = (E.live.contains e, E) :=
  rfl

/-- A creating call in closed form: it fails when the fault plan says so, and otherwise takes the
next fresh handle. -/
theorem create_run (mk : Nat → Entity) (E : Engine) :
    (create mk).run E =
      if E.failAt = some E.calls then (none, { E with calls := E.calls + 1 })
      else (some E.fresh,
        { E with calls := E.calls + 1, fresh := E.fresh + 1, live := E.live ++ [mk E.fresh] }) := by
  by_cases h : E.failAt = some E.calls <;> simp [create, h]

end Engine

/-- `register_type_support` in closed form. -/
theorem registerTypeSupport_run (name : Nat) (E : Engine) :
    (registerTypeSupport name).run E =
      if E.failAt = some E.calls then (none, { E with calls := E.calls + 1 })
      else if Entity.typeReg name ∈ E.live then (some (E.fresh, false),
        { E with calls := E.calls + 1, fresh := E.fresh + 1, live := E.live ++ [.typeSupport E.fresh] })
      else (some (E.fresh, true),
        { E with calls := E.calls + 1, fresh := E.fresh + 1,
                 live := E.live ++ [.typeSupport E.fresh, .typeReg name] }) := by
  by_cases h : E.failAt = some E.calls <;>
  by_cases hr : Entity.typeReg name ∈ E.live <;> simp [registerTypeSupport, create_run, h, hr]

theorem assertTopic_run (name : Nat) (E : Engine) :
    (assertTopic name).run E =
      if E.failAt = some E.calls then (none, { E with calls := E.calls + 1 })
      else if Entity.topic name ∈ E.live then (some false, { E with calls := E.calls + 1 })
      else (some true, { E with calls := E.calls + 1, live := E.live ++ [.topic name] }) := by
  by_cases h : E.failAt = some E.calls <;>
  by_cases hr : Entity.topic name ∈ E.live <;> simp [assertTopic, h, hr]

theorem createContentFilteredTopic_run (E : Engine) :
    createContentFilteredTopic.run E =
      if E.cftSupported then
        if E.failAt = some E.calls then (.error, { E with calls := E.calls + 1 })
        else (.ok E.fresh,
          { E with calls := E.calls + 1, fresh := E.fresh + 1, live := E.live ++ [.cft E.fresh] })
      else (.unsupported, E) := by
  by_cases hs : E.cftSupported <;> by_cases h : E.failAt = some E.calls <;>
    simp [createContentFilteredTopic, create_run, hs, h]

theorem attempt_live (E : Engine) : (attempt.run E).2.live = E.live := rfl

/-- A creating call adds the entity it returns, and nothing when it fails. -/
theorem create_live (mk : Nat → Entity) (E : Engine) :
    ((create mk).run E).2.live = E.live ++ (((create mk).run E).1.map mk).toList := by
  rw [create_run]; split <;> simp

/-- `register_type_support` adds the type support object, and the type registration when it made
one. -/
theorem registerTypeSupport_live (name : Nat) (E : Engine) :
    ((registerTypeSupport name).run E).2.live = E.live ++
      match ((registerTypeSupport name).run E).1 with
      | none => []
      | some (ts, registered) => .typeSupport ts :: if registered then [.typeReg name] else [] := by
  rw [registerTypeSupport_run]; split_ifs <;> simp

theorem assertTopic_live (name : Nat) (E : Engine) :
    ((assertTopic name).run E).2.live = E.live ++
      if ((assertTopic name).run E).1 = some true then [.topic name] else [] := by
  rw [assertTopic_run]; split_ifs <;> simp_all

theorem registerTypeSupport_fresh (name : Nat) (E : Engine) (ts : Nat) (reg : Bool)
    (h : ((registerTypeSupport name).run E).1 = some (ts, reg)) :
    ts = E.fresh ∧ ((registerTypeSupport name).run E).2.fresh = E.fresh + 1 := by
  rw [registerTypeSupport_run] at h ⊢
  split_ifs at h ⊢ <;> simp_all

theorem registerTypeSupport_none (name : Nat) (E : Engine) :
    ((registerTypeSupport name).run E).1 = none ↔ E.failAt = some E.calls := by
  rw [registerTypeSupport_run]; split_ifs <;> simp_all

theorem assertTopic_fresh (name : Nat) (E : Engine) :
    ((assertTopic name).run E).2.fresh = E.fresh := by
  rw [assertTopic_run]; split_ifs <;> rfl

theorem createContentFilteredTopic_live (E : Engine) :
    (createContentFilteredTopic.run E).2.live = E.live ++
      match (createContentFilteredTopic.run E).1 with
      | .ok h => [.cft h]
      | _ => [] := by
  rw [createContentFilteredTopic_run]; split_ifs <;> simp

theorem createContentFilteredTopic_ok (E : Engine) (h : Nat)
    (hok : (createContentFilteredTopic.run E).1 = .ok h) : h = E.fresh := by
  rw [createContentFilteredTopic_run] at hok
  split_ifs at hok
  exact (CftRc.ok.inj hok).symm

/-! ## Clean-up actions -/

/-- The clean-up `g` takes back `added`: run where the live entities are some `l` and `added`, in
any order, it leaves `l`. -/
def Undoes (g : StateM Engine Unit) (added : List Entity) : Prop :=
  ∀ (E : Engine) (l : List Entity), E.live.Perm (l ++ added) → ((g.run E).2.live).Perm l

theorem undoes_pure : Undoes (pure ()) [] := fun E l h => by simpa using h

theorem undoes_kill (e : Entity) : Undoes (kill e) [e] := fun E l h => by
  simpa using (h.erase e).trans ((List.perm_append_singleton e l).erase e)

/-- Running `g₁` then `g₂` takes back what `g₂` does and, before it, what `g₁` does. -/
theorem Undoes.seq {g₁ g₂ : StateM Engine Unit} {a₁ a₂ : List Entity} (h₁ : Undoes g₁ a₁)
    (h₂ : Undoes g₂ a₂) : Undoes (do g₁; g₂) (a₂ ++ a₁) := fun E l h => by
  simp only [StateT.run_bind, Id.bind_eq]
  exact h₂ _ _ (h₁ _ _ (by simpa using h))

theorem pubTypeExit_undoes (registered : Bool) (name ts : Nat) :
    Undoes (pubTypeExit registered name ts)
      (.typeSupport ts :: if registered then [.typeReg name] else []) := by
  cases registered
  · exact undoes_pure.seq (undoes_kill _)
  · exact (undoes_kill _).seq (undoes_kill _)

theorem pubTopicExit_undoes (created : Bool) (name : Nat) :
    Undoes (pubTopicExit created name) (if created then [.topic name] else []) := by
  cases created
  · exact undoes_pure
  · exact undoes_kill _

theorem subTypeExit_undoes (registered : Bool) (name : Nat) :
    Undoes (subTypeExit registered name) (if registered then [.typeReg name] else []) := by
  cases registered
  · exact undoes_pure
  · exact undoes_kill _

theorem subTopicExit_undoes (created : Bool) (name : Nat) :
    Undoes (subTopicExit created name none) (if created then [.topic name] else []) := by
  cases created
  · exact undoes_pure
  · exact undoes_kill _

/-! ## `RMW_Connext_Publisher::create` -/

/-- Whatever was live and whichever call fails, a `RMW_Connext_Publisher::create` that returns
`nullptr` leaves the live entities it found, up to order: its guards delete the DataWriter, the
topic it created, the type registration it made and the type support object. -/
theorem publisherCreate_failure_releases (t n : Nat) (E : Engine) :
    ((publisherCreate t n).run E).1 = none →
      List.Perm ((publisherCreate t n).run E).2.live E.live := by
  have hreg := registerTypeSupport_live t E
  simp only [publisherCreate, StateT.run_bind, Id.bind_eq]
  rcases hr : StateT.run (registerTypeSupport t) E with ⟨_ | ⟨ts, reg⟩, E₁⟩ <;>
    simp only [hr, List.append_nil] at hreg
  case mk.none => simp [hreg]
  have htop := assertTopic_live n E₁
  simp only [StateT.run_bind, Id.bind_eq]
  rcases ht : StateT.run (assertTopic n) E₁ with ⟨_ | created, E₂⟩ <;>
    simp only [ht, List.append_nil] at htop
  case mk.none =>
    intro
    exact pubTypeExit_undoes reg t ts _ _ (by simp [hreg, htop])
  have hq := attempt_live E₂
  simp only [StateT.run_bind, Id.bind_eq]
  rcases hb : StateT.run attempt E₂ with ⟨_ | _, E₃⟩ <;> simp only [hb] at hq
  case mk.false =>
    intro
    exact (pubTopicExit_undoes created n).seq (pubTypeExit_undoes reg t ts) _ _
      (by simp [hreg, htop, hq])
  have hw := create_live .writer E₃
  simp only [Bool.not_true, Bool.false_eq_true, if_false, StateT.run_bind, StateT.run_pure,
    Id.bind_eq]
  rcases hwr : StateT.run (create .writer) E₃ with ⟨_ | w, E₄⟩ <;> simp only [hwr] at hw
  case mk.none =>
    intro
    exact (pubTopicExit_undoes created n).seq (pubTypeExit_undoes reg t ts) _ _
      (by simp [hreg, htop, hq, hw])
  have hp := create_live .publisher E₄
  simp only [StateT.run_bind, Id.bind_eq]
  rcases hpr : StateT.run (create .publisher) E₄ with ⟨_ | p, E₅⟩ <;> simp only [hpr] at hp
  case mk.none =>
    intro
    exact ((undoes_kill _).seq (pubTopicExit_undoes created n)).seq (pubTypeExit_undoes reg t ts)
      _ _ (by simp [hreg, htop, hq, hw, hp])
  case mk.some => simp

/-- With the type registered by another endpoint, a creation whose DataWriter fails (the fourth
call) deletes its type support object and the topic it created, and keeps the registration. -/
theorem publisherCreate_failure_releases_writer :
    ((publisherCreate 0 10).run ⟨[.typeReg 0], 0, 0, some 3, true⟩).1 = none ∧
      List.Perm ((publisherCreate 0 10).run ⟨[.typeReg 0], 0, 0, some 3, true⟩).2.live
        [.typeReg 0] :=
  ⟨rfl, publisherCreate_failure_releases 0 10 _ rfl⟩

/-! ## `RMW_Connext_Subscriber::create` -/

/-- Whatever was live and whichever call fails, a `RMW_Connext_Subscriber::create` that returns
`nullptr` leaves the live entities it found plus at most its type support object and its
content-filtered topic, and the type support object whenever the type registration succeeded:
its type guard does not delete it, and its topic guard captured `cft_topic` as `nullptr`. -/
theorem subscriberCreate_failure_leaks (t n : Nat) (cft : Bool) (E : Engine) :
    ((subscriberCreate t n cft).run E).1 = none → ∃ leaked : List Entity,
      List.Perm ((subscriberCreate t n cft).run E).2.live (E.live ++ leaked) ∧
        leaked.Sublist [.typeSupport E.fresh, .cft (E.fresh + 1)] ∧
        (E.failAt ≠ some E.calls → .typeSupport E.fresh ∈ leaked) := by
  have hreg := registerTypeSupport_live t E
  have hfr := registerTypeSupport_fresh t E
  simp only [subscriberCreate, StateT.run_bind, Id.bind_eq]
  rcases hr : StateT.run (registerTypeSupport t) E with ⟨_ | ⟨ts, reg⟩, E₁⟩ <;>
    simp only [hr, List.append_nil] at hreg hfr
  case mk.none =>
    intro
    have := (registerTypeSupport_none t E).mp (by rw [hr])
    exact ⟨[], by simp [hreg], List.nil_sublist _, fun h => absurd this h⟩
  obtain ⟨rfl, hfr₁⟩ := hfr ts reg rfl
  -- Past the type registration, every failure leaks the type support object and `leak`.
  have leaves : ∀ (leak : List Entity) (E' : Engine), leak.Sublist [.cft (E.fresh + 1)] →
      E'.live.Perm (E.live ++ .typeSupport E.fresh :: leak) → ∃ leaked : List Entity,
        E'.live.Perm (E.live ++ leaked) ∧ leaked.Sublist [.typeSupport E.fresh, .cft (E.fresh + 1)] ∧
        (E.failAt ≠ some E.calls → .typeSupport E.fresh ∈ leaked) :=
    fun leak _ hl h => ⟨_, h, hl.cons₂ _, fun _ => List.mem_cons_self _ _⟩
  have htop := assertTopic_live n E₁
  have hfr₂ := assertTopic_fresh n E₁
  simp only [StateT.run_bind, Id.bind_eq]
  rcases ht : StateT.run (assertTopic n) E₁ with ⟨_ | created, E₂⟩ <;>
    simp only [ht, List.append_nil, Option.some.injEq] at htop hfr₂
  case mk.none =>
    intro
    exact leaves [] _ (List.nil_sublist _) (subTypeExit_undoes reg t _ _ (by simp [hreg, htop]))
  have hbase : ∀ leak : List Entity, (E₂.live ++ leak).Perm ((E.live ++ .typeSupport E.fresh :: leak) ++
      ((if reg then [.typeReg t] else []) ++ if created then [.topic n] else [])) := fun leak => by
    rw [htop, hreg]
    simp only [List.append_assoc, List.cons_append]
    refine (List.Perm.cons _ ?_).append_left _
    rw [← List.append_assoc]
    exact List.perm_append_comm
  have guards := (subTopicExit_undoes created n).seq (subTypeExit_undoes reg t)
  simp only [StateT.run_bind, Id.bind_eq]
  -- The content filter, if there is one, leaves `leak` live on top of `E₂`; the rest of
  -- `create` is the same code for all three ways past it.
  cases cft
  case' false =>
    simp only [Bool.false_eq_true, if_false]
    generalize hE : E₂ = E₃
    obtain ⟨leak, hE₃, hl⟩ : ∃ leak : List Entity, E₃.live = E₂.live ++ leak ∧
        leak.Sublist [.cft (E.fresh + 1)] := ⟨[], by simp [hE], List.nil_sublist _⟩
  case' true =>
    simp only [if_true, StateT.run_bind, Id.bind_eq]
    have hc := createContentFilteredTopic_live E₂
    have hh := createContentFilteredTopic_ok E₂
    rcases hcr : StateT.run createContentFilteredTopic E₂ with ⟨_ | _ | _, E₃⟩ <;>
      simp only [hcr] at hc hh
  case true.mk.error =>
    intro
    exact leaves [] _ (List.nil_sublist _) (guards _ _ (by simpa [hc] using hbase []))
  case' true.mk.ok h =>
    obtain ⟨leak, hE₃, hl⟩ : ∃ leak : List Entity, E₃.live = E₂.live ++ leak ∧
        leak.Sublist [.cft (E.fresh + 1)] := ⟨_, hc, by simp [hh _ rfl, hfr₂, hfr₁]⟩
  case' true.mk.unsupported =>
    obtain ⟨leak, hE₃, hl⟩ : ∃ leak : List Entity, E₃.live = E₂.live ++ leak ∧
        leak.Sublist [.cft (E.fresh + 1)] := ⟨_, hc, List.nil_sublist _⟩
  all_goals
    simp only [StateT.run_bind, Id.bind_eq, StateT.run_pure]
    have hq := attempt_live E₃
    rcases hb : StateT.run attempt E₃ with ⟨_ | _, E₄⟩ <;> simp only [hb] at hq
    case mk.false =>
      intro
      exact leaves leak _ hl (guards _ _ (by simpa [hq, hE₃] using hbase leak))
    have hw := create_live .reader E₄
    simp only [Bool.not_true, Bool.false_eq_true, if_false, StateT.run_bind, StateT.run_pure,
      Id.bind_eq]
    rcases hwr : StateT.run (create .reader) E₄ with ⟨_ | r, E₅⟩ <;> simp only [hwr] at hw
    case mk.none =>
      intro
      exact leaves leak _ hl (guards _ _ (by simpa [hw, hq, hE₃] using hbase leak))
    have hp := create_live .subscriber E₅
    simp only [StateT.run_bind, Id.bind_eq]
    rcases hpr : StateT.run (create .subscriber) E₅ with ⟨_ | p, E₆⟩ <;> simp only [hpr] at hp
    case mk.none =>
      intro
      exact leaves leak _ hl (((undoes_kill _).seq guards) _ _
        (by simpa [hp, hw, hq, hE₃] using (hbase leak).append_right _))
    case mk.some => simp

/-- A content-filtered subscription whose DataReader fails (the fifth call) leaks its type support
object and its content-filtered topic. -/
theorem subscriberCreate_failure_leaks_reader :
    ((subscriberCreate 0 10 true).run ⟨[], 0, 0, some 4, true⟩).1 = none ∧
      ∃ leaked : List Entity,
        List.Perm ((subscriberCreate 0 10 true).run ⟨[], 0, 0, some 4, true⟩).2.live leaked ∧
          leaked.Sublist [.typeSupport 0, .cft 1] ∧ .typeSupport 0 ∈ leaked := by
  obtain ⟨leaked, hp, hs, hm⟩ :=
    subscriberCreate_failure_leaks 0 10 true ⟨[], 0, 0, some 4, true⟩ rfl
  exact ⟨rfl, leaked, hp, hs, hm nofun⟩

end RmwConnextdds
