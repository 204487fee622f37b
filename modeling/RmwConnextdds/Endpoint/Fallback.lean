import RmwConnextdds.Endpoint.Rollback

/-! # Creating endpoints on an engine without content filters

`RMW_Connext_Subscriber::create` asks `rmw_connextdds_create_contentfilteredtopic` for a filtered
view of its topic when it is given a filter. Where the engine has no content filters the call
answers `RMW_RET_UNSUPPORTED`, and `create` goes on with the plain topic instead of failing.
`RMW_Connext_Client::create` asks for the filter that keeps other clients' replies out of its
reply reader (`RmwConnextdds.Endpoint.ReplyFilter`); `RMW_Connext_Service::create` asks for none.

* `endpointCreate_succeeds`: with no call failing, a client is created on every engine, with one
  content-filtered topic when the engine supports them and none otherwise, and a service is
  created without one. A client created without the filter reads every reply of the service,
  other clients' included (`RmwConnextdds.RequestReply.Protocol`).

## Proof layout

* `Succeeds s m post n`: run on an engine with no fault planned, `m` returns a value `post`
  accepts and only adds entities, `n` of them content-filtered topics. It has a `bind` rule, and
  each engine call has its own spec, from its closed form in `RmwConnextdds.Endpoint.Rollback`.
* The specs of `create` follow its `do` blocks: each step is a `Succeeds.bind`, the result a step
  returns selects the branch that goes on.
-/

namespace RmwConnextdds
set_option autoImplicit false

open Engine

def Entity.isCft : Entity → Bool
  | .cft _ => true
  | _ => false

/-- Run on an engine with no fault planned and content-filter support `s`, `m` returns a value
`post` accepts, plans no fault, keeps `s`, and only adds entities, `n` of them content-filtered
topics. -/
def Succeeds {α : Type} (s : Bool) (m : StateM Engine α) (post : α → Prop) (n : Nat) : Prop :=
  ∀ E : Engine, E.failAt = none → E.cftSupported = s →
    post (m.run E).1 ∧ (m.run E).2.failAt = none ∧ (m.run E).2.cftSupported = s ∧
      ∃ added : List Entity, (m.run E).2.live = E.live ++ added ∧ added.countP Entity.isCft = n

section Rules
variable {α β : Type} {s : Bool}

theorem Succeeds.bind {m : StateM Engine α} {f : α → StateM Engine β} {P : α → Prop}
    {Q : β → Prop} {n₁ n₂ : Nat} (h₁ : Succeeds s m P n₁) (h₂ : ∀ a, P a → Succeeds s (f a) Q n₂) :
    Succeeds s (m >>= f) Q (n₂ + n₁) := by
  intro E hE hs
  obtain ⟨hP, hE₁, hs₁, a₁, hl₁, hc₁⟩ := h₁ E hE hs
  obtain ⟨hQ, hE₂, hs₂, a₂, hl₂, hc₂⟩ := h₂ _ hP _ hE₁ hs₁
  exact ⟨hQ, hE₂, hs₂, a₁ ++ a₂, by rw [StateT.run_bind, Id.bind_eq, hl₂, hl₁, List.append_assoc],
    by rw [List.countP_append, hc₁, hc₂, Nat.add_comm]⟩

theorem Succeeds.pure {P : α → Prop} {a : α} (h : P a) : Succeeds s (Pure.pure a) P 0 :=
  fun _ hE hs => ⟨h, hE, hs, [], by simp, rfl⟩

theorem Succeeds.congr {m : StateM Engine α} {P : α → Prop} {n n' : Nat} (h : Succeeds s m P n)
    (hn : n = n') : Succeeds s m P n' :=
  hn ▸ h

end Rules

/-! ## The engine calls -/

section Calls
variable {s : Bool}

theorem attempt_succeeds : Succeeds s attempt (· = true) 0 :=
  fun E hE hs => ⟨by simp [hE], hE, hs, [], by simp, rfl⟩

theorem create_succeeds (mk : Nat → Entity) (hmk : ∀ h, (mk h).isCft = false) :
    Succeeds s (create mk) (fun o => o.isSome) 0 := fun E hE hs => by
  rw [create_run, if_neg (by simp [hE])]
  exact ⟨rfl, hE, hs, [mk E.fresh], rfl, by simp [hmk]⟩

theorem registerTypeSupport_succeeds (name : Nat) :
    Succeeds s (registerTypeSupport name) (fun o => o.isSome) 0 := fun E hE hs => by
  rw [registerTypeSupport_run, if_neg (by simp [hE])]
  split_ifs
  · exact ⟨rfl, hE, hs, [.typeSupport E.fresh], rfl, rfl⟩
  · exact ⟨rfl, hE, hs, [.typeSupport E.fresh, .typeReg name], rfl, rfl⟩

theorem assertTopic_succeeds (name : Nat) : Succeeds s (assertTopic name) (fun o => o.isSome) 0 :=
  fun E hE hs => by
  rw [assertTopic_run, if_neg (by simp [hE])]
  split_ifs
  · exact ⟨rfl, hE, hs, [], by simp, rfl⟩
  · exact ⟨rfl, hE, hs, [.topic name], rfl, rfl⟩

theorem createContentFilteredTopic_succeeds :
    Succeeds s createContentFilteredTopic (· ≠ .error) (if s then 1 else 0) := fun E hE hs => by
  rw [createContentFilteredTopic_run, hs]
  cases s
  · exact ⟨nofun, hE, hs, [], by simp, rfl⟩
  · rw [if_pos rfl, if_neg (by simp [hE])]
    exact ⟨nofun, hE, rfl, [.cft E.fresh], rfl, rfl⟩

end Calls

/-! ## Endpoints -/

section Endpoints
variable {s : Bool}

theorem publisherCreate_succeeds (typeName topicName : Nat) :
    Succeeds s (publisherCreate typeName topicName) (fun o => o.isSome) 0 := by
  refine (registerTypeSupport_succeeds typeName).bind fun r hr => ?_
  obtain ⟨⟨ts, registered⟩, rfl⟩ := Option.isSome_iff_exists.1 hr
  refine (assertTopic_succeeds topicName).bind fun c hc => ?_
  obtain ⟨created, rfl⟩ := Option.isSome_iff_exists.1 hc
  refine attempt_succeeds.bind fun b hb => ?_
  subst hb
  simp only [Bool.not_true, Bool.false_eq_true, if_false, pure_bind]
  refine (create_succeeds .writer fun _ => rfl).bind fun w hw => ?_
  obtain ⟨w, rfl⟩ := Option.isSome_iff_exists.1 hw
  refine (create_succeeds .publisher fun _ => rfl).bind fun p hp => ?_
  obtain ⟨p, rfl⟩ := Option.isSome_iff_exists.1 hp
  exact Succeeds.pure rfl

theorem subscriberCreate_succeeds (typeName topicName : Nat) (cft : Bool) :
    Succeeds s (subscriberCreate typeName topicName cft) (fun o => o.isSome)
      (if cft && s then 1 else 0) := by
  refine (registerTypeSupport_succeeds typeName).bind fun r hr => ?_
  obtain ⟨⟨ts, registered⟩, rfl⟩ := Option.isSome_iff_exists.1 hr
  refine (assertTopic_succeeds topicName).bind fun c hc => ?_
  obtain ⟨created, rfl⟩ := Option.isSome_iff_exists.1 hc
  cases cft <;> cases s <;> simp only [if_true, if_false, Bool.false_eq_true, pure_bind]
  case' true.false | true.true =>
    refine createContentFilteredTopic_succeeds.bind fun rc hrc => ?_
    cases rc
    case error => exact absurd rfl hrc
  -- The same `attempt`, DataReader and subscriber on every way past the filter.
  all_goals
    refine attempt_succeeds.bind fun b hb => ?_
    subst hb
    simp only [Bool.not_true, Bool.false_eq_true, if_false]
    refine (create_succeeds .reader fun _ => rfl).bind fun r hr => ?_
    obtain ⟨r, rfl⟩ := Option.isSome_iff_exists.1 hr
    refine (create_succeeds .subscriber fun _ => rfl).bind fun p hp => ?_
    obtain ⟨p, rfl⟩ := Option.isSome_iff_exists.1 hp
    exact Succeeds.pure rfl

theorem clientCreate_succeeds (reqType resType reqTopic resTopic : Nat) :
    Succeeds s (clientCreate reqType resType reqTopic resTopic) (fun o => o.isSome)
      (if s then 1 else 0) := by
  refine (create_succeeds .client fun _ => rfl).bind fun c hc => ?_
  obtain ⟨cl, rfl⟩ := Option.isSome_iff_exists.1 hc
  refine (publisherCreate_succeeds reqType reqTopic).bind fun p hp => ?_
  obtain ⟨pub, rfl⟩ := Option.isSome_iff_exists.1 hp
  -- The filter's name and expression.
  refine attempt_succeeds.bind fun b hb => ?_
  subst hb
  simp only [Bool.not_true, Bool.false_eq_true, if_false, pure_bind]
  refine attempt_succeeds.bind fun b hb => ?_
  subst hb
  simp only [Bool.not_true, Bool.false_eq_true, if_false, pure_bind]
  cases s
  all_goals
    refine (subscriberCreate_succeeds resType resTopic true).bind fun r hr => ?_
    obtain ⟨_, rfl⟩ := Option.isSome_iff_exists.1 hr
    exact Succeeds.pure rfl

theorem serviceCreate_succeeds (reqType resType reqTopic resTopic : Nat) :
    Succeeds s (serviceCreate reqType resType reqTopic resTopic) (fun o => o.isSome) 0 := by
  refine (create_succeeds .service fun _ => rfl).bind fun v hv => ?_
  obtain ⟨svc, rfl⟩ := Option.isSome_iff_exists.1 hv
  refine (publisherCreate_succeeds resType resTopic).bind fun p hp => ?_
  obtain ⟨_, rfl⟩ := Option.isSome_iff_exists.1 hp
  refine (subscriberCreate_succeeds reqType reqTopic false).bind fun r hr => ?_
  obtain ⟨_, rfl⟩ := Option.isSome_iff_exists.1 hr
  exact Succeeds.pure rfl

end Endpoints

/-- With no call failing, `RMW_Connext_Client::create` succeeds on every engine, adding exactly
one content-filtered topic where the engine supports content filters and none where it does not:
its reply reader then reads the plain reply topic. `RMW_Connext_Service::create` succeeds and adds
none. -/
theorem endpointCreate_succeeds (reqType resType reqTopic resTopic : Nat) (E : Engine)
    (hE : E.failAt = none) :
    ((clientCreate reqType resType reqTopic resTopic).run E).1.isSome ∧
      (∃ added : List Entity,
        ((clientCreate reqType resType reqTopic resTopic).run E).2.live = E.live ++ added ∧
          added.countP Entity.isCft = if E.cftSupported then 1 else 0) ∧
      ((serviceCreate reqType resType reqTopic resTopic).run E).1.isSome ∧
      ∃ added : List Entity,
        ((serviceCreate reqType resType reqTopic resTopic).run E).2.live = E.live ++ added ∧
          added.countP Entity.isCft = 0 := by
  obtain ⟨hc, -, -, hcl⟩ := clientCreate_succeeds reqType resType reqTopic resTopic E hE rfl
  obtain ⟨hs, -, -, hsv⟩ := serviceCreate_succeeds reqType resType reqTopic resTopic E hE rfl
  exact ⟨hc, hcl, hs, hsv⟩

end RmwConnextdds
