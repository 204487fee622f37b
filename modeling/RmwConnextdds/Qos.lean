import Mathlib.Algebra.Group.Int
import RmwConnextdds.WaitSet.Wait

/-! # Endpoint QoS: from a ROS profile to the engine's policies and back

`rmw_connextdds_get_readerwriter_qos` writes a ROS QoS profile into the DDS policies of a
DataWriter or DataReader: the history kind and depth, the reliability and durability kinds, the
deadline period and the liveliness lease duration when they are nonzero, the liveliness kind,
the lifespan of a writer, and the resource limits the history depth needs. Each `switch` sends a
value it does not name to an error. `rmw_connextdds_readerwriter_qos_to_ros` reads the policies
back into a profile.

The durations are copied by two casts, `static_cast<DDS_Long>` of the seconds and
`static_cast<DDS_UnsignedLong>` of the nanoseconds, where the wait path's
`rmw_connextdds_duration_from_ros_time` first rejects a duration that does not fit.

Which profiles are rejected, and with which error, does not depend on the policies written into:
`getReaderwriterQos_check` reads it off `qosCheck`, the checks in the order the code makes them.

## Transcription choices

* A policy kind of `rmw_qos_profile_t` is the enumerators its `switch` names plus `unknown`,
  which stands for every other value (the `default:` branch). A DDS kind is the DDS standard's
  enumerators, so `readerwriter_qos_to_ros`'s `default:` branches are reachable only for the
  durability kinds `TRANSIENT` and `PERSISTENT` and the liveliness kind `MANUAL_BY_PARTICIPANT`.
* The policies are one flat record, `DdsEndpointQos`; its `lifespan` is the `lifespan` argument:
  `none` is `nullptr` (a reader). The build is Connext Professional with lifespan support.
* An error return is `Except.error` naming the check that failed; the policies written before
  it are left out, since the caller reads nothing but the return code then.
* `static_cast<DDS_Long>` of a `uint64_t` keeps the value modulo 2^32 read as a signed number
  (C++20, and what compilers did before); a `DDS_Long` assigned to a `uint64_t` is the value
  modulo 2^64, a `DDS_UnsignedLong` the value itself, and `(uint32_t)` of a `DDS_Long` the value
  modulo 2^32.
* `readerwriter_qos_to_ros`'s `nullptr != history` test is left out: both callers pass the
  endpoint's history policy.
* A `DDS_Duration_t` denotes a length in nanoseconds, `DdsDuration.nanos`, except
  `DDS_DURATION_INFINITE`, which the engine reads as no limit (the file sets it as the
  reliability's `max_blocking_time` and as the default timeout of a wait): its length is `none`.
-/

namespace RmwConnextdds
set_option autoImplicit false

deriving instance DecidableEq for RmwTime
deriving instance DecidableEq for DdsDuration

/-! ## Casts -/

/-- `static_cast<DDS_Long>` of a `uint64_t`. -/
def toDdsLong (x : UInt64) : Int :=
  if x.toNat % 2 ^ 32 < 2 ^ 31 then x.toNat % 2 ^ 32 else x.toNat % 2 ^ 32 - 2 ^ 32

/-- `static_cast<DDS_UnsignedLong>` of a `uint64_t`. -/
def toDdsUnsignedLong (x : UInt64) : Nat := x.toNat % 2 ^ 32

/-- A `DDS_Long` assigned to a `uint64_t`. -/
def ofDdsLong (x : Int) : UInt64 := UInt64.ofNat (x % 2 ^ 64).toNat

/-- The nanoseconds `sec * 10^9 + nsec` a `rmw_time_t` denotes. -/
def RmwTime.nanos (t : RmwTime) : Nat := t.sec.toNat * 1000000000 + t.nsec.toNat

/-- `DDS_DURATION_INFINITE`. -/
def ddsDurationInfinite : DdsDuration := ⟨2147483647, 2147483647⟩

/-- The length in nanoseconds a `DDS_Duration_t` denotes, `sec * 10^9 + nanosec`, and none for
`DDS_DURATION_INFINITE`, which the engine reads as no limit. -/
def DdsDuration.nanos (d : DdsDuration) : Option Int :=
  if d = ddsDurationInfinite then none else some (d.sec * 1000000000 + d.nanosec)

theorem DdsDuration.nanos_eq_some_iff (d : DdsDuration) (n : Int) :
    d.nanos = some n ↔ d ≠ ddsDurationInfinite ∧ d.sec * 1000000000 + d.nanosec = n := by
  unfold DdsDuration.nanos
  split_ifs <;> simp [*]

/-- A `rmw_time_t` that `DDS_Duration_t` can hold: what `rmw_connextdds_duration_from_ros_time`
accepts. -/
def RmwTime.Fits (t : RmwTime) : Prop := t.sec.toNat ≤ 2147483647 ∧ t.nsec.toNat ≤ 4294967295

instance (t : RmwTime) : Decidable t.Fits := inferInstanceAs (Decidable (_ ∧ _))

/-- The two casts that copy a `rmw_time_t` into a `DDS_Duration_t`. -/
def castDuration (t : RmwTime) : DdsDuration := ⟨toDdsLong t.sec, toDdsUnsignedLong t.nsec⟩

/-- A `rmw_time_t` that the two casts copy onto the bit pattern of `DDS_DURATION_INFINITE`. -/
def RmwTime.CastsToInfinite (t : RmwTime) : Prop := castDuration t = ddsDurationInfinite

instance (t : RmwTime) : Decidable t.CastsToInfinite := inferInstanceAs (Decidable (_ = _))

/-- The two assignments that copy a `DDS_Duration_t` into a `rmw_time_t`. -/
def durationToRos (d : DdsDuration) : RmwTime := ⟨ofDdsLong d.sec, UInt64.ofNat d.nanosec⟩

/-- `DDS_LENGTH_UNLIMITED`. -/
def ddsLengthUnlimited : Int := -1

/-! ## The profile and the policies -/

/-- `rmw_qos_history_policy_e`. -/
inductive HistoryPolicy
  | systemDefault
  | keepLast
  | keepAll
  | unknown
  deriving DecidableEq, Repr

/-- `rmw_qos_reliability_policy_e`. -/
inductive ReliabilityPolicy
  | systemDefault
  | reliable
  | bestEffort
  | unknown
  deriving DecidableEq, Repr

/-- `rmw_qos_durability_policy_e`. -/
inductive DurabilityPolicy
  | systemDefault
  | transientLocal
  | volatile
  | unknown
  deriving DecidableEq, Repr

/-- `rmw_qos_liveliness_policy_e`. -/
inductive LivelinessPolicy
  | systemDefault
  | automatic
  | manualByTopic
  | unknown
  deriving DecidableEq, Repr

/-- The fields of `rmw_qos_profile_t` the two conversions read and write. -/
structure RmwQosProfile where
  history : HistoryPolicy
  depth : UInt64
  reliability : ReliabilityPolicy
  durability : DurabilityPolicy
  deadline : RmwTime
  lifespan : RmwTime
  liveliness : LivelinessPolicy
  livelinessLeaseDuration : RmwTime
  deriving DecidableEq

/-- `RMW_QOS_POLICY_DEPTH_SYSTEM_DEFAULT`. -/
def rmwQosPolicyDepthSystemDefault : UInt64 := 0

/-- `DDS_HistoryQosPolicyKind`. -/
inductive DdsHistoryKind
  | keepLast
  | keepAll
  deriving DecidableEq, Repr

/-- `DDS_ReliabilityQosPolicyKind`. -/
inductive DdsReliabilityKind
  | bestEffort
  | reliable
  deriving DecidableEq, Repr

/-- `DDS_DurabilityQosPolicyKind`. -/
inductive DdsDurabilityKind
  | volatile
  | transientLocal
  | transient
  | persistent
  deriving DecidableEq, Repr

/-- `DDS_LivelinessQosPolicyKind`. -/
inductive DdsLivelinessKind
  | automatic
  | manualByParticipant
  | manualByTopic
  deriving DecidableEq, Repr

/-- The DDS policies the two conversions read and write: `history`, `reliability`,
`durability`, `deadline`, `liveliness`, `resource_limits` and `lifespan`. -/
structure DdsEndpointQos where
  historyKind : DdsHistoryKind
  historyDepth : Int
  reliabilityKind : DdsReliabilityKind
  maxBlockingTime : DdsDuration
  durabilityKind : DdsDurabilityKind
  deadlinePeriod : DdsDuration
  livelinessKind : DdsLivelinessKind
  leaseDuration : DdsDuration
  maxSamples : Int
  maxSamplesPerInstance : Int
  lifespan : Option DdsDuration
  deriving DecidableEq

/-- The check an error return comes from, with the message the code sets. -/
inductive QosError
  /-- "unsupported history depth: %ld" -/
  | historyDepth (depth : UInt64)
  /-- "unsupported history kind: %d" -/
  | historyKind
  /-- "unsupported reliability kind: %d" -/
  | reliabilityKind
  /-- "unsupported durability kind: %d" -/
  | durabilityKind
  /-- "unsupported liveliness kind: %d" -/
  | livelinessKind
  /-- "invalid DDS durability kind: %d" -/
  | ddsDurabilityKind
  /-- "invalid DDS liveliness kind: %d" -/
  | ddsLivelinessKind
  deriving DecidableEq, Repr

/-! ## `rmw_connextdds_get_readerwriter_qos` -/

/-- The `switch (qos_policies->history)`. -/
def historyToDds (p : RmwQosProfile) (q : DdsEndpointQos) : Except QosError DdsEndpointQos :=
  match p.history with
  | .systemDefault => .ok q
  | .keepLast =>
    if p.depth = rmwQosPolicyDepthSystemDefault then
      .ok { q with historyDepth := 1, historyKind := .keepLast }
    else if p.depth.toNat < 1 ∨ 2147483647 < p.depth.toNat then .error (.historyDepth p.depth)
    else .ok { q with historyDepth := toDdsLong p.depth, historyKind := .keepLast }
  | .keepAll => .ok { q with historyKind := .keepAll }
  | .unknown => .error .historyKind

/-- `reliability->max_blocking_time = DDS_DURATION_INFINITE`, then the
`switch (qos_policies->reliability)`. -/
def reliabilityToDds (p : RmwQosProfile) (q : DdsEndpointQos) : Except QosError DdsEndpointQos :=
  let q := { q with maxBlockingTime := ddsDurationInfinite }
  match p.reliability with
  | .systemDefault => .ok q
  | .reliable => .ok { q with reliabilityKind := .reliable }
  | .bestEffort => .ok { q with reliabilityKind := .bestEffort }
  | .unknown => .error .reliabilityKind

/-- The `switch (qos_policies->durability)`. -/
def durabilityToDds (p : RmwQosProfile) (q : DdsEndpointQos) : Except QosError DdsEndpointQos :=
  match p.durability with
  | .systemDefault => .ok q
  | .volatile => .ok { q with durabilityKind := .volatile }
  | .transientLocal => .ok { q with durabilityKind := .transientLocal }
  | .unknown => .error .durabilityKind

/-- The two `if`s that copy a nonzero deadline and liveliness lease duration. -/
def durationsToDds (p : RmwQosProfile) (q : DdsEndpointQos) : DdsEndpointQos :=
  { q with
    deadlinePeriod :=
      if p.deadline.sec ≠ 0 ∨ p.deadline.nsec ≠ 0 then castDuration p.deadline
      else q.deadlinePeriod
    leaseDuration :=
      if p.livelinessLeaseDuration.sec ≠ 0 ∨ p.livelinessLeaseDuration.nsec ≠ 0 then
        castDuration p.livelinessLeaseDuration
      else q.leaseDuration }

/-- The `switch (qos_policies->liveliness)`. -/
def livelinessToDds (p : RmwQosProfile) (q : DdsEndpointQos) : Except QosError DdsEndpointQos :=
  match p.liveliness with
  | .systemDefault => .ok q
  | .automatic => .ok { q with livelinessKind := .automatic }
  | .manualByTopic => .ok { q with livelinessKind := .manualByTopic }
  | .unknown => .error .livelinessKind

/-- The `if` that copies a nonzero lifespan into a lifespan policy that was passed. -/
def lifespanToDds (p : RmwQosProfile) (q : DdsEndpointQos) : DdsEndpointQos :=
  { q with
    lifespan := q.lifespan.map fun d =>
      if p.lifespan.sec ≠ 0 ∨ p.lifespan.nsec ≠ 0 then castDuration p.lifespan else d }

/-- The resource limits made consistent with a `KEEP_LAST` history deeper than one. -/
def resourceLimitsToDds (q : DdsEndpointQos) : DdsEndpointQos :=
  if q.historyKind = .keepLast ∧ 1 < q.historyDepth ∧ q.maxSamplesPerInstance = ddsLengthUnlimited
  then
    { q with
      maxSamplesPerInstance := q.historyDepth
      maxSamples :=
        if q.maxSamples ≠ ddsLengthUnlimited ∧ q.maxSamples < q.historyDepth then q.historyDepth
        else q.maxSamples }
  else q

/-- `rmw_connextdds_get_readerwriter_qos`. -/
def getReaderwriterQos (p : RmwQosProfile) (q : DdsEndpointQos) :
    Except QosError DdsEndpointQos := do
  let q ← historyToDds p q
  let q ← reliabilityToDds p q
  let q ← durabilityToDds p q
  let q := durationsToDds p q
  let q ← livelinessToDds p q
  let q := lifespanToDds p q
  return resourceLimitsToDds q

/-! ## `rmw_connextdds_readerwriter_qos_to_ros` -/

/-- The `switch (history->kind)`. -/
def historyKindToRos : DdsHistoryKind → HistoryPolicy
  | .keepLast => .keepLast
  | .keepAll => .keepAll

/-- The `switch (reliability->kind)`. -/
def reliabilityKindToRos : DdsReliabilityKind → ReliabilityPolicy
  | .reliable => .reliable
  | .bestEffort => .bestEffort

/-- The `switch (durability->kind)`. -/
def durabilityKindToRos : DdsDurabilityKind → Except QosError DurabilityPolicy
  | .volatile => .ok .volatile
  | .transientLocal => .ok .transientLocal
  | _ => .error .ddsDurabilityKind

/-- The `switch (liveliness->kind)`. -/
def livelinessKindToRos : DdsLivelinessKind → Except QosError LivelinessPolicy
  | .automatic => .ok .automatic
  | .manualByTopic => .ok .manualByTopic
  | _ => .error .ddsLivelinessKind

/-- `rmw_connextdds_readerwriter_qos_to_ros`, writing into the profile `p`. -/
def readerwriterQosToRos (q : DdsEndpointQos) (p : RmwQosProfile) :
    Except QosError RmwQosProfile := do
  let durability ← durabilityKindToRos q.durabilityKind
  let liveliness ← livelinessKindToRos q.livelinessKind
  return { p with
    history := historyKindToRos q.historyKind
    depth := UInt64.ofNat (q.historyDepth % 2 ^ 32).toNat
    reliability := reliabilityKindToRos q.reliabilityKind
    durability
    deadline := durationToRos q.deadlinePeriod
    livelinessLeaseDuration := durationToRos q.leaseDuration
    liveliness
    lifespan := (q.lifespan.map durationToRos).getD p.lifespan }

/-! ## Exact or truncated -/

theorem toNat_lt_two_pow (x : UInt64) : x.toNat < 2 ^ 64 := x.toNat_lt_size

theorem toDdsLong_of_le {x : UInt64} (h : x.toNat ≤ 2147483647) : toDdsLong x = x.toNat := by
  unfold toDdsLong
  split_ifs <;> omega

theorem castDuration_of_fits {t : RmwTime} (h : t.Fits) :
    castDuration t = ⟨t.sec.toNat, t.nsec.toNat⟩ := by
  obtain ⟨hs, hn⟩ := h
  simp only [castDuration, toDdsLong_of_le hs, toDdsUnsignedLong, DdsDuration.mk.injEq, true_and]
  omega

theorem durationFromRosTime_eq (d : DdsDuration) (t : RmwTime) :
    durationFromRosTime d t = if t.Fits then (.ok, castDuration t) else (.error, d) := by
  unfold durationFromRosTime
  by_cases h : t.Fits
  · rw [if_pos h, castDuration_of_fits h, if_neg (by unfold RmwTime.Fits at h; omega)]
  · rw [if_neg h, if_pos (by unfold RmwTime.Fits at h; omega)]

theorem durationFromRosTime_ok_iff (d : DdsDuration) (t : RmwTime) :
    (durationFromRosTime d t).1 = .ok ↔ t.Fits := by
  rw [durationFromRosTime_eq]
  split_ifs <;> simp [*]

theorem castDuration_length_iff (t : RmwTime) :
    (castDuration t).sec * 1000000000 + (castDuration t).nanosec = t.nanos ↔ t.Fits := by
  have hs := toNat_lt_two_pow t.sec
  have hn := toNat_lt_two_pow t.nsec
  simp only [castDuration, RmwTime.nanos, toDdsLong, toDdsUnsignedLong, RmwTime.Fits]
  split_ifs <;> omega

/-- The casts store a duration of the same length exactly when it fits and does not land on
`DDS_DURATION_INFINITE`: every other duration, `RMW_DURATION_INFINITE` among them, is stored as
another one. -/
theorem castDuration_nanos_iff (t : RmwTime) :
    (castDuration t).nanos = some (t.nanos : Int) ↔ t.Fits ∧ ¬ t.CastsToInfinite := by
  rw [DdsDuration.nanos_eq_some_iff, castDuration_length_iff, and_comm]
  rfl

section Steps

variable {p : RmwQosProfile} {q r : DdsEndpointQos}

theorem historyToDds_ok (h : historyToDds p q = .ok r) :
    ∃ k d, r = { q with historyKind := k, historyDepth := d } ∧
      (p.history ≠ .systemDefault → historyKindToRos k = p.history) ∧
      (p.history = .keepLast → p.depth ≠ rmwQosPolicyDepthSystemDefault →
        UInt64.ofNat (d % 2 ^ 32).toNat = p.depth) := by
  unfold historyToDds at h
  split at h
  next hp => cases h; exact ⟨q.historyKind, q.historyDepth, rfl, by simp [hp], by simp [hp]⟩
  next hp =>
    split_ifs at h with hd hb
    · cases h; exact ⟨_, _, rfl, by simp [hp, historyKindToRos], fun _ h => absurd hd h⟩
    · cases h
      have hle : p.depth.toNat ≤ 2147483647 := by omega
      refine ⟨_, _, rfl, by simp [hp, historyKindToRos], fun _ _ => ?_⟩
      rw [toDdsLong_of_le hle]
      exact UInt64.toNat.inj (show ((p.depth.toNat : Int) % 2 ^ 32).toNat % 2 ^ 64 = p.depth.toNat by
        omega)
  next hp => cases h; exact ⟨_, _, rfl, by simp [hp, historyKindToRos], by simp [hp]⟩
  next => cases h

theorem reliabilityToDds_ok (h : reliabilityToDds p q = .ok r) :
    ∃ k, r = { q with maxBlockingTime := ddsDurationInfinite, reliabilityKind := k } ∧
      (p.reliability ≠ .systemDefault → reliabilityKindToRos k = p.reliability) := by
  unfold reliabilityToDds at h
  split at h <;> cases h
  next hp => exact ⟨q.reliabilityKind, rfl, by simp [hp]⟩
  all_goals exact ⟨_, rfl, by simp [*, reliabilityKindToRos]⟩

theorem durabilityToDds_ok (h : durabilityToDds p q = .ok r) :
    ∃ k, r = { q with durabilityKind := k } ∧
      (p.durability ≠ .systemDefault → durabilityKindToRos k = .ok p.durability) ∧
      (p.durability = .systemDefault → k = q.durabilityKind) := by
  unfold durabilityToDds at h
  split at h <;> cases h
  next hp => exact ⟨q.durabilityKind, rfl, by simp [hp], fun _ => rfl⟩
  all_goals exact ⟨_, rfl, by simp [*, durabilityKindToRos], by simp [*]⟩

theorem livelinessToDds_ok (h : livelinessToDds p q = .ok r) :
    ∃ k, r = { q with livelinessKind := k } ∧
      (p.liveliness ≠ .systemDefault → livelinessKindToRos k = .ok p.liveliness) ∧
      (p.liveliness = .systemDefault → k = q.livelinessKind) := by
  unfold livelinessToDds at h
  split at h <;> cases h
  next hp => exact ⟨q.livelinessKind, rfl, by simp [hp], fun _ => rfl⟩
  all_goals exact ⟨_, rfl, by simp [*, livelinessKindToRos], by simp [*]⟩

theorem resourceLimitsToDds_eq (q : DdsEndpointQos) :
    ∃ a b, resourceLimitsToDds q = { q with maxSamples := a, maxSamplesPerInstance := b } := by
  unfold resourceLimitsToDds
  split
  · exact ⟨_, _, rfl⟩
  · exact ⟨q.maxSamples, q.maxSamplesPerInstance, rfl⟩

end Steps

theorem bind_eq_ok_iff {α β : Type} {x : Except QosError α} {f : α → Except QosError β} {b : β} :
    x >>= f = .ok b ↔ ∃ a, x = .ok a ∧ f a = .ok b := by
  cases x <;> simp [bind, Except.bind]

theorem getReaderwriterQos_steps {p : RmwQosProfile} {q q' : DdsEndpointQos}
    (h : getReaderwriterQos p q = .ok q') :
    ∃ q₁ q₂ q₃ q₄, historyToDds p q = .ok q₁ ∧ reliabilityToDds p q₁ = .ok q₂ ∧
      durabilityToDds p q₂ = .ok q₃ ∧ livelinessToDds p (durationsToDds p q₃) = .ok q₄ ∧
      q' = resourceLimitsToDds (lifespanToDds p q₄) := by
  simp only [getReaderwriterQos, bind_eq_ok_iff] at h
  obtain ⟨q₁, h₁, q₂, h₂, q₃, h₃, q₄, h₄, h₅⟩ := h
  exact ⟨q₁, q₂, q₃, q₄, h₁, h₂, h₃, h₄, by simpa [pure, Except.pure, eq_comm] using h₅⟩

/-- What `rmw_connextdds_get_readerwriter_qos` leaves in the policies `q'` it wrote over `q`
when it returns `RMW_RET_OK`. -/
structure Written (p : RmwQosProfile) (q q' : DdsEndpointQos) : Prop where
  history : p.history ≠ .systemDefault → historyKindToRos q'.historyKind = p.history
  depth : p.history = .keepLast → p.depth ≠ rmwQosPolicyDepthSystemDefault →
    UInt64.ofNat (q'.historyDepth % 2 ^ 32).toNat = p.depth
  reliability : p.reliability ≠ .systemDefault → reliabilityKindToRos q'.reliabilityKind = p.reliability
  durability : p.durability ≠ .systemDefault → durabilityKindToRos q'.durabilityKind = .ok p.durability
  durabilityDefault : p.durability = .systemDefault → q'.durabilityKind = q.durabilityKind
  liveliness : p.liveliness ≠ .systemDefault → livelinessKindToRos q'.livelinessKind = .ok p.liveliness
  livelinessDefault : p.liveliness = .systemDefault → q'.livelinessKind = q.livelinessKind
  deadlinePeriod : q'.deadlinePeriod = (durationsToDds p q).deadlinePeriod
  leaseDuration : q'.leaseDuration = (durationsToDds p q).leaseDuration
  lifespan : q'.lifespan = (lifespanToDds p q).lifespan

theorem getReaderwriterQos_written {p : RmwQosProfile} {q q' : DdsEndpointQos}
    (h : getReaderwriterQos p q = .ok q') : Written p q q' := by
  obtain ⟨q₁, q₂, q₃, q₄, h₁, h₂, h₃, h₄, rfl⟩ := getReaderwriterQos_steps h
  obtain ⟨a, b, hrl⟩ := resourceLimitsToDds_eq (lifespanToDds p q₄)
  rw [hrl]
  obtain ⟨k₁, d₁, rfl, hk₁, hd₁⟩ := historyToDds_ok h₁
  obtain ⟨k₂, rfl, hk₂⟩ := reliabilityToDds_ok h₂
  obtain ⟨k₃, rfl, hk₃, hk₃'⟩ := durabilityToDds_ok h₃
  obtain ⟨k₄, rfl, hk₄, hk₄'⟩ := livelinessToDds_ok h₄
  exact ⟨hk₁, hd₁, hk₂, hk₃, hk₃', hk₄, hk₄', rfl, rfl, rfl⟩

theorem getReaderwriterQos_casts {p : RmwQosProfile} {q q' : DdsEndpointQos}
    (h : getReaderwriterQos p q = .ok q') :
    ((p.deadline.sec ≠ 0 ∨ p.deadline.nsec ≠ 0) → q'.deadlinePeriod = castDuration p.deadline) ∧
    ((p.livelinessLeaseDuration.sec ≠ 0 ∨ p.livelinessLeaseDuration.nsec ≠ 0) →
      q'.leaseDuration = castDuration p.livelinessLeaseDuration) ∧
    ((p.lifespan.sec ≠ 0 ∨ p.lifespan.nsec ≠ 0) → ∀ d ∈ q'.lifespan, d = castDuration p.lifespan) := by
  have hw := getReaderwriterQos_written h
  refine ⟨fun hn => ?_, fun hn => ?_, fun hn d hd => ?_⟩
  · rw [hw.deadlinePeriod, durationsToDds, if_pos hn]
  · rw [hw.leaseDuration, durationsToDds, if_pos hn]
  · simp only [hw.lifespan, lifespanToDds, if_pos hn, Option.mem_def, Option.map_eq_some'] at hd
    obtain ⟨_, -, rfl⟩ := hd
    rfl

/-! ## What it rejects -/

/-- The first check of `rmw_connextdds_get_readerwriter_qos` a profile fails, with the error it
returns, in the order the code makes them. -/
def qosCheck (p : RmwQosProfile) : Option QosError :=
  if p.history = .unknown then some .historyKind
  else if p.history = .keepLast ∧ 2147483647 < p.depth.toNat then some (.historyDepth p.depth)
  else if p.reliability = .unknown then some .reliabilityKind
  else if p.durability = .unknown then some .durabilityKind
  else if p.liveliness = .unknown then some .livelinessKind
  else none

section Checks

variable (p : RmwQosProfile) (q : DdsEndpointQos)

theorem historyToDds_check : ∃ r, historyToDds p q =
    if p.history = .unknown then .error .historyKind
    else if p.history = .keepLast ∧ 2147483647 < p.depth.toNat then .error (.historyDepth p.depth)
    else .ok r := by
  have h0 : p.depth.toNat < 1 → p.depth = rmwQosPolicyDepthSystemDefault :=
    fun h => UInt64.toNat.inj (Nat.lt_one_iff.mp h)
  unfold historyToDds
  split
  next h => exact ⟨q, by simp [h]⟩
  next h =>
    by_cases hb : 2147483647 < p.depth.toNat
    · have hne : p.depth ≠ rmwQosPolicyDepthSystemDefault := fun h => by
        rw [h] at hb; exact absurd hb (by decide)
      exact ⟨q, by simp [h, hne, hb]⟩
    · simp only [h, hb, reduceCtorEq, and_false, or_false, if_false]
      split_ifs with hd hr
      · exact ⟨_, rfl⟩
      · exact absurd (h0 hr) hd
      · exact ⟨_, rfl⟩
  next h => simp [h]
  next h => exact ⟨q, by simp [h]⟩

theorem reliabilityToDds_check : ∃ r, reliabilityToDds p q =
    if p.reliability = .unknown then .error .reliabilityKind else .ok r := by
  unfold reliabilityToDds
  split <;> simp [*]
  exact ⟨q, trivial⟩

theorem durabilityToDds_check : ∃ r, durabilityToDds p q =
    if p.durability = .unknown then .error .durabilityKind else .ok r := by
  unfold durabilityToDds
  split <;> simp [*]
  exact ⟨q, trivial⟩

theorem livelinessToDds_check : ∃ r, livelinessToDds p q =
    if p.liveliness = .unknown then .error .livelinessKind else .ok r := by
  unfold livelinessToDds
  split <;> simp [*]
  exact ⟨q, trivial⟩

end Checks

/-- Whatever the policies it writes into, `rmw_connextdds_get_readerwriter_qos` returns the error
of the first check the profile fails, and `RMW_RET_OK` when it fails none. -/
theorem getReaderwriterQos_check (p : RmwQosProfile) (q : DdsEndpointQos) :
    ∃ q', getReaderwriterQos p q = (qosCheck p).elim (.ok q') .error := by
  obtain ⟨q₁, h₁⟩ := historyToDds_check p q
  obtain ⟨q₂, h₂⟩ := reliabilityToDds_check p q₁
  obtain ⟨q₃, h₃⟩ := durabilityToDds_check p q₂
  obtain ⟨q₄, h₄⟩ := livelinessToDds_check p (durationsToDds p q₃)
  refine ⟨resourceLimitsToDds (lifespanToDds p q₄), ?_⟩
  simp only [qosCheck]
  split_ifs <;> simp_all [getReaderwriterQos, bind, Except.bind, pure, Except.pure]

example : qosCheck ⟨.unknown, 0, .unknown, .systemDefault, ⟨0, 0⟩, ⟨0, 0⟩, .systemDefault, ⟨0, 0⟩⟩ =
    some .historyKind := by decide

theorem readerwriterQosToRos_check (q : DdsEndpointQos) (p : RmwQosProfile) :
    ∃ p', readerwriterQosToRos q p =
      if q.durabilityKind = .transient ∨ q.durabilityKind = .persistent then .error .ddsDurabilityKind
      else if q.livelinessKind = .manualByParticipant then .error .ddsLivelinessKind
      else .ok p' := by
  cases hd : q.durabilityKind <;> cases hl : q.livelinessKind <;>
    simp [readerwriterQosToRos, durabilityKindToRos, livelinessKindToRos, hd, hl, bind,
      Except.bind, pure, Except.pure] <;> exact ⟨p, trivial⟩

/-! ## The round trip -/

/-- How a duration `d` the QoS path stored relates to what the wait path's
`rmw_connextdds_duration_from_ros_time` makes of the same `rmw_time_t` `t`. -/
structure AgreesWithWaitPath (d : DdsDuration) (t : RmwTime) : Prop where
  same : (durationFromRosTime ⟨0, 0⟩ t).1 = .ok → d = (durationFromRosTime ⟨0, 0⟩ t).2
  exact_iff : d.nanos = some (t.nanos : Int) ↔
    (durationFromRosTime ⟨0, 0⟩ t).1 = .ok ∧ (durationFromRosTime ⟨0, 0⟩ t).2 ≠ ddsDurationInfinite

theorem agreesWithWaitPath_castDuration (t : RmwTime) : AgreesWithWaitPath (castDuration t) t := by
  by_cases h : t.Fits <;> constructor <;>
    simp [durationFromRosTime_eq, castDuration_nanos_iff, RmwTime.CastsToInfinite, h]

/-- Each nonzero duration of an accepted profile is stored as the duration the wait path's
`rmw_connextdds_duration_from_ros_time` computes wherever that accepts it, and denotes the same
length exactly when that accepts it and computes a finite duration; `get_readerwriter_qos`
still returns `RMW_RET_OK`. -/
theorem getReaderwriterQos_exact_iff_accepted {p : RmwQosProfile} {q q' : DdsEndpointQos}
    (h : getReaderwriterQos p q = .ok q') :
    ((p.deadline.sec ≠ 0 ∨ p.deadline.nsec ≠ 0) → AgreesWithWaitPath q'.deadlinePeriod p.deadline) ∧
    ((p.livelinessLeaseDuration.sec ≠ 0 ∨ p.livelinessLeaseDuration.nsec ≠ 0) →
      AgreesWithWaitPath q'.leaseDuration p.livelinessLeaseDuration) ∧
    ((p.lifespan.sec ≠ 0 ∨ p.lifespan.nsec ≠ 0) → ∀ d ∈ q'.lifespan,
      AgreesWithWaitPath d p.lifespan) := by
  obtain ⟨h₁, h₂, h₃⟩ := getReaderwriterQos_casts h
  exact ⟨fun hn => h₁ hn ▸ agreesWithWaitPath_castDuration _,
    fun hn => h₂ hn ▸ agreesWithWaitPath_castDuration _,
    fun hn d hd => h₃ hn d hd ▸ agreesWithWaitPath_castDuration _⟩

/-- A writer with a deadline of `2^31 - 1` seconds and `2^31 - 1` nanoseconds, which the wait path
accepts and turns into `DDS_DURATION_INFINITE`, and a liveliness lease of
`RMW_DURATION_INFINITE`, which the wait path rejects: neither is stored as its length. -/
theorem getReaderwriterQos_exact_iff_accepted_infinite :
    ∃ q', getReaderwriterQos ⟨.keepAll, 0, .reliable, .volatile, ⟨2147483647, 2147483647⟩, ⟨0, 0⟩,
        .automatic, ⟨9223372036, 854775807⟩⟩
        ⟨.keepLast, 1, .bestEffort, ddsDurationInfinite, .volatile, ddsDurationInfinite, .automatic,
          ddsDurationInfinite, -1, -1, some ddsDurationInfinite⟩ = .ok q' ∧
      q'.deadlinePeriod.nanos ≠ some (RmwTime.nanos ⟨2147483647, 2147483647⟩ : Int) ∧
      q'.leaseDuration.nanos ≠ some (RmwTime.nanos ⟨9223372036, 854775807⟩ : Int) := by
  have h := getReaderwriterQos_exact_iff_accepted
    (p := ⟨.keepAll, 0, .reliable, .volatile, ⟨2147483647, 2147483647⟩, ⟨0, 0⟩, .automatic,
      ⟨9223372036, 854775807⟩⟩)
    (q := ⟨.keepLast, 1, .bestEffort, ddsDurationInfinite, .volatile, ddsDurationInfinite,
      .automatic, ddsDurationInfinite, -1, -1, some ddsDurationInfinite⟩) rfl
  exact ⟨_, rfl, fun he => absurd ((h.1 (.inl (by decide))).exact_iff.mp he) (by decide),
    fun he => absurd ((h.2.1 (.inl (by decide))).exact_iff.mp he) (by decide)⟩

/-- A deadline one second past `INT32_MAX` is accepted, stored as `-2^31` seconds by
`static_cast<DDS_Long>`, and read back as `2^64 - 2^31` seconds, where the wait path's
`rmw_connextdds_duration_from_ros_time` rejects it. -/
theorem getReaderwriterQos_truncates_deadline :
    ∃ q', getReaderwriterQos ⟨.systemDefault, 0, .systemDefault, .systemDefault,
        ⟨2147483648, 0⟩, ⟨0, 0⟩, .systemDefault, ⟨0, 0⟩⟩
        ⟨.keepLast, 1, .bestEffort, ddsDurationInfinite, .volatile, ddsDurationInfinite, .automatic,
          ddsDurationInfinite, -1, -1, some ddsDurationInfinite⟩ = .ok q' ∧
      q'.deadlinePeriod = ⟨-2147483648, 0⟩ ∧
      q'.deadlinePeriod.nanos ≠ some (RmwTime.nanos ⟨2147483648, 0⟩ : Int) ∧
      (readerwriterQosToRos q' ⟨.systemDefault, 0, .systemDefault, .systemDefault,
          ⟨2147483648, 0⟩, ⟨0, 0⟩, .systemDefault, ⟨0, 0⟩⟩).map RmwQosProfile.deadline =
        .ok ⟨18446744071562067968, 0⟩ ∧
      (durationFromRosTime ⟨0, 0⟩ ⟨2147483648, 0⟩).1 = .error :=
  ⟨_, rfl, rfl, by decide, rfl, rfl⟩

end RmwConnextdds
