import Mathlib.Data.List.Basic

/-! # The subscriber's loan cursor

`RMW_Connext_Subscriber::take_next` hands out messages from a loan of samples taken from the
engine: `loan_data`/`loan_info` hold the current batch, `loan_len` its length and `loan_next` the
next sample to look at. When the loan is exhausted it is returned and the next batch loaned; an
empty batch (the engine has no data now) ends the call. The status condition's data-available
flag follows the loan: `loan_messages` sets it to `loan_len > 0`, `return_messages` clears it.

## Transcription choices

* A sample is whether it is valid (`info->valid_data`), whether `rmw_connextdds_filter_sample`
  accepts it, and the message deserialization yields; filtering and deserialization succeed.
* The batches `rmw_connextdds_take_samples` will hand out are a list in the state; once it is
  used up every further loan is empty. `loan_len` is the length of `loan_data`.
* Modelled from the spec: `loan_messages_if_needed` (in `rmw_impl.hpp`) returns the loan when it
  is exhausted and loans the next batch when no loan is held; otherwise it does nothing.
  `set_data_available` sets the flag.
* The `while` loop of `take_next` is `whileLoop`, total: each turn either loans a new batch or
  ends with `max_samples` messages taken (`whileLoop`'s `termination_by`).
-/

namespace RmwConnextdds
set_option autoImplicit false

structure Sample where
  valid : Bool
  accepted : Bool
  msg : Nat
  deriving DecidableEq, Repr

/-- The loan fields of an `RMW_Connext_Subscriber` and the batches still to come. -/
structure Subscriber where
  loanData : List Sample
  loanNext : Nat
  dataAvailable : Bool
  pending : List (List Sample)
  deriving DecidableEq, Repr

namespace Subscriber

/-- `loan_len`. -/
def loanLen (S : Subscriber) : Nat := S.loanData.length

/-- `RMW_Connext_Subscriber::loan_messages`: `rmw_connextdds_take_samples` hands out the next
batch, and the flag says whether it holds anything. -/
def loanMessages (S : Subscriber) : Subscriber :=
  let batch := S.pending.headD []
  { S with loanData := batch, pending := S.pending.tail, dataAvailable := decide (0 < batch.length) }

/-- `RMW_Connext_Subscriber::return_messages`. -/
def returnMessages (S : Subscriber) : Subscriber :=
  { S with loanData := [], loanNext := 0, dataAvailable := false }

/-- Modelled from the spec: `loan_messages_if_needed`. -/
def loanMessagesIfNeeded (S : Subscriber) : Subscriber :=
  if 0 < S.loanLen ∧ S.loanNext < S.loanLen then S
  else loanMessages (if 0 < S.loanLen then returnMessages S else S)

end Subscriber

/-- The `for` loop of `take_next` over the samples from `loan_next` on: `(loan_next, taken)`
after it. -/
def forLoop (max : Nat) : List Sample → Nat × List Nat → Nat × List Nat
  | [], acc => acc
  | s :: ss, (next, taken) =>
    if taken.length < max then
      forLoop max ss (next + 1, if s.valid && s.accepted then taken ++ [s.msg] else taken)
    else (next, taken)

theorem forLoop_stops (max : Nat) (rest : List Sample) (next : Nat) (taken : List Nat) :
    max ≤ (forLoop max rest (next, taken)).2.length ∨
      (forLoop max rest (next, taken)).1 = next + rest.length := by
  induction rest generalizing next taken with
  | nil => exact .inr rfl
  | cons s ss ih =>
    by_cases h : taken.length < max
    · simp only [forLoop, if_pos h]
      rcases ih (next + 1) (if s.valid && s.accepted then taken ++ [s.msg] else taken) with h' | h'
      · exact .inl h'
      · exact .inr (by rw [h', List.length_cons]; omega)
    · simp only [forLoop, if_neg h]
      exact .inl (by omega)

theorem forLoop_exhausts (max : Nat) (S : Subscriber) (taken : List Nat) :
    max ≤ (forLoop max (S.loanData.drop S.loanNext) (S.loanNext, taken)).2.length ∨
      S.loanLen ≤ (forLoop max (S.loanData.drop S.loanNext) (S.loanNext, taken)).1 := by
  rcases forLoop_stops max (S.loanData.drop S.loanNext) S.loanNext taken with h | h
  · exact .inl h
  · right
    rw [h, List.length_drop, Subscriber.loanLen]
    omega

theorem loanMessagesIfNeeded_cases (S : Subscriber) (hne : S.loanMessagesIfNeeded.loanLen ≠ 0) :
    (S.loanMessagesIfNeeded = S ∧ S.loanNext < S.loanLen) ∨
      S.loanMessagesIfNeeded.pending.length + 1 = S.pending.length := by
  unfold Subscriber.loanMessagesIfNeeded at hne ⊢
  split_ifs at hne ⊢ with hk
  · exact .inl ⟨rfl, hk.2⟩
  all_goals
    right
    cases hS : S.pending with
    | nil => simp [Subscriber.loanMessages, Subscriber.returnMessages, Subscriber.loanLen, hS] at hne
    | cons b bs => simp [Subscriber.loanMessages, Subscriber.returnMessages, hS]

/-- What the loop's measure counts: the batches to come, and one for a loan with samples left. -/
def loanWork (S : Subscriber) : Nat :=
  S.pending.length + if S.loanNext < S.loanLen then 1 else 0

theorem loanWork_turn {S S₁ : Subscriber} {next : Nat} {max : Nat} {taken : List Nat}
    (h₁ : (S₁ = S ∧ S.loanNext < S.loanLen) ∨ S₁.pending.length + 1 = S.pending.length)
    (hstop : max ≤ taken.length ∨ S₁.loanLen ≤ next) :
    loanWork { S₁ with loanNext := next } ≤ loanWork S ∧
      (loanWork { S₁ with loanNext := next } < loanWork S ∨ max ≤ taken.length) := by
  simp only [loanWork, Subscriber.loanLen] at h₁ hstop ⊢
  rcases h₁ with ⟨rfl, h⟩ | h <;> rcases hstop with h' | h' <;> split_ifs <;> omega

/-- The `while` loop of `RMW_Connext_Subscriber::take_next`. -/
def whileLoop (max : Nat) (S : Subscriber) (taken : List Nat) : Subscriber × List Nat :=
  if _h : taken.length < max then
    let S₁ := S.loanMessagesIfNeeded
    if _h₀ : S₁.loanLen = 0 then (S₁, taken)
    else
      let r := forLoop max (S₁.loanData.drop S₁.loanNext) (S₁.loanNext, taken)
      whileLoop max { S₁ with loanNext := r.1 } r.2
  else (S, taken)
termination_by (loanWork S, max - taken.length)
decreasing_by
  obtain ⟨hle, hlt | hmax⟩ := loanWork_turn (loanMessagesIfNeeded_cases S _h₀)
    (forLoop_exhausts max S.loanMessagesIfNeeded taken)
  · exact Prod.Lex.left _ _ hlt
  · rcases Nat.lt_or_eq_of_le hle with hlt | heq
    · exact Prod.Lex.left _ _ hlt
    · rw [heq]
      exact Prod.Lex.right _ (by omega)

/-- `RMW_Connext_Subscriber::take_next`: the loop, then the loan is returned if it is
exhausted. -/
def takeNext (max : Nat) (S : Subscriber) : Subscriber × List Nat :=
  let r := whileLoop max S []
  (if 0 < r.1.loanLen ∧ r.1.loanLen ≤ r.1.loanNext then r.1.returnMessages else r.1, r.2)

/-! ## What the cursor hands out -/

/-- The messages of the valid, accepted samples of `l`, in order. -/
def accepted (l : List Sample) : List Nat := (l.filter fun s => s.valid && s.accepted).map Sample.msg

@[simp] theorem accepted_nil : accepted [] = [] := rfl

@[simp] theorem accepted_append (l₁ l₂ : List Sample) :
    accepted (l₁ ++ l₂) = accepted l₁ ++ accepted l₂ := by
  simp [accepted]

theorem accepted_cons (s : Sample) (l : List Sample) :
    accepted (s :: l) = (if s.valid && s.accepted then [s.msg] else []) ++ accepted l := by
  by_cases h : s.valid && s.accepted <;> simp [accepted, List.filter_cons, h]

theorem forLoop_spec (max : Nat) (rest : List Sample) (next : Nat) (taken : List Nat)
    (h : taken.length ≤ max) :
    ∃ k, forLoop max rest (next, taken) =
        (next + k, taken ++ (accepted rest).take (max - taken.length)) ∧
      accepted rest = (accepted rest).take (max - taken.length) ++ accepted (rest.drop k) := by
  induction rest generalizing next taken with
  | nil => exact ⟨0, by simp [forLoop]⟩
  | cons s ss ih =>
    by_cases hlt : taken.length < max
    · cases ha : s.valid && s.accepted with
      | false =>
        obtain ⟨k, hk, hsplit⟩ := ih (next + 1) taken h
        refine ⟨k + 1, ?_, ?_⟩
        · simp [forLoop, hlt, ha, hk, accepted_cons, Nat.add_assoc, Nat.add_comm 1 k]
        · simp [accepted_cons, ha, ← hsplit]
      | true =>
        obtain ⟨k, hk, hsplit⟩ := ih (next + 1) (taken ++ [s.msg]) (by simp; omega)
        have hm : max - taken.length = max - (taken.length + 1) + 1 := by omega
        refine ⟨k + 1, ?_, ?_⟩
        · simp [forLoop, hlt, ha, hk, accepted_cons, hm, Nat.add_assoc, Nat.add_comm 1 k]
        · simp only [List.length_append, List.length_singleton] at hsplit
          simp [accepted_cons, ha, hm, ← hsplit]
    · have hm : max - taken.length = 0 := by omega
      exact ⟨0, by simp [forLoop, hlt, hm]⟩

namespace Subscriber

/-- The samples of the loan from `loan_next` on. -/
def rest (S : Subscriber) : List Sample := S.loanData.drop S.loanNext

/-- The accepted messages not handed out yet: the loan's rest, then the batches to come. -/
def queued (S : Subscriber) : List Nat := accepted (S.rest ++ S.pending.flatten)

/-- What a call can hand out: the loan's rest, then the batches before the first empty one. -/
def available (S : Subscriber) : List Nat :=
  accepted (S.rest ++ (S.pending.takeWhile fun b => !b.isEmpty).flatten)

/-- No loan held means `loan_next` is `0` too (`return_messages` clears both). -/
def Cursor (S : Subscriber) : Prop := S.loanLen = 0 → S.loanNext = 0

def Flagged (S : Subscriber) : Prop := S.dataAvailable = true ↔ 0 < S.loanLen

/-- The state between two calls: no loan held, or one with samples left; the flag follows. -/
def Settled (S : Subscriber) : Prop :=
  (S.loanLen = 0 ∧ S.loanNext = 0 ∨ S.loanNext < S.loanLen) ∧ S.Flagged

@[simp] theorem loanMessages_loanData (S : Subscriber) :
    S.loanMessages.loanData = S.pending.headD [] := rfl
@[simp] theorem loanMessages_loanNext (S : Subscriber) : S.loanMessages.loanNext = S.loanNext := rfl
@[simp] theorem loanMessages_pending (S : Subscriber) : S.loanMessages.pending = S.pending.tail := rfl
@[simp] theorem loanMessages_dataAvailable (S : Subscriber) :
    S.loanMessages.dataAvailable = decide (0 < (S.pending.headD []).length) := rfl
@[simp] theorem returnMessages_loanNext (S : Subscriber) : S.returnMessages.loanNext = 0 := rfl
@[simp] theorem returnMessages_pending (S : Subscriber) : S.returnMessages.pending = S.pending := rfl

theorem loanMessagesIfNeeded_of_not_kept {S : Subscriber} (hc : S.Cursor)
    (hk : ¬(0 < S.loanLen ∧ S.loanNext < S.loanLen)) :
    S.loanMessagesIfNeeded = S.returnMessages.loanMessages ∧ S.rest = [] := by
  unfold Cursor at hc
  unfold loanLen at hc hk
  refine ⟨?_, List.drop_eq_nil_of_le (by omega)⟩
  unfold loanMessagesIfNeeded loanLen
  rw [if_neg hk]
  by_cases h0 : 0 < S.loanData.length
  · rw [if_pos h0]
  · rw [if_neg h0]
    have h0' : S.loanData = [] := List.eq_nil_of_length_eq_zero (by omega)
    obtain ⟨d, n, f, p⟩ := S
    simp only at h0' hc
    subst h0'
    simp [loanMessages, returnMessages, hc rfl]

theorem queued_loanMessagesIfNeeded {S : Subscriber} (hc : S.Cursor) :
    S.loanMessagesIfNeeded.queued = S.queued := by
  by_cases hk : 0 < S.loanLen ∧ S.loanNext < S.loanLen
  · simp [loanMessagesIfNeeded, if_pos hk]
  · obtain ⟨h₁, hr⟩ := loanMessagesIfNeeded_of_not_kept hc hk
    rw [h₁, queued, queued, hr]
    cases hp : S.pending <;> simp [rest, hp]

theorem available_loanMessagesIfNeeded {S : Subscriber} (hc : S.Cursor)
    (hne : S.loanMessagesIfNeeded.loanLen ≠ 0) :
    S.loanMessagesIfNeeded.available = S.available := by
  by_cases hk : 0 < S.loanLen ∧ S.loanNext < S.loanLen
  · simp [loanMessagesIfNeeded, if_pos hk]
  · obtain ⟨h₁, hr⟩ := loanMessagesIfNeeded_of_not_kept hc hk
    rw [h₁] at hne ⊢
    rw [available, available, hr]
    cases hp : S.pending with
    | nil => simp [hp, loanLen] at hne
    | cons b bs =>
      have hb : b.isEmpty = false := by simpa [hp, loanLen, List.isEmpty_iff] using hne
      simp [rest, hp, hb, List.takeWhile_cons]

theorem available_eq_nil {S : Subscriber} (hc : S.Cursor) (hz : S.loanMessagesIfNeeded.loanLen = 0) :
    S.available = [] := by
  by_cases hk : 0 < S.loanLen ∧ S.loanNext < S.loanLen
  · simp [loanMessagesIfNeeded, if_pos hk] at hz
    omega
  · obtain ⟨h₁, hr⟩ := loanMessagesIfNeeded_of_not_kept hc hk
    rw [h₁] at hz
    rw [available, hr]
    cases hp : S.pending with
    | nil => rfl
    | cons b bs =>
      have hb : b = [] := by simpa [hp, loanLen] using hz
      simp [hb, List.takeWhile_cons]

theorem flagged_loanMessagesIfNeeded {S : Subscriber} (hc : S.Cursor) (hf : S.Flagged) :
    S.loanMessagesIfNeeded.Flagged := by
  by_cases hk : 0 < S.loanLen ∧ S.loanNext < S.loanLen
  · simpa [loanMessagesIfNeeded, if_pos hk] using hf
  · rw [(loanMessagesIfNeeded_of_not_kept hc hk).1]
    simp [Flagged, loanLen]

end Subscriber

theorem Subscriber.rest_advance (S : Subscriber) (k : Nat) :
    ({ loanData := S.loanData, loanNext := S.loanNext + k, dataAvailable := S.dataAvailable,
       pending := S.pending } : Subscriber).rest = S.rest.drop k := by
  simp [Subscriber.rest, List.drop_drop, Nat.add_comm]

open Subscriber in
theorem whileLoop_spec (max : Nat) (S : Subscriber) (taken : List Nat) (hc : S.Cursor)
    (hf : S.Flagged) (ht : taken.length ≤ max) :
    (whileLoop max S taken).2 = taken ++ S.available.take (max - taken.length) ∧
      (whileLoop max S taken).2 ++ (whileLoop max S taken).1.queued = taken ++ S.queued ∧
      (whileLoop max S taken).1.Cursor ∧ (whileLoop max S taken).1.Flagged := by
  induction S, taken using whileLoop.induct max with
  | case1 S taken hlt S₁ hz =>
    simp only [S₁] at hz
    rw [whileLoop, dif_pos hlt, dif_pos hz]
    refine ⟨by simp [available_eq_nil hc hz], by rw [queued_loanMessagesIfNeeded hc],
      fun _ => ?_, flagged_loanMessagesIfNeeded hc hf⟩
    by_cases hk : 0 < S.loanLen ∧ S.loanNext < S.loanLen
    · simp [loanMessagesIfNeeded, if_pos hk] at hz
      omega
    · simp [(loanMessagesIfNeeded_of_not_kept hc hk).1]
  | case2 S taken hlt S₁ hnz r ih =>
    simp only [S₁, r] at hnz ih
    rw [whileLoop, dif_pos hlt, dif_neg hnz]
    obtain ⟨k, hr, hsplit⟩ := forLoop_spec max S.loanMessagesIfNeeded.rest
      S.loanMessagesIfNeeded.loanNext taken ht
    rw [show List.drop S.loanMessagesIfNeeded.loanNext S.loanMessagesIfNeeded.loanData =
      S.loanMessagesIfNeeded.rest from rfl] at ih ⊢
    simp only [hr] at ih ⊢
    obtain ⟨h₁, h₂, h₃, h₄⟩ := ih (fun h => absurd h hnz) (flagged_loanMessagesIfNeeded hc hf)
      (by simp only [List.length_append, List.length_take]; omega)
    refine ⟨?_, ?_, h₃, h₄⟩
    · rw [h₁, ← available_loanMessagesIfNeeded hc hnz]
      simp only [available, rest_advance, accepted_append, List.length_append] at hsplit ⊢
      generalize hT : (accepted S.loanMessagesIfNeeded.rest).take (max - taken.length) = T at hsplit ⊢
      have hTm : T.length ≤ max - taken.length := by rw [← hT]; exact List.length_take_le _ _
      simp [hsplit, List.take_append_eq_append_take, List.take_of_length_le hTm, Nat.sub_add_eq]
    · rw [h₂, ← queued_loanMessagesIfNeeded hc]
      simp only [queued, rest_advance, accepted_append]
      conv_rhs => rw [hsplit]
      simp
  | case3 S taken hge =>
    rw [whileLoop, dif_neg hge]
    exact ⟨by simp [show max - taken.length = 0 by omega], rfl, hc, hf⟩

open Subscriber in
/-- One call of `take_next` from a state between calls: it hands out the first `max_samples`
messages a call can hand out, keeps the rest queued in order, and leaves a state between
calls. -/
theorem takeNext_spec (max : Nat) (S : Subscriber) (hS : S.Settled) :
    (takeNext max S).2 = S.available.take max ∧
      (takeNext max S).2 ++ (takeNext max S).1.queued = S.queued ∧ (takeNext max S).1.Settled := by
  have hc : S.Cursor := fun h => by rcases hS.1 with ⟨_, h'⟩ | h' <;> omega
  obtain ⟨h₁, h₂, h₃, h₄⟩ := whileLoop_spec max S [] hc hS.2 (Nat.zero_le _)
  simp only [takeNext]
  refine ⟨by simpa using h₁, ?_, ?_⟩
  · split_ifs with hx
    · rw [List.nil_append] at h₂
      rw [← h₂]
      simp [queued, rest, returnMessages, List.drop_eq_nil_of_le hx.2, loanLen]
    · simpa using h₂
  · split_ifs with hx
    · exact ⟨.inl ⟨rfl, rfl⟩, by simp [Flagged, returnMessages, loanLen]⟩
    · refine ⟨?_, h₄⟩
      by_cases h0 : (whileLoop max S []).1.loanLen = 0
      · exact .inl ⟨h0, h₃ h0⟩
      · exact .inr (by omega)

/-- A sequence of `take_next` calls: the state after them and what each handed out. -/
def takeCalls : List Nat → Subscriber → Subscriber × List (List Nat)
  | [], S => (S, [])
  | m :: ms, S =>
    let r := takeNext m S
    let rs := takeCalls ms r.1
    (rs.1, r.2 :: rs.2)

def callStates : List Nat → Subscriber → List Subscriber
  | [], _ => []
  | m :: ms, S => S :: callStates ms (takeNext m S).1

open Subscriber in
/-- Any sequence of `take_next` calls from a state between calls. Each call hands out the first
`max_samples` messages it can: those left in the loan, then those of the batches before the next
empty one. Together the calls hand out the queued messages in order, none skipped or repeated.
Every state between calls holds no loan or one with samples left, and the flag is set exactly
when a loan is held. -/
theorem takeCalls_in_order (ms : List Nat) (S : Subscriber) (hS : S.Settled) :
    (takeCalls ms S).2 = List.zipWith (fun m S' => S'.available.take m) ms (callStates ms S) ∧
      (takeCalls ms S).2.flatten ++ (takeCalls ms S).1.queued = S.queued ∧
      ∀ S' ∈ callStates ms S ++ [(takeCalls ms S).1], S'.Settled := by
  induction ms generalizing S with
  | nil => simp [takeCalls, callStates, hS]
  | cons m ms ih =>
    obtain ⟨h₁, h₂, h₃⟩ := takeNext_spec m S hS
    obtain ⟨i₁, i₂, i₃⟩ := ih _ h₃
    refine ⟨by simp [takeCalls, callStates, h₁, i₁], ?_, ?_⟩
    · simp only [takeCalls, List.flatten_cons, List.append_assoc, i₂, h₂]
    · intro S' hS'
      simp only [callStates, List.cons_append, List.mem_cons] at hS'
      rcases hS' with rfl | hS'
      · exact hS
      · exact i₃ S' hS'

/-- No loan held; the engine will hand out one sample, then no data, then another sample. -/
def gapBatches : Subscriber :=
  ⟨[], 0, false, [[⟨true, true, 1⟩], [], [⟨true, true, 2⟩]]⟩

theorem gapBatches_settled : gapBatches.Settled :=
  ⟨.inl ⟨rfl, rfl⟩, by simp [Subscriber.Flagged, Subscriber.loanLen, gapBatches]⟩

/-- Two calls of at most two messages each on `gapBatches`. -/
theorem takeCalls_in_order_gapBatches :
    gapBatches.Settled ∧
      ((takeCalls [2, 2] gapBatches).2 =
          List.zipWith (fun m S' => S'.available.take m) [2, 2] (callStates [2, 2] gapBatches) ∧
        (takeCalls [2, 2] gapBatches).2.flatten ++ (takeCalls [2, 2] gapBatches).1.queued =
          gapBatches.queued ∧
        ∀ S' ∈ callStates [2, 2] gapBatches ++ [(takeCalls [2, 2] gapBatches).1], S'.Settled) :=
  ⟨gapBatches_settled, takeCalls_in_order [2, 2] gapBatches gapBatches_settled⟩

/-- Two valid, accepted samples are queued, yet a call for two messages hands out one: the empty
batch between them ends the call. -/
theorem takeNext_stops_at_empty_batch :
    (takeNext 2 gapBatches).2 = [1] ∧ gapBatches.queued = [1, 2] := by
  refine ⟨?_, rfl⟩
  rw [(takeNext_spec 2 gapBatches gapBatches_settled).1]
  rfl

end RmwConnextdds
