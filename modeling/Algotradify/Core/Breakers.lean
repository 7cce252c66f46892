/-
Circuit breakers over a rolling error rate, and the suite of three that blocks new trade
approvals while one of them is tripped.

Timestamps are given with each call; those of an approval check may differ between the
breakers, as three readings of a clock do. The printing of a number with three decimals is
a parameter. Of `snapshot` only the purge of old samples is kept.

Breakers over runs of observations and purges in the order of time: the rate that trips
one is that of the samples of its window, and a tripped one blocks approvals until it has
cooled down and, if it is so configured, until it has recovered.
-/

import Algotradify.Core.RiskState
import Algotradify.Timed.Windows

namespace Algotradify.Core.Breakers

open Py Risk

inductive BreakerState where
  | healthy
  | tripped
  | recovering
deriving DecidableEq, Repr

structure BreakerConfig where
  name : String
  windowSec : PyFloat := .finite 60
  minSamples : Int := 10
  tripErrorRate : PyFloat := .finite (1 / 2)
  cooldownSec : PyFloat := .finite 30
  recoveryHealthyTicks : Int := 5
  blockApprovalsWhenRecovering : Bool := false
deriving Repr

abbrev Sample := ℚ × Bool

/-- `RollingErrorRateBreaker`. -/
structure Breaker where
  config : BreakerConfig
  samples : List Sample := []
  state : BreakerState := .healthy
  trippedAt : Option ℚ := none
  recoveringSince : Option ℚ := none
  healthyTicks : Int := 0
  reason : Option String := none
deriving Repr

/-! ### Window statistics -/

def BreakerConfig.cutoff (config : BreakerConfig) (nowTs : ℚ) : PyFloat :=
  .finite nowTs - pyMax config.windowSec (.finite 0)

def BreakerConfig.expired (config : BreakerConfig) (nowTs ts : ℚ) : Bool :=
  (PyFloat.finite ts).lt (config.cutoff nowTs)

namespace Breaker

def purgeOld (breaker : Breaker) (nowTs : ℚ) : Breaker :=
  { breaker with
    samples := breaker.samples.dropWhile fun sample => breaker.config.expired nowTs sample.1 }

end Breaker

def errorRate (samples : List Sample) : PyFloat :=
  if samples.length = 0 then .finite 0
  else .finite ((samples.countP fun sample => sample.2) / samples.length)

def shouldTrip (config : BreakerConfig) (sampleCount : Nat) (rate : PyFloat) : Bool :=
  if (sampleCount : Int) < config.minSamples then false else config.tripErrorRate.le rate

namespace Breaker

def approvalsBlocked (breaker : Breaker) : Bool :=
  decide (breaker.state = .tripped) ||
    (decide (breaker.state = .recovering) && breaker.config.blockApprovalsWhenRecovering)

/-! ### Observations -/

/-- `float(self.tripped_at or ts_now)`. -/
def trippedOrNow (breaker : Breaker) (nowTs : ℚ) : ℚ :=
  match breaker.trippedAt with
  | none => nowTs
  | some trippedAt => if trippedAt = 0 then nowTs else trippedAt

section Printing

variable (fixed3 : PyFloat → String)

def observeHealthy (breaker : Breaker) (nowTs : ℚ) : Breaker × String :=
  if shouldTrip breaker.config breaker.samples.length (errorRate breaker.samples) then
    ({ breaker with
        state := .tripped
        trippedAt := some nowTs
        recoveringSince := none
        healthyTicks := 0
        reason := some (breaker.config.name ++ ":error_rate=" ++ fixed3 (errorRate breaker.samples) ++
          ",samples=" ++ printInt breaker.samples.length ++ ",threshold=" ++
          fixed3 breaker.config.tripErrorRate) },
      "TRIPPED")
  else (breaker, "NOOP")

def observeTripped (breaker : Breaker) (isError : Bool) (nowTs : ℚ) : Breaker × String :=
  if !isError && breaker.config.cooldownSec.le (.finite (nowTs - breaker.trippedOrNow nowTs)) then
    ({ breaker with
        state := .recovering
        recoveringSince := some nowTs
        healthyTicks := 1 },
      "RECOVERING")
  else (breaker, "NOOP")

def observeRecovering (breaker : Breaker) (isError : Bool) (nowTs : ℚ) : Breaker × String :=
  if isError then
    ({ breaker with
        state := .tripped
        trippedAt := some nowTs
        recoveringSince := none
        healthyTicks := 0
        reason := some (breaker.config.name ++ ":recovery_error") },
      "RETRIPPED")
  else if breaker.config.recoveryHealthyTicks ≤ breaker.healthyTicks + 1 then
    ({ breaker with
        state := .healthy
        trippedAt := none
        recoveringSince := none
        healthyTicks := 0
        reason := none },
      "CLEARED")
  else ({ breaker with healthyTicks := breaker.healthyTicks + 1 }, "NOOP")

def record (breaker : Breaker) (isError : Bool) (nowTs : ℚ) : Breaker :=
  { breaker with samples := breaker.samples ++ [(nowTs, isError)] }.purgeOld nowTs

/-- The state after an observation of the recorded samples, and the action taken. -/
def advance (breaker : Breaker) (isError : Bool) (nowTs : ℚ) : Breaker × String :=
  match breaker.state with
  | .healthy => breaker.observeHealthy fixed3 nowTs
  | .tripped => breaker.observeTripped isError nowTs
  | .recovering => breaker.observeRecovering isError nowTs

structure Observation where
  breaker : String
  prevState : BreakerState
  state : BreakerState
  action : String
  approvalsBlocked : Bool
  sampleCount : Nat
  errorRate : PyFloat
  tsEpoch : ℚ
  reason : Option String
deriving Repr

def observe (breaker : Breaker) (isError : Bool) (nowTs : ℚ) : Breaker × Observation :=
  let recorded := breaker.record isError nowTs
  let (after, action) := recorded.advance fixed3 isError nowTs
  (after,
    { breaker := breaker.config.name
      prevState := breaker.state
      state := after.state
      action := action
      approvalsBlocked := after.approvalsBlocked
      sampleCount := recorded.samples.length
      errorRate := errorRate recorded.samples
      tsEpoch := nowTs
      reason := after.reason })

end Printing

end Breaker

/-! ### The suite -/

inductive Feed where
  | staleFeed
  | priceMismatch
  | brokerFailure
deriving DecidableEq, Repr

structure BreakerSuite where
  staleFeedBreaker : Breaker
  priceMismatchBreaker : Breaker
  brokerFailureBreaker : Breaker
deriving Repr

def staleFeedConfig : BreakerConfig :=
  { name := "stale_feed_breaker"
    windowSec := .finite 60
    minSamples := 6
    tripErrorRate := .finite (1 / 2)
    cooldownSec := .finite 15
    recoveryHealthyTicks := 4 }

def priceMismatchConfig : BreakerConfig :=
  { name := "price_mismatch_breaker"
    windowSec := .finite 120
    minSamples := 8
    tripErrorRate := .finite (60 / 100)
    cooldownSec := .finite 20
    recoveryHealthyTicks := 5 }

def brokerFailureConfig : BreakerConfig :=
  { name := "broker_failure_breaker"
    windowSec := .finite 180
    minSamples := 4
    tripErrorRate := .finite (1 / 2)
    cooldownSec := .finite 30
    recoveryHealthyTicks := 3 }

namespace BreakerSuite

/-- `BreakerSuite(...)`: a configuration that is not given is the own one of its stream. -/
def new (staleFeed priceMismatch brokerFailure : Option BreakerConfig) : BreakerSuite :=
  { staleFeedBreaker := { config := staleFeed.getD staleFeedConfig }
    priceMismatchBreaker := { config := priceMismatch.getD priceMismatchConfig }
    brokerFailureBreaker := { config := brokerFailure.getD brokerFailureConfig } }

def breaker (suite : BreakerSuite) : Feed → Breaker
  | .staleFeed => suite.staleFeedBreaker
  | .priceMismatch => suite.priceMismatchBreaker
  | .brokerFailure => suite.brokerFailureBreaker

/-- `observe_stale_feed`, `observe_price_mismatch` and `observe_broker_failure`. -/
def observe (fixed3 : PyFloat → String) (suite : BreakerSuite) (feed : Feed) (isError : Bool)
    (nowTs : ℚ) : BreakerSuite :=
  match feed with
  | .staleFeed =>
      { suite with staleFeedBreaker := (suite.staleFeedBreaker.observe fixed3 isError nowTs).1 }
  | .priceMismatch =>
      { suite with
        priceMismatchBreaker := (suite.priceMismatchBreaker.observe fixed3 isError nowTs).1 }
  | .brokerFailure =>
      { suite with
        brokerFailureBreaker := (suite.brokerFailureBreaker.observe fixed3 isError nowTs).1 }

/-- The suite after `should_block_new_trade_approvals` has purged its breakers. -/
def purged (suite : BreakerSuite) (times : Feed → ℚ) : BreakerSuite :=
  { staleFeedBreaker := suite.staleFeedBreaker.purgeOld (times .staleFeed)
    priceMismatchBreaker := suite.priceMismatchBreaker.purgeOld (times .priceMismatch)
    brokerFailureBreaker := suite.brokerFailureBreaker.purgeOld (times .brokerFailure) }

def blockers (suite : BreakerSuite) : List String :=
  ([suite.staleFeedBreaker, suite.priceMismatchBreaker, suite.brokerFailureBreaker].filter
    fun breaker => breaker.approvalsBlocked).map fun breaker => breaker.config.name

def shouldBlockNewTradeApprovals (suite : BreakerSuite) (times : Feed → ℚ) :
    BreakerSuite × Bool × List String :=
  let after := suite.purged times
  (after, decide (after.blockers ≠ []), after.blockers)

end BreakerSuite

/-! ### Runs -/

open Timed

inductive BreakerCall where
  | observe (isError : Bool) (nowTs : ℚ)
  | purge (nowTs : ℚ)

namespace BreakerCall

def time : BreakerCall → ℚ
  | .observe _ nowTs => nowTs
  | .purge nowTs => nowTs

def sample? : BreakerCall → Option Sample
  | .observe isError nowTs => some (nowTs, isError)
  | .purge _ => none

def apply (fixed3 : PyFloat → String) (breaker : Breaker) : BreakerCall → Breaker
  | .observe isError nowTs => (breaker.observe fixed3 isError nowTs).1
  | .purge nowTs => breaker.purgeOld nowTs

end BreakerCall

def observed (calls : List BreakerCall) : List Sample :=
  calls.filterMap BreakerCall.sample?

def Timely (calls : List BreakerCall) : Prop :=
  calls.Pairwise fun earlier later => earlier.time ≤ later.time

def breakerAfter (fixed3 : PyFloat → String) (start : Breaker) (calls : List BreakerCall) :
    Breaker :=
  calls.foldl (BreakerCall.apply fixed3) start

/-! ### One observation -/

namespace Breaker

section Printing

variable {fixed3 : PyFloat → String} {breaker : Breaker} {isError : Bool} {nowTs : ℚ}

@[simp] theorem purgeOld_config : (breaker.purgeOld nowTs).config = breaker.config := rfl

@[simp] theorem record_config : (breaker.record isError nowTs).config = breaker.config := rfl

@[simp] theorem record_state : (breaker.record isError nowTs).state = breaker.state := rfl

theorem advance_kept : (breaker.advance fixed3 isError nowTs).1.config = breaker.config ∧
    (breaker.advance fixed3 isError nowTs).1.samples = breaker.samples := by
  unfold advance observeHealthy observeTripped observeRecovering
  split
  · split <;> exact ⟨rfl, rfl⟩
  · split <;> exact ⟨rfl, rfl⟩
  · split
    · exact ⟨rfl, rfl⟩
    · split <;> exact ⟨rfl, rfl⟩

@[simp] theorem observe_config :
    (breaker.observe fixed3 isError nowTs).1.config = breaker.config :=
  advance_kept.1

@[simp] theorem observe_samples :
    (breaker.observe fixed3 isError nowTs).1.samples = (breaker.record isError nowTs).samples :=
  advance_kept.2

end Printing

end Breaker

@[simp] theorem BreakerCall.apply_config (fixed3 : PyFloat → String) (breaker : Breaker)
    (call : BreakerCall) : (call.apply fixed3 breaker).config = breaker.config := by
  cases call with
  | observe isError nowTs => exact Breaker.observe_config
  | purge nowTs => rfl

section Runs

variable {fixed3 : PyFloat → String} {start : Breaker} {calls earlier later : List BreakerCall}

@[simp] theorem breakerAfter_config :
    (breakerAfter fixed3 start calls).config = start.config := by
  induction calls using List.reverseRecOn with
  | nil => rfl
  | append_singleton calls call ih =>
      unfold breakerAfter at ih ⊢
      simp only [List.foldl_append, List.foldl_cons, List.foldl_nil, BreakerCall.apply_config, ih]

theorem breakerAfter_append (fixed3 : PyFloat → String) (start : Breaker)
    (earlier later : List BreakerCall) :
    breakerAfter fixed3 start (earlier ++ later) =
      breakerAfter fixed3 (breakerAfter fixed3 start earlier) later :=
  List.foldl_append

theorem breakerAfter_snoc (fixed3 : PyFloat → String) (start : Breaker)
    (calls : List BreakerCall) (call : BreakerCall) :
    breakerAfter fixed3 start (calls ++ [call]) =
      call.apply fixed3 (breakerAfter fixed3 start calls) := by
  rw [breakerAfter_append]
  rfl

theorem observed_append (earlier later : List BreakerCall) :
    observed (earlier ++ later) = observed earlier ++ observed later :=
  List.filterMap_append

theorem time_of_observed {sample : Sample} (member : sample ∈ observed calls) :
    ∃ call ∈ calls, call.time = sample.1 := by
  obtain ⟨call, inside, same⟩ := List.mem_filterMap.mp member
  refine ⟨call, inside, ?_⟩
  cases call with
  | observe isError nowTs =>
      cases same
      rfl
  | purge nowTs => cases same

/-! ### The window -/

theorem expiry (config : BreakerConfig) : Expiry config.expired := by
  constructor
  · intro now time before order
    unfold BreakerConfig.expired BreakerConfig.cutoff
    cases pyMax config.windowSec (.finite 0) with
    | finite width =>
        simp only [PyFloat.finite_sub, PyFloat.finite_lt]
        exact order.trans_lt
    | nan => exact id
    | posInf => exact id
    | negInf => exact id
  · intro now after time order
    unfold BreakerConfig.expired BreakerConfig.cutoff
    cases pyMax config.windowSec (.finite 0) with
    | finite width =>
        simp only [PyFloat.finite_sub, PyFloat.finite_lt]
        intro less
        exact less.trans_le (sub_le_sub_right order width)
    | nan => exact id
    | posInf => exact id
    | negInf => exact id

/-- The samples with timestamps from the cutoff of a time to that time. -/
def windowOf (config : BreakerConfig) (nowTs : ℚ) (samples : List Sample) : List Sample :=
  samples.filter fun sample => !config.expired nowTs sample.1 && decide (sample.1 ≤ nowTs)

theorem inOrder_observed (timely : Timely calls) : InOrder (observed calls) := by
  unfold InOrder observed
  apply List.Pairwise.filterMap BreakerCall.sample? ?_ timely
  intro first second order left ofFirst right ofSecond
  cases first with
  | purge nowTs => cases ofFirst
  | observe firstError firstTs =>
      cases second with
      | purge nowTs => cases ofSecond
      | observe secondError secondTs =>
          cases ofFirst
          cases ofSecond
          exact order

theorem BreakerCall.apply_samples (fixed3 : PyFloat → String) (breaker : Breaker)
    (call : BreakerCall) :
    (call.apply fixed3 breaker).samples =
      (breaker.samples ++ observed [call]).dropWhile
        fun sample => breaker.config.expired call.time sample.1 := by
  cases call with
  | observe isError nowTs => exact Breaker.observe_samples
  | purge nowTs =>
      change _ = (breaker.samples ++ []).dropWhile _
      rw [List.append_nil]
      rfl

theorem samples_sublist (fresh : start.samples = []) :
    (breakerAfter fixed3 start calls).samples.Sublist (observed calls) := by
  induction calls using List.reverseRecOn with
  | nil => simp [breakerAfter, fresh]
  | append_singleton calls call ih =>
      rw [breakerAfter_snoc, BreakerCall.apply_samples, observed_append]
      exact (List.dropWhile_sublist _).trans (ih.append (List.Sublist.refl _))

theorem inOrder_samples (fresh : start.samples = []) {call : BreakerCall}
    (timely : Timely (calls ++ [call])) :
    InOrder ((breakerAfter fixed3 start calls).samples ++ observed [call]) := by
  have ordered := inOrder_observed timely
  rw [observed_append] at ordered
  exact ordered.sublist ((samples_sublist fresh).append (List.Sublist.refl _))

theorem window_of_samples (fresh : start.samples = []) (timely : Timely calls) {nowTs : ℚ}
    (latest : ∀ call ∈ calls, call.time ≤ nowTs) :
    ((breakerAfter fixed3 start calls).samples.filter
        fun sample => !start.config.expired nowTs sample.1) =
      (observed calls).filter fun sample => !start.config.expired nowTs sample.1 := by
  induction calls using List.reverseRecOn with
  | nil => simp [breakerAfter, fresh, observed]
  | append_singleton calls call ih =>
      simp only [List.forall_mem_append, List.forall_mem_singleton] at latest
      have before := ih (List.pairwise_append.mp timely).1 latest.1
      rw [breakerAfter_snoc, BreakerCall.apply_samples, breakerAfter_config,
        dropWhile_eq_filter (expiry start.config) (inOrder_samples fresh timely),
        filter_filter_later (expiry start.config) latest.2, observed_append, List.filter_append,
        List.filter_append, before]

theorem record_samples (fresh : start.samples = []) {isError : Bool} {nowTs : ℚ}
    (timely : Timely (calls ++ [.observe isError nowTs])) :
    ((breakerAfter fixed3 start calls).record isError nowTs).samples =
      windowOf start.config nowTs (observed (calls ++ [.observe isError nowTs])) := by
  obtain ⟨before, -, latest⟩ := List.pairwise_append.mp timely
  have earliest (call : BreakerCall) (member : call ∈ calls) : call.time ≤ nowTs :=
    latest call member _ List.mem_cons_self
  have kept := BreakerCall.apply_samples fixed3 (breakerAfter fixed3 start calls)
    (.observe isError nowTs)
  rw [BreakerCall.apply, Breaker.observe_samples, breakerAfter_config,
    dropWhile_eq_filter (expiry start.config) (inOrder_samples fresh timely),
    List.filter_append] at kept
  rw [kept, BreakerCall.time, window_of_samples fresh before earliest, ← List.filter_append,
    ← observed_append]
  apply List.filter_congr
  intro sample member
  obtain ⟨call, inside, same⟩ := time_of_observed member
  have now : sample.1 ≤ nowTs := by
    rw [← same]
    rcases List.mem_append.mp inside with inside | inside
    · exact earliest call inside
    · rw [List.mem_singleton.mp inside]
      exact le_refl nowTs
  simp [now]

/-! ### Cooling down and recovering -/

/-- Healthy samples in a row, the first of them when the breaker has cooled down. -/
def Cooled (config : BreakerConfig) (trippedAt : ℚ) (streak : List Sample) : Prop :=
  ∃ nowTs rest, streak = (nowTs, false) :: rest ∧ (∀ sample ∈ rest, sample.2 = false) ∧
    config.cooldownSec.le (.finite (nowTs - trippedAt)) = true

theorem Cooled.snoc {config : BreakerConfig} {trippedAt nowTs : ℚ} {streak : List Sample}
    (cooled : Cooled config trippedAt streak) :
    Cooled config trippedAt (streak ++ [(nowTs, false)]) := by
  obtain ⟨first, rest, rfl, healthy, elapsed⟩ := cooled
  refine ⟨first, rest ++ [(nowTs, false)], rfl, ?_, elapsed⟩
  intro sample member
  rcases List.mem_append.mp member with member | member
  · exact healthy sample member
  · rw [List.mem_singleton.mp member]

/-- The samples since a trip let approvals pass again: there are healthy ones in a row, the
first of them after the cooldown, and enough of them where recovering breakers block. -/
def Reopened (config : BreakerConfig) (trippedAt : ℚ) (since : List Sample) : Prop :=
  ∃ before streak after, since = before ++ streak ++ after ∧ Cooled config trippedAt streak ∧
    (config.blockApprovalsWhenRecovering = true → config.recoveryHealthyTicks ≤ streak.length)

/-- How far a breaker has come since it was tripped, by the samples that came since. -/
inductive Progress (trippedAt : ℚ) (samples : List Sample) (breaker : Breaker) : Prop
  | tripped (again : ℚ) (state : breaker.state = .tripped) (since : breaker.trippedAt = some again)
      (later : trippedAt ≤ again)
  | recovering (before streak : List Sample) (state : breaker.state = .recovering)
      (split : samples = before ++ streak) (cooled : Cooled breaker.config trippedAt streak)
      (ticks : breaker.healthyTicks = streak.length)
  | healthy (before streak after : List Sample) (state : breaker.state = .healthy)
      (split : samples = before ++ streak ++ after)
      (cooled : Cooled breaker.config trippedAt streak)
      (ticks : breaker.config.recoveryHealthyTicks ≤ streak.length)

section Step

variable {trippedAt nowTs : ℚ} {samples : List Sample} {breaker : Breaker} {isError : Bool}

theorem Progress.record (progress : Progress trippedAt samples breaker) (isError : Bool)
    (nowTs : ℚ) : Progress trippedAt samples (breaker.record isError nowTs) := by
  cases progress with
  | tripped again state since later => exact .tripped again state since later
  | recovering before streak state split cooled ticks =>
      exact .recovering before streak state split cooled ticks
  | healthy before streak after state split cooled ticks =>
      exact .healthy before streak after state split cooled ticks

theorem cooled_of_elapsed {config : BreakerConfig} {since : ℚ}
    (elapsed : config.cooldownSec.le (.finite (nowTs - since)) = true) (later : trippedAt ≤ since) :
    Cooled config trippedAt [(nowTs, false)] := by
  refine ⟨nowTs, [], rfl, by simp, ?_⟩
  apply PyFloat.le_trans elapsed
  rw [PyFloat.finite_le]
  exact sub_le_sub_left later nowTs

theorem le_trippedOrNow (breaker : Breaker) {again : ℚ} (since : breaker.trippedAt = some again)
    (later : trippedAt ≤ again) (order : trippedAt ≤ nowTs) :
    trippedAt ≤ breaker.trippedOrNow nowTs := by
  unfold Breaker.trippedOrNow
  rw [since]
  simp only
  split
  · exact order
  · exact later

theorem Progress.advance (progress : Progress trippedAt samples breaker)
    (fixed3 : PyFloat → String) (isError : Bool) (order : trippedAt ≤ nowTs) :
    Progress trippedAt (samples ++ [(nowTs, isError)])
      (breaker.advance fixed3 isError nowTs).1 := by
  cases progress with
  | tripped again state since later =>
      unfold Breaker.advance Breaker.observeTripped
      rw [state]
      simp only
      split
      · rename_i recovers
        rw [Bool.and_eq_true, Bool.not_eq_true'] at recovers
        obtain ⟨rfl, elapsed⟩ := recovers
        exact .recovering samples [(nowTs, false)] rfl rfl
          (cooled_of_elapsed elapsed (le_trippedOrNow breaker since later order)) rfl
      · exact .tripped again state since later
  | recovering before streak state split cooled ticks =>
      unfold Breaker.advance Breaker.observeRecovering
      rw [state]
      simp only
      cases isError with
      | true => exact .tripped nowTs rfl rfl order
      | false =>
          have longer : ((streak ++ [(nowTs, false)]).length : Int) = breaker.healthyTicks + 1 := by
            simp [ticks]
          have split' : samples ++ [(nowTs, false)] = before ++ (streak ++ [(nowTs, false)]) := by
            simp [split]
          simp only [Bool.false_eq_true, if_false]
          split_ifs with enough
          · refine .healthy before (streak ++ [(nowTs, false)]) [] rfl ?_ cooled.snoc ?_
            · simpa using split'
            · rw [longer]
              exact enough
          · exact .recovering before (streak ++ [(nowTs, false)]) rfl split' cooled.snoc
              longer.symm
  | healthy before streak after state split cooled ticks =>
      unfold Breaker.advance Breaker.observeHealthy
      rw [state]
      simp only
      split_ifs with trips
      · exact .tripped nowTs rfl rfl order
      · refine .healthy before streak (after ++ [(nowTs, isError)]) state ?_ cooled ticks
        simp [split]

theorem Progress.call (progress : Progress trippedAt samples breaker) {call : BreakerCall}
    (fixed3 : PyFloat → String) (order : trippedAt ≤ call.time) :
    Progress trippedAt (samples ++ observed [call]) (call.apply fixed3 breaker) := by
  cases call with
  | observe isError nowTs => exact (progress.record isError nowTs).advance fixed3 isError order
  | purge nowTs =>
      change Progress trippedAt (samples ++ []) (breaker.purgeOld nowTs)
      rw [List.append_nil]
      cases progress with
      | tripped again state since later => exact .tripped again state since later
      | recovering before streak state split cooled ticks =>
          exact .recovering before streak state split cooled ticks
      | healthy before streak after state split cooled ticks =>
          exact .healthy before streak after state split cooled ticks

end Step

theorem Progress.run {trippedAt : ℚ} (progress : Progress trippedAt [] start)
    (order : ∀ call ∈ calls, trippedAt ≤ call.time) :
    Progress trippedAt (observed calls) (breakerAfter fixed3 start calls) := by
  induction calls using List.reverseRecOn with
  | nil => exact progress
  | append_singleton calls call ih =>
      simp only [List.forall_mem_append, List.forall_mem_singleton] at order
      rw [breakerAfter_snoc, observed_append]
      exact (ih order.1).call fixed3 order.2

theorem progress_of_trip {breaker : Breaker} {isError : Bool} {nowTs : ℚ}
    (before : breaker.state ≠ .tripped)
    (trips : (breaker.observe fixed3 isError nowTs).1.state = .tripped) :
    Progress nowTs [] (breaker.observe fixed3 isError nowTs).1 := by
  have since : (breaker.observe fixed3 isError nowTs).1.trippedAt = some nowTs := by
    unfold Breaker.observe Breaker.advance at trips ⊢
    simp only [Breaker.record_state] at trips ⊢
    cases state : breaker.state with
    | tripped => exact absurd state before
    | healthy =>
        rw [state] at trips
        unfold Breaker.observeHealthy at trips ⊢
        simp only at trips ⊢
        split_ifs at trips ⊢ with enough
        · rfl
        · exact absurd (state.symm.trans trips) (by decide)
    | recovering =>
        rw [state] at trips
        unfold Breaker.observeRecovering at trips ⊢
        simp only at trips ⊢
        split_ifs at trips ⊢ with wrong enough
        · rfl
        · exact absurd (state.symm.trans trips) (by decide)
  exact .tripped nowTs trips since (le_refl nowTs)

theorem Progress.allowed {trippedAt : ℚ} {samples : List Sample} {breaker : Breaker}
    (progress : Progress trippedAt samples breaker) (allowed : breaker.approvalsBlocked = false) :
    Reopened breaker.config trippedAt samples := by
  unfold Breaker.approvalsBlocked at allowed
  cases progress with
  | tripped again state since later => simp [state] at allowed
  | recovering before streak state split cooled ticks =>
      have silent : breaker.config.blockApprovalsWhenRecovering = false := by
        simpa [state] using allowed
      refine ⟨before, streak, [], by simp [split], cooled, ?_⟩
      simp [silent]
  | healthy before streak after state split cooled ticks =>
      exact ⟨before, streak, after, split, cooled, fun _ => ticks⟩

theorem observe_trips_iff {breaker : Breaker} {isError : Bool} {nowTs : ℚ}
    (healthy : breaker.state = .healthy) :
    (breaker.observe fixed3 isError nowTs).1.state = .tripped ↔
      shouldTrip breaker.config (breaker.record isError nowTs).samples.length
        (errorRate (breaker.record isError nowTs).samples) = true := by
  unfold Breaker.observe Breaker.advance Breaker.observeHealthy
  simp only [Breaker.record_state, Breaker.record_config, healthy]
  split_ifs with enough
  · simp [enough]
  · simp [enough, healthy]

end Runs

/-! ### The suite -/

inductive SuiteCall where
  | observe (feed : Feed) (isError : Bool) (nowTs : ℚ)
  | approve (times : Feed → ℚ)

def SuiteCall.apply (fixed3 : PyFloat → String) (suite : BreakerSuite) : SuiteCall → BreakerSuite
  | .observe feed isError nowTs => suite.observe fixed3 feed isError nowTs
  | .approve times => (suite.shouldBlockNewTradeApprovals times).1

def suiteAfter (fixed3 : PyFloat → String) (start : BreakerSuite) (calls : List SuiteCall) :
    BreakerSuite :=
  calls.foldl (SuiteCall.apply fixed3) start

def SuiteCall.ofFeed (feed : Feed) : SuiteCall → Option BreakerCall
  | .observe own isError nowTs => if own = feed then some (.observe isError nowTs) else none
  | .approve times => some (.purge (times feed))

def callsOf (feed : Feed) (calls : List SuiteCall) : List BreakerCall :=
  calls.filterMap (SuiteCall.ofFeed feed)

theorem suiteAfter_breaker (fixed3 : PyFloat → String) (start : BreakerSuite)
    (calls : List SuiteCall) (feed : Feed) :
    (suiteAfter fixed3 start calls).breaker feed =
      breakerAfter fixed3 (start.breaker feed) (callsOf feed calls) := by
  induction calls using List.reverseRecOn with
  | nil => rfl
  | append_singleton calls call ih =>
      have after : suiteAfter fixed3 start (calls ++ [call]) =
          call.apply fixed3 (suiteAfter fixed3 start calls) := by
        simp only [suiteAfter, List.foldl_append, List.foldl_cons, List.foldl_nil]
      have split : callsOf feed (calls ++ [call]) = callsOf feed calls ++ callsOf feed [call] :=
        List.filterMap_append
      rw [after, split, breakerAfter_append, ← ih]
      cases call with
      | observe own isError nowTs =>
          cases own <;> cases feed <;> rfl
      | approve times => cases feed <;> rfl

theorem blocked_of_breaker {suite : BreakerSuite} {times : Feed → ℚ} (feed : Feed)
    (allowed : (suite.shouldBlockNewTradeApprovals times).2.1 = false) :
    (suite.breaker feed).approvalsBlocked = false := by
  unfold BreakerSuite.shouldBlockNewTradeApprovals BreakerSuite.blockers at allowed
  simp only [decide_eq_false_iff_not, not_not, List.map_eq_nil_iff, List.filter_eq_nil_iff,
    List.mem_cons, List.not_mem_nil, or_false, forall_eq_or_imp, forall_eq,
    Bool.not_eq_true] at allowed
  obtain ⟨stale, price, broker⟩ := allowed
  cases feed with
  | staleFeed => exact stale
  | priceMismatch => exact price
  | brokerFailure => exact broker

structure JudgedByWindow (fixed3 : PyFloat → String) (breaker : Breaker) (isError : Bool)
    (nowTs : ℚ) (seen : List Sample) : Prop where
  sampleCount : (breaker.observe fixed3 isError nowTs).2.sampleCount =
    (windowOf breaker.config nowTs seen).length
  errorRate : (breaker.observe fixed3 isError nowTs).2.errorRate =
    errorRate (windowOf breaker.config nowTs seen)
  trips_iff : breaker.state = .healthy →
    ((breaker.observe fixed3 isError nowTs).2.state = .tripped ↔
      shouldTrip breaker.config (windowOf breaker.config nowTs seen).length
        (Breakers.errorRate (windowOf breaker.config nowTs seen)) = true)

def feedBreaker (fixed3 : PyFloat → String)
    (staleFeed priceMismatch brokerFailure : Option BreakerConfig) (calls : List SuiteCall)
    (feed : Feed) : Breaker :=
  (suiteAfter fixed3 (.new staleFeed priceMismatch brokerFailure) calls).breaker feed

/-- In every run of a suite whose calls come in the order of time, an observation is judged by
its window, and one that trips its breaker blocks every approval after it until the breaker
has cooled down and recovered. -/
theorem suite_blocks_after_trip (fixed3 : PyFloat → String)
    (staleFeed priceMismatch brokerFailure : Option BreakerConfig) (feed : Feed)
    (earlier later : List SuiteCall) (isError : Bool) (nowTs : ℚ)
    (timely : Timely (callsOf feed (earlier ++ .observe feed isError nowTs :: later))) :
    JudgedByWindow fixed3 (feedBreaker fixed3 staleFeed priceMismatch brokerFailure earlier feed)
        isError nowTs (observed (callsOf feed (earlier ++ [.observe feed isError nowTs]))) ∧
      ((feedBreaker fixed3 staleFeed priceMismatch brokerFailure earlier feed).state ≠ .tripped →
        ((feedBreaker fixed3 staleFeed priceMismatch brokerFailure earlier feed).observe fixed3
          isError nowTs).2.state = .tripped →
        ∀ times, ((suiteAfter fixed3 (.new staleFeed priceMismatch brokerFailure)
            (earlier ++ .observe feed isError nowTs :: later)).shouldBlockNewTradeApprovals
              times).2.1 = false →
          Reopened (feedBreaker fixed3 staleFeed priceMismatch brokerFailure earlier feed).config
            nowTs (observed (callsOf feed later))) := by
  have own : callsOf feed [.observe feed isError nowTs] = [.observe isError nowTs] := by
    simp [callsOf, SuiteCall.ofFeed]
  have first : callsOf feed (earlier ++ [.observe feed isError nowTs]) =
      callsOf feed earlier ++ [.observe isError nowTs] := by
    rw [← own]
    exact List.filterMap_append
  have all : callsOf feed (earlier ++ .observe feed isError nowTs :: later) =
      callsOf feed earlier ++ ([.observe isError nowTs] ++ callsOf feed later) := by
    rw [← own, ← List.singleton_append]
    simp only [callsOf, List.filterMap_append]
  rw [all] at timely
  have fresh : ((BreakerSuite.new staleFeed priceMismatch brokerFailure).breaker feed).samples =
      [] := by
    cases feed <;> rfl
  have reached (calls : List SuiteCall) :=
    suiteAfter_breaker fixed3 (.new staleFeed priceMismatch brokerFailure) calls feed
  unfold feedBreaker
  rw [reached, first]
  generalize (BreakerSuite.new staleFeed priceMismatch brokerFailure).breaker feed = start at *
  constructor
  · have begun : Timely (callsOf feed earlier ++ [.observe isError nowTs]) := by
      rw [← List.append_assoc] at timely
      exact (List.pairwise_append.mp timely).1
    have window : ((breakerAfter fixed3 start (callsOf feed earlier)).record isError nowTs).samples =
        windowOf (breakerAfter fixed3 start (callsOf feed earlier)).config nowTs
          (observed (callsOf feed earlier ++ [.observe isError nowTs])) := by
      rw [breakerAfter_config]
      exact record_samples fresh begun
    generalize breakerAfter fixed3 start (callsOf feed earlier) = breaker at window ⊢
    constructor
    · rw [← window]
      rfl
    · rw [← window]
      rfl
    · intro healthy
      rw [← window]
      exact observe_trips_iff healthy
  · intro before trips times allowed
    have open_ := blocked_of_breaker feed allowed
    rw [reached, all, breakerAfter_append, breakerAfter_append] at open_
    have latest : ∀ call ∈ callsOf feed later, nowTs ≤ call.time := by
      intro call member
      have after := (List.pairwise_append.mp timely).2.1
      exact (List.pairwise_cons.mp after).1 call member
    have passed := ((progress_of_trip before trips).run latest).allowed open_
    rw [breakerAfter_config, Breaker.observe_config] at passed
    exact passed

private def clearedLater : List SuiteCall :=
  [.observe .brokerFailure false 20, .observe .brokerFailure false 31,
    .observe .brokerFailure false 32, .observe .brokerFailure false 33]

private def failedEarlier : List SuiteCall :=
  [.observe .brokerFailure true 1, .observe .brokerFailure true 1,
    .observe .brokerFailure true 1]

/-- Four errors trip the breaker of broker failures, and three healthy observations clear it
once it has cooled down. -/
theorem suite_blocks_after_trip_cleared :
    Reopened (feedBreaker (fun _ => "") none none none failedEarlier .brokerFailure).config 1
      (observed (callsOf .brokerFailure clearedLater)) := by
  have timely : Timely (callsOf .brokerFailure
      (failedEarlier ++ .observe .brokerFailure true 1 :: clearedLater)) := by
    unfold Timely callsOf
    decide +kernel
  exact (suite_blocks_after_trip (fun _ => "") none none none .brokerFailure failedEarlier
    clearedLater true 1 timely).2 (by decide +kernel) (by decide +kernel) (fun _ => 33)
      (by decide +kernel)

/-- After a single healthy observation approvals pass again, by the configuration of the
suite itself, although three are needed for recovery. -/
theorem recovering_breaker_approves :
    (feedBreaker (fun _ => "") none none none
        [.observe .brokerFailure true 1, .observe .brokerFailure true 1,
          .observe .brokerFailure true 1, .observe .brokerFailure true 1] .brokerFailure).state =
      .tripped ∧
    ((suiteAfter (fun _ => "") (.new none none none)
        [.observe .brokerFailure true 1, .observe .brokerFailure true 1,
          .observe .brokerFailure true 1, .observe .brokerFailure true 1,
          .observe .brokerFailure false 31]).shouldBlockNewTradeApprovals fun _ => 31).2 =
      (false, []) ∧
    brokerFailureConfig.recoveryHealthyTicks = 3 := by
  decide +kernel

end Algotradify.Core.Breakers
