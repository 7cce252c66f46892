/-
Where the checks before a trade fail closed: over every store, clock and limits, an order
is allowed only on data whose figures are what they are compared as.

An engine that is on refuses some data whatever its limits are: a loss or a margin that is
required and missing, a loss that is infinite, a margin that is short. On other data some
limits let an order pass, so the figures must be proper.
-/

import Algotradify.Execution.PretradeRisk

namespace Algotradify.Execution.Pretrade

open Py

/-! ### Failing closed -/

def dataKeys : List String :=
  ["margin_required", "margin_available", "current_exposure_by_instrument", "daily_loss",
    "daily_pnl", "trades_last_minute", "now_epoch"]

def SameData (context data : PyDict) : Prop :=
  ∀ key ∈ dataKeys, context.get key = data.get key

instance (context : PyDict) (key : String) : Decidable (Given context key) :=
  inferInstanceAs (Decidable (_ = false))

def LossGiven (context : PyDict) : Prop :=
  Given context "daily_loss" ∨ Given context "daily_pnl"

structure Reliable (config : RiskConfig) (request : RiskRequest) (context : PyDict) : Prop where
  figures : TrueFigures request context
  loss : LossGiven context → (dailyLossAbs context).lt
    (toFloatOr (context.get "max_daily_loss") config.maxDailyLoss) = true
  lossData : config.requireDailyLossData = true → LossGiven context
  marginData : config.requireMarginData = true →
    PyFloat.lt (.finite 0) (requiredMargin request context) = true →
      Given context "margin_available"

/-- Whatever the store, the clock and the limits, an order is allowed on this data rightly. -/
def FailsClosed (config : RiskConfig) (request : RiskRequest) (data : PyDict) : Prop :=
  ∀ store (clock : ℚ) context, SameData context data →
    (evaluate config store request context (.finite clock)).allowed = true →
      Reliable config request context

inductive Refused (config : RiskConfig) (request : RiskRequest) (data : PyDict) : Prop where
  | lossMissing (required : config.requireDailyLossData = true) (missing : ¬LossGiven data)
  | lossInfinite (given : Given data "daily_loss")
      (infinite : toFloat (data.get "daily_loss") = .ok .posInf)
  | pnlInfinite (missing : ¬Given data "daily_loss") (given : Given data "daily_pnl")
      (infinite : toFloat (data.get "daily_pnl") = .ok .negInf)
  | marginMissing (required : config.requireMarginData = true)
      (asked : PyFloat.lt (.finite 0) (requiredMargin request data) = true)
      (missing : ¬Given data "margin_available")
  | marginShort (asked : PyFloat.lt (.finite 0) (requiredMargin request data) = true)
      (given : Given data "margin_available")
      (short : (requiredMargin request data * (.finite 1 + config.marginBufferPct)).le
        (availableMargin data) = false)

/-- The engine is on, and the figures are proper or the data is refused; or it is off, and
the data needs no check. -/
inductive ClosedOn (config : RiskConfig) (request : RiskRequest) (data : PyDict) : Prop where
  | proper (enabled : config.enabled = true) (figures : ProperFigures request data)
  | refused (enabled : config.enabled = true) (refused : Refused config request data)
  | unneeded (disabled : config.enabled = false) (figures : ProperFigures request data)
      (noLoss : ¬LossGiven data) (lossData : config.requireDailyLossData = false)
      (marginData : config.requireMarginData = true →
        PyFloat.lt (.finite 0) (requiredMargin request data) = true →
          Given data "margin_available")

section Checks

variable {config : RiskConfig} {request : RiskRequest} {context data : PyDict} {store : Store}
  {clock : ℚ}

theorem SameData.given (same : SameData context data) {key : String} (listed : key ∈ dataKeys) :
    Given context key ↔ Given data key := by
  unfold Given
  rw [same key listed]

theorem SameData.requiredMargin (same : SameData context data) :
    requiredMargin request context = requiredMargin request data := by
  unfold Pretrade.requiredMargin
  rw [same "margin_required" (by decide)]

theorem SameData.availableMargin (same : SameData context data) :
    availableMargin context = availableMargin data := by
  unfold Pretrade.availableMargin
  rw [same "margin_available" (by decide)]

theorem SameData.dailyLossAbs (same : SameData context data) :
    dailyLossAbs context = dailyLossAbs data := by
  unfold Pretrade.dailyLossAbs dailyLossValue
  rw [same "daily_loss" (by decide), same "daily_pnl" (by decide)]

theorem SameData.lossGiven (same : SameData context data) :
    LossGiven context ↔ LossGiven data := by
  unfold LossGiven
  rw [same.given (by decide), same.given (by decide)]

theorem SameData.properFigures (same : SameData context data)
    (proper : ProperFigures request data) : ProperFigures request context := by
  obtain ⟨quantity, exposure, margin, marginAsked, marginAvailable, exposures, loss, pnl, trades,
    now⟩ := proper
  refine ⟨quantity, exposure, margin, ?_, ?_, ?_, ?_, ?_, ?_, ?_⟩
  · rw [same.given (by decide), same "margin_required" (by decide)]
    exact marginAsked
  · rw [same.requiredMargin, same.given (by decide), same "margin_available" (by decide)]
    exact marginAvailable
  · rw [same.given (by decide), same "current_exposure_by_instrument" (by decide)]
    exact exposures
  · rw [same.given (by decide), same "daily_loss" (by decide)]
    exact loss
  · rw [same.given (by decide), same.given (by decide), same "daily_pnl" (by decide)]
    exact pnl
  · rw [same.given (by decide), same "trades_last_minute" (by decide)]
    exact trades
  · rw [same.given (by decide), same.given (by decide), same "now_epoch" (by decide)]
    exact now

theorem limitVerdict_passed_iff {name reasonCode reason : String} {passed : Bool}
    {figures details : PyDict} :
    (limitVerdict name reasonCode reason passed figures details).failure = none ↔
      passed = true := by
  cases passed <;> simp [limitVerdict]

theorem missingVerdict_passed_iff {name reasonCode reason : String} {required : Bool}
    {figures details : PyDict} :
    (missingVerdict name reasonCode reason required figures details).failure = none ↔
      required = false := by
  cases required <;> simp [missingVerdict]

theorem checkMargin_passed_iff :
    (checkMargin config (normalizeRequest request) context).failure = none ↔
      (PyFloat.lt (.finite 0) (requiredMargin request context) = true →
        if Given context "margin_available" then
          (requiredMargin request context * (.finite 1 + config.marginBufferPct)).le
            (availableMargin context) = true
        else config.requireMarginData = false) := by
  by_cases asked : PyFloat.lt (.finite 0) (requiredMargin request context) = true
  · have named := asked
    unfold requiredMargin at named
    unfold checkMargin
    dsimp only
    rw [if_pos named]
    by_cases given : Given context "margin_available"
    · have present : ¬(context.get "margin_available").isNone = true := by
        rw [given]
        exact Bool.false_ne_true
      rw [if_neg present, if_pos given, limitVerdict_passed_iff]
      exact ⟨fun covers _ => covers, fun covers => covers asked⟩
    · have absent : (context.get "margin_available").isNone = true := by
        rw [← Bool.not_eq_false]
        exact given
      rw [if_pos absent, if_neg given, missingVerdict_passed_iff]
      exact ⟨fun free _ => free, fun free => free asked⟩
  · have named := asked
    unfold requiredMargin at named
    unfold checkMargin
    dsimp only
    rw [if_neg named]
    exact iff_of_true rfl fun impossible => absurd impossible asked

theorem dailyLossValue_missing_iff :
    (dailyLossValue context).isNone = true ↔ ¬LossGiven context := by
  unfold dailyLossValue LossGiven Given
  cases loss : (context.get "daily_loss").isNone with
  | true =>
      cases pnl : (context.get "daily_pnl").isNone with
      | true => simp [PyValue.isNone]
      | false => simp [PyValue.isNone]
  | false => simp [loss]

theorem checkDailyLoss_passed_iff :
    (checkDailyLoss config context).failure = none ↔
      (LossGiven context → (dailyLossAbs context).lt
        (toFloatOr (context.get "max_daily_loss") config.maxDailyLoss) = true) ∧
      (¬LossGiven context → config.requireDailyLossData = false) := by
  unfold checkDailyLoss
  by_cases given : LossGiven context
  · have present := mt dailyLossValue_missing_iff.mp (not_not_intro given)
    rw [if_neg present, limitVerdict_passed_iff]
    exact ⟨fun within => ⟨fun _ => within, fun missing => absurd given missing⟩,
      fun passed => passed.1 given⟩
  · rw [if_pos (dailyLossValue_missing_iff.mpr given), missingVerdict_passed_iff]
    exact ⟨fun free => ⟨fun impossible => absurd impossible given, fun _ => free⟩,
      fun passed => passed.2 given⟩

theorem allowed_iff (enabled : config.enabled = true) :
    (evaluate config store request context (.finite clock)).allowed = true ↔
      ∀ verdict ∈ verdicts config store (normalizeRequest request) context
        (toFloatOr (context.get "now_epoch") (.finite clock)), verdict.failure = none := by
  unfold evaluate
  simp only [enabled, Bool.not_true, Bool.false_eq_true, if_false]
  exact runChecks_allowed

theorem allowed_of_disabled (disabled : config.enabled = false) :
    (evaluate config store request context (.finite clock)).allowed = true := by
  unfold evaluate
  simp only [disabled, Bool.not_false, if_true]

end Checks

/-! ### Refused data -/

section Refusals

variable {config : RiskConfig} {request : RiskRequest} {context data : PyDict} {store : Store}
  {clock : ℚ}

theorem eq_posInf_of_atLeastZero {value : PyFloat} (infinite : atLeastZero value = .posInf) :
    value = .posInf := by
  unfold atLeastZero at infinite
  split at infinite
  · exact infinite
  · cases infinite

theorem reads_of_toFloatOr {value : PyValue} {number : PyFloat}
    (read : toFloatOr value (.finite 0) = number) (different : number ≠ .finite 0) :
    toFloat value = .ok number := by
  unfold toFloatOr at read
  split at read
  · exact absurd read.symm different
  · cases found : toFloat value with
    | error raised =>
        rw [found] at read
        exact absurd read.symm different
    | ok own =>
        rw [found] at read
        exact congrArg Except.ok read

theorem infinite_loss_iff (given : LossGiven data) :
    dailyLossAbs data = .posInf ↔
      (Given data "daily_loss" ∧ toFloat (data.get "daily_loss") = .ok .posInf) ∨
        (¬Given data "daily_loss" ∧ Given data "daily_pnl" ∧
          toFloat (data.get "daily_pnl") = .ok .negInf) := by
  by_cases loss : Given data "daily_loss"
  · rw [dailyLossAbs_of_loss loss]
    constructor
    · intro infinite
      refine .inl ⟨loss, ?_⟩
      exact reads_of_toFloatOr (eq_posInf_of_atLeastZero infinite) (by simp)
    · rintro (⟨_, reads⟩ | ⟨missing, _⟩)
      · rw [toFloatOr_of_ok _ reads]
        rfl
      · exact absurd loss missing
  · have pnl : Given data "daily_pnl" := given.resolve_left loss
    rw [dailyLossAbs_of_pnl loss pnl]
    constructor
    · intro infinite
      refine .inr ⟨loss, pnl, ?_⟩
      split at infinite
      · next negative =>
          generalize found : toFloatOr (data.get "daily_pnl") (.finite 0) = number
            at infinite negative
          cases number with
          | finite number => cases infinite
          | nan => cases infinite
          | posInf => cases negative
          | negInf => exact reads_of_toFloatOr found (by simp)
      · cases infinite
    · rintro (⟨impossible, _⟩ | ⟨_, _, reads⟩)
      · exact absurd impossible loss
      · rw [toFloatOr_of_ok _ reads]
        rfl

theorem Refused.lossGiven_infinite (given : LossGiven data)
    (infinite : dailyLossAbs data = .posInf) : Refused config request data := by
  rcases (infinite_loss_iff given).mp infinite with ⟨loss, reads⟩ | ⟨missing, pnl, reads⟩
  · exact .lossInfinite loss reads
  · exact .pnlInfinite missing pnl reads

theorem not_allowed_of_refused (enabled : config.enabled = true)
    (refused : Refused config request data) (same : SameData context data) :
    ¬(evaluate config store request context (.finite clock)).allowed = true := by
  intro allowed
  have passed := (allowed_iff enabled).mp allowed
  unfold verdicts at passed
  simp only [List.forall_mem_cons] at passed
  obtain ⟨margin, _, loss, _⟩ := passed
  rw [checkMargin_passed_iff, same.requiredMargin, same.availableMargin] at margin
  rw [checkDailyLoss_passed_iff, same.lossGiven, same.dailyLossAbs] at loss
  have infinite (given : LossGiven data) (unbounded : dailyLossAbs data = .posInf) : False := by
    have below := loss.1 given
    rw [unbounded] at below
    cases limit : toFloatOr (context.get "max_daily_loss") config.maxDailyLoss <;>
      rw [limit] at below <;> cases below
  cases refused with
  | lossMissing required missing =>
      rw [loss.2 missing] at required
      cases required
  | lossInfinite given reads =>
      exact infinite (.inl given) ((infinite_loss_iff (.inl given)).mpr (.inl ⟨given, reads⟩))
  | pnlInfinite missing given reads =>
      exact infinite (.inr given)
        ((infinite_loss_iff (.inr given)).mpr (.inr ⟨missing, given, reads⟩))
  | marginMissing required asked missing =>
      have free := margin asked
      rw [if_neg (mt (same.given (by decide)).mp missing), required] at free
      cases free
  | marginShort asked given short =>
      have covers := margin asked
      rw [if_pos ((same.given (by decide)).mpr given), short] at covers
      cases covers

/-! ### Data that is not refused -/

def unlimited (data : PyDict) : PyDict :=
  (((data.set "max_exposure_per_instrument" (.float .posInf)).set "max_daily_loss"
    (.float .posInf)).set "max_correlated_exposure" (.float .posInf)).set "max_trades_per_minute"
      (.int (givenTrades data + 1))

theorem unlimited_sameData (data : PyDict) : SameData (unlimited data) data := by
  intro key listed
  have apart : key ≠ "max_exposure_per_instrument" ∧ key ≠ "max_daily_loss" ∧
      key ≠ "max_correlated_exposure" ∧ key ≠ "max_trades_per_minute" := by
    revert key
    decide
  obtain ⟨exposure, loss, correlated, trades⟩ := apart
  unfold unlimited
  rw [PyDict.get_set_of_ne _ _ trades, PyDict.get_set_of_ne _ _ correlated,
    PyDict.get_set_of_ne _ _ loss, PyDict.get_set_of_ne _ _ exposure]

theorem nonneg_add {left right : PyFloat} (leftNonneg : (PyFloat.finite 0).le left = true)
    (rightNonneg : (PyFloat.finite 0).le right = true) :
    (PyFloat.finite 0).le (left + right) = true := by
  cases left with
  | nan => cases leftNonneg
  | negInf => cases leftNonneg
  | posInf =>
      cases right with
      | nan => cases rightNonneg
      | negInf => cases rightNonneg
      | posInf => rfl
      | finite number => rfl
  | finite value =>
      cases right with
      | nan => cases rightNonneg
      | negInf => cases rightNonneg
      | posInf => rfl
      | finite number =>
          rw [PyFloat.finite_le] at leftNonneg rightNonneg
          rw [PyFloat.finite_add, PyFloat.finite_le]
          linarith

theorem le_posInf {value : PyFloat} (nonneg : (PyFloat.finite 0).le value = true) :
    value.le .posInf = true := by
  cases value with
  | nan => cases nonneg
  | negInf => cases nonneg
  | posInf => rfl
  | finite number => rfl

theorem unlimited_exposure (request : RiskRequest) :
    (checkExposure config request (unlimited data)).failure = none := by
  have limit : toFloatOr ((unlimited data).get "max_exposure_per_instrument")
      config.maxExposurePerInstrument = .posInf := by
    unfold unlimited
    rw [PyDict.get_set_of_ne _ _ (by decide), PyDict.get_set_of_ne _ _ (by decide),
      PyDict.get_set_of_ne _ _ (by decide), PyDict.get_set_self]
    rfl
  unfold checkExposure
  dsimp only
  rw [limitVerdict_passed_iff, limit]
  exact le_posInf (nonneg_add (atLeastZero_nonneg _) (atLeastZero_nonneg _))

theorem unlimited_correlation (request : RiskRequest) :
    (checkCorrelation config request (unlimited data)).failure = none := by
  have limit : toFloatOr ((unlimited data).get "max_correlated_exposure")
      config.maxCorrelatedExposure = .posInf := by
    unfold unlimited
    rw [PyDict.get_set_of_ne _ _ (by decide), PyDict.get_set_self]
    rfl
  unfold checkCorrelation
  dsimp only
  rw [limitVerdict_passed_iff, limit]
  apply le_posInf
  apply nonneg_add _ (atLeastZero_nonneg _)
  refine List.foldlRecOn (motive := fun total => (PyFloat.finite 0).le total = true) _ _ ?_ ?_
  · rfl
  · intro total nonneg entry _
    split
    · exact nonneg_add nonneg (atLeastZero_nonneg _)
    split
    · exact nonneg_add nonneg (atLeastZero_nonneg _)
    · exact nonneg

theorem unlimited_rate (now : PyFloat) :
    (checkTradeRate config .empty (unlimited data) now).failure = none := by
  have limit : (unlimited data).get "max_trades_per_minute" = .int (givenTrades data + 1) := by
    unfold unlimited
    rw [PyDict.get_set_self]
  have counted := unlimited_sameData data "trades_last_minute" (by decide)
  have nonneg : 0 ≤ givenTrades data := le_max_left _ _
  have few : tradesLastMinute .empty (unlimited data) now ≤ givenTrades data := by
    unfold tradesLastMinute
    split
    · exact nonneg
    · rw [counted]
      rfl
  have below : tradesLimit config (unlimited data) = max 1 (givenTrades data + 1) := by
    unfold tradesLimit
    rw [limit]
    rfl
  unfold checkTradeRate
  dsimp only
  rw [limitVerdict_passed_iff, decide_eq_true_eq, below]
  omega

theorem unlimited_loss (unrefused : ¬Refused config request data) :
    (checkDailyLoss config (unlimited data)).failure = none := by
  have limit : toFloatOr ((unlimited data).get "max_daily_loss") config.maxDailyLoss = .posInf := by
    unfold unlimited
    rw [PyDict.get_set_of_ne _ _ (by decide), PyDict.get_set_of_ne _ _ (by decide),
      PyDict.get_set_self]
    rfl
  have same := unlimited_sameData data
  rw [checkDailyLoss_passed_iff, limit, same.lossGiven, same.dailyLossAbs]
  constructor
  · intro given
    have nonneg : (PyFloat.finite 0).le (dailyLossAbs data) = true := atLeastZero_nonneg _
    cases loss : dailyLossAbs data with
    | finite number => rfl
    | posInf => exact absurd (Refused.lossGiven_infinite given loss) unrefused
    | nan =>
        rw [loss] at nonneg
        cases nonneg
    | negInf =>
        rw [loss] at nonneg
        cases nonneg
  · intro missing
    cases required : config.requireDailyLossData with
    | true => exact absurd (.lossMissing required missing) unrefused
    | false => rfl

theorem unlimited_margin (unrefused : ¬Refused config request data) :
    (checkMargin config (normalizeRequest request) (unlimited data)).failure = none := by
  have same := unlimited_sameData data
  rw [checkMargin_passed_iff, same.requiredMargin, same.availableMargin]
  intro asked
  by_cases given : Given data "margin_available"
  · rw [if_pos ((same.given (by decide)).mpr given)]
    rw [← Bool.not_eq_false]
    intro short
    exact unrefused (.marginShort asked given short)
  · rw [if_neg (mt (same.given (by decide)).mp given)]
    cases required : config.requireMarginData with
    | true => exact absurd (.marginMissing required asked given) unrefused
    | false => rfl

theorem exists_allowed (enabled : config.enabled = true)
    (unrefused : ¬Refused config request data) :
    (evaluate config .empty request (unlimited data) (.finite clock)).allowed = true := by
  rw [allowed_iff enabled]
  unfold verdicts
  simp only [List.forall_mem_cons, List.not_mem_nil, IsEmpty.forall_iff, implies_true, and_true]
  refine ⟨unlimited_margin unrefused, unlimited_exposure _, unlimited_loss unrefused,
    unlimited_rate _, unlimited_correlation _, ?_⟩
  unfold checkDuplicate
  dsimp only
  rw [limitVerdict_passed_iff]
  unfold lookupDuplicateSignal
  split <;> rfl

end Refusals

/-! ### Where the checks fail closed -/

theorem reliable_of_allowed {config : RiskConfig} {request : RiskRequest} {context : PyDict}
    {store : Store} {clock : ℚ} (enabled : config.enabled = true)
    (proper : ProperFigures request context)
    (allowed : (evaluate config store request context (.finite clock)).allowed = true) :
    Reliable config request context := by
  have passed := (allowed_iff enabled).mp allowed
  unfold verdicts at passed
  simp only [List.forall_mem_cons] at passed
  obtain ⟨margin, _, loss, _⟩ := passed
  rw [checkMargin_passed_iff] at margin
  rw [checkDailyLoss_passed_iff] at loss
  refine ⟨(trueFigures_iff request context).mpr proper, loss.1, ?_, ?_⟩
  · intro required
    by_contra missing
    rw [loss.2 missing] at required
    cases required
  · intro required asked
    by_contra missing
    have free := margin asked
    rw [if_neg missing, required] at free
    cases free

/-- A limit of zero on the daily loss, which no loss is below. -/
def lossless (data : PyDict) : PyDict :=
  data.set "max_daily_loss" (.float (.finite 0))

theorem lossless_sameData (data : PyDict) : SameData (lossless data) data := by
  intro key listed
  have apart : key ≠ "max_daily_loss" := by
    revert key
    decide
  exact PyDict.get_set_of_ne _ _ apart

theorem closedOn_of_disabled {config : RiskConfig} {request : RiskRequest} {data : PyDict}
    (disabled : config.enabled = false) (closed : FailsClosed config request data) :
    ClosedOn config request data := by
  have plain := closed .empty 0 data (fun _ _ => rfl) (allowed_of_disabled disabled)
  have noLoss : ¬LossGiven data := by
    intro given
    have same := lossless_sameData data
    have reliable := closed .empty 0 (lossless data) same (allowed_of_disabled disabled)
    have below := reliable.loss (same.lossGiven.mpr given)
    have limit : toFloatOr ((lossless data).get "max_daily_loss") config.maxDailyLoss =
        .finite 0 := by
      unfold lossless
      rw [PyDict.get_set_self]
      rfl
    rw [limit] at below
    have nonneg : (PyFloat.finite 0).le (dailyLossAbs (lossless data)) = true :=
      atLeastZero_nonneg _
    rw [PyFloat.not_lt_of_le nonneg] at below
    cases below
  refine .unneeded disabled ((trueFigures_iff request data).mp plain.figures) noLoss ?_
    plain.marginData
  cases required : config.requireDailyLossData with
  | true => exact absurd (plain.lossData required) noLoss
  | false => rfl

/-- The checks fail closed on exactly the data whose figures are proper, or that is refused
whatever the limits are. -/
theorem failsClosed_iff (config : RiskConfig) (request : RiskRequest) (data : PyDict) :
    FailsClosed config request data ↔ ClosedOn config request data := by
  constructor
  · intro closed
    cases on : config.enabled with
    | false => exact closedOn_of_disabled on closed
    | true =>
        by_cases refused : Refused config request data
        · exact .refused on refused
        · have same := unlimited_sameData data
          have reliable := closed .empty 0 _ same (exists_allowed on refused)
          have proper := (trueFigures_iff _ _).mp reliable.figures
          exact .proper on
            (SameData.properFigures (fun key listed => (same key listed).symm) proper)
  · intro holds store clock context same allowed
    cases holds with
    | proper enabled figures =>
        exact reliable_of_allowed enabled (same.properFigures figures) allowed
    | refused enabled refused =>
        exact absurd allowed (not_allowed_of_refused enabled refused same)
    | unneeded disabled figures noLoss lossData marginData =>
        refine ⟨(trueFigures_iff request context).mpr (same.properFigures figures), ?_, ?_, ?_⟩
        · intro given
          exact absurd (same.lossGiven.mp given) noLoss
        · intro required
          rw [lossData] at required
          cases required
        · rw [same.requiredMargin, same.given (by decide)]
          exact marginData

def strictConfig : RiskConfig :=
  { requireDailyLossData := true }

def smallRequest : RiskRequest :=
  { signalId := "S1"
    instrument := "NIFTY"
    side := "BUY"
    quantity := .finite 1
    timestamp := .finite 0 }

/-- A daily loss that is no number passes as no loss, though the loss is required. -/
theorem nan_loss_allowed :
    ¬∀ config request data, FailsClosed config request data := by
  intro always
  have allowed : (evaluate strictConfig .empty smallRequest
      [("daily_loss", .float .nan)] (.finite 0)).allowed = true := by decide +kernel
  have reliable := always strictConfig smallRequest [("daily_loss", .float .nan)] .empty 0 _
    (fun _ _ => rfl) allowed
  obtain ⟨number, reads, _⟩ := reliable.figures.loss rfl
  cases reads

end Algotradify.Execution.Pretrade
