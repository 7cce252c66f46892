/-
The checks of an order before it is sent, against limits and against the decisions that
the store has recorded.

The context of an evaluation is what the caller hands over; the keys of its correlations
are texts here, those of the configured ones texts or pairs. Reading the store does not
fail; recording a decision is one transaction.

The figures that an order is checked on before it is sent, as they are given and as they
are compared.

Every figure is read with a default and cut at zero before it is compared, so a figure that
is no number, or has the wrong sign, is compared as another one. The figures compared are
the ones given exactly where each is a number of the right sign.
-/

import Algotradify.Orders.StateMachine
import Algotradify.Py.Convert
import Mathlib.Data.List.Forall2
import Mathlib.Tactic.Linarith

namespace Algotradify.Execution.Pretrade

open Py Sql

/-! ### Reading values -/

/-- `_to_float`. -/
def toFloatOr (value : PyValue) (fallback : PyFloat) : PyFloat :=
  if value.isNone then fallback else (toFloat value).toOption.getD fallback

/-- `_to_int`. -/
def toIntOr (value : PyValue) (fallback : Int) : Int :=
  if value.isNone then fallback else (toInt value).toOption.getD fallback

/-- `max(0.0, value)`. -/
def atLeastZero (value : PyFloat) : PyFloat :=
  if PyFloat.lt (.finite 0) value then value else .finite 0

/-- `_normalize_instrument` and `_normalize_side`. -/
def normalizeName (text : String) : String :=
  let out := upper (strip text)
  if out = "" then "UNKNOWN" else out

/-! ### Configuration, requests and decisions -/

inductive CorrelationKey where
  | pair (first second : String)
  | text (key : String)

/-- The limits of an engine; a duplicate window below zero is configured as zero, and a
rate below one as one. -/
structure RiskConfig where
  enabled : Bool := true
  marginBufferPct : PyFloat := .finite (5 / 100)
  maxExposurePerInstrument : PyFloat := .finite 1000000000
  maxDailyLoss : PyFloat := .finite 1000000000
  maxTradesPerMinute : Int := 20
  maxCorrelatedExposure : PyFloat := .finite 1000000000
  duplicateWindowSec : PyFloat := .finite 300
  correlationThreshold : PyFloat := .finite (75 / 100)
  requireMarginData : Bool := false
  requireDailyLossData : Bool := false
  symbolCorrelations : List (CorrelationKey × PyValue) :=
    [(.pair "BANKNIFTY" "NIFTY", .float (.finite (85 / 100))),
      (.pair "NIFTY" "SENSEX", .float (.finite (90 / 100))),
      (.pair "BANKNIFTY" "SENSEX", .float (.finite (80 / 100)))]
  rate_positive : 1 ≤ maxTradesPerMinute := by decide
  window_nonneg : (PyFloat.finite 0).le duplicateWindowSec = true := by decide

theorem standardWindow_nonneg : (PyFloat.finite 0).le (.finite 300) = true := by
  decide

theorem standardRate_positive : (1 : Int) ≤ 20 := by
  decide

structure RiskRequest where
  signalId : String
  instrument : String
  side : String
  quantity : PyFloat
  timestamp : PyFloat
  exposure : PyFloat := .finite 0
  marginRequired : Option PyFloat := none

def normalizeRequest (request : RiskRequest) : RiskRequest :=
  { signalId := strip request.signalId
    instrument := normalizeName request.instrument
    side := normalizeName request.side
    quantity := atLeastZero request.quantity
    timestamp := request.timestamp
    exposure := atLeastZero request.exposure
    marginRequired := request.marginRequired.map atLeastZero }

structure RiskDecision where
  allowed : Bool
  reasonCode : String
  reason : String
  checks : List PyDict
  context : PyDict

/-! ### The store -/

structure RiskEvent where
  tsEpoch : SqlReal
  signalId : String
  instrument : String
  side : String
  quantity : PyFloat
  exposure : PyFloat
  decision : String
  reasonCode : String
  orderId : Option String
deriving DecidableEq

structure RegistryRow where
  lastSeenTs : SqlReal
  hits : ℕ
deriving DecidableEq

abbrev SignalKey := String × String × String

structure Store where
  events : List RiskEvent
  registry : Table SignalKey RegistryRow
deriving DecidableEq

def Store.empty : Store := ⟨[], []⟩

def RiskRequest.key (request : RiskRequest) : SignalKey :=
  (request.signalId, request.instrument, request.side)

def RiskEvent.key (event : RiskEvent) : SignalKey :=
  (event.signalId, event.instrument, event.side)

/-- `_lookup_duplicate_signal`. -/
def lookupDuplicateSignal (config : RiskConfig) (store : Store) (request : RiskRequest)
    (now : PyFloat) : Bool × Option PyFloat :=
  if request.signalId = "" then (false, none)
  else
    match store.registry.select request.key with
    | none => (false, none)
    | some row =>
        if config.duplicateWindowSec.le (.finite 0) then (false, some row.lastSeenTs.value)
        else
          ((now - row.lastSeenTs.value).le config.duplicateWindowSec, some row.lastSeenTs.value)

/-- `_recent_accepted_trade_count`, over the last minute. -/
def recentAcceptedTradeCount (store : Store) (now : PyFloat) : ℕ :=
  store.events.countP fun event =>
    decide (event.decision = "ACCEPTED") &&
      SqlReal.atLeast (some event.tsEpoch) (now - .finite 60)

def riskEvent (request : RiskRequest) (accepted : Bool) (reasonCode : String)
    (orderId : Option String) (now : SqlReal) : RiskEvent :=
  { tsEpoch := now
    signalId := request.signalId
    instrument := request.instrument
    side := request.side
    quantity := request.quantity
    exposure := request.exposure
    decision := if accepted then "ACCEPTED" else "REJECTED"
    reasonCode := if reasonCode = "" then "UNKNOWN" else reasonCode
    orderId := orderId }

/-- `record_decision`. -/
def recordDecision (context : Orders.CallContext) (request : RiskRequest) (accepted : Bool)
    (reasonCode : String) (orderId : Option String) (store : Store) :
    Except Orders.OrderError Store := do
  let request := normalizeRequest request
  Orders.beginImmediate context
  match SqlReal.bind context.clock with
  | none => .error (.integrityError "NOT NULL constraint failed: pretrade_risk_events.ts_epoch")
  | some now =>
      pure
        { events := store.events ++ [riskEvent request accepted reasonCode orderId now]
          registry :=
            if accepted ∧ request.signalId ≠ "" then
              store.registry.upsert request.key ⟨now, 1⟩ fun row => ⟨now, row.hits + 1⟩
            else store.registry }

/-! ### The checks -/

structure Failure where
  reasonCode : String
  reason : String
  details : PyDict

/-- What a check appends to the list of checks, and how it fails. -/
structure Verdict where
  check : PyDict
  failure : Option Failure

def checkEntry (name : String) (passed : Bool) (reasonCode : String) (figures : PyDict) : PyDict :=
  [("name", .str name), ("passed", .bool passed), ("reason_code", .str reasonCode)] ++ figures

def limitVerdict (name reasonCode reason : String) (passed : Bool) (figures details : PyDict) :
    Verdict :=
  { check := checkEntry name passed (if passed then "OK" else reasonCode) figures
    failure := if passed then none else some ⟨reasonCode, reason, details⟩ }

/-- A check without its data: skipped, or failed where the data is required. -/
def missingVerdict (name reasonCode reason : String) (required : Bool) (figures details : PyDict) :
    Verdict :=
  { check := checkEntry name (!required) (if required then reasonCode else "SKIPPED") figures
    failure := if required then some ⟨reasonCode, reason, details⟩ else none }

def checkMargin (config : RiskConfig) (request : RiskRequest) (context : PyDict) : Verdict :=
  let asked := request.marginRequired.getD
    (toFloatOr (context.get "margin_required") request.exposure)
  let required := atLeastZero asked
  if PyFloat.lt (.finite 0) required then
    if (context.get "margin_available").isNone then
      missingVerdict "margin_availability" "MARGIN_DATA_MISSING" "margin_data_missing"
        config.requireMarginData [("required", .float required)]
        [("margin_required", .float required)]
    else
      let available := atLeastZero (toFloatOr (context.get "margin_available") (.finite 0))
      let buffered := required * (.finite 1 + config.marginBufferPct)
      let figures : PyDict :=
        [("margin_available", .float available), ("margin_required", .float required),
          ("margin_required_buffered", .float buffered)]
      limitVerdict "margin_availability" "INSUFFICIENT_MARGIN" "insufficient_margin"
        (buffered.le available) figures figures
  else
    { check := checkEntry "margin_availability" true "SKIPPED"
        [("margin_required", .float required)]
      failure := none }

/-- `_coerce_exposure_map`. -/
def coerceExposureMap (value : PyValue) : List (String × PyFloat) :=
  value.asDict.foldl (fun out entry =>
    Assoc.set out (normalizeName entry.1) (atLeastZero (toFloatOr entry.2 (.finite 0)))) []

def checkExposure (config : RiskConfig) (request : RiskRequest) (context : PyDict) : Verdict :=
  let exposures := coerceExposureMap (context.get "current_exposure_by_instrument")
  let current := atLeastZero ((exposures.lookup request.instrument).getD (.finite 0))
  let projected := current + atLeastZero request.exposure
  let limit := toFloatOr (context.get "max_exposure_per_instrument")
    config.maxExposurePerInstrument
  limitVerdict "max_exposure_per_instrument" "MAX_EXPOSURE_PER_INSTRUMENT"
    "max_exposure_per_instrument_breached" (projected.le limit)
    [("current_exposure", .float current), ("requested_exposure", .float request.exposure),
      ("projected_exposure", .float projected), ("max_exposure_per_instrument", .float limit)]
    [("projected_exposure", .float projected), ("max_exposure_per_instrument", .float limit)]

def dailyLossValue (context : PyDict) : PyValue :=
  if (context.get "daily_loss").isNone then
    if (context.get "daily_pnl").isNone then .none
    else
      let pnl := toFloatOr (context.get "daily_pnl") (.finite 0)
      .float (if pnl.lt (.finite 0) then pnl.abs else .finite 0)
  else context.get "daily_loss"

def dailyLossAbs (context : PyDict) : PyFloat :=
  atLeastZero (toFloatOr (dailyLossValue context) (.finite 0))

def checkDailyLoss (config : RiskConfig) (context : PyDict) : Verdict :=
  if (dailyLossValue context).isNone then
    missingVerdict "max_daily_loss" "DAILY_LOSS_DATA_MISSING" "daily_loss_data_missing"
      config.requireDailyLossData [] []
  else
    let limit := toFloatOr (context.get "max_daily_loss") config.maxDailyLoss
    let figures : PyDict :=
      [("daily_loss", .float (dailyLossAbs context)), ("max_daily_loss", .float limit)]
    limitVerdict "max_daily_loss" "MAX_DAILY_LOSS" "max_daily_loss_breached"
      ((dailyLossAbs context).lt limit) figures figures

def tradesLastMinute (store : Store) (context : PyDict) (now : PyFloat) : Int :=
  if (context.get "trades_last_minute").isNone then recentAcceptedTradeCount store now
  else max 0 (toIntOr (context.get "trades_last_minute") 0)

def tradesLimit (config : RiskConfig) (context : PyDict) : Int :=
  max 1 (toIntOr (context.get "max_trades_per_minute") config.maxTradesPerMinute)

def checkTradeRate (config : RiskConfig) (store : Store) (context : PyDict) (now : PyFloat) :
    Verdict :=
  let figures : PyDict :=
    [("trades_last_minute", .int (tradesLastMinute store context now)),
      ("max_trades_per_minute", .int (tradesLimit config context))]
  limitVerdict "max_trades_per_minute" "MAX_TRADES_PER_MINUTE" "max_trades_per_minute_breached"
    (decide (tradesLastMinute store context now < tradesLimit config context)) figures figures

def sortedPair (first second : String) : String × String :=
  if first ≤ second then (first, second) else (second, first)

def CorrelationKey.instruments : CorrelationKey → Option (String × String)
  | .pair first second => some (sortedPair (normalizeName first) (normalizeName second))
  | .text key =>
      let parts := (key.toList.map fun char =>
        if char = '|' ∨ char = ':' then ',' else char).splitOn ','
      match (parts.map fun part => strip (String.ofList part)).filter (· ≠ "") with
      | [first, second] => some (sortedPair (normalizeName first) (normalizeName second))
      | _ => none

/-- `_normalize_correlations`. -/
def normalizeCorrelations (raw : List (CorrelationKey × PyValue)) :
    List ((String × String) × PyFloat) :=
  raw.foldl (fun out entry =>
    match entry.1.instruments with
    | some names => Assoc.set out names (toFloatOr entry.2 (.finite 0))
    | none => out) []

def correlationsOf (config : RiskConfig) (context : PyDict) : List (CorrelationKey × PyValue) :=
  if context.contains "correlations" then
    (context.get "correlations").asDict.map fun entry => (.text entry.1, entry.2)
  else config.symbolCorrelations

def checkCorrelation (config : RiskConfig) (request : RiskRequest) (context : PyDict) : Verdict :=
  let threshold := toFloatOr (context.get "correlation_threshold") config.correlationThreshold
  let limit := toFloatOr (context.get "max_correlated_exposure") config.maxCorrelatedExposure
  let correlations := normalizeCorrelations (correlationsOf config context)
  let exposures := coerceExposureMap (context.get "current_exposure_by_instrument")
  let current := exposures.foldl (fun total entry =>
    if entry.1 = request.instrument then total + atLeastZero entry.2
    else if threshold.le
        ((correlations.lookup (sortedPair request.instrument entry.1)).getD (.finite 0)) then
      total + atLeastZero entry.2
    else total) (.finite 0)
  let projected := current + atLeastZero request.exposure
  limitVerdict "correlated_exposure_limit" "CORRELATED_EXPOSURE_LIMIT"
    "correlated_exposure_limit_breached" (projected.le limit)
    [("correlated_current_exposure", .float current),
      ("requested_exposure", .float request.exposure),
      ("projected_correlated_exposure", .float projected),
      ("max_correlated_exposure", .float limit), ("correlation_threshold", .float threshold)]
    [("projected_correlated_exposure", .float projected), ("max_correlated_exposure", .float limit)]

def checkDuplicate (config : RiskConfig) (store : Store) (request : RiskRequest) (now : PyFloat) :
    Verdict :=
  let found := lookupDuplicateSignal config store request now
  limitVerdict "duplicate_signal_detection" "DUPLICATE_SIGNAL" "duplicate_signal_detected"
    (!found.1)
    [("duplicate_window_sec", .float config.duplicateWindowSec),
      ("last_seen_ts", ofOptionFloat found.2)]
    [("signal_id", .str request.signalId), ("last_seen_ts", ofOptionFloat found.2),
      ("duplicate_window_sec", .float config.duplicateWindowSec)]

/-! ### The evaluation -/

def requestContext (request : RiskRequest) : PyDict :=
  [("signal_id", .str request.signalId), ("instrument", .str request.instrument),
    ("side", .str request.side), ("quantity", .float request.quantity),
    ("exposure", .float request.exposure)]

def failedDecision (request : RiskRequest) (checks : List PyDict) (failure : Failure) :
    RiskDecision :=
  { allowed := false
    reasonCode := failure.reasonCode
    reason := failure.reason
    checks := checks
    context := requestContext request ++ [("details", .dict failure.details)] }

def runChecks (request : RiskRequest) (figures : PyDict) :
    List Verdict → List PyDict → RiskDecision
  | [], checks =>
      { allowed := true
        reasonCode := "OK"
        reason := "pretrade_checks_passed"
        checks := checks
        context := requestContext request ++ figures }
  | verdict :: rest, checks =>
      match verdict.failure with
      | some failure => failedDecision request (checks ++ [verdict.check]) failure
      | none => runChecks request figures rest (checks ++ [verdict.check])

def verdicts (config : RiskConfig) (store : Store) (request : RiskRequest) (context : PyDict)
    (now : PyFloat) : List Verdict :=
  [checkMargin config request context, checkExposure config request context,
    checkDailyLoss config context, checkTradeRate config store context now,
    checkCorrelation config request context, checkDuplicate config store request now]

def evaluate (config : RiskConfig) (store : Store) (request : RiskRequest) (context : PyDict)
    (clock : PyFloat) : RiskDecision :=
  let request := normalizeRequest request
  let now := toFloatOr (context.get "now_epoch") clock
  if !config.enabled then
    { allowed := true
      reasonCode := "PRETRADE_RISK_DISABLED"
      reason := "pretrade_risk_disabled"
      checks := [checkEntry "pretrade_risk_enabled" true "PRETRADE_RISK_DISABLED" []]
      context := [("instrument", .str request.instrument), ("side", .str request.side)] }
  else
    runChecks request
      [("daily_loss", .float (dailyLossAbs context)),
        ("trades_last_minute", .int (tradesLastMinute store context now))]
      (verdicts config store request context now) []

/-! ### What an allowed order has passed -/

theorem runChecks_allowed {request : RiskRequest} {figures : PyDict} {verdicts : List Verdict}
    {checks : List PyDict} :
    (runChecks request figures verdicts checks).allowed = true ↔
      ∀ verdict ∈ verdicts, verdict.failure = none := by
  induction verdicts generalizing checks with
  | nil =>
      exact iff_of_true rfl fun _ impossible => nomatch impossible
  | cons verdict rest ih =>
      rw [List.forall_mem_cons]
      unfold runChecks
      cases verdict.failure with
      | some failure =>
          constructor
          · intro impossible
            cases impossible
          · intro passed
            cases passed.1
      | none =>
          rw [ih]
          constructor
          · intro passed
            exact ⟨rfl, passed⟩
          · intro passed
            exact passed.2

theorem limitVerdict_passed {name reasonCode reason : String} {passed : Bool}
    {figures details : PyDict}
    (allowed : (limitVerdict name reasonCode reason passed figures details).failure = none) :
    passed = true := by
  cases passed with
  | true => rfl
  | false => cases allowed

theorem allowed_within {config : RiskConfig} {store : Store} {request : RiskRequest}
    {context : PyDict} {clock : PyFloat} (enabled : config.enabled = true)
    (allowed : (evaluate config store request context clock).allowed = true) :
    tradesLastMinute store context (toFloatOr (context.get "now_epoch") clock) <
        tradesLimit config context ∧
      (lookupDuplicateSignal config store (normalizeRequest request)
        (toFloatOr (context.get "now_epoch") clock)).1 = false := by
  unfold evaluate at allowed
  simp only [enabled, Bool.not_true, Bool.false_eq_true, if_false] at allowed
  have passed := runChecks_allowed.mp allowed
  unfold verdicts at passed
  simp only [List.forall_mem_cons] at passed
  obtain ⟨_, _, _, rate, _, duplicate, _⟩ := passed
  constructor
  · exact of_decide_eq_true (limitVerdict_passed rate)
  · have fresh := limitVerdict_passed duplicate
    rwa [Bool.not_eq_true'] at fresh

/-! ### Figures -/

def Given (context : PyDict) (key : String) : Prop :=
  (context.get key).isNone = false

def IsFigure (value : PyValue) : Prop :=
  ∃ number, toFloat value = .ok number ∧ (PyFloat.finite 0).le number = true

structure IsCount (value : PyValue) (count : ℤ) : Prop where
  reads : toInt value = .ok count
  whole : ∀ number, value = .float number → number = .finite count

def requiredMargin (request : RiskRequest) (context : PyDict) : PyFloat :=
  atLeastZero ((normalizeRequest request).marginRequired.getD
    (toFloatOr (context.get "margin_required") (normalizeRequest request).exposure))

def availableMargin (context : PyDict) : PyFloat :=
  atLeastZero (toFloatOr (context.get "margin_available") (.finite 0))

def givenTrades (context : PyDict) : ℤ :=
  max 0 (toIntOr (context.get "trades_last_minute") 0)

structure TrueFigures (request : RiskRequest) (context : PyDict) : Prop where
  quantity : (normalizeRequest request).quantity = request.quantity
  exposure : (normalizeRequest request).exposure = request.exposure
  margin : ∀ margin, request.marginRequired = some margin →
    requiredMargin request context = margin
  marginAsked : request.marginRequired = none → Given context "margin_required" →
    toFloat (context.get "margin_required") = .ok (requiredMargin request context)
  marginAvailable : PyFloat.lt (.finite 0) (requiredMargin request context) = true →
    Given context "margin_available" →
      toFloat (context.get "margin_available") = .ok (availableMargin context)
  exposures : Given context "current_exposure_by_instrument" →
    ∃ entries, context.get "current_exposure_by_instrument" = .dict entries ∧
      List.Forall₂ (fun entry taken =>
          taken.1 = normalizeName entry.1 ∧ toFloat entry.2 = .ok taken.2)
        entries (coerceExposureMap (.dict entries))
  loss : Given context "daily_loss" → ∃ number : ℚ,
    toFloat (context.get "daily_loss") = .ok (.finite number) ∧
      dailyLossAbs context = .finite number
  pnl : ¬Given context "daily_loss" → Given context "daily_pnl" → ∃ number : ℚ,
    toFloat (context.get "daily_pnl") = .ok (.finite number) ∧
      dailyLossAbs context = .finite (max 0 (-number))
  trades : Given context "trades_last_minute" →
    IsCount (context.get "trades_last_minute") (givenTrades context)
  now : ¬Given context "trades_last_minute" → Given context "now_epoch" →
    ∃ time : ℚ, toFloat (context.get "now_epoch") = .ok (.finite time)

structure ProperFigures (request : RiskRequest) (context : PyDict) : Prop where
  quantity : (PyFloat.finite 0).le request.quantity = true
  exposure : (PyFloat.finite 0).le request.exposure = true
  margin : ∀ margin, request.marginRequired = some margin → (PyFloat.finite 0).le margin = true
  marginAsked : request.marginRequired = none → Given context "margin_required" →
    IsFigure (context.get "margin_required")
  marginAvailable : PyFloat.lt (.finite 0) (requiredMargin request context) = true →
    Given context "margin_available" → IsFigure (context.get "margin_available")
  exposures : Given context "current_exposure_by_instrument" →
    ∃ entries, context.get "current_exposure_by_instrument" = .dict entries ∧
      (entries.map fun entry => normalizeName entry.1).Nodup ∧
      ∀ entry ∈ entries, IsFigure entry.2
  loss : Given context "daily_loss" → ∃ number : ℚ, 0 ≤ number ∧
    toFloat (context.get "daily_loss") = .ok (.finite number)
  pnl : ¬Given context "daily_loss" → Given context "daily_pnl" → ∃ number : ℚ,
    toFloat (context.get "daily_pnl") = .ok (.finite number)
  trades : Given context "trades_last_minute" →
    ∃ count : ℤ, 0 ≤ count ∧ IsCount (context.get "trades_last_minute") count
  now : ¬Given context "trades_last_minute" → Given context "now_epoch" →
    ∃ time : ℚ, toFloat (context.get "now_epoch") = .ok (.finite time)

/-! ### Reading a figure -/

theorem atLeastZero_nonneg (value : PyFloat) :
    (PyFloat.finite 0).le (atLeastZero value) = true := by
  unfold atLeastZero
  split
  · next positive => exact PyFloat.le_of_lt positive
  · exact PyFloat.le_refl (by simp)

theorem atLeastZero_eq_self_iff (value : PyFloat) :
    atLeastZero value = value ↔ (PyFloat.finite 0).le value = true := by
  constructor
  · intro same
    rw [← same]
    exact atLeastZero_nonneg value
  · intro nonneg
    unfold atLeastZero
    by_cases positive : PyFloat.lt (.finite 0) value = true
    · rw [if_pos positive]
    · rw [if_neg positive]
      cases value with
      | nan => cases nonneg
      | posInf => exact absurd rfl positive
      | negInf => cases nonneg
      | finite number =>
          rw [PyFloat.finite_le] at nonneg
          rw [PyFloat.finite_lt] at positive
          rw [le_antisymm nonneg (not_lt.mp positive)]

theorem atLeastZero_idem (value : PyFloat) : atLeastZero (atLeastZero value) = atLeastZero value :=
  (atLeastZero_eq_self_iff _).mpr (atLeastZero_nonneg value)

theorem toFloatOr_of_ok {value : PyValue} {number : PyFloat} (fallback : PyFloat)
    (reads : toFloat value = .ok number) : toFloatOr value fallback = number := by
  have given : ¬value.isNone = true := by
    intro missing
    cases value <;> cases missing
    cases reads
  unfold toFloatOr
  rw [if_neg given, reads]
  rfl

theorem taken_iff (value : PyValue) (fallback : PyFloat) :
    toFloat value = .ok (atLeastZero (toFloatOr value fallback)) ↔ IsFigure value := by
  constructor
  · intro taken
    exact ⟨_, taken, atLeastZero_nonneg _⟩
  · rintro ⟨number, reads, nonneg⟩
    rw [toFloatOr_of_ok fallback reads, (atLeastZero_eq_self_iff number).mpr nonneg]
    exact reads

theorem coerceExposureMap_distinct (value : PyValue) :
    Assoc.Distinct (coerceExposureMap value) := by
  have kept (entries : PyDict) (out : List (String × PyFloat)) (distinct : Assoc.Distinct out) :
      Assoc.Distinct (entries.foldl (fun out entry =>
        Assoc.set out (normalizeName entry.1) (atLeastZero (toFloatOr entry.2 (.finite 0)))) out) := by
    induction entries generalizing out with
    | nil => exact distinct
    | cons entry rest ih => exact ih _ (distinct.set _ _)
  exact kept value.asDict [] List.nodup_nil

theorem coerceExposureMap_of_nodup {entries : PyDict}
    (apart : (entries.map fun entry => normalizeName entry.1).Nodup) :
    coerceExposureMap (.dict entries) = entries.map fun entry =>
      (normalizeName entry.1, atLeastZero (toFloatOr entry.2 (.finite 0))) := by
  have all (entries : PyDict) (out : List (String × PyFloat))
      (apart : (entries.map fun entry => normalizeName entry.1).Nodup)
      (fresh : ∀ entry ∈ entries, normalizeName entry.1 ∉ out.map Prod.fst) :
      entries.foldl (fun out entry => Assoc.set out (normalizeName entry.1)
          (atLeastZero (toFloatOr entry.2 (.finite 0)))) out =
        out ++ entries.map fun entry =>
          (normalizeName entry.1, atLeastZero (toFloatOr entry.2 (.finite 0))) := by
    induction entries generalizing out with
    | nil => exact (List.append_nil out).symm
    | cons entry rest ih =>
        rw [List.map_cons, List.nodup_cons] at apart
        have added : Assoc.set out (normalizeName entry.1)
              (atLeastZero (toFloatOr entry.2 (.finite 0))) =
            out ++ [(normalizeName entry.1, atLeastZero (toFloatOr entry.2 (.finite 0)))] :=
          Assoc.set_of_notMem (fresh entry List.mem_cons_self)
        rw [List.foldl_cons, added, ih _ apart.2, List.append_assoc]
        · rfl
        · intro other member
          rw [List.map_append, List.mem_append]
          rintro (earlier | last)
          · exact fresh other (List.mem_cons_of_mem entry member) earlier
          · apply apart.1
            rw [List.map_singleton, List.mem_singleton] at last
            dsimp only at last
            rw [← last]
            exact List.mem_map.mpr ⟨other, member, rfl⟩
  have read := all entries [] apart fun _ _ => List.not_mem_nil
  rw [List.nil_append] at read
  exact read

theorem exposures_taken_iff (entries : PyDict) :
    List.Forall₂ (fun entry taken =>
          taken.1 = normalizeName entry.1 ∧ toFloat entry.2 = .ok taken.2)
        entries (coerceExposureMap (.dict entries)) ↔
      (entries.map fun entry => normalizeName entry.1).Nodup ∧
        ∀ entry ∈ entries, IsFigure entry.2 := by
  constructor
  · intro taken
    have names : (coerceExposureMap (.dict entries)).map Prod.fst =
        entries.map fun entry => normalizeName entry.1 := by
      generalize coerceExposureMap (.dict entries) = listed at taken
      induction taken with
      | nil => rfl
      | cons first _ ih => rw [List.map_cons, List.map_cons, first.1, ih]
    have apart : (entries.map fun entry => normalizeName entry.1).Nodup := by
      rw [← names]
      exact coerceExposureMap_distinct _
    refine ⟨apart, ?_⟩
    rw [coerceExposureMap_of_nodup apart, List.forall₂_map_right_iff, List.forall₂_same] at taken
    intro entry member
    exact (taken_iff entry.2 (.finite 0)).mp (taken entry member).2
  · rintro ⟨apart, figures⟩
    rw [coerceExposureMap_of_nodup apart, List.forall₂_map_right_iff, List.forall₂_same]
    intro entry member
    dsimp only
    exact ⟨rfl, (taken_iff entry.2 (.finite 0)).mpr (figures entry member)⟩

theorem dailyLossAbs_of_loss {context : PyDict} (given : Given context "daily_loss") :
    dailyLossAbs context = atLeastZero (toFloatOr (context.get "daily_loss") (.finite 0)) := by
  have present : ¬(context.get "daily_loss").isNone = true := by
    rw [given]
    exact Bool.false_ne_true
  unfold dailyLossAbs dailyLossValue
  rw [if_neg present]

theorem dailyLossAbs_of_pnl {context : PyDict} (missing : ¬Given context "daily_loss")
    (given : Given context "daily_pnl") :
    dailyLossAbs context =
      if (toFloatOr (context.get "daily_pnl") (.finite 0)).lt (.finite 0) then
        (toFloatOr (context.get "daily_pnl") (.finite 0)).abs
      else .finite 0 := by
  have absent : (context.get "daily_loss").isNone = true := by
    rw [← Bool.not_eq_false]
    exact missing
  have present : ¬(context.get "daily_pnl").isNone = true := by
    rw [given]
    exact Bool.false_ne_true
  unfold dailyLossAbs dailyLossValue
  rw [if_pos absent, if_neg present]
  generalize toFloatOr (context.get "daily_pnl") (.finite 0) = pnl
  change atLeastZero (if pnl.lt (.finite 0) then pnl.abs else .finite 0) = _
  apply (atLeastZero_eq_self_iff _).mpr
  split
  · cases pnl with
    | finite number => exact (PyFloat.finite_le _ _).mpr (abs_nonneg number)
    | nan => contradiction
    | posInf => contradiction
    | negInf => rfl
  · rfl

theorem dailyLossAbs_of_finite {context : PyDict} (missing : ¬Given context "daily_loss")
    (given : Given context "daily_pnl") {number : ℚ}
    (reads : toFloat (context.get "daily_pnl") = .ok (.finite number)) :
    dailyLossAbs context = .finite (max 0 (-number)) := by
  rw [dailyLossAbs_of_pnl missing given, toFloatOr_of_ok _ reads]
  by_cases negative : number < 0
  · rw [if_pos ((PyFloat.finite_lt _ _).mpr negative)]
    change PyFloat.finite |number| = _
    rw [abs_of_neg negative, max_eq_right (by linarith)]
  · rw [if_neg (mt (PyFloat.finite_lt _ _).mp negative), max_eq_left (by linarith)]

theorem trueFigures_iff (request : RiskRequest) (context : PyDict) :
    TrueFigures request context ↔ ProperFigures request context := by
  have margins (margin : PyFloat) (stated : request.marginRequired = some margin) :
      requiredMargin request context = atLeastZero margin := by
    unfold requiredMargin normalizeRequest
    rw [stated]
    exact atLeastZero_idem margin
  have asked (unstated : request.marginRequired = none) :
      requiredMargin request context = atLeastZero
        (toFloatOr (context.get "margin_required") (normalizeRequest request).exposure) := by
    unfold requiredMargin normalizeRequest
    rw [unstated]
    rfl
  constructor
  · intro true_
    refine ⟨?_, ?_, ?_, ?_, ?_, ?_, ?_, ?_, ?_, ?_⟩
    · exact (atLeastZero_eq_self_iff _).mp true_.quantity
    · exact (atLeastZero_eq_self_iff _).mp true_.exposure
    · intro margin stated
      have same := true_.margin margin stated
      rw [margins margin stated] at same
      exact (atLeastZero_eq_self_iff _).mp same
    · intro unstated given
      have taken := true_.marginAsked unstated given
      rw [asked unstated] at taken
      exact (taken_iff _ _).mp taken
    · intro positive given
      exact (taken_iff _ _).mp (true_.marginAvailable positive given)
    · intro given
      obtain ⟨entries, listed, taken⟩ := true_.exposures given
      exact ⟨entries, listed, (exposures_taken_iff entries).mp taken⟩
    · intro given
      obtain ⟨number, reads, compared⟩ := true_.loss given
      have nonneg := atLeastZero_nonneg (toFloatOr (context.get "daily_loss") (.finite 0))
      rw [← dailyLossAbs_of_loss given, compared, PyFloat.finite_le] at nonneg
      exact ⟨number, nonneg, reads⟩
    · intro missing given
      obtain ⟨number, reads, _⟩ := true_.pnl missing given
      exact ⟨number, reads⟩
    · intro given
      exact ⟨_, le_max_left _ _, true_.trades given⟩
    · exact true_.now
  · intro proper
    refine ⟨?_, ?_, ?_, ?_, ?_, ?_, ?_, ?_, ?_, ?_⟩
    · exact (atLeastZero_eq_self_iff _).mpr proper.quantity
    · exact (atLeastZero_eq_self_iff _).mpr proper.exposure
    · intro margin stated
      rw [margins margin stated]
      exact (atLeastZero_eq_self_iff _).mpr (proper.margin margin stated)
    · intro unstated given
      rw [asked unstated]
      exact (taken_iff _ _).mpr (proper.marginAsked unstated given)
    · intro positive given
      exact (taken_iff _ _).mpr (proper.marginAvailable positive given)
    · intro given
      obtain ⟨entries, listed, proper⟩ := proper.exposures given
      exact ⟨entries, listed, (exposures_taken_iff entries).mpr proper⟩
    · intro given
      obtain ⟨number, nonneg, reads⟩ := proper.loss given
      refine ⟨number, reads, ?_⟩
      rw [dailyLossAbs_of_loss given, toFloatOr_of_ok _ reads]
      exact (atLeastZero_eq_self_iff _).mpr ((PyFloat.finite_le _ _).mpr nonneg)
    · intro missing given
      obtain ⟨number, reads⟩ := proper.pnl missing given
      exact ⟨number, reads, dailyLossAbs_of_finite missing given reads⟩
    · intro given
      obtain ⟨count, nonneg, counted⟩ := proper.trades given
      have same : givenTrades context = count := by
        have present : ¬(context.get "trades_last_minute").isNone = true := by
          rw [given]
          exact Bool.false_ne_true
        unfold givenTrades toIntOr
        rw [if_neg present, counted.reads]
        exact max_eq_right nonneg
      rw [same]
      exact counted
    · exact proper.now

end Algotradify.Execution.Pretrade
