/-
Market readiness of a quote: whether it is fresh, and whether its spread is tight.

A quote is a snapshot of numbers, or a row whose fields go by several names. Floats are
exact, with NaN and the infinities.

Monitors of market data: the depth of an option chain, the freshness of one live snapshot,
and that of many.

Each monitor derives flags and blockers from the same optional values. Its status comes from
the blockers.
-/

import Algotradify.Candidates.Pipeline
import Algotradify.Core.RiskState
import Algotradify.Py.Floats

namespace Algotradify.Market

open Py Core.Risk Execution Dedup

inductive MarketReadinessStatus where
  | ready
  | blockedStaleQuote
  | blockedStaleDepth
  | blockedSpreadTooWide
  | blockedSlippageBudget
  | blockedMissingQuote
deriving DecidableEq, Repr

structure QuoteSnapshot where
  symbol : String
  ltp : Option PyFloat := none
  bid : Option PyFloat := none
  ask : Option PyFloat := none
  quoteAgeSec : Option PyFloat := none
  depthAgeSec : Option PyFloat := none
  source : PyValue := .none
  raw : PyDict := []

namespace QuoteSnapshot

def spread (quote : QuoteSnapshot) : Option PyFloat :=
  match quote.bid, quote.ask with
  | some bid, some ask => some (pyMax (.finite 0) (ask - bid))
  | _, _ => none

def mid (quote : QuoteSnapshot) : Option PyFloat :=
  match quote.bid, quote.ask with
  | some bid, some ask => some ((bid + ask) / .finite 2)
  | _, _ => quote.ltp

def spreadPct (quote : QuoteSnapshot) : Option PyFloat :=
  match quote.spread, quote.mid with
  | some spread, some mid =>
      if mid.eq (.finite 0) then none else some (spread / mid * .finite 100)
  | _, _ => none

end QuoteSnapshot

/-- The first of some keys whose value counts as true, as a number. -/
def numberOf (row : PyDict) (keys : List String) : Option PyFloat :=
  Paper.floatOrNone (firstOf row keys)

/-- `quote_from_mapping`. -/
def quoteFromMapping (row : PyDict) : QuoteSnapshot :=
  { symbol := upper (printValue ((firstOf row ["symbol", "tradingsymbol", "instrument"]).or (.str "")))
    ltp := numberOf row ["ltp", "last_price", "last_traded_price"]
    bid := numberOf row ["bid", "best_bid", "buy_price"]
    ask := numberOf row ["ask", "best_ask", "sell_price"]
    quoteAgeSec := numberOf row ["quote_age_sec", "ltp_age_sec", "age_sec"]
    depthAgeSec := numberOf row ["depth_age_sec", "market_depth_age_sec"]
    source := firstOf row ["source", "quote_source"]
    raw := row }

structure MarketReadiness where
  symbol : String
  status : MarketReadinessStatus
  quote : PyDict
  freshQuote : Bool
  freshDepth : Bool
  liquidityOk : Bool
  slippageBudgetOk : Bool
  blockers : List String
  warnings : List String := []

structure QuoteLimits where
  maxQuoteAgeSec : PyFloat := .finite 2
  maxDepthAgeSec : PyFloat := .finite 2
  maxSpreadPct : PyFloat := .finite 1
  slippageBudgetPct : PyFloat := .finite (3 / 2)

/-- `value is not None and value <= limit`. -/
def within (value : Option PyFloat) (limit : PyFloat) : Bool :=
  value.any fun number => number.le limit

/-- `_status_from_blockers`. -/
def statusFromBlockers (blockers : List String) : MarketReadinessStatus :=
  if "MISSING_QUOTE" ∈ blockers ∨ "MISSING_LTP" ∈ blockers ∨ "MISSING_BID_ASK" ∈ blockers then
    .blockedMissingQuote
  else if "STALE_OPTION_LTP" ∈ blockers then .blockedStaleQuote
  else if "STALE_DEPTH" ∈ blockers then .blockedStaleDepth
  else if "SPREAD_TOO_WIDE" ∈ blockers then .blockedSpreadTooWide
  else if "SLIPPAGE_BUDGET_EXCEEDED" ∈ blockers then .blockedSlippageBudget
  else .ready

def quoteBlockers (limits : QuoteLimits) (quote : QuoteSnapshot) : List String :=
  let spreadPct := quote.spreadPct
  messagesOf
    [(quote.ltp.isNone, "MISSING_LTP"),
      (!within quote.quoteAgeSec limits.maxQuoteAgeSec, "STALE_OPTION_LTP"),
      (!within quote.depthAgeSec limits.maxDepthAgeSec, "STALE_DEPTH"),
      (spreadPct.isNone, "MISSING_BID_ASK"),
      (spreadPct.isSome && !within spreadPct limits.maxSpreadPct, "SPREAD_TOO_WIDE"),
      (!within spreadPct limits.slippageBudgetPct, "SLIPPAGE_BUDGET_EXCEEDED")]

def quotePayload (limits : QuoteLimits) (quote : QuoteSnapshot) : PyDict :=
  [("symbol", .str quote.symbol), ("ltp", ofOptionFloat quote.ltp),
    ("bid", ofOptionFloat quote.bid), ("ask", ofOptionFloat quote.ask),
    ("quote_age_sec", ofOptionFloat quote.quoteAgeSec),
    ("depth_age_sec", ofOptionFloat quote.depthAgeSec), ("source", quote.source),
    ("spread", ofOptionFloat quote.spread), ("spread_pct", ofOptionFloat quote.spreadPct),
    ("max_quote_age_sec", .float limits.maxQuoteAgeSec),
    ("max_depth_age_sec", .float limits.maxDepthAgeSec),
    ("max_spread_pct", .float limits.maxSpreadPct),
    ("slippage_budget_pct", .float limits.slippageBudgetPct), ("raw", .dict quote.raw)]

def evaluateSnapshot (limits : QuoteLimits) (quote : QuoteSnapshot) : MarketReadiness :=
  let blockers := quoteBlockers limits quote
  { symbol := if quote.symbol = "" then "UNKNOWN" else quote.symbol
    status := statusFromBlockers blockers
    quote := quotePayload limits quote
    freshQuote := within quote.quoteAgeSec limits.maxQuoteAgeSec
    freshDepth := within quote.depthAgeSec limits.maxDepthAgeSec
    liquidityOk := within quote.spreadPct limits.maxSpreadPct
    slippageBudgetOk := within quote.spreadPct limits.slippageBudgetPct
    blockers := Paper.dedupe blockers
    warnings := Paper.dedupe (messageIf quote.source.isNoneOrEmpty "QUOTE_SOURCE_MISSING") }

def missingQuote : MarketReadiness :=
  { symbol := "UNKNOWN"
    status := .blockedMissingQuote
    quote := []
    freshQuote := false
    freshDepth := false
    liquidityOk := false
    slippageBudgetOk := false
    blockers := ["MISSING_QUOTE"] }

inductive Quote where
  | missing
  | mapping (row : PyDict)
  | snapshot (quote : QuoteSnapshot)

def Quote.read : Quote → Option QuoteSnapshot
  | .missing => none
  | .mapping row => some (quoteFromMapping row)
  | .snapshot quote => some quote

/-- `evaluate_market_readiness`. -/
def evaluateMarketReadiness (limits : QuoteLimits) (quote : Quote) : MarketReadiness :=
  match quote.read with
  | none => missingQuote
  | some numbers => evaluateSnapshot limits numbers

/-! ### The status of a snapshot -/

/-- A last price, two sides and a spread in proportion to their middle. -/
def QuoteSnapshot.isPriced (quote : QuoteSnapshot) : Bool :=
  quote.ltp.isSome && quote.spreadPct.isSome

def firstFailing (priced quoteAge depthAge spread slippage : Bool) : MarketReadinessStatus :=
  if !priced then .blockedMissingQuote
  else if !quoteAge then .blockedStaleQuote
  else if !depthAge then .blockedStaleDepth
  else if !spread then .blockedSpreadTooWide
  else if !slippage then .blockedSlippageBudget
  else .ready

theorem evaluateSnapshot_status (limits : QuoteLimits) (quote : QuoteSnapshot) :
    (evaluateSnapshot limits quote).status =
      firstFailing quote.isPriced (within quote.quoteAgeSec limits.maxQuoteAgeSec)
        (within quote.depthAgeSec limits.maxDepthAgeSec)
        (within quote.spreadPct limits.maxSpreadPct)
        (within quote.spreadPct limits.slippageBudgetPct) := by
  unfold evaluateSnapshot quoteBlockers QuoteSnapshot.isPriced
  dsimp only
  generalize within quote.quoteAgeSec limits.maxQuoteAgeSec = freshQuote
  generalize within quote.depthAgeSec limits.maxDepthAgeSec = freshDepth
  generalize within quote.spreadPct limits.maxSpreadPct = liquid
  generalize within quote.spreadPct limits.slippageBudgetPct = affordable
  cases quote.ltp <;> cases quote.spreadPct <;> cases freshQuote <;> cases freshDepth <;>
    cases liquid <;> cases affordable <;> rfl

structure Passes (limits : QuoteLimits) (quote : QuoteSnapshot) : Prop where
  priced : quote.isPriced = true
  quoteAge : within quote.quoteAgeSec limits.maxQuoteAgeSec = true
  depthAge : within quote.depthAgeSec limits.maxDepthAgeSec = true
  spread : within quote.spreadPct limits.maxSpreadPct = true
  slippage : within quote.spreadPct limits.slippageBudgetPct = true

theorem ready_iff (limits : QuoteLimits) (quote : QuoteSnapshot) :
    (evaluateSnapshot limits quote).status = .ready ↔ Passes limits quote := by
  rw [evaluateSnapshot_status]
  constructor
  · intro ready
    unfold firstFailing at ready
    split at ready
    · cases ready
    · split at ready
      · cases ready
      · split at ready
        · cases ready
        · split at ready
          · cases ready
          · split at ready
            · cases ready
            · constructor <;> simp_all
  · intro passes
    simp [firstFailing, passes.priced, passes.quoteAge, passes.depthAge, passes.spread, passes.slippage]

theorem within_eq_true {value : Option PyFloat} {limit : PyFloat} :
    within value limit = true ↔ ∃ number, value = some number ∧ number.le limit = true := by
  cases value with
  | none => simp [within]
  | some number => simp [within]

open Candidates

/-! ### Depth of an option chain -/

structure DepthLimits where
  minSideCount : ℤ := 1
  minTotalDepth : PyFloat := .finite 100
  maxDepthAgeSec : PyFloat := .finite 5
  maxImbalanceRatio : PyFloat := .finite 3

structure DepthReading where
  ceCount : Option ℤ
  peCount : Option ℤ
  ceDepth : Option PyFloat
  peDepth : Option PyFloat
  depthAgeSec : Option PyFloat

/-- `value is not None and value > 0`. -/
def positiveDepth (value : Option PyFloat) : Bool :=
  value.any fun depth => (PyFloat.finite 0).lt depth

/-- `_imbalance_ratio`. -/
def imbalanceRatio (ceDepth peDepth : Option PyFloat) : Option PyFloat :=
  match ceDepth, peDepth with
  | some ce, some pe =>
      if ce.le (.finite 0) || pe.le (.finite 0) then none
      else some (pyMax ce pe / pyMin ce pe)
  | _, _ => none

def DepthReading.totalDepth (reading : DepthReading) : PyFloat :=
  orDefault reading.ceDepth (.finite 0) + orDefault reading.peDepth (.finite 0)

def DepthReading.ratio (reading : DepthReading) : Option PyFloat :=
  imbalanceRatio reading.ceDepth reading.peDepth

structure SideQuality where
  ceAvailable : Bool
  peAvailable : Bool
  ceDepthOk : Bool
  peDepthOk : Bool
  depthFresh : Bool
  imbalanceOk : Bool

def SideQuality.all (quality : SideQuality) : Bool :=
  quality.ceAvailable && quality.peAvailable && quality.ceDepthOk && quality.peDepthOk &&
    quality.depthFresh && quality.imbalanceOk

def sideQuality (limits : DepthLimits) (reading : DepthReading) : SideQuality :=
  { ceAvailable := reading.ceCount.any fun count => decide (limits.minSideCount ≤ count)
    peAvailable := reading.peCount.any fun count => decide (limits.minSideCount ≤ count)
    ceDepthOk := positiveDepth reading.ceDepth
    peDepthOk := positiveDepth reading.peDepth
    depthFresh := within reading.depthAgeSec limits.maxDepthAgeSec
    imbalanceOk := within reading.ratio limits.maxImbalanceRatio }

/-! The blockers come in groups, and the status counts those of each group. -/

def missingSideChecks (reading : DepthReading) : List (Bool × String) :=
  [(reading.ceCount.isNone, "MISSING_CE_SIDE_COUNT"),
    (reading.peCount.isNone, "MISSING_PE_SIDE_COUNT")]

def zeroSideChecks (reading : DepthReading) : List (Bool × String) :=
  [(decide (reading.ceCount = some 0), "ZERO_CE_SIDE_COUNT"),
    (decide (reading.peCount = some 0), "ZERO_PE_SIDE_COUNT")]

def shallowDepthChecks (limits : DepthLimits) (reading : DepthReading) : List (Bool × String) :=
  [(reading.ceDepth.isNone, "MISSING_CE_DEPTH"),
    (within reading.ceDepth (.finite 0), "ZERO_CE_DEPTH"),
    (reading.peDepth.isNone, "MISSING_PE_DEPTH"),
    (within reading.peDepth (.finite 0), "ZERO_PE_DEPTH"),
    (reading.totalDepth.lt limits.minTotalDepth, "TOTAL_DEPTH_BELOW_MINIMUM")]

/-- `value is not None and value > limit`. -/
def beyond (value : Option PyFloat) (limit : PyFloat) : Bool :=
  value.any fun number => limit.lt number

def staleDepthChecks (limits : DepthLimits) (reading : DepthReading) : List (Bool × String) :=
  [(reading.depthAgeSec.isNone, "MISSING_DEPTH_AGE"),
    (beyond reading.depthAgeSec limits.maxDepthAgeSec, "STALE_OPTION_DEPTH")]

def imbalanceChecks (limits : DepthLimits) (reading : DepthReading) : List (Bool × String) :=
  [(beyond reading.ratio limits.maxImbalanceRatio, "OPTION_DEPTH_IMBALANCE")]

inductive LiveMarketDataSnapshotStatus where
  | ready
  | blockedMissingSpot
  | blockedStaleSpot
  | blockedFallbackSource
  | blockedMissingOptionChain
  | blockedStaleOptionChain
  | blockedSessionClosed
deriving DecidableEq, Repr

structure LiveLimits where
  maxSpotQuoteAgeSec : PyFloat := .finite 2
  maxOptionChainAgeSec : PyFloat := .finite 5

structure LiveMarketDataSnapshot where
  symbol : String
  status : LiveMarketDataSnapshotStatus
  spot : PyDict := []
  optionChain : PyDict := []
  source : Option String := none
  sessionState : Option String := none
  spotQuoteFresh : Bool
  optionChainFresh : Bool
  sourceReliable : Bool
  sessionOpen : Bool
  blockers : List String := []
  warnings : List String := []

def fallbackSources : List String := ["FALLBACK", "CACHE", "MOCK", "UNKNOWN"]

def openSessionStates : List String := ["OPEN", "LIVE", "REGULAR"]

structure LiveReading where
  spotLtp : Option PyFloat
  spotAge : Option PyFloat
  optionChainAge : Option PyFloat
  ceCount : Option ℤ
  peCount : Option ℤ
  expiry : Option String
  sourceReliable : Bool
  sessionOpen : Bool

def LiveReading.chainPresent (reading : LiveReading) : Bool :=
  reading.optionChainAge.isSome || reading.ceCount.isSome || reading.peCount.isSome ||
    reading.expiry.isSome

def liveBlockers (limits : LiveLimits) (reading : LiveReading) : List String :=
  messagesOf
    [(reading.spotLtp.isNone, "MISSING_SPOT_LTP"),
      (reading.spotAge.isNone, "MISSING_SPOT_QUOTE_AGE"),
      (beyond reading.spotAge limits.maxSpotQuoteAgeSec, "STALE_SPOT_QUOTE"),
      (!reading.sourceReliable, "UNRELIABLE_MARKET_DATA_SOURCE"),
      (!reading.sessionOpen, "MARKET_SESSION_NOT_OPEN"),
      (!reading.chainPresent, "MISSING_OPTION_CHAIN"),
      (reading.chainPresent && reading.optionChainAge.isNone, "MISSING_OPTION_CHAIN_AGE"),
      (beyond reading.optionChainAge limits.maxOptionChainAgeSec, "STALE_OPTION_CHAIN")]

/-- `_status_from_blockers` of live snapshots. -/
def liveStatusFromBlockers (blockers : List String) : LiveMarketDataSnapshotStatus :=
  if "MISSING_SPOT_LTP" ∈ blockers ∨ "MISSING_SPOT_QUOTE_AGE" ∈ blockers then .blockedMissingSpot
  else if "STALE_SPOT_QUOTE" ∈ blockers then .blockedStaleSpot
  else if "UNRELIABLE_MARKET_DATA_SOURCE" ∈ blockers then .blockedFallbackSource
  else if "MISSING_OPTION_CHAIN" ∈ blockers ∨ "MISSING_OPTION_CHAIN_AGE" ∈ blockers then
    .blockedMissingOptionChain
  else if "STALE_OPTION_CHAIN" ∈ blockers then .blockedStaleOptionChain
  else if "MARKET_SESSION_NOT_OPEN" ∈ blockers then .blockedSessionClosed
  else .ready

def liveKey (text : Option String) : String :=
  upper (text.getD "UNKNOWN")

/-- `build_live_market_data_snapshot`. -/
def buildLiveMarketDataSnapshot (limits : LiveLimits) (given : PyValue) :
    Except PyError LiveMarketDataSnapshot := do
  let row := given.asDict
  let source := strOrNone (firstPresent row ["source", "quote_source", "feed_source"])
  let sessionState :=
    strOrNone (firstPresent row ["session_state", "market_session", "market_state"])
  let expiry := strOrNone (firstPresent row ["expiry", "expiry_context"])
  let ceCount ← Paper.intOrNone (firstPresent row ["ce_count", "call_count", "option_ce_count"])
  let peCount ← Paper.intOrNone (firstPresent row ["pe_count", "put_count", "option_pe_count"])
  let reading : LiveReading :=
    { spotLtp := Paper.floatOrNone (firstPresent row ["spot_ltp", "spot_price", "ltp", "last_price"])
      spotAge := Paper.floatOrNone
        (firstPresent row ["spot_quote_age_sec", "quote_age_sec", "ltp_age_sec"])
      optionChainAge := Paper.floatOrNone
        (firstPresent row ["option_chain_age_sec", "chain_age_sec", "option_ltp_age_sec"])
      ceCount := ceCount
      peCount := peCount
      expiry := expiry
      sourceReliable := decide (liveKey source ≠ "") && decide (liveKey source ∉ fallbackSources)
      sessionOpen := decide (liveKey sessionState ∈ openSessionStates) }
  let blockers := liveBlockers limits reading
  pure
    { symbol := upper ((strOrNone (firstPresent row ["symbol", "underlying", "index_symbol"])).getD
        "UNKNOWN")
      status := liveStatusFromBlockers blockers
      spot := [("ltp", ofOptionFloat reading.spotLtp),
        ("quote_age_sec", ofOptionFloat reading.spotAge),
        ("max_quote_age_sec", .float limits.maxSpotQuoteAgeSec)]
      optionChain := [("age_sec", ofOptionFloat reading.optionChainAge),
        ("max_age_sec", .float limits.maxOptionChainAgeSec), ("expiry", ofOptionString expiry),
        ("ce_count", ofOptionInt ceCount), ("pe_count", ofOptionInt peCount)]
      source := source
      sessionState := sessionState
      spotQuoteFresh := reading.spotLtp.isSome && within reading.spotAge limits.maxSpotQuoteAgeSec
      optionChainFresh := within reading.optionChainAge limits.maxOptionChainAgeSec
      sourceReliable := reading.sourceReliable
      sessionOpen := reading.sessionOpen
      blockers := Paper.dedupe blockers
      warnings := Paper.dedupe (messagesOf
        [(decide (ceCount = some 0 ∨ peCount = some 0), "OPTION_CHAIN_SIDE_COUNT_ZERO"),
          (source.isNone, "MARKET_DATA_SOURCE_MISSING"),
          (sessionState.isNone, "MARKET_SESSION_STATE_MISSING")]) }

/-! ### Many snapshots -/

def countStatus (snapshots : List LiveMarketDataSnapshot) (status : LiveMarketDataSnapshotStatus) :
    ℕ :=
  snapshots.countP fun snapshot => snapshot.status = status

inductive SnapshotRow where
  | given (row : PyValue)
  | built (snapshot : LiveMarketDataSnapshot)

def SnapshotRow.snapshot (limits : LiveLimits) :
    SnapshotRow → Except PyError LiveMarketDataSnapshot
  | .given row => buildLiveMarketDataSnapshot limits row
  | .built snapshot => .ok snapshot

end Algotradify.Market
