/-
The candidate pool: raw items become candidates, hard blockers are applied, and of the
candidates with one id the preferred one is kept.

An item that fails the contract is replaced by a blocked candidate.

The registry of movement providers: each is called with the context, and what it puts out is
collected; a provider that raises, and an item of another type, become diagnostics.
-/

import Algotradify.Movement.Contract
import Algotradify.Py.KeyParts

namespace Algotradify.Movement

open Py Dedup Sorting

def hardPoolBlockers : List String :=
  ["STALE_OPTION_LTP", "WIDE_SPREAD", "MISSING_DEPTH", "FALLBACK_QUOTE_ONLY",
    "UNRESOLVED_CONTRACT", "CONFLICTING_TRAP_SIGNAL", "NO_TRADE_CHOP", "MARKET_CLOSED",
    "EXECUTION_SAFETY_NOT_PERMITTED"]

def executableLikeStatuses : List CandidateStatus :=
  [.validatedCandidate, .rankedOpportunity]

/-- What a provider may put out: a candidate, a mapping, or a value of another type. -/
inductive PoolItem where
  | candidate (candidate : StrategyCandidate)
  | mapping (payload : PyDict)
  | other (typeName : String)

structure CandidatePoolSummary where
  inputCount : ℕ
  candidateCount : ℕ
  rawCount : ℕ
  validCount : ℕ
  blockedCount : ℕ
  noTradeCount : ℕ
deriving DecidableEq

structure CandidatePoolResult where
  candidates : List StrategyCandidate
  summary : CandidatePoolSummary
  warnings : List String
  diagnostics : List PyDict

def poolDiagnostic (code candidateId message : String) (extra : PyDict) : PyDict :=
  PyDict.update
    [("code", .str code), ("candidate_id", .str candidateId), ("message", .str message),
      ("is_order_action", .bool false)] extra

/-! ### Invalid items -/

/-- `_safe_payload`: values of these types are kept as they are. -/
def safePayload (payload : PyDict) : PyDict :=
  payload.foldl (fun safe entry => safe.set entry.1 entry.2) []

/-- `str(payload.get(field) or default)`. -/
def textOr (payload : PyDict) (field default : String) : String :=
  printValue ((payload.get field).or (.str default))

def invalidCandidateId (index : ℕ) : String :=
  "invalid-candidate-" ++ printInt (index + 1)

/-- `_blocked_candidate_from_invalid`. -/
def blockedCandidateFromInvalid (payload : PyDict) (blockers warnings : List String) (index : ℕ)
    (extraEvidence : PyDict) : StrategyCandidate :=
  { schemaVersion := movementCandidateSchemaVersion
    candidateId := textOr payload "candidate_id" (invalidCandidateId index)
    strategyId := textOr payload "strategy_id" "UNKNOWN_PROVIDER"
    movementType := textOr payload "movement_type" "INVALID_PROVIDER_OUTPUT"
    symbol := textOr payload "symbol" "UNKNOWN"
    direction := .noTrade
    status := .blockedCandidate
    rawScore := .finite 0
    confidenceScore := .finite 0
    priceStructureScore := .finite 0
    optionConfirmationScore := .finite 0
    liquidityScore := .finite 0
    freshnessScore := .finite 0
    volatilityScore := .finite 0
    regimeAlignmentScore := .finite 0
    entryTrigger := "blocked before candidate pool admission"
    invalidIf := "candidate failed movement candidate contract validation"
    rankReason := "candidate pool blocked invalid provider output"
    blockers := dedupe (if blockers = [] then ["INVALID_PROVIDER_OUTPUT"] else blockers)
    warnings := dedupe warnings
    evidence := PyDict.update (getOr payload "evidence" (.dict [])).asDict
      ([("pool_validation_blockers", ofStrings blockers),
        ("invalid_provider_payload", .dict (safePayload payload))] ++ extraEvidence) }

structure Coerced where
  candidate : StrategyCandidate
  diagnostics : List PyDict
  warnings : List String

def coerceInvalid (payload : PyDict) (candidateId message : String) (index : ℕ) : Coerced :=
  let validation := validateStrategyCandidate (some payload)
  { candidate := blockedCandidateFromInvalid payload validation.blockers validation.warnings index []
    diagnostics :=
      [poolDiagnostic "INVALID_CANDIDATE_CONTRACT" candidateId message
        [("blockers", ofStrings validation.blockers)]]
    warnings := ["INVALID_CANDIDATE_CONTRACT"] }

/-- `_coerce_candidate`. -/
def coerceCandidate (item : PoolItem) (index : ℕ) : Except PyError Coerced :=
  match item with
  | .candidate candidate =>
      let validation := validateStrategyCandidate (some candidate.toDict)
      if validation.valid then .ok ⟨candidate, [], validation.warnings⟩
      else
        .ok (coerceInvalid candidate.toDict candidate.candidateId
          "StrategyCandidate failed movement candidate validation." index)
  | .mapping payload =>
      let validation := validateStrategyCandidate (some payload)
      if validation.valid then do
        let candidate ← candidateFromMapping payload
        pure ⟨candidate, [], validation.warnings⟩
      else
        .ok (coerceInvalid payload (textOr payload "candidate_id" (invalidCandidateId index))
          "Provider mapping failed movement candidate validation." index)
  | .other typeName =>
      .ok
        { candidate := blockedCandidateFromInvalid [] ["INVALID_PROVIDER_OUTPUT"] [] index
            [("item_type", .str typeName)]
          diagnostics :=
            [poolDiagnostic "INVALID_PROVIDER_OUTPUT" (invalidCandidateId index)
              "Candidate pool received non-candidate provider output."
              [("blockers", ofStrings ["INVALID_PROVIDER_OUTPUT"]), ("item_type", .str typeName)]]
          warnings := ["INVALID_PROVIDER_OUTPUT"] }

/-! ### Hard blockers -/

def isHardPoolBlocker (blocker : String) : Bool :=
  hardPoolBlockers.contains blocker

def hardBlockersOf (candidate : StrategyCandidate) : List String :=
  candidate.blockers.filter isHardPoolBlocker

def recordHardBlockers (candidate : StrategyCandidate) (hardBlockers : List String)
    (status : CandidateStatus) : StrategyCandidate :=
  { candidate with
    status := status
    blockers := dedupe candidate.blockers
    warnings := dedupe (candidate.warnings ++ ["POOL_HARD_BLOCKER_APPLIED"])
    evidence := (candidate.evidence.set "pool_hard_blockers" (ofStrings hardBlockers)).set
      "pool_blocked" (.bool true) }

/-- `_apply_hard_blockers`. -/
def applyHardBlockers (candidate : StrategyCandidate) : StrategyCandidate :=
  if hardBlockersOf candidate = [] then candidate
  else if candidate.status = .noTrade then
    recordHardBlockers candidate (hardBlockersOf candidate) candidate.status
  else recordHardBlockers candidate (hardBlockersOf candidate) .blockedCandidate

/-! ### Duplicates -/

def statusRank : CandidateStatus → ℚ
  | .rankedOpportunity => 0
  | .validatedCandidate => 1
  | .rawCandidate => 2
  | .blockedCandidate => 3
  | .noTrade => 4

def candidatePreferenceKey (candidate : StrategyCandidate) : List KeyPart :=
  [.number (.finite (statusRank candidate.status)), .number (-candidate.rawScore),
    .text candidate.strategyId, .text candidate.movementType, .text candidate.symbol]

def preferred (candidate other : StrategyCandidate) : Bool :=
  keyLess (candidatePreferenceKey candidate) (candidatePreferenceKey other)

/-- `_select_candidate`: the selected one and the dropped one. -/
def selectCandidate (left right : StrategyCandidate) : StrategyCandidate × StrategyCandidate :=
  if preferred right left then (right, left) else (left, right)

structure Deduped where
  byCandidateId : List (String × StrategyCandidate)
  diagnostics : List PyDict
  warnings : List String

def Deduped.add (deduped : Deduped) (candidate : StrategyCandidate) : Deduped :=
  match deduped.byCandidateId.lookup candidate.candidateId with
  | none =>
      { deduped with
        byCandidateId := Assoc.set deduped.byCandidateId candidate.candidateId candidate }
  | some existing =>
      let selection := selectCandidate existing candidate
      { byCandidateId := Assoc.set deduped.byCandidateId candidate.candidateId selection.1
        diagnostics := deduped.diagnostics ++
          [poolDiagnostic "DUPLICATE_CANDIDATE_DEDUPED" candidate.candidateId
            "Duplicate candidate_id collapsed deterministically."
            [("kept_strategy_id", .str selection.1.strategyId),
              ("dropped_strategy_id", .str selection.2.strategyId)]]
        warnings := deduped.warnings ++ ["DUPLICATE_CANDIDATE_DEDUPED"] }

def foldCandidates (candidates : List StrategyCandidate) : Deduped :=
  candidates.foldl Deduped.add { byCandidateId := [], diagnostics := [], warnings := [] }

abbrev idLe (left right : String × StrategyCandidate) : Prop :=
  left.1 ≤ right.1

/-- `[by_candidate_id[key] for key in sorted(by_candidate_id)]`. -/
def Deduped.candidates (deduped : Deduped) : List StrategyCandidate :=
  (deduped.byCandidateId.insertionSort idLe).map Prod.snd

/-! ### The pool -/

def countStatus (candidates : List StrategyCandidate) (statuses : List CandidateStatus) : ℕ :=
  candidates.countP fun candidate => statuses.contains candidate.status

def summarize (inputCount : ℕ) (candidates : List StrategyCandidate) : CandidatePoolSummary :=
  { inputCount := inputCount
    candidateCount := candidates.length
    rawCount := countStatus candidates [.rawCandidate]
    validCount := countStatus candidates executableLikeStatuses
    blockedCount := countStatus candidates [.blockedCandidate]
    noTradeCount := countStatus candidates [.noTrade] }

def coerceItems : List PoolItem → ℕ → Except PyError (List Coerced)
  | [], _ => .ok []
  | item :: rest, index => do
      let coerced ← coerceCandidate item index
      let later ← coerceItems rest (index + 1)
      pure (coerced :: later)

def poolOf (inputCount : ℕ) (coerced : List Coerced) (upstreamWarnings : List String)
    (upstreamDiagnostics : List PyDict) : CandidatePoolResult :=
  let deduped := foldCandidates (coerced.map fun one => applyHardBlockers one.candidate)
  { candidates := deduped.candidates
    summary := summarize inputCount deduped.candidates
    warnings := dedupe (upstreamWarnings ++ coerced.flatMap Coerced.warnings ++ deduped.warnings)
    diagnostics :=
      upstreamDiagnostics ++ coerced.flatMap Coerced.diagnostics ++ deduped.diagnostics }

/-- `build_candidate_pool`, of the items of a list. -/
def buildCandidatePool (items : List PoolItem) (upstreamWarnings : List String)
    (upstreamDiagnostics : List PyDict) : Except PyError CandidatePoolResult := do
  let coerced ← coerceItems items 0
  pure (poolOf items.length coerced upstreamWarnings upstreamDiagnostics)

/-! ### The registry -/

structure StrategyContext where
  symbol : String
  tsEpoch : PyFloat
  spotLtp : Option PyFloat := none
  vwap : Option PyFloat := none
  dayHigh : Option PyFloat := none
  dayLow : Option PyFloat := none
  orbHigh : Option PyFloat := none
  orbLow : Option PyFloat := none
  prevDayHigh : Option PyFloat := none
  prevDayLow : Option PyFloat := none
  atr : Option PyFloat := none
  atrShort : Option PyFloat := none
  atrLong : Option PyFloat := none
  rangeWidthPct : Option PyFloat := none
  volumeZ : Option PyFloat := none
  volatilityState : Option String := none
  regimeHint : Option String := none
  optionCeLtp : Option PyFloat := none
  optionPeLtp : Option PyFloat := none
  cePremiumChange : Option PyFloat := none
  pePremiumChange : Option PyFloat := none
  ceSpreadPct : Option PyFloat := none
  peSpreadPct : Option PyFloat := none
  ceDepth : Option PyFloat := none
  peDepth : Option PyFloat := none
  optionLtpAgeSec : Option PyFloat := none
  quoteSource : Option String := none
  timeOfDay : Option String := none
  minutesSinceOpen : Option ℤ := none
  minutesToClose : Option ℤ := none
  expiryContext : Option String := none

/-- What a provider returns, by the cases of `_normalize_provider_output`. -/
inductive ProviderOutput where
  | nothing
  | item (item : PoolItem)
  | items (items : List PoolItem)

def normalizeProviderOutput : ProviderOutput → List PoolItem
  | .nothing => []
  | .item item => [item]
  | .items items => items

structure ProviderException where
  message : String
  exceptionType : String

abbrev MovementStrategyProvider :=
  StrategyContext → Except ProviderException ProviderOutput

abbrev MovementStrategyRegistry := List (String × MovementStrategyProvider)

structure MovementRegistryRunResult where
  candidates : List PoolItem
  warnings : List String
  diagnostics : List PyDict
  providerCount : ℕ

def registryDiagnostic (code : String) (strategyId : PyValue) (message : String)
    (extra : PyDict) : PyDict :=
  PyDict.update
    [("code", .str code), ("strategy_id", strategyId), ("message", .str message),
      ("is_order_action", .bool false)] extra

structure Collected where
  candidates : List PoolItem := []
  warnings : List String := []
  diagnostics : List PyDict := []

def Collected.append (first second : Collected) : Collected :=
  { candidates := first.candidates ++ second.candidates
    warnings := first.warnings ++ second.warnings
    diagnostics := first.diagnostics ++ second.diagnostics }

def collectItem (strategyId : String) (item : PoolItem) (itemIndex : ℕ) : Collected :=
  match item with
  | .other typeName =>
      { warnings := ["INVALID_PROVIDER_OUTPUT:" ++ strategyId]
        diagnostics :=
          [registryDiagnostic "INVALID_PROVIDER_OUTPUT" (.str strategyId)
            "Provider returned an item that is not a StrategyCandidate or mapping."
            [("item_index", .int itemIndex), ("item_type", .str typeName)]] }
  | item => { candidates := [item] }

def collectItems (strategyId : String) : List PoolItem → ℕ → Collected
  | [], _ => {}
  | item :: rest, index =>
      (collectItem strategyId item index).append (collectItems strategyId rest (index + 1))

def collectProvider (context : StrategyContext) (strategyId : String)
    (provider : MovementStrategyProvider) : Collected :=
  match provider context with
  | .ok output => collectItems strategyId (normalizeProviderOutput output) 0
  | .error raised =>
      { warnings := ["PROVIDER_EXCEPTION:" ++ strategyId]
        diagnostics :=
          [registryDiagnostic "PROVIDER_EXCEPTION" (.str strategyId) raised.message
            [("exception_type", .str raised.exceptionType)]] }

def collectProviders (context : StrategyContext) : MovementStrategyRegistry → Collected
  | [] => {}
  | (strategyId, provider) :: rest =>
      (collectProvider context strategyId provider).append (collectProviders context rest)

/-- `MovementStrategyRegistry.run`. -/
def MovementStrategyRegistry.run (registry : MovementStrategyRegistry)
    (context : Option StrategyContext) : MovementRegistryRunResult :=
  match context with
  | none =>
      { candidates := []
        warnings := ["CONTEXT_REQUIRED"]
        diagnostics :=
          [registryDiagnostic "CONTEXT_REQUIRED" .none
            "StrategyContext is required to run movement providers." []]
        providerCount := registry.length }
  | some context =>
      let collected := collectProviders context registry
      { candidates := collected.candidates
        warnings := dedupe collected.warnings
        diagnostics := collected.diagnostics
        providerCount := registry.length }

end Algotradify.Movement
