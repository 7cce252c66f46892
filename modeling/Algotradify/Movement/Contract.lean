/-
The contract of a movement candidate: its fields, the mapping it is written as, and the checks
that every candidate passes before it enters the pool.

Candidates are typed here; a mapping may hold anything under its keys.
-/

import Algotradify.Dedup.Firsts
import Algotradify.Py.Equality
import Algotradify.Py.Floats

namespace Algotradify.Movement

open Py Dedup

def movementCandidateSchemaVersion : ℤ := 1

inductive Direction where
  | buyCall
  | buyPut
  | noTrade
deriving DecidableEq, Repr

def Direction.value : Direction → String
  | .buyCall => "BUY_CALL"
  | .buyPut => "BUY_PUT"
  | .noTrade => "NO_TRADE"

def Direction.all : List Direction :=
  [.buyCall, .buyPut, .noTrade]

/-- `Direction(text)`, where it does not raise. -/
def Direction.ofValue? (text : String) : Option Direction :=
  Direction.all.find? fun direction => direction.value = text

inductive CandidateStatus where
  | rawCandidate
  | validatedCandidate
  | blockedCandidate
  | rankedOpportunity
  | noTrade
deriving DecidableEq, Repr

def CandidateStatus.value : CandidateStatus → String
  | .rawCandidate => "RAW_CANDIDATE"
  | .validatedCandidate => "VALIDATED_CANDIDATE"
  | .blockedCandidate => "BLOCKED_CANDIDATE"
  | .rankedOpportunity => "RANKED_OPPORTUNITY"
  | .noTrade => "NO_TRADE"

def CandidateStatus.all : List CandidateStatus :=
  [.rawCandidate, .validatedCandidate, .blockedCandidate, .rankedOpportunity, .noTrade]

/-- `CandidateStatus(text)`, where it does not raise. -/
def CandidateStatus.ofValue? (text : String) : Option CandidateStatus :=
  CandidateStatus.all.find? fun status => status.value = text

theorem Direction.ofValue?_value (direction : Direction) :
    Direction.ofValue? direction.value = some direction := by
  cases direction <;> rfl

theorem CandidateStatus.ofValue?_value (status : CandidateStatus) :
    CandidateStatus.ofValue? status.value = some status := by
  cases status <;> rfl

structure StrategyCandidate where
  schemaVersion : ℤ
  candidateId : String
  strategyId : String
  movementType : String
  symbol : String
  direction : Direction
  status : CandidateStatus
  rawScore : PyFloat
  confidenceScore : PyFloat
  priceStructureScore : PyFloat
  optionConfirmationScore : PyFloat
  liquidityScore : PyFloat
  freshnessScore : PyFloat
  volatilityScore : PyFloat
  regimeAlignmentScore : PyFloat
  entryTrigger : String
  invalidIf : String
  rankReason : String
  blockers : List String := []
  warnings : List String := []
  evidence : PyDict := []

def StrategyCandidate.toDict (candidate : StrategyCandidate) : PyDict :=
  [("schema_version", .int candidate.schemaVersion),
    ("candidate_id", .str candidate.candidateId),
    ("strategy_id", .str candidate.strategyId),
    ("movement_type", .str candidate.movementType),
    ("symbol", .str candidate.symbol),
    ("direction", .str candidate.direction.value),
    ("status", .str candidate.status.value),
    ("raw_score", .float candidate.rawScore),
    ("confidence_score", .float candidate.confidenceScore),
    ("price_structure_score", .float candidate.priceStructureScore),
    ("option_confirmation_score", .float candidate.optionConfirmationScore),
    ("liquidity_score", .float candidate.liquidityScore),
    ("freshness_score", .float candidate.freshnessScore),
    ("volatility_score", .float candidate.volatilityScore),
    ("regime_alignment_score", .float candidate.regimeAlignmentScore),
    ("entry_trigger", .str candidate.entryTrigger),
    ("invalid_if", .str candidate.invalidIf),
    ("rank_reason", .str candidate.rankReason),
    ("blockers", ofStrings candidate.blockers),
    ("warnings", ofStrings candidate.warnings),
    ("evidence", .dict candidate.evidence),
    ("is_order_action", .bool false)]

/-! ### Checks -/

structure MovementCandidateValidationResult where
  valid : Bool
  blockers : List String
  warnings : List String

/-- `payload.get(key, default)`. -/
def getOr (payload : PyDict) (key : String) (default : PyValue) : PyValue :=
  (payload.lookup key).getD default

def isBlank (value : PyValue) : Bool :=
  value.isNone || strip (printValue value) == ""

/-- `_float_or_none`. -/
def floatOrNone (value : PyValue) : Option PyFloat :=
  (toFloat value).toOption

def isInkedText : PyValue → Bool
  | .str text => strip text != ""
  | _ => false

def isStringSequence : PyValue → Bool
  | .list items => items.all isInkedText
  | _ => false

def isEmptySequence : PyValue → Bool
  | .list items => items.isEmpty
  | _ => false

def requiredTextFields : List String :=
  ["candidate_id", "strategy_id", "movement_type", "symbol", "entry_trigger", "invalid_if",
    "rank_reason"]

def scoreFields : List String :=
  ["raw_score", "confidence_score", "price_structure_score", "option_confirmation_score",
    "liquidity_score", "freshness_score", "volatility_score", "regime_alignment_score"]

def outOfRange (score : PyFloat) : Bool :=
  score.lt (.finite 0) || (PyFloat.finite 1).lt score

def textBlockers (payload : PyDict) (field : String) : List String :=
  messageIf (isBlank (payload.get field)) (upper field ++ "_REQUIRED")

def scoreBlockers (payload : PyDict) (field : String) : List String :=
  match floatOrNone (payload.get field) with
  | none => [upper field ++ "_REQUIRED"]
  | some score => messageIf (outOfRange score) (upper field ++ "_OUT_OF_RANGE")

def statusOf (payload : PyDict) : Option CandidateStatus :=
  CandidateStatus.ofValue? (printValue (payload.get "status"))

def directionOf (payload : PyDict) : Option Direction :=
  Direction.ofValue? (printValue (payload.get "direction"))

def contractBlockers (payload : PyDict) : List String :=
  messageIf (!(payload.get "schema_version").equal (.int movementCandidateSchemaVersion))
      "INVALID_SCHEMA_VERSION" ++
    requiredTextFields.flatMap (textBlockers payload) ++
    messageIf (directionOf payload).isNone "INVALID_DIRECTION" ++
    messageIf (statusOf payload).isNone "INVALID_STATUS" ++
    scoreFields.flatMap (scoreBlockers payload) ++
    messageIf (!isStringSequence (getOr payload "blockers" (.list [])))
      "BLOCKERS_MUST_BE_STRING_LIST" ++
    messageIf (!isStringSequence (getOr payload "warnings" (.list [])))
      "WARNINGS_MUST_BE_STRING_LIST" ++
    messageIf (!(getOr payload "evidence" (.dict [])).isDict) "EVIDENCE_MUST_BE_DICT" ++
    messageIf (!(payload.get "is_order_action").isFalse) "CANDIDATE_ORDER_FLAG_UNSAFE" ++
    messageIf (decide (statusOf payload = some .noTrade) &&
        !(payload.get "direction").isStr Direction.noTrade.value)
      "NO_TRADE_STATUS_REQUIRES_NO_TRADE_DIRECTION"

def contractWarnings (payload : PyDict) : List String :=
  messageIf ((decide (statusOf payload = some .blockedCandidate) ||
      decide (statusOf payload = some .noTrade)) &&
    isEmptySequence (getOr payload "blockers" (.list [])))
    "BLOCKED_OR_NO_TRADE_WITHOUT_EXPLANATORY_BLOCKER"

/-- `validate_strategy_candidate`. A candidate is checked as the mapping it is written as. -/
def validateStrategyCandidate : Option PyDict → MovementCandidateValidationResult
  | none => { valid := false, blockers := ["CANDIDATE_REQUIRED"], warnings := [] }
  | some payload =>
      { valid := (contractBlockers payload).isEmpty
        blockers := dedupe (contractBlockers payload)
        warnings := dedupe (contractWarnings payload) }

/-! ### Reading a mapping -/

/-- `Direction(str(value))`. -/
def readDirection (value : PyValue) : Except PyError Direction :=
  match Direction.ofValue? (printValue value) with
  | some direction => .ok direction
  | none => .error (.valueError (printRepr value ++ " is not a valid Direction"))

/-- `CandidateStatus(str(value))`. -/
def readStatus (value : PyValue) : Except PyError CandidateStatus :=
  match CandidateStatus.ofValue? (printValue value) with
  | some status => .ok status
  | none => .error (.valueError (printRepr value ++ " is not a valid CandidateStatus"))

def readScore (payload : PyDict) (field : String) : Except PyError PyFloat :=
  toFloat (getOr payload field (.float (.finite 0)))

/-- `str(payload.get(field, ""))`. -/
def readText (payload : PyDict) (field : String) : String :=
  printValue (getOr payload field (.str ""))

/-- `tuple(str(item) for item in payload.get(field, ()))`. -/
def readTexts (payload : PyDict) (field : String) : Except PyError (List String) := do
  let items ← toItems (getOr payload field (.list []))
  pure (items.map printValue)

def candidateFromMapping (payload : PyDict) : Except PyError StrategyCandidate := do
  let schemaVersion ←
    toInt (getOr payload "schema_version" (.int movementCandidateSchemaVersion))
  let direction ← readDirection (getOr payload "direction" (.str ""))
  let status ← readStatus (getOr payload "status" (.str ""))
  let rawScore ← readScore payload "raw_score"
  let confidenceScore ← readScore payload "confidence_score"
  let priceStructureScore ← readScore payload "price_structure_score"
  let optionConfirmationScore ← readScore payload "option_confirmation_score"
  let liquidityScore ← readScore payload "liquidity_score"
  let freshnessScore ← readScore payload "freshness_score"
  let volatilityScore ← readScore payload "volatility_score"
  let regimeAlignmentScore ← readScore payload "regime_alignment_score"
  let blockers ← readTexts payload "blockers"
  let warnings ← readTexts payload "warnings"
  let evidence ← Py.toDict (getOr payload "evidence" (.dict []))
  pure
    { schemaVersion := schemaVersion
      candidateId := readText payload "candidate_id"
      strategyId := readText payload "strategy_id"
      movementType := readText payload "movement_type"
      symbol := readText payload "symbol"
      direction := direction
      status := status
      rawScore := rawScore
      confidenceScore := confidenceScore
      priceStructureScore := priceStructureScore
      optionConfirmationScore := optionConfirmationScore
      liquidityScore := liquidityScore
      freshnessScore := freshnessScore
      volatilityScore := volatilityScore
      regimeAlignmentScore := regimeAlignmentScore
      entryTrigger := readText payload "entry_trigger"
      invalidIf := readText payload "invalid_if"
      rankReason := readText payload "rank_reason"
      blockers := blockers
      warnings := warnings
      evidence := evidence }

/-! ### Valid candidates -/

def StrategyCandidate.texts (candidate : StrategyCandidate) : List String :=
  [candidate.candidateId, candidate.strategyId, candidate.movementType, candidate.symbol,
    candidate.entryTrigger, candidate.invalidIf, candidate.rankReason]

def StrategyCandidate.scores (candidate : StrategyCandidate) : List PyFloat :=
  [candidate.rawScore, candidate.confidenceScore, candidate.priceStructureScore,
    candidate.optionConfirmationScore, candidate.liquidityScore, candidate.freshnessScore,
    candidate.volatilityScore, candidate.regimeAlignmentScore]

structure StrategyCandidate.Valid (candidate : StrategyCandidate) : Prop where
  schema : candidate.schemaVersion = movementCandidateSchemaVersion
  texts : ∀ text ∈ candidate.texts, strip text ≠ ""
  scores : ∀ score ∈ candidate.scores, outOfRange score = false
  blockers : ∀ blocker ∈ candidate.blockers, strip blocker ≠ ""
  warnings : ∀ warning ∈ candidate.warnings, strip warning ≠ ""
  noTrade : candidate.status = .noTrade → candidate.direction = .noTrade

theorem isStringSequence_ofStrings (texts : List String) :
    isStringSequence (ofStrings texts) = true ↔ ∀ text ∈ texts, strip text ≠ "" := by
  unfold isStringSequence ofStrings
  simp [isInkedText]

theorem validate_toDict_iff (candidate : StrategyCandidate) :
    (validateStrategyCandidate (some candidate.toDict)).valid = true ↔ candidate.Valid := by
  have status : statusOf candidate.toDict = some candidate.status :=
    CandidateStatus.ofValue?_value candidate.status
  have direction : directionOf candidate.toDict = some candidate.direction :=
    Direction.ofValue?_value candidate.direction
  have texts : requiredTextFields.flatMap (textBlockers candidate.toDict) = [] ↔
      ∀ text ∈ candidate.texts, strip text ≠ "" := by
    have read : requiredTextFields.map (PyDict.get candidate.toDict) =
        candidate.texts.map PyValue.str := rfl
    have each : requiredTextFields.flatMap (textBlockers candidate.toDict) = [] ↔
        ∀ value ∈ requiredTextFields.map (PyDict.get candidate.toDict), isBlank value = false := by
      unfold textBlockers
      simp [List.flatMap_eq_nil_iff]
    rw [each, read]
    simp [isBlank, PyValue.isNone]
  have scores : scoreFields.flatMap (scoreBlockers candidate.toDict) = [] ↔
      ∀ score ∈ candidate.scores, outOfRange score = false := by
    have read : scoreFields.map (PyDict.get candidate.toDict) =
        candidate.scores.map PyValue.float := rfl
    have each : scoreFields.flatMap (scoreBlockers candidate.toDict) = [] ↔
        ∀ value ∈ scoreFields.map (PyDict.get candidate.toDict),
          ∃ score, floatOrNone value = some score ∧ outOfRange score = false := by
      rw [List.flatMap_eq_nil_iff, List.forall_mem_map]
      refine forall₂_congr fun field _ => ?_
      unfold scoreBlockers
      cases floatOrNone (PyDict.get candidate.toDict field) <;> simp
    rw [each, read]
    simp [floatOrNone, toFloat, Except.toOption]
  have schema : PyDict.get candidate.toDict "schema_version" = .int candidate.schemaVersion := rfl
  have blockers : getOr candidate.toDict "blockers" (.list []) = ofStrings candidate.blockers := rfl
  have warnings : getOr candidate.toDict "warnings" (.list []) = ofStrings candidate.warnings := rfl
  have evidence : getOr candidate.toDict "evidence" (.dict []) = .dict candidate.evidence := rfl
  have flag : PyDict.get candidate.toDict "is_order_action" = .bool false := rfl
  have ofDirection : PyDict.get candidate.toDict "direction" = .str candidate.direction.value := rfl
  have sameSchema : (PyValue.int candidate.schemaVersion).equal
      (.int movementCandidateSchemaVersion) = true ↔
        candidate.schemaVersion = movementCandidateSchemaVersion := by
    simp [PyValue.equal, PyValue.number?, PyFloat.eq]
  have sameDirection : (PyValue.str candidate.direction.value).isStr Direction.noTrade.value = true ↔
      candidate.direction = .noTrade := by
    cases candidate.direction <;> decide
  unfold validateStrategyCandidate
  dsimp only
  rw [List.isEmpty_iff]
  unfold contractBlockers
  simp only [List.append_eq_nil_iff, texts, scores, messageIf_eq_nil, status, direction, schema,
    blockers, warnings, evidence, flag, ofDirection, Bool.not_eq_false', sameSchema,
    isStringSequence_ofStrings, Option.isNone_some, PyValue.isDict_dict, Option.some.injEq,
    Bool.and_eq_false_iff, decide_eq_false_iff_not, sameDirection]
  constructor
  · rintro ⟨⟨⟨⟨⟨⟨⟨⟨⟨same, inked⟩, -⟩, -⟩, inRange⟩, plain⟩, warned⟩, -⟩, -⟩, noTrade⟩
    exact ⟨same, inked, inRange, plain, warned, fun isNoTrade => noTrade.resolve_left
      (not_not.mpr isNoTrade)⟩
  · intro valid
    exact ⟨⟨⟨⟨⟨⟨⟨⟨⟨valid.schema, valid.texts⟩, trivial⟩, trivial⟩, valid.scores⟩, valid.blockers⟩,
      valid.warnings⟩, trivial⟩, rfl⟩, or_iff_not_imp_left.mpr fun isNoTrade => valid.noTrade
        (not_not.mp isNoTrade)⟩

/-! ### Valid mappings -/

theorem getOr_of_get {payload : PyDict} {key : String} (present : payload.get key ≠ .none)
    (default : PyValue) : getOr payload key default = payload.get key := by
  unfold getOr PyDict.get at *
  cases found : payload.lookup key with
  | none =>
      rw [found] at present
      exact absurd rfl present
  | some value => rfl

theorem toInt_of_equal {value : PyValue} {number : ℤ} (same : value.equal (.int number) = true) :
    ∃ read, toInt value = .ok read := by
  cases value with
  | bool flag => exact ⟨_, rfl⟩
  | int own => exact ⟨_, rfl⟩
  | float own =>
      cases own with
      | finite exact_ => exact ⟨_, rfl⟩
      | nan | posInf | negInf => simp [PyValue.equal, PyValue.number?, PyFloat.eq] at same
  | none | str | list | dict => simp [PyValue.equal, PyValue.number?] at same

theorem exists_candidateFromMapping {payload : PyDict}
    (valid : (validateStrategyCandidate (some payload)).valid = true) :
    ∃ candidate, candidateFromMapping payload = .ok candidate := by
  have none : contractBlockers payload = [] := List.isEmpty_iff.mp valid
  unfold contractBlockers at none
  simp only [List.append_eq_nil_iff, messageIf_eq_nil, List.flatMap_eq_nil_iff,
    Bool.not_eq_false'] at none
  obtain ⟨⟨⟨⟨⟨⟨⟨⟨⟨schema, -⟩, direction⟩, status⟩, scores⟩, blockers⟩, warnings⟩, evidence⟩, -⟩, -⟩ :=
    none
  have readSchema : ∃ read, toInt (getOr payload "schema_version"
      (.int movementCandidateSchemaVersion)) = .ok read := by
    rw [getOr_of_get]
    · exact toInt_of_equal schema
    · intro missing
      rw [missing] at schema
      simp [PyValue.equal, PyValue.number?] at schema
  have readDirection : ∃ read, readDirection (getOr payload "direction" (.str "")) = .ok read := by
    obtain ⟨found, isFound⟩ := Option.ne_none_iff_exists'.mp
      (mt Option.isNone_iff_eq_none.mpr (Bool.eq_false_iff.mp direction))
    rw [getOr_of_get]
    · refine ⟨found, ?_⟩
      unfold directionOf at isFound
      unfold Movement.readDirection
      rw [isFound]
    · intro missing
      unfold directionOf at isFound
      rw [missing] at isFound
      cases isFound
  have readStatus : ∃ read, readStatus (getOr payload "status" (.str "")) = .ok read := by
    obtain ⟨found, isFound⟩ := Option.ne_none_iff_exists'.mp
      (mt Option.isNone_iff_eq_none.mpr (Bool.eq_false_iff.mp status))
    rw [getOr_of_get]
    · refine ⟨found, ?_⟩
      unfold statusOf at isFound
      unfold Movement.readStatus
      rw [isFound]
    · intro missing
      unfold statusOf at isFound
      rw [missing] at isFound
      cases isFound
  have readScores : ∀ field ∈ scoreFields, ∃ read, readScore payload field = .ok read := by
    intro field member
    have checked := scores field member
    unfold scoreBlockers floatOrNone at checked
    unfold readScore
    cases read : toFloat (payload.get field) with
    | error raised =>
        rw [read] at checked
        cases checked
    | ok number =>
        refine ⟨number, ?_⟩
        rw [getOr_of_get, read]
        intro missing
        rw [missing] at read
        cases read
  have readList {field : String}
      (sequence : isStringSequence (getOr payload field (.list [])) = true) :
      ∃ read, readTexts payload field = .ok read := by
    unfold readTexts
    cases shape : getOr payload field (.list []) with
    | list items => exact ⟨_, rfl⟩
    | none | bool | int | float | str | dict =>
        rw [shape] at sequence
        cases sequence
  have readEvidence : ∃ read, Py.toDict (getOr payload "evidence" (.dict [])) = .ok read := by
    cases shape : getOr payload "evidence" (.dict []) with
    | dict entries => exact ⟨_, rfl⟩
    | none | bool | int | float | str | list =>
        rw [shape] at evidence
        cases evidence
  obtain ⟨_, one⟩ := readSchema
  obtain ⟨_, two⟩ := readDirection
  obtain ⟨_, three⟩ := readStatus
  obtain ⟨_, raw⟩ := readScores "raw_score" (by decide)
  obtain ⟨_, confidence⟩ := readScores "confidence_score" (by decide)
  obtain ⟨_, structure_⟩ := readScores "price_structure_score" (by decide)
  obtain ⟨_, confirmation⟩ := readScores "option_confirmation_score" (by decide)
  obtain ⟨_, liquidity⟩ := readScores "liquidity_score" (by decide)
  obtain ⟨_, freshness⟩ := readScores "freshness_score" (by decide)
  obtain ⟨_, volatility⟩ := readScores "volatility_score" (by decide)
  obtain ⟨_, alignment⟩ := readScores "regime_alignment_score" (by decide)
  obtain ⟨_, blocked⟩ := readList blockers
  obtain ⟨_, warned⟩ := readList warnings
  obtain ⟨_, evident⟩ := readEvidence
  unfold candidateFromMapping
  rw [one, two, three, raw, confidence, structure_, confirmation, liquidity, freshness, volatility,
    alignment, blocked, warned, evident]
  exact ⟨_, rfl⟩

end Algotradify.Movement
