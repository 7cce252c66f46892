/-
Contract readiness: the contract that each candidate would trade, resolved or blocked.

A batch normalizes all candidates first and then resolves one after the other. Only the failure
of the coverage is caught, so a strike that is no number ends the batch. A candidate that is a
record already is taken as it is alone, but is normalized again in a batch.
-/

import Algotradify.Broker.Resolver
import Algotradify.Candidates.Pipeline
import Algotradify.Py.Comprehension

namespace Algotradify.Broker

open Py Candidates

inductive BrokerContractReadinessStatus where
  | resolvedExact
  | resolvedFallback
  | blockedNotFound
  | blockedCoverageFailed
  | blockedInvalidRequest
  | blockedMissingRequest
deriving DecidableEq, Repr

structure BrokerContractReadiness where
  candidateId : String
  symbol : Option String
  strategyId : Option String
  setupFamily : Option String
  readinessStatus : BrokerContractReadinessStatus
  resolved : Bool
  request : PyDict
  resolution : Option PyDict := none
  instrumentToken : PyValue := .none
  fallbackUsed : Bool := false
  fallbackDistance : Option PyFloat := none
  blockers : List String := []
  warnings : List String := []
  candidateTruth : PyDict

/-! ### The request of a candidate -/

/-- `_first_present`, of values. -/
def firstOfValues (values : List PyValue) : PyValue :=
  (values.find? fun value => !value.isNoneOrEmpty).getD .none

/-- `str(value).upper().strip() if value is not None else None`. -/
def upperStripped (value : PyValue) : PyValue :=
  if value.isNone then .none else .str (strip (upper (printValue value)))

def strippedText (value : PyValue) : PyValue :=
  if value.isNone then .none else .str (strip (printValue value))

/-- `_extract_request_payload`. -/
def extractRequestPayload (record : CandidateTruthRecord) : PyDict :=
  let normalized := PyDict.get record.normalized
  let raw := PyDict.get record.raw
  let rawPayload := PyDict.get (raw "raw").asDict
  let entryHypothesis := PyDict.get
    (((normalized "entry_hypothesis").or (raw "entry_hypothesis")).or (.dict [])).asDict
  [("symbol", upperStripped (firstOfValues
      [normalized "symbol", ofOptionString record.symbol, raw "symbol", raw "underlying",
        rawPayload "symbol", rawPayload "underlying"])),
    ("expiry", strippedText (firstOfValues
      [normalized "expiry", raw "expiry", raw "expiry_date", rawPayload "expiry",
        rawPayload "expiry_date", entryHypothesis "expiry"])),
    ("strike", firstOfValues
      [normalized "strike", raw "strike", raw "option_strike", rawPayload "strike",
        rawPayload "option_strike", entryHypothesis "strike"]),
    ("option_type", upperStripped (firstOfValues
      [normalized "option_type", raw "option_type", raw "instrument_type",
        rawPayload "option_type", rawPayload "instrument_type", entryHypothesis "option_type"])),
    ("exchange", upperStripped (firstOfValues
      [normalized "exchange", raw "exchange", rawPayload "exchange", entryHypothesis "exchange",
        .str "NFO"]))]

def requiredRequestFields : List String := ["expiry", "strike", "option_type"]

/-- `_missing_request_fields`. -/
def missingRequestFields (payload : PyDict) : List String :=
  (requiredRequestFields.filter fun field => (PyDict.get payload field).isNoneOrEmpty).map
      (fun field => "MISSING_CONTRACT_" ++ upper field) ++
    Dedup.messageIf (PyDict.get payload "symbol").isNoneOrEmpty "MISSING_CONTRACT_SYMBOL"

def requestOf (payload : PyDict) (strike : PyFloat) : OptionContractRequest :=
  { symbol := printValue (PyDict.get payload "symbol")
    expiry := printValue (PyDict.get payload "expiry")
    strike := strike
    optionType := printValue (PyDict.get payload "option_type")
    exchange := printValue ((PyDict.get payload "exchange").or (.str "NFO")) }

/-! ### Readiness -/

/-- `_readiness_status_from_resolution`. -/
def readinessStatusFromResolution (resolution : BrokerContractResolution) :
    BrokerContractReadinessStatus :=
  match resolution.status with
  | .exactMatch => .resolvedExact
  | .fallback => .resolvedFallback
  | .invalidRequest => .blockedInvalidRequest
  | .notFound => .blockedNotFound
  | .coverageFailed => .blockedCoverageFailed

def blockedReadiness (record : CandidateTruthRecord) (status : BrokerContractReadinessStatus)
    (blockers : List String) (resolution : Option PyDict) : BrokerContractReadiness :=
  { candidateId := record.candidateId
    symbol := record.symbol
    strategyId := record.strategyId
    setupFamily := record.setupFamily
    readinessStatus := status
    resolved := false
    request := extractRequestPayload record
    resolution := resolution
    blockers := blockers
    warnings := record.warnings
    candidateTruth := record.toDict }

def resolvedReadiness (record : CandidateTruthRecord) (resolution : BrokerContractResolution) :
    BrokerContractReadiness :=
  { candidateId := record.candidateId
    symbol := record.symbol
    strategyId := record.strategyId
    setupFamily := record.setupFamily
    readinessStatus := readinessStatusFromResolution resolution
    resolved := resolution.resolved
    request := extractRequestPayload record
    resolution := some resolution.toDict
    instrumentToken := resolution.instrumentToken
    fallbackUsed := resolution.fallbackUsed
    fallbackDistance := resolution.fallbackDistance
    blockers := Paper.dedupe (record.blockers ++ resolution.blockers)
    warnings := Paper.dedupe (record.warnings ++ resolution.warnings)
    candidateTruth := record.toDict }

/-- The readiness of a normalized candidate. Only `TokenCoverageError` is caught. -/
def readinessOfRecord (settings : ResolverSettings) (record : CandidateTruthRecord)
    (instruments : List PyDict) : Except PyError BrokerContractReadiness :=
  let payload := extractRequestPayload record
  if missingRequestFields payload ≠ [] then
    .ok (blockedReadiness record .blockedMissingRequest (missingRequestFields payload) none)
  else do
    let strike ← toFloat (PyDict.get payload "strike")
    match resolveOptionContract settings (requestOf payload strike) instruments with
    | .error (.runtimeError message) =>
        .ok (blockedReadiness record .blockedCoverageFailed ["TOKEN_COVERAGE_BELOW_THRESHOLD"]
          (some [("error", .str message)]))
    | .error raised => .error raised
    | .ok resolution => .ok (resolvedReadiness record resolution)

inductive ReadinessCandidate where
  | raw (candidate : RawCandidate)
  | record (record : CandidateTruthRecord)

def ReadinessCandidate.recordOf (source : String) :
    ReadinessCandidate → Except PyError CandidateTruthRecord
  | .raw candidate => normalizeCandidate candidate source
  | .record own => .ok own

/-- `build_broker_contract_readiness`. -/
def buildBrokerContractReadiness (settings : ResolverSettings) (source : String)
    (candidate : ReadinessCandidate) (instruments : List PyDict) :
    Except PyError BrokerContractReadiness := do
  let record ← candidate.recordOf source
  readinessOfRecord settings record instruments

/-- A record is an object with a `to_dict`. -/
def ReadinessCandidate.asRaw : ReadinessCandidate → RawCandidate
  | .raw candidate => candidate
  | .record own => .convertible (.ok (.dict own.toDict))

/-- `build_broker_contract_readiness_batch`. -/
def buildBrokerContractReadinessBatch (settings : ResolverSettings) (source : String)
    (candidates : List ReadinessCandidate) (instruments : List PyDict) :
    Except PyError (List BrokerContractReadiness) := do
  let records ← normalizeCandidates (candidates.map ReadinessCandidate.asRaw) source
  records.mapM fun record => readinessOfRecord settings record instruments

/-! ### One candidate -/

section Candidate

variable {settings : ResolverSettings} {record : CandidateTruthRecord} {instruments : List PyDict}
  {row : BrokerContractReadiness}

def BrokerContractReadinessStatus.isBlocked (status : BrokerContractReadinessStatus) : Bool :=
  decide (status ∉ [.resolvedExact, .resolvedFallback])

/-- A request whose fields are there, with a strike that is a number, and which is valid. -/
def UsableRequest (record : CandidateTruthRecord) : Prop :=
  missingRequestFields (extractRequestPayload record) = [] ∧
    ∃ strike, toFloat (PyDict.get (extractRequestPayload record) "strike") = .ok strike ∧
      validRequest (requestOf (extractRequestPayload record) strike) = true

structure Explained (request : OptionContractRequest) (resolution : BrokerContractResolution) :
    Prop where
  blocked : resolution.resolved = false →
    (readinessStatusFromResolution resolution).isBlocked = true ∧
      ∃ blocker ∈ resolution.blockers, strip blocker ≠ ""
  invalid : validRequest request = false → resolution.resolved = false

theorem explained_resolutionFound (request own : OptionContractRequest)
    (valid : validRequest request = true) :
    Explained request (resolutionFound settings own instruments) := by
  have never : ∀ {claim : Prop}, validRequest request = false → claim := by
    intro claim invalid
    rw [valid] at invalid
    cases invalid
  unfold resolutionFound
  split
  · exact ⟨fun resolved => (by cases resolved), never⟩
  · split
    · exact ⟨fun resolved => (by cases resolved), never⟩
    · exact ⟨fun _ => ⟨rfl, _, List.mem_cons_self, by decide⟩, never⟩

theorem explained_of_resolve {request : OptionContractRequest}
    {resolution : BrokerContractResolution}
    (ran : resolveOptionContract settings request instruments = .ok resolution) :
    Explained request resolution := by
  unfold resolveOptionContract at ran
  dsimp only at ran
  rw [validRequest_normalized] at ran
  cases valid : validRequest request with
  | false =>
      rw [valid, Bool.not_false, if_pos rfl] at ran
      rw [← Except.ok.inj ran]
      exact ⟨fun _ => ⟨rfl, _, List.mem_cons_self, by decide⟩, fun _ => rfl⟩
  | true =>
      rw [valid, Bool.not_true, if_neg Bool.false_ne_true] at ran
      split at ran
      · cases ran
      · rw [← Except.ok.inj ran]
        exact explained_resolutionFound request request.normalized valid

theorem runtimeError_of_resolve {request : OptionContractRequest} {raised : PyError}
    (ran : resolveOptionContract settings request instruments = .error raised) :
    ∃ message, raised = .runtimeError message := by
  unfold resolveOptionContract at ran
  dsimp only at ran
  split at ran
  · cases ran
  · split at ran
    · exact ⟨_, (Except.error.inj ran).symm⟩
    · cases ran

theorem readinessOfRecord_ok_iff :
    (∃ row, readinessOfRecord settings record instruments = .ok row) ↔
      missingRequestFields (extractRequestPayload record) ≠ [] ∨
        ∃ strike, toFloat (PyDict.get (extractRequestPayload record) "strike") = .ok strike := by
  unfold readinessOfRecord
  dsimp only
  by_cases missing : missingRequestFields (extractRequestPayload record) ≠ []
  · rw [if_pos missing]
    exact iff_of_true ⟨_, rfl⟩ (.inl missing)
  · rw [if_neg missing]
    constructor
    · rintro ⟨row, ran⟩
      obtain ⟨strike, converted, _⟩ := bind_eq_ok.mp ran
      exact .inr ⟨strike, converted⟩
    · rintro (absent | ⟨strike, converted⟩)
      · exact absurd absent missing
      · rw [converted]
        apply exists_ok_bind rfl
        split
        · exact ⟨_, rfl⟩
        · next raised other resolved =>
            obtain ⟨message, isRuntime⟩ := runtimeError_of_resolve resolved
            exact absurd isRuntime (other message)
        · exact ⟨_, rfl⟩

/-- A row that is not resolved is blocked and says why, and it is the row of an unusable
request. -/
structure AnswersRecord (record : CandidateTruthRecord) (row : BrokerContractReadiness) : Prop where
  blocked : row.resolved = false → row.readinessStatus.isBlocked = true ∧ row.blockers ≠ []
  unusable : ¬UsableRequest record → row.resolved = false
  truth : row.candidateTruth = record.toDict

theorem answersRecord_of_ok (ran : readinessOfRecord settings record instruments = .ok row) :
    AnswersRecord record row := by
  unfold readinessOfRecord at ran
  dsimp only at ran
  split at ran
  · next missing =>
      rw [← Except.ok.inj ran]
      exact ⟨fun _ => ⟨rfl, missing⟩, fun _ => rfl, rfl⟩
  · next present =>
      obtain ⟨strike, converted, ran⟩ := bind_eq_ok.mp ran
      split at ran
      · rw [← Except.ok.inj ran]
        exact ⟨fun _ => ⟨rfl, List.cons_ne_nil _ _⟩, fun _ => rfl, rfl⟩
      · cases ran
      · next resolution resolved =>
          rw [← Except.ok.inj ran]
          have explained := explained_of_resolve resolved
          refine ⟨?_, ?_, rfl⟩
          · intro unresolved
            obtain ⟨status, blocker, listed, visible⟩ := explained.blocked unresolved
            refine ⟨status, ?_⟩
            intro none
            apply visible
            exact (Paper.dedupe_eq_nil_iff _).mp none blocker (List.mem_append_right _ listed)
          · intro unusable
            apply explained.invalid
            rw [Bool.eq_false_iff]
            intro valid
            exact unusable ⟨not_not.mp present, strike, converted, valid⟩

end Candidate

/-! ### The batch -/

section Batch

variable {settings : ResolverSettings} {source : String} {instruments : List PyDict}
  {candidates : List ReadinessCandidate} {rows : List BrokerContractReadiness}

theorem forall₂_of_batch
    (ran : buildBrokerContractReadinessBatch settings source candidates instruments = .ok rows) :
    List.Forall₂ (fun candidate row => ∃ record,
      normalizeCandidate candidate.asRaw source = .ok record ∧
        readinessOfRecord settings record instruments = .ok row) candidates rows := by
  obtain ⟨records, normalized, built⟩ := bind_eq_ok.mp ran
  have front := List.forall₂_map_left_iff.mp (forall₂_of_mapM normalized)
  have back := forall₂_of_mapM built
  clear ran normalized built
  induction front generalizing rows with
  | nil =>
      cases back
      exact .nil
  | @cons candidate record candidates records head tail ih =>
      cases back with
      | cons first rest => exact .cons ⟨record, head, first⟩ (ih rest)

/-- The row is what the candidate gets alone; an unusable request is blocked and says why. -/
structure AnswersAlone (settings : ResolverSettings) (source : String) (instruments : List PyDict)
    (candidate : ReadinessCandidate) (row : BrokerContractReadiness) : Prop where
  alone : buildBrokerContractReadiness settings source candidate instruments = .ok row
  blocked : row.resolved = false → row.readinessStatus.isBlocked = true ∧ row.blockers ≠ []
  unusable : ∀ record, candidate.recordOf source = .ok record → ¬UsableRequest record →
    row.resolved = false

theorem not_inside_itself {entries : PyDict} {key : String} :
    PyDict.get entries key ≠ .dict entries := by
  intro inside
  unfold PyDict.get at inside
  cases found : entries.lookup key with
  | none =>
      rw [found] at inside
      cases inside
  | some value =>
      rw [found, Option.getD_some] at inside
      rw [inside] at found
      have smaller := List.sizeOf_lt_of_mem (Assoc.mem_of_lookup found)
      simp only [Prod.mk.sizeOf_spec, PyValue.dict.sizeOf_spec] at smaller
      omega

theorem toDict_ne_of_normalized {own record : CandidateTruthRecord}
    (normalized : normalizeCandidate (.convertible (.ok (.dict own.toDict))) source = .ok record) :
    own.toDict ≠ record.toDict := by
  intro same
  have read := (normalizes_of_normalizeCandidate normalized).read
  have isRaw : own.toDict = record.raw := Except.ok.inj read
  have ofOwn : PyDict.get own.toDict "raw" = .dict own.raw := rfl
  have ofRecord : PyDict.get record.toDict "raw" = .dict record.raw := rfl
  have inside : PyDict.get own.toDict "raw" = .dict own.toDict := by
    rw [isRaw, ← ofRecord, ← same, ← isRaw]
  exact not_inside_itself inside

/-- A batch answers every candidate as alone exactly if no candidate is a record already, each
can be normalized, and the strike of each complete request is a number. -/
theorem batch_isolated_iff (settings : ResolverSettings) (source : String)
    (candidates : List ReadinessCandidate) (instruments : List PyDict) :
    (∃ rows, buildBrokerContractReadinessBatch settings source candidates instruments = .ok rows ∧
        List.Forall₂ (AnswersAlone settings source instruments) candidates rows) ↔
      ∀ candidate ∈ candidates, ∃ raw record, candidate = .raw raw ∧
        normalizeCandidate raw source = .ok record ∧
          (missingRequestFields (extractRequestPayload record) ≠ [] ∨
            ∃ strike, toFloat (PyDict.get (extractRequestPayload record) "strike") =
              .ok strike) := by
  constructor
  · rintro ⟨rows, ran, answers⟩
    have built := forall₂_of_batch ran
    have each : List.Forall₂ (fun candidate _ => (∃ raw record, candidate = .raw raw ∧
        normalizeCandidate raw source = .ok record ∧
          (missingRequestFields (extractRequestPayload record) ≠ [] ∨
            ∃ strike, toFloat (PyDict.get (extractRequestPayload record) "strike") =
              .ok strike)) ∧ True) candidates rows := by
      apply List.Forall₂.mp _ built answers
      rintro candidate row ⟨record, normalized, own⟩ answer
      refine ⟨?_, trivial⟩
      cases candidate with
      | raw raw => exact ⟨raw, record, rfl, normalized, readinessOfRecord_ok_iff.mp ⟨row, own⟩⟩
      | record given =>
          have alone : readinessOfRecord settings given instruments = .ok row := answer.alone
          have truth := (answersRecord_of_ok alone).truth
          rw [(answersRecord_of_ok own).truth] at truth
          exact absurd truth.symm (toDict_ne_of_normalized normalized)
    exact ((List.forall₂_and_left _ _).mp each).1
  · intro readable
    have normalizes : ∀ candidate ∈ candidates.map ReadinessCandidate.asRaw,
        ∃ record, normalizeCandidate candidate source = .ok record := by
      intro candidate member
      obtain ⟨given, listed, rfl⟩ := List.mem_map.mp member
      obtain ⟨raw, record, rfl, normalized, _⟩ := readable given listed
      exact ⟨record, normalized⟩
    obtain ⟨records, normalized⟩ := mapM_exists normalizes
    have reads : ∀ record ∈ records,
        ∃ row, readinessOfRecord settings record instruments = .ok row := by
      intro record member
      obtain ⟨candidate, listed, own⟩ := exists_of_mem_mapM normalized record member
      obtain ⟨given, among, rfl⟩ := List.mem_map.mp listed
      obtain ⟨raw, other, rfl, ofRaw, usable⟩ := readable given among
      cases Except.ok.inj (own.symm.trans ofRaw)
      exact readinessOfRecord_ok_iff.mpr usable
    obtain ⟨rows, built⟩ := mapM_exists reads
    have ran : buildBrokerContractReadinessBatch settings source candidates instruments =
        .ok rows := bind_eq_ok.mpr ⟨records, normalized, built⟩
    refine ⟨rows, ran, ?_⟩
    have pairs := (List.forall₂_and_left _ _).mpr ⟨readable, forall₂_of_batch ran⟩
    apply pairs.imp
    rintro candidate row ⟨⟨raw, other, rfl, ofRaw, _⟩, record, ownRecord, own⟩
    have answers := answersRecord_of_ok own
    refine ⟨bind_eq_ok.mpr ⟨record, ownRecord, own⟩, answers.blocked, ?_⟩
    intro recordAlone found unusable
    cases Except.ok.inj (ownRecord.symm.trans found)
    exact answers.unusable unusable

end Batch

def wordStrike : PyDict :=
  [("candidate_id", .str "c1"), ("symbol", .str "NIFTY"), ("strategy_id", .str "orb"),
    ("setup_family", .str "ORB"), ("expiry", .str "2026-05-28"), ("strike", .str "abc"),
    ("option_type", .str "CE")]

/-- The strike ends the batch. -/
theorem word_strike_ends_batch :
    ¬ ∀ (settings : ResolverSettings) (source : String) (candidates : List ReadinessCandidate)
      (instruments : List PyDict), ∃ rows,
        buildBrokerContractReadinessBatch settings source candidates instruments = .ok rows ∧
          List.Forall₂ (AnswersAlone settings source instruments) candidates rows := by
  intro claimed
  obtain ⟨rows, ran, _⟩ := claimed {} "test" [.raw (.plain (.dict wordStrike))] []
  have failed : (buildBrokerContractReadinessBatch {} "test"
      [.raw (.plain (.dict wordStrike))] []).toOption.isNone = true := by decide +kernel
  rw [ran] at failed
  cases failed

end Algotradify.Broker
