/-
The runtime evidence of a candidate: which of the desk's records are taken for it.

The records are filed under the keys they carry, and the first record of a key stays. A
candidate is looked up by its own keys, in order; for its market record the keys of the broker
record that was found are added. A risk record of the whole desk stands in where none is found.
-/

import Algotradify.Candidates.Gates

namespace Algotradify.Candidates

open Py Execution

variable {filed : List (String × PyDict)} {record : CandidateTruthRecord} {desk : RuntimeRecords}

/-! ### Keys -/

def fieldKeys (fields : List String) (entries : PyDict) : List String :=
  ((fields.map (PyDict.get entries)).filter fun value => !value.isNoneOrEmpty).map
    fun value => upper (printValue value)

def recordFields : List String := ["candidate_id", "symbol", "tradingsymbol", "instrument_token"]

def instrumentFields : List String := ["tradingsymbol", "instrument_token", "symbol"]

/-- `_evidence_keys`. -/
def evidenceKeys (row : PyDict) : List String :=
  let instrument := (PyDict.get row "instrument").asDict
  let resolved := (PyDict.get (PyDict.get row "resolution").asDict "instrument").asDict
  Dedup.firsts id (fieldKeys recordFields row ++ fieldKeys instrumentFields instrument ++
    fieldKeys instrumentFields resolved)

/-- `_candidate_evidence_keys`. -/
def candidateEvidenceKeys (truth : PyDict) (opportunity : Option PyDict) : List String :=
  Dedup.firsts id (fieldKeys recordFields truth ++ fieldKeys recordFields (opportunity.getD []) ++
    fieldKeys recordFields (PyDict.get truth "raw").asDict ++
    fieldKeys recordFields (PyDict.get truth "normalized").asDict)

/-! ### Searching -/

structure RuntimeRecords where
  broker : List PyDict
  market : List PyDict
  risk : List PyDict

def RuntimeRecords.counts (records : RuntimeRecords) : PyDict :=
  [("broker_records", .int records.broker.length), ("market_records", .int records.market.length),
    ("risk_records", .int records.risk.length)]

/-- The risk record of the whole desk: the only one, if it names no candidate. -/
def riskGlobal : List PyDict → Option PyDict
  | [risk] => if (PyDict.get risk "candidate_id").truthy then none else some risk
  | _ => none

/-- `_first_index_hit` in the index that `_index_by_keys` makes. -/
def firstIndexHit (records : List PyDict) (keys : List String) : Option PyDict :=
  Dedup.firstHit (Dedup.indexBy evidenceKeys records) (keys.map upper)

def brokerKeys (broker : Option PyDict) : List String :=
  ((givenDict broker).map evidenceKeys).getD []

/-- `_find_runtime_evidence`. -/
def findRuntimeEvidence (truth : PyDict) (opportunity : Option PyDict) (records : RuntimeRecords) :
    RuntimeEvidence :=
  let keys := candidateEvidenceKeys truth opportunity
  let broker := firstIndexHit records.broker keys
  { brokerContract := broker
    marketReadiness := firstIndexHit records.market (keys ++ brokerKeys broker)
    risk := ((givenDict (firstIndexHit records.risk keys)).or (riskGlobal records.risk)).map
      .entries }

def foundFor (filed : List (String × PyDict)) (record : CandidateTruthRecord)
    (records : RuntimeRecords) : RuntimeEvidence :=
  findRuntimeEvidence record.toDict (filed.lookup record.candidateId) records

def readinessBy (filed : List (String × PyDict)) (desk : RuntimeRecords)
    (record : CandidateTruthRecord) : Except PyError ExecutionReadiness :=
  buildExecutionReadiness (evidenceOf filed record (foundFor filed record desk))

/-- A row of the payload: the counts of the desk's records are added to its evidence. -/
def ExecutionReadiness.withCounts (readiness : ExecutionReadiness) (desk : RuntimeRecords) :
    PyDict :=
  { readiness with
    evidence := PyDict.set readiness.evidence "runtime_evidence_counts" (.dict desk.counts) }.toDict

/-- `_execution_readiness_payload` of the opportunities it has read. -/
def executionReadinessPayload (opportunities : List RawCandidate) (desk : RuntimeRecords) :
    Except PyError (List PyDict) := do
  let records ← normalizeCandidates opportunities "api.opportunities"
  let result ← runOpportunityPipeline opportunities "api.opportunities" true
  let readiness ← records.mapM (readinessBy (opportunitiesById result) desk)
  pure (readiness.map fun one => one.withCounts desk)

/-! ### What matches -/

def Matches (keys : List String) (row : PyDict) : Prop :=
  ∃ key ∈ keys.map upper, key ∈ evidenceKeys row

instance (keys : List String) (row : PyDict) : Decidable (Matches keys row) :=
  inferInstanceAs (Decidable (∃ key ∈ keys.map upper, key ∈ evidenceKeys row))

theorem matches_of_firstIndexHit {records : List PyDict} {keys : List String} {row : PyDict}
    (found : firstIndexHit records keys = some row) : row ∈ records ∧ Matches keys row :=
  Dedup.mem_of_firstHit found

theorem firstIndexHit_congr {records others : List PyDict} {keys : List String}
    (same : records.filter (Matches keys) = others.filter (Matches keys)) :
    firstIndexHit records keys = firstIndexHit others keys := by
  apply Dedup.firstHit_congr _ same
  intro row found
  exact decide_eq_true found

/-- Evidence that matches a candidate's record: its broker and risk records carry one of its
keys, its market record one of these or of the broker record's, and the risk record may be the
desk's own. -/
structure MatchingEvidence (filed : List (String × PyDict)) (record : CandidateTruthRecord)
    (desk : RuntimeRecords) (found : RuntimeEvidence) : Prop where
  broker : ∃ broker ∈ desk.broker, found.brokerContract = some broker ∧
    Matches (candidateEvidenceKeys record.toDict (filed.lookup record.candidateId)) broker
  market : ∃ market ∈ desk.market, found.marketReadiness = some market ∧
    Matches (candidateEvidenceKeys record.toDict (filed.lookup record.candidateId) ++
      brokerKeys found.brokerContract) market
  risk : ∃ risk, found.risk = some (.entries risk) ∧
    (risk ∈ desk.risk ∧
        Matches (candidateEvidenceKeys record.toDict (filed.lookup record.candidateId)) risk ∨
      riskGlobal desk.risk = some risk)

theorem matchingEvidence_of_allTaken
    (all : AllTaken (evidenceOf filed record (foundFor filed record desk))) :
    MatchingEvidence filed record desk (foundFor filed record desk) := by
  obtain ⟨broker, ofBroker, -⟩ := all.broker
  obtain ⟨market, ofMarket, -⟩ := all.market
  obtain ⟨risk, ofRisk, -⟩ := all.risk
  constructor
  · obtain ⟨listed, fits⟩ := matches_of_firstIndexHit ofBroker
    exact ⟨broker, listed, ofBroker, fits⟩
  · obtain ⟨listed, fits⟩ := matches_of_firstIndexHit ofMarket
    exact ⟨market, listed, ofMarket, fits⟩
  · obtain ⟨evidence, given, shape⟩ := Option.map_eq_some_iff.mp ofRisk
    obtain ⟨own, chosen, made⟩ := Option.map_eq_some_iff.mp given
    refine ⟨own, made ▸ given, ?_⟩
    rcases Option.or_eq_some_iff.mp chosen with hit | ⟨-, whole⟩
    · obtain ⟨found, -⟩ := Option.filter_eq_some_iff.mp hit
      exact .inl (matches_of_firstIndexHit found)
    · exact .inr whole

/-- Two desks that agree on the records that match a candidate, and on the risk record of the
whole desk. -/
structure SameMatches (filed : List (String × PyDict)) (record : CandidateTruthRecord)
    (desk other : RuntimeRecords) : Prop where
  broker : desk.broker.filter
      (Matches (candidateEvidenceKeys record.toDict (filed.lookup record.candidateId))) =
    other.broker.filter
      (Matches (candidateEvidenceKeys record.toDict (filed.lookup record.candidateId)))
  market : desk.market.filter
      (Matches (candidateEvidenceKeys record.toDict (filed.lookup record.candidateId) ++
        brokerKeys (foundFor filed record desk).brokerContract)) =
    other.market.filter
      (Matches (candidateEvidenceKeys record.toDict (filed.lookup record.candidateId) ++
        brokerKeys (foundFor filed record desk).brokerContract))
  risk : desk.risk.filter
      (Matches (candidateEvidenceKeys record.toDict (filed.lookup record.candidateId))) =
    other.risk.filter
      (Matches (candidateEvidenceKeys record.toDict (filed.lookup record.candidateId)))
  global : riskGlobal desk.risk = riskGlobal other.risk

theorem SameMatches.foundFor_eq {other : RuntimeRecords}
    (same : SameMatches filed record desk other) :
    foundFor filed record desk = foundFor filed record other := by
  have broker : (foundFor filed record desk).brokerContract =
      (foundFor filed record other).brokerContract := firstIndexHit_congr same.broker
  have market := firstIndexHit_congr same.market
  have risk := firstIndexHit_congr same.risk
  unfold foundFor findRuntimeEvidence at broker market ⊢
  dsimp only at broker market ⊢
  rw [market, risk, same.global, broker]

/-! ### Rows of the payload -/

def RecordAt (opportunities : List RawCandidate) (place : ℕ) (record : CandidateTruthRecord)
    (filed : List (String × PyDict)) : Prop :=
  ∃ records result, normalizeCandidates opportunities "api.opportunities" = .ok records ∧
    runOpportunityPipeline opportunities "api.opportunities" true = .ok result ∧
    filed = opportunitiesById result ∧ records[place]? = some record

theorem row_of_payload {opportunities : List RawCandidate} {rows : List PyDict}
    (ran : executionReadinessPayload opportunities desk = .ok rows) {place : ℕ} {row : PyDict}
    (found : rows[place]? = some row) :
    ∃ record filed readiness, RecordAt opportunities place record filed ∧
      readinessBy filed desk record = .ok readiness ∧ row = readiness.withCounts desk := by
  obtain ⟨records, normalized, ran⟩ := bind_eq_ok.mp ran
  obtain ⟨result, piped, ran⟩ := bind_eq_ok.mp ran
  obtain ⟨list, built, made⟩ := bind_eq_ok.mp ran
  rw [← Except.ok.inj made, List.getElem?_map] at found
  obtain ⟨readiness, listed, shape⟩ := Option.map_eq_some_iff.mp found
  obtain ⟨record, given, own⟩ := getElem?_of_mapM built listed
  exact ⟨record, opportunitiesById result, readiness,
    ⟨records, result, normalized, piped, rfl, given⟩, own, shape.symm⟩

theorem RecordAt.unique {opportunities : List RawCandidate} {place : ℕ}
    {first second : CandidateTruthRecord} {other : List (String × PyDict)}
    (one : RecordAt opportunities place first filed)
    (two : RecordAt opportunities place second other) : first = second ∧ filed = other := by
  obtain ⟨records, result, normalized, piped, ofResult, found⟩ := one
  obtain ⟨again, same, normalizedAgain, pipedAgain, ofSame, foundAgain⟩ := two
  cases Except.ok.inj (normalized.symm.trans normalizedAgain)
  cases Except.ok.inj (piped.symm.trans pipedAgain)
  exact ⟨Option.some.inj (found.symm.trans foundAgain), ofResult.trans ofSame.symm⟩

structure ShowsEvidence (row : PyDict) (found : RuntimeEvidence) : Prop where
  broker : PyDict.get (PyDict.get row "evidence").asDict "broker_contract" =
    ofOptionDict found.brokerContract
  market : PyDict.get (PyDict.get row "evidence").asDict "market_readiness" =
    ofOptionDict found.marketReadiness
  risk : PyDict.get (PyDict.get row "evidence").asDict "risk" =
    ofOptionDict (found.risk.map RiskEvidence.toDict)

theorem showsEvidence_of_built {readiness : ExecutionReadiness}
    (built : readinessBy filed desk record = .ok readiness) :
    ShowsEvidence (readiness.withCounts desk) (foundFor filed record desk) := by
  obtain ⟨findings, -, made⟩ := bind_eq_ok.mp built
  rw [← Except.ok.inj made]
  have field : ∀ key, key ≠ "runtime_evidence_counts" → ∀ evidence : PyDict,
      PyDict.get (PyDict.set evidence "runtime_evidence_counts" (.dict desk.counts)) key =
        PyDict.get evidence key := by
    intro key different evidence
    exact PyDict.get_set_of_ne evidence _ different
  constructor
  · exact field _ (by decide) _
  · exact field _ (by decide) _
  · exact field _ (by decide) _

/-- What the payload says about a candidate is read from evidence that matches it, and other
records of the desk do not change whether it is allowed. -/
structure ReadByMatching (opportunities : List RawCandidate) (desk : RuntimeRecords)
    (rows : List PyDict) : Prop where
  matching : ∀ place row, rows[place]? = some row →
    PyDict.get row "execution_allowed" = .bool true →
      ∃ record filed, RecordAt opportunities place record filed ∧
        ShowsEvidence row (foundFor filed record desk) ∧
        MatchingEvidence filed record desk (foundFor filed record desk)
  unmoved : ∀ other others, executionReadinessPayload opportunities other = .ok others →
    ∀ place record filed, RecordAt opportunities place record filed →
      SameMatches filed record desk other →
        ∀ row same, rows[place]? = some row → others[place]? = some same →
          PyDict.get row "execution_allowed" = PyDict.get same "execution_allowed"

theorem readByMatching_of_payload {opportunities : List RawCandidate} {desk : RuntimeRecords}
    {rows : List PyDict} (ran : executionReadinessPayload opportunities desk = .ok rows) :
    ReadByMatching opportunities desk rows := by
  constructor
  · intro place row found allowed
    obtain ⟨record, filed, readiness, atPlace, built, shape⟩ := row_of_payload ran found
    rw [shape] at allowed ⊢
    have isAllowed : readiness.executionAllowed = true := PyValue.bool.inj allowed
    exact ⟨record, filed, atPlace, showsEvidence_of_built built,
      matchingEvidence_of_allTaken ((executionAllowed_iff built).mp isAllowed)⟩
  · intro other others ranOther place record filed atPlace sameMatches row same found foundOther
    obtain ⟨first, ofFirst, readiness, atFirst, built, shape⟩ := row_of_payload ran found
    obtain ⟨second, ofSecond, again, atSecond, builtAgain, shapeAgain⟩ :=
      row_of_payload ranOther foundOther
    obtain ⟨rfl, rfl⟩ := atFirst.unique atPlace
    obtain ⟨rfl, rfl⟩ := atSecond.unique atFirst
    have equal : readiness = again := by
      unfold readinessBy at built builtAgain
      rw [sameMatches.foundFor_eq] at built
      exact Except.ok.inj (built.symm.trans builtAgain)
    rw [shape, shapeAgain, equal]
    rfl

/-! ### Two candidates of one symbol -/

def candidateOf (id : String) : RawCandidate :=
  .plain (.dict [("candidate_id", .str id), ("symbol", .str "NIFTY"), ("strategy_id", .str "orb"),
    ("setup_family", .str "ORB"), ("confidence", .int 80)])

def approvesOnly (id : String) : RuntimeRecords :=
  { broker := [[("candidate_id", .str id), ("symbol", .str "NIFTY"),
      ("readiness_status", .str "RESOLVED_EXACT"), ("resolved", .bool true)]]
    market := [[("candidate_id", .str id), ("symbol", .str "NIFTY"), ("status", .str "READY")]]
    risk := [[("candidate_id", .str id), ("symbol", .str "NIFTY"), ("allowed", .bool true)]] }

theorem readByMatching_approved :
    ∃ rows, executionReadinessPayload [candidateOf "c1", candidateOf "c2"] (approvesOnly "c2") =
        .ok rows ∧
      ReadByMatching [candidateOf "c1", candidateOf "c2"] (approvesOnly "c2") rows := by
  obtain ⟨rows, ran⟩ : ∃ rows, executionReadinessPayload [candidateOf "c1", candidateOf "c2"]
      (approvesOnly "c2") = .ok rows := exists_ok (by decide +kernel)
  exact ⟨rows, ran, readByMatching_of_payload ran⟩

def ShowsOwn (row : PyDict) (field : String) : Prop :=
  ∀ used, PyDict.get (PyDict.get row "evidence").asDict field = .dict used →
    (PyDict.get used "candidate_id").isNoneOrEmpty = false →
      PyDict.get used "candidate_id" = PyDict.get row "candidate_id"

/-- The first of two candidates of one symbol is allowed by the approvals of the second. -/
theorem allowed_by_others :
    ¬ ∀ (opportunities : List RawCandidate) (desk : RuntimeRecords) (rows : List PyDict),
      executionReadinessPayload opportunities desk = .ok rows →
      ∀ (place : ℕ) (row : PyDict), rows[place]? = some row →
        PyDict.get row "execution_allowed" = .bool true →
          ∀ field ∈ ["broker_contract", "market_readiness", "risk"], ShowsOwn row field := by
  intro claimed
  have shown : ((executionReadinessPayload [candidateOf "c1", candidateOf "c2"]
      (approvesOnly "c2")).toOption.bind fun rows => rows[0]?.filter fun row =>
        (PyDict.get row "execution_allowed").isTrue && (PyDict.get row "candidate_id").isStr "c1" &&
          (PyDict.get (PyDict.get (PyDict.get row "evidence").asDict "broker_contract").asDict
            "candidate_id").isStr "c2").isSome = true := by decide +kernel
  obtain ⟨row, chosen⟩ := Option.isSome_iff_exists.mp shown
  obtain ⟨rows, ran, chosen⟩ := Option.bind_eq_some_iff.mp chosen
  obtain ⟨first, facts⟩ := Option.filter_eq_some_iff.mp chosen
  obtain ⟨facts, foreign⟩ := Bool.and_eq_true_iff.mp facts
  obtain ⟨allowed, named⟩ := Bool.and_eq_true_iff.mp facts
  have own := claimed _ _ rows (eq_ok_of_toOption ran) 0 row first
    ((PyValue.isTrue_eq_true _).mp allowed) "broker_contract" List.mem_cons_self
  rw [PyValue.isStr_eq_true] at foreign named
  cases broker : PyDict.get (PyDict.get row "evidence").asDict "broker_contract" with
  | dict used =>
      rw [broker, PyValue.asDict_dict] at foreign
      have same := own used broker (by rw [foreign]; rfl)
      rw [foreign, named] at same
      exact absurd (PyValue.str.inj same) (by decide)
  | none | bool | int | float | str | list =>
      rw [broker] at foreign
      cases foreign

end Algotradify.Candidates
