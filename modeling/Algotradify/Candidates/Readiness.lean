/-
Execution readiness: the blockers that five pieces of evidence leave.

Each piece of evidence is missing, refused or taken. One that is missing or refused blocks,
and one that is taken adds the blockers and warnings it brings. Execution is allowed when
nothing blocks.
-/

import Algotradify.Execution.OrderIntent

namespace Algotradify.Candidates

open Py Execution

variable {label : String} {evidence : Option PyDict}

inductive ExecutionReadinessStatus where
  | allowed
  | blockedCandidateTruth
  | blockedOpportunity
  | blockedBrokerContract
  | blockedMarketReadiness
  | blockedRisk
  | blockedIncompleteEvidence
deriving DecidableEq, Repr

def ExecutionReadinessStatus.value : ExecutionReadinessStatus → String
  | .allowed => "ALLOWED"
  | .blockedCandidateTruth => "BLOCKED_CANDIDATE_TRUTH"
  | .blockedOpportunity => "BLOCKED_OPPORTUNITY"
  | .blockedBrokerContract => "BLOCKED_BROKER_CONTRACT"
  | .blockedMarketReadiness => "BLOCKED_MARKET_READINESS"
  | .blockedRisk => "BLOCKED_RISK"
  | .blockedIncompleteEvidence => "BLOCKED_INCOMPLETE_EVIDENCE"

structure RiskReadiness where
  allowed : Bool
  status : String := "RISK_PLACEHOLDER"
  blockers : List String := []
  warnings : List String := []
  evidence : PyDict := []

def RiskReadiness.toDict (risk : RiskReadiness) : PyDict :=
  [("allowed", .bool risk.allowed), ("status", .str risk.status),
    ("blockers", ofStrings risk.blockers), ("warnings", ofStrings risk.warnings),
    ("evidence", .dict risk.evidence)]

inductive RiskEvidence where
  | object (risk : RiskReadiness)
  | entries (risk : PyDict)

/-- `_risk_to_dict`. -/
def RiskEvidence.toDict : RiskEvidence → PyDict
  | .object risk => risk.toDict
  | .entries risk => risk

/-! ### Findings -/

structure Findings where
  blockers : List String
  warnings : List String

/-- The values that `_prefixed` goes through. -/
def prefixedValues : PyValue → List PyValue
  | .str text => [.str text]
  | .list items => items
  | value => [.str (printValue value)]

/-- `_prefixed`. -/
def prefixed (values : PyValue) (label : String) : List String :=
  if !values.truthy then []
  else
    ((prefixedValues values).filter fun value => !value.isNoneOrEmpty).map
      fun value => label ++ ":" ++ printValue value

def takenFindings (label : String) (evidence : PyDict) : Findings :=
  ⟨prefixed (PyDict.get evidence "blockers") label, prefixed (PyDict.get evidence "warnings") label⟩

/-- `value in {first, second, ...}` of texts: a list or a dictionary has no hash. -/
def inTexts (value : PyValue) (texts : List String) : Except PyError Bool :=
  match value with
  | .list _ => .error (.typeError "unhashable type: 'list'")
  | .dict _ => .error (.typeError "unhashable type: 'dict'")
  | .str text => .ok (decide (text ∈ texts))
  | _ => .ok false

def statusFindings (missing field wanted refused label : String) : Option PyDict → Findings
  | none => ⟨[missing], []⟩
  | some evidence =>
      let status := PyDict.get evidence field
      if !status.isStr wanted then ⟨[refused ++ printValue status], []⟩
      else takenFindings label evidence

def truthFindings : Option PyDict → Findings :=
  statusFindings "MISSING_CANDIDATE_TRUTH" "truth_status" "REAL" "CANDIDATE_TRUTH_NOT_REAL:"
    "CANDIDATE_TRUTH"

def opportunityFindings : Option PyDict → Except PyError Findings
  | none => .ok ⟨["MISSING_OPPORTUNITY"], []⟩
  | some opportunity => do
      let status := PyDict.get opportunity "opportunity_status"
      let rankable ← inTexts status ["SELECTED", "RANKED"]
      if rankable then pure (takenFindings "OPPORTUNITY" opportunity)
      else pure ⟨["OPPORTUNITY_NOT_RANKABLE:" ++ printValue status], []⟩

/-- A contract that was found by a fallback is taken with a warning. -/
def brokerFindings : Option PyDict → Except PyError Findings
  | none => .ok ⟨["MISSING_BROKER_CONTRACT_READINESS"], []⟩
  | some broker => do
      let status := PyDict.get broker "readiness_status"
      let known ← inTexts status ["RESOLVED_EXACT", "RESOLVED_FALLBACK"]
      if known && (PyDict.get broker "resolved").truthy then
        let taken := takenFindings "BROKER_CONTRACT" broker
        pure ⟨taken.blockers, taken.warnings ++
          Dedup.messageIf (PyDict.get broker "fallback_used").truthy
            "BROKER_CONTRACT:FALLBACK_USED"⟩
      else pure ⟨["BROKER_CONTRACT_NOT_RESOLVED:" ++ printValue status], []⟩

def marketFindings : Option PyDict → Findings :=
  statusFindings "MISSING_MARKET_READINESS" "status" "READY" "MARKET_NOT_READY:" "MARKET"

/-- Risk that is not allowed brings its blockers all the same, but no warnings. -/
def riskFindings : Option PyDict → Findings
  | none => ⟨["MISSING_RISK_READINESS"], []⟩
  | some risk =>
      let taken := takenFindings "RISK" risk
      if !(PyDict.get risk "allowed").truthy then
        ⟨("RISK_NOT_ALLOWED:" ++ printValue (PyDict.get risk "status")) :: taken.blockers, []⟩
      else taken

/-! ### The record -/

structure ExecutionReadiness where
  candidateId : String
  executionAllowed : Bool
  status : ExecutionReadinessStatus
  blockers : List String
  warnings : List String
  evidence : PyDict

def ExecutionReadiness.toDict (readiness : ExecutionReadiness) : PyDict :=
  [("candidate_id", .str readiness.candidateId),
    ("execution_allowed", .bool readiness.executionAllowed),
    ("status", .str readiness.status.value), ("blockers", ofStrings readiness.blockers),
    ("warnings", ofStrings readiness.warnings), ("evidence", .dict readiness.evidence),
    ("is_execution_readiness_record", .bool true), ("is_order", .bool false)]

def statusStarts : List (String × ExecutionReadinessStatus) :=
  [("MISSING_", .blockedIncompleteEvidence), ("CANDIDATE_TRUTH", .blockedCandidateTruth),
    ("OPPORTUNITY", .blockedOpportunity), ("BROKER_CONTRACT", .blockedBrokerContract),
    ("MARKET", .blockedMarketReadiness), ("RISK", .blockedRisk)]

/-- `_status_from_blockers`: the first start that some blocker has. -/
def statusFromBlockers (blockers : List String) : ExecutionReadinessStatus :=
  match statusStarts.find? fun entry => blockers.any fun item => startsWith item entry.1 with
  | some entry => entry.2
  | none => .blockedIncompleteEvidence

/-- `_candidate_id`: the first that is given. -/
def readinessCandidateId (payloads : List (Option PyDict)) : String :=
  let ids := payloads.map fun payload => fieldOf payload "candidate_id"
  match ids.find? PyValue.truthy with
  | some candidateId => printValue candidateId
  | none => "unknown"

def ofOptionDict : Option PyDict → PyValue
  | none => .none
  | some entries => .dict entries

structure Evidence where
  candidateTruth : Option PyDict
  opportunity : Option PyDict
  brokerContract : Option PyDict
  marketReadiness : Option PyDict
  risk : Option RiskEvidence

/-- `_risk_to_dict(risk)`. -/
def Evidence.riskPayload (given : Evidence) : Option PyDict :=
  given.risk.map RiskEvidence.toDict

def Evidence.toDict (given : Evidence) : PyDict :=
  [("candidate_truth", ofOptionDict given.candidateTruth),
    ("opportunity", ofOptionDict given.opportunity),
    ("broker_contract", ofOptionDict given.brokerContract),
    ("market_readiness", ofOptionDict given.marketReadiness),
    ("risk", ofOptionDict given.riskPayload)]

def Evidence.findings (given : Evidence) : Except PyError (List Findings) := do
  let opportunity ← opportunityFindings given.opportunity
  let broker ← brokerFindings given.brokerContract
  pure [truthFindings given.candidateTruth, opportunity, broker,
    marketFindings given.marketReadiness, riskFindings given.riskPayload]

/-- `build_execution_readiness`. -/
def buildExecutionReadiness (given : Evidence) : Except PyError ExecutionReadiness := do
  let findings ← given.findings
  let blockers := Paper.dedupe (findings.flatMap Findings.blockers)
  pure
    { candidateId := readinessCandidateId
        [given.candidateTruth, given.opportunity, given.brokerContract]
      executionAllowed := blockers.isEmpty
      status := if blockers.isEmpty then .allowed else statusFromBlockers blockers
      blockers := blockers
      warnings := Paper.dedupe (findings.flatMap Findings.warnings)
      evidence := given.toDict }

theorem readinessCandidateId_of_given {payload : PyDict} (others : List (Option PyDict))
    (given : (PyDict.get payload "candidate_id").truthy = true) :
    readinessCandidateId (some payload :: others) =
      printValue (PyDict.get payload "candidate_id") := by
  simp [readinessCandidateId, fieldOf, given]

theorem candidateId_of_built {given : Evidence} {readiness : ExecutionReadiness}
    (made : buildExecutionReadiness given = .ok readiness) :
    readiness.candidateId = readinessCandidateId
      [given.candidateTruth, given.opportunity, given.brokerContract] := by
  obtain ⟨findings, -, made⟩ := bind_eq_ok.mp made
  rw [← Except.ok.inj made]

/-! ### What is allowed -/

def Unblocked (evidence : PyDict) : Prop :=
  ∀ label, prefixed (PyDict.get evidence "blockers") label = []

structure TruthTaken (truth : PyDict) : Prop where
  status : PyDict.get truth "truth_status" = .str "REAL"
  unblocked : Unblocked truth

structure OpportunityTaken (opportunity : PyDict) : Prop where
  status : PyDict.get opportunity "opportunity_status" = .str "SELECTED" ∨
    PyDict.get opportunity "opportunity_status" = .str "RANKED"
  unblocked : Unblocked opportunity

structure BrokerTaken (broker : PyDict) : Prop where
  status : PyDict.get broker "readiness_status" = .str "RESOLVED_EXACT" ∨
    PyDict.get broker "readiness_status" = .str "RESOLVED_FALLBACK"
  resolved : (PyDict.get broker "resolved").truthy = true
  unblocked : Unblocked broker

structure MarketTaken (market : PyDict) : Prop where
  status : PyDict.get market "status" = .str "READY"
  unblocked : Unblocked market

structure RiskTaken (risk : PyDict) : Prop where
  allowed : (PyDict.get risk "allowed").truthy = true
  unblocked : Unblocked risk

structure AllTaken (given : Evidence) : Prop where
  truth : ∃ truth, given.candidateTruth = some truth ∧ TruthTaken truth
  opportunity : ∃ opportunity, given.opportunity = some opportunity ∧ OpportunityTaken opportunity
  broker : ∃ broker, given.brokerContract = some broker ∧ BrokerTaken broker
  market : ∃ market, given.marketReadiness = some market ∧ MarketTaken market
  risk : ∃ risk, given.riskPayload = some risk ∧ RiskTaken risk

theorem prefixed_eq_nil_iff (values : PyValue) (label : String) :
    prefixed values label = [] ↔
      values.truthy = false ∨ ∀ value ∈ prefixedValues values, value.isNoneOrEmpty = true := by
  unfold prefixed
  cases given : values.truthy with
  | false => simp
  | true => simp [List.filter_eq_nil_iff]

theorem unblocked_of_prefixed {evidence : PyDict}
    (none : prefixed (PyDict.get evidence "blockers") label = []) : Unblocked evidence := by
  intro other
  rw [prefixed_eq_nil_iff] at none ⊢
  exact none

theorem takenFindings_eq_nil_iff {evidence : PyDict} :
    (takenFindings label evidence).blockers = [] ↔ Unblocked evidence := by
  constructor
  · exact unblocked_of_prefixed
  · intro unblocked
    exact unblocked label

theorem statusFindings_eq_nil_iff {missing field wanted refused : String} (evidence : Option PyDict) :
    (statusFindings missing field wanted refused label evidence).blockers = [] ↔
      ∃ entries, evidence = some entries ∧ PyDict.get entries field = .str wanted ∧
        Unblocked entries := by
  cases evidence with
  | none => simp [statusFindings]
  | some entries =>
      simp only [Option.some.injEq, exists_eq_left', ← PyValue.isStr_eq_true]
      cases named : (PyDict.get entries field).isStr wanted with
      | false => simp [statusFindings, named]
      | true => simp [statusFindings, named, takenFindings_eq_nil_iff]

theorem truthFindings_eq_nil_iff (evidence : Option PyDict) :
    (truthFindings evidence).blockers = [] ↔ ∃ truth, evidence = some truth ∧ TruthTaken truth := by
  unfold truthFindings
  rw [statusFindings_eq_nil_iff]
  constructor
  · rintro ⟨truth, given, status, unblocked⟩
    exact ⟨truth, given, status, unblocked⟩
  · rintro ⟨truth, given, taken⟩
    exact ⟨truth, given, taken.status, taken.unblocked⟩

theorem marketFindings_eq_nil_iff (evidence : Option PyDict) :
    (marketFindings evidence).blockers = [] ↔
      ∃ market, evidence = some market ∧ MarketTaken market := by
  unfold marketFindings
  rw [statusFindings_eq_nil_iff]
  constructor
  · rintro ⟨market, given, status, unblocked⟩
    exact ⟨market, given, status, unblocked⟩
  · rintro ⟨market, given, taken⟩
    exact ⟨market, given, taken.status, taken.unblocked⟩

theorem riskFindings_eq_nil_iff (evidence : Option PyDict) :
    (riskFindings evidence).blockers = [] ↔ ∃ risk, evidence = some risk ∧ RiskTaken risk := by
  cases evidence with
  | none => simp [riskFindings]
  | some risk =>
      simp only [Option.some.injEq, exists_eq_left']
      cases allowed : (PyDict.get risk "allowed").truthy with
      | false =>
          constructor
          · intro none
            simp [riskFindings, allowed] at none
          · intro taken
            rw [taken.allowed] at allowed
            cases allowed
      | true =>
          have taken : riskFindings (some risk) = takenFindings "RISK" risk := by
            simp [riskFindings, allowed]
          rw [taken, takenFindings_eq_nil_iff]
          constructor
          · intro unblocked
            exact ⟨allowed, unblocked⟩
          · intro all
            exact all.unblocked

theorem inTexts_eq_true_iff {value : PyValue} {texts : List String} :
    inTexts value texts = .ok true ↔ ∃ text ∈ texts, value = .str text := by
  cases value with
  | str text =>
      constructor
      · intro found
        exact ⟨text, of_decide_eq_true (Except.ok.inj found), rfl⟩
      · rintro ⟨other, member, same⟩
        cases same
        exact congrArg Except.ok (decide_eq_true member)
  | none | bool | int | float | list | dict => simp [inTexts]

theorem opportunityFindings_eq_nil_iff {findings : Findings}
    (found : opportunityFindings evidence = .ok findings) :
    findings.blockers = [] ↔
      ∃ opportunity, evidence = some opportunity ∧ OpportunityTaken opportunity := by
  cases evidence with
  | none =>
      cases found
      simp
  | some opportunity =>
      simp only [Option.some.injEq, exists_eq_left']
      obtain ⟨rankable, read, made⟩ := bind_eq_ok.mp found
      cases rankable with
      | false =>
          cases made
          constructor
          · intro none
            cases none
          · intro taken
            have member : inTexts (PyDict.get opportunity "opportunity_status")
                ["SELECTED", "RANKED"] = .ok true := by
              apply inTexts_eq_true_iff.mpr
              rcases taken.status with selected | ranked
              · exact ⟨_, List.mem_cons_self, selected⟩
              · exact ⟨_, List.mem_cons_of_mem _ List.mem_cons_self, ranked⟩
            rw [read] at member
            cases member
      | true =>
          cases made
          have status : PyDict.get opportunity "opportunity_status" = .str "SELECTED" ∨
              PyDict.get opportunity "opportunity_status" = .str "RANKED" := by
            simpa using inTexts_eq_true_iff.mp read
          constructor
          · intro none
            exact ⟨status, takenFindings_eq_nil_iff.mp none⟩
          · intro taken
            exact takenFindings_eq_nil_iff.mpr taken.unblocked

theorem brokerFindings_eq_nil_iff {findings : Findings}
    (found : brokerFindings evidence = .ok findings) :
    findings.blockers = [] ↔ ∃ broker, evidence = some broker ∧ BrokerTaken broker := by
  cases evidence with
  | none =>
      cases found
      simp
  | some broker =>
      simp only [Option.some.injEq, exists_eq_left']
      obtain ⟨known, read, made⟩ := bind_eq_ok.mp found
      have status_iff : known = true ↔
          (PyDict.get broker "readiness_status" = .str "RESOLVED_EXACT" ∨
            PyDict.get broker "readiness_status" = .str "RESOLVED_FALLBACK") := by
        have found := @inTexts_eq_true_iff (PyDict.get broker "readiness_status")
          ["RESOLVED_EXACT", "RESOLVED_FALLBACK"]
        rw [read] at found
        simpa using found
      cases taken : known && (PyDict.get broker "resolved").truthy with
      | false =>
          rw [taken] at made
          cases made
          constructor
          · intro none
            cases none
          · intro all
            rw [status_iff.mpr all.status, all.resolved] at taken
            cases taken
      | true =>
          rw [taken] at made
          cases made
          obtain ⟨isKnown, resolved⟩ := Bool.and_eq_true_iff.mp taken
          constructor
          · intro none
            exact ⟨status_iff.mp isKnown, resolved, takenFindings_eq_nil_iff.mp none⟩
          · intro all
            exact takenFindings_eq_nil_iff.mpr all.unblocked

/-! ### Every blocker is a visible text -/

def Findings.Visible (findings : Findings) : Prop :=
  ∀ text ∈ findings.blockers, strip text ≠ ""

theorem visible_taken (visible : strip label ≠ "") (evidence : PyDict) :
    (takenFindings label evidence).Visible := by
  intro text member
  have listed : text ∈ prefixed (PyDict.get evidence "blockers") label := member
  unfold prefixed at listed
  split at listed
  · cases listed
  · obtain ⟨value, -, rfl⟩ := List.mem_map.mp listed
    rw [String.append_assoc]
    exact strip_append_ne_empty _ visible

theorem visible_single {text : String} (visible : strip text ≠ "") (warnings : List String) :
    Findings.Visible ⟨[text], warnings⟩ := by
  intro item member
  rw [List.mem_singleton.mp member]
  exact visible

theorem visible_statusFindings {missing field wanted refused : String}
    (ofMissing : strip missing ≠ "") (ofRefused : strip refused ≠ "") (ofLabel : strip label ≠ "")
    (evidence : Option PyDict) :
    (statusFindings missing field wanted refused label evidence).Visible := by
  cases evidence with
  | none => exact visible_single ofMissing _
  | some entries =>
      unfold statusFindings
      dsimp only
      split
      · exact visible_single (strip_append_ne_empty _ ofRefused) _
      · exact visible_taken ofLabel entries

theorem visible_riskFindings (evidence : Option PyDict) : (riskFindings evidence).Visible := by
  cases evidence with
  | none => exact visible_single (by decide) _
  | some risk =>
      unfold riskFindings
      dsimp only
      split
      · intro text member
        rcases List.mem_cons.mp member with first | others
        · rw [first]
          exact strip_append_ne_empty _ (by decide)
        · exact visible_taken (by decide) risk text others
      · exact visible_taken (by decide) risk

theorem visible_opportunityFindings {findings : Findings}
    (found : opportunityFindings evidence = .ok findings) : findings.Visible := by
  cases evidence with
  | none =>
      cases found
      exact visible_single (by decide) _
  | some opportunity =>
      obtain ⟨rankable, -, made⟩ := bind_eq_ok.mp found
      cases rankable with
      | false =>
          cases made
          exact visible_single (strip_append_ne_empty _ (by decide)) _
      | true =>
          cases made
          exact visible_taken (by decide) opportunity

theorem visible_brokerFindings {findings : Findings}
    (found : brokerFindings evidence = .ok findings) : findings.Visible := by
  cases evidence with
  | none =>
      cases found
      exact visible_single (by decide) _
  | some broker =>
      obtain ⟨known, -, made⟩ := bind_eq_ok.mp found
      cases taken : known && (PyDict.get broker "resolved").truthy with
      | false =>
          rw [taken] at made
          cases made
          exact visible_single (strip_append_ne_empty _ (by decide)) _
      | true =>
          rw [taken] at made
          cases made
          exact visible_taken (by decide) broker

theorem dedupe_findings_eq_nil_iff {findings : List Findings}
    (visible : ∀ one ∈ findings, one.Visible) :
    Paper.dedupe (findings.flatMap Findings.blockers) = [] ↔ ∀ one ∈ findings, one.blockers = [] := by
  rw [Paper.dedupe_eq_nil_iff]
  constructor
  · intro blank one member
    apply List.eq_nil_iff_forall_not_mem.mpr
    intro text listed
    exact visible one member text listed (blank text (List.mem_flatMap.mpr ⟨one, member, listed⟩))
  · intro none text listed
    obtain ⟨one, member, own⟩ := List.mem_flatMap.mp listed
    rw [none one member] at own
    cases own

theorem executionAllowed_iff {given : Evidence} {readiness : ExecutionReadiness}
    (made : buildExecutionReadiness given = .ok readiness) :
    readiness.executionAllowed = true ↔ AllTaken given := by
  obtain ⟨findings, found, made⟩ := bind_eq_ok.mp made
  obtain ⟨opportunity, ofOpportunity, found⟩ := bind_eq_ok.mp found
  obtain ⟨broker, ofBroker, found⟩ := bind_eq_ok.mp found
  cases Except.ok.inj found
  cases Except.ok.inj made
  have visible : ∀ one ∈ [truthFindings given.candidateTruth, opportunity, broker,
      marketFindings given.marketReadiness, riskFindings given.riskPayload], one.Visible := by
    simp only [List.forall_mem_cons, List.not_mem_nil, false_implies, implies_true, and_true]
    exact ⟨visible_statusFindings (by decide) (by decide) (by decide) _,
      visible_opportunityFindings ofOpportunity, visible_brokerFindings ofBroker,
      visible_statusFindings (by decide) (by decide) (by decide) _, visible_riskFindings _⟩
  change List.isEmpty _ = true ↔ _
  rw [List.isEmpty_iff, dedupe_findings_eq_nil_iff visible]
  simp only [List.forall_mem_cons, List.not_mem_nil, false_implies, implies_true, and_true]
  rw [truthFindings_eq_nil_iff, opportunityFindings_eq_nil_iff ofOpportunity,
    brokerFindings_eq_nil_iff ofBroker, marketFindings_eq_nil_iff, riskFindings_eq_nil_iff]
  constructor
  · rintro ⟨truth, opportunity, broker, market, risk⟩
    exact ⟨truth, opportunity, broker, market, risk⟩
  · intro all
    exact ⟨all.truth, all.opportunity, all.broker, all.market, all.risk⟩

end Algotradify.Candidates
