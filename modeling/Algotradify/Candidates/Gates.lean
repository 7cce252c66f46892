/-
The gates between a raw candidate and the selected row.

A list of candidates goes through the opportunity layer, execution readiness, the score of
trade quality and the selector. The runtime evidence about each candidate is whatever the
desk found for it. What is selected then belongs to a candidate that passed every gate.
-/

import Algotradify.Candidates.Flags
import Algotradify.Candidates.Readiness
import Algotradify.Candidates.Selector

namespace Algotradify.Candidates

open Py Execution

variable {candidate : RawCandidate} {record : CandidateTruthRecord} {filed : List (String × PyDict)}
variable {row : PyDict} {minQualityScore : PyFloat}

structure RuntimeEvidence where
  brokerContract : Option PyDict := none
  marketReadiness : Option PyDict := none
  risk : Option RiskEvidence := none

/-- The opportunities by their candidates' ids. A later one replaces an earlier one, and the
selected one all of them. -/
def opportunitiesById (result : OpportunityLayerResult) : List (String × PyDict) :=
  (result.ranked ++ result.blocked ++ result.dropped ++ result.selected.toList).foldl
    (fun filed row => Assoc.set filed row.candidateId row.toDict) []

def evidenceOf (filed : List (String × PyDict)) (record : CandidateTruthRecord)
    (runtime : RuntimeEvidence) : Evidence :=
  { candidateTruth := some record.toDict
    opportunity := filed.lookup record.candidateId
    brokerContract := runtime.brokerContract
    marketReadiness := runtime.marketReadiness
    risk := runtime.risk }

def readinessRecords (filed : List (String × PyDict)) (runtime : ℕ → RuntimeEvidence)
    (records : List CandidateTruthRecord) : Except PyError (List ExecutionReadiness) :=
  records.zipIdx.mapM fun placed =>
    buildExecutionReadiness (evidenceOf filed placed.1 (runtime placed.2))

def tradeQualityRows (rounding : ℚ → ℚ) (candidates : List RawCandidate) (source : String)
    (runtime : ℕ → RuntimeEvidence) : Except PyError (List PyDict) := do
  let records ← normalizeCandidates candidates source
  let result ← runOpportunityPipeline candidates source true
  let readiness ← readinessRecords (opportunitiesById result) runtime records
  let quality ← rankTradeQuality rounding (readiness.map ExecutionReadiness.toDict)
  pure (quality.map TradeQualityScore.toDict)

/-! ### A row that passed -/

structure PassesGates (record : CandidateTruthRecord) (filed : List (String × PyDict))
    (runtime : RuntimeEvidence) : Prop where
  real : record.truthStatus = .real
  unblocked : record.blockers = []
  opportunity : ∃ opportunity, filed.lookup record.candidateId = some opportunity ∧
    OpportunityTaken opportunity
  broker : ∃ broker, runtime.brokerContract = some broker ∧ BrokerTaken broker
  market : ∃ market, runtime.marketReadiness = some market ∧ MarketTaken market
  risk : ∃ risk, runtime.risk.map RiskEvidence.toDict = some risk ∧ RiskTaken risk

/-- A row that belongs to a record: its id, and the evidence that it was scored by. -/
structure BelongsTo (row : PyDict) (record : CandidateTruthRecord)
    (filed : List (String × PyDict)) (runtime : RuntimeEvidence) : Prop where
  id : PyDict.get row "candidate_id" = .str record.candidateId
  evidence : ∃ readiness, buildExecutionReadiness (evidenceOf filed record runtime) = .ok readiness ∧
    PyDict.get row "execution_readiness" = .dict readiness.toDict

/-! ### Records -/

theorem candidateIdText_ne_empty (raw : PyDict) : candidateIdText raw ≠ "" := by
  unfold candidateIdText shown
  split
  · decide
  · rename_i given
    intro empty
    have missing := (printValue_eq_empty_iff _).mp empty
    have found : (candidateIdOf raw).isNoneOrEmpty = false := by
      unfold candidateIdOf firstPresent at given ⊢
      cases first : (["candidate_id", "trade_id", "advisory_id", "id"].map (PyDict.get raw)).find?
          fun value => !value.isNoneOrEmpty with
      | none =>
          rw [first] at given
          exact absurd rfl given
      | some value =>
          have kept := List.find?_some first
          simpa using kept
    rw [missing] at found
    cases found

theorem readiness_id (normalizes : Normalizes candidate record) {runtime : RuntimeEvidence}
    {readiness : ExecutionReadiness}
    (built : buildExecutionReadiness (evidenceOf filed record runtime) = .ok readiness) :
    readiness.candidateId = record.candidateId := by
  have given : (PyValue.str record.candidateId).truthy = true := by
    rw [normalizes.id]
    exact decide_eq_true (candidateIdText_ne_empty _)
  rw [candidateId_of_built built]
  exact readinessCandidateId_of_given _ given

/-! ### Rows of the ranking -/

structure RowOf (filed : List (String × PyDict)) (runtime : RuntimeEvidence)
    (record : CandidateTruthRecord) (row : PyDict) : Prop where
  made : ∃ readiness score, buildExecutionReadiness (evidenceOf filed record runtime) = .ok readiness ∧
    ScoreOf readiness.toDict score ∧ row = score.toDict

theorem rowOf_of_tradeQualityRows {rounding : ℚ → ℚ} {candidates : List RawCandidate}
    {source : String} {runtime : ℕ → RuntimeEvidence} {rows : List PyDict}
    (ran : tradeQualityRows rounding candidates source runtime = .ok rows) :
    ∃ records result, normalizeCandidates candidates source = .ok records ∧
      runOpportunityPipeline candidates source true = .ok result ∧
      ∀ row ∈ rows, ∃ place record, records[place]? = some record ∧
        RowOf (opportunitiesById result) (runtime place) record row := by
  obtain ⟨records, normalized, ran⟩ := bind_eq_ok.mp ran
  obtain ⟨result, piped, ran⟩ := bind_eq_ok.mp ran
  obtain ⟨readiness, built, ran⟩ := bind_eq_ok.mp ran
  obtain ⟨quality, ranked, made⟩ := bind_eq_ok.mp ran
  refine ⟨records, result, normalized, piped, ?_⟩
  intro row member
  rw [← Except.ok.inj made] at member
  obtain ⟨score, inQuality, own⟩ := List.mem_map.mp member
  obtain ⟨entries, inReadiness, kept⟩ := scoreOf_of_ranked ranked inQuality
  obtain ⟨one, inBuilt, same⟩ := List.mem_map.mp inReadiness
  obtain ⟨placed, inRecords, ofPlace⟩ := exists_of_mem_mapM built one inBuilt
  rw [← same] at kept
  exact ⟨placed.2, placed.1, List.mem_zipIdx_iff_getElem?.mp inRecords,
    ⟨one, score, ofPlace, kept, own.symm⟩⟩

theorem passesGates_of_allTaken (normalizes : Normalizes candidate record)
    {runtime : RuntimeEvidence} (all : AllTaken (evidenceOf filed record runtime)) :
    PassesGates record filed runtime := by
  obtain ⟨truth, given, taken⟩ := all.truth
  cases Option.some.inj given
  have status : (PyValue.str record.truthStatus.value) = .str CandidateTruthStatus.real.value :=
    taken.status
  have real := CandidateTruthStatus.value_injective (PyValue.str.inj status)
  have unblocked : record.blockers = [] := by
    rcases (prefixed_eq_nil_iff _ "").mp (taken.unblocked "") with nothing | blank
    · have empty : (!(record.blockers.map PyValue.str).isEmpty) = false := nothing
      simpa using empty
    · apply List.eq_nil_iff_forall_not_mem.mpr
      intro text listed
      have missing := blank (.str text) (List.mem_map.mpr ⟨text, listed, rfl⟩)
      have none : text = "" := of_decide_eq_true missing
      rw [normalizes.blockers] at listed
      apply Paper.visible_dedupe _ text listed
      rw [none]
      rfl
  exact ⟨real, unblocked, all.opportunity, all.broker, all.market, all.risk⟩

theorem passesGates_of_eligible (normalizes : Normalizes candidate record)
    {runtime : RuntimeEvidence} (own : RowOf filed runtime record row)
    (read : rejectionReasons minQualityScore row = .ok []) :
    PassesGates record filed runtime := by
  obtain ⟨readiness, score, built, kept, made⟩ := own.made
  obtain ⟨-, execution, found, allowed⟩ := eligible_reads read
  have same : execution = readiness.toDict := by
    have field : PyDict.get row "execution_readiness" = .dict readiness.toDict := by
      rw [made, ← kept.record]
      rfl
    rw [field] at found
    exact (Except.ok.inj found).symm
  rw [same] at allowed
  exact passesGates_of_allTaken normalizes ((executionAllowed_iff built).mp allowed)

theorem belongsTo_of_rowOf (normalizes : Normalizes candidate record) {runtime : RuntimeEvidence}
    (own : RowOf filed runtime record row) :
    BelongsTo row record filed runtime := by
  obtain ⟨readiness, score, built, kept, made⟩ := own.made
  constructor
  · have named : score.candidateId = record.candidateId := by
      rw [kept.id]
      change printValue ((PyValue.str readiness.candidateId).or (.str "unknown")) = _
      rw [readiness_id normalizes built]
      have given : (PyValue.str record.candidateId).truthy = true := by
        rw [normalizes.id]
        exact decide_eq_true (candidateIdText_ne_empty _)
      rw [PyValue.or, if_pos given, printValue_str]
    rw [made, ← named]
    rfl
  · refine ⟨readiness, built, ?_⟩
    rw [made, ← kept.record]
    rfl

theorem BelongsTo.congr {other : PyDict} {runtime : RuntimeEvidence}
    (belongs : BelongsTo row record filed runtime)
    (sameId : PyDict.get other "candidate_id" = PyDict.get row "candidate_id")
    (sameEvidence : PyDict.get other "execution_readiness" =
      PyDict.get row "execution_readiness") : BelongsTo other record filed runtime := by
  obtain ⟨readiness, built, field⟩ := belongs.evidence
  exact ⟨sameId.trans belongs.id, readiness, built, sameEvidence.trans field⟩

theorem keys_toDict (score : TradeQualityScore) :
    PyDict.keys score.toDict =
      ["candidate_id", "quality_score", "status", "rank", "components", "penalties", "blockers",
        "warnings", "execution_readiness", "is_order"] := rfl

/-! ### The order of the rows -/

theorem rowScore_of_rowOf {runtime : RuntimeEvidence} (own : RowOf filed runtime record row) :
    ∃ number : ℚ, rowScore row = .finite number := by
  obtain ⟨readiness, score, -, kept, made⟩ := own.made
  obtain ⟨number, finite⟩ := kept.finite
  have field : PyDict.get row "quality_score" = .float (.finite number) := by
    rw [made, ← finite]
    rfl
  refine ⟨number, ?_⟩
  unfold rowScore
  rw [field]
  by_cases zero : number = 0
  · rw [zero]
    rfl
  · have given : (PyValue.float (.finite number)).truthy = true := decide_eq_true zero
    rw [PyValue.or, if_pos given]
    rfl

def numberOr0 : PyFloat → ℚ
  | .finite number => number
  | _ => 0

def rowKey (row : PyDict) : ℚ ×ₗ String :=
  toLex (numberOr0 (rowScore row), rowId row)

theorem descendsBy_rowKey {rows : List PyDict}
    (numbers : ∀ row ∈ rows, ∃ number : ℚ, rowScore row = .finite number) :
    Sorting.DescendsBy SelectedBefore rowKey rows := by
  intro first inFirst second inSecond
  obtain ⟨low, ofFirst⟩ := numbers first inFirst
  obtain ⟨high, ofSecond⟩ := numbers second inSecond
  unfold SelectedBefore rowOrderedBy rowKey
  rw [ofFirst, ofSecond]
  exact scoredLess_eq_false_iff

theorem le_first_eligible {rows : List PyDict}
    (numbers : ∀ row ∈ rows, ∃ number : ℚ, rowScore row = .finite number) {top : PyDict}
    (first : (eligibleInOrder minQualityScore rows).head? = some top) :
    ∀ row ∈ eligibleInOrder minQualityScore rows, (rowScore row).le (rowScore top) = true := by
  have kept : ∀ row ∈ rows.filter (isEligible minQualityScore),
      ∃ number : ℚ, rowScore row = .finite number :=
    fun row member => numbers row (List.mem_of_mem_filter member)
  intro row member
  have inFiltered := (List.perm_insertionSort _ _).mem_iff.mp member
  have topFiltered := (List.perm_insertionSort _ _).mem_iff.mp (List.mem_of_head? first)
  have keys := (descendsBy_rowKey kept).le_head first row inFiltered
  obtain ⟨low, ofRow⟩ := kept row inFiltered
  obtain ⟨high, ofTop⟩ := kept top topFiltered
  unfold rowKey at keys
  rw [ofRow, ofTop, Prod.Lex.toLex_le_toLex] at keys
  rw [ofRow, ofTop, PyFloat.finite_le]
  rcases keys with less | same
  · exact less.le
  · exact same.1.le

theorem eligibleInOrder_eq_of_perm {rows others : List PyDict}
    (numbers : ∀ row ∈ rows, ∃ number : ℚ, rowScore row = .finite number)
    (distinct : (rows.map rowId).Nodup) (perm : rows.Perm others) :
    eligibleInOrder minQualityScore rows = eligibleInOrder minQualityScore others := by
  have kept : ∀ row ∈ rows.filter (isEligible minQualityScore),
      ∃ number : ℚ, rowScore row = .finite number :=
    fun row member => numbers row (List.mem_of_mem_filter member)
  have ids : ((rows.filter (isEligible minQualityScore)).map rowId).Nodup :=
    distinct.sublist (List.filter_sublist.map rowId)
  have keys : ((rows.filter (isEligible minQualityScore)).map rowKey).Nodup := by
    apply List.Nodup.of_map fun key : ℚ ×ₗ String => (ofLex key).2
    rw [List.map_map]
    exact ids
  exact (descendsBy_rowKey kept).eq_of_perm keys (perm.filter _)

/-! ### Both sides -/

def withoutField (key : String) (row : PyDict) : PyDict :=
  row.filter fun entry => entry.1 ≠ key

theorem withoutField_set {key : String} {value : PyValue} (absent : key ∉ PyDict.keys row) :
    withoutField key (PyDict.set row key value) = row := by
  unfold withoutField PyDict.set
  rw [Assoc.set_of_notMem absent, List.filter_append]
  have kept : row.filter (fun entry => entry.1 ≠ key) = row := by
    apply List.filter_eq_self.mpr
    intro entry member
    apply decide_eq_true
    intro same
    exact absent (List.mem_map.mpr ⟨entry, member, same⟩)
  rw [kept]
  simp

def sortedRows (selection : TopExecutableSelection) : List PyDict × List PyDict :=
  (selection.eligible.map (withoutField "selector_rank"),
    selection.rejected.map (withoutField "selector_rejection_reasons"))

theorem map_withSelectorRanks {rank : Int} {rows : List PyDict}
    (absent : ∀ row ∈ rows, "selector_rank" ∉ PyDict.keys row) :
    (withSelectorRanks rank rows).map (withoutField "selector_rank") = rows := by
  induction rows generalizing rank with
  | nil => rfl
  | cons row rest ih =>
      rw [withSelectorRanks, List.map_cons, withoutField_set (absent row List.mem_cons_self),
        ih fun other member => absent other (List.mem_cons_of_mem _ member)]

theorem map_withReasons {reasons : PyDict → List String} {rows : List PyDict}
    (absent : ∀ row ∈ rows, "selector_rejection_reasons" ∉ PyDict.keys row) :
    (rows.map fun row => withReasons row (reasons row)).map
      (withoutField "selector_rejection_reasons") = rows := by
  rw [List.map_map]
  apply (List.map_congr_left _).trans (List.map_id rows)
  intro row member
  exact withoutField_set (absent row member)

theorem sortedRows_of_selection {rows : List PyDict} {selection : TopExecutableSelection}
    (absent : ∀ row ∈ rows, "selector_rank" ∉ PyDict.keys row ∧
      "selector_rejection_reasons" ∉ PyDict.keys row)
    (ran : selectTopExecutable minQualityScore rows = .ok selection) :
    (sortedRows selection).1.Perm (rows.filter (isEligible minQualityScore)) ∧
      (sortedRows selection).2 = rows.filter (!isEligible minQualityScore ·) := by
  obtain ⟨-, made⟩ := selectTopExecutable_eq_ok_iff.mp ran
  have perm := List.perm_insertionSort SelectedBefore (rows.filter (isEligible minQualityScore))
  rw [made]
  unfold sortedRows
  rw [selectionOf_eligible, selectionOf_rejected, eligibleInOrder]
  constructor
  · rw [map_withSelectorRanks fun row member => (absent row (List.mem_of_mem_filter
      (perm.mem_iff.mp member))).1]
    exact perm
  · exact map_withReasons fun row member => (absent row (List.mem_of_mem_filter member)).2

/-! ### The selection -/

variable {rounding : ℚ → ℚ} {candidates : List RawCandidate} {source : String}
  {runtime : ℕ → RuntimeEvidence} {threshold : ℚ} {rows : List PyDict}
  {selection : TopExecutableSelection}

def PassedGates (candidates : List RawCandidate) (source : String) (runtime : ℕ → RuntimeEvidence)
    (row : PyDict) : Prop :=
  ∃ place candidate record result, candidates[place]? = some candidate ∧
    Normalizes candidate record ∧ runOpportunityPipeline candidates source true = .ok result ∧
    (∃ ranked ∈ result.ranked, ranked.madeOf record.raw) ∧
    BelongsTo row record (opportunitiesById result) (runtime place) ∧
    PassesGates record (opportunitiesById result) (runtime place)

def IsBest (threshold : ℚ) (eligible : List PyDict) (row : PyDict) : Prop :=
  (PyFloat.finite threshold).le (rowScore row) = true ∧
    ∀ other ∈ eligible, (rowScore other).le (rowScore row) = true

def SplitsRows (rows : List PyDict) (selection : TopExecutableSelection) : Prop :=
  ((sortedRows selection).1 ++ (sortedRows selection).2).Perm rows ∧
    (sortedRows selection).1.Disjoint (sortedRows selection).2

/-- The selection of rows with distinct ids does not depend on their order. -/
def IgnoresOrder (threshold : ℚ) (rows : List PyDict) (selection : TopExecutableSelection) : Prop :=
  (rows.map rowId).Nodup → ∀ others : List PyDict, others.Perm rows →
    ∃ other, selectTopExecutable (.finite threshold) others = .ok other ∧
      other.selected = selection.selected ∧ other.eligible = selection.eligible

theorem passedGates_of_selected
    (scored : tradeQualityRows rounding candidates source runtime = .ok rows) (member : row ∈ rows)
    (read : rejectionReasons minQualityScore row = .ok []) {other : PyDict}
    (sameId : PyDict.get other "candidate_id" = PyDict.get row "candidate_id")
    (sameEvidence : PyDict.get other "execution_readiness" =
      PyDict.get row "execution_readiness") : PassedGates candidates source runtime other := by
  obtain ⟨records, result, normalized, piped, each⟩ := rowOf_of_tradeQualityRows scored
  obtain ⟨place, record, found, own⟩ := each row member
  obtain ⟨candidate, given, ofCandidate⟩ := getElem?_of_mapM normalized found
  have normalizes := normalizes_of_normalizeCandidate ofCandidate
  have passes := passesGates_of_eligible normalizes own read
  have rankable : record.isRankable = true := by
    rw [isRankable_eq_true, passes.real, passes.unblocked]
    exact ⟨by decide, rfl⟩
  have ranked : ∃ ranked ∈ result.ranked, ranked.madeOf record.raw := by
    obtain ⟨others, again, made⟩ := bind_eq_ok.mp piped
    cases Except.ok.inj (normalized.symm.trans again)
    obtain ⟨rank, inRanked⟩ := ranked_of_rankable (List.mem_of_getElem? found) rankable
    rw [← Except.ok.inj made]
    exact ⟨_, inRanked, madeOf_makeOpportunityRecord.mpr rfl⟩
  exact ⟨place, candidate, record, result, given, normalizes, piped, ranked,
    (belongsTo_of_rowOf normalizes own).congr sameId sameEvidence, passes⟩

/-- What is selected passed every gate and is the best of the eligible rows; every row is on
one side, and the order of rows with distinct ids does not show. -/
theorem selection_passed_gates
    (scored : tradeQualityRows rounding candidates source runtime = .ok rows)
    (ran : selectTopExecutable (.finite threshold) rows = .ok selection) :
    (∀ row, selection.selected = some row → PassedGates candidates source runtime row ∧
      IsBest threshold selection.eligible row) ∧
      SplitsRows rows selection ∧ IgnoresOrder threshold rows selection := by
  obtain ⟨read, made⟩ := selectTopExecutable_eq_ok_iff.mp ran
  obtain ⟨records, result, -, -, each⟩ := rowOf_of_tradeQualityRows scored
  have numbers : ∀ row ∈ rows, ∃ number : ℚ, rowScore row = .finite number := by
    intro row member
    obtain ⟨place, record, -, own⟩ := each row member
    exact rowScore_of_rowOf own
  have absent : ∀ row ∈ rows, "selector_rank" ∉ PyDict.keys row ∧
      "selector_rejection_reasons" ∉ PyDict.keys row := by
    intro row member
    obtain ⟨place, record, -, own⟩ := each row member
    obtain ⟨readiness, score, -, -, shape⟩ := own.made
    rw [shape, keys_toDict]
    constructor <;> decide
  refine ⟨?_, ?_, ?_⟩
  · intro row chosen
    rw [made, selectionOf_selected, head?_withSelectorRanks, Option.map_map] at chosen
    obtain ⟨top, first, shape⟩ := Option.map_eq_some_iff.mp chosen
    have inFiltered := (List.perm_insertionSort _ _).mem_iff.mp (List.mem_of_head? first)
    obtain ⟨member, eligible⟩ := List.mem_filter.mp inFiltered
    obtain ⟨reasons, ofTop⟩ := read top member
    have clear : reasons = [] := by
      rw [isEligible, reasonsAgainst_of_ok ofTop] at eligible
      simpa using eligible
    rw [clear] at ofTop
    have score : rowScore row = rowScore top := by
      rw [← shape, Function.comp_apply, rowScore_asTopExecutable, rowScore_ranked]
    have field : ∀ key, key ≠ "selected_by" → key ≠ "selection_reason" → key ≠ "selector_rank" →
        PyDict.get row key = PyDict.get top key := by
      intro key notBy notReason notRank
      rw [← shape, Function.comp_apply, asTopExecutable, PyDict.get_set_of_ne _ _ notReason,
        PyDict.get_set_of_ne _ _ notBy, PyDict.get_set_of_ne _ _ notRank]
    constructor
    · exact passedGates_of_selected scored member ofTop
        (field _ (by decide) (by decide) (by decide)) (field _ (by decide) (by decide) (by decide))
    · constructor
      · obtain ⟨number, ofNumber⟩ := numbers top member
        have notBelow := (eligible_reads ofTop).1
        rw [score, ofNumber] at *
        rw [PyFloat.finite_le]
        rw [Bool.eq_false_iff, ne_eq, PyFloat.finite_lt, not_lt] at notBelow
        exact notBelow
      · intro other inEligible
        rw [made, selectionOf_eligible] at inEligible
        obtain ⟨own, inOrder, rank, ranked⟩ := mem_withSelectorRanks inEligible
        rw [ranked, rowScore_ranked, score]
        exact le_first_eligible numbers first own inOrder
  · obtain ⟨ofEligible, ofRejected⟩ := sortedRows_of_selection absent ran
    constructor
    · rw [ofRejected]
      exact (ofEligible.append_right _).trans (List.filter_append_perm _ rows)
    · intro row inEligible inRejected
      have front := (List.mem_filter.mp (ofEligible.mem_iff.mp inEligible)).2
      rw [ofRejected] at inRejected
      have back := (List.mem_filter.mp inRejected).2
      rw [front] at back
      cases back
  · intro distinct others perm
    have again : ∀ row ∈ others, ∃ reasons,
        rejectionReasons (.finite threshold) row = .ok reasons :=
      fun row member => read row (perm.mem_iff.mp member)
    refine ⟨_, selectTopExecutable_eq_ok_iff.mpr ⟨again, rfl⟩, ?_⟩
    rw [made, selectionOf_selected, selectionOf_selected, selectionOf_eligible,
      selectionOf_eligible, eligibleInOrder_eq_of_perm numbers distinct perm.symm]
    exact ⟨rfl, rfl⟩

def cleanCandidate : PyDict :=
  [("candidate_id", .str "c1"), ("symbol", .str "NIFTY"), ("strategy_id", .str "orb"),
    ("setup_family", .str "ORB"), ("confidence", .int 80)]

def openDesk : RuntimeEvidence :=
  { brokerContract := some [("readiness_status", .str "RESOLVED_EXACT"), ("resolved", .bool true)]
    marketReadiness := some [("status", .str "READY")]
    risk := some (.entries [("allowed", .bool true)]) }

def selectedOf (rounding : ℚ → ℚ) (candidates : List RawCandidate) (source : String)
    (runtime : ℕ → RuntimeEvidence) (threshold : ℚ) : Option PyDict :=
  (tradeQualityRows rounding candidates source runtime).toOption.bind fun rows =>
    (selectTopExecutable (.finite threshold) rows).toOption.bind TopExecutableSelection.selected

/-- The clean candidate is selected on the open desk. -/
theorem selection_passed_gates_clean :
    ∃ rows selection row,
      tradeQualityRows id [.plain (.dict cleanCandidate)] "test" (fun _ => openDesk) = .ok rows ∧
        selectTopExecutable (.finite 50) rows = .ok selection ∧ selection.selected = some row ∧
        PassedGates [.plain (.dict cleanCandidate)] "test" (fun _ => openDesk) row ∧
        IsBest 50 selection.eligible row := by
  have found : (selectedOf id [.plain (.dict cleanCandidate)] "test" (fun _ => openDesk)
      50).isSome = true := by decide +kernel
  obtain ⟨row, chosen⟩ := Option.isSome_iff_exists.mp found
  obtain ⟨rows, scored, chosen⟩ := Option.bind_eq_some_iff.mp chosen
  obtain ⟨selection, ran, chosen⟩ := Option.bind_eq_some_iff.mp chosen
  have scoredOk := eq_ok_of_toOption scored
  have ranOk := eq_ok_of_toOption ran
  have passed := (selection_passed_gates scoredOk ranOk).1 row chosen
  exact ⟨rows, selection, row, scoredOk, ranOk, chosen, passed⟩

end Algotradify.Candidates
