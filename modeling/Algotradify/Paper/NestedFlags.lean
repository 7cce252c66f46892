/-
What an accepted payload says about the dictionaries nested in it: persistence, session
boundaries and export bundles search every dictionary but those below a list in a list,
the pipeline every dictionary but those below a list.
-/

import Algotradify.Py.Nested
import Algotradify.Paper.ExportBundle
import Algotradify.Paper.Pipeline
import Algotradify.Paper.SessionBoundary

namespace Algotradify.Paper

open Py Json

variable {textPrefix : String} {blockers : List String}

/-! ### Visible blockers -/

theorem visible_flagBlockers (visible : strip textPrefix ≠ "") (entry : PyObject.WalkEntry) :
    ∀ text ∈ flagBlockers textPrefix entry, strip text ≠ "" := by
  unfold flagBlockers
  simp only [List.forall_mem_append, String.append_assoc]
  have shown (rest : String) := strip_append_ne_empty rest visible
  exact ⟨⟨⟨⟨visible_blockerIf (shown _), visible_blockerIf (shown _)⟩,
    visible_blockerIf (shown _)⟩, visible_blockerIf (shown _)⟩, visible_blockerIf (shown _)⟩

theorem visible_unsafePayloadBlockers (visible : strip textPrefix ≠ "")
    (entries : List (PyKey × PyObject)) :
    ∀ text ∈ unsafePayloadBlockers textPrefix (.dict entries), strip text ≠ "" := by
  intro text member
  unfold unsafePayloadBlockers at member
  obtain ⟨entry, -, found⟩ := List.mem_flatMap.mp member
  exact visible_flagBlockers visible entry text found

theorem everyEntry_of_dedupe (visible : strip textPrefix ≠ "") {entries : List (PyKey × PyObject)}
    (clear : dedupe (unsafePayloadBlockers textPrefix (.dict entries)) = []) :
    PyObject.everyEntry flagSafe entries = true :=
  (unsafePayloadBlockers_eq_nil textPrefix entries).mp
    (eq_nil_of_dedupe_eq_nil (visible_unsafePayloadBlockers visible entries) clear)

/-! ### The walk of the pipeline -/

namespace Pipeline

/-- An entry that is no unsafe flag to the pipeline, which does not look at `read_only`. -/
def pipelineFlagSafe (key : String) (value : PyObject) : Bool :=
  !(key == "paper_only" && !value.isTrue) &&
    !(key == "is_order_action" && !value.isFalse) &&
    !(key == "broker_api_called" && value.isTrue) &&
    !(key == "real_order_id" && !value.isNoneOrEmpty)

theorem unsafeEntryBlockers_eq_nil (name : String) (entry : String × String × PyValue) :
    unsafeEntryBlockers name entry = [] ↔
      pipelineFlagSafe entry.2.1 (.ofValue entry.2.2) = true := by
  obtain ⟨path, key, value⟩ := entry
  unfold unsafeEntryBlockers pipelineFlagSafe
  simp only [List.append_eq_nil_iff, blockerIf_eq_nil, Bool.and_eq_true, Bool.not_eq_true']
  cases value <;> rfl

theorem visible_unsafeEntryBlockers (name : String) (entry : String × String × PyValue) :
    ∀ text ∈ unsafeEntryBlockers name entry, strip text ≠ "" := by
  have shown (rest : String) : strip ("PAPER_PIPELINE_" ++ rest) ≠ "" :=
    strip_append_ne_empty rest (by decide)
  unfold unsafeEntryBlockers
  simp only [List.forall_mem_append, String.append_assoc]
  exact ⟨⟨⟨visible_blockerIf (shown _), visible_blockerIf (shown _)⟩,
    visible_blockerIf (shown _)⟩, visible_blockerIf (shown _)⟩

mutual

theorem walkDict_all (check : String → PyObject → Bool) : ∀ (entries : PyDict) (path : String),
    (walkDict path entries).all (fun entry => check entry.2.1 (.ofValue entry.2.2)) =
      PyObject.everyDictEntry check (PyObject.ofEntries entries)
  | [], _ => rfl
  | (key, value) :: rest, path => by
      unfold walkDict PyObject.ofEntries PyObject.everyDictEntry
      rw [List.all_cons, List.all_append, walkNested_all check value, walkDict_all check rest,
        Bool.and_assoc, PyKey.print_str]

theorem walkNested_all (check : String → PyObject → Bool) : ∀ (value : PyValue) (path : String),
    (walkNested path value).all (fun entry => check entry.2.1 (.ofValue entry.2.2)) =
      PyObject.everyDict check (PyObject.ofValue value)
  | .dict entries, path => by
      unfold walkNested
      exact walkDict_all check entries path
  | .none, _ | .bool _, _ | .int _, _ | .float _, _ | .str _, _ | .list _, _ => rfl

end

theorem everyDict_of_dedupe {name : String} {payload : PyValue}
    (clear : dedupe (unsafePayloadBlockers name payload) = []) :
    PyObject.everyDict pipelineFlagSafe (.ofValue payload) = true := by
  cases payload with
  | none | bool | int | float | str | list => rfl
  | dict entries =>
      unfold unsafePayloadBlockers at clear
      have empty := eq_nil_of_dedupe_eq_nil (fun text member => by
        obtain ⟨entry, -, found⟩ := List.mem_flatMap.mp member
        exact visible_unsafeEntryBlockers name entry text found) clear
      unfold PyObject.ofValue PyObject.everyDict
      rw [← walkDict_all pipelineFlagSafe entries "ROOT", List.all_eq_true]
      intro entry member
      rw [List.flatMap_eq_nil_iff] at empty
      exact (unsafeEntryBlockers_eq_nil name entry).mp (empty entry member)

def PipelineInput.payloads (input : PipelineInput) : List PyValue :=
  [input.topExecutable, input.executionSafety, input.quote, input.readiness, input.marketData,
    input.instrumentHealth]

theorem everyDict_of_validated {input : PipelineInput}
    (clear : validatePaperTradingPipelineInputs input = []) {payload : PyValue}
    (member : payload ∈ input.payloads) :
    PyObject.everyDict pipelineFlagSafe (.ofValue payload) = true := by
  unfold validatePaperTradingPipelineInputs at clear
  simp only [dedupe_append_eq_nil] at clear
  obtain ⟨⟨⟨⟨⟨⟨-, top⟩, safety⟩, quote⟩, readiness⟩, market⟩, health⟩ := clear
  unfold PipelineInput.payloads at member
  simp only [List.mem_cons, List.not_mem_nil, or_false] at member
  rcases member with rfl | rfl | rfl | rfl | rfl | rfl
  · exact everyDict_of_dedupe top
  · exact everyDict_of_dedupe safety
  · exact everyDict_of_dedupe quote
  · exact everyDict_of_dedupe readiness
  · exact everyDict_of_dedupe market
  · exact everyDict_of_dedupe health

end Pipeline

/-! ### Persistence -/

namespace Persistence

private theorem refused_list :
    ¬dedupe ["PAPER_EVIDENCE_PAYLOAD_MUST_BE_OBJECT"] = [] := by decide

theorem everyBelow_of_validateWriteInputs {path : PyValue} {write : EvidenceWrite}
    (clear : validateWriteInputs path write = []) :
    PyObject.everyBelow flagSafe write.payload = true := by
  unfold validateWriteInputs at clear
  rw [dedupe_append_eq_nil] at clear
  have ofPayload := clear.2
  cases shape : write.payload with
  | dict entries =>
      rw [shape] at ofPayload
      unfold PyObject.everyBelow
      exact everyEntry_of_dedupe (by decide) ofPayload
  | list items =>
      rw [shape] at ofPayload
      exact absurd ofPayload refused_list
  | none | bool | int | float | str | tuple => rfl

theorem everyBelow_of_validateRecord {digest : String → String} {record : PyRecord}
    (clear : validateRecord digest record = .ok []) :
    PyObject.everyBelow flagSafe (record.get "payload") = true := by
  unfold validateRecord at clear
  obtain ⟨ofPayload, judged, joined⟩ := bind_eq_ok.mp clear
  have empty := Except.ok.inj joined
  simp only [dedupe_append_eq_nil] at empty
  have unblocked := empty.1.2
  unfold payloadBlockers at judged
  cases shape : record.get "payload" with
  | dict entries =>
      rw [shape] at judged
      obtain ⟨hash, -, found⟩ := bind_eq_ok.mp judged
      rw [← Except.ok.inj found, dedupe_append_eq_nil] at unblocked
      unfold PyObject.everyBelow
      exact everyEntry_of_dedupe (by decide) unblocked.1
  | list items =>
      rw [shape] at judged
      rw [← Except.ok.inj judged] at unblocked
      exact absurd unblocked refused_list
  | none | bool | int | float | str | tuple => rfl

end Persistence

/-! ### Session boundaries -/

namespace SessionBoundary

open Persistence

def metadataSafe (key : String) (value : PyObject) : Bool :=
  flagSafe key value && !destructive key value

theorem visible_metadataBlockers (entries : List (PyKey × PyObject)) :
    ∀ text ∈ metadataBlockers (.dict entries), strip text ≠ "" := by
  unfold metadataBlockers
  simp only [List.forall_mem_append]
  constructor
  · exact visible_unsafePayloadBlockers (by decide) entries
  · intro text member
    unfold destructiveResetBlockers at member
    obtain ⟨entry, -, found⟩ := List.mem_flatMap.mp member
    refine visible_blockerIf ?_ text found
    rw [String.append_assoc]
    exact strip_append_ne_empty _ (by decide)

theorem everyEntry_of_metadata {entries : List (PyKey × PyObject)}
    (clear : metadataBlockers (.dict entries) = []) :
    PyObject.everyEntry metadataSafe entries = true := by
  obtain ⟨flags, resets⟩ := (metadataBlockers_eq_nil entries).mp clear
  rw [← PyObject.walkDict_all _ entries "ROOT", List.all_eq_true] at flags resets ⊢
  intro entry member
  unfold metadataSafe
  rw [flags entry member, resets entry member, Bool.and_self]

private theorem refused_metadata :
    ¬dedupe ["PAPER_SESSION_BOUNDARY_METADATA_MUST_BE_OBJECT"] = [] := by decide

theorem everyBelow_of_validateBoundaryRecord {record : PyRecord}
    (clear : validateBoundaryRecord record = []) :
    PyObject.everyBelow metadataSafe (record.get "metadata") = true := by
  unfold validateBoundaryRecord at clear
  simp only [dedupe_append_eq_nil] at clear
  have unblocked : dedupe (metadataBlockers (record.get "metadata")) = [] := by
    simp only [clear]
  cases shape : record.get "metadata" with
  | dict entries =>
      rw [shape] at unblocked
      unfold PyObject.everyBelow
      exact everyEntry_of_metadata
        (eq_nil_of_dedupe_eq_nil (visible_metadataBlockers entries) unblocked)
  | list items =>
      rw [shape] at unblocked
      exact absurd unblocked refused_metadata
  | none | bool | int | float | str | tuple => rfl

end SessionBoundary

/-! ### Export bundles -/

namespace ExportBundle

open Persistence

theorem eq_nil_of_dedupe_placed {place : String} (visible : strip place ≠ "")
    (clear : dedupe (blockers.map fun blocker => place ++ blocker) = []) : blockers = [] := by
  apply List.map_eq_nil_iff.mp (eq_nil_of_dedupe_eq_nil ?_ clear)
  intro text member
  obtain ⟨blocker, -, rfl⟩ := List.mem_map.mp member
  exact strip_append_ne_empty blocker visible

private theorem visible_scenario (index : Nat) :
    strip ("PAPER_EXPORT_SCENARIO_" ++ printInt index ++ "_") ≠ "" := by
  rw [String.append_assoc]
  exact strip_append_ne_empty _ (by decide)

private theorem visible_record (source : String) (index : Nat) :
    strip ("PAPER_EXPORT_" ++ source ++ "_" ++ printInt index ++ "_") ≠ "" := by
  simp only [String.append_assoc]
  exact strip_append_ne_empty _ (by decide)

theorem everyBelow_of_scenario {index : Nat} {result : PyObject}
    (judged : scenarioBlockers index result = .ok blockers) (clear : dedupe blockers = []) :
    PyObject.everyBelow flagSafe result = true := by
  cases result with
  | dict entries =>
      unfold scenarioBlockers at judged
      obtain ⟨text, -, found⟩ := bind_eq_ok.mp judged
      rw [← Except.ok.inj found] at clear
      simp only [dedupe_append_eq_nil] at clear
      unfold PyObject.everyBelow
      exact (unsafePayloadBlockers_eq_nil _ entries).mp
        (eq_nil_of_dedupe_placed (visible_scenario index) clear.1.1)
  | list items =>
      unfold scenarioBlockers at judged
      rw [← Except.ok.inj judged, dedupe_eq_nil_iff, List.forall_mem_singleton] at clear
      exact absurd clear (strip_append_ne_empty _ (visible_scenario index))
  | none | bool | int | float | str | tuple => rfl

theorem everyBelow_of_scenarioList {index : Nat} {results : List PyObject}
    (judged : scenarioListBlockers index results = .ok blockers) (clear : dedupe blockers = []) :
    ∀ result ∈ results, PyObject.everyBelow flagSafe result = true := by
  induction results generalizing index blockers with
  | nil => simp
  | cons head rest ih =>
      unfold scenarioListBlockers at judged
      obtain ⟨first, ofHead, judged⟩ := bind_eq_ok.mp judged
      obtain ⟨others, ofRest, joined⟩ := bind_eq_ok.mp judged
      rw [← Except.ok.inj joined, dedupe_append_eq_nil] at clear
      simp only [List.forall_mem_cons]
      exact ⟨everyBelow_of_scenario ofHead clear.1, ih ofRest clear.2⟩

theorem everyBelow_of_validateScenarioResults {results : List PyObject}
    (clear : validateScenarioResults results = .ok []) :
    ∀ result ∈ results, PyObject.everyBelow flagSafe result = true := by
  unfold validateScenarioResults at clear
  obtain ⟨blockers, judged, joined⟩ := bind_eq_ok.mp clear
  exact everyBelow_of_scenarioList judged (Except.ok.inj joined)

theorem everyBelow_of_record {source : String} {record : PyValue × Nat}
    (clear : dedupe (recordSafeBlockers source record) = []) :
    PyObject.everyBelow flagSafe (.ofValue record.1) = true := by
  obtain ⟨value, index⟩ := record
  cases value with
  | dict entries =>
      unfold recordSafeBlockers at clear
      exact (unsafePayloadBlockers_eq_nil _ _).mp
        (eq_nil_of_dedupe_placed (visible_record source index) clear)
  | list items =>
      unfold recordSafeBlockers at clear
      rw [dedupe_eq_nil_iff, List.forall_mem_singleton] at clear
      exact absurd clear (strip_append_ne_empty _ (visible_record source index))
  | none | bool | int | float | str => rfl

theorem everyBelow_of_validateRecordsSafe {records : List PyValue} {source : String}
    (clear : validateRecordsSafe records source = []) :
    ∀ record ∈ records, PyObject.everyBelow flagSafe (.ofValue record) = true := by
  intro record member
  obtain ⟨index, held⟩ := List.mem_iff_getElem?.mp member
  have found : (record, index) ∈ records.zipIdx := List.mk_mem_zipIdx_iff_getElem?.mpr held
  unfold validateRecordsSafe at clear
  rw [dedupe_eq_nil_iff] at clear
  apply @everyBelow_of_record source (record, index)
  rw [dedupe_eq_nil_iff]
  intro text blocked
  exact clear text (List.mem_flatMap.mpr ⟨_, found, blocked⟩)

theorem everyBelow_of_validateManifest {manifest : PyDict} (clear : validateManifest manifest = []) :
    PyObject.everyBelow flagSafe (.ofValue (.dict manifest)) = true := by
  unfold validateManifest at clear
  simp only [dedupe_append_eq_nil] at clear
  exact everyEntry_of_dedupe (by decide) clear.1.1.2

end ExportBundle

/-! ### Accepted payloads -/

open Persistence SessionBoundary ExportBundle Pipeline

inductive PayloadCheck where
  | persistence
  | sessionBoundary
  | exportBundle
  | pipeline
deriving DecidableEq, Repr

namespace PayloadCheck

/-- An entry that the check lets pass at the top of a payload. -/
def safe : PayloadCheck → String → PyObject → Bool
  | .persistence | .exportBundle => flagSafe
  | .sessionBoundary => metadataSafe
  | .pipeline => pipelineFlagSafe

/-- What the walk of the check does not reach is safe all the same. -/
def SafeUnreached : PayloadCheck → PyObject → Prop
  | .persistence => PyObject.ThroughoutNestedLists flagSafe
  | .exportBundle => PyObject.ThroughoutNestedLists flagSafe
  | .sessionBoundary => PyObject.ThroughoutNestedLists metadataSafe
  | .pipeline => PyObject.ThroughoutLists pipelineFlagSafe

inductive Accepts : PayloadCheck → PyObject → Prop
  | evidenceWrite {path : PyValue} {write : EvidenceWrite}
      (clear : validateWriteInputs path write = []) : Accepts .persistence write.payload
  | evidenceRecord {digest : String → String} {record : PyRecord}
      (clear : validateRecord digest record = .ok []) :
      Accepts .persistence (record.get "payload")
  | boundaryRecord {record : PyRecord} (clear : validateBoundaryRecord record = []) :
      Accepts .sessionBoundary (record.get "metadata")
  | scenarioResult {results : List PyObject} {result : PyObject}
      (clear : validateScenarioResults results = .ok []) (member : result ∈ results) :
      Accepts .exportBundle result
  | exportRecord {records : List PyValue} {source : String} {record : PyValue}
      (clear : validateRecordsSafe records source = []) (member : record ∈ records) :
      Accepts .exportBundle (.ofValue record)
  | manifest {manifest : PyDict} (clear : validateManifest manifest = []) :
      Accepts .exportBundle (.ofValue (.dict manifest))
  | pipelineInput {input : PipelineInput} {payload : PyValue}
      (clear : validatePaperTradingPipelineInputs input = []) (member : payload ∈ input.payloads) :
      Accepts .pipeline (.ofValue payload)

private theorem rows_clear :
    validateRecordsSafe [.dict [("rows", .list [.list [.str "a"]])]] "EVIDENCE" = [] := by decide

/-- No dictionary in an accepted payload carries an unsafe flag, at any depth, exactly when
no dictionary that the check does not reach carries one. -/
theorem accepted_safe_iff {check : PayloadCheck} {payload : PyObject}
    (accepted : check.Accepts payload) :
    PyObject.Throughout check.safe payload ↔ check.SafeUnreached payload := by
  cases accepted with
  | evidenceWrite clear =>
      exact PyObject.throughout_iff_nestedLists (everyBelow_of_validateWriteInputs clear)
  | evidenceRecord clear =>
      exact PyObject.throughout_iff_nestedLists (everyBelow_of_validateRecord clear)
  | boundaryRecord clear =>
      exact PyObject.throughout_iff_nestedLists (everyBelow_of_validateBoundaryRecord clear)
  | scenarioResult clear member =>
      exact PyObject.throughout_iff_nestedLists
        (everyBelow_of_validateScenarioResults clear _ member)
  | exportRecord clear member =>
      exact PyObject.throughout_iff_nestedLists (everyBelow_of_validateRecordsSafe clear _ member)
  | manifest clear =>
      exact PyObject.throughout_iff_nestedLists (everyBelow_of_validateManifest clear)
  | pipelineInput clear member =>
      exact PyObject.throughout_iff_lists (everyDict_of_validated clear member)

/-- A payload of text rows, which has nothing that is not reached but the rows. -/
theorem accepted_safe_iff_rows :
    PyObject.Throughout flagSafe (.ofValue (.dict [("rows", .list [.list [.str "a"]])])) ↔
      PyObject.ThroughoutNestedLists flagSafe
        (.ofValue (.dict [("rows", .list [.list [.str "a"]])])) :=
  accepted_safe_iff (.exportRecord rows_clear List.mem_cons_self)

def buriedOrder : PyDict :=
  [("rows", .list [.list [.dict [("paper_only", .bool false), ("real_order_id", .str "LIVE-1")]]])]

private def buriedWrite : EvidenceWrite :=
  { recordType := .str "FILL"
    cycleId := .str "C1"
    payload := .ofValue (.dict buriedOrder)
    createdAtEpoch := .missing }

private theorem buriedWrite_clear :
    validateWriteInputs (.str "evidence.jsonl") buriedWrite = [] := by decide

private def buriedRecord : PyRecord :=
  [("schema_version", .str "1.0"), ("record_type", .str boundaryRecordType),
    ("session_id", .str "S1"), ("boundary_type", .str "SESSION_START"),
    ("created_at_epoch", .float (.finite 1)), ("reason", .none),
    ("metadata", .ofValue (.dict buriedOrder)), ("paper_only", .bool true),
    ("read_only", .bool true), ("is_order_action", .bool false),
    ("broker_api_called", .bool false), ("real_order_id", .none)]

private theorem buriedRecord_clear : validateBoundaryRecord buriedRecord = [] := by decide

private theorem buriedExport_clear :
    validateRecordsSafe [.dict buriedOrder] "EVIDENCE" = [] := by decide

private def buriedInput : PipelineInput :=
  { cycleId := .str "C1"
    topExecutable := .dict buriedOrder
    executionSafety := .dict []
    quote := .dict [] }

private theorem buriedInput_clear : validatePaperTradingPipelineInputs buriedInput = [] := by decide

/-- Accepted payloads that carry a live order, one for each check. -/
theorem buried_order_accepted :
    Accepts .persistence (.ofValue (.dict buriedOrder)) ∧
      Accepts .sessionBoundary (.ofValue (.dict buriedOrder)) ∧
      Accepts .exportBundle (.ofValue (.dict buriedOrder)) ∧
      Accepts .pipeline (.ofValue (.dict buriedOrder)) ∧
      ∀ check : PayloadCheck, ¬PyObject.Throughout check.safe (.ofValue (.dict buriedOrder)) := by
  refine ⟨?_, ?_, ?_, ?_, ?_⟩
  · exact .evidenceWrite buriedWrite_clear
  · exact .boundaryRecord buriedRecord_clear
  · exact .exportRecord buriedExport_clear List.mem_cons_self
  · exact .pipelineInput buriedInput_clear List.mem_cons_self
  · intro check safe
    have held : PyObject.Within
        (.ofValue (.dict [("paper_only", .bool false), ("real_order_id", .str "LIVE-1")]))
        (.ofValue (.dict buriedOrder)) :=
      .entry List.mem_cons_self (.item List.mem_cons_self (.item List.mem_cons_self .whole))
    have passed := safe _ held _ List.mem_cons_self
    cases check with
    | persistence | sessionBoundary | exportBundle | pipeline => exact absurd passed (by decide)

end PayloadCheck

end Algotradify.Paper
