/-
A bundle is blocked by the validation of the call that builds it: the manifest records the
hash of its first text, and the text with this hash in it is another one.
-/

import Algotradify.Paper.ExportBundle

namespace Algotradify.Paper.ExportBundle

open Py Json Persistence

variable {checksums : PyDict} {path : String} {call : BundleExport}

/-! ### Written texts -/

def jsonFile (value : PyValue) : String :=
  String.ofList (write indented 0 (sortKeys value) ++ ['\n'])

theorem writeJson_of_tree {payload : PyObject} {tree : PyValue}
    (written : jsonTree payload = .ok tree) :
    writeJson payload = .ok (String.ofList (write indented 0 tree ++ ['\n'])) := by
  unfold writeJson
  rw [written]
  rfl

theorem writeJson_ofValue (value : PyValue) :
    writeJson (.ofValue value) = .ok (jsonFile value) :=
  writeJson_of_tree (jsonTree_ofValue value)

theorem jsonLoads_jsonFile {value : PyValue} (formed : wellFormed value = true) :
    jsonLoads (jsonFile value) = some (sortKeys value) := by
  apply jsonLoads_write indented (wellFormed_sortKeys value formed)
  intro char member
  rw [List.mem_singleton.mp member]
  decide

/-! ### The bundle -/

structure Bundle where
  call : BundleExport
  records : List PyDict
  scenarios : List PyObject
  bundleId : String
  scenarioText : String

namespace Bundle

section Manifest

variable (bundle : Bundle)

def manifest (checksums : PyDict) : PyDict :=
  [("schema_version", .str "1.0"),
    ("bundle_type", .str "PAPER_EVIDENCE_EXPORT_BUNDLE"),
    ("bundle_id", .str bundle.bundleId),
    ("created_at_epoch", bundle.call.createdAtEpoch.value),
    ("source_evidence_path", ofOptionString (normalizePath bundle.call.evidencePath)),
    ("record_count", .int bundle.records.length),
    ("scenario_count", .int bundle.scenarios.length),
    ("files", .dict bundleFiles),
    ("checksums", .dict checksums),
    ("safe_flags", .dict bundleSafeFlags),
    ("paper_only", .bool true),
    ("read_only", .bool true),
    ("is_order_action", .bool false),
    ("broker_api_called", .bool false),
    ("real_order_id", .none)]

theorem distinct_manifest (checksums : PyDict) : Assoc.Distinct (bundle.manifest checksums) := by
  have keys : requiredManifestKeys.Nodup := by decide
  exact keys

theorem wellFormed_manifest (formed : wellFormed (.dict checksums) = true) :
    wellFormed (.dict (bundle.manifest checksums)) = true := by
  refine wellFormed_dict.mpr ⟨bundle.distinct_manifest checksums, ?_⟩
  have files : wellFormed (.dict bundleFiles) = true := by decide
  have flags : wellFormed (.dict bundleSafeFlags) = true := by decide
  unfold manifest
  simp only [wellFormedEntries, wellFormed_ofOptionString, formed, files, flags,
    bundle.call.createdAtEpoch.formed, Bool.and_true]
  rfl

theorem jsonFile_manifest_ne {first second : PyDict} (ofFirst : wellFormed (.dict first) = true)
    (ofSecond : wellFormed (.dict second) = true) (lengths : first.length ≠ second.length) :
    jsonFile (.dict (bundle.manifest first)) ≠ jsonFile (.dict (bundle.manifest second)) := by
  intro same
  have read := jsonLoads_jsonFile (bundle.wellFormed_manifest ofFirst)
  rw [same, jsonLoads_jsonFile (bundle.wellFormed_manifest ofSecond)] at read
  have entries := PyValue.dict.inj (Option.some.inj read)
  have checksums := congrArg (fun manifest => PyDict.get manifest "checksums") entries
  rw [get_sortEntries (bundle.distinct_manifest second),
    get_sortEntries (bundle.distinct_manifest first)] at checksums
  have sorted : sortEntries second = sortEntries first := PyValue.dict.inj checksums
  have sizes := congrArg List.length sorted
  rw [(sortEntries_perm second).length_eq, (sortEntries_perm first).length_eq] at sizes
  unfold mapEntries Assoc.mapValues at sizes
  rw [List.length_map, List.length_map] at sizes
  exact lengths sizes.symm

end Manifest

section Checksums

variable (digest : String → String) (bundle : Bundle)

/-- The checksums of `checksums.json`. -/
def fileChecksums : PyDict :=
  [(evidenceFileName, .str (digest (writeEvidenceJsonl bundle.records))),
    (scenariosFileName, .str (digest bundle.scenarioText))]

def checksumsText : String :=
  jsonFile (.dict (bundle.fileChecksums digest))

def listedChecksums : PyDict :=
  (bundle.fileChecksums digest).set checksumsFileName (.str (digest (bundle.checksumsText digest)))

def firstText : String :=
  jsonFile (.dict (bundle.manifest (bundle.listedChecksums digest)))

def lastChecksums : PyDict :=
  (bundle.listedChecksums digest).set manifestFileName (.str (digest (bundle.firstText digest)))

def lastText : String :=
  jsonFile (.dict (bundle.manifest (bundle.lastChecksums digest)))

def afterWrites (directory : Directory) : Directory :=
  ((((directory.put evidenceFileName (writeEvidenceJsonl bundle.records)).put
    scenariosFileName bundle.scenarioText).put
    checksumsFileName (bundle.checksumsText digest)).put
    manifestFileName (bundle.firstText digest)).put
    manifestFileName (bundle.lastText digest)

structure Holds (directory : Directory) : Prop where
  evidence : directory.lookup evidenceFileName = some (writeEvidenceJsonl bundle.records)
  results : directory.lookup scenariosFileName = some bundle.scenarioText
  checksums : directory.lookup checksumsFileName = some (bundle.checksumsText digest)
  manifest : directory.lookup manifestFileName = some (bundle.lastText digest)

theorem lookup_put (directory : Directory) (path text : String) :
    (directory.put path text).lookup path = some text := by
  unfold Directory.put
  exact Assoc.lookup_set_self directory path text

theorem lookup_put_of_ne (directory : Directory) {other : String} (text : String)
    (different : other ≠ path) :
    (directory.put path text).lookup other = directory.lookup other :=
  Assoc.lookup_set_of_ne directory text different

theorem afterWrites_holds (directory : Directory) :
    bundle.Holds digest (bundle.afterWrites digest directory) := by
  unfold afterWrites
  constructor
  · rw [lookup_put_of_ne _ _ (by decide), lookup_put_of_ne _ _ (by decide),
      lookup_put_of_ne _ _ (by decide), lookup_put_of_ne _ _ (by decide), lookup_put]
  · rw [lookup_put_of_ne _ _ (by decide), lookup_put_of_ne _ _ (by decide),
      lookup_put_of_ne _ _ (by decide), lookup_put]
  · rw [lookup_put_of_ne _ _ (by decide), lookup_put_of_ne _ _ (by decide), lookup_put]
  · rw [lookup_put]

theorem wellFormed_fileChecksums : wellFormed (.dict (bundle.fileChecksums digest)) = true := rfl

theorem wellFormed_listedChecksums :
    wellFormed (.dict (bundle.listedChecksums digest)) = true := rfl

theorem wellFormed_lastChecksums : wellFormed (.dict (bundle.lastChecksums digest)) = true := rfl

theorem firstText_ne_lastText : bundle.firstText digest ≠ bundle.lastText digest := by
  have lengths : (bundle.listedChecksums digest).length ≠
      (bundle.lastChecksums digest).length := Nat.succ_ne_self 3 ∘ Eq.symm
  exact bundle.jsonFile_manifest_ne (bundle.wellFormed_listedChecksums digest)
    (bundle.wellFormed_lastChecksums digest) lengths

end Checksums

end Bundle

/-! ### Texts that are left to write -/

theorem jsonTree_entry {entries : List (PyKey × PyObject)} {trees : List (PyKey × PyValue)}
    (written : treeEntries entries = .ok trees) {entry : PyKey × PyObject}
    (member : entry ∈ entries) : ∃ tree, jsonTree entry.2 = .ok tree := by
  induction entries generalizing trees with
  | nil => cases member
  | cons head rest ih =>
      obtain ⟨key, value⟩ := head
      unfold treeEntries at written
      obtain ⟨tree, first, written⟩ := bind_eq_ok.mp written
      obtain ⟨others, later, _⟩ := bind_eq_ok.mp written
      rcases List.mem_cons.mp member with rfl | member
      · exact ⟨tree, first⟩
      · exact ih later member

theorem jsonTree_scenarioName {result : PyObject} {tree : PyValue}
    (written : jsonTree result = .ok tree) : ∃ name, jsonTree (scenarioName result) = .ok name := by
  cases result with
  | dict entries =>
      unfold jsonTree at written
      obtain ⟨trees, inner, _⟩ := bind_eq_ok.mp written
      cases found : entries.lookup (PyKey.str "scenario_name") with
      | none =>
          refine ⟨.none, ?_⟩
          unfold scenarioName
          dsimp only
          rw [found]
          rfl
      | some value =>
          obtain ⟨name, named⟩ := jsonTree_entry inner (Assoc.mem_of_lookup found)
          refine ⟨name, ?_⟩
          unfold scenarioName
          dsimp only
          rw [found]
          exact named
  | none | bool | int | float | str | list | tuple => exact ⟨.none, rfl⟩

theorem treeItems_of_each {items : List PyObject}
    (each : ∀ item ∈ items, ∃ tree, jsonTree item = .ok tree) :
    ∃ trees, treeItems items = .ok trees := by
  induction items with
  | nil => exact ⟨[], rfl⟩
  | cons item rest ih =>
      obtain ⟨head, later⟩ := List.forall_mem_cons.mp each
      obtain ⟨tree, first⟩ := head
      obtain ⟨trees, others⟩ := ih later
      unfold treeItems
      exact ⟨tree :: trees, bind_eq_ok.mpr ⟨tree, first, bind_eq_ok.mpr ⟨trees, others, rfl⟩⟩⟩

theorem scenario_written {index : Nat} {result : PyObject} {blockers : List String}
    (checked : scenarioBlockers index result = .ok blockers)
    (clear : ∀ text ∈ blockers, strip text = "") : ∃ tree, jsonTree result = .ok tree := by
  cases result with
  | dict entries =>
      unfold scenarioBlockers at checked
      obtain ⟨text, canonical, _⟩ := bind_eq_ok.mp checked
      unfold canonicalJson at canonical
      obtain ⟨tree, written, _⟩ := bind_eq_ok.mp canonical
      exact ⟨tree, written⟩
  | none | bool | int | float | str | list | tuple =>
      cases checked
      have blank := clear _ (List.mem_singleton_self _)
      rw [String.append_assoc, String.append_assoc] at blank
      exact absurd blank (strip_append_ne_empty _ (by decide))

theorem scenarios_written {index : Nat} {results : List PyObject} {blockers : List String}
    (checked : scenarioListBlockers index results = .ok blockers)
    (clear : ∀ text ∈ blockers, strip text = "") :
    ∀ result ∈ results, ∃ tree, jsonTree result = .ok tree := by
  induction results generalizing index blockers with
  | nil => exact fun _ member => absurd member List.not_mem_nil
  | cons result rest ih =>
      unfold scenarioListBlockers at checked
      obtain ⟨own, first, checked⟩ := bind_eq_ok.mp checked
      obtain ⟨others, later, joined⟩ := bind_eq_ok.mp checked
      cases joined
      obtain ⟨ofOwn, ofOthers⟩ := List.forall_mem_append.mp clear
      intro item member
      rcases List.mem_cons.mp member with rfl | member
      · exact scenario_written first ofOwn
      · exact ih later ofOthers item member

/-! ### Inputs that pass -/

/-- Inputs that the checks of `build_paper_export_bundle` let through. -/
structure Exportable (digest : String → String) (call : BundleExport) (load : ReadResult) :
    Prop where
  inputs : validateBundleInputs call = .ok []
  loaded : loadPaperEvidenceRecords digest call.evidencePath call.evidenceFile = .ok load
  unblocked : load.status ≠ .blocked
  safe : validateRecordsSafe (load.records.map .dict) "EVIDENCE" = []

theorem root_of_inputs (inputs : validateBundleInputs call = .ok []) :
    (normalizePath call.root).isNone = false := by
  obtain ⟨ofScenarios, _, joined⟩ := bind_eq_ok.mp inputs
  have clear := Except.ok.inj joined
  rw [dedupe_append_eq_nil, dedupe_append_eq_nil] at clear
  exact (dedupe_blockerIf_eq_nil _ (by decide)).mp clear.1.1

theorem scenarios_of_inputs (inputs : validateBundleInputs call = .ok []) :
    validateScenarioResults (scenarioList call.scenarioResults) = .ok [] := by
  obtain ⟨ofScenarios, checked, joined⟩ := bind_eq_ok.mp inputs
  have clear := Except.ok.inj joined
  rw [dedupe_append_eq_nil] at clear
  cases shape : call.scenarioResults with
  | list results =>
      rw [shape] at checked
      unfold scenarioInputBlockers at checked
      dsimp only at checked
      split at checked
      · rename_i empty
        rw [List.isEmpty_iff.mp empty]
        rfl
      · obtain ⟨blockers, found, deduped⟩ := bind_eq_ok.mp checked
        cases deduped
        have none := eq_nil_of_dedupe_eq_nil (visible_dedupe blockers) clear.2
        unfold scenarioList validateScenarioResults
        exact bind_eq_ok.mpr ⟨blockers, found, congrArg Except.ok none⟩
  | none | bool | int | float | str | tuple | dict => rfl

section Digest

variable {digest : String → String}

/-! ### What is written -/

theorem seed_written (records : List PyDict) {scenarios : List PyObject}
    (createdAtEpoch : JsonValue)
    (each : ∀ result ∈ scenarios, ∃ tree, jsonTree result = .ok tree) :
    ∃ text, canonicalJson (bundleSeed records scenarios createdAtEpoch).toObject = .ok text := by
  have hashes : ∃ trees, treeItems (records.map fun record =>
      PyObject.ofValue (record.get "payload_hash")) = .ok trees := by
    apply treeItems_of_each
    intro item member
    obtain ⟨record, _, rfl⟩ := List.mem_map.mp member
    exact ⟨_, jsonTree_ofValue _⟩
  have names : ∃ trees, treeItems (scenarios.map scenarioName) = .ok trees := by
    apply treeItems_of_each
    intro item member
    obtain ⟨result, listed, rfl⟩ := List.mem_map.mp member
    obtain ⟨tree, written⟩ := each result listed
    exact jsonTree_scenarioName written
  obtain ⟨hashTrees, hashes⟩ := hashes
  obtain ⟨nameTrees, names⟩ := names
  have fields : FieldTrees (bundleSeed records scenarios createdAtEpoch)
      [("evidence_hashes", .list hashTrees), ("scenario_names", .list nameTrees),
        ("created_at_epoch", sortKeys createdAtEpoch.value)] := by
    unfold FieldTrees bundleSeed
    simp only [List.forall₂_cons, List.forall₂_nil_left_iff, true_and, and_true]
    refine ⟨?_, ?_, jsonTree_ofValue _⟩
    · unfold jsonTree
      rw [hashes]
      rfl
    · unfold jsonTree
      rw [names]
      rfl
  exact ⟨_, canonicalJson_of_tree (jsonTree_record fields)⟩

theorem writeBundle_writes (call : BundleExport) (records : List PyDict)
    {scenarios : List PyObject} (directory : Directory)
    (each : ∀ result ∈ scenarios, ∃ tree, jsonTree result = .ok tree) :
    ∃ bundle : Bundle, bundle.call = call ∧
      writeBundle digest call records scenarios directory = .ok
        (bundle.afterWrites digest directory, bundle.manifest (bundle.lastChecksums digest),
          bundle.lastChecksums digest) := by
  obtain ⟨seed, seeded⟩ := seed_written records call.createdAtEpoch each
  obtain ⟨trees, items⟩ := treeItems_of_each each
  have tree : jsonTree (.list scenarios) = .ok (.list trees) := by
    unfold jsonTree
    rw [items]
    rfl
  let bundle : Bundle :=
    { call := call
      records := records
      scenarios := scenarios
      bundleId := "paper-export-" ++ String.ofList ((digest seed).toList.take 16)
      scenarioText := String.ofList (write indented 0 (.list trees) ++ ['\n']) }
  have built (checksums : PyDict) :
      buildManifest digest call records scenarios bundleFiles checksums =
        .ok (bundle.manifest checksums) := by
    unfold buildManifest
    rw [seeded]
    rfl
  refine ⟨bundle, rfl, ?_⟩
  unfold writeBundle
  dsimp only
  refine bind_eq_ok.mpr ⟨_, writeJson_of_tree tree, ?_⟩
  refine bind_eq_ok.mpr ⟨_, writeJson_ofValue _, ?_⟩
  refine bind_eq_ok.mpr ⟨_, built _, ?_⟩
  refine bind_eq_ok.mpr ⟨_, writeJson_ofValue _, ?_⟩
  exact bind_eq_ok.mpr ⟨_, writeJson_ofValue _, rfl⟩

/-! ### What its validation finds -/

/-- A hexadecimal digest is no empty text, and no two texts share one. -/
structure Collisionless (digest : String → String) : Prop where
  injective : Function.Injective digest
  written : ∀ text, digest text ≠ ""

theorem truthy_str {text : String} (written : text ≠ "") : (PyValue.str text).truthy = true :=
  decide_eq_true written

variable (digest) in
theorem fileBlockers_of_expected {directory : Directory} {manifest : PyDict} {text hash : String}
    (label : String) (held : directory.lookup path = some text)
    (expected : expectedChecksum manifest checksums path = .ok (.str hash)) (written : hash ≠ "") :
    fileBlockers digest directory manifest checksums (label, .str path) =
      .ok (blockerIf (decide (hash ≠ digest text))
        ("PAPER_EXPORT_CHECKSUM_MISMATCH_" ++ upper label)) := by
  have shown : printValue (.str path) = path := rfl
  unfold fileBlockers
  rw [shown, held]
  refine bind_eq_ok.mpr ⟨.str hash, expected, ?_⟩
  rw [truthy_str written, Bool.true_and, decide_not]
  rfl

/-- A checksum that `checksums.json` does not list is looked up in the manifest. -/
theorem expectedChecksum_of_absent {manifest recorded : PyDict}
    (absent : checksums.get path = .none)
    (listed : manifest.lookup "checksums" = some (.dict recorded)) :
    expectedChecksum manifest checksums path = .ok (recorded.get path) := by
  unfold expectedChecksum manifestChecksum
  rw [absent, listed]
  rfl

theorem expectedChecksum_of_listed {manifest checksums : PyDict} {path hash : String}
    (listed : checksums.get path = .str hash) (written : hash ≠ "") :
    expectedChecksum manifest checksums path = .ok (.str hash) := by
  unfold expectedChecksum
  rw [listed, if_pos (truthy_str written)]

theorem sorted_bundleFiles : sortKeys (.dict bundleFiles) =
    .dict [("checksums", .str checksumsFileName), ("evidence", .str evidenceFileName),
      ("manifest", .str manifestFileName), ("scenarios", .str scenariosFileName)] := rfl

structure Reads (directory : Directory) (manifest checksums : PyDict) : Prop where
  manifest : ∃ text, directory.lookup manifestFileName = some text ∧
    jsonLoads text = some (.dict manifest)
  checksums : ∃ text, directory.lookup checksumsFileName = some text ∧
    jsonLoads text = some (.dict checksums)

theorem Reads.validate {root : PyValue} {directory : Directory} {manifest : PyDict}
    (reads : Reads directory manifest checksums) (named : (normalizePath root).isNone = false) :
    validatePaperExportBundle digest root directory =
      if validateManifest manifest ≠ [] then
        .ok
          { status := .blocked
            manifest := some manifest
            blockers := validateManifest manifest }
      else validateFiles digest directory manifest checksums := by
  obtain ⟨⟨manifestText, manifestHeld, manifestRead⟩, ⟨text, held, read⟩⟩ := reads
  have named : ¬(normalizePath root).isNone = true := by
    rw [named]
    exact Bool.false_ne_true
  have loaded : loadPaperExportManifest root directory =
      { status := .valid, manifest := some manifest } := by
    unfold loadPaperExportManifest
    rw [if_neg named, manifestHeld]
    dsimp only
    rw [manifestRead]
  unfold validatePaperExportBundle
  rw [if_neg named, manifestHeld, held]
  dsimp only
  rw [loaded, if_neg BundleStatus.noConfusion]
  dsimp only [Option.getD_some]
  unfold validateChecksums
  rw [read]

namespace Bundle

section Read

variable (digest) (bundle : Bundle)

def readManifest : PyDict :=
  sortEntries (bundle.manifest (bundle.lastChecksums digest))

def readChecksums : PyDict :=
  sortEntries (bundle.fileChecksums digest)

theorem readManifest_files :
    (bundle.readManifest digest).get "files" = sortKeys (.dict bundleFiles) :=
  get_sortEntries (bundle.distinct_manifest _) "files"

theorem readManifest_checksums : (bundle.readManifest digest).lookup "checksums" =
    some (.dict (sortEntries (bundle.lastChecksums digest))) :=
  lookup_sortEntries (bundle.distinct_manifest _) "checksums"

theorem get_readChecksums (path : String) : (bundle.readChecksums digest).get path =
    sortKeys ((bundle.fileChecksums digest).get path) :=
  get_sortEntries (wellFormed_dict.mp (bundle.wellFormed_fileChecksums digest)).1 path

theorem expected_of_manifest (absent : (bundle.fileChecksums digest).get path = .none) :
    expectedChecksum (bundle.readManifest digest) (bundle.readChecksums digest) path =
      .ok (sortKeys ((bundle.lastChecksums digest).get path)) := by
  have unlisted : (bundle.readChecksums digest).get path = .none := by
    rw [get_readChecksums, absent]
    rfl
  rw [expectedChecksum_of_absent unlisted (bundle.readManifest_checksums digest),
    get_sortEntries (wellFormed_dict.mp (bundle.wellFormed_lastChecksums digest)).1]

end Read

variable {bundle : Bundle} {directory : Directory}

theorem Holds.fileBlockers (holds : bundle.Holds digest directory)
    (collisionless : Collisionless digest) :
    [("checksums", PyValue.str checksumsFileName), ("evidence", .str evidenceFileName),
      ("manifest", .str manifestFileName), ("scenarios", .str scenariosFileName)].mapM
      (fileBlockers digest directory (bundle.readManifest digest) (bundle.readChecksums digest)) =
      .ok [[], [], ["PAPER_EXPORT_CHECKSUM_MISMATCH_MANIFEST"], []] := by
  have written := collisionless.written
  have same (text : String) : decide (digest text ≠ digest text) = false :=
    decide_eq_false (not_not.mpr rfl)
  have stale : decide (digest (bundle.firstText digest) ≠ digest (bundle.lastText digest)) =
      true :=
    decide_eq_true fun equal =>
      bundle.firstText_ne_lastText digest (collisionless.injective equal)
  have ofChecksums := fileBlockers_of_expected digest "checksums" holds.checksums
    (bundle.expected_of_manifest digest rfl) (written _)
  have ofManifest := fileBlockers_of_expected digest "manifest" holds.manifest
    (bundle.expected_of_manifest digest rfl) (written _)
  have ofEvidence := fileBlockers_of_expected digest "evidence" holds.evidence
    (@expectedChecksum_of_listed (bundle.readManifest digest) _ _ _
      (bundle.get_readChecksums digest _) (written _)) (written _)
  have ofScenarios := fileBlockers_of_expected digest "scenarios" holds.results
    (@expectedChecksum_of_listed (bundle.readManifest digest) _ _ _
      (bundle.get_readChecksums digest _) (written _)) (written _)
  rw [same] at ofChecksums ofEvidence ofScenarios
  rw [stale] at ofManifest
  simp only [List.mapM_cons, List.mapM_nil, ofChecksums, ofEvidence, ofManifest, ofScenarios]
  rfl

theorem Holds.validated (holds : bundle.Holds digest directory)
    (collisionless : Collisionless digest)
    (named : (normalizePath bundle.call.root).isNone = false) :
    ∃ answer, validatePaperExportBundle digest bundle.call.root directory = .ok answer ∧
      answer.status = .blocked ∧
      (validateManifest (bundle.readManifest digest) = [] →
        answer.blockers = ["PAPER_EXPORT_CHECKSUM_MISMATCH_MANIFEST"]) := by
  have reads : Reads directory (bundle.readManifest digest) (bundle.readChecksums digest) :=
    ⟨⟨_, holds.manifest, jsonLoads_jsonFile
      (bundle.wellFormed_manifest (bundle.wellFormed_lastChecksums digest))⟩,
      ⟨_, holds.checksums, jsonLoads_jsonFile (bundle.wellFormed_fileChecksums digest)⟩⟩
  rw [reads.validate named]
  by_cases clear : validateManifest (bundle.readManifest digest) = []
  · have shape : (bundle.readManifest digest).get "files" = _ :=
      (bundle.readManifest_files digest).trans sorted_bundleFiles
    rw [if_neg (not_not.mpr clear)]
    unfold validateFiles
    rw [shape]
    refine exists_bind_ok (holds.fileBlockers collisionless) ?_
    exact ⟨_, rfl, rfl, fun _ => rfl⟩
  · rw [if_pos clear]
    exact ⟨_, rfl, rfl, fun passes => absurd passes clear⟩

end Bundle

/-! ### The call that builds it -/

/-- What passes the checks of `build_paper_export_bundle` is written and reported as blocked. -/
theorem Exportable.blocked {load : ReadResult} (exportable : Exportable digest call load)
    (collisionless : Collisionless digest) (directory : Directory) :
    ∃ bundle : Bundle, bundle.call = call ∧ ∃ built,
      buildPaperExportBundle digest call directory =
        .ok (bundle.afterWrites digest directory, built) ∧ built.status = .blocked := by
  have scenarios := scenarios_of_inputs exportable.inputs
  have each : ∀ result ∈ scenarioList call.scenarioResults, ∃ tree, jsonTree result = .ok tree := by
    obtain ⟨blockers, found, deduped⟩ := bind_eq_ok.mp scenarios
    have clear := (dedupe_eq_nil_iff blockers).mp (Except.ok.inj deduped)
    exact scenarios_written found clear
  obtain ⟨bundle, rfl, writes⟩ := @writeBundle_writes digest call load.records _ directory each
  obtain ⟨answer, validated, blocked, _⟩ :=
    (bundle.afterWrites_holds digest directory).validated collisionless
      (root_of_inputs exportable.inputs)
  have checked : ∃ result, buildCheckedBundle digest bundle.call load directory = .ok result ∧
      result.1 = bundle.afterWrites digest directory ∧ result.2.status = .blocked := by
    unfold buildCheckedBundle
    refine exists_bind_ok writes (exists_bind_ok validated ?_)
    rw [if_pos blocked]
    exact ⟨_, rfl, rfl, rfl⟩
  obtain ⟨⟨written, built⟩, checked, rfl, status⟩ := checked
  refine ⟨bundle, rfl, built, ?_, status⟩
  unfold buildPaperExportBundle
  refine bind_eq_ok.mpr ⟨[], exportable.inputs, ?_⟩
  rw [if_neg (not_not.mpr rfl)]
  refine bind_eq_ok.mpr ⟨load, exportable.loaded, ?_⟩
  rw [if_neg exportable.unblocked]
  dsimp only
  rw [exportable.safe, if_neg (not_not.mpr rfl)]
  refine bind_eq_ok.mpr ⟨[], scenarios, ?_⟩
  rw [if_neg (not_not.mpr rfl)]
  exact checked

/-- A bundle is reported as blocked by the call that builds it, and every later validation
of its root blocks it again. -/
theorem bundle_never_valid (collisionless : Collisionless digest) {call : BundleExport}
    {load : ReadResult} (exportable : Exportable digest call load) (directory : Directory) :
    ∃ written built answer,
      buildPaperExportBundle digest call directory = .ok (written, built) ∧
      built.status = .blocked ∧
      validatePaperExportBundle digest call.root written = .ok answer ∧
      answer.status = .blocked := by
  obtain ⟨bundle, own, built, wrote, status⟩ := exportable.blocked collisionless directory
  have named := root_of_inputs exportable.inputs
  rw [← own] at named
  obtain ⟨answer, validated, blocked, _⟩ :=
    (bundle.afterWrites_holds digest directory).validated collisionless named
  rw [own] at validated
  exact ⟨_, built, answer, wrote, status, validated, blocked⟩

end Digest

/-! ### A bundle of one record -/

def knownDigest (table : List (String × String)) (text : String) : String :=
  (table.lookup text).getD ("-" ++ text)

theorem knownDigest_cases (table : List (String × String)) (text : String) :
    (text, knownDigest table text) ∈ table ∨ knownDigest table text = "-" ++ text := by
  unfold knownDigest
  cases found : table.lookup text with
  | none => exact Or.inr rfl
  | some hash => exact Or.inl (Assoc.mem_of_lookup found)

theorem knownDigest_collisionless {table : List (String × String)}
    (apart : (table.map Prod.snd).Nodup)
    (unmarked : ∀ entry ∈ table, startsWith entry.2 "-" = false ∧ entry.2 ≠ "") :
    Collisionless (knownDigest table) where
  injective := by
    intro first second same
    rcases knownDigest_cases table first with ofFirst | ofFirst <;>
      rcases knownDigest_cases table second with ofSecond | ofSecond
    · rw [same] at ofFirst
      exact congrArg Prod.fst (List.inj_on_of_nodup_map apart ofFirst ofSecond rfl)
    · have marked := (unmarked _ ofFirst).1
      rw [same, ofSecond] at marked
      exact absurd rfl (append_ne_of_startsWith second marked)
    · have marked := (unmarked _ ofSecond).1
      rw [← same, ofFirst] at marked
      exact absurd rfl (append_ne_of_startsWith first marked)
    · rw [ofFirst, ofSecond] at same
      rw [← String.toList_inj, String.toList_append, String.toList_append] at same
      exact String.toList_inj.mp (List.append_cancel_left same)
  written := by
    intro text
    rcases knownDigest_cases table text with known | marked
    · exact (unmarked _ known).2
    · rw [marked]
      intro empty
      have letters := congrArg String.toList empty
      rw [String.toList_append] at letters
      cases letters

def sampleRow : PyDict :=
  [("broker_api_called", .bool false), ("candidate_id", .none), ("created_at_epoch", .none),
    ("cycle_id", .str "cycle-1"), ("is_order_action", .bool false), ("paper_only", .bool true),
    ("payload", .dict [("symbol", .str "NIFTY")]),
    ("payload_hash", .str "eef2b7d02375d20a5e45d4a305651d2381c2e16aa5e9ee8e035ff48da94aab2e"),
    ("read_only", .bool true), ("real_order_id", .none),
    ("record_id", .str "paper-evidence-9a8377a72217a296"), ("record_type", .str "ORDER"),
    ("schema_version", .str "1.0"), ("source", .str "paper_evidence_persistence"),
    ("strategy_id", .none)]

def sampleCall : BundleExport :=
  { root := .str "bundle"
    evidencePath := .str "source.jsonl"
    evidenceFile := fileOf [sampleRow]
    scenarioResults := .list [.dict [(.str "scenario_name", .str "FULL_FILL_HAPPY_PATH")]] }

def sampleBundle : Bundle :=
  { call := sampleCall
    records := [sampleRow]
    scenarios := scenarioList sampleCall.scenarioResults
    bundleId := "paper-export-956a375df1a79828"
    scenarioText := jsonFile (.list [.dict [("scenario_name", .str "FULL_FILL_HAPPY_PATH")]]) }

def sampleSums : PyDict :=
  [(evidenceFileName,
      .str "8476f546a4d48e538f237caf6e7fb2605eb3f1019ccd490fb658b2586b82e5bc"),
    (scenariosFileName,
      .str "691c5611ee18f17821d0f75f67c2d59fde79deb9fa4bff5ef9341025aa90b3ac"),
    (checksumsFileName,
      .str "0fa8eac6370c1886b688c741b563b3e1d1e8a5ac67b947df8d7936f8c3c1d079"),
    (manifestFileName,
      .str "fbe39de61aab11ec26d58bd99647a51effc2cdbef57af6317ef8fb1aaea21046")]

def sampleHashes : List (String × String) :=
  [("\x7b\"symbol\":\"NIFTY\"\x7d",
      "eef2b7d02375d20a5e45d4a305651d2381c2e16aa5e9ee8e035ff48da94aab2e"),
    (writeEvidenceJsonl [sampleRow],
      "8476f546a4d48e538f237caf6e7fb2605eb3f1019ccd490fb658b2586b82e5bc"),
    (sampleBundle.scenarioText,
      "691c5611ee18f17821d0f75f67c2d59fde79deb9fa4bff5ef9341025aa90b3ac"),
    (jsonFile (.dict (sampleSums.take 2)),
      "0fa8eac6370c1886b688c741b563b3e1d1e8a5ac67b947df8d7936f8c3c1d079"),
    ("\x7b\"created_at_epoch\":null,\"evidence_hashes\":[" ++
        "\"eef2b7d02375d20a5e45d4a305651d2381c2e16aa5e9ee8e035ff48da94aab2e\"]," ++
        "\"scenario_names\":[\"FULL_FILL_HAPPY_PATH\"]\x7d",
      "956a375df1a79828a93c1a2dc898a3059cf2fab38f0acb3b8a1b9086384bd1c5"),
    (jsonFile (.dict (sampleBundle.manifest (sampleSums.take 3))),
      "fbe39de61aab11ec26d58bd99647a51effc2cdbef57af6317ef8fb1aaea21046"),
    (jsonFile (.dict (sampleBundle.manifest sampleSums)),
      "e07d12f0c2e95ff733bba31163661e9604d60294867b6dd70a77f343d7de7ab8")]

theorem sampleDigest_collisionless : Collisionless (knownDigest sampleHashes) := by
  apply knownDigest_collisionless
  · change ["eef2b7d02375d20a5e45d4a305651d2381c2e16aa5e9ee8e035ff48da94aab2e",
      "8476f546a4d48e538f237caf6e7fb2605eb3f1019ccd490fb658b2586b82e5bc",
      "691c5611ee18f17821d0f75f67c2d59fde79deb9fa4bff5ef9341025aa90b3ac",
      "0fa8eac6370c1886b688c741b563b3e1d1e8a5ac67b947df8d7936f8c3c1d079",
      "956a375df1a79828a93c1a2dc898a3059cf2fab38f0acb3b8a1b9086384bd1c5",
      "fbe39de61aab11ec26d58bd99647a51effc2cdbef57af6317ef8fb1aaea21046",
      "e07d12f0c2e95ff733bba31163661e9604d60294867b6dd70a77f343d7de7ab8"].Nodup
    decide +kernel
  · unfold sampleHashes
    simp only [List.forall_mem_cons, List.not_mem_nil, false_implies, implies_true, and_true]
    decide +kernel

theorem sampleRow_accepted : Accepted (knownDigest sampleHashes) sampleRow where
  formed := by decide +kernel
  valid := eq_ok_of_toOption (by decide +kernel)

theorem sampleCall_exportable : Exportable (knownDigest sampleHashes) sampleCall
    { loaded := true, status := .loaded, records := [sampleRow] } where
  inputs := eq_ok_of_toOption (by decide +kernel)
  loaded := by
    have valid : validatePath sampleCall.evidencePath = [] := by decide +kernel
    have rows : ∀ row ∈ [sampleRow], Accepted (knownDigest sampleHashes) row :=
      List.forall_mem_singleton.mpr sampleRow_accepted
    have loaded := loadPaperEvidenceRecords_rows valid (List.cons_ne_nil _ _) rows
    have file : sampleCall.evidenceFile = fileOf [sampleRow] := by
      unfold sampleCall
      rfl
    rw [file, loaded]
  unblocked := PersistenceStatus.noConfusion
  safe := by decide +kernel

/-- One record and one passed scenario, exported into an empty directory, are blocked. -/
theorem sample_never_valid : ∃ written built answer,
    buildPaperExportBundle (knownDigest sampleHashes) sampleCall [] = .ok (written, built) ∧
      built.status = .blocked ∧
      validatePaperExportBundle (knownDigest sampleHashes) sampleCall.root written = .ok answer ∧
      answer.status = .blocked :=
  bundle_never_valid sampleDigest_collisionless sampleCall_exportable []

/-- What is built is not always accepted. -/
theorem built_bundle_refused :
    ¬∀ (digest : String → String), Collisionless digest →
      ∀ (call : BundleExport) (load : ReadResult), Exportable digest call load →
        ∀ directory : Directory, ∃ written built answer,
          buildPaperExportBundle digest call directory = .ok (written, built) ∧
          built.status = .built ∧
          validatePaperExportBundle digest call.root written = .ok answer ∧
          answer.status = .valid := by
  intro accepts
  obtain ⟨written, built, answer, wrote, status, _⟩ := accepts (knownDigest sampleHashes)
    sampleDigest_collisionless sampleCall _ sampleCall_exportable []
  obtain ⟨bundle, _, reported, again, blocked⟩ :=
    sampleCall_exportable.blocked sampleDigest_collisionless []
  cases again.symm.trans wrote
  cases blocked.symm.trans status

end Algotradify.Paper.ExportBundle
