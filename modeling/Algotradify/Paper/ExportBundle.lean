/-
Paper export bundles: evidence and scenario results copied below a root, with the hash of
each file in `checksums.json` and in the manifest.

The root is the files below it by their relative path; a path is looked up as it is
spelled. The evidence file is missing when it is `none`. The hash is a parameter. The
root in a result is left out.
-/

import Algotradify.Paper.Persistence

namespace Algotradify.Paper.ExportBundle

open Py Json Persistence

/-- `PaperExportBundleStatus`. -/
inductive BundleStatus where
  | built
  | valid
  | empty
  | blocked
deriving DecidableEq, Repr

/-- `PaperExportBundleResult`. -/
structure BundleResult where
  status : BundleStatus
  manifest : Option PyDict := none
  files : PyDict := []
  checksums : PyDict := []
  blockers : List String := []
  warnings : List String := []
deriving Repr

abbrev Directory := List (String × String)

/-- The arguments of `build_paper_export_bundle`, with the evidence file they name. -/
structure BundleExport where
  root : PyValue
  evidencePath : PyValue
  evidenceFile : Option String
  scenarioResults : PyObject := .none
  createdAtEpoch : JsonValue := .missing

def evidenceFileName : String := "evidence/paper_evidence.jsonl"
def scenariosFileName : String := "scenarios/scenario_results.json"
def checksumsFileName : String := "checksums.json"
def manifestFileName : String := "manifest.json"

def bundleFiles : PyDict :=
  [("evidence", .str evidenceFileName), ("scenarios", .str scenariosFileName),
    ("checksums", .str checksumsFileName), ("manifest", .str manifestFileName)]

def requiredManifestKeys : List String :=
  ["schema_version", "bundle_type", "bundle_id", "created_at_epoch", "source_evidence_path",
    "record_count", "scenario_count", "files", "checksums", "safe_flags", "paper_only",
    "read_only", "is_order_action", "broker_api_called", "real_order_id"]

/-- `_safe_flags`. -/
def bundleSafeFlags : PyDict :=
  [("paper_only", .bool true), ("read_only", .bool true), ("is_order_action", .bool false),
    ("broker_api_called", .bool false), ("real_order_id", .none)]

/-! ### Checks -/

/-- `part in text`. -/
def mentions (text part : String) : Bool :=
  text.toList.tails.any fun rest => part.toList.isPrefixOf rest

/-- `_prefixed`. -/
def prefixedBlockers (source : String) (blockers : List String) : List String :=
  blockers.map fun blocker => "PAPER_EXPORT_" ++ source ++ "_" ++ blocker

def recordSafeBlockers (source : String) (record : PyValue × Nat) : List String :=
  let place := "PAPER_EXPORT_" ++ source ++ "_" ++ printInt record.2 ++ "_"
  match record.1 with
  | .dict entries =>
      (unsafePayloadBlockers "PAPER_EXPORT_RECORD" (.ofValue (.dict entries))).map
        fun blocker => place ++ blocker
  | _ => [place ++ "RECORD_MUST_BE_OBJECT"]

/-- `_validate_records_safe`. -/
def validateRecordsSafe (records : List PyValue) (source : String) : List String :=
  dedupe ((records.zipIdx).flatMap (recordSafeBlockers source))

/-- One turn of the loop of `_validate_scenario_results`. -/
def scenarioBlockers (index : Nat) (result : PyObject) : Except PyError (List String) :=
  let place := "PAPER_EXPORT_SCENARIO_" ++ printInt index ++ "_"
  match result with
  | .dict entries => do
      let text ← canonicalJson (.dict entries)
      pure ((unsafePayloadBlockers "PAPER_EXPORT_RESULT" (.dict entries)).map
          (fun blocker => place ++ blocker) ++
        blockerIf (mentions (lower text) "replay_dataset")
          (place ++ "REPLAY_DATASET_FORBIDDEN") ++
        blockerIf (mentions (lower text) "expectancy" || mentions (lower text) "profitability")
          (place ++ "EXPECTANCY_PROFITABILITY_FORBIDDEN"))
  | _ => .ok [place ++ "MUST_BE_OBJECT"]

def scenarioListBlockers (index : Nat) : List PyObject → Except PyError (List String)
  | [] => .ok []
  | result :: rest => do
      let blockers ← scenarioBlockers index result
      let others ← scenarioListBlockers (index + 1) rest
      pure (blockers ++ others)

/-- `_validate_scenario_results`. -/
def validateScenarioResults (results : List PyObject) : Except PyError (List String) := do
  let blockers ← scenarioListBlockers 0 results
  pure (dedupe blockers)

def scenarioInputBlockers : PyObject → Except PyError (List String)
  | .none => .ok []
  | .list results => if results.isEmpty then .ok [] else validateScenarioResults results
  | _ => .ok ["PAPER_EXPORT_SCENARIO_RESULTS_MUST_BE_LIST"]

/-- `validate_paper_export_bundle_inputs`. -/
def validateBundleInputs (call : BundleExport) : Except PyError (List String) := do
  let ofScenarios ← scenarioInputBlockers call.scenarioResults
  pure (dedupe (blockerIf (normalizePath call.root).isNone "PAPER_EXPORT_BUNDLE_ROOT_REQUIRED" ++
    blockerIf (normalizePath call.evidencePath).isNone "PAPER_EXPORT_EVIDENCE_PATH_REQUIRED" ++
    ofScenarios))

/-- `_validate_manifest`. -/
def validateManifest (manifest : PyDict) : List String :=
  let filesText := lower (jsonDumps compact ((manifest.get "files").or (.dict [])))
  let text := lower (jsonDumps compact (.dict manifest))
  dedupe (requiredManifestKeys.flatMap (fun key =>
      blockerIf (!manifest.contains key) ("PAPER_EXPORT_MANIFEST_MISSING_" ++ upper key)) ++
    blockerIf (!(manifest.get "schema_version").isStr "1.0")
      "PAPER_EXPORT_UNKNOWN_SCHEMA_VERSION" ++
    blockerIf (!(manifest.get "bundle_type").isStr "PAPER_EVIDENCE_EXPORT_BUNDLE")
      "PAPER_EXPORT_BUNDLE_TYPE_INVALID" ++
    unsafePayloadBlockers "PAPER_EXPORT_MANIFEST" (.ofValue (.dict manifest)) ++
    blockerIf (mentions filesText "replay") "PAPER_EXPORT_REPLAY_DATASET_FORBIDDEN" ++
    blockerIf (mentions text "expectancy" || mentions text "profitability")
      "PAPER_EXPORT_EXPECTANCY_PROFITABILITY_FORBIDDEN")

/-! ### Files -/

/-- The text that `_write_json` writes. -/
def writeJson (payload : PyObject) : Except PyError String := do
  let tree ← jsonTree payload
  pure (String.ofList (write indented 0 tree ++ ['\n']))

/-- The text that `_write_evidence_jsonl` writes. -/
def writeEvidenceJsonl (records : List PyDict) : String :=
  joinRows (records.map fun record => jsonDumps compact (.dict record))

def Directory.put (directory : Directory) (path text : String) : Directory :=
  Assoc.set directory path text

section Digest

variable (digest : String → String)

/-! ### Validation -/

/-- `load_paper_export_manifest`. -/
def loadPaperExportManifest (root : PyValue) (directory : Directory) : BundleResult :=
  if (normalizePath root).isNone then
    { status := .blocked, blockers := ["PAPER_EXPORT_BUNDLE_ROOT_REQUIRED"] }
  else
    match directory.lookup manifestFileName with
    | none => { status := .blocked, blockers := ["PAPER_EXPORT_MANIFEST_MISSING"] }
    | some text =>
        match jsonLoads text with
        | none => { status := .blocked, blockers := ["PAPER_EXPORT_MANIFEST_CORRUPT"] }
        | some (.dict manifest) => { status := .valid, manifest := some manifest }
        | some _ => { status := .blocked, blockers := ["PAPER_EXPORT_MANIFEST_MUST_BE_OBJECT"] }

/-- `manifest_payload.get("checksums", {}).get(path)`. -/
def manifestChecksum (manifest : PyDict) (path : String) : Except PyError PyValue :=
  match manifest.lookup "checksums" with
  | none => .ok .none
  | some (.dict checksums) => .ok (PyDict.get checksums path)
  | some _ => .error (.runtimeError "object has no attribute 'get'")

/-- `checksums.get(path) or manifest_payload.get("checksums", {}).get(path)`. -/
def expectedChecksum (manifest checksums : PyDict) (path : String) : Except PyError PyValue :=
  if (checksums.get path).truthy then .ok (checksums.get path) else manifestChecksum manifest path

def fileBlockers (directory : Directory) (manifest checksums : PyDict)
    (file : String × PyValue) : Except PyError (List String) :=
  match directory.lookup (printValue file.2) with
  | none => .ok ["PAPER_EXPORT_FILE_MISSING_" ++ upper file.1]
  | some text => do
      let expected ← expectedChecksum manifest checksums (printValue file.2)
      pure (blockerIf (expected.truthy && !expected.isStr (digest text))
        ("PAPER_EXPORT_CHECKSUM_MISMATCH_" ++ upper file.1))

def forbiddenFiles : List String :=
  ["replay_dataset.json", "replay_dataset.jsonl", "expectancy.json", "profitability.json"]

/-- `name.upper().replace(".", "_")`. -/
def forbiddenMark (name : String) : String :=
  String.ofList ((upper name).toList.map fun char => if char = '.' then '_' else char)

/-- What `validate_paper_export_bundle` does once manifest and checksums are read. -/
def validateFiles (directory : Directory) (manifest checksums : PyDict) :
    Except PyError BundleResult := do
  let files := (manifest.get "files").asDict
  let found ← files.mapM (fileBlockers digest directory manifest checksums)
  let answer : BundleResult :=
    { status := .valid, manifest := some manifest, files := files, checksums := checksums }
  if found.flatten ≠ [] then
    pure { answer with
      status := .blocked
      blockers := found.flatten }
  else
    match forbiddenFiles.find? fun name => (directory.lookup name).isSome with
    | some name =>
        pure { answer with
          status := .blocked
          blockers := ["PAPER_EXPORT_FORBIDDEN_FILE_" ++ forbiddenMark name] }
    | none => pure answer

/-- What `validate_paper_export_bundle` does with a manifest that passes its checks. -/
def validateChecksums (directory : Directory) (manifest : PyDict) (text : String) :
    Except PyError BundleResult :=
  let refused (blocker : String) : BundleResult :=
    { status := .blocked, manifest := some manifest, blockers := [blocker] }
  match jsonLoads text with
  | none => .ok (refused "PAPER_EXPORT_CHECKSUMS_CORRUPT")
  | some (.dict checksums) => validateFiles digest directory manifest checksums
  | some _ => .ok (refused "PAPER_EXPORT_CHECKSUMS_MUST_BE_OBJECT")

def validatePaperExportBundle (root : PyValue) (directory : Directory) :
    Except PyError BundleResult :=
  if (normalizePath root).isNone then
    .ok { status := .blocked, blockers := ["PAPER_EXPORT_BUNDLE_ROOT_REQUIRED"] }
  else
    match directory.lookup manifestFileName, directory.lookup checksumsFileName with
    | some _, some checksumsText =>
        let loaded := loadPaperExportManifest root directory
        if loaded.status = .blocked then
          .ok { status := .blocked, blockers := prefixedBlockers "MANIFEST" loaded.blockers }
        else
          let manifest := loaded.manifest.getD []
          if validateManifest manifest ≠ [] then
            .ok
              { status := .blocked
                manifest := some manifest
                blockers := validateManifest manifest }
          else validateChecksums digest directory manifest checksumsText
    | ofManifest, ofChecksums =>
        .ok
          { status := .blocked
            blockers := blockerIf ofManifest.isNone "PAPER_EXPORT_MANIFEST_MISSING" ++
              blockerIf ofChecksums.isNone "PAPER_EXPORT_CHECKSUMS_MISSING" }

/-! ### Building -/

/-- `result.get("scenario_name")` of a result, which the check found to be an object. -/
def scenarioName : PyObject → PyObject
  | .dict entries => (entries.lookup (.str "scenario_name")).getD .none
  | _ => .none

def bundleSeed (records : List PyDict) (scenarios : List PyObject) (createdAtEpoch : JsonValue) :
    PyRecord :=
  [("evidence_hashes", .list (records.map fun record => .ofValue (record.get "payload_hash"))),
    ("scenario_names", .list (scenarios.map scenarioName)),
    ("created_at_epoch", .ofValue createdAtEpoch.value)]

/-- `_build_manifest`. -/
def buildManifest (call : BundleExport) (records : List PyDict) (scenarios : List PyObject)
    (files checksums : PyDict) : Except PyError PyDict := do
  let seed ← canonicalJson (bundleSeed records scenarios call.createdAtEpoch).toObject
  pure [("schema_version", .str "1.0"),
    ("bundle_type", .str "PAPER_EVIDENCE_EXPORT_BUNDLE"),
    ("bundle_id", .str ("paper-export-" ++ String.ofList ((digest seed).toList.take 16))),
    ("created_at_epoch", call.createdAtEpoch.value),
    ("source_evidence_path", ofOptionString (normalizePath call.evidencePath)),
    ("record_count", .int records.length),
    ("scenario_count", .int scenarios.length),
    ("files", .dict files),
    ("checksums", .dict checksums),
    ("safe_flags", .dict bundleSafeFlags),
    ("paper_only", .bool true),
    ("read_only", .bool true),
    ("is_order_action", .bool false),
    ("broker_api_called", .bool false),
    ("real_order_id", .none)]

/-- What `build_paper_export_bundle` writes, with the manifest and the checksums that it
reports. The manifest is written twice: its own hash is that of the first text. -/
def writeBundle (call : BundleExport) (records : List PyDict) (scenarios : List PyObject)
    (directory : Directory) : Except PyError (Directory × PyDict × PyDict) := do
  let evidence := writeEvidenceJsonl records
  let directory := directory.put evidenceFileName evidence
  let scenarioText ← writeJson (.list scenarios)
  let directory := directory.put scenariosFileName scenarioText
  let checksums : PyDict :=
    [(evidenceFileName, .str (digest evidence)), (scenariosFileName, .str (digest scenarioText))]
  let checksumsText ← writeJson (.ofValue (.dict checksums))
  let directory := directory.put checksumsFileName checksumsText
  let checksums := checksums.set checksumsFileName (.str (digest checksumsText))
  let manifest ← buildManifest digest call records scenarios bundleFiles checksums
  let manifestText ← writeJson (.ofValue (.dict manifest))
  let directory := directory.put manifestFileName manifestText
  let checksums := checksums.set manifestFileName (.str (digest manifestText))
  let manifest := manifest.set "checksums" (.dict checksums)
  let manifestText ← writeJson (.ofValue (.dict manifest))
  pure (directory.put manifestFileName manifestText, manifest, checksums)

/-- `scenario_results or []`, of what the check of the inputs lets through. -/
def scenarioList : PyObject → List PyObject
  | .list results => results
  | _ => []

def blockersOr (blockers : List String) (otherwise : String) : List String :=
  if blockers = [] then [otherwise] else blockers

def buildCheckedBundle (call : BundleExport) (load : ReadResult) (directory : Directory) :
    Except PyError (Directory × BundleResult) := do
  let (written, manifest, checksums) ←
    writeBundle digest call load.records (scenarioList call.scenarioResults) directory
  let validation ← validatePaperExportBundle digest call.root written
  let answer : BundleResult :=
    { status := .built, manifest := some manifest, files := bundleFiles, checksums := checksums }
  if validation.status = .blocked then
    pure (written, { answer with
      status := .blocked
      blockers := prefixedBlockers "VALIDATION"
        (blockersOr validation.blockers "PAPER_EXPORT_VALIDATION_BLOCKED") })
  else pure (written, { answer with warnings := load.warnings })

def buildPaperExportBundle (call : BundleExport) (directory : Directory) :
    Except PyError (Directory × BundleResult) := do
  let blockers ← validateBundleInputs call
  if blockers ≠ [] then pure (directory, { status := .blocked, blockers := blockers })
  else
    let load ← loadPaperEvidenceRecords digest call.evidencePath call.evidenceFile
    if load.status = .blocked then
      pure (directory,
        { status := .blocked
          blockers := prefixedBlockers "EVIDENCE_LOAD"
            (blockersOr load.blockers "PAPER_EXPORT_EVIDENCE_LOAD_BLOCKED")
          warnings := load.warnings })
    else
      let evidenceBlockers := validateRecordsSafe (load.records.map .dict) "EVIDENCE"
      if evidenceBlockers ≠ [] then
        pure (directory,
          { status := .blocked, blockers := evidenceBlockers, warnings := load.warnings })
      else
        let ofScenarios ← validateScenarioResults (scenarioList call.scenarioResults)
        if ofScenarios ≠ [] then
          pure (directory, { status := .blocked, blockers := ofScenarios })
        else buildCheckedBundle digest call load directory

end Digest

end Algotradify.Paper.ExportBundle
