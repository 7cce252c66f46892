/-
Paper evidence records: an append-only file of JSON lines, each with the hash of its
payload.

A missing file is `none`. The hash is a parameter. Creating directories and the path in
a result are left out.

A file of accepted rows is loaded as these rows. Writing a record is left out but for the
checks of its arguments.
-/

import Algotradify.Paper.Common

namespace Algotradify.Paper.Persistence

open Py Json

inductive PersistenceStatus where
  | written
  | loaded
  | empty
  | blocked
deriving DecidableEq, Repr

/-- `PaperEvidenceReadResult`. -/
structure ReadResult where
  loaded : Bool
  status : PersistenceStatus
  records : List PyDict := []
  blockers : List String := []
  warnings : List String := []
deriving Repr

/-! ### Records -/

/-- `_normalize_path`. -/
def normalizePath : PyValue → Option String
  | .str text => if strip text = "" then none else some (strip text)
  | _ => none

/-- `_str_or_none`. -/
def strOrNone (value : PyObject) : Option String :=
  if value.isNoneOrEmpty then none
  else if strip value.print = "" then none
  else some (strip value.print)

/-- The arguments of `write_paper_evidence_record` besides the path. -/
structure EvidenceWrite where
  recordType : PyValue
  cycleId : PyValue
  payload : PyObject
  candidateId : PyValue := .none
  strategyId : PyValue := .none
  createdAtEpoch : JsonValue := { value := .none, formed := rfl }
  source : PyValue := .str "paper_evidence_persistence"

def requiredRecordKeys : List String :=
  ["schema_version", "record_type", "record_id", "cycle_id", "candidate_id", "strategy_id",
    "created_at_epoch", "source", "payload", "payload_hash", "paper_only", "read_only",
    "is_order_action", "broker_api_called", "real_order_id"]

section Digest

variable (digest : String → String)

/-- `stable_paper_evidence_payload_hash`. -/
def payloadHash (payload : PyObject) : Except PyError String := do
  let text ← canonicalJson payload
  pure (digest text)

/-! ### Checks -/

/-- `validate_paper_evidence_path`. -/
def validatePath : PyValue → List String
  | .none => ["PAPER_EVIDENCE_PATH_REQUIRED"]
  | .str text =>
      blockerIf (normalizePath (.str text)).isNone "PAPER_EVIDENCE_PATH_REQUIRED"
  | _ => ["PAPER_EVIDENCE_PATH_MUST_BE_STRING_OR_PATH"]

/-- `validate_paper_evidence_write_inputs`. -/
def validateWriteInputs (path : PyValue) (write : EvidenceWrite) : List String :=
  dedupe (validatePath path ++
    blockerIf (strOrNone (.ofValue write.recordType)).isNone
      "PAPER_EVIDENCE_RECORD_TYPE_REQUIRED" ++
    blockerIf (strOrNone (.ofValue write.cycleId)).isNone "PAPER_EVIDENCE_CYCLE_ID_REQUIRED" ++
    match write.payload with
    | .none => ["PAPER_EVIDENCE_PAYLOAD_REQUIRED"]
    | .dict entries => unsafePayloadBlockers "PAPER_EVIDENCE_PAYLOAD" (.dict entries)
    | _ => ["PAPER_EVIDENCE_PAYLOAD_MUST_BE_OBJECT"])

def payloadBlockers (record : PyRecord) : Except PyError (List String) :=
  match record.get "payload" with
  | .dict entries => do
      let expectedHash ← payloadHash digest (.dict entries)
      pure (unsafePayloadBlockers "PAPER_EVIDENCE_PAYLOAD" (.dict entries) ++
        blockerIf (!(record.get "payload_hash").isStr expectedHash)
          "PAPER_EVIDENCE_PAYLOAD_HASH_MISMATCH")
  | _ => .ok ["PAPER_EVIDENCE_PAYLOAD_MUST_BE_OBJECT"]

def recordFlagBlockers (record : PyRecord) : List String :=
  blockerIf (!(record.get "paper_only").isTrue)
      "PAPER_EVIDENCE_RECORD_UNSAFE_PAPER_ONLY_FLAG" ++
    blockerIf (!(record.get "read_only").isTrue) "PAPER_EVIDENCE_RECORD_UNSAFE_READ_ONLY_FLAG" ++
    blockerIf (!(record.get "is_order_action").isFalse)
      "PAPER_EVIDENCE_RECORD_UNSAFE_ORDER_ACTION_FLAG" ++
    blockerIf (!(record.get "broker_api_called").isFalse)
      "PAPER_EVIDENCE_RECORD_UNSAFE_BROKER_API_FLAG" ++
    blockerIf (!(record.get "real_order_id").isNone) "PAPER_EVIDENCE_RECORD_UNSAFE_REAL_ORDER_ID"

/-- `validate_paper_evidence_record` of a dictionary. -/
def validateRecord (record : PyRecord) : Except PyError (List String) := do
  let ofPayload ← payloadBlockers digest record
  pure (dedupe (requiredRecordKeys.flatMap (fun key =>
      blockerIf (!record.contains key) ("PAPER_EVIDENCE_RECORD_MISSING_" ++ upper key)) ++
    blockerIf (strOrNone (record.get "record_type")).isNone
      "PAPER_EVIDENCE_RECORD_TYPE_REQUIRED" ++
    blockerIf (strOrNone (record.get "cycle_id")).isNone "PAPER_EVIDENCE_CYCLE_ID_REQUIRED" ++
    ofPayload ++ recordFlagBlockers record))

/-! ### Loading -/

structure ReadScan where
  records : List PyDict := []
  blockers : List String := []

/-- One turn of the loop of `load_paper_evidence_records`. -/
def readLine (scan : ReadScan) (row : String × Nat) : Except PyError ReadScan :=
  let line := strip row.1
  if line = "" then .ok scan
  else
    match jsonLoads line with
    | none =>
        .ok { scan with blockers := scan.blockers ++
          ["PAPER_EVIDENCE_CORRUPT_JSONL_LINE_" ++ printInt row.2] }
    | some (.dict parsed) => do
        let recordBlockers ← validateRecord digest (.ofDict parsed)
        if recordBlockers ≠ [] then
          pure { scan with blockers := scan.blockers ++
            recordBlockers.map fun blocker => "LINE_" ++ printInt row.2 ++ "_" ++ blocker }
        else pure { scan with records := scan.records ++ [parsed] }
    | some _ =>
        .ok { scan with blockers := scan.blockers ++
          ["PAPER_EVIDENCE_NON_OBJECT_JSONL_LINE_" ++ printInt row.2] }

/-- What `load_paper_evidence_records` answers after its loop. -/
def readAnswer (scan : ReadScan) : ReadResult :=
  if scan.blockers ≠ [] then
    { loaded := false, status := .blocked, blockers := dedupe scan.blockers }
  else if scan.records = [] then
    { loaded := true, status := .empty, warnings := ["PAPER_EVIDENCE_NO_RECORDS_LOADED"] }
  else { loaded := true, status := .loaded, records := scan.records }

def loadPaperEvidenceRecords (path : PyValue) (file : Option String) :
    Except PyError ReadResult :=
  if validatePath path ≠ [] then
    .ok { loaded := false, status := .blocked, blockers := validatePath path }
  else
    match file with
    | none =>
        .ok { loaded := true, status := .empty, warnings := ["PAPER_EVIDENCE_FILE_MISSING_EMPTY"] }
    | some text =>
        if text = "" then
          .ok { loaded := true, status := .empty, warnings := ["PAPER_EVIDENCE_FILE_EMPTY"] }
        else do
          let scan ← ((textLines text).zipIdx 1).foldlM (readLine digest) {}
          pure (readAnswer scan)

end Digest

section Digest

variable {digest : String → String}

/-! ### Rows -/

def rowText (row : PyDict) : String :=
  String.ofList (write compact 0 (.dict row))

structure Accepted (digest : String → String) (row : PyDict) : Prop where
  formed : wellFormed (.dict row) = true
  valid : validateRecord digest (.ofDict row) = .ok []

/-- The file of these rows: it is missing until the first of them. -/
def fileOf (rows : List PyDict) : Option String :=
  if rows = [] then none else some (joinRows (rows.map rowText))

theorem readLine_row {row : PyDict} (formed : wellFormed (.dict row) = true) (scan : ReadScan)
    (number : Nat) {blockers : List String}
    (judged : validateRecord digest (.ofDict row) = .ok blockers) :
    readLine digest scan (rowText row, number) =
      .ok (if blockers ≠ [] then
        { scan with blockers := scan.blockers ++
          blockers.map fun blocker => "LINE_" ++ printInt number ++ "_" ++ blocker }
      else { scan with records := scan.records ++ [row] }) := by
  obtain ⟨solid, visible⟩ := strip_write_dict compact row
  have blank : ∀ char ∈ ([] : List Char), isJsonSpace char = true :=
    fun _ impossible => absurd impossible List.not_mem_nil
  have read := jsonLoads_write compact formed blank
  rw [List.append_nil] at read
  unfold readLine rowText
  dsimp only
  rw [solid, if_neg visible, read]
  refine bind_eq_ok.mpr ⟨blockers, judged, ?_⟩
  by_cases some : blockers ≠ []
  · rw [if_pos some, if_pos some]
    rfl
  · rw [if_neg some, if_neg some]
    rfl

private theorem readLine_accepted {row : PyDict} (accepted : Accepted digest row) (scan : ReadScan)
    (number : Nat) : readLine digest scan (rowText row, number) =
      .ok { scan with records := scan.records ++ [row] } := by
  rw [readLine_row accepted.formed scan number accepted.valid, if_neg (not_not.mpr rfl)]

private theorem foldlM_readLine {rows : List PyDict} (accepted : ∀ row ∈ rows, Accepted digest row)
    (scan : ReadScan) (number : Nat) :
    ((rows.map rowText).zipIdx number).foldlM (readLine digest) scan =
      .ok { scan with records := scan.records ++ rows } := by
  induction rows generalizing scan number with
  | nil =>
      rw [List.append_nil]
      rfl
  | cons row rows ih =>
      obtain ⟨head, rest⟩ := List.forall_mem_cons.mp accepted
      rw [List.map_cons, List.zipIdx_cons, List.foldlM_cons, readLine_accepted head]
      refine (ih rest { scan with records := scan.records ++ [row] } (number + 1)).trans ?_
      rw [List.append_assoc]
      rfl

theorem loadPaperEvidenceRecords_lines {path : PyValue} (valid : validatePath path = [])
    {rows : List PyDict} (some : rows ≠ []) :
    loadPaperEvidenceRecords digest path (fileOf rows) =
      (((rows.map rowText).zipIdx 1).foldlM (readLine digest) {}).map readAnswer := by
  have unbroken : ∀ line ∈ rows.map rowText, Unbroken line.toList := by
    intro line member
    obtain ⟨row, _, rfl⟩ := List.mem_map.mp member
    exact unbroken_write rfl _
  have text : joinRows (rows.map rowText) ≠ "" := by
    intro empty
    have lines := textLines_joinRows unbroken
    rw [empty] at lines
    exact some (List.map_eq_nil_iff.mp lines.symm)
  unfold loadPaperEvidenceRecords fileOf
  rw [if_neg (not_not.mpr valid), if_neg some]
  dsimp only
  rw [if_neg text, textLines_joinRows unbroken]
  cases ((rows.map rowText).zipIdx 1).foldlM (readLine digest) {} <;> rfl

theorem loadPaperEvidenceRecords_rows {path : PyValue} (valid : validatePath path = [])
    {rows : List PyDict} (some : rows ≠ []) (accepted : ∀ row ∈ rows, Accepted digest row) :
    loadPaperEvidenceRecords digest path (fileOf rows) =
      .ok { loaded := true, status := .loaded, records := rows } := by
  rw [loadPaperEvidenceRecords_lines valid some, foldlM_readLine accepted {} 1]
  refine congrArg Except.ok ?_
  unfold readAnswer
  rw [if_neg (not_not.mpr rfl)]
  exact if_neg some

end Digest

end Algotradify.Paper.Persistence
