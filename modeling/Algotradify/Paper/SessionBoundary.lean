/-
Paper session boundaries: the checks of a marker of the start, the end or the reset of a
session. Metadata is a dictionary or missing.
-/

import Algotradify.Paper.Persistence

namespace Algotradify.Paper.SessionBoundary

open Py Json Persistence

/-- `PAPER_SESSION_BOUNDARY_RECORD_TYPE`. -/
def boundaryRecordType : String := "PAPER_SESSION_BOUNDARY"

/-- `PaperSessionBoundaryType`. -/
def allowedBoundaryTypes : List String := ["SESSION_START", "SESSION_END", "RESET_MARKER"]

def requiredBoundaryKeys : List String :=
  ["schema_version", "record_type", "session_id", "boundary_type", "created_at_epoch", "reason",
    "metadata", "paper_only", "read_only", "is_order_action", "broker_api_called",
    "real_order_id"]

/-! ### Checks -/

def destructiveKeys : List String :=
  ["delete", "deleted", "truncate", "truncated", "rewrite", "rewritten", "destructive",
    "remove_history"]

def destructive (key : String) (value : PyObject) : Bool :=
  destructiveKeys.contains (lower key) && value.truthy

/-- `_destructive_reset_blockers`. -/
def destructiveResetBlockers (metadata : List (PyKey × PyObject)) : List String :=
  (PyObject.walkDict "ROOT" metadata).flatMap fun entry =>
    blockerIf (destructive entry.key entry.value)
      ("PAPER_SESSION_BOUNDARY_" ++ entry.path ++ "_DESTRUCTIVE_RESET_FORBIDDEN")

def metadataBlockers (metadata : PyObject) : List String :=
  match metadata with
  | .dict entries =>
      unsafePayloadBlockers "PAPER_SESSION_BOUNDARY_METADATA" (.dict entries) ++
        destructiveResetBlockers entries
  | _ => ["PAPER_SESSION_BOUNDARY_METADATA_MUST_BE_OBJECT"]

def allowedType (boundaryType : Option String) : Bool :=
  match boundaryType with
  | none => false
  | some text => allowedBoundaryTypes.contains text

/-- `validate_paper_session_boundary_record` of a dictionary. -/
def validateBoundaryRecord (record : PyRecord) : List String :=
  dedupe (requiredBoundaryKeys.flatMap (fun key =>
      blockerIf (!record.contains key) ("PAPER_SESSION_BOUNDARY_RECORD_MISSING_" ++ upper key)) ++
    blockerIf (!(record.get "record_type").isStr boundaryRecordType)
      "PAPER_SESSION_BOUNDARY_RECORD_TYPE_INVALID" ++
    blockerIf (strOrNone (record.get "session_id")).isNone
      "PAPER_SESSION_BOUNDARY_SESSION_ID_REQUIRED" ++
    blockerIf (!allowedType (strOrNone (record.get "boundary_type")))
      "PAPER_SESSION_BOUNDARY_TYPE_INVALID" ++
    blockerIf (record.get "created_at_epoch").isNone
      "PAPER_SESSION_BOUNDARY_CREATED_AT_EPOCH_REQUIRED" ++
    metadataBlockers (record.get "metadata") ++
    blockerIf (!(record.get "paper_only").isTrue)
      "PAPER_SESSION_BOUNDARY_UNSAFE_PAPER_ONLY_FLAG" ++
    blockerIf (!(record.get "read_only").isTrue)
      "PAPER_SESSION_BOUNDARY_UNSAFE_READ_ONLY_FLAG" ++
    blockerIf (!(record.get "is_order_action").isFalse)
      "PAPER_SESSION_BOUNDARY_UNSAFE_ORDER_ACTION_FLAG" ++
    blockerIf (!(record.get "broker_api_called").isFalse)
      "PAPER_SESSION_BOUNDARY_UNSAFE_BROKER_API_FLAG" ++
    blockerIf (!(record.get "real_order_id").isNone)
      "PAPER_SESSION_BOUNDARY_UNSAFE_REAL_ORDER_ID")

/-! ### Metadata -/

theorem metadataBlockers_eq_nil (entries : List (PyKey × PyObject)) :
    metadataBlockers (.dict entries) = [] ↔
      PyObject.everyEntry flagSafe entries = true ∧
        PyObject.everyEntry (fun key value => !destructive key value) entries = true := by
  unfold metadataBlockers destructiveResetBlockers
  dsimp only
  rw [List.append_eq_nil_iff, unsafePayloadBlockers_eq_nil, List.flatMap_eq_nil_iff,
    ← PyObject.walkDict_all (fun key value => !destructive key value) entries "ROOT",
    List.all_eq_true]
  refine and_congr Iff.rfl (forall₂_congr fun entry _ => ?_)
  rw [blockerIf_eq_nil, Bool.not_eq_true']

end Algotradify.Paper.SessionBoundary
