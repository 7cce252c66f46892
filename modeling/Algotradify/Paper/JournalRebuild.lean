/-
The rebuild of a paper account from its journal: the events are loaded, their order is
guarded, and they are reduced.

The files are a function of the path. A path object and the dictionaries of the three steps
in the result are left out.
-/

import Algotradify.Paper.EventJournal
import Algotradify.Paper.ReducerStreams

namespace Algotradify.Paper.JournalRebuild

open Py Json Events EventJournal EventOrdering StateReducer Transition

def normalizePath : PyValue → Option String
  | .str path => if strip path = "" then none else some (strip path)
  | _ => none

def prefixed (source : String) (blockers : List String) : List String :=
  blockers.map fun blocker => "PAPER_JOURNAL_REBUILD_" ++ source ++ "_" ++ blocker

section Rebuild

variable {files : String → Option String} {path : String} {events : List NormalizedEvent}
variable {result : PaperJournalRebuildResult} {state : PaperReducedState}

end Rebuild

/-! ### After any calls -/

private def openedOrder : JsonValue where
  value := .dict ([("event_id", .str "e"), ("cycle_id", .str "c"), ("event_sequence", .int 1),
    ("event_type", .str "PAPER_ORDER_OPENED"), ("ts_epoch", .int 1), ("idempotency_key", .str "k"),
    ("payload", .dict [])] ++ safeFlags)
  formed := rfl

end Algotradify.Paper.JournalRebuild
