/-
The lifecycle of blockers: a registry of records by scope, owner key and code, which
evaluations set and clear and which expire.

Times are exact numbers here, and a time to live is a float or missing.
-/

import Algotradify.Py.Value
import Mathlib.Data.List.Sort

namespace Algotradify.Core.BlockerLifecycle

open Py

/-- `_TARGET_BLOCKER_PRIORITY.get(code, 99)`. -/
def targetBlockerPriority (code : String) : ℕ :=
  match code with
  | "NO_TOKEN" => 0
  | "NO_LIVE_OPTION_FEED" => 1
  | "STALE_OPTION_LTP" => 2
  | "PRICE_MISMATCH" => 3
  | _ => 99

structure BlockerKey where
  scope : String
  ownerKey : String
  code : String
deriving DecidableEq

structure BlockerRecord where
  code : String
  owner : String
  scope : String
  ownerKey : String
  kind : String
  severity : String
  active : Bool
  reason : Option String
  evidence : PyDict
  sourceTs : Option PyFloat
  lastEvalTs : ℚ
  lastSetTs : ℚ
  lastRefreshTs : ℚ
  lastClearTs : Option ℚ
  expiryTtlSec : Option PyFloat

def BlockerRecord.key (record : BlockerRecord) : BlockerKey :=
  { scope := record.scope, ownerKey := record.ownerKey, code := record.code }

/-- `self._records`. -/
abbrev Registry := List (BlockerKey × BlockerRecord)

/-- The arguments of `evaluate`. -/
structure Evaluation where
  code : String
  owner : String
  scope : String
  ownerKey : String
  kind : String
  severity : String := "error"
  isActive : Bool
  nowTs : ℚ
  reason : Option String := none
  evidence : PyDict := []
  sourceTs : Option PyFloat := none
  expiryTtlSec : Option PyFloat := none

namespace Evaluation

variable (evaluation : Evaluation)

def key : BlockerKey :=
  { scope := evaluation.scope, ownerKey := evaluation.ownerKey, code := evaluation.code }

/-- `str(reason) if reason else None`. -/
def reasonText : Option String :=
  evaluation.reason.filter fun reason => decide (reason ≠ "")

def newRecord : BlockerRecord :=
  { code := evaluation.code
    owner := evaluation.owner
    scope := evaluation.scope
    ownerKey := evaluation.ownerKey
    kind := evaluation.kind
    severity := evaluation.severity
    active := true
    reason := evaluation.reasonText
    evidence := evaluation.evidence
    sourceTs := evaluation.sourceTs
    lastEvalTs := evaluation.nowTs
    lastSetTs := evaluation.nowTs
    lastRefreshTs := evaluation.nowTs
    lastClearTs := none
    expiryTtlSec := evaluation.expiryTtlSec }

/-- A record that is already there is refreshed; the time at which it was set stays. -/
def refresh (existing : BlockerRecord) : BlockerRecord :=
  { existing with
    active := true
    reason := evaluation.reasonText
    evidence := evaluation.evidence
    sourceTs := evaluation.sourceTs
    lastEvalTs := evaluation.nowTs
    lastRefreshTs := evaluation.nowTs
    expiryTtlSec := evaluation.expiryTtlSec }

def clear (existing : BlockerRecord) : BlockerRecord :=
  if existing.active then
    { existing with
      active := false
      reason := evaluation.reasonText.or existing.reason
      evidence := if evaluation.evidence.isEmpty then existing.evidence else evaluation.evidence
      lastEvalTs := evaluation.nowTs
      lastClearTs := some evaluation.nowTs }
  else { existing with lastEvalTs := evaluation.nowTs }

end Evaluation

/-- `evaluate`. -/
def evaluate (registry : Registry) (evaluation : Evaluation) : Registry :=
  match registry.lookup evaluation.key with
  | none =>
      if evaluation.isActive then Assoc.set registry evaluation.key evaluation.newRecord
      else registry
  | some existing =>
      Assoc.set registry evaluation.key
        (if evaluation.isActive then evaluation.refresh existing else evaluation.clear existing)

def passes (filter : Option String) (value : String) : Bool :=
  match filter with
  | none => true
  | some "" => true
  | some wanted => decide (value = wanted)

/-- `last_refresh_ts or last_eval_ts or last_set_ts`. -/
def BlockerRecord.anchor (record : BlockerRecord) : ℚ :=
  if record.lastRefreshTs ≠ 0 then record.lastRefreshTs
  else if record.lastEvalTs ≠ 0 then record.lastEvalTs
  else record.lastSetTs

def withinTtl (ttl : Option PyFloat) (age : ℚ) : Bool :=
  match ttl with
  | none => true
  | some ttl => ttl.le (.finite 0) || (PyFloat.finite age).le ttl

def BlockerRecord.expire (nowTs : ℚ) (record : BlockerRecord) : BlockerRecord :=
  { record with
    active := false
    lastClearTs := some nowTs
    reason := some (((record.reason.filter fun reason => decide (reason ≠ "")).getD "expired")) }

def BlockerRecord.expireStale (nowTs : ℚ) (scope : Option String) (record : BlockerRecord) :
    BlockerRecord :=
  if passes scope record.scope && record.active &&
      !withinTtl record.expiryTtlSec (nowTs - record.anchor) then record.expire nowTs
  else record

def expireStale (registry : Registry) (nowTs : ℚ) (scope : Option String) : Registry :=
  Assoc.mapValues (BlockerRecord.expireStale nowTs scope) registry

def BlockerRecord.Before (left right : BlockerRecord) : Prop :=
  if targetBlockerPriority left.code = targetBlockerPriority right.code then
    if left.code = right.code then left.ownerKey ≤ right.ownerKey else left.code ≤ right.code
  else targetBlockerPriority left.code ≤ targetBlockerPriority right.code

instance : DecidableRel BlockerRecord.Before := fun left right => by
  unfold BlockerRecord.Before
  infer_instance

def getActive (registry : Registry) (scope ownerKey : Option String) : List BlockerRecord :=
  ((registry.map Prod.snd).filter fun record =>
    record.active && passes scope record.scope && passes ownerKey record.ownerKey).insertionSort
      BlockerRecord.Before

end Algotradify.Core.BlockerLifecycle
