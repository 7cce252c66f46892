/-
The approval audit: what the rows of a history say about one candidate.

Rows are sorted by their times, and rows without a time go last. The row that is last then
is the one that counts. Whether an approval has expired is asked only of a caller who tells
the time.
-/

import Algotradify.Dedup.Firsts
import Algotradify.Py.Convert
import Algotradify.Sorting.Stable

namespace Algotradify.Approvals

open Py Dedup

/-! ### Events -/

inductive ApprovalStatus where
  | approved
  | rejected
  | expired
  | revoked
  | unknown
deriving DecidableEq

def ApprovalStatus.value : ApprovalStatus → String
  | .approved => "APPROVED"
  | .rejected => "REJECTED"
  | .expired => "EXPIRED"
  | .revoked => "REVOKED"
  | .unknown => "UNKNOWN"

structure ApprovalAuditEvent where
  approvalId : PyValue
  candidateId : String
  operatorId : String
  status : ApprovalStatus
  reason : String
  tsEpoch : Option PyFloat
  expiresAtEpoch : Option PyFloat
  safetyDecision : PyDict
  raw : PyDict

namespace ApprovalAuditEvent

/-- `is_expired`: nothing expires for a caller who does not tell the time. -/
def isExpired (event : ApprovalAuditEvent) (nowEpoch : Option PyFloat) : Bool :=
  match event.expiresAtEpoch, nowEpoch with
  | some expires, some now => expires.le now
  | _, _ => false

def statusAt (event : ApprovalAuditEvent) (nowEpoch : Option PyFloat) : ApprovalStatus :=
  if event.status = .approved ∧ event.isExpired nowEpoch = true then .expired else event.status

def toDict (event : ApprovalAuditEvent) (nowEpoch : Option PyFloat) : PyDict :=
  [("approval_id", event.approvalId), ("candidate_id", .str event.candidateId),
    ("operator_id", .str event.operatorId), ("status", .str (event.statusAt nowEpoch).value),
    ("reason", .str event.reason), ("ts_epoch", ofOptionFloat event.tsEpoch),
    ("expires_at_epoch", ofOptionFloat event.expiresAtEpoch),
    ("safety_decision", .dict event.safetyDecision), ("raw", .dict event.raw),
    ("immutable_audit_event", .bool true), ("is_order_action", .bool false)]

end ApprovalAuditEvent

/-! ### Reading a row -/

/-- `str(value or "").upper().strip().replace(" ", "_").replace("-", "_")`. -/
def statusKey (value : PyValue) : String :=
  String.ofList ((strip (upper (printValue (value.or (.str ""))))).toList.map fun char =>
    if char = ' ' ∨ char = '-' then '_' else char)

def approvedWords : List String :=
  ["APPROVE", "APPROVED", "ALLOW", "ALLOWED"]

def rejectedWords : List String :=
  ["REJECT", "REJECTED", "DENY", "DENIED"]

/-- `_normalize_status`. -/
def normalizeStatus (value : PyValue) : ApprovalStatus :=
  let key := statusKey value
  if key ∈ approvedWords then .approved
  else if key ∈ rejectedWords then .rejected
  else if key ∈ ["EXPIRE", "EXPIRED"] then .expired
  else if key ∈ ["REVOKE", "REVOKED", "CANCELLED", "CANCELED"] then .revoked
  else .unknown

/-- `_num`. -/
def num (value : PyValue) : Option PyFloat :=
  if value.isNoneOrEmpty then none else (toFloat value).toOption

/-- `_event_from_record`. -/
def eventFromRecord (row : PyDict) : ApprovalAuditEvent :=
  { approvalId := .str (printValue
      (((PyDict.get row "approval_id").or (PyDict.get row "id")).or (.str "unknown")))
    candidateId := printValue
      (((PyDict.get row "candidate_id").or (PyDict.get row "trade_id")).or (.str "unknown"))
    operatorId := printValue
      ((((PyDict.get row "operator_id").or (PyDict.get row "approved_by")).or
        (PyDict.get row "user_id")).or (.str "unknown"))
    status := normalizeStatus ((PyDict.get row "status").or (PyDict.get row "approval_status"))
    reason := printValue
      (((PyDict.get row "reason").or (PyDict.get row "approval_reason")).or (.str "unspecified"))
    tsEpoch := num
      (((PyDict.get row "ts_epoch").or (PyDict.get row "timestamp")).or
        (PyDict.get row "approved_at_epoch"))
    expiresAtEpoch := num
      (((PyDict.get row "expires_at_epoch").or (PyDict.get row "expires_at")).or
        (PyDict.get row "expiry_epoch"))
    safetyDecision := (PyDict.get row "safety_decision").asDict
    raw := row }

def eventsOf (records : List PyValue) : List ApprovalAuditEvent :=
  records.filterMap fun
    | .dict row => some (eventFromRecord row)
    | _ => none

/-! ### The summary -/

structure ApprovalAuditSummary where
  candidateId : PyValue
  currentStatus : ApprovalStatus
  approvalId : PyValue
  operatorId : PyValue
  events : List ApprovalAuditEvent
  approvedCount : Nat
  rejectedCount : Nat
  expiredCount : Nat
  revokedCount : Nat
  latestReason : PyValue := .none
  blockers : List String := []
  warnings : List String := []

/-- `(event.ts_epoch is None, event.ts_epoch or 0.0)` of the first is not above that of the
second. -/
def NotAfter (first second : ApprovalAuditEvent) : Prop :=
  match first.tsEpoch, second.tsEpoch with
  | some earlier, some later => later.lt earlier = false
  | some _, none => True
  | none, some _ => False
  | none, none => True

instance (first second : ApprovalAuditEvent) : Decidable (NotAfter first second) := by
  unfold NotAfter
  split <;> infer_instance

/-- The events of a candidate, or all of them when none is asked for. -/
def ofCandidate (candidateId : PyValue) (events : List ApprovalAuditEvent) :
    List ApprovalAuditEvent :=
  if candidateId.truthy then events.filter fun event => candidateId.isStr event.candidateId
  else events

/-- `_first_candidate_id`. -/
def firstCandidateId (events : List ApprovalAuditEvent) : PyValue :=
  ofOptionString ((events.map ApprovalAuditEvent.candidateId).find? fun id => id ≠ "unknown")

/-- `_warnings`. -/
def auditWarnings (events : List ApprovalAuditEvent) : List String :=
  messageIf (events.any fun event => event.operatorId == "unknown") "UNKNOWN_OPERATOR_PRESENT" ++
    (messageIf (events.any fun event => event.approvalId.isStr "unknown")
        "UNKNOWN_APPROVAL_ID_PRESENT" ++
      messageIf (events.any fun event => event.status = .unknown)
        "UNKNOWN_APPROVAL_STATUS_PRESENT")

/-- `normalize_approval_audit`. -/
def normalizeApprovalAudit (records : List PyValue) (candidateId : PyValue)
    (nowEpoch : Option PyFloat) : ApprovalAuditSummary :=
  let events := (ofCandidate candidateId (eventsOf records)).insertionSort NotAfter
  let resolved := (candidateId.or (firstCandidateId events)).or (.str "unknown")
  match events.getLast? with
  | none =>
      { candidateId := resolved
        currentStatus := .unknown
        approvalId := .none
        operatorId := .none
        events := []
        approvedCount := 0
        rejectedCount := 0
        expiredCount := 0
        revokedCount := 0
        blockers := ["NO_APPROVAL_AUDIT_EVENTS"] }
  | some latest =>
      let latestStatus := latest.statusAt nowEpoch
      { candidateId := resolved
        currentStatus := latestStatus
        approvalId := latest.approvalId
        operatorId := .str latest.operatorId
        events := events
        approvedCount := events.countP fun event =>
          event.status = .approved && !event.isExpired nowEpoch
        rejectedCount := events.countP fun event => event.status = .rejected
        expiredCount := events.countP fun event =>
          event.status = .expired || event.isExpired nowEpoch
        revokedCount := events.countP fun event => event.status = .revoked
        latestReason := .str latest.reason
        blockers :=
          if latestStatus = .approved then [] else ["APPROVAL_" ++ latestStatus.value]
        warnings := auditWarnings events }

/-- `ApprovalAuditSummary.to_dict`: the status that is shown is the one of the last event. -/
def ApprovalAuditSummary.toDict (summary : ApprovalAuditSummary) (nowEpoch : Option PyFloat) :
    PyDict :=
  let currentStatus :=
    match summary.events.getLast? with
    | none => summary.currentStatus
    | some latest => latest.statusAt nowEpoch
  [("candidate_id", summary.candidateId), ("current_status", .str currentStatus.value),
    ("approval_id", summary.approvalId), ("operator_id", summary.operatorId),
    ("approved_count", .int summary.approvedCount),
    ("rejected_count", .int summary.rejectedCount),
    ("expired_count", .int summary.expiredCount),
    ("revoked_count", .int summary.revokedCount), ("latest_reason", summary.latestReason),
    ("events", .list (summary.events.map fun event => .dict (event.toDict nowEpoch))),
    ("blockers", ofStrings summary.blockers), ("warnings", ofStrings summary.warnings),
    ("is_order_action", .bool false)]

theorem events_normalize (records : List PyValue) (candidateId : PyValue)
    (nowEpoch : Option PyFloat) :
    (normalizeApprovalAudit records candidateId nowEpoch).events =
      (ofCandidate candidateId (eventsOf records)).insertionSort NotAfter := by
  unfold normalizeApprovalAudit
  dsimp only
  split
  · next none => exact (List.getLast?_eq_none_iff.mp none).symm
  · rfl

theorem statusAt_none (event : ApprovalAuditEvent) : event.statusAt none = event.status := by
  unfold ApprovalAuditEvent.statusAt ApprovalAuditEvent.isExpired
  cases event.expiresAtEpoch <;> simp

theorem currentStatus_normalize {records : List PyValue} {candidateId : PyValue}
    {nowEpoch : Option PyFloat} {latest : ApprovalAuditEvent}
    (last : ((ofCandidate candidateId (eventsOf records)).insertionSort NotAfter).getLast? =
      some latest) :
    (normalizeApprovalAudit records candidateId nowEpoch).currentStatus =
      latest.statusAt nowEpoch := by
  unfold normalizeApprovalAudit
  simp only [last]

/-! ### Which event counts -/

def TimesInOrder (events : List ApprovalAuditEvent) : Prop :=
  events.Pairwise fun first second =>
    ∀ earlier later, first.tsEpoch = some earlier → second.tsEpoch = some later →
      earlier.le later = true

def isTimed (event : ApprovalAuditEvent) : Bool :=
  event.tsEpoch.isSome

/-- The event that counts: the last one without a time, or the last one if all have one. -/
def counted? (events : List ApprovalAuditEvent) : Option ApprovalAuditEvent :=
  match (events.filter (!isTimed ·)).getLast? with
  | some untimed => some untimed
  | none => events.getLast?

theorem sorted_eq {events : List ApprovalAuditEvent} (inOrder : TimesInOrder events) :
    events.insertionSort NotAfter = events.filter isTimed ++ events.filter (!isTimed ·) := by
  apply Sorting.insertionSort_partition
  · refine inOrder.imp fun {first second} times same => ?_
    unfold NotAfter
    unfold isTimed at same
    cases left : first.tsEpoch with
    | none =>
        cases right : second.tsEpoch with
        | none => trivial
        | some later =>
            rw [left, right] at same
            cases same
    | some earlier =>
        cases right : second.tsEpoch with
        | none => trivial
        | some later => exact PyFloat.not_lt_of_le (times earlier later left right)
  · intro first second timed untimed
    unfold isTimed at timed untimed
    obtain ⟨time, left⟩ := Option.isSome_iff_exists.mp timed
    rw [Option.isSome_eq_false_iff, Option.isNone_iff_eq_none] at untimed
    unfold NotAfter
    rw [left, untimed]
    trivial
  · intro first second untimed timed
    unfold isTimed at timed untimed
    obtain ⟨time, right⟩ := Option.isSome_iff_exists.mp timed
    rw [Option.isSome_eq_false_iff, Option.isNone_iff_eq_none] at untimed
    unfold NotAfter
    rw [untimed, right]
    exact not_false

theorem getLast?_sorted {events : List ApprovalAuditEvent} (inOrder : TimesInOrder events) :
    (events.insertionSort NotAfter).getLast? = counted? events := by
  rw [sorted_eq inOrder, List.getLast?_append]
  unfold counted?
  cases untimed : (events.filter (!isTimed ·)).getLast? with
  | some event => rfl
  | none =>
      have all : events.filter isTimed = events := by
        rw [List.filter_eq_self]
        intro event member
        have none := List.filter_eq_nil_iff.mp (List.getLast?_eq_none_iff.mp untimed) event member
        simpa using none
      rw [all]
      rfl

end Algotradify.Approvals
