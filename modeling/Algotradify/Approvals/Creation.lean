/-
Approval creation: an operator's decision becomes one line of the audit file.

The writer reads the status of a payload with a table of its own: what it does not know as a
rejection is an approval.
-/

import Algotradify.Approvals.Audit
import Algotradify.Paper.Common

namespace Algotradify.Approvals

open Py Dedup Json

variable {request : ApprovalCreationRequest} {result : ApprovalCreationResult} {value : PyValue}

/-! ### Requests -/

structure ApprovalCreationRequest where
  candidateId : String
  operatorId : String
  reason : String
  expiresAtEpoch : PyFloat
  safetyDecision : PyDict
  approvalId : PyValue := .none
  tsEpoch : Option PyFloat := none
  status : ApprovalStatus := .approved
  metadata : PyDict := []

/-- `value.strip() if isinstance(value, str) else value`. -/
def stripText : PyValue → PyValue
  | .str text => .str (strip text)
  | value => value

/-- `ApprovalCreationRequest.normalized`. -/
def ApprovalCreationRequest.normalized (request : ApprovalCreationRequest) :
    ApprovalCreationRequest :=
  { request with
    candidateId := strip request.candidateId
    operatorId := strip request.operatorId
    reason := strip request.reason
    approvalId := stripText request.approvalId }

structure ApprovalCreationResult where
  created : Bool
  event : Option ApprovalAuditEvent := none
  blockers : List String := []
  warnings : List String := []
  appendPath : Option String := none

/-- `len(value)`. -/
def lengthOf : PyValue → Except PyError Nat
  | .str text => .ok text.toList.length
  | .list items => .ok items.length
  | .dict entries => .ok entries.length
  | _ => .error (.typeError "object has no len()")

/-- `req.approval_id and len(req.approval_id) < 4`. -/
def approvalIdTooShort (approvalId : PyValue) : Except PyError Bool :=
  if approvalId.truthy then do
    let length ← lengthOf approvalId
    pure (length < 4)
  else .ok false

def snapshotChecks (safety : PyDict) : List (Bool × String) :=
  if safety.isEmpty then [(true, "SAFETY_DECISION_SNAPSHOT_REQUIRED")]
  else
    [(!PyDict.contains safety "execution_permitted",
        "SAFETY_DECISION_EXECUTION_PERMITTED_REQUIRED"),
      (!PyDict.contains safety "status", "SAFETY_DECISION_STATUS_REQUIRED"),
      (!(PyDict.get safety "is_order_action").isFalse, "SAFETY_DECISION_ORDER_FLAG_UNSAFE")]

/-- `validate_approval_creation`: the blockers and the warnings. -/
def validateApprovalCreation (request : ApprovalCreationRequest) :
    Except PyError (List String × List String) := do
  let req := request.normalized
  let tooShort ← approvalIdTooShort req.approvalId
  let blockers := messagesOf
    ([(req.candidateId == "" || lower req.candidateId == "unknown", "CANDIDATE_ID_REQUIRED"),
      (req.operatorId == "" || lower req.operatorId == "unknown", "OPERATOR_ID_REQUIRED"),
      (req.reason.toList.length < 8, "APPROVAL_REASON_TOO_SHORT"),
      (req.tsEpoch.any fun ts => req.expiresAtEpoch.le ts,
        "APPROVAL_EXPIRY_MUST_BE_AFTER_TIMESTAMP"),
      (req.expiresAtEpoch.le (.finite 0), "APPROVAL_EXPIRY_REQUIRED"),
      (req.status ≠ .approved ∧ req.status ≠ .rejected,
        "APPROVAL_STATUS_MUST_BE_APPROVED_OR_REJECTED")] ++
      (snapshotChecks req.safetyDecision ++ [(tooShort, "APPROVAL_ID_TOO_SHORT")]))
  let warnings := messageIf
    (!req.safetyDecision.isEmpty &&
      !(PyDict.get req.safetyDecision "safety_visibility_only").isTrue)
    "SAFETY_DECISION_VISIBILITY_FLAG_MISSING"
  pure (dedupe blockers, dedupe warnings)

/-! ### Events -/

/-- `_stable_approval_id`. -/
def stableApprovalId (digest : String → String) (req : ApprovalCreationRequest) : String :=
  let seed := String.intercalate "|"
    [req.candidateId, req.operatorId, req.reason,
      printValue ((ofOptionFloat req.tsEpoch).or (.str "")),
      printValue (.float req.expiresAtEpoch), req.status.value]
  "approval-" ++ String.ofList ((digest seed).toList.take 16)

/-- `build_approval_event`. -/
def buildApprovalEvent (approvalId : PyValue) (req : ApprovalCreationRequest) :
    ApprovalAuditEvent :=
  { approvalId := approvalId
    candidateId := req.candidateId
    operatorId := req.operatorId
    status := req.status
    reason := req.reason
    tsEpoch := req.tsEpoch
    expiresAtEpoch := some req.expiresAtEpoch
    safetyDecision := req.safetyDecision
    raw :=
      [("approval_id", approvalId), ("candidate_id", .str req.candidateId),
        ("operator_id", .str req.operatorId), ("status", .str req.status.value),
        ("reason", .str req.reason), ("ts_epoch", ofOptionFloat req.tsEpoch),
        ("expires_at_epoch", .float req.expiresAtEpoch),
        ("safety_decision", .dict req.safetyDecision)] }

/-- `create_approval_event`. -/
def createApprovalEvent (digest : String → String) (request : ApprovalCreationRequest) :
    Except PyError ApprovalCreationResult := do
  let req := request.normalized
  let (blockers, warnings) ← validateApprovalCreation req
  if !blockers.isEmpty then
    pure { created := false, blockers := blockers, warnings := warnings }
  else
    let approvalId := req.approvalId.or (.str (stableApprovalId digest req))
    pure
      { created := true
        event := some (buildApprovalEvent approvalId req)
        warnings := warnings }

def eventLine (event : ApprovalAuditEvent) : String :=
  jsonDumps compactAscii (.dict (event.toDict none))

/-- `append_approval_event`: the result, and the file afterwards. -/
def appendApprovalEvent (digest : String → String) (path file : String)
    (request : ApprovalCreationRequest) : Except PyError (ApprovalCreationResult × String) := do
  let result ← createApprovalEvent digest request
  match result.event with
  | none => pure (result, file)
  | some event =>
      if !result.created then pure (result, file)
      else
        pure
          ({ created := true
             event := some event
             warnings := result.warnings
             appendPath := some path },
            file ++ eventLine event ++ "\n")

/-! ### Requests from payloads -/

/-- `_float`. -/
def floatOrZero (value : PyValue) : PyFloat :=
  (toFloat value).toOption.getD (.finite 0)

/-- `_optional_float`. -/
def optionalFloat (value : PyValue) : Option PyFloat :=
  if value.isNoneOrEmpty then none else some (floatOrZero value)

def statusText (payload : PyDict) : String :=
  printValue (((PyDict.get payload "status").or (PyDict.get payload "approval_status")).or
    (.str "APPROVED"))

def writtenRejections : List String :=
  ["REJECT", "REJECTED", "DENIED", "DENY"]

/-- `approval_request_from_mapping`. -/
def approvalRequestFromMapping (payload : PyDict) : ApprovalCreationRequest :=
  { approvalId := PyDict.get payload "approval_id"
    candidateId := printValue ((PyDict.get payload "candidate_id").or (.str ""))
    operatorId := printValue
      (((PyDict.get payload "operator_id").or (PyDict.get payload "approved_by")).or (.str ""))
    reason := printValue
      (((PyDict.get payload "reason").or (PyDict.get payload "approval_reason")).or (.str ""))
    expiresAtEpoch := floatOrZero
      ((PyDict.get payload "expires_at_epoch").or (PyDict.get payload "expiry_epoch"))
    tsEpoch := optionalFloat
      ((PyDict.get payload "ts_epoch").or (PyDict.get payload "approved_at_epoch"))
    safetyDecision := (PyDict.get payload "safety_decision").asDict
    status :=
      if upper (statusText payload) ∈ writtenRejections then .rejected else .approved
    metadata := (PyDict.get payload "metadata").asDict }

/-! ### What is appended -/

variable {digest : String → String}

theorem created_event (ran : createApprovalEvent digest request = .ok result)
    (created : result.created = true) :
    result.event = some (buildApprovalEvent
      (request.normalized.approvalId.or (.str (stableApprovalId digest request.normalized)))
      request.normalized) := by
  obtain ⟨⟨blockers, warnings⟩, _, ended⟩ := bind_eq_ok.mp ran
  dsimp only at ended
  split at ended
  · rw [← Except.ok.inj ended] at created
    cases created
  · rw [← Except.ok.inj ended]

theorem appended_line {path file after : String}
    (ran : appendApprovalEvent digest path file request = .ok (result, after))
    (created : result.created = true) :
    after = file ++ eventLine (buildApprovalEvent
      (request.normalized.approvalId.or (.str (stableApprovalId digest request.normalized)))
      request.normalized) ++ "\n" := by
  obtain ⟨made, before, ended⟩ := bind_eq_ok.mp ran
  cases isCreated : made.created with
  | false =>
      have same : made = result := by
        cases event : made.event with
        | none =>
            simp only [event] at ended
            exact (Prod.mk.inj (Except.ok.inj ended)).1
        | some event =>
            simp only [event, isCreated, Bool.not_false, if_true] at ended
            exact (Prod.mk.inj (Except.ok.inj ended)).1
      rw [same, created] at isCreated
      cases isCreated
  | true =>
      have event := created_event before isCreated
      simp only [event, isCreated, Bool.not_true, Bool.false_eq_true, if_false] at ended
      exact (Prod.mk.inj (Except.ok.inj ended)).2.symm

theorem wellFormed_stripText (formed : wellFormed value = true) :
    wellFormed (stripText value) = true := by
  cases value with
  | str text => rfl
  | _ => exact formed

theorem wellFormed_or {left right : PyValue} (ofLeft : wellFormed left = true)
    (ofRight : wellFormed right = true) : wellFormed (left.or right) = true := by
  unfold PyValue.or
  split
  · exact ofLeft
  · exact ofRight

theorem wellFormed_floatOrZero (formed : wellFormed value = true) :
    wellFormed (.float (floatOrZero value)) = true := by
  unfold floatOrZero
  cases read : toFloat value with
  | error raised => exact isDecimal_intCast 0
  | ok number => exact Paper.wellFormed_toFloat formed read

theorem wellFormed_optionalFloat (formed : wellFormed value = true) :
    wellFormed (ofOptionFloat (optionalFloat value)) = true := by
  unfold optionalFloat
  split
  · rfl
  · exact wellFormed_floatOrZero formed

theorem wellFormed_asDict (formed : wellFormed value = true) :
    wellFormed (.dict value.asDict) = true := by
  cases value with
  | dict entries => exact formed
  | _ => rfl

theorem distinct_eventDict (event : ApprovalAuditEvent) (nowEpoch : Option PyFloat) :
    Assoc.Distinct (event.toDict nowEpoch) := by
  have keys : (["approval_id", "candidate_id", "operator_id", "status", "reason", "ts_epoch",
    "expires_at_epoch", "safety_decision", "raw", "immutable_audit_event",
    "is_order_action"] : List String).Nodup := by decide
  exact keys

theorem wellFormed_eventDict {event : ApprovalAuditEvent}
    (named : wellFormed event.approvalId = true)
    (ts : wellFormed (ofOptionFloat event.tsEpoch) = true)
    (expires : wellFormed (ofOptionFloat event.expiresAtEpoch) = true)
    (safety : wellFormed (.dict event.safetyDecision) = true)
    (raw : wellFormed (.dict event.raw) = true) (nowEpoch : Option PyFloat) :
    wellFormed (.dict (event.toDict nowEpoch)) = true := by
  refine wellFormed_dict.mpr ⟨distinct_eventDict event nowEpoch, ?_⟩
  unfold ApprovalAuditEvent.toDict
  simp only [wellFormedEntries, named, ts, expires, safety, raw, Bool.true_and, Bool.and_true]
  rfl

theorem wellFormed_builtEvent {approvalId : PyValue} (named : wellFormed approvalId = true)
    (ts : wellFormed (ofOptionFloat request.tsEpoch) = true)
    (expires : wellFormed (.float request.expiresAtEpoch) = true)
    (safety : wellFormed (.dict request.safetyDecision) = true) (nowEpoch : Option PyFloat) :
    wellFormed (.dict ((buildApprovalEvent approvalId request).toDict nowEpoch)) = true := by
  have keys : (["approval_id", "candidate_id", "operator_id", "status", "reason", "ts_epoch",
    "expires_at_epoch", "safety_decision"] : List String).Nodup := by decide
  have raw : wellFormed (.dict (buildApprovalEvent approvalId request).raw) = true := by
    refine wellFormed_dict.mpr ⟨keys, ?_⟩
    unfold buildApprovalEvent
    simp only [wellFormedEntries, named, ts, expires, safety, Bool.true_and, Bool.and_true]
    rfl
  have known : wellFormed (ofOptionFloat (buildApprovalEvent approvalId request).expiresAtEpoch) =
      true := expires
  exact wellFormed_eventDict named ts known safety raw nowEpoch

theorem wellFormed_event {payload : PyDict} (formed : wellFormed (.dict payload) = true)
    {approvalId : PyValue} (named : wellFormed approvalId = true) (nowEpoch : Option PyFloat) :
    wellFormed (.dict ((buildApprovalEvent approvalId
      (approvalRequestFromMapping payload).normalized).toDict nowEpoch)) = true := by
  have field := Json.wellFormed_get (wellFormed_dict.mp formed).2
  apply wellFormed_builtEvent named
  · exact wellFormed_optionalFloat (wellFormed_or (field "ts_epoch") (field "approved_at_epoch"))
  · exact wellFormed_floatOrZero (wellFormed_or (field "expires_at_epoch") (field "expiry_epoch"))
  · exact wellFormed_asDict (field "safety_decision")

/-! ### What is read back -/

theorem normalizeStatus_value_of_created {status : ApprovalStatus}
    (created : status = .approved ∨ status = .rejected) :
    normalizeStatus ((PyValue.str status.value).or .none) = status := by
  rcases created with rfl | rfl <;> decide

theorem currentStatus_single (row : PyDict) :
    (normalizeApprovalAudit [.dict row] .none none).currentStatus = (eventFromRecord row).status := by
  have last : ((ofCandidate .none (eventsOf [.dict row])).insertionSort NotAfter).getLast? =
      some (eventFromRecord row) := rfl
  rw [currentStatus_normalize last, statusAt_none]

theorem status_of_line {event : ApprovalAuditEvent} (formed : wellFormed (.dict (event.toDict none)) = true)
    (created : event.status = .approved ∨ event.status = .rejected) :
    ∃ row, jsonLoads (eventLine event) = some (.dict row) ∧
      (normalizeApprovalAudit [.dict row] .none none).currentStatus = event.status := by
  refine ⟨sortEntries (event.toDict none), jsonLoads_jsonDumps compactAscii formed, ?_⟩
  have distinct := distinct_eventDict event none
  have status : PyDict.get (sortEntries (event.toDict none)) "status" =
      .str event.status.value := by
    rw [get_sortEntries distinct, ← statusAt_none event]
    rfl
  have synonym : PyDict.get (sortEntries (event.toDict none)) "approval_status" = .none := by
    rw [get_sortEntries distinct]
    rfl
  rw [currentStatus_single]
  unfold eventFromRecord
  dsimp only
  rw [status, synonym, normalizeStatus_value_of_created created]

/-! ### Writer and reader -/

def ReadsAsApproval (text : String) : Prop :=
  statusKey (.str text) ∈ approvedWords

theorem normalizeStatus_eq_approved_iff (text : String) :
    normalizeStatus (.str text) = .approved ↔ ReadsAsApproval text := by
  unfold normalizeStatus ReadsAsApproval
  dsimp only
  split
  · next reads => exact ⟨fun _ => reads, fun _ => rfl⟩
  · next other =>
      refine ⟨fun same => ?_, fun reads => absurd reads other⟩
      split at same
      · cases same
      · split at same
        · cases same
        · split at same <;> cases same

theorem normalizeStatus_of_writtenRejection {text : String}
    (rejection : upper text ∈ writtenRejections) : normalizeStatus (.str text) = .rejected := by
  have key : statusKey (.str text) = String.ofList ((strip (upper text)).toList.map fun char =>
      if char = ' ' ∨ char = '-' then '_' else char) := by
    unfold statusKey PyValue.or
    split
    · rfl
    · next falsy =>
        have empty : text = "" := by
          unfold PyValue.truthy at falsy
          simpa using falsy
        rw [empty]
        rfl
  unfold normalizeStatus
  rw [key]
  generalize upper text = word at rejection
  unfold writtenRejections at rejection
  simp only [List.mem_cons, List.not_mem_nil, or_false] at rejection
  rcases rejection with rfl | rfl | rfl | rfl <;> decide

theorem status_created (payload : PyDict) :
    (approvalRequestFromMapping payload).status = .approved ∨
      (approvalRequestFromMapping payload).status = .rejected := by
  unfold approvalRequestFromMapping
  dsimp only
  split
  · exact .inr rfl
  · exact .inl rfl

theorem appended_row {payload : PyDict} (formed : wellFormed (.dict payload) = true)
    {path file after : String}
    (appended : appendApprovalEvent digest path file (approvalRequestFromMapping payload) =
      .ok (result, after)) (created : result.created = true) :
    ∃ line row, after = file ++ line ++ "\n" ∧ jsonLoads line = some (.dict row) ∧
      (normalizeApprovalAudit [.dict row] .none none).currentStatus =
        (approvalRequestFromMapping payload).status := by
  have named : wellFormed ((approvalRequestFromMapping payload).normalized.approvalId.or
      (.str (stableApprovalId digest (approvalRequestFromMapping payload).normalized))) = true :=
    wellFormed_or (wellFormed_stripText
      (Json.wellFormed_get (wellFormed_dict.mp formed).2 "approval_id")) rfl
  obtain ⟨row, read, status⟩ :=
    status_of_line (wellFormed_event formed named none) (status_created payload)
  exact ⟨_, row, appended_line appended created, read, status⟩

/-- Writer and reader agree on an appended event exactly where the writer sees a rejection or
the reader an approval: every other text is written as an approval. -/
theorem appended_status_agrees_iff (digest : String → String) {payload : PyDict}
    (formed : wellFormed (.dict payload) = true) {path file after : String}
    {result : ApprovalCreationResult}
    (appended : appendApprovalEvent digest path file (approvalRequestFromMapping payload) =
      .ok (result, after)) (created : result.created = true) :
    ∃ line row, after = file ++ line ++ "\n" ∧ jsonLoads line = some (.dict row) ∧
      ((normalizeApprovalAudit [.dict row] .none none).currentStatus =
          normalizeStatus (.str (statusText payload)) ↔
        upper (statusText payload) ∈ writtenRejections ∨ ReadsAsApproval (statusText payload)) := by
  obtain ⟨line, row, written, read, status⟩ := appended_row formed appended created
  refine ⟨line, row, written, read, ?_⟩
  rw [status]
  unfold approvalRequestFromMapping
  dsimp only
  by_cases rejection : upper (statusText payload) ∈ writtenRejections
  · rw [if_pos rejection, normalizeStatus_of_writtenRejection rejection]
    exact iff_of_true rfl (.inl rejection)
  · rw [if_neg rejection, eq_comm, normalizeStatus_eq_approved_iff]
    simp only [rejection, false_or]

def revokingPayload : PyDict :=
  [("approval_id", .str "approval-1234"), ("candidate_id", .str "c1"),
    ("operator_id", .str "op1"), ("reason", .str "withdrawn by the operator"),
    ("expires_at_epoch", .int 200), ("ts_epoch", .int 100), ("status", .str "revoked"),
    ("safety_decision",
      .dict
        [("execution_permitted", .bool false), ("status", .str "BLOCKED"),
          ("is_order_action", .bool false), ("safety_visibility_only", .bool true)])]

/-- The payload has an id of its own, so that nothing is digested. -/
def noDigest (_ : String) : String := ""

def revokingAppend : Except PyError (ApprovalCreationResult × String) :=
  appendApprovalEvent noDigest "approval_audit.jsonl" "" (approvalRequestFromMapping revokingPayload)

theorem revokingAppend_created : ∃ result after, revokingAppend = .ok (result, after) ∧
    result.created = true := by
  have creates : (revokingAppend.toOption.map fun outcome => outcome.1.created) = some true := by
    decide
  cases ran : revokingAppend with
  | error raised =>
      rw [ran] at creates
      cases creates
  | ok outcome =>
      rw [ran] at creates
      exact ⟨outcome.1, outcome.2, rfl, Option.some.inj creates⟩

theorem revokingPayload_formed : wellFormed (.dict revokingPayload) = true := by decide

theorem appended_status_agrees_iff_revoking :
    ∃ line row, jsonLoads line = some (.dict row) ∧
      ((normalizeApprovalAudit [.dict row] .none none).currentStatus =
          normalizeStatus (.str (statusText revokingPayload)) ↔
        upper (statusText revokingPayload) ∈ writtenRejections ∨
          ReadsAsApproval (statusText revokingPayload)) := by
  obtain ⟨result, after, appended, created⟩ := revokingAppend_created
  obtain ⟨line, row, _, read, agrees⟩ :=
    appended_status_agrees_iff noDigest revokingPayload_formed appended created
  exact ⟨line, row, read, agrees⟩

/-- The line of a revocation is read as an approval. -/
theorem revocation_read_as_approval :
    normalizeStatus (.str (statusText revokingPayload)) = .revoked ∧
      ∃ result line row, revokingAppend = .ok (result, line ++ "\n") ∧ result.created = true ∧
        jsonLoads line = some (.dict row) ∧
        (normalizeApprovalAudit [.dict row] .none none).currentStatus = .approved := by
  obtain ⟨result, after, appended, created⟩ := revokingAppend_created
  obtain ⟨line, row, written, read, status⟩ :=
    appended_row revokingPayload_formed appended created
  rw [String.empty_append] at written
  rw [written] at appended
  have writes : (approvalRequestFromMapping revokingPayload).status = .approved := by
    decide
  rw [writes] at status
  exact ⟨by decide, result, line, row, appended, created, read, status⟩

end Algotradify.Approvals
