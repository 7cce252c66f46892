/-
Dry-run execution: an order intent that is written and never sent.

The adapter takes the selected candidate, the execution safety decision and the summary of
the approval audit. Of the summary it reads the status that is shown.
-/

import Algotradify.Approvals.Audit
import Algotradify.Execution.OrderIntent

namespace Algotradify.Approvals

open Py Dedup
open Paper (intOrNone floatOrNone)
open Execution (topSelected givenDict fieldOf strOrNone firstOf)

variable {topExecutable executionSafety approval : Option PyDict}

/-! ### Intents and events -/

structure DryRunOrderIntent where
  dryRunOrderId : String
  candidateId : String
  symbol : Option String
  tradingsymbol : Option String
  instrumentToken : Option String
  transactionType : Option String
  quantity : Option Int
  orderType : Option String
  product : Option String
  price : Option PyFloat
  triggerPrice : Option PyFloat
  strategy : Option String
  qualityScore : Option PyFloat
  approvalId : Option String
  operatorId : Option String
  createdAtEpoch : Option PyFloat
  source : String := "dry_run_execution_adapter"
  topExecutableSnapshot : PyDict
  executionSafetySnapshot : PyDict
  approvalSnapshot : PyDict
  readinessSnapshot : PyDict

structure DryRunLifecycleEvent where
  dryRunOrderId : String
  candidateId : String
  status : String := "DRY_RUN_INTENT_CREATED"
  tsEpoch : Option PyFloat
  source : String := "dry_run_execution_adapter"
  evidence : PyDict

structure DryRunExecutionResult where
  created : Bool
  intent : Option DryRunOrderIntent := none
  lifecycleEvent : Option DryRunLifecycleEvent := none
  outcomeEvent : Option PyDict := none
  blockers : List String := []
  warnings : List String := []

/-! ### The checks -/

def selectedChecks (selected : Option PyDict) : List (Bool × String) :=
  match selected with
  | none => [(true, "NO_TOP_EXECUTABLE_SELECTED")]
  | some candidate =>
      [(!(PyDict.get candidate "is_order").isFalse, "TOP_EXECUTABLE_ORDER_FLAG_UNSAFE")]

def executionSafetyChecks (executionSafety : Option PyDict) : List (Bool × String) :=
  match givenDict executionSafety with
  | none => [(true, "EXECUTION_SAFETY_REQUIRED")]
  | some safety =>
      [(!(PyDict.get safety "execution_permitted").isTrue, "EXECUTION_SAFETY_NOT_PERMITTED"),
        (!(PyDict.get safety "is_order_action").isFalse, "EXECUTION_SAFETY_ORDER_FLAG_UNSAFE")]

def approvalChecks (approval : Option PyDict) : List (Bool × String) :=
  match givenDict approval with
  | none => [(true, "APPROVAL_EVIDENCE_REQUIRED")]
  | some approval =>
      [(!(PyDict.get approval "current_status").isStr "APPROVED", "APPROVAL_NOT_APPROVED"),
        (!(PyDict.get approval "is_order_action").isFalse, "APPROVAL_ORDER_FLAG_UNSAFE")]

def candidateChecks (selected approval : Option PyDict) : List (Bool × String) :=
  let candidateId := fieldOf selected "candidate_id"
  let approvalCandidateId := fieldOf approval "candidate_id"
  [(candidateId.isNoneOrEmpty, "CANDIDATE_ID_REQUIRED"),
    (candidateId.truthy && approvalCandidateId.truthy &&
      printValue candidateId != printValue approvalCandidateId, "APPROVAL_CANDIDATE_MISMATCH")]

def snapshotUnsafe (latest : PyValue) : Bool :=
  match latest with
  | .dict event =>
      match PyDict.get event "safety_decision" with
      | .dict safety => !(PyDict.get safety "is_order_action").isFalse
      | _ => false
  | _ => true

/-- `approval.get("events") if isinstance(approval.get("events"), list) else []`. -/
def shownEvents (approval : Option PyDict) : List PyValue :=
  match fieldOf approval "events" with
  | .list events => events
  | _ => []

def snapshotBlockers (approval : Option PyDict) : List (Bool × String) :=
  match (shownEvents approval).getLast? with
  | none => []
  | some latest => [(snapshotUnsafe latest, "APPROVAL_SAFETY_SNAPSHOT_UNSAFE")]

def dryRunChecks (topExecutable executionSafety approval : Option PyDict) : List (Bool × String) :=
  let selected := topSelected topExecutable
  selectedChecks selected ++ (executionSafetyChecks executionSafety ++ (approvalChecks approval ++
    (candidateChecks selected approval ++ snapshotBlockers approval)))

/-- `validate_dry_run_execution`: the blockers and the warnings. -/
def validateDryRunExecution (topExecutable executionSafety approval : Option PyDict) :
    List String × List String :=
  (dedupe (messagesOf (dryRunChecks topExecutable executionSafety approval)),
    dedupe (messageIf (fieldOf (givenDict approval) "blockers").truthy "APPROVAL_HAS_BLOCKERS"))

/-! ### The intent -/

/-- `_stable_dry_run_order_id`. -/
def stableDryRunOrderId (digest : String → String) (candidateId : String)
    (approval : Option PyDict) (tsEpoch : Option PyFloat) : String :=
  let seed := String.intercalate "|"
    [candidateId, printValue ((fieldOf approval "approval_id").or (.str "")),
      printValue ((ofOptionFloat tsEpoch).or (.str ""))]
  "dryrun-" ++ String.ofList ((digest seed).toList.take 16)

def dryRunEvidence (orderId : String) (approvalId : Option String)
    (executionSafety : Option PyDict) : PyDict :=
  [("dry_run_order_id", .str orderId), ("dry_run_only", .bool true),
    ("broker_api_called", .bool false), ("real_order_id", .none),
    ("approval_id", ofOptionString approvalId),
    ("execution_safety_status", fieldOf executionSafety "status")]

/-- `_outcome_event`. -/
def dryRunOutcome (intent : DryRunOrderIntent) (executionSafety : Option PyDict)
    (tsEpoch : Option PyFloat) : PyDict :=
  [("candidate_id", .str intent.candidateId), ("status", .str "SUBMITTED"),
    ("source", .str "dry_run_execution_adapter"), ("reason", .str "DRY_RUN_INTENT_CREATED"),
    ("quality_score", ofOptionFloat intent.qualityScore), ("ts_epoch", ofOptionFloat tsEpoch),
    ("evidence", .dict (dryRunEvidence intent.dryRunOrderId intent.approvalId executionSafety)),
    ("is_order_action", .bool false), ("dry_run_only", .bool true),
    ("broker_api_called", .bool false), ("real_order_id", .none)]

/-- `build_dry_run_execution`. -/
def buildDryRunExecution (digest : String → String)
    (topExecutable executionSafety approval readiness : Option PyDict)
    (tsEpoch : Option PyFloat) : Except PyError DryRunExecutionResult :=
  let (blockers, warnings) := validateDryRunExecution topExecutable executionSafety approval
  if !blockers.isEmpty then .ok { created := false, blockers := blockers, warnings := warnings }
  else do
    let selected := (topSelected topExecutable).getD []
    let candidateId := printValue (PyDict.get selected "candidate_id")
    let orderId := stableDryRunOrderId digest candidateId approval tsEpoch
    let quantity ← intOrNone (firstOf selected ["quantity", "qty"])
    let approvalId := strOrNone (fieldOf approval "approval_id")
    let intent : DryRunOrderIntent :=
      { dryRunOrderId := orderId
        candidateId := candidateId
        symbol := strOrNone (firstOf selected ["symbol", "underlying"])
        tradingsymbol := strOrNone (firstOf selected ["tradingsymbol", "symbol"])
        instrumentToken := strOrNone (PyDict.get selected "instrument_token")
        transactionType := strOrNone (firstOf selected ["transaction_type", "side"])
        quantity := quantity
        orderType := strOrNone (PyDict.get selected "order_type")
        product := strOrNone (PyDict.get selected "product")
        price := floatOrNone (firstOf selected ["price", "entry", "entry_price"])
        triggerPrice := floatOrNone (firstOf selected ["trigger_price", "stop", "stop_loss"])
        strategy := strOrNone (firstOf selected ["strategy", "strategy_id", "setup_family"])
        qualityScore := floatOrNone (firstOf selected ["quality_score", "score"])
        approvalId := approvalId
        operatorId := strOrNone (fieldOf approval "operator_id")
        createdAtEpoch := tsEpoch
        topExecutableSnapshot := topExecutable.getD []
        executionSafetySnapshot := executionSafety.getD []
        approvalSnapshot := approval.getD []
        readinessSnapshot := readiness.getD [] }
    pure
      { created := true
        intent := some intent
        lifecycleEvent := some
          { dryRunOrderId := orderId
            candidateId := candidateId
            tsEpoch := tsEpoch
            evidence := dryRunEvidence orderId approvalId executionSafety }
        outcomeEvent := some (dryRunOutcome intent executionSafety tsEpoch)
        warnings := warnings }

/-! ### The route -/

/-- `_approval_audit_payload`: the summary of the recorded rows, as it is shown. -/
def approvalAuditPayload (records : List PyValue) (candidateId : PyValue)
    (nowEpoch : Option PyFloat) : PyDict :=
  (normalizeApprovalAudit records candidateId nowEpoch).toDict nowEpoch

def routeCandidateId (topExecutable : PyDict) : PyValue :=
  match PyDict.get topExecutable "selected" with
  | .dict selected => PyDict.get selected "candidate_id"
  | _ => .none

/-- The result of `build_dry_run_execution_payload`, with what its providers answer. -/
def dryRunRoute (digest : String → String) (records : List PyValue)
    (topExecutable executionSafety : PyDict) (readiness : Option PyDict)
    (nowEpoch : Option PyFloat) : Except PyError DryRunExecutionResult :=
  buildDryRunExecution digest (some topExecutable) (some executionSafety)
    (some (approvalAuditPayload records (routeCandidateId topExecutable) nowEpoch)) readiness
    nowEpoch

/-! ### When an intent is created -/

variable {digest : String → String}

theorem dryRunChecks_written :
    ∀ check ∈ dryRunChecks topExecutable executionSafety approval, check.2 ≠ "" := by
  intro check member
  unfold dryRunChecks at member
  simp only [List.mem_append] at member
  rcases member with first | second | third | fourth | fifth
  · unfold selectedChecks at first
    split at first <;> simp_all
  · unfold executionSafetyChecks at second
    split at second <;> simp_all
    rcases second with rfl | rfl <;> simp
  · unfold approvalChecks at third
    split at third <;> simp_all
    rcases third with rfl | rfl <;> simp
  · unfold candidateChecks at fourth
    simp only [List.mem_cons, List.not_mem_nil, or_false] at fourth
    rcases fourth with rfl | rfl <;> simp
  · unfold snapshotBlockers at fifth
    split at fifth <;> simp_all

theorem checks_of_created {readiness : Option PyDict} {tsEpoch : Option PyFloat}
    {result : DryRunExecutionResult}
    (ran : buildDryRunExecution digest topExecutable executionSafety approval readiness tsEpoch =
      .ok result) (created : result.created = true) :
    ∀ check ∈ dryRunChecks topExecutable executionSafety approval, check.1 = false := by
  unfold buildDryRunExecution validateDryRunExecution at ran
  dsimp only at ran
  split at ran
  · rw [← Except.ok.inj ran] at created
    cases created
  · next clear =>
      have none : dedupe (messagesOf (dryRunChecks topExecutable executionSafety approval)) = [] := by
        simpa using clear
      rw [dedupe_eq_nil_of_written (messagesOf_written dryRunChecks_written)] at none
      exact (messagesOf_eq_nil_iff _).mp none

theorem created_of_checks {quantity : Option Int}
    (clear : ∀ check ∈ dryRunChecks topExecutable executionSafety approval, check.1 = false)
    (number : intOrNone (firstOf ((topSelected topExecutable).getD []) ["quantity", "qty"]) =
      .ok quantity) (digest : String → String) (readiness : Option PyDict)
    (tsEpoch : Option PyFloat) :
    ∃ result, buildDryRunExecution digest topExecutable executionSafety approval readiness tsEpoch =
      .ok result ∧ result.created = true := by
  have none : dedupe (messagesOf (dryRunChecks topExecutable executionSafety approval)) = [] := by
    rw [dedupe_eq_nil_of_written (messagesOf_written dryRunChecks_written)]
    exact (messagesOf_eq_nil_iff _).mpr clear
  unfold buildDryRunExecution validateDryRunExecution
  simp only [none, List.isEmpty_nil, Bool.not_true, Bool.false_eq_true, if_false, number]
  exact ⟨_, rfl, rfl⟩

/-! ### What the summary shows -/

theorem value_eq_approved_iff (status : ApprovalStatus) :
    status.value = "APPROVED" ↔ status = .approved := by
  cases status <;> decide

theorem statusAt_eq_approved_iff (event : ApprovalAuditEvent) (nowEpoch : Option PyFloat) :
    event.statusAt nowEpoch = .approved ↔
      event.status = .approved ∧ event.isExpired nowEpoch = false := by
  unfold ApprovalAuditEvent.statusAt
  split
  · next expired => simp [expired.2]
  · next other =>
      rw [not_and, Bool.not_eq_true] at other
      exact ⟨fun approved => ⟨approved, other approved⟩, And.left⟩

def candidateEvents (records : List PyValue) (candidate : String) : List ApprovalAuditEvent :=
  (eventsOf records).filter fun event => event.candidateId = candidate

theorem ofCandidate_eq {candidate : String} (named : candidate ≠ "") (records : List PyValue) :
    ofCandidate (.str candidate) (eventsOf records) = candidateEvents records candidate := by
  have truthy : (PyValue.str candidate).truthy = true := by
    unfold PyValue.truthy
    simpa using named
  unfold ofCandidate candidateEvents
  rw [if_pos truthy]
  apply List.filter_congr
  intro event _
  unfold PyValue.isStr
  simp [eq_comm]

section Summary

variable {records : List PyValue} {candidate : String} {nowEpoch : Option PyFloat}

theorem timesInOrder_candidate (inOrder : TimesInOrder (eventsOf records)) (candidate : String) :
    TimesInOrder (candidateEvents records candidate) :=
  List.Pairwise.filter _ inOrder

theorem getLast?_events (named : candidate ≠ "") (inOrder : TimesInOrder (eventsOf records))
    (nowEpoch : Option PyFloat) :
    (normalizeApprovalAudit records (.str candidate) nowEpoch).events.getLast? =
      counted? (candidateEvents records candidate) := by
  rw [events_normalize, ofCandidate_eq named,
    getLast?_sorted (timesInOrder_candidate inOrder candidate)]

theorem shownEvents_toDict (summary : ApprovalAuditSummary) :
    shownEvents (some (summary.toDict nowEpoch)) =
      summary.events.map fun event => .dict (event.toDict nowEpoch) := rfl

theorem currentStatus_toDict {summary : ApprovalAuditSummary} {latest : ApprovalAuditEvent}
    (last : summary.events.getLast? = some latest) (nowEpoch : Option PyFloat) :
    PyDict.get (summary.toDict nowEpoch) "current_status" =
      .str (latest.statusAt nowEpoch).value := by
  unfold ApprovalAuditSummary.toDict
  simp only [last]
  rfl

theorem snapshotUnsafe_toDict (event : ApprovalAuditEvent) :
    snapshotUnsafe (.dict (event.toDict nowEpoch)) =
      !(PyDict.get event.safetyDecision "is_order_action").isFalse := rfl

/-- An event that the adapter takes for an approval: approved, not expired at the time that
the caller tells, with a snapshot that is no order action. -/
def Usable (nowEpoch : Option PyFloat) (event : ApprovalAuditEvent) : Prop :=
  event.status = .approved ∧ event.isExpired nowEpoch = false ∧
    (PyDict.get event.safetyDecision "is_order_action").isFalse = true

theorem currentStatus_of_none (empty : counted? (candidateEvents records candidate) = none)
    (named : candidate ≠ "") (inOrder : TimesInOrder (eventsOf records)) :
    PyDict.get (approvalAuditPayload records (.str candidate) nowEpoch) "current_status" =
      .str "UNKNOWN" := by
  have last := getLast?_events named inOrder nowEpoch
  rw [empty] at last
  have none : ((ofCandidate (.str candidate) (eventsOf records)).insertionSort NotAfter).getLast? =
      none := by
    rw [← events_normalize records (.str candidate) nowEpoch]
    exact last
  have status : (normalizeApprovalAudit records (.str candidate) nowEpoch).currentStatus =
      .unknown := by
    unfold normalizeApprovalAudit
    simp only [none]
  unfold approvalAuditPayload ApprovalAuditSummary.toDict
  simp only [last, status]
  rfl

theorem usable_of_checks {topExecutable : PyDict} (named : candidate ≠ "")
    (inOrder : TimesInOrder (eventsOf records))
    (clear : ∀ check ∈ dryRunChecks (some topExecutable) executionSafety
      (some (approvalAuditPayload records (.str candidate) nowEpoch)), check.1 = false) :
    ∃ event, counted? (candidateEvents records candidate) = some event ∧ Usable nowEpoch event := by
  have given : givenDict (some (approvalAuditPayload records (.str candidate) nowEpoch)) =
      some (approvalAuditPayload records (.str candidate) nowEpoch) := rfl
  have approved : (PyDict.get (approvalAuditPayload records (.str candidate) nowEpoch)
      "current_status").isStr "APPROVED" = true := by
    have check := clear (_, "APPROVAL_NOT_APPROVED") (by
      unfold dryRunChecks approvalChecks
      simp only [given]
      exact List.mem_append_right _ (List.mem_append_right _ (List.mem_append_left _
        List.mem_cons_self)))
    simpa using check
  cases counts : counted? (candidateEvents records candidate) with
  | none =>
      rw [currentStatus_of_none counts named inOrder] at approved
      cases approved
  | some event =>
      have last := (getLast?_events named inOrder nowEpoch).trans counts
      refine ⟨event, rfl, ?_⟩
      have shown := currentStatus_toDict last nowEpoch
      unfold approvalAuditPayload at approved
      rw [shown, PyValue.isStr_eq_true, PyValue.str.injEq, value_eq_approved_iff,
        statusAt_eq_approved_iff] at approved
      have check := clear (snapshotUnsafe (.dict (event.toDict nowEpoch)),
          "APPROVAL_SAFETY_SNAPSHOT_UNSAFE") (by
        unfold dryRunChecks snapshotBlockers
        have latest : (shownEvents (some (approvalAuditPayload records (.str candidate)
            nowEpoch))).getLast? = some (.dict (event.toDict nowEpoch)) := by
          unfold approvalAuditPayload
          rw [shownEvents_toDict, List.getLast?_map, last]
          rfl
        simp only [latest]
        exact List.mem_append_right _ (List.mem_append_right _ (List.mem_append_right _
          (List.mem_append_right _ List.mem_cons_self))))
      rw [snapshotUnsafe_toDict] at check
      exact ⟨approved.1, approved.2, by simpa using check⟩

def selectingTop (candidate : String) : PyDict :=
  [("status", .str "SELECTED"),
    ("selected", .dict [("candidate_id", .str candidate), ("is_order", .bool false)])]

def permittingSafety : PyDict :=
  [("execution_permitted", .bool true), ("is_order_action", .bool false)]

theorem candidateId_normalize (named : candidate ≠ "") :
    PyDict.get (approvalAuditPayload records (.str candidate) nowEpoch) "candidate_id" =
      .str candidate := by
  have truthy : (PyValue.str candidate).truthy = true := by
    unfold PyValue.truthy
    simpa using named
  have resolved : (normalizeApprovalAudit records (.str candidate) nowEpoch).candidateId =
      .str candidate := by
    unfold normalizeApprovalAudit
    dsimp only
    split <;> simp only [PyValue.or, truthy, if_true]
  change (normalizeApprovalAudit records (.str candidate) nowEpoch).candidateId = _
  exact resolved

theorem checks_of_usable {event : ApprovalAuditEvent} (named : candidate ≠ "")
    (inOrder : TimesInOrder (eventsOf records))
    (counts : counted? (candidateEvents records candidate) = some event)
    (usable : Usable nowEpoch event) :
    ∀ check ∈ dryRunChecks (some (selectingTop candidate)) (some permittingSafety)
      (some (approvalAuditPayload records (.str candidate) nowEpoch)), check.1 = false := by
  have last := (getLast?_events named inOrder nowEpoch).trans counts
  have given : givenDict (some (approvalAuditPayload records (.str candidate) nowEpoch)) =
      some (approvalAuditPayload records (.str candidate) nowEpoch) := rfl
  have selected : topSelected (some (selectingTop candidate)) =
      some [("candidate_id", .str candidate), ("is_order", .bool false)] := rfl
  have status : PyDict.get (approvalAuditPayload records (.str candidate) nowEpoch)
      "current_status" = .str "APPROVED" := by
    unfold approvalAuditPayload
    rw [currentStatus_toDict last,
      (value_eq_approved_iff _).mpr ((statusAt_eq_approved_iff _ _).mpr ⟨usable.1, usable.2.1⟩)]
  have latest : (shownEvents (some (approvalAuditPayload records (.str candidate)
      nowEpoch))).getLast? = some (.dict (event.toDict nowEpoch)) := by
    unfold approvalAuditPayload
    rw [shownEvents_toDict, List.getLast?_map, last]
    rfl
  intro check member
  unfold dryRunChecks at member
  simp only [selected, List.mem_append] at member
  rcases member with first | second | third | fourth | fifth
  · unfold selectedChecks at first
    rw [List.mem_singleton.mp first]
    rfl
  · have listed : executionSafetyChecks (some permittingSafety) =
        [(false, "EXECUTION_SAFETY_NOT_PERMITTED"), (false, "EXECUTION_SAFETY_ORDER_FLAG_UNSAFE")] :=
      rfl
    rw [listed] at second
    simp only [List.mem_cons, List.not_mem_nil, or_false] at second
    rcases second with rfl | rfl <;> rfl
  · unfold approvalChecks at third
    simp only [given, status, List.mem_cons, List.not_mem_nil, or_false] at third
    rcases third with rfl | rfl
    · rfl
    · rfl
  · unfold candidateChecks at fourth
    simp only [List.mem_cons, List.not_mem_nil, or_false] at fourth
    rcases fourth with rfl | rfl
    · change (PyValue.str candidate).isNoneOrEmpty = false
      rw [Bool.eq_false_iff, ne_eq, PyValue.isNoneOrEmpty_eq_true]
      simp [named]
    · have same : fieldOf (some (approvalAuditPayload records (.str candidate) nowEpoch))
          "candidate_id" = .str candidate := candidateId_normalize named
      have own : fieldOf (some [("candidate_id", .str candidate), ("is_order", .bool false)])
          "candidate_id" = .str candidate := rfl
      simp only [same, own, bne_self_eq_false, Bool.and_false]
  · unfold snapshotBlockers at fifth
    simp only [latest, List.mem_singleton] at fifth
    rw [fifth]
    change snapshotUnsafe (.dict (event.toDict nowEpoch)) = false
    rw [snapshotUnsafe_toDict, usable.2.2]
    rfl

end Summary

/-! ### Live approvals -/

def clock (told : Bool) (moment : ℚ) : Option PyFloat :=
  if told then some (.finite moment) else none

def LastIsLive (records : List PyValue) (candidate : String) (moment : ℚ) : Prop :=
  ∃ last, (candidateEvents records candidate).getLast? = some last ∧ last.status = .approved ∧
    last.isExpired (some (.finite moment)) = false

def NeedsLiveApproval (digest : String → String) (records : List PyValue) (candidate : String)
    (moment : ℚ) (told : Bool) : Prop :=
  ∀ topExecutable executionSafety readiness result,
    routeCandidateId topExecutable = .str candidate →
    dryRunRoute digest records topExecutable executionSafety readiness (clock told moment) =
      .ok result →
    result.created = true → LastIsLive records candidate moment

section Live

variable {digest : String → String} {records : List PyValue} {candidate : String} {moment : ℚ}
  {told : Bool}

theorem live_of_needs (inOrder : TimesInOrder (eventsOf records)) (named : candidate ≠ "")
    (needs : NeedsLiveApproval digest records candidate moment told) {event : ApprovalAuditEvent}
    (counts : counted? (candidateEvents records candidate) = some event)
    (usable : Usable (clock told moment) event) : LastIsLive records candidate moment := by
  have number : intOrNone (firstOf ((topSelected (some (selectingTop candidate))).getD [])
      ["quantity", "qty"]) = .ok none := rfl
  obtain ⟨result, ran, created⟩ := created_of_checks
    (checks_of_usable named inOrder counts usable) number digest none (clock told moment)
  exact needs (selectingTop candidate) permittingSafety none result rfl ran created

end Live

/-- A dry-run order needs a live approval exactly where the row that counts is not usable, or
the last row is live: the row that counts is the last one without a time, if there is one, and
expiry is asked only at a time that is told. -/
theorem dry_run_needs_live_approval_iff (digest : String → String) {records : List PyValue}
    (inOrder : TimesInOrder (eventsOf records)) {candidate : String} (named : candidate ≠ "")
    (moment : ℚ) (told : Bool) :
    NeedsLiveApproval digest records candidate moment told ↔
      ∀ event, counted? (candidateEvents records candidate) = some event →
        Usable (clock told moment) event → LastIsLive records candidate moment := by
  constructor
  · intro needs event counts usable
    exact live_of_needs inOrder named needs counts usable
  · intro live topExecutable executionSafety readiness result selects ran created
    unfold dryRunRoute at ran
    rw [selects] at ran
    obtain ⟨event, counts, usable⟩ :=
      usable_of_checks named inOrder (checks_of_created ran created)
    exact live event counts usable

def approvalRow (fields : PyDict) : PyDict :=
  [("candidate_id", .str "c1"), ("operator_id", .str "op1"),
    ("reason", .str "manual risk review"),
    ("safety_decision", .dict [("is_order_action", .bool false)])] ++ fields

def lapsedRow : PyDict :=
  approvalRow [("status", .str "APPROVED"), ("ts_epoch", .int 100), ("expires_at_epoch", .int 200)]

def untimedRow : PyDict :=
  approvalRow [("status", .str "APPROVED")]

def revokingRow : PyDict :=
  approvalRow [("status", .str "REVOKED"), ("ts_epoch", .int 100)]

theorem lapsed_inOrder : TimesInOrder (eventsOf [.dict lapsedRow]) :=
  List.pairwise_singleton _ _

theorem revoked_inOrder : TimesInOrder (eventsOf [.dict untimedRow, .dict revokingRow]) := by
  refine List.pairwise_pair.mpr fun earlier later timed _ => ?_
  have untimed : (none : Option PyFloat) = some earlier := timed
  cases untimed

theorem dry_run_needs_live_approval_iff_lapsed :
    NeedsLiveApproval (fun _ => "") [.dict lapsedRow] "c1" 300 false ↔
      ∀ event, counted? (candidateEvents [.dict lapsedRow] "c1") = some event →
        Usable (clock false 300) event → LastIsLive [.dict lapsedRow] "c1" 300 :=
  dry_run_needs_live_approval_iff _ lapsed_inOrder (by decide) 300 false

theorem lapsed_usable : Usable (clock false 300) (eventFromRecord lapsedRow) := by
  unfold Usable
  decide

theorem untimed_usable : Usable (clock true 300) (eventFromRecord untimedRow) := by
  unfold Usable
  decide

/-- A caller who does not tell the time is given an intent on an expired approval, and an
approval without a time outlives its revocation. -/
theorem lapsed_and_revoked_approvals_used :
    ¬NeedsLiveApproval (fun _ => "") [.dict lapsedRow] "c1" 300 false ∧
      ¬NeedsLiveApproval (fun _ => "") [.dict untimedRow, .dict revokingRow] "c1" 300 true := by
  have named : "c1" ≠ "" := by decide
  constructor
  · intro needs
    have counts : counted? (candidateEvents [.dict lapsedRow] "c1") =
        some (eventFromRecord lapsedRow) := rfl
    obtain ⟨last, found, _, fresh⟩ := live_of_needs lapsed_inOrder named needs counts lapsed_usable
    have same : eventFromRecord lapsedRow = last := Option.some.inj found
    have expired : (eventFromRecord lapsedRow).isExpired (some (.finite 300)) = true := by
      decide
    rw [same, fresh] at expired
    cases expired
  · intro needs
    have counts : counted? (candidateEvents [.dict untimedRow, .dict revokingRow] "c1") =
        some (eventFromRecord untimedRow) := rfl
    obtain ⟨last, found, approved, _⟩ :=
      live_of_needs revoked_inOrder named needs counts untimed_usable
    have same : eventFromRecord revokingRow = last := Option.some.inj found
    have revoked : (eventFromRecord revokingRow).status = .revoked := by decide
    rw [same, approved] at revoked
    cases revoked

end Algotradify.Approvals
