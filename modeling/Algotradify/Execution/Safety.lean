/-
The execution safety contract: which kind of order surface a mode opens, and whether a
policy and its evidence permit execution.

The decision takes its permission from all the checks, and the flags of its surfaces from
the mode contract alone.
-/

import Algotradify.Dedup.Firsts
import Algotradify.Py.Convert

namespace Algotradify.Execution.Safety

open Py Dedup

/-! ### The mode contract -/

inductive ExecutionMode where
  | sim
  | paper
  | live
deriving DecidableEq

def ExecutionMode.value : ExecutionMode → String
  | .sim => "SIM"
  | .paper => "PAPER"
  | .live => "LIVE"

structure ExecutionModeContract where
  mode : ExecutionMode := .sim
  liveBrokerReady : Bool := false
  liveRiskReady : Bool := false
  liveKillSwitchReady : Bool := false
  realBrokerOrderAdapterEnabled : Bool := false

def ExecutionModeContract.toDict (contract : ExecutionModeContract) : PyDict :=
  [("mode", .str contract.mode.value), ("live_broker_ready", .bool contract.liveBrokerReady),
    ("live_risk_ready", .bool contract.liveRiskReady),
    ("live_kill_switch_ready", .bool contract.liveKillSwitchReady),
    ("real_broker_order_adapter_enabled", .bool contract.realBrokerOrderAdapterEnabled)]

structure ExecutionModeDecision where
  mode : ExecutionMode
  status : String
  blockers : List String := []
  warnings : List String := []
  simulatedOrderAllowed : Bool := false
  paperOrderAllowed : Bool := false
  brokerApiAllowed : Bool := false
  realOrderAllowed : Bool := false

def ExecutionModeDecision.toDict (decision : ExecutionModeDecision) : PyDict :=
  [("mode", .str decision.mode.value), ("status", .str decision.status),
    ("blockers", ofStrings decision.blockers), ("warnings", ofStrings decision.warnings),
    ("simulated_order_allowed", .bool decision.simulatedOrderAllowed),
    ("paper_order_allowed", .bool decision.paperOrderAllowed),
    ("broker_api_allowed", .bool decision.brokerApiAllowed),
    ("real_order_allowed", .bool decision.realOrderAllowed), ("is_order_action", .bool false)]

def liveBlockers (contract : ExecutionModeContract) : List String :=
  (if contract.realBrokerOrderAdapterEnabled then [] else ["LIVE_REAL_BROKER_ADAPTER_NOT_ENABLED"]) ++
    ((if contract.liveBrokerReady then [] else ["LIVE_BROKER_READINESS_REQUIRED"]) ++
      ((if contract.liveRiskReady then [] else ["LIVE_RISK_READINESS_REQUIRED"]) ++
        (if contract.liveKillSwitchReady then [] else ["LIVE_KILL_SWITCH_READINESS_REQUIRED"])))

/-- `evaluate_execution_mode_contract`. -/
def evaluateExecutionModeContract (contract : ExecutionModeContract) : ExecutionModeDecision :=
  let blockers :=
    match contract.mode with
    | .sim => []
    | .paper => []
    | .live => liveBlockers contract
  let warnings :=
    match contract.mode with
    | .sim => ["SIM_MODE_NO_BROKER_ORDERS"]
    | .paper => ["PAPER_MODE_NO_REAL_BROKER_PLACEMENT"]
    | .live => ["LIVE_MODE_REQUIRES_STRICT_APPROVAL"]
  let liveAllowed := contract.mode = .live && blockers.isEmpty
  let deduped := dedupe blockers
  { mode := contract.mode
    status := if deduped.isEmpty then "PERMITTED" else "BLOCKED"
    blockers := deduped
    warnings := dedupe warnings
    simulatedOrderAllowed := contract.mode = .sim
    paperOrderAllowed := contract.mode = .paper
    brokerApiAllowed := liveAllowed
    realOrderAllowed := liveAllowed }

/-! ### The policy and its evidence -/

structure ExecutionSafetyPolicy where
  mode : ExecutionMode := .sim
  manualApprovalRequired : Bool := true
  killSwitchEnabled : Bool := false
  brokerConfirmationRequired : Bool := true
  dryRunRequired : Bool := true
  maxDailyLoss : PyFloat := .finite 0
  currentDailyLoss : PyFloat := .finite 0
  maxOrdersPerDay : Int := 0
  ordersToday : Int := 0
  maxQuantity : Int := 0
  requestedQuantity : Int := 0
  approvalId : Option String := none
  operatorId : Option String := none
  brokerConfirmationId : Option String := none
  warningsAcknowledged : Bool := false
  liveBrokerReady : Bool := false
  liveRiskReady : Bool := false
  liveKillSwitchReady : Bool := false
  realBrokerOrderAdapterEnabled : Bool := false

def ExecutionSafetyPolicy.executionModeContract (policy : ExecutionSafetyPolicy) :
    ExecutionModeContract :=
  { mode := policy.mode
    liveBrokerReady := policy.liveBrokerReady
    liveRiskReady := policy.liveRiskReady
    liveKillSwitchReady := policy.liveKillSwitchReady
    realBrokerOrderAdapterEnabled := policy.realBrokerOrderAdapterEnabled }

def ExecutionSafetyPolicy.toDict (policy : ExecutionSafetyPolicy) : PyDict :=
  [("mode", .str policy.mode.value),
    ("manual_approval_required", .bool policy.manualApprovalRequired),
    ("kill_switch_enabled", .bool policy.killSwitchEnabled),
    ("broker_confirmation_required", .bool policy.brokerConfirmationRequired),
    ("dry_run_required", .bool policy.dryRunRequired),
    ("max_daily_loss", .float policy.maxDailyLoss),
    ("current_daily_loss", .float policy.currentDailyLoss),
    ("max_orders_per_day", .int policy.maxOrdersPerDay),
    ("orders_today", .int policy.ordersToday),
    ("max_quantity", .int policy.maxQuantity),
    ("requested_quantity", .int policy.requestedQuantity),
    ("approval_id", ofOptionString policy.approvalId),
    ("operator_id", ofOptionString policy.operatorId),
    ("broker_confirmation_id", ofOptionString policy.brokerConfirmationId),
    ("warnings_acknowledged", .bool policy.warningsAcknowledged),
    ("live_broker_ready", .bool policy.liveBrokerReady),
    ("live_risk_ready", .bool policy.liveRiskReady),
    ("live_kill_switch_ready", .bool policy.liveKillSwitchReady),
    ("real_broker_order_adapter_enabled", .bool policy.realBrokerOrderAdapterEnabled)]

structure ExecutionSafetyDecision where
  executionPermitted : Bool
  mode : ExecutionMode
  status : String
  blockers : List String
  warnings : List String
  audit : PyDict
  simulatedOrderAllowed : Bool
  paperOrderAllowed : Bool
  brokerApiAllowed : Bool
  realOrderAllowed : Bool

def isGiven (text : Option String) : Bool :=
  text.any fun text => text ≠ ""

/-- `top_executable.get("selected")`. -/
def selectedOf (topExecutable : Option PyDict) : PyValue :=
  match topExecutable with
  | none => .none
  | some top => PyDict.get top "selected"

def noneSelected (topExecutable : Option PyDict) : Bool :=
  match topExecutable with
  | none => true
  | some top =>
      !(PyDict.get top "status").isStr "SELECTED" || !(PyDict.get top "selected").truthy

/-- `isinstance(selected, dict) and selected.get("is_order") is not False`. -/
def orderFlagUnsafe (topExecutable : Option PyDict) : Bool :=
  match selectedOf topExecutable with
  | .dict selected => !(PyDict.get selected "is_order").isFalse
  | _ => false

def notReady (executionReadiness : Option PyDict) : Bool :=
  match executionReadiness with
  | none => false
  | some readiness => !(PyDict.get readiness "execution_allowed").truthy

def safetyChecks (policy : ExecutionSafetyPolicy) (topExecutable executionReadiness : Option PyDict) :
    List (Bool × String) :=
  [(policy.killSwitchEnabled, "KILL_SWITCH_ENABLED"),
    (policy.dryRunRequired, "DRY_RUN_REQUIRED"),
    (policy.manualApprovalRequired && !isGiven policy.approvalId, "MANUAL_APPROVAL_REQUIRED"),
    (policy.manualApprovalRequired && !isGiven policy.operatorId, "OPERATOR_ID_REQUIRED"),
    (policy.brokerConfirmationRequired && !isGiven policy.brokerConfirmationId,
      "BROKER_CONFIRMATION_REQUIRED"),
    ((PyFloat.finite 0).lt policy.maxDailyLoss && policy.maxDailyLoss.le policy.currentDailyLoss,
      "MAX_DAILY_LOSS_REACHED"),
    (decide (0 < policy.maxOrdersPerDay ∧ policy.maxOrdersPerDay ≤ policy.ordersToday),
      "MAX_ORDERS_PER_DAY_REACHED"),
    (decide (0 < policy.maxQuantity ∧ policy.maxQuantity < policy.requestedQuantity),
      "MAX_QUANTITY_EXCEEDED"),
    (noneSelected topExecutable, "NO_TOP_EXECUTABLE_SELECTED"),
    (orderFlagUnsafe topExecutable, "TOP_EXECUTABLE_ORDER_FLAG_UNSAFE"),
    (notReady executionReadiness, "EXECUTION_READINESS_NOT_ALLOWED")]

/-- `_candidate_id`. -/
def topCandidateId (topExecutable : Option PyDict) : PyValue :=
  match selectedOf topExecutable with
  | .dict selected => PyDict.get selected "candidate_id"
  | _ => .none

/-- `evaluate_execution_safety`. -/
def evaluateExecutionSafety (policy : ExecutionSafetyPolicy)
    (topExecutable executionReadiness : Option PyDict) : ExecutionSafetyDecision :=
  let modeDecision := evaluateExecutionModeContract policy.executionModeContract
  let blockers := dedupe
    (modeDecision.blockers ++ messagesOf (safetyChecks policy topExecutable executionReadiness))
  let warnings := dedupe
    (modeDecision.warnings ++
      (if policy.warningsAcknowledged then [] else ["WARNINGS_NOT_ACKNOWLEDGED"]))
  let permitted := blockers.isEmpty
  { executionPermitted := permitted
    mode := policy.mode
    status := if permitted then "PERMITTED" else "BLOCKED"
    blockers := blockers
    warnings := warnings
    audit :=
      [("policy", .dict policy.toDict),
        ("execution_mode_contract", .dict policy.executionModeContract.toDict),
        ("execution_mode_decision", .dict modeDecision.toDict),
        ("top_executable_candidate_id", topCandidateId topExecutable),
        ("execution_readiness_candidate_id",
          match executionReadiness with
          | none => .none
          | some readiness => PyDict.get readiness "candidate_id"),
        ("safety_contract_version", .str "v2_execution_mode_contract")]
    simulatedOrderAllowed := modeDecision.simulatedOrderAllowed
    paperOrderAllowed := modeDecision.paperOrderAllowed
    brokerApiAllowed := modeDecision.brokerApiAllowed
    realOrderAllowed := modeDecision.realOrderAllowed }

/-! ### What is permitted -/

variable {policy : ExecutionSafetyPolicy} {topExecutable executionReadiness : Option PyDict}

def LiveReady (policy : ExecutionSafetyPolicy) : Prop :=
  policy.realBrokerOrderAdapterEnabled = true ∧ policy.liveBrokerReady = true ∧
    policy.liveRiskReady = true ∧ policy.liveKillSwitchReady = true

instance : Decidable (LiveReady policy) := by
  unfold LiveReady
  infer_instance

/-- Nothing stands against the execution: every check of the policy and of the evidence
holds, and a live mode is ready. -/
structure Clear (policy : ExecutionSafetyPolicy)
    (topExecutable executionReadiness : Option PyDict) : Prop where
  killSwitchOff : policy.killSwitchEnabled = false
  dryRunNotRequired : policy.dryRunRequired = false
  approved : policy.manualApprovalRequired = true → isGiven policy.approvalId = true
  operated : policy.manualApprovalRequired = true → isGiven policy.operatorId = true
  brokerConfirmed :
    policy.brokerConfirmationRequired = true → isGiven policy.brokerConfirmationId = true
  lossBelowLimit :
    (PyFloat.finite 0).lt policy.maxDailyLoss = true →
      policy.maxDailyLoss.le policy.currentDailyLoss = false
  ordersBelowLimit : 0 < policy.maxOrdersPerDay → policy.ordersToday < policy.maxOrdersPerDay
  quantityWithinLimit : 0 < policy.maxQuantity → policy.requestedQuantity ≤ policy.maxQuantity
  topSelected : noneSelected topExecutable = false
  orderFlagSafe : orderFlagUnsafe topExecutable = false
  ready : notReady executionReadiness = false
  liveReady : policy.mode = .live → LiveReady policy

theorem liveBlockers_eq_nil_iff (policy : ExecutionSafetyPolicy) :
    liveBlockers policy.executionModeContract = [] ↔ LiveReady policy := by
  unfold liveBlockers LiveReady ExecutionSafetyPolicy.executionModeContract
  simp only [List.append_eq_nil_iff, ite_eq_left_iff, List.cons_ne_nil, imp_false,
    Bool.not_eq_true, Bool.not_eq_false]

theorem liveBlockers_written (contract : ExecutionModeContract) :
    ∀ blocker ∈ liveBlockers contract, blocker ≠ "" := by
  intro blocker member
  unfold liveBlockers at member
  simp only [List.mem_append, List.mem_ite_nil_left, List.mem_singleton] at member
  rcases member with ⟨_, rfl⟩ | ⟨_, rfl⟩ | ⟨_, rfl⟩ | ⟨_, rfl⟩ <;> decide

theorem safetyChecks_written :
    ∀ check ∈ safetyChecks policy topExecutable executionReadiness, check.2 ≠ "" := by
  unfold safetyChecks
  simp

theorem modeBlockers_eq (contract : ExecutionModeContract) :
    (evaluateExecutionModeContract contract).blockers =
      if contract.mode = .live then dedupe (liveBlockers contract) else [] := by
  unfold evaluateExecutionModeContract
  cases mode : contract.mode <;> rfl

theorem modeBlockers_eq_nil_iff (policy : ExecutionSafetyPolicy) :
    (evaluateExecutionModeContract policy.executionModeContract).blockers = [] ↔
      (policy.mode = .live → LiveReady policy) := by
  rw [modeBlockers_eq]
  change (if policy.mode = .live then _ else _) = _ ↔ _
  by_cases live : policy.mode = .live
  · rw [if_pos live, dedupe_eq_nil_of_written (liveBlockers_written _), liveBlockers_eq_nil_iff]
    exact ⟨fun ready _ => ready, fun ready => ready live⟩
  · rw [if_neg live]
    exact ⟨fun _ isLive => absurd isLive live, fun _ => rfl⟩

theorem modeBlockers_written (contract : ExecutionModeContract) :
    ∀ blocker ∈ (evaluateExecutionModeContract contract).blockers, blocker ≠ "" := by
  intro blocker member
  rw [modeBlockers_eq] at member
  split at member
  · exact (mem_dedupe.mp member).2
  · exact absurd member List.not_mem_nil

theorem safetyChecks_pass_iff :
    (∀ check ∈ safetyChecks policy topExecutable executionReadiness, check.1 = false) ↔
      (policy.killSwitchEnabled = false ∧ policy.dryRunRequired = false ∧
        (policy.manualApprovalRequired = true → isGiven policy.approvalId = true) ∧
        (policy.manualApprovalRequired = true → isGiven policy.operatorId = true) ∧
        (policy.brokerConfirmationRequired = true → isGiven policy.brokerConfirmationId = true) ∧
        ((PyFloat.finite 0).lt policy.maxDailyLoss = true →
          policy.maxDailyLoss.le policy.currentDailyLoss = false) ∧
        (0 < policy.maxOrdersPerDay → policy.ordersToday < policy.maxOrdersPerDay) ∧
        (0 < policy.maxQuantity → policy.requestedQuantity ≤ policy.maxQuantity) ∧
        noneSelected topExecutable = false ∧ orderFlagUnsafe topExecutable = false ∧
        notReady executionReadiness = false) := by
  unfold safetyChecks
  simp only [List.forall_mem_cons, List.not_mem_nil, false_imp_iff, forall_const, and_true,
    Bool.and_eq_false_imp, Bool.not_eq_false', decide_eq_false_iff_not, not_and, not_le, not_lt]

theorem executionPermitted_iff :
    (evaluateExecutionSafety policy topExecutable executionReadiness).executionPermitted = true ↔
      Clear policy topExecutable executionReadiness := by
  have written : ∀ blocker ∈ (evaluateExecutionModeContract policy.executionModeContract).blockers ++
      messagesOf (safetyChecks policy topExecutable executionReadiness), blocker ≠ "" := by
    intro blocker member
    rcases List.mem_append.mp member with ofMode | ofChecks
    · exact modeBlockers_written _ blocker ofMode
    · exact messagesOf_written safetyChecks_written blocker ofChecks
  unfold evaluateExecutionSafety
  change List.isEmpty _ = true ↔ _
  rw [List.isEmpty_iff, dedupe_eq_nil_of_written written, List.append_eq_nil_iff,
    modeBlockers_eq_nil_iff, messagesOf_eq_nil_iff, safetyChecks_pass_iff]
  constructor
  · rintro ⟨live, kill, dry, approved, operated, broker, loss, orders, quantity, top, flag, ready⟩
    exact ⟨kill, dry, approved, operated, broker, loss, orders, quantity, top, flag, ready, live⟩
  · intro clear
    exact ⟨clear.liveReady, clear.killSwitchOff, clear.dryRunNotRequired, clear.approved,
      clear.operated, clear.brokerConfirmed, clear.lossBelowLimit, clear.ordersBelowLimit,
      clear.quantityWithinLimit, clear.topSelected, clear.orderFlagSafe, clear.ready⟩

/-! ### The surfaces -/

def ExecutionSafetyDecision.surfaces (decision : ExecutionSafetyDecision) :
    Bool × Bool × Bool × Bool :=
  (decision.simulatedOrderAllowed, decision.paperOrderAllowed, decision.brokerApiAllowed,
    decision.realOrderAllowed)

def noSurface : Bool × Bool × Bool × Bool :=
  (false, false, false, false)

/-- The surface of a mode, alone: a live mode has the broker's interface and real orders. -/
def surfaceOf : ExecutionMode → Bool × Bool × Bool × Bool
  | .sim => (true, false, false, false)
  | .paper => (false, true, false, false)
  | .live => (false, false, true, true)

theorem surfaceOf_ne_noSurface (mode : ExecutionMode) : surfaceOf mode ≠ noSurface := by
  cases mode <;> decide

/-- A decision is sealed off if what it blocks has no surface and what it permits has the
surface of its mode alone. -/
def Enclosed (policy : ExecutionSafetyPolicy) (topExecutable executionReadiness : Option PyDict) :
    Prop :=
  let decision := evaluateExecutionSafety policy topExecutable executionReadiness
  (decision.executionPermitted = false → decision.surfaces = noSurface) ∧
    (decision.executionPermitted = true → decision.surfaces = surfaceOf policy.mode)

theorem surfaces_eq :
    (evaluateExecutionSafety policy topExecutable executionReadiness).surfaces =
      if policy.mode = .live ∧ ¬LiveReady policy then noSurface else surfaceOf policy.mode := by
  unfold evaluateExecutionSafety ExecutionSafetyDecision.surfaces evaluateExecutionModeContract
  have live := liveBlockers_eq_nil_iff policy
  cases mode : policy.mode with
  | sim =>
      simp [ExecutionSafetyPolicy.executionModeContract, mode, surfaceOf]
  | paper =>
      simp [ExecutionSafetyPolicy.executionModeContract, mode, surfaceOf]
  | live =>
      have same : policy.executionModeContract.mode = .live := mode
      by_cases ready : LiveReady policy
      · simp [same, live.mpr ready, ready, surfaceOf]
      · have blocked : (liveBlockers policy.executionModeContract).isEmpty = false := by
          rw [List.isEmpty_eq_false_iff]
          exact fun none => ready (live.mp none)
        simp [same, blocked, ready, noSurface]

theorem surfaces_of_clear (clear : Clear policy topExecutable executionReadiness) :
    (evaluateExecutionSafety policy topExecutable executionReadiness).surfaces =
      surfaceOf policy.mode := by
  rw [surfaces_eq, if_neg]
  rintro ⟨live, notReady⟩
  exact notReady (clear.liveReady live)

/-- The surfaces of a blocked execution are closed only where the live readiness itself is
what is missing: every other blocker leaves the surface of the mode open. -/
theorem surfaces_enclosed_iff (policy : ExecutionSafetyPolicy)
    (topExecutable executionReadiness : Option PyDict) :
    Enclosed policy topExecutable executionReadiness ↔
      Clear policy topExecutable executionReadiness ∨
        (policy.mode = .live ∧ ¬LiveReady policy) := by
  unfold Enclosed
  by_cases clear : Clear policy topExecutable executionReadiness
  · have permitted := executionPermitted_iff.mpr clear
    simp only [permitted, Bool.true_eq_false, false_imp_iff, surfaces_of_clear clear, true_and,
      implies_true, clear, true_or]
  · have blocked := Bool.eq_false_iff.mpr (mt executionPermitted_iff.mp clear)
    simp only [blocked, Bool.false_eq_true, false_imp_iff, and_true, forall_const, clear, false_or]
    rw [surfaces_eq]
    by_cases closed : policy.mode = .live ∧ ¬LiveReady policy
    · simp only [closed, not_false_eq_true, and_self, if_true]
    · rw [if_neg closed]
      exact ⟨fun none => absurd none (surfaceOf_ne_noSurface _), fun held => absurd held closed⟩

def killedPolicy : ExecutionSafetyPolicy :=
  { mode := .live
    killSwitchEnabled := true
    dryRunRequired := false
    approvalId := some "approval-1"
    operatorId := some "operator-1"
    brokerConfirmationId := some "broker-1"
    warningsAcknowledged := true
    liveBrokerReady := true
    liveRiskReady := true
    liveKillSwitchReady := true
    realBrokerOrderAdapterEnabled := true }

def selectedTop : PyDict :=
  [("status", .str "SELECTED"),
    ("selected", .dict [("candidate_id", .str "c-1"), ("is_order", .bool false)])]

def allowedReadiness : PyDict :=
  [("candidate_id", .str "c-1"), ("execution_allowed", .bool true)]

def killedDecision : ExecutionSafetyDecision :=
  evaluateExecutionSafety killedPolicy (some selectedTop) (some allowedReadiness)

/-- The kill switch blocks the execution and leaves real orders and the broker's interface
open. -/
theorem killed_policy_leaves_real_orders_open :
    (killedDecision.executionPermitted = false ∧ killedDecision.realOrderAllowed = true ∧
        killedDecision.brokerApiAllowed = true) ∧
      ¬Enclosed killedPolicy (some selectedTop) (some allowedReadiness) := by
  constructor
  · decide
  · unfold Enclosed
    decide

end Algotradify.Execution.Safety
