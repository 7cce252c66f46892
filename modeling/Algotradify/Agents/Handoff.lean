/-
Handoff artifacts: what one role passes on about a task.

A payload is checked field by field. Paths are stripped and their backslashes become slashes;
which paths a role allows or forbids is up to the payload.
-/

import Algotradify.Agents.Workflow
import Algotradify.Py.Equality

namespace Algotradify.Agents

open Py

inductive AgentHandoffVerdict where
  | approved
  | approvedWithWarnings
  | rejected
  | blocked
deriving DecidableEq

namespace AgentHandoffVerdict

def value : AgentHandoffVerdict → String
  | approved => "APPROVED"
  | approvedWithWarnings => "APPROVED_WITH_WARNINGS"
  | rejected => "REJECTED"
  | blocked => "BLOCKED"

def all : List AgentHandoffVerdict := [approved, approvedWithWarnings, rejected, blocked]

def named? (text : String) : Option AgentHandoffVerdict :=
  all.find? fun verdict => verdict.value = underscored (upper (strip text))

end AgentHandoffVerdict

/-- `AGENT_HANDOFF_CONTRACT`. -/
def agentHandoffContract : String := "agent_role_handoff_artifact_v1"

/-- `REQUIRED_HANDOFF_FIELDS`. -/
def requiredHandoffFields : List String :=
  ["schema_version", "contract", "task_id", "role_id", "workflow_state", "target_state",
    "scope_decision", "files_allowed", "files_forbidden", "risks_found", "tests_required",
    "acceptance_gates", "required_outputs", "verdict", "safe_flags"]

/-- `REQUIRED_SAFE_FLAGS`. -/
def requiredSafeFlags : PyDict :=
  safeRoleFlags ++ [("allowed_for_runtime_wiring", .bool false), ("allowed_for_broker_api", .bool false)]

structure AgentHandoffArtifact where
  schemaVersion : PyValue
  taskId : String
  roleId : AgentRole
  workflowState : AgentWorkflowState
  targetState : AgentWorkflowState
  scopeDecision : String
  filesAllowed : List String
  filesForbidden : List String
  risksFound : List String
  testsRequired : List String
  acceptanceGates : List String
  requiredOutputs : List String
  verdict : AgentHandoffVerdict
  blockers : List String
  warnings : List String
  safeFlags : PyDict
  metadata : PyDict

def orRaise {α : Type} (found : Option α) (message : String) : Except PyError α :=
  match found with
  | some value => .ok value
  | none => .error (.valueError message)

/-- `_require_all_fields`. -/
def requireAllFields (raw : PyDict) : Except PyError Unit :=
  match requiredHandoffFields.filter fun field => !PyDict.contains raw field with
  | [] => .ok ()
  | missing => .error (.valueError ("HANDOFF_REQUIRED_FIELDS_MISSING:" ++
      ",".intercalate (missing.insertionSort (· ≤ ·))))

def safeFlag (flags : PyDict) (expected : String × PyValue) : Except PyError (String × PyValue) :=
  if PyValue.equal (PyDict.get flags expected.1) expected.2 then
    .ok (expected.1, PyDict.get flags expected.1)
  else .error (.valueError ("SAFE_FLAG_" ++ upper expected.1 ++ "_INVALID"))

def handoffSafeFlags (raw : PyDict) : Except PyError PyDict :=
  match PyDict.get raw "safe_flags" with
  | .dict flags => requiredSafeFlags.mapM (safeFlag flags)
  | _ => .error (.valueError "SAFE_FLAGS_MUST_BE_OBJECT")

def handoffOutputs (raw : PyDict) (role : AgentRole) : Except PyError (List String) := do
  let outputs ← stringTuple raw "required_outputs" true
  match role.requiredOutputs.filter fun output => output ∉ outputs with
  | [] => .ok outputs
  | missing => .error (.valueError ("ROLE_REQUIRED_OUTPUTS_MISSING:" ++
      ",".intercalate (missing.insertionSort (· ≤ ·))))

/-- `normalize_agent_handoff_artifact`. -/
def normalizeAgentHandoffArtifact (raw : PyDict) : Except PyError AgentHandoffArtifact := do
  requireAllFields raw
  let version ← schemaVersion raw
  let contract ← requiredCleanString raw "contract"
  if contract ≠ agentHandoffContract then .error (.valueError "CONTRACT_UNSUPPORTED")
  else do
    let roleText ← requiredCleanString raw "role_id"
    let role ← orRaise (AgentRole.named? roleText) "ROLE_ID_UNKNOWN"
    let outputs ← handoffOutputs raw role
    let taskId ← requiredCleanString raw "task_id"
    let stateText ← requiredCleanString raw "workflow_state"
    let state ← orRaise (AgentWorkflowState.named? stateText) "WORKFLOW_STATE_UNKNOWN"
    let targetText ← requiredCleanString raw "target_state"
    let target ← orRaise (AgentWorkflowState.named? targetText) "WORKFLOW_STATE_UNKNOWN"
    let scopeDecision ← requiredCleanString raw "scope_decision"
    let filesAllowed ← stringTuple raw "files_allowed" true
    let filesForbidden ← stringTuple raw "files_forbidden" true
    let risksFound ← stringTuple raw "risks_found" true
    let testsRequired ← stringTuple raw "tests_required" true
    let acceptanceGates ← stringTuple raw "acceptance_gates" true
    let verdictText ← requiredCleanString raw "verdict"
    let verdict ← orRaise (AgentHandoffVerdict.named? verdictText) "VERDICT_UNKNOWN"
    let blockers ← stringTuple raw "blockers" false
    let warnings ← stringTuple raw "warnings" false
    let flags ← handoffSafeFlags raw
    let entries ← metadata raw
    if (verdict = .rejected ∨ verdict = .blocked) ∧ blockers = [] then
      .error (.valueError "BLOCKING_VERDICT_REQUIRES_BLOCKERS")
    else
      .ok
        { schemaVersion := version
          taskId := taskId
          roleId := role
          workflowState := state
          targetState := target
          scopeDecision := scopeDecision
          filesAllowed := filesAllowed
          filesForbidden := filesForbidden
          risksFound := risksFound
          testsRequired := testsRequired
          acceptanceGates := acceptanceGates
          requiredOutputs := outputs
          verdict := verdict
          blockers := blockers
          warnings := warnings
          safeFlags := flags
          metadata := entries.set "scope"
            (.str "handoff_artifact_contract_only_no_repo_scan_no_ci_no_execution") }

end Algotradify.Agents
