/-
The roles of the agent workflow and what each of them has to hand over.
-/

import Algotradify.Agents.WorkContract

namespace Algotradify.Agents

open Py

inductive AgentRole where
  | scopeOwner
  | grillReviewer
  | hermesArchitect
  | gsdImplementer
  | qaSafetyReviewer
  | evidenceRecorder
  | humanApprover
deriving DecidableEq

namespace AgentRole

def value : AgentRole → String
  | scopeOwner => "scope_owner"
  | grillReviewer => "grill_reviewer"
  | hermesArchitect => "hermes_architect"
  | gsdImplementer => "gsd_implementer"
  | qaSafetyReviewer => "qa_safety_reviewer"
  | evidenceRecorder => "evidence_recorder"
  | humanApprover => "human_approver"

def all : List AgentRole :=
  [scopeOwner, grillReviewer, hermesArchitect, gsdImplementer, qaSafetyReviewer, evidenceRecorder,
    humanApprover]

/-- The role of this name, with spaces or hyphens for underscores and in any case. -/
def named? (text : String) : Option AgentRole :=
  all.find? fun role => role.value = underscored (lower (strip text))

/-- `required_outputs` of the contract of a role. -/
def requiredOutputs : AgentRole → List String
  | scopeOwner =>
      ["task_boundary", "files_allowed", "files_forbidden", "non_goals", "reject_conditions"]
  | grillReviewer => ["risks_found", "fake_progress_checks", "scope_drift_checks", "reject_conditions"]
  | hermesArchitect =>
      ["architecture_decision", "contract_boundaries", "files_to_change", "files_not_to_touch",
        "acceptance_gates"]
  | gsdImplementer =>
      ["patch_summary", "changed_files", "tests_added", "test_commands", "implementation_boundary"]
  | qaSafetyReviewer =>
      ["test_strength_review", "safety_boundary_review", "changed_file_review",
        "broker_live_order_boundary_review"]
  | evidenceRecorder =>
      ["commands_run", "test_results", "acceptance_proof", "safety_boundary", "reject_conditions"]
  | humanApprover => ["merge_readiness_decision", "approval_reason", "known_risks"]

theorem named?_value (role : AgentRole) : named? role.value = some role := by
  cases role <;> decide +kernel

end AgentRole

/-- `HIGH_RISK_ROLE_PATH_PREFIXES`. -/
def highRiskRolePathPrefixes : List String :=
  ["agent_system/", "api/", "config/", "core/", "execution_readiness/", "execution_safety/",
    "main.py", "paper_trading/", "run_live.sh", "runtime_contract.py"]

/-- `SAFE_ROLE_FLAGS`. -/
def safeRoleFlags : PyDict :=
  [("read_only", .bool true), ("is_order_action", .bool false), ("broker_api_called", .bool false),
    ("live_mode_touched", .bool false), ("allowed_for_live_execution", .bool false),
    ("real_order_id", .none)]

end Algotradify.Agents
