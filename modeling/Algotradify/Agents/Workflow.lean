/-
The agent workflow: eight transitions lead from a request to a merge, each owned by one role,
and a blocked state can be entered from everywhere and left nowhere.

A replay stops at the first rejected transition and at the first blocked state.
-/

import Algotradify.Agents.Roles
import Algotradify.Agents.ScopeGuard

namespace Algotradify.Agents

open Py Dedup

variable {current target state : AgentWorkflowState}

inductive AgentWorkflowState where
  | requested
  | scopedByScopeOwner
  | reviewedByGrill
  | designedByHermes
  | implementedByGsd
  | reviewedByQaSafety
  | evidenceRecorded
  | humanApproved
  | mergeReady
  | blockedScope
  | blockedSafety
  | blockedMissingEvidence
  | blockedForbiddenPath
  | blockedUnapprovedPatch
deriving DecidableEq

namespace AgentWorkflowState

def value : AgentWorkflowState → String
  | requested => "REQUESTED"
  | scopedByScopeOwner => "SCOPED_BY_SCOPE_OWNER"
  | reviewedByGrill => "REVIEWED_BY_GRILL"
  | designedByHermes => "DESIGNED_BY_HERMES"
  | implementedByGsd => "IMPLEMENTED_BY_GSD"
  | reviewedByQaSafety => "REVIEWED_BY_QA_SAFETY"
  | evidenceRecorded => "EVIDENCE_RECORDED"
  | humanApproved => "HUMAN_APPROVED"
  | mergeReady => "MERGE_READY"
  | blockedScope => "BLOCKED_SCOPE"
  | blockedSafety => "BLOCKED_SAFETY"
  | blockedMissingEvidence => "BLOCKED_MISSING_EVIDENCE"
  | blockedForbiddenPath => "BLOCKED_FORBIDDEN_PATH"
  | blockedUnapprovedPatch => "BLOCKED_UNAPPROVED_PATCH"

def all : List AgentWorkflowState :=
  [requested, scopedByScopeOwner, reviewedByGrill, designedByHermes, implementedByGsd,
    reviewedByQaSafety, evidenceRecorded, humanApproved, mergeReady, blockedScope, blockedSafety,
    blockedMissingEvidence, blockedForbiddenPath, blockedUnapprovedPatch]

/-- The state of this name, with spaces or hyphens for underscores and in any case. -/
def named? (text : String) : Option AgentWorkflowState :=
  all.find? fun state => state.value = underscored (upper (strip text))

/-- `TERMINAL_BLOCKED_STATES`, with the reason that a decision gives. -/
def blockedReason? : AgentWorkflowState → Option String
  | blockedScope => some "scope_blocked"
  | blockedSafety => some "safety_blocked"
  | blockedMissingEvidence => some "missing_evidence_blocked"
  | blockedForbiddenPath => some "forbidden_path_blocked"
  | blockedUnapprovedPatch => some "unapproved_patch_blocked"
  | _ => none

def IsBlocked (state : AgentWorkflowState) : Prop :=
  state.blockedReason?.isSome = true

instance (state : AgentWorkflowState) : Decidable state.IsBlocked :=
  inferInstanceAs (Decidable (_ = _))

theorem read_value (state : AgentWorkflowState) :
    underscored (upper (strip state.value)) = state.value := by
  cases state <;> decide +kernel

theorem named?_value (state : AgentWorkflowState) : named? state.value = some state := by
  unfold named?
  rw [read_value]
  cases state <;> decide +kernel

end AgentWorkflowState

open AgentWorkflowState

/-! ### One transition -/

/-- `ROLE_REQUIRED_TRANSITIONS`. -/
def roleRequiredTransitions : List (AgentRole × AgentWorkflowState × AgentWorkflowState) :=
  [(.scopeOwner, requested, scopedByScopeOwner), (.grillReviewer, scopedByScopeOwner, reviewedByGrill),
    (.hermesArchitect, reviewedByGrill, designedByHermes),
    (.gsdImplementer, designedByHermes, implementedByGsd),
    (.qaSafetyReviewer, implementedByGsd, reviewedByQaSafety),
    (.evidenceRecorder, reviewedByQaSafety, evidenceRecorded),
    (.humanApprover, evidenceRecorded, humanApproved)]

structure WorkflowFlags where
  requiredOutputsPresent : Bool := true
  safetyReviewPassed : Bool := true
  evidenceRecorded : Bool := true
  humanApproved : Bool := false

structure AgentWorkflowDecision where
  accepted : Bool
  currentState : AgentWorkflowState
  targetState : AgentWorkflowState
  roleId : AgentRole
  newState : AgentWorkflowState
  blockers : List String := []
  reasons : List String := []

def mergeReadyChecks (current : AgentWorkflowState) (role : AgentRole) (flags : WorkflowFlags) :
    List (Bool × String) :=
  [(decide (role ≠ .humanApprover), "MERGE_READY_REQUIRES_HUMAN_APPROVER"),
    (decide (current ≠ humanApproved), "MERGE_READY_REQUIRES_HUMAN_APPROVED_STATE"),
    (!flags.requiredOutputsPresent, "REQUIRED_OUTPUTS_MISSING"),
    (!flags.safetyReviewPassed, "SAFETY_REVIEW_NOT_PASSED"),
    (!flags.evidenceRecorded, "EVIDENCE_NOT_RECORDED"),
    (!flags.humanApproved, "HUMAN_APPROVAL_REQUIRED")]

def roleChecks (current target expectedCurrent expectedTarget : AgentWorkflowState)
    (flags : WorkflowFlags) : List (Bool × String) :=
  [(decide (current ≠ expectedCurrent), "CURRENT_STATE_INVALID_FOR_ROLE"),
    (decide (target ≠ expectedTarget), "TARGET_STATE_INVALID_FOR_ROLE"),
    (!flags.requiredOutputsPresent, "REQUIRED_OUTPUTS_MISSING"),
    (decide (target = reviewedByQaSafety) && !flags.safetyReviewPassed, "SAFETY_REVIEW_NOT_PASSED"),
    (decide (target = evidenceRecorded) && !flags.evidenceRecorded, "EVIDENCE_NOT_RECORDED"),
    (decide (target = humanApproved) && !flags.humanApproved, "HUMAN_APPROVAL_REQUIRED")]

def judged (current target : AgentWorkflowState) (role : AgentRole) (blockers : List String)
    (acceptedReason rejectedReason : String) : AgentWorkflowDecision :=
  if blockers.isEmpty then
    { accepted := true
      currentState := current
      targetState := target
      roleId := role
      newState := target
      reasons := [acceptedReason] }
  else
    { accepted := false
      currentState := current
      targetState := target
      roleId := role
      newState := current
      blockers := sortedSet blockers
      reasons := [rejectedReason] }

def transitionDecision (current target : AgentWorkflowState) (role : AgentRole)
    (flags : WorkflowFlags) : AgentWorkflowDecision :=
  if current.IsBlocked then
    judged current target role ["CURRENT_STATE_TERMINAL_BLOCKED"] ""
      "blocked_state_cannot_transition"
  else
    match target.blockedReason? with
    | some reason => judged current target role [] reason ""
    | none =>
        if target = mergeReady then
          judged current target role (messagesOf (mergeReadyChecks current role flags))
            "merge_ready_transition_accepted" "merge_ready_transition_rejected"
        else
          match roleRequiredTransitions.lookup role with
          | none =>
              judged current target role ["ROLE_HAS_NO_WORKFLOW_TRANSITION"] ""
                "role_transition_rejected"
          | some (expectedCurrent, expectedTarget) =>
              judged current target role
                (messagesOf (roleChecks current target expectedCurrent expectedTarget flags))
                "role_transition_accepted" "role_transition_rejected"

def normalizeState (text : String) : Except PyError AgentWorkflowState :=
  match named? text with
  | some state => .ok state
  | none => .error (.valueError ("UNKNOWN_AGENT_WORKFLOW_STATE:" ++ text))

def normalizeWorkflowRole (text : String) : Except PyError AgentRole :=
  match AgentRole.named? text with
  | some role => .ok role
  | none => .error (.valueError ("UNKNOWN_AGENT_ROLE:" ++ text))

/-- `evaluate_agent_workflow_transition`. -/
def evaluateAgentWorkflowTransition (currentState targetState roleId : String)
    (flags : WorkflowFlags) : Except PyError AgentWorkflowDecision := do
  let current ← normalizeState currentState
  let target ← normalizeState targetState
  let role ← normalizeWorkflowRole roleId
  pure (transitionDecision current target role flags)

/-! ### Replays -/

def targetText (transition : PyDict) : String :=
  printValue (getOr transition "target_state" (.str ""))

def roleText (transition : PyDict) : String :=
  printValue (getOr transition "role_id" (.str ""))

def flagsOf (transition : PyDict) : WorkflowFlags :=
  { requiredOutputsPresent := (getOr transition "required_outputs_present" (.bool true)).truthy
    safetyReviewPassed := (getOr transition "safety_review_passed" (.bool true)).truthy
    evidenceRecorded := (getOr transition "evidence_recorded" (.bool true)).truthy
    humanApproved := (getOr transition "human_approved" (.bool false)).truthy }

def replayFrom (state : AgentWorkflowState) :
    List PyDict → Except PyError (AgentWorkflowState × List AgentWorkflowDecision)
  | [] => .ok (state, [])
  | transition :: rest => do
      let decision ← evaluateAgentWorkflowTransition state.value (targetText transition)
        (roleText transition) (flagsOf transition)
      if !decision.accepted || decide decision.newState.IsBlocked then
        pure (decision.newState, [decision])
      else do
        let (final, decisions) ← replayFrom decision.newState rest
        pure (final, decision :: decisions)

structure WorkflowReplay where
  initialState : AgentWorkflowState := requested
  finalState : AgentWorkflowState
  mergeReady : Bool
  decisionCount : Nat
  decisions : List AgentWorkflowDecision

/-- `replay_agent_workflow`. -/
def replayAgentWorkflow (transitions : List PyDict) : Except PyError WorkflowReplay := do
  let (final, decisions) ← replayFrom requested transitions
  pure
    { finalState := final
      mergeReady := decide (final = mergeReady)
      decisionCount := decisions.length
      decisions := decisions }

/-! ### The role chain -/

structure Stage where
  role : AgentRole
  source : AgentWorkflowState
  target : AgentWorkflowState
deriving DecidableEq

def roleChain : List Stage :=
  [⟨.scopeOwner, requested, scopedByScopeOwner⟩, ⟨.grillReviewer, scopedByScopeOwner, reviewedByGrill⟩,
    ⟨.hermesArchitect, reviewedByGrill, designedByHermes⟩,
    ⟨.gsdImplementer, designedByHermes, implementedByGsd⟩,
    ⟨.qaSafetyReviewer, implementedByGsd, reviewedByQaSafety⟩,
    ⟨.evidenceRecorder, reviewedByQaSafety, evidenceRecorded⟩,
    ⟨.humanApprover, evidenceRecorded, humanApproved⟩, ⟨.humanApprover, humanApproved, mergeReady⟩]

structure Stage.Passes (stage : Stage) (flags : WorkflowFlags) : Prop where
  outputs : flags.requiredOutputsPresent = true
  safety : stage.target = reviewedByQaSafety ∨ stage.target = mergeReady →
    flags.safetyReviewPassed = true
  evidence : stage.target = evidenceRecorded ∨ stage.target = mergeReady →
    flags.evidenceRecorded = true
  human : stage.target = humanApproved ∨ stage.target = mergeReady → flags.humanApproved = true

/-- A transition is that of a stage: by its role, to its state, with the flags it asks for. -/
structure Follows (stage : Stage) (transition : PyDict) : Prop where
  role : AgentRole.named? (roleText transition) = some stage.role
  target : named? (targetText transition) = some stage.target
  passes : stage.Passes (flagsOf transition)

def StartsWithChain (transitions : List PyDict) : Prop :=
  ∃ front later, transitions = front ++ later ∧ List.Forall₂ Follows roleChain front

/-! ### One step of a replay -/

@[simp] theorem judged_accepted (current target : AgentWorkflowState) (role : AgentRole)
    (blockers : List String) (acceptedReason rejectedReason : String) :
    (judged current target role blockers acceptedReason rejectedReason).accepted =
      blockers.isEmpty := by
  unfold judged
  cases blockers <;> rfl

@[simp] theorem judged_newState (current target : AgentWorkflowState) (role : AgentRole)
    (blockers : List String) (acceptedReason rejectedReason : String) :
    (judged current target role blockers acceptedReason rejectedReason).newState =
      if blockers.isEmpty then target else current := by
  unfold judged
  cases blockers <;> rfl

theorem newState_eq (current target : AgentWorkflowState) (role : AgentRole)
    (flags : WorkflowFlags) :
    (transitionDecision current target role flags).newState =
      if (transitionDecision current target role flags).accepted then target else current := by
  unfold transitionDecision
  split
  · simp
  · split
    · simp
    · split
      · simp
      · split <;> simp

theorem accepted_of_blocked (role : AgentRole) (flags : WorkflowFlags) (active : ¬current.IsBlocked)
    (blocked : target.IsBlocked) :
    (transitionDecision current target role flags).accepted = true := by
  obtain ⟨reason, given⟩ := Option.isSome_iff_exists.mp blocked
  unfold transitionDecision
  rw [if_neg active, given]
  simp

theorem mergeReady_accepted_iff (current : AgentWorkflowState) (role : AgentRole)
    (flags : WorkflowFlags) :
    messagesOf (mergeReadyChecks current role flags) = [] ↔
      role = .humanApprover ∧ current = humanApproved ∧
        (Stage.mk role current mergeReady).Passes flags := by
  rw [messagesOf_eq_nil_iff]
  constructor
  · intro clear
    simp only [mergeReadyChecks, List.forall_mem_cons, List.not_mem_nil, false_implies,
      implies_true, and_true, decide_eq_false_iff_not, not_not, Bool.not_eq_false'] at clear
    obtain ⟨isHuman, atApproval, outputs, safety, evidence, human⟩ := clear
    exact ⟨isHuman, atApproval, outputs, fun _ => safety, fun _ => evidence, fun _ => human⟩
  · rintro ⟨isHuman, atApproval, passes⟩
    simp [mergeReadyChecks, isHuman, atApproval, passes.outputs, passes.safety (Or.inr rfl),
      passes.evidence (Or.inr rfl), passes.human (Or.inr rfl)]

theorem role_accepted_iff {expectedCurrent expectedTarget : AgentWorkflowState} (role : AgentRole)
    (flags : WorkflowFlags) (unmerged : target ≠ mergeReady) :
    messagesOf (roleChecks current target expectedCurrent expectedTarget flags) = [] ↔
      current = expectedCurrent ∧ target = expectedTarget ∧
        (Stage.mk role current target).Passes flags := by
  rw [messagesOf_eq_nil_iff]
  simp only [roleChecks, List.forall_mem_cons, List.not_mem_nil, false_implies, implies_true,
    and_true, decide_eq_false_iff_not, not_not, Bool.not_eq_false', Bool.and_eq_false_iff]
  constructor
  · rintro ⟨fromSource, toTarget, outputs, safety, evidence, human⟩
    refine ⟨fromSource, toTarget, outputs, ?_, ?_, ?_⟩
    · intro asked
      exact safety.resolve_left (not_not.mpr (asked.resolve_right unmerged))
    · intro asked
      exact evidence.resolve_left (not_not.mpr (asked.resolve_right unmerged))
    · intro asked
      exact human.resolve_left (not_not.mpr (asked.resolve_right unmerged))
  · rintro ⟨fromSource, toTarget, passes⟩
    refine ⟨fromSource, toTarget, passes.outputs, ?_, ?_, ?_⟩
    · by_cases asked : target = reviewedByQaSafety
      · exact Or.inr (passes.safety (Or.inl asked))
      · exact Or.inl asked
    · by_cases asked : target = evidenceRecorded
      · exact Or.inr (passes.evidence (Or.inl asked))
      · exact Or.inl asked
    · by_cases asked : target = humanApproved
      · exact Or.inr (passes.human (Or.inl asked))
      · exact Or.inl asked

def Stage.ofRole : AgentRole → Stage
  | .scopeOwner => ⟨.scopeOwner, requested, scopedByScopeOwner⟩
  | .grillReviewer => ⟨.grillReviewer, scopedByScopeOwner, reviewedByGrill⟩
  | .hermesArchitect => ⟨.hermesArchitect, reviewedByGrill, designedByHermes⟩
  | .gsdImplementer => ⟨.gsdImplementer, designedByHermes, implementedByGsd⟩
  | .qaSafetyReviewer => ⟨.qaSafetyReviewer, implementedByGsd, reviewedByQaSafety⟩
  | .evidenceRecorder => ⟨.evidenceRecorder, reviewedByQaSafety, evidenceRecorded⟩
  | .humanApprover => ⟨.humanApprover, evidenceRecorded, humanApproved⟩

theorem lookup_role (role : AgentRole) :
    roleRequiredTransitions.lookup role =
      some ((Stage.ofRole role).source, (Stage.ofRole role).target) := by
  cases role <;> rfl

theorem ofRole_unmerged (role : AgentRole) : (Stage.ofRole role).target ≠ mergeReady := by
  cases role <;> decide

theorem mem_roleChain_iff (stage : Stage) :
    stage ∈ roleChain ↔ stage = Stage.ofRole stage.role ∨
      stage = ⟨.humanApprover, humanApproved, mergeReady⟩ := by
  obtain ⟨role, source, target⟩ := stage
  cases role <;> simp [roleChain, Stage.ofRole]

theorem accepted_iff_stage (role : AgentRole) (flags : WorkflowFlags) (active : ¬current.IsBlocked)
    (unblocked : ¬target.IsBlocked) :
    (transitionDecision current target role flags).accepted = true ↔
      Stage.mk role current target ∈ roleChain ∧ (Stage.mk role current target).Passes flags := by
  have free : target.blockedReason? = none := Option.not_isSome_iff_eq_none.mp unblocked
  unfold transitionDecision
  rw [if_neg active, free]
  dsimp only
  rw [mem_roleChain_iff]
  by_cases merges : target = mergeReady
  · subst target
    have other : Stage.mk role current mergeReady ≠ Stage.ofRole role :=
      fun same => ofRole_unmerged role (congrArg Stage.target same).symm
    rw [if_pos rfl, judged_accepted, List.isEmpty_iff, mergeReady_accepted_iff]
    simp only [other, false_or, Stage.mk.injEq, and_true, and_assoc]
  · have unmerged : Stage.mk role current target ≠ ⟨.humanApprover, humanApproved, mergeReady⟩ :=
      fun same => merges (congrArg Stage.target same)
    have own : Stage.mk role current target = Stage.ofRole role ↔
        current = (Stage.ofRole role).source ∧ target = (Stage.ofRole role).target := by
      cases role <;> simp [Stage.ofRole]
    rw [if_neg merges, lookup_role]
    dsimp only
    rw [judged_accepted, List.isEmpty_iff, role_accepted_iff role flags merges]
    simp only [unmerged, or_false, own, and_assoc]

/-! ### Replays along the chain -/

theorem decision_of_evaluate {targetName roleName : String} {flags : WorkflowFlags}
    {decision : AgentWorkflowDecision}
    (evaluated : evaluateAgentWorkflowTransition state.value targetName roleName flags =
      .ok decision) :
    ∃ target role, named? targetName = some target ∧ AgentRole.named? roleName = some role ∧
      decision = transitionDecision state target role flags := by
  unfold evaluateAgentWorkflowTransition normalizeState normalizeWorkflowRole at evaluated
  rw [named?_value] at evaluated
  obtain ⟨current, own, evaluated⟩ := bind_eq_ok.mp evaluated
  obtain ⟨target, toTarget, evaluated⟩ := bind_eq_ok.mp evaluated
  obtain ⟨role, byRole, evaluated⟩ := bind_eq_ok.mp evaluated
  cases own
  refine ⟨target, role, ?_, ?_, (Except.ok.inj evaluated).symm⟩
  · cases named : named? targetName with
    | none =>
        rw [named] at toTarget
        cases toTarget
    | some found =>
        rw [named] at toTarget
        exact congrArg some (Except.ok.inj toTarget)
  · cases named : AgentRole.named? roleName with
    | none =>
        rw [named] at byRole
        cases byRole
    | some found =>
        rw [named] at byRole
        exact congrArg some (Except.ok.inj byRole)

def Leads : AgentWorkflowState → List Stage → Prop
  | state, [] => state = mergeReady
  | state, stage :: rest => stage ∈ roleChain ∧ stage.source = state ∧ Leads stage.target rest

theorem leads_roleChain : Leads requested roleChain := by
  simp [Leads, roleChain]

theorem unblocked_of_mem {stage : Stage} (member : stage ∈ roleChain) :
    ¬stage.source.IsBlocked ∧ ¬stage.target.IsBlocked ∧ stage.source ≠ mergeReady := by
  have all : ∀ stage ∈ roleChain,
      ¬stage.source.IsBlocked ∧ ¬stage.target.IsBlocked ∧ stage.source ≠ mergeReady := by decide
  exact all stage member

theorem eq_of_source {first second : Stage} (left : first ∈ roleChain) (right : second ∈ roleChain)
    (same : first.source = second.source) : first = second := by
  have all : ∀ first ∈ roleChain, ∀ second ∈ roleChain, first.source = second.source →
      first = second := by decide
  exact all first left second right same

inductive ReplayStep (state : AgentWorkflowState) (transition : PyDict) (rest : List PyDict)
    (final : AgentWorkflowState) (decisions : List AgentWorkflowDecision) : Prop where
  | blocked (decision : AgentWorkflowDecision) (target : AgentWorkflowState)
      (named : named? (targetText transition) = some target) (blocked : target.IsBlocked)
      (reached : decision.newState = target) (stops : final = target)
      (only : decisions = [decision])
  | rejected (decision : AgentWorkflowDecision)
      (unfollowed : ∀ stage ∈ roleChain, stage.source = state → ¬Follows stage transition)
      (stays : decision.newState = state) (stops : final = state) (only : decisions = [decision])
  | accepted (decision : AgentWorkflowDecision) (stage : Stage) (member : stage ∈ roleChain)
      (source : stage.source = state) (follows : Follows stage transition)
      (later : List AgentWorkflowDecision)
      (continues : replayFrom stage.target rest = .ok (final, later))
      (all : decisions = decision :: later)

theorem replayStep {transition : PyDict} {rest : List PyDict} {final : AgentWorkflowState}
    {decisions : List AgentWorkflowDecision} (active : ¬state.IsBlocked)
    (ran : replayFrom state (transition :: rest) = .ok (final, decisions)) :
    ReplayStep state transition rest final decisions := by
  unfold replayFrom at ran
  obtain ⟨decision, evaluated, ran⟩ := bind_eq_ok.mp ran
  obtain ⟨target, role, toTarget, byRole, made⟩ := decision_of_evaluate evaluated
  have reached := newState_eq state target role (flagsOf transition)
  rw [← made] at reached
  by_cases blocked : target.IsBlocked
  · have accepted := accepted_of_blocked role (flagsOf transition) active blocked
    rw [← made] at accepted
    rw [accepted, if_pos rfl] at reached
    have stops : (!decision.accepted || decide decision.newState.IsBlocked) = true := by
      rw [reached, decide_eq_true blocked, Bool.or_true]
    rw [if_pos stops] at ran
    obtain ⟨same, only⟩ := Prod.mk.inj (Except.ok.inj ran)
    exact .blocked decision target toTarget blocked reached (same.symm.trans reached) only.symm
  have judged := accepted_iff_stage role (flagsOf transition) active blocked
  rw [← made] at judged
  cases accepted : decision.accepted with
  | false =>
      rw [accepted] at reached ran judged
      have stays : decision.newState = state := reached
      obtain ⟨same, only⟩ := Prod.mk.inj (Except.ok.inj ran)
      refine .rejected decision ?_ stays (same.symm.trans stays) only.symm
      intro stage member source follows
      have sameRole := Option.some.inj (byRole.symm.trans follows.role)
      have sameTarget := Option.some.inj (toTarget.symm.trans follows.target)
      have own : Stage.mk role state target = stage := by
        rw [sameRole, sameTarget, ← source]
      have impossible := judged.mpr (own ▸ ⟨member, follows.passes⟩)
      cases impossible
  | true =>
      rw [accepted] at reached judged
      have moves : decision.newState = target := reached
      obtain ⟨member, passes⟩ := judged.mp rfl
      have goes : (!decision.accepted || decide decision.newState.IsBlocked) = false := by
        rw [accepted, moves, decide_eq_false blocked]
        rfl
      rw [goes, if_neg Bool.false_ne_true, moves] at ran
      obtain ⟨⟨last, later⟩, continues, ran⟩ := bind_eq_ok.mp ran
      obtain ⟨same, all⟩ := Prod.mk.inj (Except.ok.inj ran)
      exact .accepted decision ⟨role, state, target⟩ member rfl ⟨byRole, toTarget, passes⟩ later
        (same ▸ continues) all.symm

theorem replayFrom_ready_iff {chain : List Stage} (leads : Leads state chain)
    {transitions : List PyDict} {final : AgentWorkflowState}
    {decisions : List AgentWorkflowDecision}
    (ran : replayFrom state transitions = .ok (final, decisions)) :
    final = mergeReady ↔
      (∃ front later, transitions = front ++ later ∧ List.Forall₂ Follows chain front) ∧
        ∀ decision ∈ decisions.drop chain.length, ¬decision.newState.IsBlocked := by
  induction chain generalizing state transitions decisions with
  | nil =>
      have ready : state = mergeReady := leads
      subst state
      have started : ∃ front later, transitions = front ++ later ∧
          List.Forall₂ Follows [] front := ⟨[], transitions, rfl, .nil⟩
      simp only [started, true_and, List.length_nil, List.drop_zero]
      cases transitions with
      | nil =>
          obtain ⟨same, none⟩ := Prod.mk.inj (Except.ok.inj ran)
          rw [← same, ← none]
          simp
      | cons transition rest =>
          cases replayStep (by decide) ran with
          | blocked decision target named blocked reached stops only =>
              rw [stops, only]
              have unready : target ≠ mergeReady := by
                rintro rfl
                exact absurd blocked (by decide)
              simp [unready, reached, blocked]
          | rejected decision unfollowed stays stops only =>
              rw [stops, only]
              have free : ¬mergeReady.IsBlocked := by decide
              simp [stays, free]
          | accepted decision stage member source =>
              exact absurd source (unblocked_of_mem member).2.2
  | cons stage chain ih =>
      obtain ⟨member, source, onwards⟩ := leads
      have unready : state ≠ mergeReady := source ▸ (unblocked_of_mem member).2.2
      have active : ¬state.IsBlocked := source ▸ (unblocked_of_mem member).1
      cases transitions with
      | nil =>
          obtain ⟨same, _⟩ := Prod.mk.inj (Except.ok.inj ran)
          refine iff_of_false (same ▸ unready) ?_
          rintro ⟨⟨front, later, split, along⟩, _⟩
          obtain ⟨rfl, rfl⟩ := List.append_eq_nil_iff.mp split.symm
          cases along
      | cons transition rest =>
          cases replayStep active ran with
          | blocked decision target named blocked reached stops only =>
              have passed : target ≠ mergeReady := by
                rintro rfl
                exact absurd blocked (by decide)
              refine iff_of_false (stops ▸ passed) ?_
              rintro ⟨⟨front, later, split, along⟩, _⟩
              cases along with
              | cons follows _ =>
                  obtain ⟨rfl, _⟩ := List.cons.inj split
                  have same := Option.some.inj (named.symm.trans follows.target)
                  exact (unblocked_of_mem member).2.1 (same ▸ blocked)
          | rejected decision unfollowed stays stops only =>
              refine iff_of_false (stops ▸ unready) ?_
              rintro ⟨⟨front, later, split, along⟩, _⟩
              cases along with
              | cons follows _ =>
                  obtain ⟨rfl, _⟩ := List.cons.inj split
                  exact unfollowed stage member source follows
          | accepted decision own ownMember ownSource follows later continues all =>
              have same : own = stage := eq_of_source ownMember member (ownSource.trans source.symm)
              subst own
              rw [ih onwards continues, all, List.length_cons, List.drop_succ_cons]
              refine and_congr_left fun _ => ?_
              constructor
              · rintro ⟨front, tail, split, along⟩
                exact ⟨transition :: front, tail, by rw [split, List.cons_append],
                  .cons follows along⟩
              · rintro ⟨front, tail, split, along⟩
                cases along with
                | cons _ along =>
                    obtain ⟨_, split⟩ := List.cons.inj split
                    exact ⟨_, tail, split, along⟩

/-- A replay is ready to merge exactly when it starts with the role chain and no later decision
moves it to a blocked state. -/
theorem merge_ready_iff {transitions : List PyDict} {replay : WorkflowReplay}
    (ran : replayAgentWorkflow transitions = .ok replay) :
    replay.mergeReady = true ↔ StartsWithChain transitions ∧
      ∀ decision ∈ replay.decisions.drop 8, ¬decision.newState.IsBlocked := by
  unfold replayAgentWorkflow at ran
  obtain ⟨⟨final, decisions⟩, looped, made⟩ := bind_eq_ok.mp ran
  rw [← Except.ok.inj made, decide_eq_true_eq]
  exact replayFrom_ready_iff leads_roleChain looped

/-- The names of a transition are those of a state and of a role. -/
def Readable (transition : PyDict) : Prop :=
  (∃ target, named? (targetText transition) = some target) ∧
    ∃ role, AgentRole.named? (roleText transition) = some role

theorem exists_replay {transitions : List PyDict}
    (readable : ∀ transition ∈ transitions, Readable transition) :
    ∃ replay, replayAgentWorkflow transitions = .ok replay := by
  have looped : ∀ state, ∃ result, replayFrom state transitions = .ok result := by
    induction transitions with
    | nil => exact fun state => ⟨_, rfl⟩
    | cons transition rest ih =>
        intro state
        obtain ⟨⟨target, toTarget⟩, role, byRole⟩ := readable transition List.mem_cons_self
        have evaluated : evaluateAgentWorkflowTransition state.value (targetText transition)
            (roleText transition) (flagsOf transition) =
              .ok (transitionDecision state target role (flagsOf transition)) := by
          unfold evaluateAgentWorkflowTransition normalizeState normalizeWorkflowRole
          rw [named?_value, toTarget, byRole]
          rfl
        apply exists_ok_bind evaluated
        split
        · exact ⟨_, rfl⟩
        · obtain ⟨⟨final, decisions⟩, continues⟩ :=
            ih (fun later member => readable later (List.mem_cons_of_mem transition member)) _
          exact exists_ok_bind continues ⟨_, rfl⟩
  obtain ⟨result, ran⟩ := looped requested
  unfold replayAgentWorkflow
  rw [ran]
  exact ⟨_, rfl⟩

/-! ### A merge that is blocked afterwards -/

def fullTransition (stage : Stage) : PyDict :=
  [("target_state", .str stage.target.value), ("role_id", .str stage.role.value),
    ("human_approved", .bool true)]

def blockedMerge : List PyDict :=
  (roleChain ++ [Stage.mk .grillReviewer mergeReady blockedScope]).map fullTransition

theorem merge_ready_iff_blocked : ∃ replay, replayAgentWorkflow blockedMerge = .ok replay ∧
    (replay.mergeReady = true ↔ StartsWithChain blockedMerge ∧
      ∀ decision ∈ replay.decisions.drop 8, ¬decision.newState.IsBlocked) := by
  have readable : ∀ transition ∈ blockedMerge, Readable transition := by
    intro transition member
    obtain ⟨stage, _, rfl⟩ := List.mem_map.mp member
    exact ⟨⟨stage.target, named?_value stage.target⟩, stage.role, AgentRole.named?_value stage.role⟩
  obtain ⟨replay, ran⟩ := exists_replay readable
  exact ⟨replay, ran, merge_ready_iff ran⟩

end Algotradify.Agents
