/-
The agent scope guard: which requests are blocked, and which risk an accepted one has.

The guard compares the paths of a request as they are spelled. What it is to protect are
the places that they lead to.
-/

import Algotradify.Agents.WorkContract
import Algotradify.Dedup.Firsts
import Algotradify.Posix.Paths
import Mathlib.Data.List.Dedup

namespace Algotradify.Agents

open Py Posix Dedup

/-! ### The tables of the guard -/

/-- `FORBIDDEN_PATH_PREFIXES`. -/
def forbiddenPathPrefixes : List String :=
  [".env", "credentials.py", "config/secrets", "runtime/live", "logs/broker", "broker_contract/",
    "execution_safety/live", "execution_readiness/live", "paper_broker/live"]

/-- `HIGH_RISK_PATH_PREFIXES`. -/
def highRiskPathPrefixes : List String :=
  ["broker_contract/", "execution_safety/", "execution_readiness/", "paper_trading/", "core/risk",
    "core/execution", "config/", "main.py", "run_live.sh"]

/-- `LOW_RISK_PATH_PREFIXES`. -/
def lowRiskPathPrefixes : List String :=
  ["docs/", "tests/"]

/-- `SOURCE_ALLOWED_ACTIONS`. -/
def sourceAllowedActions : List (String × List AgentAction) :=
  [(AgentSource.grillMe.value, [.critiqueScope, .reviewPr, .auditRisk, .findFakeProgress]),
    (AgentSource.hermes.value,
      [.designArchitecture, .defineContract, .mapWorkflow, .createAcceptanceGates, .updateDocs]),
    (AgentSource.gsd.value,
      [.planPr, .generateTests, .generatePatch, .fixTestFailure, .updateDocs]),
    (AgentSource.manual.value, AgentAction.all)]

/-! ### Comparing paths as they are spelled -/

/-- `text.rstrip("/")`. -/
def rstripSlash (text : String) : String :=
  String.ofList (text.toList.rdropWhile (· == '/'))

/-- `normalized == item.rstrip("/") or normalized.startswith(item)`. -/
def startsAt (normalized item : String) : Bool :=
  normalized == rstripSlash item || startsWith normalized item

/-- `_starts_with_any`. -/
def startsWithAny (path : String) (prefixes : List String) : Bool :=
  prefixes.any (startsAt (cleanPath path))

/-- `_outside_allowed_paths`: without allowed paths nothing lies outside. -/
def outsideAllowedPaths (path : String) (allowedPaths : List String) : Bool :=
  !allowedPaths.isEmpty && !allowedPaths.any (startsAt (cleanPath path))

/-! ### The decision -/

inductive AgentRiskLevel where
  | low
  | medium
  | high
  | blocked
deriving DecidableEq

def containsOrderAction (action : String) : Bool :=
  action ∈ [AgentAction.placeOrder.value, AgentAction.modifyOrder.value,
    AgentAction.cancelOrder.value, AgentAction.exitPosition.value]

def containsBrokerApiAction (action : String) : Bool :=
  action ∈ [AgentAction.callBrokerApi.value, AgentAction.changeBrokerConfig.value]

def containsLiveAction (action : String) : Bool :=
  action ∈ [AgentAction.enableLive.value, AgentAction.changeLiveConfig.value]

def sourceBlockers (source action : String) : List String :=
  match sourceAllowedActions.lookup source with
  | none => ["SOURCE_AGENT_UNKNOWN"]
  | some actions =>
      messageIf (action ∉ actions.map AgentAction.value) "ACTION_NOT_ALLOWED_FOR_SOURCE_AGENT"

def actionBlockers (action : String) : List String :=
  messageIf (action ∈ forbiddenAgentActions) "ACTION_FORBIDDEN" ++
    (messageIf (containsOrderAction action) "ORDER_ACTION_FORBIDDEN" ++
      (messageIf (containsBrokerApiAction action) "BROKER_API_FORBIDDEN" ++
        messageIf (containsLiveAction action) "LIVE_ACTION_FORBIDDEN"))

def pathBlockers (request : AgentWorkRequest) (path : String) : List String :=
  let normalized := cleanPath path
  messageIf (startsWithAny normalized forbiddenPathPrefixes) "FORBIDDEN_PATH_REQUESTED" ++
    (messageIf (normalized ∈ request.forbiddenPaths.map cleanPath)
        "REQUESTED_PATH_EXPLICITLY_FORBIDDEN" ++
      messageIf (outsideAllowedPaths normalized request.allowedPaths)
        "REQUESTED_PATH_OUTSIDE_ALLOWED_PATHS")

def scopeBlockers (request : AgentWorkRequest) : List String :=
  sourceBlockers request.sourceAgent request.action ++ (actionBlockers request.action ++
    (messageIf request.requestedPaths.isEmpty "REQUESTED_PATHS_MISSING" ++
      request.requestedPaths.flatMap (pathBlockers request)))

def touchesHighRisk (request : AgentWorkRequest) : Bool :=
  request.requestedPaths.any fun path => startsWithAny path highRiskPathPrefixes

def docsOrTestsOnly (request : AgentWorkRequest) : Bool :=
  !request.requestedPaths.isEmpty &&
    request.requestedPaths.all fun path => startsWithAny path lowRiskPathPrefixes

structure AgentScopeDecision where
  schemaVersion : Int := agentWorkSchemaVersion
  workId : Option String
  accepted : Bool
  state : String
  sourceAgent : String
  action : String
  riskLevel : AgentRiskLevel
  readOnly : Bool := true
  isOrderAction : Bool := false
  brokerApiCalled : Bool := false
  liveModeTouched : Bool := false
  allowedForPatch : Bool
  allowedForRuntimeWiring : Bool := false
  allowedForBrokerApi : Bool := false
  allowedForLiveExecution : Bool := false
  requiresHumanApproval : Bool
  blockers : List String
  warnings : List String
  reasons : List String
  metadata : PyDict :=
    [("contract", .str "agent_scope_guard_v1"),
      ("scope", .str "agent_work_intake_guard_only_no_execution")]

/-- `tuple(sorted(set(items)))`. -/
def sortedSet (items : List String) : List String :=
  items.dedup.insertionSort (· ≤ ·)

/-- `assess_agent_scope`. -/
def assessAgentScope (digest : String → String) (request : AgentWorkRequest) :
    AgentScopeDecision :=
  let blockers := scopeBlockers request
  if !blockers.isEmpty then
    { workId := none
      accepted := false
      state := "BLOCKED"
      sourceAgent := request.sourceAgent
      action := request.action
      riskLevel := .blocked
      allowedForPatch := false
      requiresHumanApproval := true
      blockers := sortedSet blockers
      warnings := []
      reasons := ["agent_scope_blocked"] }
  else if touchesHighRisk request then
    { workId := some (buildAgentWorkId digest request)
      accepted := true
      state := "WAITING_HUMAN_APPROVAL"
      sourceAgent := request.sourceAgent
      action := request.action
      riskLevel := .high
      allowedForPatch := false
      requiresHumanApproval := true
      blockers := []
      warnings := ["HIGH_RISK_PATH_REQUIRES_HUMAN_APPROVAL"]
      reasons := ["high_risk_scope_requires_human_approval"] }
  else if docsOrTestsOnly request then
    { workId := some (buildAgentWorkId digest request)
      accepted := true
      state := "APPROVED_FOR_PATCH"
      sourceAgent := request.sourceAgent
      action := request.action
      riskLevel := .low
      allowedForPatch := true
      requiresHumanApproval := false
      blockers := []
      warnings := []
      reasons := ["low_risk_docs_or_tests_scope_approved"] }
  else
    { workId := some (buildAgentWorkId digest request)
      accepted := true
      state := "WAITING_HUMAN_APPROVAL"
      sourceAgent := request.sourceAgent
      action := request.action
      riskLevel := .medium
      allowedForPatch := false
      requiresHumanApproval := true
      blockers := []
      warnings := []
      reasons := ["medium_risk_scope_requires_human_approval"] }

/-! ### What the guard is to protect -/

/-- A place that a request is to be kept from: it lies under a forbidden start, under a path
that the request itself forbids, or outside the paths that it allows. -/
def Protected (request : AgentWorkRequest) (target : Place) : Prop :=
  startsWithAny target.text forbiddenPathPrefixes = true ∨
    (∃ item ∈ request.forbiddenPaths, Place.Under (place item) target) ∨
    (request.allowedPaths ≠ [] ∧ ∀ item ∈ request.allowedPaths, ¬Place.Under (place item) target)

instance (request : AgentWorkRequest) (target : Place) : Decidable (Protected request target) := by
  unfold Protected
  infer_instance

def LowRisk (target : Place) : Prop :=
  startsWithAny target.text lowRiskPathPrefixes = true

/-- The guard blocks a request for a protected place, and approves a patch without a human
for documents and tests only. -/
def Guards (digest : String → String) (request : AgentWorkRequest) : Prop :=
  (∀ path ∈ request.requestedPaths, Protected request (place path) →
      (assessAgentScope digest request).accepted = false) ∧
    ((assessAgentScope digest request).riskLevel = .low ∨
        (assessAgentScope digest request).allowedForPatch = true ∨
        (assessAgentScope digest request).requiresHumanApproval = false →
      ∀ path ∈ request.requestedPaths, LowRisk (place path))

def ActionRefused (request : AgentWorkRequest) : Prop :=
  sourceBlockers request.sourceAgent request.action ≠ [] ∨ request.action ∈ forbiddenAgentActions

def RefusedAsSpelled (request : AgentWorkRequest) (path : String) : Prop :=
  startsWithAny path forbiddenPathPrefixes = true ∨ path ∈ request.forbiddenPaths ∨
    outsideAllowedPaths path request.allowedPaths = true

/-- A path leads to a protected place and its spelling does not show it. -/
def Disguised (request : AgentWorkRequest) (path : String) : Prop :=
  Protected request (place path) ∧ ¬RefusedAsSpelled request path

/-! ### When the guard blocks -/

theorem forbidden_of_listed {action : String} {listed : List String}
    (among : listed ⊆ forbiddenAgentActions) (member : decide (action ∈ listed) = true) :
    action ∈ forbiddenAgentActions :=
  among (of_decide_eq_true member)

theorem actionBlockers_eq_nil_iff (action : String) :
    actionBlockers action = [] ↔ action ∉ forbiddenAgentActions := by
  unfold actionBlockers
  simp only [List.append_eq_nil_iff, messageIf_eq_nil, decide_eq_false_iff_not]
  constructor
  · exact fun clear => clear.1
  · intro free
    exact ⟨free, Bool.eq_false_iff.mpr (mt (forbidden_of_listed (by decide)) free),
      Bool.eq_false_iff.mpr (mt (forbidden_of_listed (by decide)) free),
      Bool.eq_false_iff.mpr (mt (forbidden_of_listed (by decide)) free)⟩

section Clean

variable {digest : String → String} {request : AgentWorkRequest} (clean : CleanPaths request)

include clean

theorem pathBlockers_eq_nil_iff {path : String} (member : path ∈ request.requestedPaths) :
    pathBlockers request path = [] ↔ ¬RefusedAsSpelled request path := by
  have kept : request.forbiddenPaths.map cleanPath = request.forbiddenPaths := by
    rw [List.map_congr_left clean.forbidden, List.map_id']
  unfold pathBlockers RefusedAsSpelled
  rw [clean.requested path member, kept]
  simp only [List.append_eq_nil_iff, messageIf_eq_nil, decide_eq_false_iff_not, not_or,
    Bool.not_eq_true]

theorem scopeBlockers_eq_nil_iff :
    scopeBlockers request = [] ↔
      ¬ActionRefused request ∧ ∀ path ∈ request.requestedPaths, ¬RefusedAsSpelled request path := by
  unfold scopeBlockers ActionRefused
  rw [List.append_eq_nil_iff, List.append_eq_nil_iff, List.append_eq_nil_iff, messageIf_eq_nil,
    actionBlockers_eq_nil_iff, List.flatMap_eq_nil_iff, List.isEmpty_eq_false_iff, not_or, not_not]
  constructor
  · rintro ⟨ofSource, free, _, paths⟩
    exact ⟨⟨ofSource, free⟩, fun path member =>
      (pathBlockers_eq_nil_iff clean member).mp (paths path member)⟩
  · rintro ⟨⟨ofSource, free⟩, paths⟩
    exact ⟨ofSource, free, clean.some, fun path member =>
      (pathBlockers_eq_nil_iff clean member).mpr (paths path member)⟩

end Clean

theorem accepted_iff (digest : String → String) (request : AgentWorkRequest) :
    (assessAgentScope digest request).accepted = true ↔ scopeBlockers request = [] := by
  rw [← List.isEmpty_iff]
  unfold assessAgentScope
  dsimp only
  split
  · next blocked => simpa using blocked
  · next clear =>
      have none : (scopeBlockers request).isEmpty = true := by simpa using clear
      rw [none]
      split
      · simp only
      · split <;> simp only

theorem head_of_startsAt {normalized item : String} (written : item.toList ≠ [])
    (kept : (rstripSlash item).toList.head? = item.toList.head?)
    (starts : startsAt normalized item = true) :
    normalized.toList.head? = item.toList.head? := by
  unfold startsAt startsWith at starts
  rcases Bool.or_eq_true_iff.mp starts with same | longer
  · rw [eq_of_beq same, kept]
  · obtain ⟨rest, whole⟩ := List.isPrefixOf_iff_prefix.mp longer
    rw [← whole, List.head?_append_of_ne_nil _ written]

theorem prefixes_lead :
    ∀ item ∈ lowRiskPathPrefixes ++ highRiskPathPrefixes,
      item.toList ≠ [] ∧ (rstripSlash item).toList.head? = item.toList.head? := by
  decide

theorem not_high_of_low {path : String} (low : startsWithAny path lowRiskPathPrefixes = true) :
    startsWithAny path highRiskPathPrefixes = false := by
  have apart : ∀ item ∈ lowRiskPathPrefixes, ∀ other ∈ highRiskPathPrefixes,
      item.toList.head? ≠ other.toList.head? := by decide
  by_contra high
  obtain ⟨item, member, starts⟩ := List.any_eq_true.mp low
  obtain ⟨other, among, also⟩ := List.any_eq_true.mp (Bool.not_eq_false _ ▸ high)
  have first := prefixes_lead item (List.mem_append_left _ member)
  have second := prefixes_lead other (List.mem_append_right _ among)
  apply apart item member other among
  rw [← head_of_startsAt first.1 first.2 starts, ← head_of_startsAt second.1 second.2 also]

theorem not_touchesHighRisk_of_docsOrTestsOnly {request : AgentWorkRequest}
    (only : docsOrTestsOnly request = true) : touchesHighRisk request = false := by
  unfold docsOrTestsOnly at only
  have low := List.all_eq_true.mp (Bool.and_eq_true_iff.mp only).2
  unfold touchesHighRisk
  rw [List.any_eq_false]
  intro path member high
  rw [not_high_of_low (low path member)] at high
  cases high

theorem approved_iff (digest : String → String) (request : AgentWorkRequest) :
    ((assessAgentScope digest request).riskLevel = .low ∨
        (assessAgentScope digest request).allowedForPatch = true ∨
        (assessAgentScope digest request).requiresHumanApproval = false) ↔
      scopeBlockers request = [] ∧ docsOrTestsOnly request = true := by
  rw [← List.isEmpty_iff]
  unfold assessAgentScope
  dsimp only
  split
  · next blocked =>
      have some : (scopeBlockers request).isEmpty = false := by simpa using blocked
      simp [some]
  · next clear =>
      have none : (scopeBlockers request).isEmpty = true := by simpa using clear
      rw [none]
      split
      · next high =>
          have not : docsOrTestsOnly request = false := by
            by_contra only
            rw [not_touchesHighRisk_of_docsOrTestsOnly (Bool.not_eq_false _ ▸ only)] at high
            cases high
          simp [not]
      · split
        · next only => simp [only]
        · next other => simp [other]

theorem guards_iff_of_clean (digest : String → String) {request : AgentWorkRequest}
    (clean : CleanPaths request) :
    Guards digest request ↔
      ActionRefused request ∨ (∃ path ∈ request.requestedPaths, RefusedAsSpelled request path) ∨
        ((∀ path ∈ request.requestedPaths, ¬Disguised request path) ∧
          ((∀ path ∈ request.requestedPaths, startsWithAny path lowRiskPathPrefixes = true) →
            ∀ path ∈ request.requestedPaths, LowRisk (place path))) := by
  have through := scopeBlockers_eq_nil_iff clean
  unfold Guards
  rw [approved_iff]
  by_cases blocked : scopeBlockers request = []
  · obtain ⟨free, spelled⟩ := through.mp blocked
    have accepts := (accepted_iff digest request).mpr blocked
    have only : docsOrTestsOnly request = true ↔
        ∀ path ∈ request.requestedPaths, startsWithAny path lowRiskPathPrefixes = true := by
      unfold docsOrTestsOnly
      rw [List.isEmpty_eq_false_iff.mpr clean.some, Bool.not_false, Bool.true_and, List.all_eq_true]
    have none : ¬∃ path ∈ request.requestedPaths, RefusedAsSpelled request path :=
      fun ⟨path, member, refused⟩ => spelled path member refused
    rw [accepts, only]
    simp only [blocked, true_and, Bool.true_eq_false, imp_false, free, none, false_or]
    refine and_congr_left' (forall₂_congr fun path member => ?_)
    unfold Disguised
    simp only [spelled path member, not_false_eq_true, and_true]
  · have refuses : (assessAgentScope digest request).accepted = false :=
      Bool.eq_false_iff.mpr (mt (accepted_iff digest request).mp blocked)
    simp only [refuses, blocked, implies_true, false_and, false_imp_iff, and_self, true_iff]
    by_contra neither
    rw [not_or, not_or] at neither
    exact blocked (through.mpr ⟨neither.1, fun path member refused =>
      neither.2.1 ⟨path, member, refused⟩⟩)

/-- The guard holds what it promises exactly where a request is refused by its source or
action, or by a path as it is spelled, or where no path is disguised and what is spelled
under documents and tests leads there. -/
theorem scope_guard_holds_iff (digest : String → String) {payload : PyValue}
    {request : AgentWorkRequest} (accepted : normalizeAgentWorkRequest payload = .ok request) :
    Guards digest request ↔
      ActionRefused request ∨ (∃ path ∈ request.requestedPaths, RefusedAsSpelled request path) ∨
        ((∀ path ∈ request.requestedPaths, ¬Disguised request path) ∧
          ((∀ path ∈ request.requestedPaths, startsWithAny path lowRiskPathPrefixes = true) →
            ∀ path ∈ request.requestedPaths, LowRisk (place path))) :=
  guards_iff_of_clean digest (cleanPaths_of_normalize accepted)

/-- The guard is asked for a path that goes through the documents to the credentials. -/
def walkingPayload : PyValue :=
  .dict
    [("source_agent", .str "gsd"), ("action", .str "GENERATE_PATCH"),
      ("title", .str "Tidy the notes"), ("scope", .str "notes"),
      ("requested_paths", .list [.str "docs/../credentials.py"])]

def walkingRequest : AgentWorkRequest :=
  { schemaVersion := .int 1
    sourceAgent := "gsd"
    action := "GENERATE_PATCH"
    title := "Tidy the notes"
    scope := "notes"
    allowedPaths := []
    requestedPaths := ["docs/../credentials.py"]
    forbiddenPaths := []
    requiresHumanApproval := true
    metadata := [] }

def walkingDigest (_ : String) : String :=
  "15995346f2a1996009f7e5ffa0ef29e46b23e643803ab23d6b41df102262b7aa"

theorem walkingPayload_accepted :
    normalizeAgentWorkRequest walkingPayload = .ok walkingRequest := rfl

theorem scope_guard_holds_iff_walking :
    Guards walkingDigest walkingRequest ↔
      ActionRefused walkingRequest ∨
        (∃ path ∈ walkingRequest.requestedPaths, RefusedAsSpelled walkingRequest path) ∨
          ((∀ path ∈ walkingRequest.requestedPaths, ¬Disguised walkingRequest path) ∧
            ((∀ path ∈ walkingRequest.requestedPaths,
                startsWithAny path lowRiskPathPrefixes = true) →
              ∀ path ∈ walkingRequest.requestedPaths, LowRisk (place path))) :=
  scope_guard_holds_iff walkingDigest walkingPayload_accepted

/-- A patch of the credentials is approved without a human. -/
theorem credentials_approved_without_human :
    normalizeAgentWorkRequest walkingPayload = .ok walkingRequest ∧
      (assessAgentScope walkingDigest walkingRequest).accepted = true ∧
      (assessAgentScope walkingDigest walkingRequest).requiresHumanApproval = false ∧
      ¬Guards walkingDigest walkingRequest := by
  have passes : (assessAgentScope walkingDigest walkingRequest).accepted = true := by
    decide
  have protect : Protected walkingRequest (place "docs/../credentials.py") := by decide
  refine ⟨walkingPayload_accepted, passes, by decide, ?_⟩
  intro guards
  have blocks := guards.1 "docs/../credentials.py" List.mem_cons_self protect
  rw [passes] at blocks
  cases blocks

end Algotradify.Agents
