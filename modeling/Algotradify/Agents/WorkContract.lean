/-
Agent work requests: the vocabulary of sources and actions, and the payload that becomes a
request.

Only the shape is checked. Forbidden actions stay representable, so that the scope guard can
refuse them with a reason.
-/

import Algotradify.Json.Scan
import Algotradify.Py.Convert

namespace Algotradify.Agents

open Py Json

/-! ### Vocabulary -/

inductive AgentSource where
  | gsd
  | hermes
  | grillMe
  | manual
deriving DecidableEq

namespace AgentSource

def value : AgentSource → String
  | gsd => "gsd"
  | hermes => "hermes"
  | grillMe => "grill_me"
  | manual => "manual"

def all : List AgentSource :=
  [gsd, hermes, grillMe, manual]

end AgentSource

inductive AgentAction where
  | critiqueScope
  | reviewPr
  | auditRisk
  | findFakeProgress
  | designArchitecture
  | defineContract
  | mapWorkflow
  | createAcceptanceGates
  | planPr
  | generateTests
  | generatePatch
  | fixTestFailure
  | updateDocs
  | placeOrder
  | modifyOrder
  | cancelOrder
  | exitPosition
  | enableLive
  | disableRiskGate
  | changeBrokerConfig
  | changeLiveConfig
  | callBrokerApi
deriving DecidableEq

namespace AgentAction

def value : AgentAction → String
  | critiqueScope => "CRITIQUE_SCOPE"
  | reviewPr => "REVIEW_PR"
  | auditRisk => "AUDIT_RISK"
  | findFakeProgress => "FIND_FAKE_PROGRESS"
  | designArchitecture => "DESIGN_ARCHITECTURE"
  | defineContract => "DEFINE_CONTRACT"
  | mapWorkflow => "MAP_WORKFLOW"
  | createAcceptanceGates => "CREATE_ACCEPTANCE_GATES"
  | planPr => "PLAN_PR"
  | generateTests => "GENERATE_TESTS"
  | generatePatch => "GENERATE_PATCH"
  | fixTestFailure => "FIX_TEST_FAILURE"
  | updateDocs => "UPDATE_DOCS"
  | placeOrder => "PLACE_ORDER"
  | modifyOrder => "MODIFY_ORDER"
  | cancelOrder => "CANCEL_ORDER"
  | exitPosition => "EXIT_POSITION"
  | enableLive => "ENABLE_LIVE"
  | disableRiskGate => "DISABLE_RISK_GATE"
  | changeBrokerConfig => "CHANGE_BROKER_CONFIG"
  | changeLiveConfig => "CHANGE_LIVE_CONFIG"
  | callBrokerApi => "CALL_BROKER_API"

def all : List AgentAction :=
  [critiqueScope, reviewPr, auditRisk, findFakeProgress, designArchitecture, defineContract,
    mapWorkflow, createAcceptanceGates, planPr, generateTests, generatePatch, fixTestFailure,
    updateDocs, placeOrder, modifyOrder, cancelOrder, exitPosition, enableLive, disableRiskGate,
    changeBrokerConfig, changeLiveConfig, callBrokerApi]

end AgentAction

/-- `FORBIDDEN_AGENT_ACTIONS`. -/
def forbiddenAgentActions : List String :=
  [AgentAction.placeOrder.value, AgentAction.modifyOrder.value, AgentAction.cancelOrder.value,
    AgentAction.exitPosition.value, AgentAction.enableLive.value,
    AgentAction.disableRiskGate.value, AgentAction.changeBrokerConfig.value,
    AgentAction.changeLiveConfig.value, AgentAction.callBrokerApi.value]

/-! ### Fields of a payload -/

/-- `AGENT_WORK_SCHEMA_VERSION`. -/
def agentWorkSchemaVersion : Int := 1

/-- `payload.get(key, default)`. -/
def getOr (payload : PyDict) (key : String) (default : PyValue) : PyValue :=
  (payload.lookup key).getD default

/-- A `RuntimeError` of its own kind, raised under a condition. -/
def raiseIf (condition : Bool) (message : String) : Except PyError Unit :=
  if condition then .error (.runtimeError message) else .ok ()

/-- `text.replace(old, new)` for single characters. -/
def replaceChar (text : String) (old new : Char) : String :=
  String.ofList (text.toList.map fun char => if char = old then new else char)

/-- `text.strip().replace(...)`: backslashes become slashes. -/
def cleanPath (text : String) : String :=
  replaceChar (strip text) Json.backslash '/'

/-- `_required_clean_string`. -/
def requiredCleanString (payload : PyDict) (key : String) : Except PyError String :=
  match PyDict.get payload key with
  | .str value =>
      if strip value = "" then .error (.valueError (upper key ++ "_MISSING")) else .ok (strip value)
  | _ => .error (.valueError (upper key ++ "_MUST_BE_STRING"))

def stringItem (key : String) : PyValue → Except PyError String
  | .str item => .ok (cleanPath item)
  | _ => .error (.valueError (upper key ++ "_ITEM_MUST_BE_STRING"))

def listField (payload : PyDict) (key : String) : Except PyError (List PyValue) :=
  match getOr payload key (.list []) with
  | .none => .ok []
  | .list items => .ok items
  | _ => .error (.valueError (upper key ++ "_MUST_BE_LIST"))

/-- `_string_tuple`: blank items are dropped. -/
def stringTuple (payload : PyDict) (key : String) (required : Bool) :
    Except PyError (List String) := do
  let items ← listField payload key
  let cleaned ← items.mapM (stringItem key)
  let normalized := cleaned.filter fun item => item ≠ ""
  if required && normalized.isEmpty then .error (.valueError (upper key ++ "_MISSING"))
  else .ok normalized

/-- `_metadata`. -/
def metadata (payload : PyDict) : Except PyError PyDict :=
  match getOr payload "metadata" (.dict []) with
  | .none => .ok []
  | .dict entries => .ok entries
  | _ => .error (.valueError "METADATA_MUST_BE_OBJECT")

/-- `_schema_version`: a flag is an integer, and `True` equals one. -/
def schemaVersion (payload : PyDict) : Except PyError PyValue :=
  let value := getOr payload "schema_version" (.int agentWorkSchemaVersion)
  match value with
  | .int version =>
      if version = agentWorkSchemaVersion then .ok value
      else .error (.valueError "SCHEMA_VERSION_UNSUPPORTED")
  | .bool version =>
      if version then .ok value else .error (.valueError "SCHEMA_VERSION_UNSUPPORTED")
  | _ => .error (.valueError "SCHEMA_VERSION_MUST_BE_INTEGER")

def underscored (text : String) : String :=
  replaceChar (replaceChar text '-' '_') ' ' '_'

def sourceAliases : List (String × String) :=
  [("grill", AgentSource.grillMe.value), ("grillme", AgentSource.grillMe.value),
    ("grill_me", AgentSource.grillMe.value), ("gsd", AgentSource.gsd.value),
    ("hermes", AgentSource.hermes.value), ("manual", AgentSource.manual.value)]

/-- `_normalize_source`. -/
def normalizeSource (value : String) : Except PyError String :=
  let cleaned := underscored (lower (strip value))
  let normalized := (sourceAliases.lookup cleaned).getD cleaned
  if normalized ∈ AgentSource.all.map AgentSource.value then .ok normalized
  else .error (.valueError "SOURCE_AGENT_UNKNOWN")

/-- `_normalize_action`. -/
def normalizeAction (value : String) : Except PyError String :=
  let normalized := underscored (upper (strip value))
  if normalized ∈ AgentAction.all.map AgentAction.value then .ok normalized
  else .error (.valueError "ACTION_UNKNOWN")

/-! ### Requests -/

structure AgentWorkRequest where
  schemaVersion : PyValue
  sourceAgent : String
  action : String
  title : String
  scope : String
  allowedPaths : List String
  requestedPaths : List String
  forbiddenPaths : List String
  requiresHumanApproval : Bool
  metadata : PyDict

/-- `normalize_agent_work_request`. -/
def normalizeAgentWorkRequest : PyValue → Except PyError AgentWorkRequest
  | .dict raw => do
      let version ← schemaVersion raw
      let sourceText ← requiredCleanString raw "source_agent"
      let sourceAgent ← normalizeSource sourceText
      let actionText ← requiredCleanString raw "action"
      let action ← normalizeAction actionText
      let title ← requiredCleanString raw "title"
      let scope ← requiredCleanString raw "scope"
      let allowedPaths ← stringTuple raw "allowed_paths" false
      let requestedPaths ← stringTuple raw "requested_paths" true
      let forbiddenPaths ← stringTuple raw "forbidden_paths" false
      let entries ← metadata raw
      pure
        { schemaVersion := version
          sourceAgent := sourceAgent
          action := action
          title := title
          scope := scope
          allowedPaths := allowedPaths
          requestedPaths := requestedPaths
          forbiddenPaths := forbiddenPaths
          requiresHumanApproval :=
            (getOr raw "requires_human_approval" (.bool true)).truthy
          metadata := entries }
  | _ => .error (.valueError "AGENT_WORK_PAYLOAD_MUST_BE_OBJECT")

/-- `build_agent_work_id`: the identity fields, digested. -/
def buildAgentWorkId (digest : String → String) (request : AgentWorkRequest) : String :=
  let identity : PyDict :=
    [("schema_version", request.schemaVersion), ("source_agent", .str request.sourceAgent),
      ("action", .str request.action), ("title", .str request.title),
      ("scope", .str request.scope), ("requested_paths", ofStrings request.requestedPaths)]
  String.ofList ((digest (jsonDumps compactAscii (.dict identity))).toList.take 24)

/-! ### What an accepted request holds -/

theorem stripChars_map (change : Char → Char) (spaces : ∀ char, isSpace (change char) = isSpace char)
    (chars : List Char) : stripChars (chars.map change) = (stripChars chars).map change := by
  have same : isSpace ∘ change = isSpace := funext spaces
  unfold stripChars
  rw [List.dropWhile_map, same, ← List.map_reverse, List.dropWhile_map, same, ← List.map_reverse]

theorem isSpace_slashed (char : Char) :
    isSpace (if char = Json.backslash then '/' else char) = isSpace char := by
  split
  · next same =>
      rw [same]
      decide
  · rfl

theorem cleanPath_cleanPath (text : String) : cleanPath (cleanPath text) = cleanPath text := by
  have stripped : strip (cleanPath text) = cleanPath text := by
    unfold cleanPath replaceChar
    rw [strip, String.toList_ofList, stripChars_map _ isSpace_slashed, ← String.toList_ofList (l := stripChars _),
      ← strip, strip_strip]
  rw [cleanPath, stripped]
  unfold cleanPath replaceChar
  rw [String.toList_ofList, List.map_map]
  apply congrArg String.ofList
  apply List.map_congr_left
  intro char _
  simp only [Function.comp_apply]
  split
  · rfl
  · rfl

theorem clean_of_stringTuple {payload : PyDict} {key : String} {required : Bool}
    {paths : List String} (accepted : stringTuple payload key required = .ok paths) :
    ∀ path ∈ paths, cleanPath path = path := by
  obtain ⟨items, _, continued⟩ := bind_eq_ok.mp accepted
  obtain ⟨cleaned, converted, ended⟩ := bind_eq_ok.mp continued
  intro path member
  have among : path ∈ cleaned := by
    dsimp only at ended
    split at ended
    · cases ended
    · cases ended
      exact List.mem_of_mem_filter member
  obtain ⟨item, _, made⟩ := exists_of_mem_mapM converted path among
  cases item with
  | str text =>
      have same : cleanPath text = path := Except.ok.inj made
      rw [← same, cleanPath_cleanPath]
  | _ => cases made

theorem ne_nil_of_stringTuple {payload : PyDict} {key : String} {paths : List String}
    (accepted : stringTuple payload key true = .ok paths) : paths ≠ [] := by
  obtain ⟨items, _, continued⟩ := bind_eq_ok.mp accepted
  obtain ⟨cleaned, _, ended⟩ := bind_eq_ok.mp continued
  dsimp only at ended
  split at ended
  · cases ended
  · next some =>
      rw [Bool.true_and, List.isEmpty_iff] at some
      rw [← Except.ok.inj ended]
      exact some

structure CleanPaths (request : AgentWorkRequest) : Prop where
  requested : ∀ path ∈ request.requestedPaths, cleanPath path = path
  forbidden : ∀ path ∈ request.forbiddenPaths, cleanPath path = path
  some : request.requestedPaths ≠ []

theorem cleanPaths_of_normalize {payload : PyValue} {request : AgentWorkRequest}
    (accepted : normalizeAgentWorkRequest payload = .ok request) : CleanPaths request := by
  cases payload with
  | dict raw =>
      obtain ⟨_, _, accepted⟩ := bind_eq_ok.mp accepted
      obtain ⟨_, _, accepted⟩ := bind_eq_ok.mp accepted
      obtain ⟨_, _, accepted⟩ := bind_eq_ok.mp accepted
      obtain ⟨_, _, accepted⟩ := bind_eq_ok.mp accepted
      obtain ⟨_, _, accepted⟩ := bind_eq_ok.mp accepted
      obtain ⟨_, _, accepted⟩ := bind_eq_ok.mp accepted
      obtain ⟨_, _, accepted⟩ := bind_eq_ok.mp accepted
      obtain ⟨_, _, accepted⟩ := bind_eq_ok.mp accepted
      obtain ⟨_, requested, accepted⟩ := bind_eq_ok.mp accepted
      obtain ⟨_, forbidden, accepted⟩ := bind_eq_ok.mp accepted
      obtain ⟨_, _, made⟩ := bind_eq_ok.mp accepted
      cases made
      exact ⟨clean_of_stringTuple requested, clean_of_stringTuple forbidden,
        ne_nil_of_stringTuple requested⟩
  | _ => cases accepted

end Algotradify.Agents
