/-
The task store of the agents: one file for each task, named after the work id, and an index that
is made again by reading all of them after every call.

Work ids are free text, and the file name is the id as it is spelled.
-/

import Algotradify.Agents.WorkContract
import Algotradify.Json.ObjectTrees
import Algotradify.Posix.Paths
import Algotradify.Py.Comprehension
import Algotradify.Transition.Run

namespace Algotradify.Agents.TaskStore

open Py Json Posix Transition

/-! ### Records -/

/-- `TASK_STORE_SCHEMA_VERSION`. -/
def taskStoreSchemaVersion : Int := 1

def taskSafeFlags : PyDict :=
  [("read_only", .bool true), ("is_order_action", .bool false), ("broker_api_called", .bool false),
    ("live_mode_touched", .bool false), ("allowed_for_live_execution", .bool false)]

structure AgentTaskRecord where
  workId : String
  sourceAgent : String
  action : String
  state : String
  riskLevel : String
  createdAt : String
  request : PyDict
  scopeDecision : PyDict
  approvalDecision : Option PyDict
  evidenceRef : Option PyDict

def ofOptionDict : Option PyDict → PyValue
  | none => .none
  | some entries => .dict entries

/-- `AgentTaskRecord.to_dict`. -/
def AgentTaskRecord.toDict (record : AgentTaskRecord) : PyDict :=
  [("schema_version", .int taskStoreSchemaVersion), ("work_id", .str record.workId),
    ("source_agent", .str record.sourceAgent), ("action", .str record.action),
    ("state", .str record.state), ("risk_level", .str record.riskLevel),
    ("created_at", .str record.createdAt), ("request", .dict record.request),
    ("scope_decision", .dict record.scopeDecision),
    ("approval_decision", ofOptionDict record.approvalDecision),
    ("evidence_ref", ofOptionDict record.evidenceRef)] ++ taskSafeFlags ++
    [("metadata", .dict [("contract", .str "agent_task_store_v1"),
      ("scope", .str "local_task_record_only_no_api_no_ui_no_execution")])]

mutual

/-- `_json_safe`: keys are printed, and tuples become lists. -/
def jsonSafe : PyObject → PyValue
  | .none => .none
  | .bool flag => .bool flag
  | .int value => .int value
  | .float value => .float value
  | .str text => .str text
  | .list items => .list (safeItems items)
  | .tuple items => .list (safeItems items)
  | .dict entries => .dict (safeEntries [] entries)

def safeItems : List PyObject → List PyValue
  | [] => []
  | item :: rest => jsonSafe item :: safeItems rest

def safeEntries (done : PyDict) : List (PyKey × PyObject) → PyDict
  | [] => done
  | (key, value) :: rest => safeEntries (done.set key.print (jsonSafe value)) rest

end

/-- `_assert_safe_task_payload`. -/
def assertSafeTaskPayload (payload : PyDict) : Except PyError Unit := do
  taskSafeFlags.forM fun flag =>
    raiseIf (!PyValue.equal (PyDict.get payload flag.1) flag.2) ("UNSAFE_TASK_" ++ upper flag.1)
  match PyDict.get payload "approval_decision" with
  | .dict approval =>
      ["allowed_for_broker_api", "allowed_for_live_execution", "allowed_for_runtime_wiring"].forM
        fun key => raiseIf (PyDict.get approval key).isTrue ("UNSAFE_TASK_" ++ upper key)
  | _ => .ok ()

/-- `str(payload.get(key) or "UNKNOWN")`. -/
def textOrUnknown (payload : PyDict) (key : String) : String :=
  if (PyDict.get payload key).truthy then printValue (PyDict.get payload key) else "UNKNOWN"

/-- `str(payload.get(key, ""))`. -/
def textOrEmpty (payload : PyDict) (key : String) : String :=
  printValue (getOr payload key (.str ""))

/-- `isinstance(payload, Mapping)`, or the error that is raised otherwise. -/
def requireMapping (payload : PyValue) (message : String) : Except PyError PyDict :=
  match payload with
  | .dict entries => .ok entries
  | _ => .error (.runtimeError message)

/-- `None`, or a mapping. -/
def optionalMapping (payload : PyValue) (message : String) : Except PyError (Option PyDict) :=
  match payload with
  | .none => .ok none
  | .dict entries => .ok (some entries)
  | _ => .error (.runtimeError message)

/-- `str(scope_payload.get("work_id") or build_agent_work_id(request))`. -/
def taskWorkId (computedWorkId : Except PyError String) (scopePayload : PyDict) :
    Except PyError String :=
  if (PyDict.get scopePayload "work_id").truthy then
    .ok (printValue (PyDict.get scopePayload "work_id"))
  else computedWorkId

/-- `build_agent_task_record`. The work id of a scope without one is computed from the request. -/
def buildAgentTaskRecord (computedWorkId : Except PyError String)
    (request scopeDecision approvalDecision evidenceRef : PyObject) (createdAt : String) :
    Except PyError AgentTaskRecord := do
  let requestPayload ← requireMapping (jsonSafe request) "TASK_REQUEST_MUST_BE_OBJECT"
  let scopePayload ← requireMapping (jsonSafe scopeDecision) "TASK_SCOPE_DECISION_MUST_BE_OBJECT"
  let approvalPayload ←
    optionalMapping (jsonSafe approvalDecision) "TASK_APPROVAL_DECISION_MUST_BE_OBJECT"
  let workId ← taskWorkId computedWorkId scopePayload
  let record : AgentTaskRecord :=
    { workId := workId
      sourceAgent := textOrEmpty requestPayload "source_agent"
      action := textOrEmpty requestPayload "action"
      state := textOrUnknown scopePayload "state"
      riskLevel := textOrUnknown scopePayload "risk_level"
      createdAt := createdAt
      request := requestPayload
      scopeDecision := scopePayload
      approvalDecision := approvalPayload
      evidenceRef := match jsonSafe evidenceRef with
        | .dict entries => some entries
        | _ => none }
  assertSafeTaskPayload record.toDict
  pure record

def dedupeKeys : List String :=
  ["work_id", "source_agent", "action", "state", "risk_level", "request", "scope_decision",
    "approval_decision", "evidence_ref", "read_only", "is_order_action", "broker_api_called",
    "live_mode_touched", "allowed_for_live_execution"]

/-- `_dedupe_payload`. -/
def dedupePayload (payload : PyDict) : PyDict :=
  dedupeKeys.map fun key => (key, PyDict.get payload key)

/-- `_stable_json`. -/
def stableJson (payload : PyDict) : String :=
  jsonDumps compactAscii (.dict payload)

/-! ### Files -/

/-- `indent=2`. -/
def taskLayout : Layout :=
  { afterComma := 0, afterColon := 1, indent := some 2, ensureAscii := true }

/-- What `_write_json_atomic` writes. -/
def jsonText (payload : PyDict) : String :=
  jsonDumps taskLayout (.dict payload)

/-- The texts of the files, by their places as seen from the root directory of the store. -/
abbrev Disk := List (Place × String)

/-- `_tasks_dir`. -/
def tasksDir : Place :=
  ⟨false, 0, ["tasks".toList]⟩

/-- `_index_path`. -/
def indexPath : Place :=
  ⟨false, 0, ["agent_task_index.json".toList]⟩

/-- `_task_path`: an id that starts with a slash leads away from the directory. -/
def taskPath (workId : String) : Place :=
  let fileName := workId ++ ".json"
  if startsWith fileName "/" then place fileName
  else (componentsOf fileName).foldl Place.enter tasksDir

def fileName (path : Place) : String :=
  String.ofList (path.names.getLastD [])

/-- `_load_task_file`, for the text of the file. -/
def loadTaskFile (path : Place) (text : String) : Except PyError PyDict :=
  match jsonLoads text with
  | none => .error (.runtimeError ("TASK_FILE_CORRUPT:" ++ fileName path))
  | some (.dict payload) => do
      raiseIf (!PyValue.equal (PyDict.get payload "schema_version") (.int taskStoreSchemaVersion))
        ("TASK_FILE_SCHEMA_UNSUPPORTED:" ++ fileName path)
      assertSafeTaskPayload payload
      pure payload
  | some _ => .error (.runtimeError ("TASK_FILE_NOT_OBJECT:" ++ fileName path))

/-- A file that `tasks_dir.glob("*.json")` finds. -/
def isTaskFile (path : Place) : Bool :=
  decide (path.parent = tasksDir) && ".json".toList.isSuffixOf (path.names.getLastD [])

def sortedFiles (files : Disk) : Disk :=
  files.insertionSort fun first second => fileName first.1 ≤ fileName second.1

/-- `payload[key]`. -/
def requireField (payload : PyDict) (key : String) : Except PyError (String × PyValue) :=
  match payload.lookup key with
  | some value => .ok (key, value)
  | none => .error (.runtimeError key)

def indexRecord (file : Place × String) : Except PyError PyDict := do
  let payload ← loadTaskFile file.1 file.2
  let fields ← ["work_id", "source_agent", "action", "state", "risk_level", "created_at"].mapM
    (requireField payload)
  pure (fields ++ taskSafeFlags)

def indexOf (records : List PyDict) : PyDict :=
  [("schema_version", .int taskStoreSchemaVersion), ("contract", .str "agent_task_index_v1"),
    ("count", .int records.length), ("records", .list (records.map PyValue.dict))] ++
    taskSafeFlags ++
    [("metadata", .dict [("scope", .str "local_task_index_only_no_api_no_ui_no_execution")])]

/-- `rebuild_agent_task_index`: all task files are read before the index is written. -/
def rebuildAgentTaskIndex (disk : Disk) : Except PyError (PyDict × Disk) := do
  let records ← (sortedFiles (disk.filter fun file => isTaskFile file.1)).mapM indexRecord
  let index := indexOf records
  assertSafeTaskPayload index
  pure (index, Assoc.set disk indexPath (jsonText index))

/-- The end of a call: the index is made again, and the call answers. -/
def finish (disk : Disk) (record : AgentTaskRecord) (status : String) : Except PyError PyDict × Disk :=
  match rebuildAgentTaskIndex disk with
  | .error raised => (.error raised, disk)
  | .ok (index, written) =>
      (.ok ([("status", .str status), ("work_id", .str record.workId),
        ("index_count", PyDict.get index "count")] ++ taskSafeFlags), written)

/-- `persist_agent_task`. -/
def persistAgentTask (disk : Disk) (record : AgentTaskRecord) : Except PyError PyDict × Disk :=
  match assertSafeTaskPayload record.toDict with
  | .error raised => (.error raised, disk)
  | .ok () =>
      match disk.lookup (taskPath record.workId) with
      | some text =>
          match loadTaskFile (taskPath record.workId) text with
          | .error raised => (.error raised, disk)
          | .ok existing =>
              if stableJson (dedupePayload existing) ≠ stableJson (dedupePayload record.toDict) then
                (.error (.runtimeError "TASK_ID_CONFLICT"), disk)
              else finish disk record "EXISTS"
      | none =>
          finish (Assoc.set disk (taskPath record.workId) (jsonText record.toDict)) record "CREATED"

/-! ### What is promised -/

def Built (record : AgentTaskRecord) : Prop :=
  wellFormed (.dict record.toDict) = true ∧
    ∃ computedWorkId request scopeDecision approvalDecision evidenceRef createdAt,
      buildAgentTaskRecord computedWorkId request scopeDecision approvalDecision evidenceRef
        createdAt = .ok record

def NamesFile (workId : String) : Prop :=
  '/' ∉ workId.toList

abbrev Call := AgentTaskRecord × Except PyError PyDict

def call (disk : Disk) (record : AgentTaskRecord) : Option (Except PyError PyDict × Disk) :=
  some (persistAgentTask disk record)

def Returned (entry : Call) : Prop :=
  ∃ response, entry.2 = .ok response

def SameTask (first second : PyDict) : Prop :=
  sortKeys (.dict (dedupePayload first)) = sortKeys (.dict (dedupePayload second))

def indexedIds (index : PyDict) : List PyValue :=
  match PyDict.get index "records" with
  | .list records => records.map fun record => PyDict.get record.asDict "work_id"
  | _ => []

/-- The work ids in the index file, when it is there and can be read. -/
def listedIds (disk : Disk) : Option (List PyValue) :=
  match (disk.lookup indexPath).bind jsonLoads with
  | some (.dict index) => some (indexedIds index)
  | _ => none

def Lists (disk : Disk) (persisted : String → Prop) : Prop :=
  ∃ ids : List String, listedIds disk = some (ids.map PyValue.str) ∧ ids.Nodup ∧
    ∀ workId, workId ∈ ids ↔ persisted workId

theorem isName_json (chars : List Char) : IsName (chars ++ ".json".toList) := by
  have long : 5 ≤ (chars ++ ".json".toList).length := by
    rw [List.length_append]
    exact Nat.le_add_left 5 chars.length
  refine ⟨?_, ?_, ?_⟩
  · intro same
    rw [same] at long
    exact absurd long (by decide)
  · intro same
    rw [same] at long
    exact absurd long (by decide)
  · intro same
    rw [same] at long
    exact absurd long (by decide)

theorem taskPath_of_names {workId : String} (names : NamesFile workId) :
    taskPath workId = ⟨false, 0, ["tasks".toList, workId.toList ++ ".json".toList]⟩ := by
  have free : '/' ∉ (workId ++ ".json").toList := by
    rw [String.toList_append]
    intro member
    rcases List.mem_append.mp member with inside | last
    · exact names inside
    · exact absurd last (by decide)
  have single : componentsOf (workId ++ ".json") = [workId.toList ++ ".json".toList] := by
    unfold componentsOf
    rw [List.splitOn_eq_singleton free, String.toList_append]
  have relative : startsWith (workId ++ ".json") "/" = false := by
    rw [Bool.eq_false_iff]
    intro starts
    apply free
    rw [startsWith, List.isPrefixOf_iff_prefix] at starts
    exact starts.subset (List.mem_singleton_self '/')
  unfold taskPath
  dsimp only
  rw [relative, single, if_neg Bool.false_ne_true, List.foldl_cons, List.foldl_nil,
    Place.enter_name (isName_json workId.toList)]
  rfl

theorem isTaskFile_taskPath {workId : String} (names : NamesFile workId) :
    isTaskFile (taskPath workId) = true := by
  rw [taskPath_of_names names, isTaskFile]
  have inside : (Place.mk false 0 ["tasks".toList, workId.toList ++ ".json".toList]).parent =
      tasksDir := rfl
  have ends : ".json".toList.isSuffixOf (workId.toList ++ ".json".toList) = true :=
    List.isSuffixOf_iff_suffix.mpr (List.suffix_append _ _)
  rw [inside, decide_eq_true rfl, Bool.true_and]
  exact ends

theorem taskPath_inj {first second : String} (left : NamesFile first) (right : NamesFile second) :
    taskPath first = taskPath second ↔ first = second := by
  rw [taskPath_of_names left, taskPath_of_names right]
  constructor
  · intro same
    have names := (Place.mk.inj same).2.2
    have texts := List.append_cancel_right (List.cons.inj (List.cons.inj names).2).1
    exact String.toList_inj.mp texts
  · rintro rfl
    rfl

theorem isTaskFile_indexPath : isTaskFile indexPath = false := by decide

/-! ### The files of a store -/

def taskFile (record : AgentTaskRecord) : Place × String :=
  (taskPath record.workId, jsonText record.toDict)

/-- The task files of the disk are those of these records, one for each id. -/
structure Holds (tasks : List AgentTaskRecord) (disk : Disk) : Prop where
  files : disk.filter (fun file => isTaskFile file.1) = tasks.map taskFile
  sound : ∀ record ∈ tasks, Built record ∧ NamesFile record.workId
  distinct : (tasks.map AgentTaskRecord.workId).Nodup

theorem lookup_filter_key {keep : Place → Bool} {place : Place} (kept : keep place = true)
    (disk : Disk) : (disk.filter fun file => keep file.1).lookup place = disk.lookup place := by
  induction disk with
  | nil => rfl
  | cons head rest ih =>
      obtain ⟨other, text⟩ := head
      by_cases same : place = other
      · subst same
        simp [kept]
      · rw [Assoc.lookup_cons_of_ne same, ← ih]
        cases passes : keep other with
        | true => simp [passes, Assoc.lookup_cons_of_ne same]
        | false => simp [passes]

theorem filter_set_other {keep : Place → Bool} {place : Place} (dropped : keep place = false)
    (disk : Disk) (text : String) :
    (Assoc.set disk place text).filter (fun file => keep file.1) =
      disk.filter fun file => keep file.1 := by
  induction disk with
  | nil => simp [Assoc.set, dropped]
  | cons head rest ih =>
      obtain ⟨other, old⟩ := head
      by_cases same : place = other
      · subst same
        simp [Assoc.set, dropped]
      · simp only [Assoc.set, if_neg same, List.filter_cons, ih]

namespace Holds

variable {tasks : List AgentTaskRecord} {disk : Disk} {record : AgentTaskRecord}

theorem empty : Holds [] [] :=
  ⟨rfl, fun _ member => absurd member List.not_mem_nil, List.nodup_nil⟩

theorem lookup_eq (holds : Holds tasks disk) {workId : String} (names : NamesFile workId) :
    disk.lookup (taskPath workId) = (tasks.map taskFile).lookup (taskPath workId) := by
  rw [← lookup_filter_key (isTaskFile_taskPath names), holds.files]

theorem lookup_absent (holds : Holds tasks disk) {workId : String} (names : NamesFile workId)
    (absent : workId ∉ tasks.map AgentTaskRecord.workId) : disk.lookup (taskPath workId) = none := by
  rw [holds.lookup_eq names, Assoc.lookup_eq_none_iff, List.map_map]
  intro member
  obtain ⟨stored, inside, same⟩ := List.mem_map.mp member
  have own := (taskPath_inj (holds.sound stored inside).2 names).mp same
  exact absent (own ▸ List.mem_map_of_mem inside)

theorem index (holds : Holds tasks disk) (text : String) :
    Holds tasks (Assoc.set disk indexPath text) :=
  ⟨(filter_set_other isTaskFile_indexPath disk text).trans holds.files, holds.sound,
    holds.distinct⟩

theorem store (holds : Holds tasks disk) (built : Built record) (names : NamesFile record.workId)
    (absent : record.workId ∉ tasks.map AgentTaskRecord.workId) :
    Holds (tasks ++ [record])
      (Assoc.set disk (taskPath record.workId) (jsonText record.toDict)) := by
  refine ⟨?_, ?_, ?_⟩
  · rw [Assoc.set_of_notMem (Assoc.lookup_eq_none_iff.mp (holds.lookup_absent names absent)), List.filter_append, holds.files,
      List.map_append]
    simp [isTaskFile_taskPath names, taskFile]
  · intro other member
    rcases List.mem_append.mp member with earlier | last
    · exact holds.sound other earlier
    · rw [List.mem_singleton.mp last]
      exact ⟨built, names⟩
  · rw [List.map_append, List.map_singleton]
    rw [← List.concat_eq_append]
    exact holds.distinct.concat absent

end Holds

/-! ### The index -/

section Calls

variable {tasks : List AgentTaskRecord} {disk : Disk} {record stored : AgentTaskRecord}

/-- The records that a history of calls leaves, and what the calls that returned say of them. -/
structure Kept (history : List Call) (disk : Disk) (tasks : List AgentTaskRecord) : Prop where
  holds : Holds tasks disk
  returned : ∀ entry ∈ history, Returned entry →
    ∃ stored ∈ tasks, stored.workId = entry.1.workId ∧ SameTask stored.toDict entry.1.toDict
  made : ∀ stored ∈ tasks, ∃ entry ∈ history, Returned entry ∧ entry.1.workId = stored.workId

variable {history : List Call}

theorem Kept.persisted (kept : Kept history disk tasks) (workId : String) :
    workId ∈ tasks.map AgentTaskRecord.workId ↔
      ∃ entry ∈ history, Returned entry ∧ entry.1.workId = workId := by
  constructor
  · intro member
    obtain ⟨stored, inside, rfl⟩ := List.mem_map.mp member
    exact kept.made stored inside
  · rintro ⟨entry, member, returned, rfl⟩
    obtain ⟨stored, inside, same, _⟩ := kept.returned entry member returned
    exact same ▸ List.mem_map_of_mem inside

theorem Lists.congr {first second : String → Prop} (lists : Lists disk first)
    (same : ∀ workId, first workId ↔ second workId) : Lists disk second := by
  obtain ⟨ids, listed, once, members⟩ := lists
  exact ⟨ids, listed, once, fun workId => (members workId).trans (same workId)⟩

end Calls

/-! ### An id that is a path -/

end Algotradify.Agents.TaskStore
