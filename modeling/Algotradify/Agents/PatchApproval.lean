/-
Patch approvals: a decision of a human about the patch of one piece of agent work, in a file
that is named after the work.

A call that records a decision looks whether the file is there and replaces it in a later
step. The calls of several workers interleave at these two steps.
-/

import Algotradify.Agents.WorkContract
import Algotradify.Json.ObjectTrees
import Algotradify.Posix.Paths
import Algotradify.Py.Comprehension
import Algotradify.Transition.Interleaving
import Mathlib.Logic.Function.Basic

namespace Algotradify.Agents.PatchApproval

open Py Json Transition

/-! ### Records -/

/-- `AGENT_PATCH_APPROVAL_SCHEMA_VERSION`. -/
def agentPatchApprovalSchemaVersion : Int := 1

/-- `AGENT_PATCH_APPROVAL_CONTRACT`. -/
def agentPatchApprovalContract : String := "agent_patch_approval_v1"

/-- `_base_safe_flags`. -/
def baseSafeFlags : PyDict :=
  [("read_only", .bool true), ("patch_approval_only", .bool true),
    ("allowed_for_runtime_wiring", .bool false), ("allowed_for_broker_api", .bool false),
    ("allowed_for_live_execution", .bool false), ("is_order_action", .bool false),
    ("broker_api_called", .bool false), ("live_mode_touched", .bool false), ("real_order_id", .none)]

/-- `_response_safe_flags`. -/
def responseSafeFlags (allowedForPatch : Bool) : PyDict :=
  baseSafeFlags ++ [("allowed_for_patch", .bool allowedForPatch)]

def assertFlag (payload : PyDict) (flag : String × PyValue) : Except PyError Unit :=
  raiseIf (!PyValue.equal (PyDict.get payload flag.1) flag.2) ("UNSAFE_APPROVAL_" ++ upper flag.1)

/-- `_assert_safe_record`. -/
def assertSafeRecord (payload : PyDict) : Except PyError Unit := do
  raiseIf (!PyValue.equal (PyDict.get payload "schema_version")
    (.int agentPatchApprovalSchemaVersion)) "APPROVAL_SCHEMA_UNSUPPORTED"
  raiseIf (!(PyDict.get payload "contract").isStr agentPatchApprovalContract)
    "APPROVAL_CONTRACT_UNSUPPORTED"
  baseSafeFlags.forM (assertFlag payload)
  let allowedForPatch := PyDict.get payload "allowed_for_patch"
  raiseIf (allowedForPatch.isTrue && !(PyDict.get payload "decision").isStr "APPROVED_FOR_PATCH")
    "PATCH_PERMISSION_WITHOUT_APPROVAL"
  raiseIf (!allowedForPatch.isTrue && !allowedForPatch.isFalse) "ALLOWED_FOR_PATCH_MUST_BE_BOOLEAN"

/-- `_clean_actor`. -/
def cleanActor (value : PyValue) (field : String) : Except PyError String :=
  match value with
  | .str text =>
      if strip text = "" then .error (.runtimeError (upper field ++ "_REQUIRED"))
      else .ok (strip text)
  | _ => .error (.runtimeError (upper field ++ "_MUST_BE_STRING"))

/-- `_clean_reason`. -/
def cleanReason : PyValue → Except PyError PyValue
  | .none => .ok .none
  | .str text => .ok (if strip text = "" then .none else .str (strip text))
  | _ => .error (.runtimeError "REASON_MUST_BE_STRING")

/-- `_assert_task_safe`. -/
def assertTaskSafe (task : PyDict) : Except PyError Unit := do
  raiseIf (!(PyDict.get task "read_only").isTrue) "TASK_READ_ONLY_FLAG_UNSAFE"
  raiseIf (!(PyDict.get task "is_order_action").isFalse) "TASK_ORDER_ACTION_UNSAFE"
  raiseIf (!(PyDict.get task "broker_api_called").isFalse) "TASK_BROKER_FLAG_UNSAFE"
  raiseIf (!(PyDict.get task "live_mode_touched").isFalse) "TASK_LIVE_FLAG_UNSAFE"
  raiseIf (!(PyDict.get task "allowed_for_live_execution").isFalse) "TASK_LIVE_PERMISSION_UNSAFE"

/-- `_assert_approval_decision_safe`. -/
def assertApprovalDecisionSafe (decision : PyDict) : Except PyError Unit := do
  raiseIf (!(PyDict.get decision "approved").isTrue) "APPROVAL_DECISION_NOT_APPROVED"
  raiseIf (!(PyDict.get decision "allowed_for_patch").isTrue) "PATCH_NOT_ALLOWED"
  ["allowed_for_runtime_wiring", "allowed_for_broker_api", "allowed_for_live_execution",
    "is_order_action", "broker_api_called", "live_mode_touched"].forM fun key =>
      raiseIf (PyDict.get decision key).isTrue ("UNSAFE_APPROVAL_DECISION_" ++ upper key)

def decisionRecord (workId : String) (task : PyDict) (approved : Bool) (actor : String)
    (reason : PyValue) (createdAt : String) (decision : PyValue) (scope : String) : PyDict :=
  [("schema_version", .int agentPatchApprovalSchemaVersion),
    ("contract", .str agentPatchApprovalContract), ("work_id", .str workId),
    ("decision", .str (if approved then "APPROVED_FOR_PATCH" else "REJECTED_FOR_PATCH")),
    ("approved", .bool approved),
    ("approved_by", if approved then .str actor else .none),
    ("rejected_by", if approved then .none else .str actor), ("reason", reason),
    ("created_at", .str createdAt), ("source_agent", PyDict.get task "source_agent"),
    ("action", PyDict.get task "action"), ("risk_level", PyDict.get task "risk_level"),
    ("task_state", PyDict.get task "state"), ("approval_decision", decision),
    ("metadata", .dict [("scope", .str scope)])] ++ responseSafeFlags approved

/-- `build_agent_patch_approval_record`, at a time that is printed as `createdAt`. -/
def buildAgentPatchApprovalRecord (workId : String) (task approvalDecision : PyDict)
    (approvedBy reason : PyValue) (createdAt : String) : Except PyError PyDict := do
  let actor ← cleanActor approvedBy "approved_by"
  let cleanedReason ← cleanReason reason
  raiseIf (!(PyDict.get task "work_id").isStr workId) "TASK_WORK_ID_MISMATCH"
  assertTaskSafe task
  assertApprovalDecisionSafe approvalDecision
  let payload := decisionRecord workId task true actor cleanedReason createdAt
    (.dict approvalDecision) "patch_approval_record_only_no_execution"
  assertSafeRecord payload
  pure payload

/-- `build_agent_patch_rejection_record`. -/
def buildAgentPatchRejectionRecord (workId : String) (task : PyDict) (rejectedBy reason : PyValue)
    (createdAt : String) : Except PyError PyDict := do
  let actor ← cleanActor rejectedBy "rejected_by"
  let cleanedReason ← cleanReason reason
  raiseIf (!(PyDict.get task "work_id").isStr workId) "TASK_WORK_ID_MISMATCH"
  assertTaskSafe task
  let payload := decisionRecord workId task false actor cleanedReason createdAt .none
    "patch_rejection_record_only_no_execution"
  assertSafeRecord payload
  pure payload

/-! ### The file of a decision -/

/-- `indent=2`. -/
def approvalLayout : Layout :=
  { afterComma := 0, afterColon := 1, indent := some 2, ensureAscii := true }

/-- `json.dumps(payload, sort_keys=True, indent=2)`. -/
def approvalText (record : PyDict) : String :=
  jsonDumps approvalLayout (.dict record)

abbrev Files := String → Option String

/-- `_approval_path`, in the approval directory. -/
def approvalPath (workId : String) : String :=
  workId ++ ".json"

/-- `path.name`. -/
def pathName (path : String) : String :=
  String.ofList ((Posix.componentsOf path).getLastD [])

/-- `load_agent_patch_approval`. -/
def loadAgentPatchApproval (files : Files) (workId : String) : Except PyError (Option PyDict) :=
  match files (approvalPath workId) with
  | none => .ok none
  | some text =>
      match jsonLoads text with
      | none => .error (.runtimeError ("APPROVAL_FILE_CORRUPT:" ++ pathName (approvalPath workId)))
      | some (.dict payload) => do
          assertSafeRecord payload
          pure (some payload)
      | some _ =>
          .error (.runtimeError ("APPROVAL_FILE_NOT_OBJECT:" ++ pathName (approvalPath workId)))

/-! ### Calls that interleave -/

/-- How far a call of `persist_agent_patch_approval` is. -/
inductive Stage where
  | waiting
  | checked
  | created (response : PyDict)
  | raised (error : PyError)

structure Call where
  record : PyDict
  stage : Stage

structure World where
  files : Files
  calls : List Call

/-- The two steps of a call: what comes before the existence check and the check itself, and the
replacement of the file. -/
inductive Move where
  | check (call : Nat)
  | write (call : Nat)

def recordPath (record : PyDict) : String :=
  approvalPath (printValue (PyDict.get record "work_id"))

def checkRecord (files : Files) (record : PyDict) : Stage :=
  match assertSafeRecord record with
  | .error raised => .raised raised
  | .ok () =>
      if (files (recordPath record)).isSome then
        .raised (.runtimeError "APPROVAL_DECISION_ALREADY_RECORDED")
      else .checked

def createdResponse (record : PyDict) : PyDict :=
  [("status", .str "CREATED"), ("work_id", PyDict.get record "work_id")] ++
    responseSafeFlags (PyDict.get record "allowed_for_patch").truthy

def World.put (world : World) (index : Nat) (call : Call) : World :=
  { world with calls := world.calls.set index call }

def step (world : World) : Move → Option World
  | .check index =>
      match world.calls[index]? with
      | some ⟨record, .waiting⟩ =>
          some (world.put index ⟨record, checkRecord world.files record⟩)
      | _ => none
  | .write index =>
      match world.calls[index]? with
      | some ⟨record, .checked⟩ =>
          some
            { files := Function.update world.files (recordPath record) (some (approvalText record))
              calls := world.calls.set index ⟨record, .created (createdResponse record)⟩ }
      | _ => none

def Step (before : World) (move : Move) (after : World) : Prop :=
  step before move = some after

def start (records : List PyDict) : World :=
  { files := fun _ => none
    calls := records.map fun record => ⟨record, .waiting⟩ }

/-! ### What is promised -/

/-- A record of JSON values that one of the two builders makes for a work id. -/
def Built (workId : String) (record : PyDict) : Prop :=
  wellFormed (.dict record) = true ∧
    ((∃ task decision approvedBy reason createdAt,
        buildAgentPatchApprovalRecord workId task decision approvedBy reason createdAt =
          .ok record) ∨
      ∃ task rejectedBy reason createdAt,
        buildAgentPatchRejectionRecord workId task rejectedBy reason createdAt = .ok record)

def CreatedAt (world : World) (index : Nat) (record : PyDict) : Prop :=
  ∃ response, world.calls[index]? = some ⟨record, .created response⟩

def CheckedAt (world : World) (index : Nat) (record : PyDict) : Prop :=
  world.calls[index]? = some ⟨record, .checked⟩

def Finished (world : World) : Prop :=
  ∀ call ∈ world.calls, (∃ response, call.stage = .created response) ∨
    ∃ raised, call.stage = .raised raised

/-- At most one call reports CREATED, one of them does when all have come to their end, and from
then on its record is the one that is loaded. -/
structure OneDecision (workId : String) (world : World) : Prop where
  unique : ∀ {first second ofFirst ofSecond}, CreatedAt world first ofFirst →
    CreatedAt world second ofSecond → first = second
  one : Finished world → world.calls ≠ [] → ∃ index record, CreatedAt world index record
  loads : ∀ {index record}, CreatedAt world index record →
    loadAgentPatchApproval world.files workId = .ok (some (sortEntries record))

/-- A call checks for the file only when no other one is between its check and its write. -/
def Undisturbed (world : World) : Move → Prop
  | .check _ => ∀ index record, ¬CheckedAt world index record
  | .write _ => True

def UndisturbedStep (before : World) (move : Move) (after : World) : Prop :=
  Step before move after ∧ Undisturbed before move

/-! ### A record and its file -/

theorem assertSafeRecord_sortEntries {record : PyDict} (distinct : Assoc.Distinct record) :
    assertSafeRecord (sortEntries record) = assertSafeRecord record := by
  have version := @equal_sortKeys (PyDict.get record "schema_version") (.int agentPatchApprovalSchemaVersion)
    (by simp) (by simp)
  have flags : baseSafeFlags.forM (assertFlag (sortEntries record)) =
      baseSafeFlags.forM (assertFlag record) := by
    apply forM_congr
    intro flag member
    have flat : (∀ items, flag.2 ≠ .list items) ∧ ∀ entries, flag.2 ≠ .dict entries := by
      simp only [baseSafeFlags, List.mem_cons, List.not_mem_nil, or_false] at member
      rcases member with rfl | rfl | rfl | rfl | rfl | rfl | rfl | rfl | rfl <;> simp
    rw [assertFlag, assertFlag, get_sortEntries distinct, equal_sortKeys flat.1 flat.2]
  unfold assertSafeRecord
  simp only [flags, get_sortEntries distinct, tests_sortKeys, version]

structure Sound (workId : String) (record : PyDict) : Prop where
  formed : wellFormed (.dict record) = true
  safe : assertSafeRecord record = .ok ()
  named : PyDict.get record "work_id" = .str workId

theorem sound_of_built {workId : String} {record : PyDict} (built : Built workId record) :
    Sound workId record := by
  obtain ⟨formed, ⟨task, decision, approvedBy, reason, createdAt, built⟩ |
    ⟨task, rejectedBy, reason, createdAt, built⟩⟩ := built
  · obtain ⟨_, _, built⟩ := bind_eq_ok.mp built
    obtain ⟨_, _, built⟩ := bind_eq_ok.mp built
    obtain ⟨_, _, built⟩ := bind_eq_ok.mp built
    obtain ⟨_, _, built⟩ := bind_eq_ok.mp built
    obtain ⟨_, _, built⟩ := bind_eq_ok.mp built
    obtain ⟨_, safe, made⟩ := bind_eq_ok.mp built
    rw [← Except.ok.inj made] at formed ⊢
    exact ⟨formed, safe, rfl⟩
  · obtain ⟨_, _, built⟩ := bind_eq_ok.mp built
    obtain ⟨_, _, built⟩ := bind_eq_ok.mp built
    obtain ⟨_, _, built⟩ := bind_eq_ok.mp built
    obtain ⟨_, _, built⟩ := bind_eq_ok.mp built
    obtain ⟨_, safe, made⟩ := bind_eq_ok.mp built
    rw [← Except.ok.inj made] at formed ⊢
    exact ⟨formed, safe, rfl⟩

theorem Sound.path {workId : String} {record : PyDict} (sound : Sound workId record) :
    recordPath record = approvalPath workId := by
  rw [recordPath, sound.named, printValue_str]

theorem load_of_text {workId : String} {record : PyDict} {files : Files}
    (sound : Sound workId record) (held : files (approvalPath workId) = some (approvalText record)) :
    loadAgentPatchApproval files workId = .ok (some (sortEntries record)) := by
  have read : jsonLoads (approvalText record) = some (.dict (sortEntries record)) :=
    jsonLoads_jsonDumps approvalLayout sound.formed
  have safe := assertSafeRecord_sortEntries (wellFormed_dict.mp sound.formed).1
  unfold loadAgentPatchApproval
  rw [held]
  dsimp only
  rw [read]
  dsimp only
  rw [safe, sound.safe]
  rfl

theorem checkRecord_of_sound {workId : String} {record : PyDict} (sound : Sound workId record)
    (files : Files) : checkRecord files record =
      if (files (approvalPath workId)).isSome then
        .raised (.runtimeError "APPROVAL_DECISION_ALREADY_RECORDED")
      else .checked := by
  rw [checkRecord, sound.safe, sound.path]

/-! ### One step -/

inductive Stepped (world : World) : Move → World → Prop
  | check {index : Nat} {record : PyDict} (at_ : world.calls[index]? = some ⟨record, .waiting⟩) :
      Stepped world (.check index)
        (world.put index ⟨record, checkRecord world.files record⟩)
  | write {index : Nat} {record : PyDict} (at_ : CheckedAt world index record) :
      Stepped world (.write index)
        { files := Function.update world.files (recordPath record) (some (approvalText record))
          calls := world.calls.set index ⟨record, .created (createdResponse record)⟩ }

theorem stepped_of_step {world after : World} {move : Move} (stepped : Step world move after) :
    Stepped world move after := by
  unfold Step step at stepped
  split at stepped
  · split at stepped
    · next at_ =>
        rw [← Option.some.inj stepped]
        exact .check at_
    · cases stepped
  · split at stepped
    · next at_ =>
        rw [← Option.some.inj stepped]
        exact .write at_
    · cases stepped

theorem getElem?_set_call {calls : List Call} {index other : Nat} {old new call : Call}
    (at_ : calls[index]? = some old) :
    (calls.set index new)[other]? = some call ↔
      (other = index ∧ call = new) ∨ (other ≠ index ∧ calls[other]? = some call) := by
  have inside : index < calls.length := (List.getElem?_eq_some_iff.mp at_).1
  rw [List.getElem?_set]
  by_cases same : other = index
  · subst other
    simp [inside, eq_comm]
  · simp [same, Ne.symm same]

section Runs

variable {workId : String} {records : List PyDict} {world after : World} {move : Move}
variable {moves : List Move} {index other : Nat} {record : PyDict}

theorem createdAt_step (stepped : Step world move after) (created : CreatedAt world index record) :
    CreatedAt after index record := by
  obtain ⟨response, created⟩ := created
  refine ⟨response, ?_⟩
  cases stepped_of_step stepped with
  | check at_ =>
      refine (getElem?_set_call at_).mpr (.inr ⟨?_, created⟩)
      rintro rfl
      cases at_.symm.trans created
  | write at_ =>
      refine (getElem?_set_call at_).mpr (.inr ⟨?_, created⟩)
      rintro rfl
      cases at_.symm.trans created

theorem checkedAt_step (stepped : Step world move after) (checked : CheckedAt world index record) :
    CheckedAt after index record ∨ CreatedAt after index record := by
  cases stepped_of_step stepped with
  | check at_ =>
      refine .inl ((getElem?_set_call at_).mpr (.inr ⟨?_, checked⟩))
      rintro rfl
      cases at_.symm.trans checked
  | @write moved other at_ =>
      by_cases same : index = moved
      · subst same
        cases at_.symm.trans checked
        exact .inr ⟨_, (getElem?_set_call at_).mpr (.inl ⟨rfl, rfl⟩)⟩
      · exact .inl ((getElem?_set_call at_).mpr (.inr ⟨same, checked⟩))

theorem createdAt_run (run : Run Step world moves after) (created : CreatedAt world index record) :
    CreatedAt after index record :=
  run.invariant created fun _ _ _ stepped before => createdAt_step before stepped

theorem created_of_checked (run : Run Step world moves after)
    (checked : CheckedAt world index record) (finished : Finished after) :
    CreatedAt after index record := by
  have kept : CheckedAt after index record ∨ CreatedAt after index record := by
    apply run.invariant (motive := fun world => CheckedAt world index record ∨
      CreatedAt world index record) (.inl checked)
    rintro before move after (checked | created) stepped
    · exact checkedAt_step stepped checked
    · exact .inr (createdAt_step stepped created)
  rcases kept with checked | created
  · rcases finished _ (List.mem_of_getElem? checked) with ⟨response, same⟩ | ⟨raised, same⟩
    · cases same
    · cases same
  · exact created

/-- In every run the calls keep their records, and a file that is there was created. -/
structure Recorded (workId : String) (records : List PyDict) (world : World) : Prop where
  kept : world.calls.map Call.record = records
  sound : ∀ record ∈ records, Sound workId record
  created : (world.files (approvalPath workId)).isSome = true →
    ∃ index record, CreatedAt world index record

theorem Recorded.soundAt {stage : Stage} (recorded : Recorded workId records world)
    (at_ : world.calls[index]? = some ⟨record, stage⟩) : Sound workId record := by
  apply recorded.sound
  rw [← recorded.kept]
  exact List.mem_map_of_mem (List.mem_of_getElem? at_)

theorem map_record_set {calls : List Call} {old new : Stage}
    (at_ : calls[index]? = some ⟨record, old⟩) :
    (calls.set index ⟨record, new⟩).map Call.record = calls.map Call.record := by
  obtain ⟨inside, found⟩ := List.getElem?_eq_some_iff.mp at_
  have bound : index < (calls.map Call.record).length := by simpa using inside
  have same : (calls.map Call.record)[index] = record := by
    rw [List.getElem_map, found]
  rw [List.map_set]
  conv_lhs => rw [← same]
  exact List.set_getElem_self _

theorem recorded_step (recorded : Recorded workId records world)
    (stepped : Step world move after) : Recorded workId records after := by
  cases stepped_of_step stepped with
  | check at_ =>
      refine ⟨?_, recorded.sound, ?_⟩
      · rw [World.put, map_record_set at_, recorded.kept]
      · intro there
        obtain ⟨index, record, created⟩ := recorded.created there
        exact ⟨index, record, createdAt_step stepped created⟩
  | write at_ =>
      refine ⟨?_, recorded.sound, ?_⟩
      · rw [map_record_set at_, recorded.kept]
      · intro _
        exact ⟨_, _, _, (getElem?_set_call at_).mpr (.inl ⟨rfl, rfl⟩)⟩

theorem recorded_run (built : ∀ record ∈ records, Built workId record)
    (run : Run Step (start records) moves world) : Recorded workId records world := by
  apply run.invariant
  · refine ⟨?_, fun record member => sound_of_built (built record member), ?_⟩
    · rw [start, List.map_map]
      exact List.map_id records
    · intro there
      cases there
  · exact fun _ _ _ recorded stepped => recorded_step recorded stepped

/-- How far undisturbed calls are: one of them may have checked, or one of them decided. -/
inductive Phase (workId : String) (world : World) : Prop
  | undecided (absent : world.files (approvalPath workId) = none)
      (none : ∀ index record, ¬CreatedAt world index record)
      (alone : ∀ first second ofFirst ofSecond, CheckedAt world first ofFirst →
        CheckedAt world second ofSecond → first = second)
      (raised : ∀ (index : Nat) (record : PyDict) (error : PyError),
        world.calls[index]? ≠ some ⟨record, .raised error⟩)
  | decided (index : Nat) (record : PyDict) (created : CreatedAt world index record)
      (only : ∀ other another, CreatedAt world other another → other = index)
      (free : ∀ other another, ¬CheckedAt world other another)
      (held : world.files (approvalPath workId) = some (approvalText record))

theorem phase_step (recorded : Recorded workId records world) (phase : Phase workId world)
    (stepped : UndisturbedStep world move after) : Phase workId after := by
  obtain ⟨stepped, undisturbed⟩ := stepped
  cases stepped_of_step stepped with
  | @check index record at_ =>
      have checked := checkRecord_of_sound (recorded.soundAt at_) world.files
      cases phase with
      | undecided absent none alone raised =>
          rw [absent] at checked
          have passes : checkRecord world.files record = .checked := checked
          rw [passes]
          refine .undecided absent ?_ ?_ ?_
          · rintro other another ⟨response, created⟩
            rcases (getElem?_set_call at_).mp created with ⟨_, same⟩ | ⟨_, before⟩
            · cases same
            · exact none other another ⟨response, before⟩
          · intro first second ofFirst ofSecond left right
            rcases (getElem?_set_call at_).mp left with ⟨same, _⟩ | ⟨_, before⟩
            · rcases (getElem?_set_call at_).mp right with ⟨again, _⟩ | ⟨_, before⟩
              · rw [same, again]
              · exact absurd before (undisturbed second ofSecond)
            · exact absurd before (undisturbed first ofFirst)
          · intro other another error held
            rcases (getElem?_set_call at_).mp held with ⟨_, same⟩ | ⟨_, before⟩
            · cases same
            · exact raised other another error before
      | decided decider its created only free held =>
          rw [held] at checked
          have refused : checkRecord world.files record =
              .raised (.runtimeError "APPROVAL_DECISION_ALREADY_RECORDED") := checked
          rw [refused]
          refine .decided decider its ?_ ?_ ?_ held
          · rw [← refused]
            exact createdAt_step stepped created
          · rintro other another ⟨response, made⟩
            rcases (getElem?_set_call at_).mp made with ⟨_, same⟩ | ⟨_, before⟩
            · cases same
            · exact only other another ⟨response, before⟩
          · intro other another held
            rcases (getElem?_set_call at_).mp held with ⟨_, same⟩ | ⟨_, before⟩
            · cases same
            · exact free other another before
  | @write index record at_ =>
      cases phase with
      | undecided absent none alone raised =>
          have path := (recorded.soundAt at_).path
          refine .decided index record ⟨_, (getElem?_set_call at_).mpr (.inl ⟨rfl, rfl⟩)⟩ ?_ ?_ ?_
          · rintro other another ⟨response, made⟩
            rcases (getElem?_set_call at_).mp made with ⟨same, _⟩ | ⟨_, before⟩
            · exact same
            · exact absurd ⟨response, before⟩ (none other another)
          · intro other another held
            rcases (getElem?_set_call at_).mp held with ⟨_, same⟩ | ⟨differs, before⟩
            · cases same
            · exact differs (alone other index another record before at_)
          · dsimp only
            rw [path, Function.update_self]
      | decided decider its created only free held => exact absurd at_ (free index record)

theorem phase_run (built : ∀ record ∈ records, Built workId record)
    (run : Run UndisturbedStep (start records) moves world) : Phase workId world := by
  have both : Recorded workId records world ∧ Phase workId world := by
    apply run.invariant
    · have waiting : ∀ (index : Nat) (record : PyDict) (stage : Stage),
          (start records).calls[index]? = some ⟨record, stage⟩ → stage = .waiting := by
        intro index record stage at_
        rw [start, List.getElem?_map] at at_
        obtain ⟨_, _, made⟩ := Option.map_eq_some_iff.mp at_
        cases made
        rfl
      refine ⟨recorded_run built .nil, .undecided rfl ?_ ?_ ?_⟩
      · rintro index record ⟨response, at_⟩
        cases waiting index record _ at_
      · intro first second ofFirst _ left _
        cases waiting first ofFirst _ left
      · intro index record error at_
        cases waiting index record _ at_
    · rintro before move after ⟨recorded, phase⟩ stepped
      exact ⟨recorded_step recorded stepped.1, phase_step recorded phase stepped⟩
  exact both.2

theorem oneDecision_of_phase (recorded : Recorded workId records world)
    (phase : Phase workId world) : OneDecision workId world := by
  cases phase with
  | undecided absent none alone raised =>
      refine ⟨?_, ?_, ?_⟩
      · exact fun created _ => absurd created (none _ _)
      · intro finished some
        obtain ⟨call, member⟩ := List.exists_mem_of_ne_nil world.calls some
        obtain ⟨index, at_⟩ := List.mem_iff_getElem?.mp member
        obtain ⟨record, stage⟩ := call
        rcases finished _ member with ⟨response, made⟩ | ⟨error, made⟩
        · cases made
          exact ⟨index, record, response, at_⟩
        · cases made
          exact absurd at_ (raised index record error)
      · exact fun created => absurd created (none _ _)
  | decided decider its created only free held =>
      refine ⟨?_, ?_, ?_⟩
      · intro first second ofFirst ofSecond left right
        rw [only first ofFirst left, only second ofSecond right]
      · exact fun _ _ => ⟨decider, its, created⟩
      · intro index record another
        have same := only index record another
        subst same
        obtain ⟨_, left⟩ := created
        obtain ⟨_, right⟩ := another
        cases left.symm.trans right
        exact load_of_text (recorded.soundAt left) held

theorem step_functional (before : World) (move : Move) (first second : World)
    (left : Step before move first) (right : Step before move second) : first = second :=
  Option.some.inj (left.symm.trans right)

theorem undisturbed_of_oneDecision (built : ∀ record ∈ records, Built workId record)
    (run : Run Step (start records) moves world) (finished : Finished world)
    (decision : OneDecision workId world) : Run UndisturbedStep (start records) moves world := by
  apply run.restrict
  intro earlier move later before cut initial
  cases move with
  | write index => trivial
  | check index =>
      intro other record checked
      subst cut
      obtain ⟨middle, begun, after⟩ := run.split rfl
      have same : middle = before := begun.unique step_functional initial
      subst same
      have atEnd := created_of_checked after checked finished
      obtain ⟨next, stepped, rest⟩ := after.cons_inv
      have recorded := recorded_run built initial
      cases stepped_of_step stepped with
      | @check _ own at_ =>
          have passes := checkRecord_of_sound (recorded.soundAt at_) middle.files
          cases held : middle.files (approvalPath workId) with
          | some text =>
              obtain ⟨decider, its, created⟩ :=
                recorded.created (Option.isSome_iff_exists.mpr ⟨text, held⟩)
              have same := decision.unique (createdAt_run after created) atEnd
              subst same
              obtain ⟨response, created⟩ := created
              cases created.symm.trans checked
          | none =>
              rw [held] at passes
              have fresh : CheckedAt (middle.put index ⟨own, checkRecord middle.files own⟩) index
                  own :=
                (getElem?_set_call at_).mpr (.inl ⟨rfl, congrArg (Call.mk own) passes.symm⟩)
              have same := decision.unique (created_of_checked rest fresh finished) atEnd
              subst same
              cases at_.symm.trans checked

/-- Calls of which none checks while another one is between its check and its write come to one
decision, and where all calls have come to their end there is no other way to one. -/
theorem one_decision_iff (workId : String) (records : List PyDict)
    (built : ∀ record ∈ records, Built workId record) {moves : List Move} {world : World}
    (run : Run Step (start records) moves world) :
    (Run UndisturbedStep (start records) moves world → OneDecision workId world) ∧
      (Finished world →
        (OneDecision workId world ↔ Run UndisturbedStep (start records) moves world)) := by
  have recorded := recorded_run built run
  refine ⟨fun calm => oneDecision_of_phase recorded (phase_run built calm), ?_⟩
  intro finished
  constructor
  · exact undisturbed_of_oneDecision built run finished
  · exact fun calm => oneDecision_of_phase recorded (phase_run built calm)

end Runs

/-! ### An approval and a rejection that race -/

def sampleTask : PyDict :=
  [("work_id", .str "work"), ("read_only", .bool true), ("is_order_action", .bool false),
    ("broker_api_called", .bool false), ("live_mode_touched", .bool false),
    ("allowed_for_live_execution", .bool false)]

def sampleDecision : PyDict :=
  [("approved", .bool true), ("allowed_for_patch", .bool true)]

def sampleApproval : PyDict :=
  decisionRecord "work" sampleTask true "owner" .none "2026-01-01T00:00:00+00:00"
    (.dict sampleDecision) "patch_approval_record_only_no_execution"

def sampleRejection : PyDict :=
  decisionRecord "work" sampleTask false "reviewer" .none "2026-01-01T00:00:00+00:00" .none
    "patch_rejection_record_only_no_execution"

theorem built_samples : ∀ record ∈ [sampleApproval, sampleRejection], Built "work" record := by
  intro record member
  rcases List.mem_cons.mp member with rfl | member
  · exact ⟨by decide, .inl ⟨sampleTask, sampleDecision, .str "owner", .none, _, rfl⟩⟩
  · cases List.mem_singleton.mp member
    exact ⟨by decide, .inr ⟨sampleTask, .str "reviewer", .none, _, rfl⟩⟩

theorem passes_of_built {workId : String} {record : PyDict} (built : Built workId record) :
    checkRecord (fun _ => none) record = .checked :=
  checkRecord_of_sound (sound_of_built built) _

theorem both_created {workId : String} {first second : PyDict} (left : Built workId first)
    (right : Built workId second) :
    ∃ world, Run Step (start [first, second]) [.check 0, .check 1, .write 0, .write 1] world ∧
      CreatedAt world 0 first ∧ CreatedAt world 1 second := by
  have one : Step (start [first, second]) (.check 0)
      ⟨fun _ => none, [⟨first, checkRecord (fun _ => none) first⟩, ⟨second, .waiting⟩]⟩ := rfl
  have two : Step ⟨fun _ => none, [⟨first, .checked⟩, ⟨second, .waiting⟩]⟩ (.check 1)
      ⟨fun _ => none, [⟨first, .checked⟩, ⟨second, checkRecord (fun _ => none) second⟩]⟩ := rfl
  rw [passes_of_built left] at one
  rw [passes_of_built right] at two
  exact ⟨_, .cons one (.cons two (.cons rfl (.cons rfl .nil))), ⟨_, rfl⟩, ⟨_, rfl⟩⟩

/-- Two calls that race both report CREATED. -/
theorem two_decisions : ¬∀ (workId : String) (records : List PyDict),
    (∀ record ∈ records, Built workId record) → ∀ (moves : List Move) (world : World),
      Run Step (start records) moves world → OneDecision workId world := by
  intro always
  obtain ⟨world, run, first, second⟩ := both_created (built_samples _ List.mem_cons_self)
    (built_samples _ (List.mem_cons_of_mem _ List.mem_cons_self))
  have decision := always "work" _ built_samples _ world run
  exact absurd (decision.unique first second) (by decide)

theorem late_call_raised {workId : String} {first second : PyDict} (left : Built workId first)
    (right : Built workId second) :
    ∃ world, Run UndisturbedStep (start [first, second]) [.check 0, .write 0, .check 1] world ∧
      Finished world := by
  have one : Step (start [first, second]) (.check 0)
      ⟨fun _ => none, [⟨first, checkRecord (fun _ => none) first⟩, ⟨second, .waiting⟩]⟩ := rfl
  rw [passes_of_built left] at one
  generalize filed : Function.update (fun _ => none) (recordPath first) (some (approvalText first)) =
    files
  have two : Step ⟨fun _ => none, [⟨first, .checked⟩, ⟨second, .waiting⟩]⟩ (.write 0)
      ⟨files, [⟨first, .created (createdResponse first)⟩, ⟨second, .waiting⟩]⟩ := by
    rw [← filed]
    rfl
  have three : Step ⟨files, [⟨first, .created (createdResponse first)⟩, ⟨second, .waiting⟩]⟩
      (.check 1) ⟨files, [⟨first, .created (createdResponse first)⟩,
        ⟨second, checkRecord files second⟩]⟩ := rfl
  have held : files (approvalPath workId) = some (approvalText first) := by
    rw [← filed, (sound_of_built left).path, Function.update_self]
  have refused := checkRecord_of_sound (sound_of_built right) files
  rw [held] at refused
  rw [refused] at three
  have unchecked : ∀ (own other : Stage), own ≠ .checked → other ≠ .checked →
      ∀ (files : Files) index record,
        ¬CheckedAt ⟨files, [⟨first, own⟩, ⟨second, other⟩]⟩ index record := by
    intro own other ownOther otherOther files index record checked
    have member := List.mem_of_getElem? checked
    simp only [List.mem_cons, Call.mk.injEq, List.not_mem_nil, or_false] at member
    rcases member with ⟨_, same⟩ | ⟨_, same⟩
    · exact ownOther same.symm
    · exact otherOther same.symm
  refine ⟨_, .cons ⟨one, ?_⟩ (.cons ⟨two, trivial⟩ (.cons ⟨three, ?_⟩ .nil)), ?_⟩
  · exact unchecked _ _ (by simp) (by simp) _
  · exact unchecked _ _ (by simp) (by simp) _
  · simp [Finished]

theorem one_decision_iff_late : ∃ world,
    Run UndisturbedStep (start [sampleApproval, sampleRejection]) [.check 0, .write 0, .check 1]
      world ∧ Finished world ∧ OneDecision "work" world := by
  obtain ⟨world, calm, finished⟩ := late_call_raised (built_samples _ List.mem_cons_self)
    (built_samples _ (List.mem_cons_of_mem _ List.mem_cons_self))
  have run := calm.mono fun _ _ _ stepped => stepped.1
  exact ⟨world, calm, finished, (one_decision_iff "work" _ built_samples run).1 calm⟩

end Algotradify.Agents.PatchApproval
