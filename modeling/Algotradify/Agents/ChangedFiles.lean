/-
The changed-file audit: a change is valid when the handoffs of all scope roles allow it, none
forbids it, and what lies under the auditor's own list of high-risk paths is approved by a
human.

The auditor compares whole path components, the scope guard compares texts, and each of them
has a list of its own.
-/

import Algotradify.Agents.Handoff
import Algotradify.Py.Comprehension

namespace Algotradify.Agents

open Py Posix Dedup

variable {file path taskId : String} {rules changedFiles : List String}
variable {artifacts : List AgentHandoffArtifact} {report : ChangedFileAuditReport}

/-! ### Paths and rules -/

/-- `while text.startswith("./"): text = text[2:]`. -/
def dropDotSlash : List Char → List Char
  | '.' :: '/' :: rest => dropDotSlash rest
  | chars => chars

def localPath (text : String) : String :=
  String.ofList (dropDotSlash (cleanPath text).toList)

/-- `normalize_changed_file_path`. -/
def normalizeChangedFilePath (path : String) : Except PyError String :=
  let normalized := localPath path
  if normalized = "" then .error (.valueError "CHANGED_FILE_PATH_MISSING")
  else if startsWith normalized "/" || (componentsOf normalized).contains dots then
    .error (.valueError "CHANGED_FILE_PATH_UNSAFE")
  else .ok normalized

def underRule (changedPath rule : String) : Bool :=
  let normalizedRule := localPath rule
  if normalizedRule = "" then false
  else if normalizedRule.toList.getLast? = some '/' then startsWith changedPath normalizedRule
  else changedPath == normalizedRule || startsWith changedPath (rstripSlash normalizedRule ++ "/")

/-- `path_matches_rule`. -/
def pathMatchesRule (path rule : String) : Except PyError Bool := do
  let changedPath ← normalizeChangedFilePath path
  pure (underRule changedPath rule)

/-- `any(path_matches_rule(path, rule) for rule in rules)`. -/
def matchesAny (path : String) (rules : List String) : Except PyError Bool :=
  rules.anyM fun rule => pathMatchesRule path rule

/-! ### The scope of a task -/

/-- `_clean_task_id`. -/
def cleanTaskId (taskId : String) : Except PyError String :=
  let cleaned := strip taskId
  if cleaned = "" then .error (.valueError "TASK_ID_MISSING")
  else if '/' ∈ cleaned.toList ∨ Json.backslash ∈ cleaned.toList ∨ dots <:+: cleaned.toList then
    .error (.valueError "TASK_ID_UNSAFE")
  else .ok cleaned

def defaultScopeApprovalRoles : List String :=
  [AgentRole.scopeOwner.value, AgentRole.hermesArchitect.value, AgentRole.gsdImplementer.value]

/-- `_normalize_scope_roles`: without roles the default ones are used. -/
def normalizeScopeRoles (scopeRoles : Option (List String)) : Except PyError (List AgentRole) :=
  let roles := match scopeRoles with
    | none | some [] => defaultScopeApprovalRoles
    | some roles => roles
  roles.mapM fun role => orRaise (AgentRole.named? role) ("UNKNOWN_SCOPE_ROLE:" ++ role)

/-- `ROLE_FILE_SUFFIXES`. -/
def roleFileSuffix? : AgentRole → Option String
  | .scopeOwner => some "scope-owner"
  | .grillReviewer => some "grill"
  | .hermesArchitect => some "hermes"
  | .gsdImplementer => some "gsd"
  | .qaSafetyReviewer => some "qa-safety"
  | .evidenceRecorder => some "evidence"
  | .humanApprover => none

/-- The name of a handoff file. A role without a suffix raises a `KeyError`. -/
def handoffFileName (taskId : String) (role : AgentRole) : Except PyError String :=
  match roleFileSuffix? role with
  | some suffix => .ok (taskId ++ "-" ++ suffix ++ ".md")
  | none => .error (.runtimeError role.value)

abbrev HandoffFiles := String → Except PyError PyDict

def loadScopeArtifact (handoffs : HandoffFiles) (taskId : String) (role : AgentRole)
    (fileName : String) : Except PyError AgentHandoffArtifact := do
  let payload ← handoffs fileName
  let artifact ← normalizeAgentHandoffArtifact payload
  if artifact.taskId ≠ taskId then .error (.valueError "HANDOFF_TASK_ID_MISMATCH")
  else if artifact.roleId ≠ role then .error (.valueError "HANDOFF_ROLE_ID_MISMATCH")
  else .ok artifact

/-- `_load_scope_artifacts`: all names are known before the first file is read. -/
def loadScopeArtifacts (handoffs : HandoffFiles) (taskId : String) (roles : List AgentRole) :
    Except PyError (List AgentHandoffArtifact) := do
  let names ← roles.mapM (handoffFileName taskId)
  (roles.zip names).mapM fun named => loadScopeArtifact handoffs taskId named.1 named.2

/-! ### The audit -/

structure ChangedFileFinding where
  path : String
  accepted : Bool
  blockers : List String
  matchedAllowedRoles : List String
  matchedForbiddenRoles : List String
  highRisk : Bool

structure ChangedFileAuditReport where
  taskId : String
  valid : Bool
  changedFiles : List String
  scopeRoles : List AgentRole
  blockers : List String
  findings : List ChangedFileFinding
  humanApproved : Option Bool := none

def matchedRoles (artifacts : List AgentHandoffArtifact)
    (rules : AgentHandoffArtifact → List String) (file : String) :
    Except PyError (List AgentRole) := do
  let kept ← artifacts.filterM fun artifact => matchesAny file (rules artifact)
  pure (kept.map AgentHandoffArtifact.roleId)

def auditFile (artifacts : List AgentHandoffArtifact) (roles : List AgentRole)
    (humanApproved : Bool) (file : String) : Except PyError (ChangedFileFinding × List String) := do
  let allowed ← matchedRoles artifacts AgentHandoffArtifact.filesAllowed file
  let forbidden ← matchedRoles artifacts AgentHandoffArtifact.filesForbidden file
  let highRisk ← matchesAny file highRiskRolePathPrefixes
  let blockers := messagesOf
    [(!forbidden.isEmpty, "CHANGED_FILE_FORBIDDEN_BY_HANDOFF"),
      (!(allowed.all (· ∈ roles) && roles.all (· ∈ allowed)), "CHANGED_FILE_OUTSIDE_APPROVED_SCOPE"),
      (highRisk && !humanApproved, "HIGH_RISK_PATH_REQUIRES_HUMAN_APPROVAL")]
  pure
    ({ path := file
       accepted := blockers.isEmpty
       blockers := sortedSet blockers
       matchedAllowedRoles := sortedSet (allowed.map AgentRole.value)
       matchedForbiddenRoles := sortedSet (forbidden.map AgentRole.value)
       highRisk := highRisk }, blockers)

/-- `_blocked_report`. -/
def blockedReport (taskId : String) (changedFiles : List String) (roles : List AgentRole)
    (blockers : List String) : ChangedFileAuditReport :=
  { taskId := taskId
    valid := false
    changedFiles := changedFiles
    scopeRoles := roles
    blockers := sortedSet blockers
    findings := [] }

def auditLoaded (taskId : String) (files : List String) (roles : List AgentRole)
    (artifacts : List AgentHandoffArtifact) (humanApproved : Bool) :
    Except PyError ChangedFileAuditReport := do
  let findings ← files.mapM (auditFile artifacts roles humanApproved)
  let blockers := findings.flatMap Prod.snd
  pure
    { taskId := taskId
      valid := blockers.isEmpty
      changedFiles := files
      scopeRoles := roles
      blockers := sortedSet blockers
      findings := findings.map Prod.fst
      humanApproved := some humanApproved }

/-- `audit_changed_files_against_handoffs`. Only a `ValueError` of the handoffs is caught. -/
def auditChangedFiles (handoffs : HandoffFiles) (taskId : String) (changedFiles : List String)
    (scopeRoles : Option (List String)) (humanApproved : Bool) :
    Except PyError ChangedFileAuditReport := do
  let cleanId ← cleanTaskId taskId
  let roles ← normalizeScopeRoles scopeRoles
  match changedFiles.mapM normalizeChangedFilePath with
  | .error raised => pure (blockedReport cleanId changedFiles roles [raised.text])
  | .ok [] => pure (blockedReport cleanId [] roles ["CHANGED_FILES_MISSING"])
  | .ok files =>
      match loadScopeArtifacts handoffs cleanId roles with
      | .error (.valueError message) =>
          pure (blockedReport cleanId files roles ["HANDOFF_SCOPE_EVIDENCE_INVALID", message])
      | .error raised => .error raised
      | .ok artifacts => auditLoaded cleanId files roles artifacts humanApproved

/-! ### Paths that are read again -/

theorem dropDotSlash_dotSlash (chars : List Char) :
    dropDotSlash ('.' :: '/' :: chars) = dropDotSlash chars := rfl

theorem dropDotSlash_dropDotSlash (chars : List Char) :
    dropDotSlash (dropDotSlash chars) = dropDotSlash chars := by
  induction chars using dropDotSlash.induct with
  | case1 rest ih => rw [dropDotSlash_dotSlash, ih]
  | case2 chars other =>
      have stays := dropDotSlash.eq_2 chars other
      rw [stays, stays]

theorem dropDotSlash_suffix (chars : List Char) : dropDotSlash chars <:+ chars := by
  induction chars using dropDotSlash.induct with
  | case1 rest ih =>
      apply ih.trans
      exact List.suffix_append ['.', '/'] rest
  | case2 chars other =>
      rw [dropDotSlash.eq_2 chars other]

/-- A text as a cleaned path has it: no white space at its end, and no backslash. -/
structure Trimmed (chars : List Char) : Prop where
  last : chars.rdropWhile isSpace = chars
  slashes : Json.backslash ∉ chars

theorem Trimmed.suffix {chars rest : List Char} (trimmed : Trimmed chars) (ends : rest <:+ chars) :
    Trimmed rest := by
  constructor
  · rw [List.rdropWhile_eq_self_iff]
    intro some
    rw [ends.getLast some]
    exact List.rdropWhile_eq_self_iff.mp trimmed.last _
  · intro member
    exact trimmed.slashes (ends.subset member)

theorem trimmed_cleanPath (text : String) : Trimmed (cleanPath text).toList := by
  unfold cleanPath replaceChar strip
  rw [String.toList_ofList, String.toList_ofList]
  constructor
  · rw [← stripChars_map _ isSpace_slashed]
    exact List.rdropWhile_idempotent _ _
  · intro member
    obtain ⟨char, _, same⟩ := List.mem_map.mp member
    split at same
    · exact absurd same (by decide)
    · next other => exact other same

theorem cleanPath_dotSlash {chars : List Char} (trimmed : Trimmed chars) :
    cleanPath (String.ofList ('.' :: '/' :: chars)) = String.ofList ('.' :: '/' :: chars) := by
  have stripped : stripChars ('.' :: '/' :: chars) = '.' :: '/' :: chars := by
    change ('.' :: '/' :: chars).rdropWhile isSpace = '.' :: '/' :: chars
    rw [List.rdropWhile_eq_self_iff]
    intro some
    cases chars with
    | nil => exact Bool.false_ne_true
    | cons head rest => exact List.rdropWhile_eq_self_iff.mp trimmed.last (List.cons_ne_nil head rest)
  have kept : ∀ char ∈ '.' :: '/' :: chars,
      (if char = Json.backslash then '/' else char) = char := by
    intro char member
    rw [if_neg]
    rintro rfl
    simp only [List.mem_cons] at member
    rcases member with dotted | slash | inside
    · exact absurd dotted (by decide)
    · exact absurd slash (by decide)
    · exact trimmed.slashes inside
  unfold cleanPath replaceChar strip
  rw [String.toList_ofList, String.toList_ofList, stripped]
  apply congrArg String.ofList
  rw [List.map_congr_left kept, List.map_id']

/-! ### Where the auditor stops a file -/

/-- The path that the rules are compared with. A changed file is normalized once for the report
and again for every rule. -/
def auditedPath (file : String) : Except PyError String := do
  let normalized ← normalizeChangedFilePath file
  normalizeChangedFilePath normalized

/-- The scope guard takes a file for forbidden or for one of high risk. -/
def GuardProtected (file : String) : Prop :=
  startsWithAny file forbiddenPathPrefixes = true ∨ startsWithAny file highRiskPathPrefixes = true

/-- A file has no path to be compared, or it lies under the high-risk rules of the auditor. -/
def Stopped (file : String) : Prop :=
  ∀ path, auditedPath file = .ok path → highRiskRolePathPrefixes.any (underRule path) = true

theorem matchesAny_eq (normal : normalizeChangedFilePath file = .ok path) (rules : List String) :
    matchesAny file rules = .ok (rules.any (underRule path)) := by
  apply anyM_eq_ok_any
  intro rule _
  rw [pathMatchesRule, normal]
  rfl

theorem exists_of_matchesAny {rule : String} {matched : Bool}
    (ran : matchesAny file (rule :: rules) = .ok matched) :
    ∃ path, normalizeChangedFilePath file = .ok path ∧
      (rule :: rules).any (underRule path) = matched := by
  cases normal : normalizeChangedFilePath file with
  | error raised =>
      rw [matchesAny, List.anyM_cons, pathMatchesRule, normal] at ran
      cases ran
  | ok path =>
      rw [matchesAny_eq normal] at ran
      exact ⟨path, rfl, Except.ok.inj ran⟩

theorem unstopped_of_auditFile {roles : List AgentRole} {finding : ChangedFileFinding}
    (audited : auditFile artifacts roles false file = .ok (finding, [])) :
    ∃ path, normalizeChangedFilePath file = .ok path ∧
      highRiskRolePathPrefixes.any (underRule path) = false := by
  unfold auditFile at audited
  obtain ⟨allowed, _, audited⟩ := bind_eq_ok.mp audited
  obtain ⟨forbidden, _, audited⟩ := bind_eq_ok.mp audited
  obtain ⟨highRisk, ran, made⟩ := bind_eq_ok.mp audited
  have clear := (messagesOf_eq_nil_iff _).mp (Prod.mk.inj (Except.ok.inj made)).2
  have low : (highRisk && !false) = false :=
    clear _ (List.mem_cons_of_mem _ (List.mem_cons_of_mem _ List.mem_cons_self))
  rw [Bool.not_false, Bool.and_true] at low
  obtain ⟨path, normal, matched⟩ := exists_of_matchesAny ran
  exact ⟨path, normal, matched.trans low⟩

theorem clear_of_auditLoaded {files : List String} {roles : List AgentRole} {humanApproved : Bool}
    (ran : auditLoaded taskId files roles artifacts humanApproved = .ok report)
    (valid : report.valid = true) :
    ∀ file ∈ files, ∃ finding, auditFile artifacts roles humanApproved file = .ok (finding, []) := by
  unfold auditLoaded at ran
  obtain ⟨findings, each, made⟩ := bind_eq_ok.mp ran
  rw [← Except.ok.inj made] at valid
  have clear := List.flatMap_eq_nil_iff.mp (List.isEmpty_iff.mp valid)
  intro file member
  obtain ⟨⟨finding, blockers⟩, found, audited⟩ := exists_of_mapM_mem each file member
  have none : blockers = [] := clear (finding, blockers) found
  rw [none] at audited
  exact ⟨finding, audited⟩

theorem loaded_of_valid {handoffs : HandoffFiles} {scopeRoles : Option (List String)}
    {humanApproved : Bool}
    (ran : auditChangedFiles handoffs taskId changedFiles scopeRoles humanApproved = .ok report)
    (valid : report.valid = true) :
    ∃ cleanId roles files artifacts, changedFiles.mapM normalizeChangedFilePath = .ok files ∧
      auditLoaded cleanId files roles artifacts humanApproved = .ok report := by
  unfold auditChangedFiles at ran
  obtain ⟨cleanId, _, ran⟩ := bind_eq_ok.mp ran
  obtain ⟨roles, _, ran⟩ := bind_eq_ok.mp ran
  have refused : ∀ files blockers, (blockedReport cleanId files roles blockers).valid ≠ true :=
    fun _ _ => Bool.false_ne_true
  split at ran
  · rw [← Except.ok.inj ran] at valid
    exact absurd valid (refused _ _)
  · rw [← Except.ok.inj ran] at valid
    exact absurd valid (refused _ _)
  · next files _ normalized =>
      split at ran
      · rw [← Except.ok.inj ran] at valid
        exact absurd valid (refused _ _)
      · cases ran
      · next artifacts _ => exact ⟨cleanId, roles, files, artifacts, normalized, ran⟩

theorem unstopped_of_valid {handoffs : HandoffFiles} {scopeRoles : Option (List String)}
    (ran : auditChangedFiles handoffs taskId changedFiles scopeRoles false = .ok report)
    (valid : report.valid = true) : ∀ file ∈ changedFiles, ¬Stopped file := by
  obtain ⟨cleanId, roles, files, artifacts, normalized, loaded⟩ := loaded_of_valid ran valid
  intro file member stopped
  obtain ⟨normal, among, first⟩ := exists_of_mapM_mem normalized file member
  obtain ⟨finding, audited⟩ := clear_of_auditLoaded loaded valid normal among
  obtain ⟨path, second, low⟩ := unstopped_of_auditFile audited
  have read : auditedPath file = .ok path := bind_eq_ok.mpr ⟨normal, first, second⟩
  exact Bool.false_ne_true (low.symm.trans (stopped path read))

/-! ### Handoffs that allow a list of files -/

def ruleFor (path : String) : String :=
  String.ofList ('.' :: '/' :: path.toList)

/-- A normalized path is trimmed, has no dots to drop, is not empty and not absolute. -/
structure Normal (path : String) : Prop where
  trimmed : Trimmed path.toList
  dropped : dropDotSlash path.toList = path.toList
  relative : startsWith path "/" = false

theorem normal_of_normalize (normalized : normalizeChangedFilePath file = .ok path) :
    Normal path := by
  unfold normalizeChangedFilePath at normalized
  dsimp only at normalized
  split at normalized
  · cases normalized
  split at normalized
  · cases normalized
  · next safe =>
      rw [← Except.ok.inj normalized]
      constructor
      · rw [localPath, String.toList_ofList]
        exact (trimmed_cleanPath file).suffix (dropDotSlash_suffix _)
      · rw [localPath, String.toList_ofList, dropDotSlash_dropDotSlash]
      · rw [Bool.not_eq_true, Bool.or_eq_false_iff] at safe
        exact safe.1

theorem localPath_ruleFor (normal : Normal path) :
    localPath (ruleFor path) = path := by
  rw [localPath, ruleFor, cleanPath_dotSlash normal.trimmed, String.toList_ofList,
    dropDotSlash_dotSlash, normal.dropped, String.ofList_toList]

theorem underRule_ruleFor (normal : Normal path) (written : path ≠ "") :
    underRule path (ruleFor path) = true := by
  unfold underRule
  dsimp only
  rw [localPath_ruleFor normal, if_neg written]
  split
  · rw [startsWith, List.isPrefixOf_iff_prefix]
  · rw [beq_self_eq_true, Bool.true_or]

theorem not_underRule_slash (normal : Normal path) : underRule path "/" = false := by
  have whole : localPath "/" = "/" := by decide
  unfold underRule
  dsimp only
  rw [whole, if_neg (by decide), if_pos (by decide), normal.relative]

def openHandoff (role : AgentRole) (rules : List String) : PyDict :=
  [("schema_version", .int agentWorkSchemaVersion), ("contract", .str agentHandoffContract),
    ("task_id", .str "task"), ("role_id", .str role.value), ("workflow_state", .str "REQUESTED"),
    ("target_state", .str "SCOPED_BY_SCOPE_OWNER"), ("scope_decision", .str "approved"),
    ("files_forbidden", ofStrings ["/"]), ("risks_found", ofStrings ["none"]),
    ("tests_required", ofStrings ["none"]), ("acceptance_gates", ofStrings ["none"]),
    ("required_outputs", ofStrings role.requiredOutputs), ("verdict", .str "APPROVED"),
    ("safe_flags", .dict requiredSafeFlags), ("files_allowed", ofStrings rules)]

theorem stringTuple_ofStrings {payload : PyDict} {key : String} {texts : List String}
    (field : getOr payload key (.list []) = ofStrings texts) (some : texts ≠ [])
    (clean : ∀ text ∈ texts, cleanPath text = text ∧ text ≠ "") :
    stringTuple payload key true = .ok texts := by
  have listed : listField payload key = .ok (texts.map PyValue.str) := by
    rw [listField, field]
    rfl
  have converted : (texts.map PyValue.str).mapM (stringItem key) = .ok texts := by
    rw [List.mapM_map]
    have each : texts.mapM (fun text => Except.ok (cleanPath text)) =
        (Except.ok (texts.map id) : Except PyError (List String)) :=
      mapM_eq_ok_map fun text member => congrArg Except.ok (clean text member).1
    rw [List.map_id] at each
    exact each
  have kept : texts.filter (fun text => text ≠ "") = texts :=
    List.filter_eq_self.mpr fun text member => decide_eq_true (clean text member).2
  rw [stringTuple, listed]
  change (texts.map PyValue.str).mapM (stringItem key) >>= _ = _
  rw [converted]
  change (if true && (texts.filter fun text => text ≠ "").isEmpty then _ else _) = _
  rw [kept, Bool.true_and, if_neg (mt List.isEmpty_iff.mp some)]

theorem cleanPath_of_name {text : String}
    (name : ∀ char ∈ text.toList, 95 ≤ char.toNat ∧ char.toNat ≤ 122) : cleanPath text = text := by
  have solid : strip text = text := by
    apply strip_eq_self
    intro char member
    obtain ⟨least, most⟩ := name char member
    simp only [isSpace, Bool.or_eq_false_iff, Bool.and_eq_false_iff, decide_eq_false_iff_not,
      beq_eq_false_iff_ne]
    omega
  have kept : text.toList.map (fun char => if char = Json.backslash then '/' else char) =
      text.toList.map id := by
    apply List.map_congr_left
    intro char member
    rw [if_neg, id]
    rintro rfl
    exact absurd (name _ member).1 (by decide)
  rw [cleanPath, solid, replaceChar, kept, List.map_id, String.ofList_toList]

theorem clean_requiredOutputs (role : AgentRole) :
    ∀ output ∈ role.requiredOutputs, cleanPath output = output ∧ output ≠ "" := by
  have names : ∀ output ∈ role.requiredOutputs, output ≠ "" ∧
      ∀ char ∈ output.toList, 95 ≤ char.toNat ∧ char.toNat ≤ 122 := by
    cases role <;> decide
  intro output member
  exact ⟨cleanPath_of_name (names output member).2, (names output member).1⟩

theorem normalize_openHandoff (role : AgentRole) (some : rules ≠ [])
    (clean : ∀ rule ∈ rules, cleanPath rule = rule ∧ rule ≠ "") :
    ∃ artifact, normalizeAgentHandoffArtifact (openHandoff role rules) = .ok artifact ∧
      artifact.taskId = "task" ∧ artifact.roleId = role ∧ artifact.filesAllowed = rules ∧
      artifact.filesForbidden = ["/"] := by
  have allowed : stringTuple (openHandoff role rules) "files_allowed" true = .ok rules :=
    stringTuple_ofStrings rfl some clean
  have outputs : handoffOutputs (openHandoff role rules) role = .ok role.requiredOutputs := by
    have read : stringTuple (openHandoff role rules) "required_outputs" true =
        .ok role.requiredOutputs := stringTuple_ofStrings rfl (by cases role <;> decide)
          (clean_requiredOutputs role)
    have missing : role.requiredOutputs.filter (fun output => output ∉ role.requiredOutputs) = [] :=
      List.filter_eq_nil_iff.mpr fun output member => by simpa using member
    rw [handoffOutputs, read]
    dsimp only [bind, Except.bind]
    rw [missing]
  have named : requiredCleanString (openHandoff role rules) "role_id" = .ok role.value := by
    cases role <;> rfl
  have known : orRaise (AgentRole.named? role.value) "ROLE_ID_UNKNOWN" = .ok role := by
    rw [AgentRole.named?_value]
    rfl
  have texts : ∀ key text, PyDict.get (openHandoff role rules) key = .str text →
      strip text = text → text ≠ "" → requiredCleanString (openHandoff role rules) key = .ok text := by
    intro key text field stripped written
    rw [requiredCleanString, field]
    dsimp only
    rw [stripped, if_neg written]
  have items : ∀ key item, getOr (openHandoff role rules) key (.list []) = ofStrings [item] →
      cleanPath item = item ∧ item ≠ "" →
        stringTuple (openHandoff role rules) key true = .ok [item] := by
    intro key item field itemClean
    apply stringTuple_ofStrings field (List.cons_ne_nil item [])
    intro text member
    rw [List.mem_singleton.mp member]
    exact itemClean
  have none : cleanPath "none" = "none" ∧ "none" ≠ "" := by decide
  apply exists_bind_ok (show requireAllFields (openHandoff role rules) = .ok () from rfl)
  apply exists_bind_ok (show schemaVersion (openHandoff role rules) = .ok _ from rfl)
  apply exists_bind_ok (texts "contract" agentHandoffContract rfl (by decide) (by decide))
  rw [if_neg (not_not.mpr rfl)]
  apply exists_bind_ok named
  apply exists_bind_ok known
  apply exists_bind_ok outputs
  apply exists_bind_ok (texts "task_id" "task" rfl (by decide) (by decide))
  apply exists_bind_ok (texts "workflow_state" "REQUESTED" rfl (by decide) (by decide))
  apply exists_bind_ok (show orRaise (AgentWorkflowState.named? "REQUESTED") _ = .ok _ from rfl)
  apply exists_bind_ok (texts "target_state" "SCOPED_BY_SCOPE_OWNER" rfl (by decide) (by decide))
  apply exists_bind_ok
    (show orRaise (AgentWorkflowState.named? "SCOPED_BY_SCOPE_OWNER") _ = .ok _ from rfl)
  apply exists_bind_ok (texts "scope_decision" "approved" rfl (by decide) (by decide))
  apply exists_bind_ok allowed
  apply exists_bind_ok (items "files_forbidden" "/" rfl (by decide))
  apply exists_bind_ok (items "risks_found" "none" rfl none)
  apply exists_bind_ok (items "tests_required" "none" rfl none)
  apply exists_bind_ok (items "acceptance_gates" "none" rfl none)
  apply exists_bind_ok (texts "verdict" "APPROVED" rfl (by decide) (by decide))
  apply exists_bind_ok (show orRaise (AgentHandoffVerdict.named? "APPROVED") _ = .ok _ from rfl)
  apply exists_bind_ok (show stringTuple (openHandoff role rules) "blockers" false = .ok [] from rfl)
  apply exists_bind_ok (show stringTuple (openHandoff role rules) "warnings" false = .ok [] from rfl)
  apply exists_bind_ok (show handoffSafeFlags (openHandoff role rules) = .ok requiredSafeFlags from rfl)
  apply exists_bind_ok (show metadata (openHandoff role rules) = .ok [] from rfl)
  rw [if_neg (by simp)]
  exact ⟨_, rfl, rfl, rfl, rfl, rfl⟩

/-- A directory with such a handoff of each role that owns the scope by default. -/
def openHandoffs (rules : List String) : HandoffFiles := fun fileName =>
  if fileName = "task-scope-owner.md" then .ok (openHandoff .scopeOwner rules)
  else if fileName = "task-hermes.md" then .ok (openHandoff .hermesArchitect rules)
  else if fileName = "task-gsd.md" then .ok (openHandoff .gsdImplementer rules)
  else .error (.valueError ("HANDOFF_FILE_MISSING:" ++ fileName))

def defaultRoles : List AgentRole := [.scopeOwner, .hermesArchitect, .gsdImplementer]

structure OpenArtifacts (rules : List String) (artifacts : List AgentHandoffArtifact) : Prop where
  roles : artifacts.map AgentHandoffArtifact.roleId = defaultRoles
  allowed : ∀ artifact ∈ artifacts, artifact.filesAllowed = rules
  forbidden : ∀ artifact ∈ artifacts, artifact.filesForbidden = ["/"]

theorem load_openHandoff (role : AgentRole) {fileName : String}
    (held : openHandoffs rules fileName = .ok (openHandoff role rules)) (some : rules ≠ [])
    (clean : ∀ rule ∈ rules, cleanPath rule = rule ∧ rule ≠ "") :
    ∃ artifact, loadScopeArtifact (openHandoffs rules) "task" role fileName = .ok artifact ∧
      artifact.roleId = role ∧ artifact.filesAllowed = rules ∧ artifact.filesForbidden = ["/"] := by
  obtain ⟨artifact, normalized, task, own, allowed, forbidden⟩ :=
    normalize_openHandoff role some clean
  apply exists_bind_ok held
  apply exists_bind_ok normalized
  rw [if_neg (not_not.mpr task), if_neg (not_not.mpr own)]
  exact ⟨artifact, rfl, own, allowed, forbidden⟩

theorem load_openHandoffs (some : rules ≠ [])
    (clean : ∀ rule ∈ rules, cleanPath rule = rule ∧ rule ≠ "") :
    ∃ artifacts, loadScopeArtifacts (openHandoffs rules) "task" defaultRoles = .ok artifacts ∧
      OpenArtifacts rules artifacts := by
  obtain ⟨owner, ownerRead, ownerRole, ownerAllowed, ownerForbidden⟩ :=
    load_openHandoff .scopeOwner
      (show openHandoffs rules "task-scope-owner.md" = .ok (openHandoff .scopeOwner rules) from rfl) some clean
  obtain ⟨hermes, hermesRead, hermesRole, hermesAllowed, hermesForbidden⟩ :=
    load_openHandoff .hermesArchitect
      (show openHandoffs rules "task-hermes.md" = .ok (openHandoff .hermesArchitect rules) from rfl) some clean
  obtain ⟨gsd, gsdRead, gsdRole, gsdAllowed, gsdForbidden⟩ :=
    load_openHandoff .gsdImplementer
      (show openHandoffs rules "task-gsd.md" = .ok (openHandoff .gsdImplementer rules) from rfl) some clean
  have names : defaultRoles.mapM (handoffFileName "task") =
      .ok ["task-scope-owner.md", "task-hermes.md", "task-gsd.md"] := rfl
  refine ⟨[owner, hermes, gsd], ?_, ?_, ?_, ?_⟩
  · apply bind_eq_ok.mpr
    refine ⟨_, names, ?_⟩
    rw [defaultRoles, List.zip_cons_cons, List.zip_cons_cons, List.zip_cons_cons, List.zip_nil_left,
      List.mapM_cons, List.mapM_cons, List.mapM_cons, List.mapM_nil, ownerRead, hermesRead, gsdRead]
    rfl
  · simp only [List.map_cons, List.map_nil, ownerRole, hermesRole, gsdRole, defaultRoles]
  · simp [ownerAllowed, hermesAllowed, gsdAllowed]
  · simp [ownerForbidden, hermesForbidden, gsdForbidden]

theorem matchedRoles_eq {rules : AgentHandoffArtifact → List String}
    (normalized : normalizeChangedFilePath file = .ok path) :
    matchedRoles artifacts rules file =
      .ok ((artifacts.filter fun artifact => (rules artifact).any (underRule path)).map
        AgentHandoffArtifact.roleId) := by
  have tested := filterM_eq_ok_filter fun artifact (_ : artifact ∈ artifacts) =>
    matchesAny_eq normalized (rules artifact)
  rw [matchedRoles, tested]
  rfl

theorem auditFile_open (opened : OpenArtifacts rules artifacts)
    (normalized : normalizeChangedFilePath file = .ok path) (written : path ≠ "")
    (ruled : ruleFor path ∈ rules) (low : highRiskRolePathPrefixes.any (underRule path) = false) :
    ∃ finding, auditFile artifacts defaultRoles false file = .ok (finding, []) := by
  have normal := normal_of_normalize normalized
  have allowed : matchedRoles artifacts AgentHandoffArtifact.filesAllowed file =
      .ok defaultRoles := by
    rw [matchedRoles_eq normalized, ← opened.roles, List.filter_eq_self.mpr]
    intro artifact member
    rw [opened.allowed artifact member, List.any_eq_true]
    exact ⟨ruleFor path, ruled, underRule_ruleFor normal written⟩
  have forbidden : matchedRoles artifacts AgentHandoffArtifact.filesForbidden file = .ok [] := by
    rw [matchedRoles_eq normalized, List.filter_eq_nil_iff.mpr, List.map_nil]
    intro artifact member
    rw [opened.forbidden artifact member, List.any_cons, List.any_nil, not_underRule_slash normal]
    exact Bool.false_ne_true
  have risk : matchesAny file highRiskRolePathPrefixes = .ok false := by
    rw [matchesAny_eq normalized, low]
  unfold auditFile
  rw [allowed, forbidden, risk]
  exact ⟨_, rfl⟩

theorem auditLoaded_open {files : List String} (opened : OpenArtifacts rules artifacts)
    (free : ∀ file ∈ files, ∃ path, normalizeChangedFilePath file = .ok path ∧ path ≠ "" ∧
      ruleFor path ∈ rules ∧ highRiskRolePathPrefixes.any (underRule path) = false) :
    ∃ report, auditLoaded "task" files defaultRoles artifacts false = .ok report ∧
      report.valid = true := by
  have accepted : ∀ file ∈ files, ∃ result,
      auditFile artifacts defaultRoles false file = .ok result := by
    intro file member
    obtain ⟨path, normalized, written, ruled, low⟩ := free file member
    obtain ⟨finding, audited⟩ := auditFile_open opened normalized written ruled low
    exact ⟨_, audited⟩
  obtain ⟨findings, each⟩ := mapM_exists accepted
  have clear : findings.flatMap Prod.snd = [] := by
    rw [List.flatMap_eq_nil_iff]
    intro result member
    obtain ⟨file, among, made⟩ := exists_of_mem_mapM each result member
    obtain ⟨path, normalized, written, ruled, low⟩ := free file among
    obtain ⟨finding, audited⟩ := auditFile_open opened normalized written ruled low
    rw [← Except.ok.inj (audited.symm.trans made)]
  apply exists_bind_ok each
  refine ⟨_, rfl, ?_⟩
  exact List.isEmpty_iff.mpr clear

theorem ne_empty_of_normalize (normalized : normalizeChangedFilePath file = .ok path) :
    path ≠ "" := by
  unfold normalizeChangedFilePath at normalized
  dsimp only at normalized
  split at normalized
  · cases normalized
  · next written =>
      split at normalized
      · cases normalized
      · rw [← Except.ok.inj normalized]
        exact written

theorem exists_of_unstopped (free : ¬Stopped file) :
    ∃ first path, normalizeChangedFilePath file = .ok first ∧
      normalizeChangedFilePath first = .ok path ∧
        highRiskRolePathPrefixes.any (underRule path) = false := by
  unfold Stopped at free
  rw [not_forall] at free
  obtain ⟨path, free⟩ := free
  rw [Classical.not_imp, Bool.not_eq_true] at free
  obtain ⟨first, normalized, again⟩ := bind_eq_ok.mp free.1
  exact ⟨first, path, normalized, again, free.2⟩

theorem exists_valid_audit (some : changedFiles ≠ []) (free : ∀ file ∈ changedFiles, ¬Stopped file) :
    ∃ handoffs report, auditChangedFiles handoffs "task" changedFiles none false = .ok report ∧
      report.valid = true := by
  obtain ⟨files, normalized⟩ := mapM_exists fun file member =>
    (exists_of_unstopped (free file member)).imp fun _ found => found.choose_spec.1
  obtain ⟨paths, again⟩ : ∃ paths, files.mapM normalizeChangedFilePath = .ok paths := by
    apply mapM_exists
    intro first member
    obtain ⟨file, among, made⟩ := exists_of_mem_mapM normalized first member
    obtain ⟨own, path, same, read, _⟩ := exists_of_unstopped (free file among)
    exact ⟨path, Except.ok.inj (same.symm.trans made) ▸ read⟩
  have covered : ∀ first ∈ files, ∃ path, normalizeChangedFilePath first = .ok path ∧ path ≠ "" ∧
      ruleFor path ∈ paths.map ruleFor ∧
        highRiskRolePathPrefixes.any (underRule path) = false := by
    intro first member
    obtain ⟨file, among, made⟩ := exists_of_mem_mapM normalized first member
    obtain ⟨own, path, same, read, low⟩ := exists_of_unstopped (free file among)
    rw [Except.ok.inj (same.symm.trans made)] at read
    obtain ⟨listed, inside, found⟩ := exists_of_mapM_mem again first member
    rw [Except.ok.inj (found.symm.trans read)] at inside
    exact ⟨path, read, ne_empty_of_normalize read, List.mem_map_of_mem inside, low⟩
  have clean : ∀ rule ∈ paths.map ruleFor, cleanPath rule = rule ∧ rule ≠ "" := by
    intro rule member
    obtain ⟨path, inside, rfl⟩ := List.mem_map.mp member
    obtain ⟨first, _, made⟩ := exists_of_mem_mapM again path inside
    refine ⟨cleanPath_dotSlash (normal_of_normalize made).trimmed, ?_⟩
    intro empty
    have letters := congrArg String.toList empty
    rw [ruleFor, String.toList_ofList] at letters
    exact List.cons_ne_nil _ _ letters
  obtain ⟨file, inside⟩ := List.exists_mem_of_ne_nil changedFiles some
  obtain ⟨first, among, _⟩ := exists_of_mapM_mem normalized file inside
  obtain ⟨path, listed, _⟩ := exists_of_mapM_mem again first among
  have ruled : paths.map ruleFor ≠ [] := List.ne_nil_of_mem (List.mem_map_of_mem listed)
  obtain ⟨artifacts, loaded, opened⟩ := load_openHandoffs ruled clean
  obtain ⟨report, audited, valid⟩ := auditLoaded_open opened covered
  refine ⟨openHandoffs (paths.map ruleFor), report, ?_, valid⟩
  have taskRead : cleanTaskId "task" = .ok "task" := rfl
  have rolesRead : normalizeScopeRoles none = .ok defaultRoles := rfl
  obtain ⟨head, rest, rfl⟩ := List.exists_cons_of_ne_nil (List.ne_nil_of_mem among)
  unfold auditChangedFiles
  apply bind_eq_ok.mpr
  refine ⟨"task", taskRead, bind_eq_ok.mpr ⟨defaultRoles, rolesRead, ?_⟩⟩
  rw [normalized]
  dsimp only
  rw [loaded]
  exact audited

/-- The audit protects what the scope guard protects, whatever the handoffs allow, exactly for the
lists with a file that the auditor stops and for those without a protected file. -/
theorem audit_covers_guard_iff (changedFiles : List String) :
    (∀ handoffs taskId scopeRoles report,
      auditChangedFiles handoffs taskId changedFiles scopeRoles false = .ok report →
        report.valid = true → ∀ file ∈ changedFiles, ¬GuardProtected file) ↔
      (∃ file ∈ changedFiles, Stopped file) ∨ ∀ file ∈ changedFiles, ¬GuardProtected file := by
  constructor
  · intro covers
    by_cases stopped : ∃ file ∈ changedFiles, Stopped file
    · exact .inl stopped
    · by_cases none : changedFiles = []
      · rw [none]
        exact .inr fun _ member => absurd member List.not_mem_nil
      · obtain ⟨handoffs, report, ran, valid⟩ := exists_valid_audit none fun file member halted =>
          stopped ⟨file, member, halted⟩
        exact .inr (covers handoffs "task" _ report ran valid)
  · rintro (⟨file, member, stopped⟩ | unprotected) handoffs taskId scopeRoles report ran valid
    · exact absurd stopped (unstopped_of_valid ran valid file member)
    · exact unprotected

/-- A file of the broker contract, which only the scope guard lists: three handoffs allow it. -/
theorem broker_contract_unaudited :
    ¬∀ (changedFiles : List String) handoffs taskId scopeRoles report,
      auditChangedFiles handoffs taskId changedFiles scopeRoles false = .ok report →
        report.valid = true → ∀ file ∈ changedFiles, ¬GuardProtected file := by
  intro covers
  have read : auditedPath "broker_contract/orders.py" = .ok "broker_contract/orders.py" := rfl
  have free : ¬Stopped "broker_contract/orders.py" := by
    intro stopped
    exact absurd (stopped _ read) (by decide)
  have listed : GuardProtected "broker_contract/orders.py" := .inl (by decide)
  obtain ⟨handoffs, report, ran, valid⟩ := exists_valid_audit
    (List.cons_ne_nil "broker_contract/orders.py" []) fun file member =>
      List.mem_singleton.mp member ▸ free
  exact covers _ handoffs "task" none report ran valid _ List.mem_cons_self listed

end Algotradify.Agents
