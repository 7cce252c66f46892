/-
The run lock: a lock file that names the process that holds it, read, judged and replaced
in separate steps by any number of processes.

A missing file is `none`. The lock directory can be written; where it cannot, the source
uses another one. The temporary file is the same for all processes of a lock name.

The run lock over interleavings of any number of processes: what keeps two of them from
holding it at once.
-/

import Algotradify.Core.RiskState
import Algotradify.Json.SortKeys
import Algotradify.Transition.Run
import Mathlib.Logic.Function.Basic

namespace Algotradify.Core.RunLock

open Py Json Risk

variable {file : Option String} {other : Int} {phase : Phase} {current : PyDict}
variable {alive : Int → Bool} {now : Clock}

structure Clock where
  epoch : ℚ
  decimal : isDecimal epoch = true

structure LockConfig where
  name : String
  maxAgeSec : PyFloat

/-! ### The lock file -/

/-- `indent=2`. -/
def lockLayout : Layout :=
  { afterComma := 0, afterColon := 1, indent := some 2, ensureAscii := true }

/-- `json.dumps(payload, indent=2, sort_keys=True)`. -/
def lockText (payload : PyDict) : String :=
  jsonDumps lockLayout (.dict payload)

def activePayload (config : LockConfig) (pid : Int) (now : Clock) : PyDict :=
  [("locked", .bool true), ("timestamp_epoch", .float (.finite now.epoch)), ("pid", .int pid),
    ("name", .str config.name), ("reason", .str "ACTIVE")]

def releasedPayload (config : LockConfig) (pid : Int) (now : Clock) : PyDict :=
  [("locked", .bool false), ("timestamp_epoch", .float (.finite now.epoch)), ("pid", .int pid),
    ("name", .str config.name), ("reason", .str "RELEASED")]

/-- `_read`, and the attribute error of a content that is no object. -/
def readLock (file : Option String) : Except PyError PyDict :=
  match file with
  | none => .ok []
  | some text =>
      match jsonLoads text with
      | none => .ok []
      | some (.dict current) => .ok current
      | some _ => .error (.runtimeError "object has no attribute 'get'")

/-! ### The judgement of `acquire` -/

/-- What `acquire` finds: its own lock, an active one, none, or one that is too old. -/
inductive Verdict where
  | reentrant
  | active
  | free
  | expired
deriving DecidableEq, Repr

/-- No process is named, or one that is not alive; what is no number counts as alive. -/
def stalePid (alive : Int → Bool) (pid : PyValue) : Except PyError Bool :=
  if pid.isNone then .ok true
  else
    match toInt pid with
    | .ok pidVal => .ok (!alive pidVal)
    | .error (.overflowError message) => .error (.overflowError message)
    | .error _ => .ok false

def judgeAge (config : LockConfig) (timestamp : PyValue) (now : Clock) : Verdict :=
  match toFloat timestamp with
  | .error _ => .active
  | .ok ts =>
      if (pyMax (.finite 0) (.finite now.epoch - ts)).le config.maxAgeSec then .active
      else .expired

def judge (config : LockConfig) (pid : Int) (current : PyDict) (alive : Int → Bool)
    (now : Clock) : Except PyError Verdict :=
  if !(current.get "locked").isTrue then .ok .free
  else if (current.get "pid").equal (.int pid) then .ok .reentrant
  else do
    let stale ← stalePid alive (current.get "pid")
    pure (if stale then .free else judgeAge config (current.get "timestamp_epoch") now)

/-! ### Processes -/

/-- Where a process is in a call of `acquire` or `release`. -/
inductive Phase where
  | idle
  | started (now : Clock)
  | seen (now : Clock) (current : PyDict) (turn : Nat)
  | judged (now : Clock) (turn : Nat) (expired : Bool)
  | staged (now : Clock) (turn : Nat) (expired : Bool)
  | releasing (now : Clock)
  | releaseStaged (now : Clock)

/-- The files and the processes. A process holds the lock from the return of its `acquire` to
the call of its `release`; its hold has lapsed when another process found it too old and took
the lock. The turn counts the acquires and releases that came to an end. -/
structure World where
  file : Option String
  temporary : Option String := none
  phase : Int → Phase := fun _ => .idle
  holds : Int → Bool := fun _ => false
  lapsed : Int → Bool := fun _ => false
  turn : Nat := 0

/-- One step of a process. The environment gives clock readings and which processes are
alive. -/
inductive Move where
  | callAcquire (now : Clock)
  | read
  | judge (alive : Int → Bool)
  | stage
  | replace
  | callRelease (now : Clock)

namespace World

def goto (world : World) (pid : Int) (phase : Phase) : World :=
  { world with phase := Function.update world.phase pid phase }

/-- The end of an `acquire` that returns true. -/
def acquired (world : World) (pid : Int) (expired : Bool) : World :=
  { world with
    phase := Function.update world.phase pid .idle
    holds := Function.update world.holds pid true
    lapsed := Function.update (fun other => world.lapsed other || (expired && world.holds other))
      pid false
    turn := world.turn + 1 }

/-- What `acquire` does with its verdict. -/
def concluded (world : World) (pid : Int) (now : Clock) (turn : Nat) :
    Except PyError Verdict → World
  | .error _ => world.goto pid .idle
  | .ok .active => world.goto pid .idle
  | .ok .reentrant => world.acquired pid false
  | .ok .free => world.goto pid (.judged now turn false)
  | .ok .expired => world.goto pid (.judged now turn true)

end World

def step (config : LockConfig) (world : World) (pid : Int) (move : Move) : Option World :=
  match world.phase pid, move with
  | .idle, .callAcquire now => some (world.goto pid (.started now))
  | .started now, .read =>
      match readLock world.file with
      | .ok current => some (world.goto pid (.seen now current world.turn))
      | .error _ => some (world.goto pid .idle)
  | .seen now current turn, .judge alive =>
      some (world.concluded pid now turn (judge config pid current alive now))
  | .judged now turn expired, .stage =>
      some ({ world with temporary := some (lockText (activePayload config pid now)) }.goto pid
        (.staged now turn expired))
  | .staged _ _ expired, .replace =>
      match world.temporary with
      | none => some (world.goto pid .idle)
      | some text => some ({ world with file := some text, temporary := none }.acquired pid expired)
  | .idle, .callRelease now =>
      some ({ world with holds := Function.update world.holds pid false }.goto pid (.releasing now))
  | .releasing now, .stage =>
      some ({ world with temporary := some (lockText (releasedPayload config pid now)) }.goto pid
        (.releaseStaged now))
  | .releaseStaged _, .replace =>
      match world.temporary with
      | none => some (world.goto pid .idle)
      | some text =>
          some ({ world with
            file := some text
            temporary := none
            turn := world.turn + 1 }.goto pid .idle)
  | _, _ => none

open Transition

variable {config : LockConfig} {world after : World} {pid : Int}

/-! ### One step -/

inductive Stepped (config : LockConfig) (world : World) (pid : Int) : Move → World → Prop
  | callAcquire {now : Clock} (at_ : world.phase pid = .idle) :
      Stepped config world pid (.callAcquire now) (world.goto pid (.started now))
  | read {now : Clock} {current : PyDict} (at_ : world.phase pid = .started now)
      (content : readLock world.file = .ok current) :
      Stepped config world pid .read (world.goto pid (.seen now current world.turn))
  | readRaises {now : Clock} (at_ : world.phase pid = .started now) :
      Stepped config world pid .read (world.goto pid .idle)
  | judge {now : Clock} {current : PyDict} {turn : Nat} {alive : Int → Bool}
      (at_ : world.phase pid = .seen now current turn) :
      Stepped config world pid (.judge alive)
        (world.concluded pid now turn (judge config pid current alive now))
  | stage {now : Clock} {turn : Nat} {expired : Bool}
      (at_ : world.phase pid = .judged now turn expired) :
      Stepped config world pid .stage
        ({ world with temporary := some (lockText (activePayload config pid now)) }.goto pid
          (.staged now turn expired))
  | replace {now : Clock} {turn : Nat} {expired : Bool} {text : String}
      (at_ : world.phase pid = .staged now turn expired) (held : world.temporary = some text) :
      Stepped config world pid .replace
        ({ world with file := some text, temporary := none }.acquired pid expired)
  | replaceRaises (held : world.temporary = none) :
      Stepped config world pid .replace (world.goto pid .idle)
  | callRelease {now : Clock} (at_ : world.phase pid = .idle) :
      Stepped config world pid (.callRelease now)
        ({ world with holds := Function.update world.holds pid false }.goto pid (.releasing now))
  | stageRelease {now : Clock} (at_ : world.phase pid = .releasing now) :
      Stepped config world pid .stage
        ({ world with temporary := some (lockText (releasedPayload config pid now)) }.goto pid
          (.releaseStaged now))
  | replaceRelease {now : Clock} {text : String} (at_ : world.phase pid = .releaseStaged now)
      (held : world.temporary = some text) :
      Stepped config world pid .replace
        ({ world with file := some text, temporary := none, turn := world.turn + 1 }.goto pid .idle)

theorem stepped_of_step {move : Move} (stepped : step config world pid move = some after) :
    Stepped config world pid move after := by
  unfold step at stepped
  split at stepped
  · rename_i at_
    cases stepped
    exact .callAcquire at_
  · rename_i at_
    split at stepped
    · rename_i content
      cases stepped
      exact .read at_ content
    · cases stepped
      exact .readRaises at_
  · rename_i at_
    cases stepped
    exact .judge at_
  · rename_i at_
    cases stepped
    exact .stage at_
  · rename_i at_
    split at stepped
    · rename_i held
      cases stepped
      exact .replaceRaises held
    · rename_i held
      cases stepped
      exact .replace at_ held
  · rename_i at_
    cases stepped
    exact .callRelease at_
  · rename_i at_
    cases stepped
    exact .stageRelease at_
  · rename_i at_
    split at stepped
    · rename_i held
      cases stepped
      exact .replaceRaises held
    · rename_i held
      cases stepped
      exact .replaceRelease at_ held
  · cases stepped

/-! ### The process that a lock file names -/

def Names (file : Option String) (pid : Int) : Prop :=
  ∃ current, readLock file = .ok current ∧ (current.get "locked").isTrue = true ∧
    (current.get "pid").equal (.int pid) = true

theorem number_of_equal {value : PyValue} {pid : Int} (same : value.equal (.int pid) = true) :
    value.number? = some (.finite pid) := by
  cases value with
  | none | str | list | dict =>
      unfold PyValue.equal at same
      cases same
  | bool flag =>
      unfold PyValue.equal at same
      simpa [PyValue.number?, PyFloat.eq] using same
  | int value =>
      unfold PyValue.equal at same
      simpa [PyValue.number?, PyFloat.eq] using same
  | float value =>
      unfold PyValue.equal at same
      cases value with
      | finite value => simpa [PyValue.number?, PyFloat.eq] using same
      | nan | posInf | negInf => cases same

theorem Names.unique {first second : Int} (left : Names file first) (right : Names file second) :
    first = second := by
  obtain ⟨current, read, -, same⟩ := left
  obtain ⟨again, readAgain, -, sameAgain⟩ := right
  rw [read] at readAgain
  cases readAgain
  have numbers := (number_of_equal same).symm.trans (number_of_equal sameAgain)
  simpa using numbers

theorem readLock_lockText {payload : PyDict} (formed : wellFormed (.dict payload) = true) :
    readLock (some (lockText payload)) = .ok (sortEntries payload) := by
  have loaded := jsonLoads_jsonDumps lockLayout formed
  unfold sortKeys at loaded
  unfold readLock lockText
  simp only [loaded]

theorem wellFormed_activePayload (config : LockConfig) (pid : Int) (now : Clock) :
    wellFormed (.dict (activePayload config pid now)) = true := by
  simp [activePayload, wellFormed, wellFormedEntries, now.decimal]

theorem wellFormed_releasedPayload (config : LockConfig) (pid : Int) (now : Clock) :
    wellFormed (.dict (releasedPayload config pid now)) = true := by
  simp [releasedPayload, wellFormed, wellFormedEntries, now.decimal]

theorem names_active (config : LockConfig) (pid : Int) (now : Clock) :
    Names (some (lockText (activePayload config pid now))) pid := by
  have formed := wellFormed_activePayload config pid now
  have distinct := (wellFormed_dict.mp formed).1
  refine ⟨_, readLock_lockText formed, ?_, ?_⟩
  · rw [get_sortEntries distinct]
    rfl
  · rw [get_sortEntries distinct]
    change PyValue.equal (.int pid) (.int pid) = true
    unfold PyValue.equal
    simp [PyValue.number?, PyFloat.eq]

/-! ### The processes that hold the lock -/

/-- A process holds the lock and no other one found it too old and took it. -/
def World.Holding (world : World) (pid : Int) : Prop :=
  world.holds pid = true ∧ world.lapsed pid = false

/-- No process has called `acquire` or `release` yet. -/
def Fresh (world : World) : Prop :=
  ∀ pid, world.phase pid = .idle ∧ world.holds pid = false

def Live (world : World) : Move → Prop
  | .judge alive => ∀ pid, world.holds pid = true → alive pid = true
  | _ => True

/-- An acquire comes to its end only when no other one and no release did since it read the
file, a release only when the file names no other process, and each replaces the file by its
own text. -/
def Orderly (config : LockConfig) (world : World) (pid : Int) : Move → Prop
  | .judge alive =>
      ∀ now current turn, world.phase pid = .seen now current turn →
        judge config pid current alive now = .ok .reentrant → turn = world.turn
  | .replace =>
      (∀ now turn expired, world.phase pid = .staged now turn expired →
        turn = world.turn ∧
          world.temporary = some (lockText (activePayload config pid now))) ∧
      ∀ now, world.phase pid = .releaseStaged now →
        world.temporary = some (lockText (releasedPayload config pid now)) ∧
          ∀ other, Names world.file other → other = pid
  | _ => True

def Timely (config : LockConfig) (world : World) (pid : Int) : Move → Prop
  | .judge alive =>
      ∀ now current turn, world.phase pid = .seen now current turn →
        judge config pid current alive now ≠ .ok .expired
  | _ => True

def LiveStep (config : LockConfig) (before : World) (label : Int × Move) (after : World) : Prop :=
  step config before label.1 label.2 = some after ∧ Live before label.2

def OrderlyStep (config : LockConfig) (before : World) (label : Int × Move)
    (after : World) : Prop :=
  LiveStep config before label after ∧ Orderly config before label.1 label.2

def World.Due (world : World) (pid : Int) : Phase → Prop
  | .idle | .started _ => True
  | .seen _ current turn =>
      turn ≤ world.turn ∧ (turn = world.turn → readLock world.file = .ok current)
  | .judged _ turn expired | .staged _ turn expired =>
      turn ≤ world.turn ∧
        (turn = world.turn → ∀ other, other ≠ pid → world.Holding other → expired = true)
  | .releasing _ | .releaseStaged _ => world.holds pid = false

structure Sound (world : World) : Prop where
  named : ∀ pid, world.Holding pid → Names world.file pid
  due : ∀ pid, world.Due pid (world.phase pid)

theorem sound_of_fresh (fresh : Fresh world) : Sound world where
  named pid holding := by
    have released := (fresh pid).2
    have held := holding.1
    rw [released] at held
    cases held
  due pid := by
    rw [(fresh pid).1]
    trivial

theorem Sound.exclusive (sound : Sound world) {first second : Int}
    (left : world.Holding first) (right : world.Holding second) : first = second :=
  (sound.named first left).unique (sound.named second right)

theorem due_same (due : world.Due other phase) (file : after.file = world.file)
    (turn : after.turn = world.turn) (holding : ∀ pid, after.Holding pid → world.Holding pid)
    (released : world.holds other = false → after.holds other = false) :
    after.Due other phase := by
  cases phase with
  | idle | started now => trivial
  | seen now current seen =>
      change seen ≤ after.turn ∧ (seen = after.turn → readLock after.file = .ok current)
      rw [turn, file]
      exact due
  | judged now seen expired | staged now seen expired =>
      obtain ⟨earlier, sole⟩ := due
      refine ⟨by omega, ?_⟩
      intro same peer different held
      exact sole (same.trans turn) peer different (holding peer held)
  | releasing now | releaseStaged now => exact released due

theorem Sound.goto (sound : Sound world) (due : world.Due pid phase) :
    Sound (world.goto pid phase) where
  named := sound.named
  due other := by
    refine due_same ?_ rfl rfl (fun _ holding => holding) (fun released => released)
    by_cases same : other = pid
    · simp only [World.goto, same, Function.update_self]
      exact due
    · simp only [World.goto, Function.update_of_ne same]
      exact sound.due other

theorem Sound.stage (sound : Sound world) (temporary : Option String) :
    Sound { world with temporary := temporary } where
  named := sound.named
  due other :=
    due_same (sound.due other) rfl rfl (fun _ holding => holding) (fun released => released)

theorem holding_released
    (holding : World.Holding { world with holds := Function.update world.holds pid false } other) :
    world.Holding other := by
  obtain ⟨held, unlapsed⟩ := holding
  by_cases same : other = pid
  · simp only [same, Function.update_self] at held
    cases held
  · simp only [Function.update_of_ne same] at held
    exact ⟨held, unlapsed⟩

theorem Sound.callRelease (sound : Sound world) :
    Sound { world with holds := Function.update world.holds pid false } where
  named other holding := sound.named other (holding_released holding)
  due other := by
    refine due_same (sound.due other) rfl rfl (fun _ => holding_released) ?_
    intro released
    by_cases same : other = pid
    · simp only [same, Function.update_self]
    · simp only [Function.update_of_ne same]
      exact released

theorem due_later (due : world.Due other phase) (turn : after.turn = world.turn + 1)
    (holds : after.holds other = world.holds other) :
    after.Due other phase := by
  cases phase with
  | idle | started now => trivial
  | seen now current seen =>
      obtain ⟨earlier, -⟩ := due
      refine ⟨by omega, ?_⟩
      intro same
      omega
  | judged now seen expired | staged now seen expired =>
      obtain ⟨earlier, -⟩ := due
      refine ⟨by omega, ?_⟩
      intro same
      omega
  | releasing now | releaseStaged now =>
      change after.holds other = false
      rw [holds]
      exact due

theorem Sound.acquired (sound : Sound world) {temporary : Option String} {expired : Bool}
    (names : Names file pid) (sole : ∀ other, other ≠ pid → world.Holding other → expired = true) :
    Sound ({ world with file := file, temporary := temporary }.acquired pid expired) where
  named other holding := by
    obtain ⟨held, unlapsed⟩ := holding
    by_cases same : other = pid
    · rw [same]
      exact names
    · simp only [World.acquired, Function.update_of_ne same, Bool.or_eq_false_iff] at held unlapsed
      have taken := sole other same ⟨held, unlapsed.1⟩
      rw [taken, held] at unlapsed
      cases unlapsed.2
  due other := by
    by_cases same : other = pid
    · simp only [World.acquired, same, Function.update_self]
      trivial
    · simp only [World.acquired, Function.update_of_ne same]
      apply due_later (sound.due other)
      · rfl
      · change Function.update world.holds pid true other = world.holds other
        rw [Function.update_of_ne same]

theorem toInt_of_number {value : PyValue} (number : value.number? = some (.finite pid)) :
    toInt value = .ok pid := by
  cases value with
  | none | str | list | dict => cases number
  | bool flag =>
      cases flag <;> simpa [PyValue.number?, toInt, eq_comm] using number
  | int value => simpa [PyValue.number?, toInt] using number
  | float value =>
      simp only [PyValue.number?, Option.some.injEq] at number
      rw [number]
      simp [toInt]

theorem judgeAge_cases (config : LockConfig) (timestamp : PyValue) (now : Clock) :
    judgeAge config timestamp now = .active ∨ judgeAge config timestamp now = .expired := by
  unfold judgeAge
  split
  · exact .inl rfl
  · split
    · exact .inl rfl
    · exact .inr rfl

theorem judge_of_names {verdict : Verdict} (locked : (current.get "locked").isTrue = true)
    (names : (current.get "pid").equal (.int other) = true) (living : alive other = true)
    (different : other ≠ pid) (judged : judge config pid current alive now = .ok verdict) :
    verdict = .active ∨ verdict = .expired := by
  have number := number_of_equal names
  have foreign : (current.get "pid").equal (.int pid) = false := by
    rw [Bool.eq_false_iff]
    intro same
    have numbers := number.symm.trans (number_of_equal same)
    exact different (by simpa using numbers)
  have named : (current.get "pid").isNone = false := by
    cases value : current.get "pid" <;> simp_all [PyValue.number?, PyValue.isNone]
  have kept : stalePid alive (current.get "pid") = .ok false := by
    simp [stalePid, named, toInt_of_number number, living]
  simp only [judge, locked, foreign, kept, Bool.not_true, Bool.false_eq_true, if_false] at judged
  cases judged
  rw [if_neg Bool.false_ne_true]
  exact judgeAge_cases config _ now

theorem mine_of_reentrant (judged : judge config pid current alive now = .ok .reentrant) :
    (current.get "locked").isTrue = true ∧ (current.get "pid").equal (.int pid) = true := by
  unfold judge at judged
  split at judged
  · cases judged
  · rename_i locked
    split at judged
    · rename_i mine
      exact ⟨by simpa using locked, mine⟩
    · obtain ⟨stale, -, verdict⟩ := bind_eq_ok.mp judged
      have aged := judgeAge_cases config (current.get "timestamp_epoch") now
      cases stale with
      | true => cases verdict
      | false =>
          rw [if_neg Bool.false_ne_true] at verdict
          rcases aged with active | expired
          · rw [active] at verdict
            cases verdict
          · rw [expired] at verdict
            cases verdict

theorem Sound.released (sound : Sound world) {temporary : Option String}
    (released : world.holds pid = false) (mine : ∀ other, Names world.file other → other = pid) :
    Sound ({ world with
      file := file
      temporary := temporary
      turn := world.turn + 1 }.goto pid .idle) where
  named other holding := by
    have same := mine other (sound.named other holding)
    have held := holding.1
    rw [same] at held
    exact absurd (held.symm.trans released) (by decide)
  due other := by
    by_cases same : other = pid
    · simp only [World.goto, same, Function.update_self]
      trivial
    · simp only [World.goto, Function.update_of_ne same]
      exact due_later (sound.due other) rfl rfl

/-! ### The step and the run -/

theorem Sound.judge {turn : Nat} (sound : Sound world)
    (at_ : world.phase pid = .seen now current turn) (living : Live world (.judge alive))
    (orderly : Orderly config world pid (.judge alive)) :
    Sound (world.concluded pid now turn (RunLock.judge config pid current alive now)) := by
  have due := sound.due pid
  rw [at_] at due
  obtain ⟨earlier, read⟩ := due
  -- Who holds the lock is named in what was read, as long as the turn is the same.
  have others : ∀ other verdict, turn = world.turn → other ≠ pid → world.Holding other →
      RunLock.judge config pid current alive now = .ok verdict →
      verdict = .active ∨ verdict = .expired := by
    intro other verdict same different holding judged
    obtain ⟨named, content, locked, names⟩ := sound.named other holding
    rw [read same] at content
    cases content
    exact judge_of_names locked names (living other holding.1) different judged
  cases judged : RunLock.judge config pid current alive now with
  | error error => exact sound.goto trivial
  | ok verdict =>
      cases verdict with
      | active => exact sound.goto trivial
      | reentrant =>
          have same := orderly now current turn at_ judged
          refine sound.acquired ⟨current, read same, mine_of_reentrant judged⟩ ?_
          intro other different holding
          rcases others other _ same different holding judged with impossible | impossible
          · cases impossible
          · cases impossible
      | free =>
          refine sound.goto ⟨earlier, ?_⟩
          intro same other different holding
          rcases others other _ same different holding judged with impossible | impossible
          · cases impossible
          · cases impossible
      | expired =>
          refine sound.goto ⟨earlier, ?_⟩
          intro _ _ _ _
          rfl

theorem Sound.step {label : Int × Move} (sound : Sound world)
    (stepped : OrderlyStep config world label after) : Sound after := by
  obtain ⟨⟨stepped, living⟩, orderly⟩ := stepped
  obtain ⟨pid, move⟩ := label
  cases stepped_of_step stepped with
  | callAcquire at_ => exact sound.goto trivial
  | read at_ content => exact sound.goto ⟨Nat.le_refl _, fun _ => content⟩
  | readRaises at_ => exact sound.goto trivial
  | judge at_ => exact sound.judge at_ living orderly
  | stage at_ =>
      have due := sound.due pid
      rw [at_] at due
      exact (sound.stage _).goto due
  | replace at_ held =>
      obtain ⟨same, own⟩ := orderly.1 _ _ _ at_
      have due := sound.due pid
      rw [at_] at due
      rw [held] at own
      rw [own]
      exact sound.acquired (names_active config pid _) (due.2 same)
  | replaceRaises held => exact sound.goto trivial
  | callRelease at_ => exact sound.callRelease.goto (Function.update_self ..)
  | stageRelease at_ =>
      have due := sound.due pid
      rw [at_] at due
      exact (sound.stage _).goto due
  | replaceRelease at_ held =>
      obtain ⟨-, mine⟩ := orderly.2 _ at_
      have due := sound.due pid
      rw [at_] at due
      exact sound.released due mine

def Phase.expired : Phase → Bool
  | .judged _ _ expired | .staged _ _ expired => expired
  | _ => false

/-- No hold has lapsed, and no acquire is about to make one lapse. -/
structure Prompt (world : World) : Prop where
  kept : ∀ pid, world.holds pid = true → world.lapsed pid = false
  early : ∀ pid, (world.phase pid).expired = false

theorem prompt_of_fresh (fresh : Fresh world) : Prompt world where
  kept pid held := by
    rw [(fresh pid).2] at held
    cases held
  early pid := by
    rw [(fresh pid).1]
    rfl

theorem Prompt.goto (prompt : Prompt world) (early : phase.expired = false) :
    Prompt (world.goto pid phase) where
  kept := prompt.kept
  early other := by
    by_cases same : other = pid
    · simp only [World.goto, same, Function.update_self]
      exact early
    · simp only [World.goto, Function.update_of_ne same]
      exact prompt.early other

theorem Prompt.acquired (prompt : Prompt world) {expired : Bool} (early : expired = false)
    (pid : Int) : Prompt (world.acquired pid expired) where
  kept other held := by
    by_cases same : other = pid
    · simp only [World.acquired, same, Function.update_self]
    · simp only [World.acquired, Function.update_of_ne same] at held ⊢
      rw [prompt.kept other held, early]
      rfl
  early other := by
    by_cases same : other = pid
    · simp only [World.acquired, same, Function.update_self]
      rfl
    · simp only [World.acquired, Function.update_of_ne same]
      exact prompt.early other

theorem Prompt.files (prompt : Prompt world) (file temporary : Option String) (turn : Nat) :
    Prompt { world with file := file, temporary := temporary, turn := turn } where
  kept := prompt.kept
  early := prompt.early

theorem Prompt.callRelease (prompt : Prompt world) (pid : Int) :
    Prompt { world with holds := Function.update world.holds pid false } where
  kept other held := by
    by_cases same : other = pid
    · simp only [same, Function.update_self] at held
      cases held
    · simp only [Function.update_of_ne same] at held
      exact prompt.kept other held
  early := prompt.early

theorem Prompt.judge {turn : Nat} (prompt : Prompt world)
    (at_ : world.phase pid = .seen now current turn)
    (timely : Timely config world pid (.judge alive)) :
    Prompt (world.concluded pid now turn (RunLock.judge config pid current alive now)) := by
  cases judged : RunLock.judge config pid current alive now with
  | error error => exact prompt.goto rfl
  | ok verdict =>
      cases verdict with
      | active => exact prompt.goto rfl
      | reentrant => exact prompt.acquired rfl pid
      | free => exact prompt.goto rfl
      | expired => exact absurd judged (timely now current turn at_)

theorem Prompt.step {label : Int × Move} (prompt : Prompt world)
    (stepped : step config world label.1 label.2 = some after)
    (timely : Timely config world label.1 label.2) : Prompt after := by
  obtain ⟨pid, move⟩ := label
  cases stepped_of_step stepped with
  | callAcquire at_ => exact prompt.goto rfl
  | read at_ content => exact prompt.goto rfl
  | readRaises at_ => exact prompt.goto rfl
  | judge at_ => exact prompt.judge at_ timely
  | stage at_ =>
      have early := prompt.early pid
      rw [at_] at early
      exact (prompt.files world.file _ world.turn).goto early
  | replace at_ held =>
      have early := prompt.early pid
      rw [at_] at early
      exact (prompt.files _ _ world.turn).acquired early pid
  | replaceRaises held => exact prompt.goto rfl
  | callRelease at_ => exact (prompt.callRelease pid).goto rfl
  | stageRelease at_ => exact (prompt.files world.file _ world.turn).goto rfl
  | replaceRelease at_ held => exact (prompt.files _ _ _).goto rfl

/-! ### A call without others between its steps -/

/-- The world after an `acquire` that takes the lock. -/
def World.taken (world : World) (config : LockConfig) (pid : Int) (now : Clock)
    (expired : Bool) : World :=
  { world with
    file := some (lockText (activePayload config pid now))
    temporary := none }.acquired pid expired

/-- The world after a `release`. -/
def World.freed (world : World) (config : LockConfig) (pid : Int) (now : Clock) : World :=
  { world with
    file := some (lockText (releasedPayload config pid now))
    temporary := none
    holds := Function.update world.holds pid false
    turn := world.turn + 1 }.goto pid .idle

def acquireMoves (pid : Int) (now : Clock) (alive : Int → Bool) : List (Int × Move) :=
  [(pid, .callAcquire now), (pid, .read), (pid, .judge alive), (pid, .stage), (pid, .replace)]

def releaseMoves (pid : Int) (now : Clock) : List (Int × Move) :=
  [(pid, .callRelease now), (pid, .stage), (pid, .replace)]

/-- An `acquire` of a process alone that finds the lock free or too old takes it. -/
theorem acquire_alone {expired : Bool} (at_ : world.phase pid = .idle)
    (content : readLock world.file = .ok current)
    (verdict : judge config pid current alive now = .ok (if expired then .expired else .free))
    (living : ∀ other, world.holds other = true → alive other = true) :
    Run (OrderlyStep config) world (acquireMoves pid now alive)
      (world.taken config pid now expired) := by
  have called : OrderlyStep config world (pid, .callAcquire now)
      (world.goto pid (.started now)) := by
    refine ⟨⟨?_, trivial⟩, trivial⟩
    simp only [step, at_]
  have read : OrderlyStep config (world.goto pid (.started now)) (pid, .read)
      (world.goto pid (.seen now current world.turn)) := by
    refine ⟨⟨?_, trivial⟩, trivial⟩
    simp only [step, World.goto, Function.update_self, content, Function.update_idem]
  have judged : OrderlyStep config (world.goto pid (.seen now current world.turn))
      (pid, .judge alive) (world.goto pid (.judged now world.turn expired)) := by
    refine ⟨⟨?_, living⟩, ?_⟩
    · simp only [step, World.goto, Function.update_self, verdict]
      cases expired <;> simp [World.concluded, World.goto, Function.update_idem]
    · intro earlier content' turn seen _
      simp only [World.goto, Function.update_self, Phase.seen.injEq] at seen
      exact seen.2.2.symm
  have staged : OrderlyStep config (world.goto pid (.judged now world.turn expired))
      (pid, .stage)
      ({ world with temporary := some (lockText (activePayload config pid now)) }.goto pid
        (.staged now world.turn expired)) := by
    refine ⟨⟨?_, trivial⟩, trivial⟩
    simp only [step, World.goto, Function.update_self, Function.update_idem]
  have replaced : OrderlyStep config
      ({ world with temporary := some (lockText (activePayload config pid now)) }.goto pid
        (.staged now world.turn expired))
      (pid, .replace) (world.taken config pid now expired) := by
    refine ⟨⟨?_, trivial⟩, ?_, ?_⟩
    · simp only [step, World.taken, World.acquired, World.goto, Function.update_self,
        Function.update_idem]
    · intro time turn late waiting
      simp only [World.goto, Function.update_self, Phase.staged.injEq] at waiting
      rw [← waiting.1, ← waiting.2.1]
      exact ⟨rfl, rfl⟩
    · intro time waiting
      simp only [World.goto, Function.update_self] at waiting
      cases waiting
  exact .cons called (.cons read (.cons judged (.cons staged (.cons replaced .nil))))

theorem release_alone (at_ : world.phase pid = .idle) :
    Run (LiveStep config) world (releaseMoves pid now) (world.freed config pid now) := by
  have called : LiveStep config world (pid, .callRelease now)
      ({ world with holds := Function.update world.holds pid false }.goto pid
        (.releasing now)) := by
    refine ⟨?_, trivial⟩
    simp only [step, at_]
  have staged : LiveStep config
      ({ world with holds := Function.update world.holds pid false }.goto pid (.releasing now))
      (pid, .stage)
      ({ world with
        temporary := some (lockText (releasedPayload config pid now))
        holds := Function.update world.holds pid false }.goto pid (.releaseStaged now)) := by
    refine ⟨?_, trivial⟩
    simp only [step, World.goto, Function.update_self, Function.update_idem]
  have replaced : LiveStep config
      ({ world with
        temporary := some (lockText (releasedPayload config pid now))
        holds := Function.update world.holds pid false }.goto pid (.releaseStaged now))
      (pid, .replace) (world.freed config pid now) := by
    refine ⟨?_, trivial⟩
    simp only [step, World.freed, World.goto, Function.update_self, Function.update_idem]
  exact .cons called (.cons staged (.cons replaced .nil))

/-- One process at most holds a lock that has not lapsed, and one at most holds it at all where
no process finds the lock of another one too old. -/
theorem one_process_holds (config : LockConfig) {start world : World} {labels : List (Int × Move)}
    (fresh : Fresh start) (run : Run (OrderlyStep config) start labels world) :
    (∀ first second, world.Holding first → world.Holding second → first = second) ∧
      (Run (fun before label after => OrderlyStep config before label after ∧
          Timely config before label.1 label.2) start labels world →
        ∀ first second, world.holds first = true → world.holds second = true →
          first = second) := by
  have sound : Sound world := run.invariant (sound_of_fresh fresh)
    fun _ _ _ sound stepped => sound.step stepped
  constructor
  · intro first second left right
    exact sound.exclusive left right
  · intro timely first second left right
    have prompt : Prompt world := timely.invariant (prompt_of_fresh fresh)
      fun _ _ _ prompt stepped => prompt.step stepped.1.1.1 stepped.2
    exact sound.exclusive ⟨left, prompt.kept first left⟩ ⟨right, prompt.kept second right⟩

def hourLock : LockConfig :=
  { name := "live_monitoring.lock", maxAgeSec := .finite 3600 }

theorem isDecimal_midnight : isDecimal 0 = true := by
  decide

def midnight : Clock :=
  ⟨0, isDecimal_midnight⟩

def hourLater : Clock :=
  ⟨3601, by decide⟩

def noLock : World :=
  { file := none }

theorem fresh_noLock : Fresh noLock :=
  fun _ => ⟨rfl, rfl⟩

theorem first_acquire : Run (OrderlyStep hourLock) noLock (acquireMoves 1 midnight fun _ => true)
    (noLock.taken hourLock 1 midnight false) :=
  acquire_alone rfl rfl rfl (fun _ _ => rfl)

theorem second_acquire :
    Run (OrderlyStep hourLock) (noLock.taken hourLock 1 midnight false)
      (acquireMoves 2 hourLater fun _ => true)
      ((noLock.taken hourLock 1 midnight false).taken hourLock 2 hourLater true) := by
  refine acquire_alone rfl (readLock_lockText (wellFormed_activePayload hourLock 1 midnight)) ?_
    (fun _ _ => rfl)
  have distinct := (wellFormed_dict.mp (wellFormed_activePayload hourLock 1 midnight)).1
  have locked : sortKeys ((activePayload hourLock 1 midnight).get "locked") = .bool true := rfl
  have named : sortKeys ((activePayload hourLock 1 midnight).get "pid") = .int 1 := rfl
  have written : sortKeys ((activePayload hourLock 1 midnight).get "timestamp_epoch") =
      .float (.finite 0) := rfl
  have foreign : PyValue.equal (.int 1) (.int 2) = false := by decide +kernel
  have living : stalePid (fun _ => true) (.int 1) = .ok false := rfl
  have old : judgeAge hourLock (.float (.finite 0)) hourLater = .expired := by decide +kernel
  unfold judge
  simp only [get_sortEntries distinct, locked, named, written, foreign, living, PyValue.isTrue]
  exact congrArg Except.ok old

theorem one_process_holds_taken :
    ¬(((noLock.taken hourLock 1 midnight false).taken hourLock 2 hourLater true).Holding 1 ∧
      ((noLock.taken hourLock 1 midnight false).taken hourLock 2 hourLater true).Holding 2) := by
  rintro ⟨left, right⟩
  have same := (one_process_holds hourLock fresh_noLock (first_acquire.append second_acquire)).1 1 2
    left right
  exact absurd same (by decide)

theorem third_acquire :
    Run (OrderlyStep hourLock)
      ((noLock.taken hourLock 1 midnight false).freed hourLock 2 midnight)
      (acquireMoves 3 midnight fun _ => true)
      (((noLock.taken hourLock 1 midnight false).freed hourLock 2 midnight).taken hourLock 3
        midnight false) := by
  refine acquire_alone rfl (readLock_lockText (wellFormed_releasedPayload hourLock 2 midnight)) ?_
    (fun _ _ => rfl)
  have distinct := (wellFormed_dict.mp (wellFormed_releasedPayload hourLock 2 midnight)).1
  have unlocked : sortKeys ((releasedPayload hourLock 2 midnight).get "locked") = .bool false :=
    rfl
  unfold judge
  simp only [get_sortEntries distinct, unlocked, PyValue.isTrue]
  rfl

def racingMoves : List (Int × Move) :=
  [(1, .callAcquire midnight), (2, .callAcquire midnight), (1, .read), (2, .read),
    (1, .judge fun _ => true), (2, .judge fun _ => true), (1, .stage), (1, .replace),
    (2, .stage), (2, .replace)]

/-- Living processes hold the lock together after one was taken for too old, after two read
the file before either wrote it, and after a release by a process that did not hold it. -/
theorem two_processes_hold :
    (∃ labels world, Run (LiveStep hourLock) noLock labels world ∧
        world.holds 1 = true ∧ world.holds 2 = true) ∧
      (∃ world, Run (LiveStep hourLock) noLock racingMoves world ∧
        world.Holding 1 ∧ world.Holding 2) ∧
      ∃ held freed world,
        Run (LiveStep hourLock) noLock (acquireMoves 1 midnight fun _ => true) held ∧
          Run (LiveStep hourLock) held (releaseMoves 2 midnight) freed ∧
          Run (LiveStep hourLock) freed (acquireMoves 3 midnight fun _ => true) world ∧
          held.holds 2 = false ∧ world.Holding 1 ∧ world.Holding 3 := by
  have lively : ∀ before (label : Int × Move) after,
      OrderlyStep hourLock before label after → LiveStep hourLock before label after :=
    fun _ _ _ stepped => stepped.1
  refine ⟨?_, ?_, ?_⟩
  · exact ⟨_, _, (first_acquire.append second_acquire).mono lively, rfl, rfl⟩
  · exact ⟨_, .cons ⟨rfl, trivial⟩ (.cons ⟨rfl, trivial⟩ (.cons ⟨rfl, trivial⟩
      (.cons ⟨rfl, trivial⟩ (.cons ⟨rfl, fun _ _ => rfl⟩ (.cons ⟨rfl, fun _ _ => rfl⟩
        (.cons ⟨rfl, trivial⟩ (.cons ⟨rfl, trivial⟩ (.cons ⟨rfl, trivial⟩
          (.cons ⟨rfl, trivial⟩ .nil))))))))), ⟨rfl, rfl⟩, ⟨rfl, rfl⟩⟩
  · exact ⟨_, _, _, first_acquire.mono lively, release_alone rfl, third_acquire.mono lively, rfl,
      ⟨rfl, rfl⟩, ⟨rfl, rfl⟩⟩

end Algotradify.Core.RunLock
