/-
Two emitters that append to the file of one day: nothing is lost exactly when one has
replaced the file before the other reads it.
-/

import Mathlib.Data.List.Perm.Basic
import Algotradify.Core.FillEvents

namespace Algotradify.Core.FillEvents

open Py Json Transition

/-! ### One emitter alone -/

def readText (file : Option String) : String :=
  universalNewlines (file.getD "")

/-- The phase of an emitter and the disk, after a number of steps on an untouched file. -/
inductive Progress (emitter : Emitter) (file : Option String) (disk : Disk) :
    Nat → Phase → Prop where
  | started (same : disk.file = file) : Progress emitter file disk 0 .started
  | loaded (same : disk.file = file) : Progress emitter file disk 1 (.loaded (readText file))
  | written (same : disk.file = file)
      (kept : disk.temporary emitter.temporary = some (appendRow (readText file) emitter.row)) :
      Progress emitter file disk 2 .written
  | returned (left : disk.file = some (appendRow (readText file) emitter.row)) :
      Progress emitter file disk 3 .returned

theorem Progress.step {emitter : Emitter} {file : Option String} {disk after : Disk} {count : Nat}
    {phase next : Phase} (progress : Progress emitter file disk count phase)
    (stepped : appendStep emitter disk phase = some (after, next)) :
    Progress emitter file after (count + 1) next := by
  cases progress with
  | started same =>
      cases stepped
      rw [same]
      exact .loaded same
  | loaded same =>
      cases stepped
      exact .written same (Function.update_self _ _ _)
  | written same kept =>
      unfold appendStep at stepped
      rw [kept] at stepped
      cases stepped
      exact .returned rfl
  | returned left => cases stepped

/-! ### Two emitters -/

section Emitters

variable {emitters : Who → Emitter} {file : Option String}

structure Overlapped (emitters : Who → Emitter) (text : String) (labels : List Who)
    (system : System) : Prop where
  early : ∃ who count rest, 0 < count ∧ count < 3 ∧
    labels = List.replicate count who ++ who.other :: rest
  phases : ∀ who, system.phase who = .loaded text ∨ system.phase who = .written ∨
    system.phase who = .returned ∨ system.phase who = .failed
  kept : ∀ who stored, system.phase who = .written →
    system.disk.temporary (emitters who).temporary = some stored →
    ∃ writer, stored = appendRow text (emitters writer).row
  left : ∀ who, system.phase who = .returned →
    ∃ writer, system.disk.file = some (appendRow text (emitters writer).row)

inductive Regime (emitters : Who → Emitter) (file : Option String) (labels : List Who)
    (system : System) : Prop where
  | alone (who : Who) (count : Nat) (same : labels = List.replicate count who)
      (progress : Progress (emitters who) file system.disk count (system.phase who))
      (waiting : system.phase who.other = .started)
  | serial (who : Who) (count : Nat)
      (same : labels = List.replicate 3 who ++ List.replicate count who.other)
      (progress : Progress (emitters who.other)
        (some (appendRow (readText file) (emitters who).row)) system.disk count
        (system.phase who.other))
      (done : system.phase who = .returned)
  | overlapped (held : Overlapped emitters (readText file) labels system)

theorem Who.other_ne (who : Who) : who.other ≠ who := by
  cases who <;> decide

theorem Who.other_other (who : Who) : who.other.other = who := by
  cases who <;> rfl

theorem Who.eq_or_other (who label : Who) : label = who ∨ label = who.other := by
  cases who <;> cases label <;> decide

private theorem phase_update_other (phases : Who → Phase) (who : Who) (phase : Phase) :
    Function.update phases who phase who.other = phases who.other :=
  Function.update_of_ne who.other_ne _ _

private theorem replicate_snoc (count : Nat) (who : Who) :
    List.replicate count who ++ [who] = List.replicate (count + 1) who :=
  List.replicate_succ'.symm

theorem Overlapped.step {text : String} {labels : List Who} {before after : System} {who : Who}
    (held : Overlapped emitters text labels before) (stepped : EmitStep emitters before who after) :
    Overlapped emitters text (labels ++ [who]) after := by
  obtain ⟨disk, phase, made, rfl⟩ := stepped
  have early : ∃ reader count rest, 0 < count ∧ count < 3 ∧
      labels ++ [who] = List.replicate count reader ++ reader.other :: rest := by
    obtain ⟨reader, count, rest, some, few, same⟩ := held.early
    refine ⟨reader, count, rest ++ [who], some, few, ?_⟩
    rw [same, List.append_assoc, List.cons_append]
  have other (label : Who) (different : label ≠ who) :
      Function.update before.phase who phase label = before.phase label :=
    Function.update_of_ne different _ _
  rcases held.phases who with loaded | written | returned | failed
  · rw [loaded] at made
    cases made
    refine ⟨early, ?_, ?_, ?_⟩
    · intro label
      by_cases same : label = who
      · rw [same]
        exact .inr (.inl (Function.update_self _ _ _))
      · dsimp only
        rw [other label same]
        exact held.phases label
    · intro label stored writing found
      dsimp only at writing found
      by_cases name : (emitters label).temporary = (emitters who).temporary
      · rw [name, Function.update_self] at found
        exact ⟨who, (Option.some.inj found).symm⟩
      · rw [Function.update_of_ne name] at found
        by_cases same : label = who
        · exact absurd (congrArg (fun label => (emitters label).temporary) same) name
        · rw [other label same] at writing
          exact held.kept label stored writing found
    · intro label finished
      dsimp only at finished ⊢
      by_cases same : label = who
      · rw [same, Function.update_self] at finished
        cases finished
      · rw [other label same] at finished
        exact held.left label finished
  · rw [written] at made
    unfold appendStep at made
    cases found : before.disk.temporary (emitters who).temporary with
    | none =>
        rw [found] at made
        cases made
        refine ⟨early, ?_, ?_, ?_⟩
        · intro label
          by_cases same : label = who
          · rw [same]
            exact .inr (.inr (.inr (Function.update_self _ _ _)))
          · dsimp only
            rw [other label same]
            exact held.phases label
        · intro label stored writing kept
          dsimp only at writing kept
          by_cases same : label = who
          · rw [same, found] at kept
            cases kept
          · rw [other label same] at writing
            exact held.kept label stored writing kept
        · intro label finished
          dsimp only at finished ⊢
          by_cases same : label = who
          · rw [same, Function.update_self] at finished
            cases finished
          · rw [other label same] at finished
            exact held.left label finished
    | some stored =>
        obtain ⟨writer, content⟩ := held.kept who stored written found
        rw [found] at made
        cases made
        refine ⟨early, ?_, ?_, ?_⟩
        · intro label
          by_cases same : label = who
          · rw [same]
            exact .inr (.inr (.inl (Function.update_self _ _ _)))
          · dsimp only
            rw [other label same]
            exact held.phases label
        · intro label text writing kept
          dsimp only at writing kept
          by_cases name : (emitters label).temporary = (emitters who).temporary
          · rw [name, Function.update_self] at kept
            cases kept
          · rw [Function.update_of_ne name] at kept
            by_cases same : label = who
            · exact absurd (congrArg (fun label => (emitters label).temporary) same) name
            · rw [other label same] at writing
              exact held.kept label text writing kept
        · intro label _finished
          exact ⟨writer, congrArg Option.some content⟩
  · rw [returned] at made
    cases made
  · rw [failed] at made
    cases made

private theorem other_reads {before : System} {who : Who} {count : Nat} {phase : Phase}
    (own : before.phase who = phase)
    (progress : Progress (emitters who) file before.disk count phase) :
    Regime emitters file (List.replicate count who ++ [who.other])
      { disk := before.disk
        phase := Function.update before.phase who.other
          (.loaded (universalNewlines (before.disk.file.getD ""))) } := by
  have other : Function.update before.phase who.other
      (.loaded (universalNewlines (before.disk.file.getD ""))) who.other =
      .loaded (universalNewlines (before.disk.file.getD "")) := Function.update_self _ _ _
  have self : Function.update before.phase who.other
      (.loaded (universalNewlines (before.disk.file.getD ""))) who = phase := by
    rw [Function.update_of_ne who.other_ne.symm, own]
  have overlapped (same : before.disk.file = file) (early : 0 < count ∧ count < 3)
      (reached : phase = .loaded (readText file) ∨ phase = .written)
      (kept : phase = .written → before.disk.temporary (emitters who).temporary =
        some (appendRow (readText file) (emitters who).row)) :
      Overlapped emitters (readText file) (List.replicate count who ++ [who.other])
        { disk := before.disk
          phase := Function.update before.phase who.other
            (.loaded (universalNewlines (before.disk.file.getD ""))) } := by
    refine ⟨⟨who, count, [], early.1, early.2, rfl⟩, ?_, ?_, ?_⟩
    · intro label
      dsimp only
      rcases who.eq_or_other label with rfl | rfl
      · rw [self]
        exact reached.imp id .inl
      · rw [other, same]
        exact .inl rfl
    · intro label stored writing found
      dsimp only at writing found
      rcases who.eq_or_other label with rfl | rfl
      · rw [self] at writing
        rw [kept writing] at found
        exact ⟨_, (Option.some.inj found).symm⟩
      · rw [other] at writing
        cases writing
    · intro label finished
      dsimp only at finished
      rcases who.eq_or_other label with rfl | rfl
      · rw [self] at finished
        rw [finished] at reached
        exact reached.elim nofun nofun
      · rw [other] at finished
        cases finished
  cases progress with
  | started same =>
      refine .alone who.other 1 rfl ?_ ?_
      · dsimp only
        rw [other, same]
        exact .loaded same
      · dsimp only
        rw [who.other_other]
        exact self
  | loaded same =>
      exact .overlapped (overlapped same (by decide) (.inl rfl) nofun)
  | written same kept =>
      exact .overlapped (overlapped same (by decide) (.inr rfl) fun _ => kept)
  | returned left =>
      refine .serial who 1 rfl ?_ self
      dsimp only
      rw [other, left]
      exact .loaded left

theorem Regime.step {labels : List Who} {before after : System} {who : Who}
    (regime : Regime emitters file labels before) (stepped : EmitStep emitters before who after) :
    Regime emitters file (labels ++ [who]) after := by
  obtain ⟨disk, phase, made, shape⟩ := stepped
  cases regime with
  | overlapped held => exact .overlapped (held.step ⟨disk, phase, made, shape⟩)
  | serial reader count same progress done =>
      rcases reader.eq_or_other who with rfl | rfl
      · rw [done] at made
        cases made
      · subst shape
        refine .serial reader (count + 1) ?_ ?_ ?_
        · rw [same, List.append_assoc, replicate_snoc]
        · dsimp only
          rw [Function.update_self]
          exact progress.step made
        · dsimp only
          rw [Function.update_of_ne reader.other_ne.symm]
          exact done
  | alone reader count same progress waiting =>
      rcases reader.eq_or_other who with rfl | rfl
      · subst shape
        refine .alone who (count + 1) ?_ ?_ ?_
        · rw [same, replicate_snoc]
        · dsimp only
          rw [Function.update_self]
          exact progress.step made
        · dsimp only
          rw [phase_update_other]
          exact waiting
      · rw [waiting] at made
        cases made
        rw [shape, same]
        exact other_reads rfl progress

theorem run_regime {labels : List Who} {disk : Disk} {finish : System}
    (run : Run (EmitStep emitters) (.start disk) labels finish) :
    Regime emitters disk.file labels finish :=
  run.history_invariant
    (.alone .first 0 rfl (.started rfl) rfl)
    fun _ _ _ _ regime stepped => regime.step stepped

end Emitters

/-! ### What the file holds in the end -/

def fileRows (file : Option String) : List String :=
  textLines (file.getD "")

def Serial (labels : List Who) : Prop :=
  ∃ who, labels = List.replicate 3 who ++ List.replicate 3 who.other

theorem textLines_readText (file : Option String) : textLines (readText file) = fileRows file :=
  textLines_universalNewlines _

theorem carriage_notMem_readText (file : Option String) : '\r' ∉ (readText file).toList := by
  unfold readText universalNewlines
  rw [String.toList_ofList]
  exact carriage_notMem_translate _

private theorem length_appendRow_le {text row : String} (plain : '\r' ∉ text.toList)
    (unbroken : Unbroken row.toList) :
    (textLines (appendRow text row)).length ≤ (textLines text).length + 1 := by
  by_cases ended : Ended text
  · rw [textLines_appendRow unbroken ended, List.length_append, List.length_singleton]
  · rw [length_textLines_appendRow plain unbroken ended]
    exact Nat.le_succ _

private theorem serial_not_early {labels : List Who} (serial : Serial labels) :
    ¬∃ who count rest, 0 < count ∧ count < 3 ∧
      labels = List.replicate count who ++ who.other :: rest := by
  rintro ⟨reader, count, rest, some, few, early⟩
  obtain ⟨who, same⟩ := serial
  rw [same] at early
  have cases : count = 1 ∨ count = 2 := by omega
  rcases cases with rfl | rfl
  · cases who <;> cases reader <;> cases early
  · cases who <;> cases reader <;> cases early

def KeptAll (emitters : Who → Emitter) (before after : Option String) : Prop :=
  (fileRows after).Perm
    (fileRows before ++ [(emitters .first).row, (emitters .second).row])

section Kept

variable {emitters : Who → Emitter} {file : Option String} {labels : List Who} {system : System}

theorem Overlapped.loses (held : Overlapped emitters (readText file) labels system)
    (unbroken : ∀ who, Unbroken (emitters who).row.toList) (returned : system.phase .first = .returned) :
    ¬KeptAll emitters file system.disk.file := by
  intro perm
  obtain ⟨writer, left⟩ := held.left .first returned
  have few := length_appendRow_le (carriage_notMem_readText file) (unbroken writer)
  have many := perm.length_eq
  rw [left, List.length_append] at many
  change (textLines (appendRow (readText file) (emitters writer).row)).length =
    (fileRows file).length + 2 at many
  rw [← textLines_readText] at many
  omega

theorem serial_keeps_iff {who : Who} (unbroken : ∀ who, Unbroken (emitters who).row.toList)
    (left : system.disk.file = some (appendRow
      (readText (some (appendRow (readText file) (emitters who).row))) (emitters who.other).row)) :
    KeptAll emitters file system.disk.file ↔ Ended (readText file) := by
  have plain := carriage_notMem_readText file
  have between := carriage_notMem_appendRow plain (unbroken who)
  have kept : readText (some (appendRow (readText file) (emitters who).row)) =
      appendRow (readText file) (emitters who).row := universalNewlines_eq_self between
  have last : fileRows system.disk.file =
      textLines (appendRow (readText file) (emitters who).row) ++ [(emitters who.other).row] := by
    rw [left, kept]
    exact textLines_appendRow (unbroken who.other) (ended_appendRow _ _)
  unfold KeptAll
  rw [last, ← textLines_readText]
  constructor
  · intro perm
    by_contra unended
    have count := perm.length_eq
    rw [List.length_append, List.length_append,
      length_textLines_appendRow plain (unbroken who) unended] at count
    change _ + 1 = _ + 2 at count
    omega
  · intro ended
    rw [textLines_appendRow (unbroken who) ended, List.append_assoc, List.singleton_append]
    cases who with
    | first => exact .refl _
    | second => exact (List.Perm.swap _ _ []).append_left _

theorem unserial_loses {disk : Disk} (unbroken : ∀ who, Unbroken (emitters who).row.toList)
    (run : Run (EmitStep emitters) (.start disk) labels system)
    (returned : ∀ who, system.phase who = .returned) (unserial : ¬Serial labels) :
    ¬KeptAll emitters disk.file system.disk.file := by
  cases run_regime run with
  | alone who count same progress waiting => cases waiting.symm.trans (returned _)
  | overlapped held => exact held.loses unbroken (returned _)
  | serial who count same progress done =>
      rw [returned] at progress
      cases progress with
      | returned left => exact absurd ⟨who, same⟩ unserial

end Kept

/-- After both emitters have returned, the file holds its rows and both new ones exactly
when the emitters did not overlap and no row of the file was left without its line break. -/
theorem emitted_fills_kept_iff {configs : Who → FillConfig} {fills : Who → Fill}
    {emitters : Who → Emitter}
    (accepted : ∀ who, fillRow (configs who) (fills who) = .ok (emitters who).row)
    {disk : Disk} {labels : List Who} {finish : System}
    (run : Run (EmitStep emitters) (.start disk) labels finish)
    (returned : ∀ who, finish.phase who = .returned) :
    KeptAll emitters disk.file finish.disk.file ↔ Ended (readText disk.file) ∧ Serial labels := by
  have unbroken (who : Who) : Unbroken (emitters who).row.toList := unbroken_fillRow (accepted who)
  by_cases serial : Serial labels
  · rw [and_iff_left serial]
    cases run_regime run with
    | alone who count same progress waiting => cases waiting.symm.trans (returned _)
    | overlapped held => exact absurd held.early (serial_not_early serial)
    | serial who count same progress done =>
        rw [returned] at progress
        cases progress with
        | returned left => exact serial_keeps_iff unbroken left
  · constructor
    · intro kept
      exact absurd kept (unserial_loses unbroken run returned serial)
    · intro both
      exact absurd both.2 serial

/-! ### Two fills of one order -/

private def fillConfig : FillConfig :=
  { runId := .str "run-1", execRunId := .none, deskId := .str "desk", executionMode := .str "PAPER" }

private def partFill (price : Int) : Fill :=
  { orderId := .str "o1"
    symbol := .str "NIFTY"
    side := .str "BUY"
    qty := .int 50
    price := .int price
    tsUtc := "2026-03-02T04:00:00Z" }

private def partFills : Who → Fill
  | .first => partFill 101
  | .second => partFill 102

private def fillEmitters (who : Who) : Emitter :=
  { row := jsonDumps spaced (.dict (fillEvent fillConfig (partFills who)))
    temporary := match who with
      | .first => "events.jsonl.tmp.7.1"
      | .second => "events.jsonl.tmp.8.1" }

private def emptyDisk : Disk :=
  { file := none, temporary := fun _ => none }

private theorem partFills_accepted (who : Who) :
    fillRow fillConfig (partFills who) = .ok (fillEmitters who).row := by
  cases who <;> exact rfl

/-- One after the other, both fills are kept. -/
theorem emitted_fills_kept_serial :
    ∃ finish, Run (EmitStep fillEmitters) (.start emptyDisk)
        [.first, .first, .first, .second, .second, .second] finish ∧
      KeptAll fillEmitters emptyDisk.file finish.disk.file := by
  have run : Run (EmitStep fillEmitters) (.start emptyDisk)
      [.first, .first, .first, .second, .second, .second] _ :=
    .snoc (.snoc (.snoc (.snoc (.snoc (.snoc .nil ⟨_, _, rfl, rfl⟩) ⟨_, _, rfl, rfl⟩)
      ⟨_, _, rfl, rfl⟩) ⟨_, _, rfl, rfl⟩) ⟨_, _, rfl, rfl⟩) ⟨_, _, rfl, rfl⟩
  refine ⟨_, run, (emitted_fills_kept_iff partFills_accepted run ?_).mpr ⟨.inl rfl, .first, rfl⟩⟩
  intro who
  cases who <;> rfl

/-- When both have read before either has written, one fill is lost. -/
theorem overlapping_fills_lost :
    ¬∀ (labels : List Who) (finish : System),
      Run (EmitStep fillEmitters) (.start emptyDisk) labels finish →
      (∀ who, finish.phase who = .returned) →
      KeptAll fillEmitters emptyDisk.file finish.disk.file := by
  intro keeps
  obtain ⟨finish, run, returned⟩ : ∃ finish, Run (EmitStep fillEmitters) (.start emptyDisk)
      [.first, .second, .first, .second, .first, .second] finish ∧
      ∀ who, finish.phase who = .returned := by
    refine ⟨_, .snoc (.snoc (.snoc (.snoc (.snoc (.snoc .nil ⟨_, _, rfl, rfl⟩) ⟨_, _, rfl, rfl⟩)
      ⟨_, _, rfl, rfl⟩) ⟨_, _, rfl, rfl⟩) ⟨_, _, rfl, rfl⟩) ⟨_, _, rfl, rfl⟩, ?_⟩
    intro who
    cases who <;> rfl
  have unserial : ¬Serial [.first, .second, .first, .second, .first, .second] := by
    rintro ⟨who, same⟩
    cases who <;> cases same
  have unbroken (who : Who) : Unbroken (fillEmitters who).row.toList :=
    unbroken_fillRow (partFills_accepted who)
  exact unserial_loses unbroken run returned unserial (keeps _ _ run returned)

end Algotradify.Core.FillEvents
