/-
Labelled runs of a step relation, their induction rules and their composition.

A run remembers its labels in order, so that an invariant may speak about the
history that led to a state and not only about the state.

Histories: runs whose labels carry what each step answered, and the last entry of a
history that has a value.
-/

import Mathlib.Data.List.Basic
import Mathlib.Data.List.Induction

namespace Algotradify.Transition

section Runs

variable {State Label : Type*}

inductive Run (step : State → Label → State → Prop) (start : State) :
    List Label → State → Prop where
  | nil : Run step start [] start
  | snoc {labels : List Label} {before after : State} {label : Label} :
      Run step start labels before → step before label after →
        Run step start (labels ++ [label]) after

namespace Run

variable {step : State → Label → State → Prop} {start middle finish : State}
variable {labels first second : List Label}

theorem history_invariant {motive : List Label → State → Prop}
    (run : Run step start labels finish) (initial : motive [] start)
    (preserved : ∀ labels before label after,
      motive labels before → step before label after → motive (labels ++ [label]) after) :
    motive labels finish := by
  induction run with
  | nil => exact initial
  | snoc _run stepped ih => exact preserved _ _ _ _ ih stepped

theorem invariant {motive : State → Prop}
    (run : Run step start labels finish) (initial : motive start)
    (preserved : ∀ before label after,
      motive before → step before label after → motive after) :
    motive finish :=
  run.history_invariant (motive := fun _ state => motive state) initial
    (fun _ before label after => preserved before label after)

theorem append (initial : Run step start first middle) (later : Run step middle second finish) :
    Run step start (first ++ second) finish := by
  induction later with
  | nil =>
      rw [List.append_nil]
      exact initial
  | snoc _later stepped ih =>
      rw [← List.append_assoc]
      exact .snoc ih stepped

theorem cons {label : Label} (stepped : step start label middle)
    (later : Run step middle second finish) : Run step start (label :: second) finish :=
  append (.snoc .nil stepped) later

theorem split (run : Run step start labels finish) (cut : labels = first ++ second) :
    ∃ middle, Run step start first middle ∧ Run step middle second finish := by
  induction run generalizing second with
  | nil =>
      obtain ⟨rfl, rfl⟩ := List.append_eq_nil_iff.mp cut.symm
      exact ⟨start, .nil, .nil⟩
  | @snoc labels before after label run stepped ih =>
      rcases List.eq_nil_or_concat second with rfl | ⟨rest, last, rfl⟩
      · rw [List.append_nil] at cut
        subst cut
        exact ⟨after, .snoc run stepped, .nil⟩
      · rw [List.concat_eq_append, ← List.append_assoc] at cut
        obtain ⟨sameLabels, sameLast⟩ := List.append_inj' cut rfl
        cases sameLast
        obtain ⟨middle, initial, later⟩ := ih sameLabels
        refine ⟨middle, initial, ?_⟩
        rw [List.concat_eq_append]
        exact .snoc later stepped

theorem eq_of_nil (run : Run step start [] finish) : finish = start := by
  generalize empty : ([] : List Label) = labels at run
  cases run with
  | nil => rfl
  | snoc _run _stepped =>
      exact absurd empty.symm (List.append_ne_nil_of_right_ne_nil _ (List.cons_ne_nil _ _))

theorem snoc_inv {label : Label} (run : Run step start (first ++ [label]) finish) :
    ∃ before, Run step start first before ∧ step before label finish := by
  generalize last : first ++ [label] = labels at run
  cases run with
  | nil => exact absurd last (List.append_ne_nil_of_right_ne_nil _ (List.cons_ne_nil _ _))
  | @snoc _labels before _after _label run stepped =>
      obtain ⟨sameLabels, sameLast⟩ := List.append_inj' last rfl
      cases sameLabels
      cases sameLast
      exact ⟨before, run, stepped⟩

theorem cons_inv {label : Label} (run : Run step start (label :: second) finish) :
    ∃ after, step start label after ∧ Run step after second finish := by
  have cut : label :: second = [] ++ [label] ++ second := rfl
  obtain ⟨middle, initial, later⟩ := run.split cut
  obtain ⟨before, empty, stepped⟩ := initial.snoc_inv
  cases empty.eq_of_nil
  exact ⟨middle, stepped, later⟩

theorem restrict {good : State → Label → Prop} (run : Run step start labels finish)
    (allGood : ∀ earlier label later before, labels = earlier ++ label :: later →
      Run step start earlier before → good before label) :
    Run (fun before label after => step before label after ∧ good before label) start labels
      finish := by
  induction run with
  | nil => exact .nil
  | @snoc labels before after label run stepped ih =>
      refine .snoc (ih ?_) ⟨stepped, allGood labels label [] before rfl run⟩
      intro earlier first later middle cut initial
      refine allGood earlier first (later ++ [label]) middle ?_ initial
      rw [cut, List.append_assoc, List.cons_append]

theorem of_foldl (next : State → Label → State) (start : State) (labels : List Label) :
    Run (fun before label after => after = next before label) start labels
      (labels.foldl next start) := by
  induction labels using List.reverseRecOn with
  | nil => exact .nil
  | append_singleton labels label ih =>
      rw [List.foldl_append, List.foldl_cons, List.foldl_nil]
      exact .snoc ih rfl

theorem mono {other : State → Label → State → Prop} (run : Run step start labels finish)
    (weaker : ∀ before label after, step before label after → other before label after) :
    Run other start labels finish := by
  induction run with
  | nil => exact .nil
  | snoc _run stepped ih => exact .snoc ih (weaker _ _ _ stepped)

theorem of_foldlM {next : State → Label → Option State} {start finish : State}
    {labels : List Label} (made : labels.foldlM next start = some finish) :
    Run (fun before label after => next before label = some after) start labels finish := by
  induction labels generalizing start with
  | nil =>
      cases made
      exact .nil
  | cons label rest ih =>
      rw [List.foldlM_cons] at made
      obtain ⟨middle, stepped, later⟩ := Option.bind_eq_some_iff.mp made
      exact .cons stepped (ih later)

theorem foldlM_eq_ok_iff {ε : Type*} (next : State → Label → Except ε State) (start finish : State)
    (labels : List Label) :
    labels.foldlM next start = .ok finish ↔
      Run (fun before label after => next before label = .ok after) start labels finish := by
  induction labels using List.reverseRecOn generalizing finish with
  | nil =>
      constructor
      · intro done
        cases done
        exact .nil
      · intro run
        rw [run.eq_of_nil]
        rfl
  | append_singleton labels label ih =>
      simp only [List.foldlM_append, List.foldlM_cons, List.foldlM_nil, bind_pure]
      constructor
      · intro folded
        cases initial : labels.foldlM next start with
        | error raised =>
            rw [initial] at folded
            cases folded
        | ok before =>
            rw [initial] at folded
            exact .snoc ((ih before).mp initial) folded
      · intro run
        obtain ⟨before, initial, last⟩ := run.snoc_inv
        rw [(ih before).mpr initial]
        exact last

end Run

end Runs

section Histories

variable {State Move Answer Entry Value : Type*}

/-! ### Steps that answer -/

/-- A step takes a move and answers it; a move that does not apply is no step. -/
def Observed (next : State → Move → Option (Answer × State)) (before : State)
    (entry : Move × Answer) (after : State) : Prop :=
  next before entry.1 = some (entry.2, after)

def trace (next : State → Move → Option (Answer × State)) :
    State → List Move → Option (List (Move × Answer) × State)
  | state, [] => some ([], state)
  | state, move :: moves =>
      (next state move).bind fun result =>
        (trace next result.2 moves).map fun rest => ((move, result.1) :: rest.1, rest.2)

theorem run_of_trace {next : State → Move → Option (Answer × State)} {start finish : State}
    {moves : List Move} {entries : List (Move × Answer)}
    (traced : trace next start moves = some (entries, finish)) :
    Run (Observed next) start entries finish := by
  induction moves generalizing start entries with
  | nil =>
      cases traced
      exact .nil
  | cons move moves ih =>
      obtain ⟨⟨answer, middle⟩, stepped, traced⟩ := Option.bind_eq_some_iff.mp traced
      obtain ⟨⟨rest, last⟩, tracedRest, joined⟩ := Option.map_eq_some_iff.mp traced
      cases joined
      have first : Observed next start (move, answer) middle := stepped
      exact Run.cons first (ih tracedRest)

theorem run_unique {next : State → Move → Option (Answer × State)} {start finish other : State}
    {entries : List (Move × Answer)} (run : Run (Observed next) start entries finish)
    (second : Run (Observed next) start entries other) : finish = other := by
  induction run generalizing other with
  | nil => exact second.eq_of_nil.symm
  | snoc _run stepped ih =>
      obtain ⟨middle, initial, last⟩ := second.snoc_inv
      cases ih initial
      have same := Option.some.inj (stepped.symm.trans last)
      exact congrArg Prod.snd same

theorem trace_moves {next : State → Move → Option (Answer × State)} {start finish : State}
    {moves : List Move} {entries : List (Move × Answer)}
    (traced : trace next start moves = some (entries, finish)) :
    entries.map Prod.fst = moves := by
  induction moves generalizing start entries with
  | nil =>
      cases traced
      rfl
  | cons move moves ih =>
      obtain ⟨⟨answer, middle⟩, _stepped, traced⟩ := Option.bind_eq_some_iff.mp traced
      obtain ⟨⟨rest, last⟩, tracedRest, joined⟩ := Option.map_eq_some_iff.mp traced
      cases joined
      rw [List.map_cons, ih tracedRest]

theorem run_of_answers {next : State → Move → Option (Answer × State)} {start : State}
    {moves : List Move} {answers : List Answer}
    (answered : (trace next start moves).map (fun result => result.1.map Prod.snd) =
      some answers) :
    ∃ finish, Run (Observed next) start (moves.zip answers) finish := by
  obtain ⟨⟨entries, finish⟩, traced, sameAnswers⟩ := Option.map_eq_some_iff.mp answered
  rw [← List.zip_of_prod (trace_moves traced) sameAnswers]
  exact ⟨finish, run_of_trace traced⟩

/-! ### The last entry that says something -/

/-- The last entry of the history with a value has this one, and these entries came
after it. -/
def Since (reads : Entry → Option Value) (history : List Entry) (value : Value)
    (later : List Entry) : Prop :=
  ∃ earlier entry, history = earlier ++ entry :: later ∧ reads entry = some value ∧
    ∀ silent ∈ later, reads silent = none

namespace Since

variable {reads : Entry → Option Value} {history later : List Entry} {value : Value} {entry : Entry}

theorem here (said : reads entry = some value) : Since reads (history ++ [entry]) value [] := by
  refine ⟨history, entry, rfl, said, ?_⟩
  intro silent member
  cases member

theorem snoc (since : Since reads history value later) (silent : reads entry = none) :
    Since reads (history ++ [entry]) value (later ++ [entry]) := by
  obtain ⟨earlier, first, cut, said, quiet⟩ := since
  refine ⟨earlier, first, ?_, said, ?_⟩
  · rw [cut, List.append_assoc, List.cons_append]
  · intro other member
    rcases List.mem_append.mp member with before | last
    · exact quiet other before
    · rw [List.mem_singleton.mp last]
      exact silent

end Since

end Histories

end Algotradify.Transition
