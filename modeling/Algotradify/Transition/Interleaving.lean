/-
Interleavings of streams, and systems made of independent parts.

A list interleaves streams when each stream is what is left of the list after
keeping its own labels. A label of a system of parts moves the parts that it
addresses, each by the rule of the part alone, so that a part sees its own labels only.
-/

import Mathlib.Data.List.Count
import Mathlib.Data.List.Perm.Basic
import Algotradify.Transition.Run

namespace Algotradify.Transition

variable {State Label Other Key : Type*}

/-! ### Interleavings -/

section Interleaves

variable [DecidableEq Key]

def Interleaves (stream : Label → Key) (streams : Key → List Label) (labels : List Label) : Prop :=
  ∀ key, labels.filter (fun label => stream label = key) = streams key

namespace Interleaves

variable {stream : Label → Key} {streams : Key → List Label} {first second : List Label}

theorem same_streams (left : Interleaves stream streams first)
    (right : Interleaves stream streams second) (key : Key) :
    first.filter (fun label => stream label = key) =
      second.filter (fun label => stream label = key) :=
  (left key).trans (right key).symm

theorem perm (left : Interleaves stream streams first)
    (right : Interleaves stream streams second) : first.Perm second := by
  classical
  rw [List.perm_iff_count]
  intro label
  have counted (labels : List Label) :
      (labels.filter fun other => stream other = stream label).count label = labels.count label := by
    rw [List.count_filter]
    exact decide_eq_true rfl
  rw [← counted first, ← counted second, left.same_streams right]

theorem filter_eq (left : Interleaves stream streams first)
    (right : Interleaves stream streams second) {keep : Label → Bool}
    (oneStream : ∀ label ∈ first, ∀ other ∈ first, keep label = true → keep other = true →
      stream label = stream other) :
    first.filter keep = second.filter keep := by
  by_cases found : ∃ label ∈ first, keep label = true
  · obtain ⟨label, member, kept⟩ := found
    have within (labels : List Label) (sub : ∀ other ∈ labels, other ∈ first) :
        labels.filter keep =
          (labels.filter fun other => stream other = stream label).filter keep := by
      rw [List.filter_filter]
      apply List.filter_congr
      intro other otherMember
      cases keptOther : keep other with
      | false => rfl
      | true =>
          have same := oneStream other (sub other otherMember) label member keptOther kept
          rw [same, Bool.true_and, decide_eq_true rfl]
    rw [within first fun _ otherMember => otherMember,
      within second fun _ otherMember => (left.perm right).mem_iff.mpr otherMember,
      left.same_streams right]
  · have nothing (labels : List Label) (sub : ∀ other ∈ labels, other ∈ first) :
        labels.filter keep = [] := by
      rw [List.filter_eq_nil_iff]
      intro other otherMember kept
      exact found ⟨other, sub other otherMember, kept⟩
    rw [nothing first fun _ otherMember => otherMember,
      nothing second fun _ otherMember => (left.perm right).mem_iff.mpr otherMember]

theorem filterMap {read : Label → Option Other} {readStream : Other → Key}
    (kept : ∀ label ∈ first, ∀ other, read label = some other → readStream other = stream label)
    (left : Interleaves stream streams first) :
    Interleaves readStream (fun key => (streams key).filterMap read) (first.filterMap read) := by
  intro key
  dsimp only
  rw [← left key, List.filter_filterMap, List.filterMap_filter]
  apply List.filterMap_congr
  intro label member
  cases found : read label with
  | none =>
      rw [Option.filter_none, ite_self]
  | some other =>
      rw [← kept label member other found]
      by_cases same : readStream other = key
      · rw [if_pos (decide_eq_true same), Option.filter_some, if_pos (decide_eq_true same)]
      · rw [if_neg (by simpa using same), Option.filter_some, if_neg (by simpa using same)]

end Interleaves

end Interleaves

/-! ### Runs over other labels -/

namespace Run

variable {step : State → Label → State → Prop} {start finish other : State}
variable {labels first second : List Label}

theorem unique (functional : ∀ before label after other,
      step before label after → step before label other → after = other)
    (run : Run step start labels finish) (otherRun : Run step start labels other) :
    finish = other := by
  induction run generalizing other with
  | nil => exact otherRun.eq_of_nil.symm
  | snoc _run stepped ih =>
      obtain ⟨before, initial, last⟩ := otherRun.snoc_inv
      have same := ih initial
      subst same
      exact functional _ _ _ _ stepped last

theorem relabel (blind : ∀ before label after other, step before label after →
      step before other after)
    (run : Run step start first finish) (long : second.length = first.length) :
    Run step start second finish := by
  induction run generalizing second with
  | nil =>
      cases List.eq_nil_of_length_eq_zero long
      exact .nil
  | snoc _run stepped ih =>
      rw [List.length_append, List.length_singleton] at long
      rcases List.eq_nil_or_concat second with rfl | ⟨rest, last, rfl⟩
      · rw [List.length_nil] at long
        omega
      · rw [List.concat_eq_append] at long ⊢
        rw [List.length_append, List.length_singleton] at long
        exact .snoc (ih (by omega)) (blind _ _ _ _ stepped)

theorem exists_step_of_mem (run : Run step start labels finish) {label : Label}
    (member : label ∈ labels) : ∃ before after, step before label after := by
  induction run with
  | nil => cases member
  | @snoc labels before after last _run stepped ih =>
      rcases List.mem_append.mp member with earlier | here
      · exact ih earlier
      · cases List.mem_singleton.mp here
        exact ⟨before, after, stepped⟩

theorem transfer {like : Label → Label → Prop}
    (anywhere : ∀ label other before after state, like label other → step before label after →
      ∃ next, step state other next)
    (run : Run step start first finish)
    (found : ∀ label ∈ second, ∃ original ∈ first, like original label) (begin : State) :
    ∃ last, Run step begin second last := by
  induction second using List.reverseRecOn with
  | nil => exact ⟨begin, .nil⟩
  | append_singleton labels label ih =>
      obtain ⟨before, initial⟩ :=
        ih fun label member => found label (List.mem_append_left _ member)
      obtain ⟨original, member, alike⟩ :=
        found label (List.mem_append_right _ (List.mem_singleton_self label))
      obtain ⟨origin, after, stepped⟩ := run.exists_step_of_mem member
      obtain ⟨next, last⟩ := anywhere original label origin after before alike stepped
      exact ⟨next, .snoc initial last⟩

end Run

/-! ### Independent parts -/

section Parts

variable {Name : Type*} {Part : Name → Type*}

structure MovesParts (step : State → Label → State → Prop) (addresses : Name → Label → Bool)
    (look : (name : Name) → State → Part name)
    (move : (name : Name) → Part name → Label → Part name → Prop) : Prop where
  own : ∀ {before label after}, step before label after → ∀ name, addresses name label = true →
    move name (look name before) label (look name after)
  others : ∀ {before label after}, step before label after → ∀ name, addresses name label = false →
    look name after = look name before

namespace MovesParts

variable {step : State → Label → State → Prop} {addresses : Name → Label → Bool}
variable {look : (name : Name) → State → Part name}
variable {move : (name : Name) → Part name → Label → Part name → Prop}
variable {start finish other : State} {labels second : List Label}

theorem of_either (either : ∀ before label after, step before label after → ∀ name,
      addresses name label = true ∧ move name (look name before) label (look name after) ∨
        addresses name label = false ∧ look name after = look name before) :
    MovesParts step addresses look move where
  own := by
    intro before label after stepped name addressed
    rcases either before label after stepped name with ⟨_, moved⟩ | ⟨unaddressed, _⟩
    · exact moved
    · rw [addressed] at unaddressed
      cases unaddressed
  others := by
    intro before label after stepped name unaddressed
    rcases either before label after stepped name with ⟨addressed, _⟩ | ⟨_, stays⟩
    · rw [addressed] at unaddressed
      cases unaddressed
    · exact stays

theorem part_run (moves : MovesParts step addresses look move)
    (run : Run step start labels finish) (name : Name) :
    Run (move name) (look name start) (labels.filter (addresses name)) (look name finish) := by
  induction run with
  | nil => exact .nil
  | @snoc labels before after label _run stepped ih =>
      rw [List.filter_append]
      cases addressed : addresses name label with
      | true =>
          rw [List.filter_cons_of_pos addressed, List.filter_nil]
          exact .snoc ih (moves.own stepped name addressed)
      | false =>
          rw [List.filter_cons_of_neg (by rw [addressed]; exact Bool.false_ne_true),
            List.filter_nil, List.append_nil, moves.others stepped name addressed]
          exact ih

theorem part_unique (moves : MovesParts step addresses look move) {name : Name}
    (functional : ∀ before label after other,
      move name before label after → move name before label other → after = other)
    (run : Run step start labels finish) (otherRun : Run step start second other)
    (same : labels.filter (addresses name) = second.filter (addresses name)) :
    look name finish = look name other := by
  have left := moves.part_run run name
  have right := moves.part_run otherRun name
  rw [← same] at right
  exact left.unique functional right

theorem part_unique_of_perm (moves : MovesParts step addresses look move) {name : Name}
    (functional : ∀ before label after other,
      move name before label after → move name before label other → after = other)
    (blind : ∀ before label after other, move name before label after → move name before other after)
    (run : Run step start labels finish) (otherRun : Run step start second other)
    (same : labels.Perm second) : look name finish = look name other := by
  have left := moves.part_run run name
  have right := moves.part_run otherRun name
  exact left.unique functional (right.relabel blind (same.filter _).length_eq)

theorem exists_run_iff (moves : MovesParts step addresses look move)
    (functional : ∀ name before label after other,
      move name before label after → move name before label other → after = other)
    (possible : ∀ before label,
      (∀ name, addresses name label = true → ∃ part, move name (look name before) label part) →
        ∃ after, step before label after) :
    (∃ finish, Run step start labels finish) ↔
      ∀ name, ∃ part, Run (move name) (look name start) (labels.filter (addresses name)) part := by
  constructor
  · rintro ⟨finish, run⟩ name
    exact ⟨look name finish, moves.part_run run name⟩
  · intro parts
    induction labels using List.reverseRecOn with
    | nil => exact ⟨start, .nil⟩
    | append_singleton labels label ih =>
        obtain ⟨before, initial⟩ := ih fun name => by
          obtain ⟨part, run⟩ := parts name
          rw [List.filter_append] at run
          obtain ⟨middle, earlier, _⟩ := run.split rfl
          exact ⟨middle, earlier⟩
        obtain ⟨after, stepped⟩ := possible before label fun name addressed => by
          obtain ⟨part, run⟩ := parts name
          rw [List.filter_append, List.filter_cons_of_pos addressed, List.filter_nil] at run
          obtain ⟨middle, earlier, last⟩ := run.snoc_inv
          rw [(moves.part_run initial name).unique (functional name) earlier]
          exact ⟨part, last⟩
        exact ⟨after, .snoc initial stepped⟩

end MovesParts

end Parts

end Algotradify.Transition
