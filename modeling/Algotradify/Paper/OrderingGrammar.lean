/-
The grammar of the ordering guard: the lists of rows that it calls valid, without the
loop that reads them.

The guard compares a time with the one before it and blocks a lesser one. A time that is
not a number is less than none and no time is less than it, so a cycle with such a time
may go back.
-/

import Mathlib.Data.List.Chain
import Algotradify.Paper.EventOrdering

namespace Algotradify.Paper.EventOrdering

open Py Transition Events

variable {events : List NormalizedEvent} {rows : List PyValue}

def IsValid (rows : List PyValue) : Prop :=
  ∃ ordering, guardPaperEventOrdering (.list rows) = .ok ordering ∧ ordering.status = .valid

def cycleEvents (events : List NormalizedEvent) (cycleId : String) : List NormalizedEvent :=
  events.filter fun event => printOption event.cycleId = cycleId

def Counted (events : List NormalizedEvent) : Prop :=
  events.map NormalizedEvent.eventSequence =
    (List.range events.length).map fun index : ℕ => some ((index : Int) + 1)

def TimesRelated (related : PyFloat → PyFloat → Prop) (earlier later : NormalizedEvent) : Prop :=
  ∀ before after, earlier.tsEpoch = some before → later.tsEpoch = some after → related before after

/-- Everything that is asked of a list, up to how the times of a cycle are related. -/
structure WellOrdered (related : PyFloat → PyFloat → Prop) (rows : List PyValue) : Prop where
  nonempty : rows ≠ []
  valid : ∀ row ∈ rows, ∃ event, RowReads row event
  eventIds : ((rows.filterMap rowEvent).map fun event => printOption event.eventId).Nodup
  idempotencyKeys :
    ((rows.filterMap rowEvent).map fun event => printOption event.idempotencyKey).Nodup
  counted : ∀ cycleId, Counted (cycleEvents (rows.filterMap rowEvent) cycleId)
  timed : ∀ cycleId,
    (cycleEvents (rows.filterMap rowEvent) cycleId).IsChain (TimesRelated related)

def NotEarlier (before after : PyFloat) : Prop :=
  after.lt before = false

def AtMost (before after : PyFloat) : Prop :=
  before.le after = true

def TimeMissing (rows : List PyValue) : Prop :=
  ∃ cycleId, 2 ≤ (cycleEvents (rows.filterMap rowEvent) cycleId).length ∧
    ∃ event ∈ cycleEvents (rows.filterMap rowEvent) cycleId, event.tsEpoch = some .nan

/-! ### The parts of the memory as properties of a list -/

theorem useRun_iff (events : List NormalizedEvent) :
    (∃ part, Run UseMove false events part) ↔ events.length ≤ 1 := by
  constructor
  · rintro ⟨part, run⟩
    have counts := run.history_invariant
      (motive := fun labels used => labels.length = if used then 1 else 0) rfl
      (by
        rintro labels before label after held ⟨unused, used⟩
        rw [unused] at held
        rw [used, List.length_append, held]
        rfl)
    rw [counts]
    split <;> omega
  · intro short
    cases events with
    | nil => exact ⟨false, .nil⟩
    | cons event rest =>
        cases rest with
        | nil => exact ⟨true, .cons ⟨rfl, rfl⟩ .nil⟩
        | cons second others =>
            simp only [List.length_cons] at short
            omega

theorem nodup_iff_uses (events : List NormalizedEvent) (field : NormalizedEvent → String) :
    (events.map field).Nodup ↔ ∀ text, (events.filter fun event => field event = text).length ≤ 1 := by
  rw [List.nodup_iff_count_le_one]
  apply forall_congr'
  intro text
  have same : (events.map field).count text =
      (events.filter fun event => decide (field event = text)).length := by
    rw [List.count, List.countP_map, List.countP_eq_length_filter]
    rfl
  rw [same]

def markOf (events : List NormalizedEvent) : CycleMark :=
  { number := events.getLast?.bind NormalizedEvent.eventSequence
    time := events.getLast?.bind NormalizedEvent.tsEpoch }

theorem cycleRun_mark {part : CycleMark} (run : Run CycleMove ⟨none, none⟩ events part) :
    part = markOf events := by
  refine run.history_invariant (motive := fun labels mark => mark = markOf labels) rfl ?_
  rintro labels before event after _held ⟨number, time, ofNumber, ofTime, _, same⟩
  unfold markOf
  rw [List.getLast?_concat, Option.bind_some, Option.bind_some, ofNumber, ofTime]
  exact same

theorem counted_snoc (events : List NormalizedEvent) (event : NormalizedEvent) :
    Counted (events ++ [event]) ↔
      Counted events ∧ event.eventSequence = some ((events.length : Int) + 1) := by
  unfold Counted
  rw [List.map_append, List.length_append, List.length_singleton, List.range_succ, List.map_append,
    List.map_singleton, List.map_singleton]
  constructor
  · intro same
    obtain ⟨front, last⟩ := List.append_inj same (by simp)
    exact ⟨front, List.singleton_inj.mp last⟩
  · rintro ⟨front, last⟩
    rw [front, last]

theorem counted_last (counted : Counted events) :
    ((markOf events).number.map (· + 1)).getD 1 = (events.length : Int) + 1 := by
  induction events using List.reverseRecOn with
  | nil => rfl
  | append_singleton rest event _ih =>
      obtain ⟨_, last⟩ := (counted_snoc rest event).mp counted
      unfold markOf
      rw [List.getLast?_concat, Option.bind_some, last, List.length_append, List.length_singleton]
      push_cast
      rfl

theorem cycleRun_iff (present : ∀ event ∈ events, ∃ time, event.tsEpoch = some time) :
    (∃ part, Run CycleMove ⟨none, none⟩ events part) ↔
      Counted events ∧ events.IsChain (TimesRelated NotEarlier) := by
  induction events using List.reverseRecOn with
  | nil => exact iff_of_true ⟨_, .nil⟩ ⟨rfl, .nil⟩
  | append_singleton rest event ih =>
      have earlier := ih fun other member => present other (List.mem_append_left _ member)
      obtain ⟨time, ofTime⟩ := present event (List.mem_append_right _ (List.mem_singleton_self event))
      rw [counted_snoc, List.isChain_append]
      constructor
      · rintro ⟨part, run⟩
        obtain ⟨before, front, number, own, ofNumber, sameTime, allowed, _⟩ := run.snoc_inv
        obtain ⟨counted, timed⟩ := earlier.mp ⟨before, front⟩
        have mark := cycleRun_mark front
        subst mark
        refine ⟨⟨counted, ?_⟩, timed, .singleton event, ?_⟩
        · rw [ofNumber, allowed.counted, counted_last counted]
        · intro last found next here
          rw [List.head?_cons, Option.mem_def, Option.some.injEq] at here
          subst here
          intro before after ofBefore ofAfter
          rw [sameTime] at ofAfter
          rw [← Option.some.inj ofAfter]
          apply allowed.notEarlier
          unfold markOf
          rw [Option.mem_def.mp found]
          exact ofBefore
      · rintro ⟨⟨counted, ofNumber⟩, timed, _, last⟩
        obtain ⟨before, front⟩ := earlier.mpr ⟨counted, timed⟩
        have mark := cycleRun_mark front
        subst mark
        refine ⟨_, .snoc front ⟨_, time, ofNumber, ofTime, ⟨?_, ?_⟩, rfl⟩⟩
        · rw [counted_last counted]
        · intro previous ofPrevious
          unfold markOf at ofPrevious
          obtain ⟨other, found, same⟩ := Option.bind_eq_some_iff.mp ofPrevious
          exact last other found event (List.head?_cons) previous time same ofTime

/-! ### The whole list -/

theorem guard_status {ordering : PaperEventOrderingGuardResult}
    (guarded : guardPaperEventOrdering (.list rows) = .ok ordering) :
    ordering.status = .valid ↔ rows ≠ [] ∧ ordering.valid = true := by
  have kept := guard_orderedEvents guarded
  obtain ⟨⟨blockers, normalizedEvents, cycles⟩, validated, taken⟩ := bind_eq_ok.mp guarded
  dsimp only at taken
  by_cases clear : blockers = []
  · rw [if_neg (not_not.mpr clear)] at taken
    by_cases empty : normalizedEvents.isEmpty = true
    · rw [if_pos empty] at taken
      cases taken
      have none := List.forall₂_nil_right_iff.mp (kept (by simp))
      simp [none]
    · rw [if_neg empty] at taken
      cases taken
      have same := (kept (by simp)).length_eq
      apply iff_of_true rfl
      refine ⟨?_, rfl⟩
      intro none
      rw [none, List.length_nil] at same
      exact empty (List.isEmpty_iff.mpr (List.length_eq_zero_iff.mp same.symm))
  · rw [if_pos clear] at taken
    cases taken
    simp

theorem isValid_iff_accepts : IsValid rows ↔ rows ≠ [] ∧ Accepts rows := by
  constructor
  · rintro ⟨ordering, guarded, valid⟩
    have both := (guard_status guarded).mp valid
    exact ⟨both.1, ordering, guarded, both.2⟩
  · rintro ⟨nonempty, ordering, guarded, valid⟩
    exact ⟨ordering, guarded, (guard_status guarded).mpr ⟨nonempty, valid⟩⟩

theorem wellOrdered_of_isValid (valid : IsValid rows) :
    WellOrdered NotEarlier rows := by
  obtain ⟨nonempty, accepted⟩ := isValid_iff_accepts.mp valid
  obtain ⟨read, parts⟩ := accepts_iff.mp accepted
  have timePresent (cycleId : String) : ∀ event ∈ cycleEvents (rows.filterMap rowEvent) cycleId,
      ∃ time, event.tsEpoch = some time := by
    intro event member
    have inside := List.mem_of_mem_filter member
    exact (valid_event_present (valid_of_mem_events read inside)).2.2
  refine ⟨nonempty, read, ?_, ?_, ?_, ?_⟩
  · rw [nodup_iff_uses]
    intro text
    exact (useRun_iff _).mp (parts (.eventId text))
  · rw [nodup_iff_uses]
    intro text
    exact (useRun_iff _).mp (parts (.idempotencyKey text))
  · intro cycleId
    exact ((cycleRun_iff (timePresent cycleId)).mp (parts (.cycle cycleId))).1
  · intro cycleId
    exact ((cycleRun_iff (timePresent cycleId)).mp (parts (.cycle cycleId))).2

theorem WellOrdered.isValid (ordered : WellOrdered NotEarlier rows) :
    IsValid rows := by
  apply isValid_iff_accepts.mpr
  refine ⟨ordered.nonempty, accepts_iff.mpr ⟨ordered.valid, ?_⟩⟩
  intro name
  cases name with
  | eventId text =>
      apply (useRun_iff _).mpr
      exact (nodup_iff_uses _ _).mp ordered.eventIds text
  | idempotencyKey text =>
      apply (useRun_iff _).mpr
      exact (nodup_iff_uses _ _).mp ordered.idempotencyKeys text
  | cycle cycleId =>
      apply (cycleRun_iff ?_).mpr ⟨ordered.counted cycleId, ordered.timed cycleId⟩
      intro event member
      have inside := List.mem_of_mem_filter member
      exact (valid_event_present (valid_of_mem_events ordered.valid inside)).2.2

theorem IsValid.front {first second : List PyValue} (valid : IsValid (first ++ second))
    (nonempty : first ≠ []) : IsValid first := by
  obtain ⟨_, accepted⟩ := isValid_iff_accepts.mp valid
  obtain ⟨read, finish, run⟩ := accepts_iff_run.mp accepted
  obtain ⟨middle, front, _⟩ := run.split List.filterMap_append
  apply isValid_iff_accepts.mpr
  refine ⟨nonempty, accepts_iff_run.mpr ⟨?_, middle, front⟩⟩
  intro row member
  exact read row (List.mem_append_left _ member)

/-! ### Times that are not numbers -/

theorem atMost_iff {before after : PyFloat} :
    AtMost before after ↔ NotEarlier before after ∧ before ≠ .nan ∧ after ≠ .nan := by
  constructor
  · intro atMost
    refine ⟨PyFloat.not_lt_of_le atMost, ?_, ?_⟩
    · rintro rfl
      cases after <;> cases atMost
    · rintro rfl
      cases before <;> cases atMost
  · rintro ⟨notEarlier, beforeNumber, afterNumber⟩
    exact PyFloat.le_of_not_lt beforeNumber afterNumber (by rw [notEarlier]; decide)

theorem timed_atMost_iff {events : List NormalizedEvent}
    (present : ∀ event ∈ events, ∃ time, event.tsEpoch = some time) :
    events.IsChain (TimesRelated AtMost) ↔ events.IsChain (TimesRelated NotEarlier) ∧
      ¬ (2 ≤ events.length ∧ ∃ event ∈ events, event.tsEpoch = some .nan) := by
  constructor
  · intro timed
    refine ⟨timed.imp ?_, ?_⟩
    · intro earlier later related before after ofBefore ofAfter
      exact (atMost_iff.mp (related before after ofBefore ofAfter)).1
    · rintro ⟨several, event, member, missing⟩
      obtain ⟨front, back, same⟩ := List.append_of_mem member
      subst same
      -- the event has a neighbour on one side or the other
      cases back with
      | cons next rest =>
          obtain ⟨time, ofTime⟩ := present next (by simp)
          have related := (List.isChain_append_cons_cons.mp timed).2.1 _ _ missing ofTime
          exact (atMost_iff.mp related).2.1 rfl
      | nil =>
          cases front using List.reverseRecOn with
          | nil => simp at several
          | append_singleton rest previous _ih =>
              obtain ⟨time, ofTime⟩ := present previous (by simp)
              rw [List.append_assoc, List.singleton_append] at timed
              have related := (List.isChain_append_cons_cons.mp timed).2.1 _ _ ofTime missing
              exact (atMost_iff.mp related).2.2 rfl
  · rintro ⟨timed, numbers⟩
    by_cases several : 2 ≤ events.length
    · have number : ∀ event ∈ events, event.tsEpoch ≠ some .nan := by
        intro event member missing
        exact numbers ⟨several, event, member, missing⟩
      refine timed.imp_of_mem_imp ?_
      intro earlier later front back related before after ofBefore ofAfter
      refine atMost_iff.mpr ⟨related before after ofBefore ofAfter, ?_, ?_⟩
      · rintro rfl
        exact number earlier front ofBefore
      · rintro rfl
        exact number later back ofAfter
    · cases events with
      | nil => exact .nil
      | cons event rest =>
          cases rest with
          | nil => exact .singleton event
          | cons next others =>
              simp only [List.length_cons] at several
              omega

theorem wellOrdered_atMost_iff :
    WellOrdered AtMost rows ↔ WellOrdered NotEarlier rows ∧ ¬ TimeMissing rows := by
  have cycle (valid : ∀ row ∈ rows, ∃ event, RowReads row event) (cycleId : String) :=
    @timed_atMost_iff (cycleEvents (rows.filterMap rowEvent) cycleId) (by
      intro event member
      have inside := List.mem_of_mem_filter member
      exact (valid_event_present (valid_of_mem_events valid inside)).2.2)
  constructor
  · intro ordered
    refine ⟨⟨ordered.nonempty, ordered.valid, ordered.eventIds, ordered.idempotencyKeys,
      ordered.counted, ?_⟩, ?_⟩
    · intro cycleId
      exact ((cycle ordered.valid cycleId).mp (ordered.timed cycleId)).1
    · rintro ⟨cycleId, missing⟩
      exact ((cycle ordered.valid cycleId).mp (ordered.timed cycleId)).2 missing
  · rintro ⟨ordered, known⟩
    refine ⟨ordered.nonempty, ordered.valid, ordered.eventIds, ordered.idempotencyKeys,
      ordered.counted, ?_⟩
    intro cycleId
    refine (cycle ordered.valid cycleId).mpr ⟨ordered.timed cycleId, ?_⟩
    intro missing
    exact known ⟨cycleId, missing⟩

/-- The guard's lists are those whose times do not decrease, and it passes the fronts of
what it passes, unless a cycle of a list that it passes has a time that is not a number. -/
theorem grammar_iff (rows : List PyValue) :
    ((IsValid rows ↔ WellOrdered AtMost rows) ∧
      ∀ first second, first ++ second = rows → first ≠ [] → IsValid rows → IsValid first) ↔
      ¬ (WellOrdered NotEarlier rows ∧ TimeMissing rows) := by
  have valid : IsValid rows ↔ WellOrdered NotEarlier rows :=
    ⟨wellOrdered_of_isValid, WellOrdered.isValid⟩
  rw [valid, wellOrdered_atMost_iff]
  constructor
  · rintro ⟨same, _⟩ ⟨ordered, missing⟩
    exact (same.mp ordered).2 missing
  · intro known
    refine ⟨⟨?_, And.left⟩, ?_⟩
    · intro ordered
      exact ⟨ordered, fun missing => known ⟨ordered, missing⟩⟩
    · rintro first second rfl nonempty ordered
      exact (valid.mpr ordered).front nonempty

section Example

private def timedRow (number : Int) (time : PyFloat) : PyValue :=
  .dict [("event_id", .str (printInt number)), ("cycle_id", .str "cycle-1"),
    ("event_sequence", .int number), ("event_type", .str "PAPER_ORDER_INTENT_CREATED"),
    ("ts_epoch", .float time), ("idempotency_key", .str (printInt number)), ("payload", .dict []),
    ("paper_only", .bool true), ("is_order_action", .bool false),
    ("broker_api_called", .bool false), ("real_order_id", .none)]

private def backwardRows : List PyValue :=
  [timedRow 1 (.finite 5), timedRow 2 .nan, timedRow 3 (.finite 3)]

/-- A time that is not a number lets a cycle go back from five to three. -/
theorem backward_rows_valid : IsValid backwardRows ∧ ¬ WellOrdered AtMost backwardRows := by
  have valid : IsValid backwardRows := by
    obtain ⟨ordering, guarded, valid⟩ := Option.map_eq_some_iff.mp
      (show (guardPaperEventOrdering (.list backwardRows)).toOption.map
        PaperEventOrderingGuardResult.status = some .valid by decide +kernel)
    exact ⟨ordering, eq_ok_of_toOption guarded, valid⟩
  refine ⟨valid, ?_⟩
  intro ordered
  apply (wellOrdered_atMost_iff.mp ordered).2
  obtain ⟨event, read, found⟩ := Option.map_eq_some_iff.mp
    (show (rowEvent (timedRow 2 .nan)).map (fun event => (printOption event.cycleId,
      event.tsEpoch)) = some ("cycle-1", some .nan) by rfl)
  obtain ⟨ofCycle, missing⟩ := Prod.mk.inj found
  refine ⟨"cycle-1", by decide +kernel, event, ?_, missing⟩
  rw [cycleEvents, List.mem_filter]
  refine ⟨List.mem_filterMap.mpr ⟨timedRow 2 .nan, by simp [backwardRows], read⟩, ?_⟩
  exact decide_eq_true ofCycle

end Example

end Algotradify.Paper.EventOrdering
