/-
Runs of the lifecycle builder for one intent, each call given the last created
event.

A fill request is compared with the order quantity but not with what was filled
before. The events of a run keep cumulative fills exactly when no accepted fill
request is below the fill before it and the order quantity is not negative.

Complete fills: what a created event tells of the order quantity.

The previous event is any value here. A partial fill is checked to be less than the order
quantity; a request for the status FILLED may name less than the order quantity as well, and
the event then closes an order that has a remaining quantity.
-/

import Algotradify.Paper.Lifecycle
import Algotradify.Transition.Run

namespace Algotradify.Paper.Lifecycle

open Py Transition PaperOrderLifecycleStatus

variable {status : PaperOrderLifecycleStatus}

structure LifecycleCall where
  requestedStatus : String
  filledQuantity : PyValue := .none
  averageFillPrice : PyValue := .none
  tsEpoch : Option PyFloat := none
  reason : Option String := none

section Runs

variable (digest : String → String) (intent : PyValue)

def callBuilder (events : List PaperOrderLifecycleEvent) (call : LifecycleCall) :
    Except PyError PaperOrderLifecycleResult :=
  buildPaperOrderLifecycleEvent digest intent call.requestedStatus (eventValue events.getLast?)
    call.tsEpoch call.reason call.filledQuantity call.averageFillPrice

def eventsAfter (events : List PaperOrderLifecycleEvent) (call : LifecycleCall) :
    List PaperOrderLifecycleEvent :=
  match callBuilder digest intent events call with
  | .ok result => events ++ result.event.toList
  | .error _ => events

def LifecycleStep (before : List PaperOrderLifecycleEvent) (call : LifecycleCall)
    (after : List PaperOrderLifecycleEvent) : Prop :=
  after = eventsAfter digest intent before call

def quantityOf : Int :=
  (intOrZero (intent.asDict.get "quantity")).toOption.getD 0

def fillRequest (call : LifecycleCall) : Option Int :=
  match coerceStatus call.requestedStatus, intOrNone call.filledQuantity with
  | some status, .ok fill => if status.IsFill then fill else none
  | _, _ => none

def isAccepted (events : List PaperOrderLifecycleEvent) (call : LifecycleCall) : Bool :=
  match coerceStatus call.requestedStatus with
  | none => false
  | some status =>
      match validatePaperOrderLifecycleTransition intent status.value
          (previousStatus (eventValue events.getLast?)) call.filledQuantity with
      | .ok ([], _) => true
      | _ => false

/-- An accepted call orders no negative quantity and asks for no less than what
its previous event has filled. -/
def KeepsFills (events : List PaperOrderLifecycleEvent) (call : LifecycleCall) : Prop :=
  isAccepted intent events call = true →
    0 ≤ quantityOf intent ∧ ∀ fill ∈ fillRequest call, filledBefore events.getLast? ≤ fill

def KeepingStep (before : List PaperOrderLifecycleEvent) (call : LifecycleCall)
    (after : List PaperOrderLifecycleEvent) : Prop :=
  LifecycleStep digest intent before call after ∧ KeepsFills intent before call

end Runs

structure Cumulative (quantity : Int) (events : List PaperOrderLifecycleEvent) : Prop where
  monotone : events.Pairwise fun earlier later => earlier.filledQuantity ≤ later.filledQuantity
  bounded : ∀ event ∈ events, 0 ≤ event.filledQuantity ∧ event.filledQuantity ≤ quantity
  remaining : ∀ event ∈ events, event.remainingQuantity = some (quantity - event.filledQuantity)
  numbered : events.map PaperOrderLifecycleEvent.eventSequence =
    (List.range events.length).map fun index : Nat => (index : Int) + 1
  final : events.Pairwise fun earlier _later => ¬earlier.status.IsTerminal

theorem Cumulative.nil (quantity : Int) : Cumulative quantity [] where
  monotone := .nil
  bounded := by intro event member; cases member
  remaining := by intro event member; cases member
  numbered := rfl
  final := .nil

section Prefix

variable {quantity : Int} {events : List PaperOrderLifecycleEvent} {event : PaperOrderLifecycleEvent}

theorem Cumulative.front (cumulative : Cumulative quantity (events ++ [event])) :
    Cumulative quantity events where
  monotone := (List.pairwise_append.mp cumulative.monotone).1
  bounded := fun other member => cumulative.bounded other (List.mem_append_left _ member)
  remaining := fun other member => cumulative.remaining other (List.mem_append_left _ member)
  numbered := by
    have numbered := cumulative.numbered
    rw [List.map_append, List.length_append, List.length_singleton, List.range_succ,
      List.map_append] at numbered
    exact (List.append_inj' numbered rfl).1
  final := (List.pairwise_append.mp cumulative.final).1

theorem Cumulative.sequenceBefore_eq (cumulative : Cumulative quantity events) :
    sequenceBefore events.getLast? = events.length := by
  have numbered := cumulative.numbered
  rcases List.eq_nil_or_concat events with rfl | ⟨front, last, rfl⟩
  · rfl
  · rw [List.concat_eq_append] at numbered ⊢
    rw [List.map_append, List.length_append, List.length_singleton, List.range_succ,
      List.map_append] at numbered
    have same := List.singleton_inj.mp (List.append_inj' numbered rfl).2
    rw [List.getLast?_append_of_ne_nil _ (List.cons_ne_nil _ _), List.length_append,
      List.length_singleton]
    change last.eventSequence = _
    rw [same]
    exact (Int.natCast_succ front.length).symm

theorem Cumulative.filledBefore_nonneg (cumulative : Cumulative quantity events) :
    0 ≤ filledBefore events.getLast? := by
  cases found : events.getLast? with
  | none => exact Int.le_refl 0
  | some last => exact (cumulative.bounded last (List.mem_of_getLast? found)).1

theorem Cumulative.le_filledBefore (cumulative : Cumulative quantity events) :
    ∀ other ∈ events, other.filledQuantity ≤ filledBefore events.getLast? := by
  have monotone := cumulative.monotone
  intro other member
  rcases List.eq_nil_or_concat events with rfl | ⟨front, last, rfl⟩
  · cases member
  · rw [List.concat_eq_append] at member monotone ⊢
    rw [List.getLast?_append_of_ne_nil _ (List.cons_ne_nil _ _)]
    change other.filledQuantity ≤ last.filledQuantity
    rcases List.mem_append.mp member with earlier | here
    · exact (List.pairwise_append.mp monotone).2.2 other earlier last List.mem_cons_self
    · rw [List.mem_singleton.mp here]

theorem Cumulative.snoc (cumulative : Cumulative quantity events)
    (keeps : filledBefore events.getLast? ≤ event.filledQuantity)
    (within : event.filledQuantity ≤ quantity)
    (remaining : event.remainingQuantity = some (quantity - event.filledQuantity))
    (sequence : event.eventSequence = sequenceBefore events.getLast? + 1)
    (running : ∀ last ∈ events.getLast?, ¬last.status.IsTerminal) :
    Cumulative quantity (events ++ [event]) where
  monotone := by
    refine List.pairwise_append.mpr ⟨cumulative.monotone, List.pairwise_singleton _ _, ?_⟩
    intro other earlier last here
    rw [List.mem_singleton.mp here]
    exact Int.le_trans (cumulative.le_filledBefore other earlier) keeps
  bounded := by
    intro other member
    rcases List.mem_append.mp member with earlier | here
    · exact cumulative.bounded other earlier
    · rw [List.mem_singleton.mp here]
      exact ⟨Int.le_trans cumulative.filledBefore_nonneg keeps, within⟩
  remaining := by
    intro other member
    rcases List.mem_append.mp member with earlier | here
    · exact cumulative.remaining other earlier
    · rw [List.mem_singleton.mp here]
      exact remaining
  numbered := by
    rw [List.map_append, List.length_append, List.length_singleton, List.range_succ,
      List.map_append, cumulative.numbered, List.map_singleton, List.map_singleton, sequence,
      cumulative.sequenceBefore_eq]
  final := by
    refine List.pairwise_append.mpr ⟨cumulative.final, List.pairwise_singleton _ _, ?_⟩
    intro other earlier _ _
    rcases List.eq_nil_or_concat events with rfl | ⟨front, last, rfl⟩
    · cases earlier
    · rw [List.concat_eq_append] at earlier running
      rw [List.getLast?_append_of_ne_nil _ (List.cons_ne_nil _ _)] at running
      rcases List.mem_append.mp earlier with before | here
      · have final := cumulative.final
        rw [List.concat_eq_append] at final
        exact (List.pairwise_append.mp final).2.2 other before last List.mem_cons_self
      · rw [List.mem_singleton.mp here]
        exact running last rfl

end Prefix

/-! ### One call -/

section Step

variable {digest : String → String} {intent : PyValue}
variable {events before after : List PaperOrderLifecycleEvent} {call : LifecycleCall}

private theorem lastStatus (events : List PaperOrderLifecycleEvent) :
    previousStatus (eventValue events.getLast?) =
      (events.getLast?.map PaperOrderLifecycleEvent.status).map value :=
  previousStatus_eventValue events.getLast?

theorem isAccepted_iff : isAccepted intent events call = true ↔
    ∃ status fill, coerceStatus call.requestedStatus = some status ∧
      intOrZero (intent.asDict.get "quantity") = .ok (quantityOf intent) ∧
      intOrNone call.filledQuantity = .ok fill ∧
      Accepts intent.asDict (events.getLast?.map PaperOrderLifecycleEvent.status) status
        (quantityOf intent) fill := by
  unfold isAccepted
  cases coerced : coerceStatus call.requestedStatus with
  | none =>
      refine iff_of_false Bool.false_ne_true ?_
      rintro ⟨status, _, impossible, _⟩
      cases impossible
  | some status =>
      dsimp only
      rw [lastStatus]
      constructor
      · intro accepted
        cases validated : validatePaperOrderLifecycleTransition intent status.value
            ((events.getLast?.map PaperOrderLifecycleEvent.status).map value)
            call.filledQuantity with
        | error raised =>
            rw [validated] at accepted
            cases accepted
        | ok result =>
            rw [validated] at accepted
            obtain ⟨blockers, warnings⟩ := result
            cases blockers with
            | cons blocker rest => cases accepted
            | nil =>
                have reads := validated
                unfold validatePaperOrderLifecycleTransition at reads
                obtain ⟨quantity, readQuantity, reads⟩ := bind_eq_ok.mp reads
                obtain ⟨fill, readFill, _⟩ := bind_eq_ok.mp reads
                have own : quantityOf intent = quantity := by
                  rw [quantityOf, readQuantity]
                  rfl
                obtain ⟨_, _, same, accepts⟩ := validate_value
                  (events.getLast?.map PaperOrderLifecycleEvent.status) status readQuantity readFill
                cases validated.symm.trans same
                rw [own]
                exact ⟨status, fill, rfl, readQuantity, readFill, accepts.mp rfl⟩
      · rintro ⟨other, fill, same, readQuantity, readFill, accepts⟩
        cases same
        obtain ⟨_, _, validated, accepted⟩ := validate_value
          (events.getLast?.map PaperOrderLifecycleEvent.status) status readQuantity readFill
        rw [validated, accepted.mpr accepts]

inductive StepOutcome (digest : String → String) (intent : PyValue) (before : List PaperOrderLifecycleEvent)
    (call : LifecycleCall) (after : List PaperOrderLifecycleEvent) : Prop where
  | kept (refused : isAccepted intent before call = false) (same : after = before)
  | created (status : PaperOrderLifecycleStatus) (fill : Option Int)
      (event : PaperOrderLifecycleEvent) (accepted : isAccepted intent before call = true)
      (same : after = before ++ [event]) (coerced : coerceStatus call.requestedStatus = some status)
      (readFill : intOrNone call.filledQuantity = .ok fill)
      (accepts : Accepts intent.asDict (before.getLast?.map PaperOrderLifecycleEvent.status) status
        (quantityOf intent) fill)
      (records : Records digest intent.asDict status before.getLast? (quantityOf intent) fill
        call.averageFillPrice event)

theorem step_outcome (stepped : LifecycleStep digest intent before call after) :
    StepOutcome digest intent before call after := by
  -- An accepted call builds its event, so a call that builds none was refused.
  have builds : isAccepted intent before call = true →
      ∃ result event, callBuilder digest intent before call = .ok result ∧
        result.created = true ∧ result.event = some event := by
    intro accepted
    obtain ⟨status, fill, coerced, readQuantity, readFill, accepts⟩ := isAccepted_iff.mp accepted
    obtain ⟨result, event, built, created, eventEq, _⟩ :=
      build_accepted digest before.getLast? call.tsEpoch call.reason call.averageFillPrice intent
        coerced readQuantity readFill accepts
    exact ⟨result, event, built, created, eventEq⟩
  unfold LifecycleStep eventsAfter at stepped
  cases built : callBuilder digest intent before call with
  | error raised =>
      rw [built] at stepped
      refine .kept (Bool.eq_false_iff.mpr fun accepted => ?_) stepped
      obtain ⟨_, _, impossible, _⟩ := builds accepted
      cases built.symm.trans impossible
  | ok result =>
      rw [built] at stepped
      cases build_outcome built with
      | blocked created event =>
          refine .kept (Bool.eq_false_iff.mpr fun accepted => ?_) ?_
          · obtain ⟨_, _, same, impossible, _⟩ := builds accepted
            cases built.symm.trans same
            rw [created] at impossible
            cases impossible
          · rw [stepped]
            change before ++ result.event.toList = before
            rw [event, Option.toList_none, List.append_nil]
      | created status quantity fill event _ eventEq coerced readQuantity readFill accepts records =>
          have own : quantityOf intent = quantity := by
            rw [quantityOf, readQuantity]
            rfl
          subst own
          refine .created status fill event ?_ ?_ coerced readFill accepts records
          · exact isAccepted_iff.mpr ⟨status, fill, coerced, readQuantity, readFill, accepts⟩
          · rw [stepped]
            change before ++ result.event.toList = before ++ [event]
            rw [eventEq, Option.toList_some]

theorem fillRequest_eq {fill : Option Int}
    (coerced : coerceStatus call.requestedStatus = some status)
    (readFill : intOrNone call.filledQuantity = .ok fill) :
    fillRequest call = if status.IsFill then fill else none := by
  unfold fillRequest
  rw [coerced, readFill]

theorem running_of_next
    (allowed : status ∈ next (events.getLast?.map PaperOrderLifecycleEvent.status)) :
    ∀ last ∈ events.getLast?, ¬last.status.IsTerminal := by
  intro last found terminal
  rw [Option.mem_def.mp found, Option.map_some, next_of_terminal terminal] at allowed
  cases allowed

theorem KeepingStep.cumulative (stepped : KeepingStep digest intent before call after)
    (cumulative : Cumulative (quantityOf intent) before) :
    Cumulative (quantityOf intent) after := by
  obtain ⟨stepped, keeps⟩ := stepped
  cases step_outcome stepped with
  | kept _ same => exact same ▸ cumulative
  | created status fill event accepted same coerced readFill accepts records =>
      obtain ⟨nonneg, notBelow⟩ := keeps accepted
      rw [fillRequest_eq coerced readFill] at notBelow
      have bounds : filledBefore before.getLast? ≤ event.filledQuantity ∧
          event.filledQuantity ≤ quantityOf intent := by
        by_cases isFill : status.IsFill
        · obtain ⟨wanted, wantedEq, positive, within, _⟩ := accepts.fill isFill
          rw [records.filled isFill wanted wantedEq positive]
          refine ⟨notBelow wanted ?_, within⟩
          rw [if_pos isFill, wantedEq]
          rfl
        · rw [records.carried isFill]
          refine ⟨Int.le_refl _, ?_⟩
          cases found : before.getLast? with
          | none => exact nonneg
          | some last => exact (cumulative.bounded last (List.mem_of_getLast? found)).2
      have filledNonneg := Int.le_trans cumulative.filledBefore_nonneg bounds.1
      rw [same]
      apply cumulative.snoc bounds.1 bounds.2
      · rw [records.remaining]
        congr 1
        split <;> omega
      · exact records.sequence
      · exact running_of_next accepts.allowed

theorem keepsFills_of_cumulative (stepped : LifecycleStep digest intent before call after)
    (cumulative : Cumulative (quantityOf intent) after) :
    Cumulative (quantityOf intent) before ∧ KeepsFills intent before call := by
  cases step_outcome stepped with
  | kept refused same =>
      refine ⟨same ▸ cumulative, fun accepted => ?_⟩
      rw [refused] at accepted
      cases accepted
  | created status fill event _ same coerced readFill accepts records =>
      rw [same] at cumulative
      have bounded := cumulative.bounded event (List.mem_append_right _ List.mem_cons_self)
      refine ⟨cumulative.front, fun _ => ⟨Int.le_trans bounded.1 bounded.2, ?_⟩⟩
      intro wanted member
      rw [fillRequest_eq coerced readFill] at member
      by_cases isFill : status.IsFill
      · rw [if_pos isFill] at member
        obtain ⟨own, ownEq, positive, _⟩ := accepts.fill isFill
        cases ownEq.symm.trans member
        rw [← records.filled isFill wanted ownEq positive]
        cases found : before.getLast? with
        | none => exact bounded.1
        | some last =>
            exact (List.pairwise_append.mp cumulative.monotone).2.2 last
              (List.mem_of_getLast? found) event List.mem_cons_self
      · rw [if_neg isFill] at member
        cases member

end Step

/-! ### Runs -/

section Run

variable {digest : String → String} {intent : PyValue} {calls : List LifecycleCall}
variable {events : List PaperOrderLifecycleEvent}

theorem keepingRun_cumulative (run : Run (KeepingStep digest intent) [] calls events) :
    Cumulative (quantityOf intent) events :=
  run.invariant (Cumulative.nil _) (fun _ _ _ cumulative stepped => stepped.cumulative cumulative)

theorem keepingRun_of_cumulative (run : Run (LifecycleStep digest intent) [] calls events)
    (cumulative : Cumulative (quantityOf intent) events) :
    Run (KeepingStep digest intent) [] calls events := by
  induction run with
  | nil => exact .nil
  | snoc _run stepped ih =>
      obtain ⟨earlier, keeps⟩ := keepsFills_of_cumulative stepped cumulative
      exact .snoc (ih earlier) ⟨stepped, keeps⟩

/-- The created events keep cumulative fills exactly in the runs in which every
accepted call keeps them; a call that creates nothing leaves the events alone. -/
theorem lifecycle_cumulative_iff (run : Run (LifecycleStep digest intent) [] calls events) :
    (Cumulative (quantityOf intent) events ↔ Run (KeepingStep digest intent) [] calls events) ∧
      ∀ call result, callBuilder digest intent events call = .ok result → result.created = false →
        result.event = none ∧ eventsAfter digest intent events call = events := by
  constructor
  · exact ⟨keepingRun_of_cumulative run, keepingRun_cumulative⟩
  · intro call result built created
    cases build_outcome built with
    | blocked _ event =>
        refine ⟨event, ?_⟩
        unfold eventsAfter
        rw [built]
        change events ++ result.event.toList = events
        rw [event, Option.toList_none, List.append_nil]
    | created _ _ _ _ isCreated =>
        rw [created] at isCreated
        cases isCreated

end Run

section Example

private def orderOfTen : PyValue :=
  .dict ([("paper_order_intent_id", .str "i1"), ("candidate_id", .str "c1"),
    ("quantity", .int 10)] ++ safeFlags)

private def openCalls : List LifecycleCall :=
  ["CREATED", "ACCEPTED", "OPEN"].map fun status => { requestedStatus := status }

private def partialCall (filled : Int) : LifecycleCall :=
  { requestedStatus := "PARTIALLY_FILLED", filledQuantity := .int filled }

private def eventsOf (calls : List LifecycleCall) : List PaperOrderLifecycleEvent :=
  calls.foldl (eventsAfter id orderOfTen) []

private theorem eventsOf_run (calls : List LifecycleCall) :
    Run (LifecycleStep id orderOfTen) [] calls (eventsOf calls) :=
  Run.of_foldl (eventsAfter id orderOfTen) [] calls

/-- A second partial fill may report less than the first one. -/
theorem lifecycle_fill_decreases : ∃ calls events,
    Run (LifecycleStep id orderOfTen) [] calls events ∧
      ¬Cumulative (quantityOf orderOfTen) events := by
  refine ⟨openCalls ++ [partialCall 7, partialCall 5], _, eventsOf_run _, ?_⟩
  intro cumulative
  exact absurd cumulative.monotone (by decide)

theorem lifecycle_cumulative_iff_partialFills :
    Run (KeepingStep id orderOfTen) [] (openCalls ++ [partialCall 5, partialCall 7])
      (eventsOf (openCalls ++ [partialCall 5, partialCall 7])) := by
  apply (lifecycle_cumulative_iff (eventsOf_run _)).1.mp
  exact ⟨by decide, by decide, by decide, by decide,
    by decide⟩

end Example

/-! ### The fill of a created event -/

structure TakesFill (intent : PyValue) (requestedStatus : String) (requestedFill : PyValue)
    (event : PaperOrderLifecycleEvent) : Prop where
  coerced : coerceStatus requestedStatus = some event.status
  remaining : event.remainingQuantity = some (if quantityOf intent ≠ 0 then
    max (quantityOf intent - event.filledQuantity) 0 else 0)
  fill : event.status.IsFill → intOrNone requestedFill = .ok (some event.filledQuantity) ∧
    0 < event.filledQuantity ∧ event.filledQuantity ≤ quantityOf intent ∧
      (event.status = .partiallyFilled → event.filledQuantity < quantityOf intent)

theorem filledQuantity_requested {previousEvent requestedFill : PyValue}
    {quantity wanted filled : Int} (isFill : status.IsFill)
    (readFill : intOrNone requestedFill = .ok (some wanted)) (positive : 0 < wanted)
    (ran : filledQuantity status previousEvent requestedFill quantity = .ok filled) :
    filled = wanted := by
  have requested : intOrZero requestedFill = .ok wanted := by
    rw [intOrZero, readFill]
    rfl
  unfold filledQuantity at ran
  obtain ⟨previousFill, _, ran⟩ := bind_eq_ok.mp ran
  rcases isFill with rfl | rfl
  · rw [requested] at ran
    exact (Except.ok.inj ran).symm
  · rw [requested] at ran
    have nonzero : wanted ≠ 0 := by omega
    have same := Except.ok.inj ran
    rw [if_pos nonzero] at same
    exact same.symm

section Created

variable {digest : String → String} {intent previousEvent requestedFill averageFillPrice : PyValue}
variable {requestedStatus : String} {tsEpoch : Option PyFloat} {reason : Option String}
variable {result : PaperOrderLifecycleResult} {event : PaperOrderLifecycleEvent}

theorem fill_of_validated {previous : Option String} {quantity : Int} {fill : Option Int}
    {warnings : List String}
    (validated : validatePaperOrderLifecycleTransition intent status.value previous requestedFill =
      .ok ([], warnings)) (readQuantity : intOrZero (intent.asDict.get "quantity") = .ok quantity)
    (readFill : intOrNone requestedFill = .ok fill) :
    status.IsFill → ∃ wanted, fill = some wanted ∧ 0 < wanted ∧ wanted ≤ quantity ∧
      (status = .partiallyFilled → wanted < quantity) := by
  unfold validatePaperOrderLifecycleTransition at validated
  rw [readQuantity, readFill] at validated
  have clear := congrArg Prod.fst (Except.ok.inj validated)
  rw [upper_value, dedupe_append_eq_nil] at clear
  exact (fillBlockers_value status quantity fill).mp clear.2

theorem takesFill_of_created (built : buildPaperOrderLifecycleEvent digest intent requestedStatus
      previousEvent tsEpoch reason requestedFill averageFillPrice = .ok result)
    (made : result.event = some event) : TakesFill intent requestedStatus requestedFill event := by
  unfold buildPaperOrderLifecycleEvent at built
  obtain ⟨⟨blockers, warnings⟩, validated, built⟩ := bind_eq_ok.mp built
  cases coerced : coerceStatus requestedStatus with
  | none =>
      rw [coerced] at built
      cases blockers <;> (cases built; cases made)
  | some status =>
      rw [coerced] at built validated
      cases blockers with
      | cons blocker rest =>
          cases built
          cases made
      | nil =>
          obtain ⟨own, created, built⟩ := bind_eq_ok.mp built
          cases built
          cases made
          have reads := validated
          unfold validatePaperOrderLifecycleTransition at reads
          obtain ⟨quantity, readQuantity, reads⟩ := bind_eq_ok.mp reads
          obtain ⟨fill, readFill, _⟩ := bind_eq_ok.mp reads
          have ordered : quantityOf intent = quantity := by
            rw [quantityOf, readQuantity]
            rfl
          have wants := fill_of_validated validated readQuantity readFill
          unfold newEvent at created
          obtain ⟨again, readAgain, created⟩ := bind_eq_ok.mp created
          cases readQuantity.symm.trans readAgain
          obtain ⟨filled, ranFilled, created⟩ := bind_eq_ok.mp created
          obtain ⟨sequence, _, created⟩ := bind_eq_ok.mp created
          rw [← Except.ok.inj created]
          refine ⟨coerced, ?_, ?_⟩
          · rw [ordered]
          · intro isFill
            obtain ⟨wanted, named, positive, within, less⟩ := wants isFill
            rw [named] at readFill
            rw [filledQuantity_requested isFill readFill positive ranFilled, ordered]
            exact ⟨readFill, positive, within, less⟩

/-! ### When FILLED means completely filled -/

def FillAgrees (intent : PyValue) (event : PaperOrderLifecycleEvent) : Prop :=
  (event.status = .filled →
    event.filledQuantity = quantityOf intent ∧ event.remainingQuantity = some 0) ∧
  (event.status = .partiallyFilled →
    0 < event.filledQuantity ∧ event.filledQuantity < quantityOf intent)

/-- The event of a call agrees with the order quantity exactly when the call, if it asks for
FILLED, names the whole quantity. -/
theorem filled_completely_iff (built : buildPaperOrderLifecycleEvent digest intent requestedStatus
      previousEvent tsEpoch reason requestedFill averageFillPrice = .ok result)
    (made : result.event = some event) :
    FillAgrees intent event ↔ (coerceStatus requestedStatus = some .filled →
      intOrNone requestedFill = .ok (some (quantityOf intent))) := by
  have takes := takesFill_of_created built made
  constructor
  · rintro ⟨whole, _⟩ asked
    have filled : event.status = .filled := Option.some.inj (takes.coerced.symm.trans asked)
    rw [← (whole filled).1]
    exact (takes.fill (Or.inr filled)).1
  · intro names
    constructor
    · intro filled
      have asked : coerceStatus requestedStatus = some .filled := by rw [takes.coerced, filled]
      have same := (takes.fill (Or.inr filled)).1.symm.trans (names asked)
      have whole : event.filledQuantity = quantityOf intent := by simpa using same
      refine ⟨whole, ?_⟩
      rw [takes.remaining, whole]
      simp
    · intro partly
      obtain ⟨_, positive, _, less⟩ := takes.fill (Or.inl partly)
      exact ⟨positive, less partly⟩

end Created

section Example

private def openedOfTen : PyValue :=
  .dict [("status", .str "OPEN"), ("event_sequence", .int 3)]

private def intentOfTen : PyValue :=
  .dict ([("paper_order_intent_id", .str "i1"), ("candidate_id", .str "c1"),
    ("quantity", .int 10)] ++ safeFlags)

private def askedFilled (quantity : Int) : Option PaperOrderLifecycleEvent :=
  (buildPaperOrderLifecycleEvent id intentOfTen "FILLED" openedOfTen none none (.int quantity)
    .none).toOption.bind PaperOrderLifecycleResult.event

private theorem exists_askedFilled (quantity : Int) (asked : (askedFilled quantity).isSome = true) :
    ∃ result event, buildPaperOrderLifecycleEvent id intentOfTen "FILLED" openedOfTen none none
      (.int quantity) .none = .ok result ∧ result.event = some event := by
  obtain ⟨event, made⟩ := Option.isSome_iff_exists.mp asked
  obtain ⟨result, built, made⟩ := Option.bind_eq_some_iff.mp made
  exact ⟨result, event, eq_ok_of_toOption built, made⟩

theorem filled_completely_iff_whole :
    ∃ event, FillAgrees intentOfTen event ∧ event.status = .filled := by
  obtain ⟨result, event, built, made⟩ := exists_askedFilled 10 (by decide)
  refine ⟨event, (filled_completely_iff built made).mpr (fun _ => rfl), ?_⟩
  have coerced := (takesFill_of_created built made).coerced
  exact (Option.some.inj coerced).symm

/-- An order for ten is FILLED with four of them, and six remain. -/
theorem filled_with_remainder :
    ¬∀ (digest : String → String) (intent previousEvent requestedFill averageFillPrice : PyValue)
      (requestedStatus : String) (tsEpoch : Option PyFloat) (reason : Option String)
      (result : PaperOrderLifecycleResult) (event : PaperOrderLifecycleEvent),
      buildPaperOrderLifecycleEvent digest intent requestedStatus previousEvent tsEpoch reason
        requestedFill averageFillPrice = .ok result →
      result.event = some event → FillAgrees intent event := by
  intro complete
  obtain ⟨result, event, built, made⟩ := exists_askedFilled 4 (by decide)
  have takes := takesFill_of_created built made
  have filled : event.status = .filled := (Option.some.inj takes.coerced).symm
  obtain ⟨whole, _⟩ := (complete _ _ _ _ _ _ _ _ _ _ built made).1 filled
  have four := (takes.fill (Or.inr filled)).1
  rw [whole] at four
  exact absurd (Option.some.inj (Except.ok.inj four)) (by decide)

end Example

end Algotradify.Paper.Lifecycle
