/-
The orders of a reduced state: every order event replaces the entry of its order,
so an entry tells what the last event of its order said.
-/

import Algotradify.Paper.EventOrdering
import Algotradify.Paper.StateReducer

namespace Algotradify.Paper.StateReducer

open Py Transition Events EventOrdering

variable {event : NormalizedEvent}

/-! ### One event -/

def orderStatusOf (event : NormalizedEvent) : Option String :=
  orderEventStatus.lookup (eventTypeText event)

theorem reducedOrder_status {existing : Option ReducedOrder} {status : String}
    {order : ReducedOrder} (reduced : reducedOrder existing event status = .ok order) :
    order.status = status := by
  obtain ⟨_, _, reduced⟩ := bind_eq_ok.mp reduced
  obtain ⟨_, _, reduced⟩ := bind_eq_ok.mp reduced
  cases reduced
  rfl

inductive OrdersOutcome (orders : List (String × ReducedOrder)) (event : NormalizedEvent)
    (after : List (String × ReducedOrder)) : Prop where
  | replaced (status : String) (order : ReducedOrder) (given : orderStatusOf event = some status)
      (reduced : reducedOrder (orders.lookup (orderKey event)) event status = .ok order)
      (afterEq : after = Assoc.set orders (orderKey event) order)
  | kept (given : orderStatusOf event = none) (afterEq : after = orders)

private theorem applyPositionEvent_orders {state after : PaperReducedState}
    (applied : applyPositionEvent state event = .ok after) :
    after.orders = state.orders := by
  obtain ⟨_, _, applied⟩ := bind_eq_ok.mp applied
  cases applied
  rfl

private theorem applyAnalyticsEvent_orders (state : PaperReducedState) (event : NormalizedEvent)
    (bucket : AnalyticsBucket) : (applyAnalyticsEvent state event bucket).orders = state.orders := by
  cases bucket <;> rfl

private theorem dispatchEvent_orders {state after : PaperReducedState} {warnings : List String}
    (dispatched : dispatchEvent state event = .ok (after, warnings)) :
    OrdersOutcome state.orders event after.orders := by
  unfold dispatchEvent at dispatched
  dsimp only at dispatched
  cases given : orderEventStatus.lookup (eventTypeText event) with
  | some status =>
      rw [given] at dispatched
      obtain ⟨applied, apply, same⟩ := bind_eq_ok.mp dispatched
      cases same
      obtain ⟨order, reduced, made⟩ := bind_eq_ok.mp apply
      cases made
      exact .replaced status order given reduced rfl
  | none =>
      rw [given] at dispatched
      refine .kept given ?_
      dsimp only at dispatched
      split at dispatched
      · obtain ⟨applied, apply, same⟩ := bind_eq_ok.mp dispatched
        cases same
        exact applyPositionEvent_orders apply
      · split at dispatched
        · cases dispatched
          exact applyAnalyticsEvent_orders state event _
        · cases dispatched
          rfl

theorem reduceEvent_orders {before after : PaperReducedState × List String}
    (stepped : reduceEvent before event = .ok after) :
    OrdersOutcome before.1.orders event after.1.orders := by
  obtain ⟨⟨state, warnings⟩, dispatched, made⟩ := bind_eq_ok.mp stepped
  cases made
  have outcome := dispatchEvent_orders dispatched
  exact outcome

/-! ### A run over events -/

def statusFor (key : String) (event : NormalizedEvent) : Option String :=
  if orderKey event = key then orderStatusOf event else none

theorem OrdersOutcome.lookup {orders after : List (String × ReducedOrder)}
    {event : NormalizedEvent} (outcome : OrdersOutcome orders event after) (key : String) :
    (statusFor key event = none ∧ after.lookup key = orders.lookup key) ∨
      ∃ status order, statusFor key event = some status ∧ after.lookup key = some order ∧
        order.status = status := by
  unfold statusFor
  cases outcome with
  | replaced status order given reduced afterEq =>
      rw [afterEq]
      by_cases addressed : orderKey event = key
      · subst addressed
        rw [if_pos rfl, Assoc.lookup_set_self]
        exact .inr ⟨status, order, given, rfl, reducedOrder_status reduced⟩
      · rw [if_neg addressed, Assoc.lookup_set_of_ne _ _ (Ne.symm addressed)]
        exact .inl ⟨rfl, rfl⟩
  | kept given afterEq =>
      rw [afterEq, given, ite_self]
      exact .inl ⟨rfl, rfl⟩

abbrev EventRun := Run fun before event after => reduceEvent before event = .ok after

section EventRuns

variable {start finish : PaperReducedState × List String} {events : List NormalizedEvent}

theorem EventRun.lookup_unaddressed (run : EventRun start events finish) {key : String}
    (unaddressed : events.filterMap (statusFor key) = []) :
    finish.1.orders.lookup key = start.1.orders.lookup key := by
  revert unaddressed
  refine run.history_invariant (motive := fun events state =>
    events.filterMap (statusFor key) = [] →
      state.1.orders.lookup key = start.1.orders.lookup key) (fun _ => rfl) ?_
  intro events before event after held stepped unaddressed
  rw [List.filterMap_append, List.append_eq_nil_iff] at unaddressed
  rcases (reduceEvent_orders stepped).lookup key with ⟨_, same⟩ | ⟨status, _, given, _⟩
  · rw [same]
    exact held unaddressed.1
  · have impossible := unaddressed.2
    rw [List.filterMap_cons_some given] at impossible
    cases impossible

theorem EventRun.lookup_status (run : EventRun start events finish) (empty : start.1.orders = [])
    (key : String) : (finish.1.orders.lookup key).map ReducedOrder.status =
      (events.filterMap (statusFor key)).getLast? := by
  refine run.history_invariant (motive := fun events state =>
    (state.1.orders.lookup key).map ReducedOrder.status =
      (events.filterMap (statusFor key)).getLast?) ?_ ?_
  · rw [empty]
    rfl
  · intro events before event after held stepped
    rw [List.filterMap_append]
    rcases (reduceEvent_orders stepped).lookup key with ⟨none, same⟩ | ⟨status, order, given, found, statusEq⟩
    · rw [same, held, List.filterMap_cons_none none, List.filterMap_nil, List.append_nil]
    · rw [found, List.filterMap_cons_some given, List.filterMap_nil, List.getLast?_concat,
        Option.map_some, statusEq]

end EventRuns

/-! ### The reducer on a list of rows -/

/-- The reducer accepts the rows, reads them as these events and has this state
after applying them. -/
def Reduces (rows : List PyValue) (events : List NormalizedEvent) (state : PaperReducedState) :
    Prop :=
  ∃ scan warnings, scanEvents reducerCheck {} rows = .ok scan ∧ scan.blockers = [] ∧
    scan.normalizedEvents = events ∧ EventRun ({}, []) events (state, warnings)

section Reducer

variable {rows first second : List PyValue} {events : List NormalizedEvent}
variable {state : PaperReducedState} {result : PaperStateReducerResult}

private theorem reducerCheck_visible (index : Nat) (event : NormalizedEvent) (seen : ReducerSeen)
    (found : List String) (next : ReducerSeen)
    (checked : reducerCheck index event seen = .ok (found, next)) :
    ∀ text ∈ found, strip text ≠ "" := by
  obtain ⟨ofPosition, validated, checked⟩ := bind_eq_ok.mp checked
  cases checked
  intro text member
  simp only [List.mem_append] at member
  rcases member with (eventId | idempotencyKey) | position
  · exact visible_blockerIf (eventBlocker_visible _ _) text eventId
  · exact visible_blockerIf (eventBlocker_visible _ _) text idempotencyKey
  · unfold positionBlockers at validated
    split at validated
    · obtain ⟨missing, _, validated⟩ := bind_eq_ok.mp validated
      cases validated
      rcases List.mem_append.mp position with key | quantity
      · exact visible_blockerIf (eventBlocker_visible _ _) text key
      · exact visible_blockerIf (eventBlocker_visible _ _) text quantity
    · cases validated
      cases position

theorem reduces_of_clear {scan : EventScan ReducerSeen}
    (called : reducePaperEvents (.list rows) = .ok result)
    (scanned : scanEvents reducerCheck {} rows = .ok scan) (clear : scan.blockers = []) :
    ∃ state, Reduces rows scan.normalizedEvents state ∧
      result.state = { state with summary := buildSummary state } := by
  have validated : validatePaperStateReducerInputs (.list rows) =
      .ok ([], scan.normalizedEvents) := by
    refine bind_eq_ok.mpr ⟨scan, scanned, ?_⟩
    rw [clear, if_pos rfl]
    rfl
  obtain ⟨own, same, called⟩ := bind_eq_ok.mp called
  rw [validated] at same
  cases same
  dsimp only at called
  rw [if_neg (not_not.mpr rfl)] at called
  by_cases nothing : scan.normalizedEvents.isEmpty = true
  · rw [if_pos nothing] at called
    cases called
    have empty := List.isEmpty_iff.mp nothing
    rw [empty]
    exact ⟨{}, ⟨scan, [], scanned, clear, empty, .nil⟩, rfl⟩
  · rw [if_neg nothing] at called
    obtain ⟨⟨state, warnings⟩, folded, made⟩ := bind_eq_ok.mp called
    cases made
    exact ⟨state, ⟨scan, warnings, scanned, clear, rfl, (Run.foldlM_eq_ok_iff _ _ _ _).mp folded⟩,
      rfl⟩

theorem blocked_of_blockers {scan : EventScan ReducerSeen}
    (scanned : scanEvents reducerCheck {} rows = .ok scan) (reported : scan.blockers ≠ []) :
    reducePaperEvents (.list rows) =
      .ok { reduced := false, status := .blocked, blockers := dedupe scan.blockers } := by
  have visible := scanEvents_visible reducerCheck_visible scanned
  have validated : validatePaperStateReducerInputs (.list rows) =
      .ok (dedupe scan.blockers, []) := by
    refine bind_eq_ok.mpr ⟨scan, scanned, ?_⟩
    rw [if_neg reported]
    rfl
  refine bind_eq_ok.mpr ⟨_, validated, ?_⟩
  exact if_pos (fun empty => reported (eq_nil_of_dedupe_eq_nil visible empty))

theorem reducePaperEvents_cases (called : reducePaperEvents (.list rows) = .ok result) :
    (∃ scan, scanEvents reducerCheck {} rows = .ok scan ∧ scan.blockers ≠ []) ∨
      ∃ events state, Reduces rows events state ∧
        result.state = { state with summary := buildSummary state } := by
  obtain ⟨own, validated, _⟩ := bind_eq_ok.mp called
  obtain ⟨scan, scanned, _⟩ := bind_eq_ok.mp validated
  by_cases clear : scan.blockers = []
  · exact .inr ⟨scan.normalizedEvents, reduces_of_clear called scanned clear⟩
  · exact .inl ⟨scan, scanned, clear⟩

theorem reduces_of_unblocked (called : reducePaperEvents (.list rows) = .ok result)
    (unblocked : result.status ≠ .blocked) :
    ∃ events state, Reduces rows events state ∧
      result.state = { state with summary := buildSummary state } := by
  rcases reducePaperEvents_cases called with ⟨scan, scanned, reported⟩ | reduces
  · rw [blocked_of_blockers scanned reported] at called
    cases called
    exact absurd rfl unblocked
  · exact reduces

theorem Reduces.answer (reduces : Reduces rows events state) :
    ∃ result, reducePaperEvents (.list rows) = .ok result ∧
      result.status = (if events = [] then .empty else .reduced) ∧
      result.state = { state with summary := buildSummary state } := by
  obtain ⟨scan, warnings, scanned, clear, rfl, run⟩ := reduces
  have folded := (Run.foldlM_eq_ok_iff _ _ _ _).mpr run
  have validated : validatePaperStateReducerInputs (.list rows) =
      .ok ([], scan.normalizedEvents) := by
    refine bind_eq_ok.mpr ⟨scan, scanned, ?_⟩
    rw [clear, if_pos rfl]
    rfl
  apply exists_bind_ok validated
  dsimp only
  rw [if_neg (not_not.mpr rfl)]
  cases events : scan.normalizedEvents with
  | nil =>
      rw [events] at run
      cases run.eq_of_nil
      exact ⟨_, rfl, rfl, rfl⟩
  | cons event rest =>
      rw [events] at folded
      rw [List.isEmpty_cons, if_neg Bool.false_ne_true, if_neg (List.cons_ne_nil _ _)]
      exact exists_bind_ok folded ⟨_, rfl, rfl, rfl⟩

theorem Reduces.unblocked (reduces : Reduces rows events state) :
    ∃ result, reducePaperEvents (.list rows) = .ok result ∧ result.status ≠ .blocked ∧
      result.state = { state with summary := buildSummary state } := by
  obtain ⟨result, called, status, stateEq⟩ := reduces.answer
  refine ⟨result, called, ?_, stateEq⟩
  rw [status]
  split
  · exact fun blocked => PaperStateReducerStatus.noConfusion blocked
  · exact fun blocked => PaperStateReducerStatus.noConfusion blocked

theorem Reduces.append (reduces : Reduces (first ++ second) events state) :
    ∃ firstEvents secondEvents middle warnings finishWarnings,
      events = firstEvents ++ secondEvents ∧ Reduces first firstEvents middle ∧
      EventRun (middle, warnings) secondEvents (state, finishWarnings) := by
  obtain ⟨scan, finishWarnings, scanned, clear, rfl, run⟩ := reduces
  obtain ⟨middleScan, firstScanned, blockers, secondEvents, cut⟩ := scanEvents_append scanned
  rw [clear, List.prefix_nil] at blockers
  obtain ⟨⟨middle, warnings⟩, initial, later⟩ := run.split cut.symm
  exact ⟨middleScan.normalizedEvents, secondEvents, middle, warnings, finishWarnings, cut.symm,
    ⟨middleScan, warnings, firstScanned, blockers, rfl, initial⟩, later⟩

theorem Reduces.normalized (reduces : Reduces rows events state) :
    List.Forall₂ (fun raw event => normalizePaperEvent raw = .ok event ∧
      normalizedEventBlockers event = []) rows events := by
  obtain ⟨scan, _, scanned, clear, rfl, _⟩ := reduces
  exact scanEvents_kept scanned clear

end Reducer

/-! ### Terminal orders -/

def rowStatusFor (key : String) (row : PyValue) : Option String :=
  (normalizePaperEvent row).toOption.bind (statusFor key)

private theorem filterMap_rowStatusFor {rows : List PyValue} {events : List NormalizedEvent}
    (read : List.Forall₂ (fun raw event => normalizePaperEvent raw = .ok event ∧
      normalizedEventBlockers event = []) rows events) (key : String) :
    rows.filterMap (rowStatusFor key) = events.filterMap (statusFor key) := by
  induction read with
  | nil => rfl
  | @cons raw event _ _ head _ ih =>
      have same : rowStatusFor key raw = statusFor key event := by
        rw [rowStatusFor, head.1]
        rfl
      rw [List.filterMap_cons, List.filterMap_cons, same, ih]

theorem Reduces.lookup_status {rows : List PyValue} {events : List NormalizedEvent}
    {state : PaperReducedState} (reduces : Reduces rows events state) (key : String) :
    (state.orders.lookup key).map ReducedOrder.status =
      (rows.filterMap (rowStatusFor key)).getLast? := by
  rw [filterMap_rowStatusFor reduces.normalized]
  obtain ⟨_, _, _, _, _, run⟩ := reduces
  exact run.lookup_status rfl key

/-- The reducer accepts every prefix of a list it accepts. After a prefix an order
has the status of the last row that addresses it, so a terminal order keeps its entry
for as long as no row addresses it. -/
theorem terminal_order_stays {rows earlier later rest : List PyValue}
    {ordering : PaperEventOrderingGuardResult} {result : PaperStateReducerResult}
    (_guarded : guardPaperEventOrdering (.list rows) = .ok ordering)
    (_valid : ordering.status = .valid)
    (called : reducePaperEvents (.list rows) = .ok result) (reduced : result.status = .reduced)
    (cut : rows = (earlier ++ later) ++ rest) :
    ∃ before after, reducePaperEvents (.list earlier) = .ok before ∧ before.status ≠ .blocked ∧
      reducePaperEvents (.list (earlier ++ later)) = .ok after ∧ after.status ≠ .blocked ∧
      ∀ key, (after.state.orders.lookup key).map ReducedOrder.status =
          ((earlier ++ later).filterMap (rowStatusFor key)).getLast? ∧
        ∀ order, before.state.orders.lookup key = some order → order.terminal = true →
          later.filterMap (rowStatusFor key) = [] → after.state.orders.lookup key = some order := by
  subst cut
  have unblocked : result.status ≠ .blocked := by
    rw [reduced]
    decide
  obtain ⟨events, final, reduces, _⟩ := reduces_of_unblocked called unblocked
  obtain ⟨laterEvents, _, state, _, _, _, laterReduces, _⟩ := reduces.append
  obtain ⟨earlierEvents, addedEvents, middle, warnings, finishWarnings, rfl, earlierReduces, added⟩ :=
    laterReduces.append
  obtain ⟨before, beforeCalled, beforeAccepted, beforeState⟩ := earlierReduces.unblocked
  obtain ⟨after, afterCalled, afterAccepted, afterState⟩ := laterReduces.unblocked
  refine ⟨before, after, beforeCalled, beforeAccepted, afterCalled, afterAccepted, ?_⟩
  intro key
  rw [afterState, beforeState]
  refine ⟨laterReduces.lookup_status key, ?_⟩
  intro order found _terminal unaddressed
  have read : addedEvents.filterMap (statusFor key) = [] := by
    have whole := filterMap_rowStatusFor laterReduces.normalized key
    rw [List.filterMap_append, List.filterMap_append,
      filterMap_rowStatusFor earlierReduces.normalized, unaddressed] at whole
    exact (List.append_cancel_left whole).symm
  rw [added.lookup_unaddressed read]
  exact found

/-! ### Two cycles with one order -/

section Example

private def orderRow (cycle eventType : String) (payload : PyDict) : PyValue :=
  .dict ([("schema_version", .str "1.0"), ("event_id", .str ("event-" ++ cycle)),
    ("cycle_id", .str cycle), ("event_sequence", .int 1), ("candidate_id", .str "c1"),
    ("strategy_id", .str "orb_retest"), ("paper_order_intent_id", .str "intent-1"),
    ("paper_order_id", .str "order-1"), ("event_type", .str eventType),
    ("ts_epoch", .float (.finite 100)), ("idempotency_key", .str ("key-" ++ cycle)),
    ("payload", .dict payload)] ++ safeFlags)

private def filledRow : PyValue :=
  orderRow "cycle-1" "PAPER_ORDER_FILLED"
    [("filled_quantity", .int 10), ("remaining_quantity", .int 0)]

private def openedRow : PyValue :=
  orderRow "cycle-2" "PAPER_ORDER_OPENED"
    [("filled_quantity", .int 0), ("remaining_quantity", .int 10)]

private def markRow : PyValue := orderRow "cycle-3" "PAPER_PNL_MARKED" []

private def orderAfter (rows : List PyValue) : Option (String × Int × Option Int) :=
  (reducePaperEvents (.list rows)).toOption.bind fun result =>
    (result.state.orders.lookup "order-1").map fun order =>
      (order.status, order.filledQuantity, order.remainingQuantity)

theorem terminal_order_stays_marked : orderAfter [filledRow, markRow] = orderAfter [filledRow] := by
  obtain ⟨ordering, guarded, valid⟩ := Option.map_eq_some_iff.mp
    (show (guardPaperEventOrdering (.list [filledRow, markRow])).toOption.map
      PaperEventOrderingGuardResult.status = some .valid by decide)
  obtain ⟨result, called, reduced⟩ := Option.map_eq_some_iff.mp
    (show (reducePaperEvents (.list [filledRow, markRow])).toOption.map
      PaperStateReducerResult.status = some .reduced by decide)
  have cut : [filledRow, markRow] = ([filledRow] ++ [markRow]) ++ [] := rfl
  obtain ⟨before, after, beforeCalled, _, afterCalled, _, stays⟩ :=
    terminal_order_stays (eq_ok_of_toOption guarded) valid (eq_ok_of_toOption called) reduced cut
  have evaluated : (reducePaperEvents (.list [filledRow])).toOption.bind (fun result =>
      (result.state.orders.lookup "order-1").map ReducedOrder.terminal) = some true := by
    decide
  rw [beforeCalled] at evaluated
  obtain ⟨order, found, terminal⟩ := Option.map_eq_some_iff.mp evaluated
  have kept := (stays "order-1").2 order found terminal (by decide)
  unfold orderAfter
  rw [beforeCalled]
  change Option.bind (reducePaperEvents (.list ([filledRow] ++ [markRow]))).toOption _ = _
  rw [afterCalled]
  exact congrArg (Option.map _) (kept.trans found.symm)

/-- The event of a second cycle reopens an order that the first cycle has filled. -/
theorem terminal_order_reopened :
    (guardPaperEventOrdering (.list [filledRow, openedRow])).toOption.map
        PaperEventOrderingGuardResult.status = some .valid ∧
      (reducePaperEvents (.list [filledRow, openedRow])).toOption.map
        PaperStateReducerResult.status = some .reduced ∧
      orderAfter [filledRow] = some ("FILLED", 10, some 0) ∧
      orderAfter [filledRow, openedRow] = some ("OPEN", 0, some 10) := by
  decide

end Example

end Algotradify.Paper.StateReducer
