/-
The reducer on interleaved cycles: every order, every position and every count is a
part of the reduced state that its own events move, so cycles that share no order
and no position rebuild the same state in any interleaving.
-/

import Algotradify.Paper.ReducedOrders

namespace Algotradify.Paper.StateReducer

open Py Transition Events EventOrdering

variable {status : String} {events : List NormalizedEvent}

/-! ### One event -/

inductive EventKind where
  | order (status : String)
  | position
  | analytics (bucket : AnalyticsBucket)
  | ignored
deriving DecidableEq

def eventKind (event : NormalizedEvent) : EventKind :=
  match orderEventStatus.lookup (eventTypeText event) with
  | some status => .order status
  | none =>
      if positionEventTypes.contains (eventTypeText event) then .position
      else
        match analyticsEventBuckets.lookup (eventTypeText event) with
        | some bucket => .analytics bucket
        | none => .ignored

/-- The entry that a position event leaves: nothing of an earlier entry is kept. -/
def reducedPosition (event : NormalizedEvent) : Except PyError ReducedPosition := do
  let payload := event.payload.asDict
  let netQuantity ← firstInt [payload.get "net_quantity",
    if event.eventType = some "PAPER_POSITION_CLOSED" then .int 0 else .none]
  let averageEntryPrice :=
    firstFloat [payload.get "average_entry_price", payload.get "avg_entry_price"]
  pure
    { positionKey := positionKey event
      candidateId := getOr payload "candidate_id" (ofOptionString event.candidateId)
      strategyId := getOr payload "strategy_id" (ofOptionString event.strategyId)
      symbol := payload.get "symbol"
      tradingsymbol := payload.get "tradingsymbol"
      instrumentToken := payload.get "instrument_token"
      netQuantity := netQuantity
      side := side (netQuantity.getD 0)
      averageEntryPrice := if netQuantity ≠ some 0 then averageEntryPrice else none
      lastFillPrice := firstFloat [payload.get "last_fill_price", payload.get "fill_price"]
      lastEventType := event.eventType
      lastEventId := event.eventId
      lastUpdateEpoch := event.tsEpoch
      payload := payload }

inductive StateOutcome (before : PaperReducedState) (event : NormalizedEvent) :
    PaperReducedState → Prop where
  | order (status : String) (order : ReducedOrder) (kind : eventKind event = .order status)
      (reduced : reducedOrder (before.orders.lookup (orderKey event)) event status = .ok order) :
      StateOutcome before event
        { before with orders := Assoc.set before.orders (orderKey event) order }
  | position (position : ReducedPosition) (kind : eventKind event = .position)
      (reduced : reducedPosition event = .ok position) :
      StateOutcome before event
        { before with positions := Assoc.set before.positions (positionKey event) position }
  | analytics (bucket : AnalyticsBucket) (kind : eventKind event = .analytics bucket) :
      StateOutcome before event (applyAnalyticsEvent before event bucket)
  | ignored (kind : eventKind event = .ignored) : StateOutcome before event before

def PaperReducedState.applied (state : PaperReducedState) (event : NormalizedEvent) :
    PaperReducedState :=
  { state with
    appliedEventIds := state.appliedEventIds ++ [event.eventId]
    appliedIdempotencyKeys := state.appliedIdempotencyKeys ++ [event.idempotencyKey]
    lastEvent := some (eventReference event) }

section Events

variable {before after : PaperReducedState × List String} {event : NormalizedEvent}

private theorem applyPositionEvent_eq (state : PaperReducedState) (event : NormalizedEvent) :
    applyPositionEvent state event = (reducedPosition event >>= fun position =>
      pure { state with positions := Assoc.set state.positions (positionKey event) position }) := by
  unfold applyPositionEvent reducedPosition
  dsimp only
  rw [bind_assoc]
  rfl

private theorem dispatchEvent_eq (state : PaperReducedState) (event : NormalizedEvent) :
    dispatchEvent state event =
      match eventKind event with
      | .order status => applyOrderEvent state event status >>= fun after => pure (after, [])
      | .position => applyPositionEvent state event >>= fun after => pure (after, [])
      | .analytics bucket => pure (applyAnalyticsEvent state event bucket, [])
      | .ignored => pure (state, ["PAPER_REDUCER_EVENT_TYPE_IGNORED:" ++ eventTypeText event]) := by
  unfold dispatchEvent eventKind
  dsimp only
  cases orderEventStatus.lookup (eventTypeText event) with
  | some status => rfl
  | none =>
      by_cases position : positionEventTypes.contains (eventTypeText event) = true
      · simp only [if_pos position]
      · simp only [if_neg position]
        cases analyticsEventBuckets.lookup (eventTypeText event) with
        | some bucket => rfl
        | none => rfl

theorem reduceEvent_outcome (stepped : reduceEvent before event = .ok after) :
    ∃ state, StateOutcome before.1 event state ∧ after.1 = state.applied event := by
  obtain ⟨⟨state, warnings⟩, dispatched, made⟩ := bind_eq_ok.mp stepped
  cases made
  refine ⟨state, ?_, rfl⟩
  rw [dispatchEvent_eq] at dispatched
  cases kind : eventKind event with
  | order status =>
      rw [kind] at dispatched
      obtain ⟨own, applied, same⟩ := bind_eq_ok.mp dispatched
      cases same
      obtain ⟨order, reduced, made⟩ := bind_eq_ok.mp applied
      cases made
      exact .order status order kind reduced
  | position =>
      rw [kind] at dispatched
      obtain ⟨own, applied, same⟩ := bind_eq_ok.mp dispatched
      cases same
      rw [applyPositionEvent_eq] at applied
      obtain ⟨position, reduced, made⟩ := bind_eq_ok.mp applied
      cases made
      exact .position position kind reduced
  | analytics bucket =>
      rw [kind] at dispatched
      cases dispatched
      exact .analytics bucket kind
  | ignored =>
      rw [kind] at dispatched
      cases dispatched
      exact .ignored kind

theorem firstInt_snoc_total (values : List PyValue) {old : Option Int} (new : Option Int)
    {found : Option Int} (read : firstInt (values ++ [ofOptionInt old]) = .ok found) :
    ∃ other, firstInt (values ++ [ofOptionInt new]) = .ok other := by
  induction values with
  | nil =>
      cases new with
      | none => exact ⟨none, rfl⟩
      | some number => exact ⟨some number, rfl⟩
  | cons value rest ih =>
      obtain ⟨head, readHead, readRest⟩ := bind_eq_ok.mp read
      apply exists_ok_bind readHead
      cases head with
      | some number => exact ⟨some number, rfl⟩
      | none => exact ih readRest

theorem reducedOrder_total {existing other : Option ReducedOrder} {order : ReducedOrder}
    (reduced : reducedOrder existing event status = .ok order) :
    ∃ next, reducedOrder other event status = .ok next := by
  obtain ⟨filled, readFilled, reduced⟩ := bind_eq_ok.mp reduced
  obtain ⟨remaining, readRemaining, _⟩ := bind_eq_ok.mp reduced
  obtain ⟨otherFilled, again⟩ :=
    firstInt_snoc_total [_, _, _] (other.map ReducedOrder.filledQuantity) readFilled
  obtain ⟨otherRemaining, againRemaining⟩ :=
    firstInt_snoc_total [_] (other.bind ReducedOrder.remainingQuantity) readRemaining
  exact exists_ok_bind again (exists_ok_bind againRemaining ⟨_, rfl⟩)

theorem reduceEvent_total (stepped : reduceEvent before event = .ok after)
    (other : PaperReducedState × List String) : ∃ next, reduceEvent other event = .ok next := by
  obtain ⟨state, outcome, _⟩ := reduceEvent_outcome stepped
  have dispatched : ∃ next, dispatchEvent other.1 event = .ok next := by
    rw [dispatchEvent_eq]
    cases outcome with
    | order status order kind reduced =>
        rw [kind]
        obtain ⟨next, again⟩ := reducedOrder_total reduced
        obtain ⟨applied, apply⟩ : ∃ applied, applyOrderEvent other.1 event status = .ok applied :=
          exists_ok_bind again ⟨_, rfl⟩
        exact exists_ok_bind apply ⟨_, rfl⟩
    | position position kind reduced =>
        rw [kind]
        dsimp only
        rw [applyPositionEvent_eq, reduced]
        exact ⟨_, rfl⟩
    | analytics bucket kind =>
        rw [kind]
        exact ⟨_, rfl⟩
    | ignored kind =>
        rw [kind]
        exact ⟨_, rfl⟩
  obtain ⟨next, dispatched⟩ := dispatched
  exact exists_ok_bind dispatched ⟨_, rfl⟩

end Events

/-! ### The parts of the state -/

inductive StateName where
  | order (key : String)
  | position (key : Option String)
  | bucket (bucket : AnalyticsBucket)
  | applied

abbrev StatePart : StateName → Type
  | .order _ => Option ReducedOrder
  | .position _ => Option ReducedPosition
  | .bucket _ => Nat
  | .applied => Nat

def isOrderEvent (event : NormalizedEvent) : Bool :=
  (orderStatusOf event).isSome

def isPositionEvent (event : NormalizedEvent) : Bool :=
  positionEventTypes.contains (eventTypeText event)

def stateAddresses : StateName → NormalizedEvent → Bool
  | .order key, event => isOrderEvent event && decide (orderKey event = key)
  | .position key, event =>
      decide (eventKind event = .position) && decide (positionKey event = key)
  | .bucket bucket, event => decide (eventKind event = .analytics bucket)
  | .applied, _ => true

def bucketRows (state : PaperReducedState) : AnalyticsBucket → List AnalyticsRow
  | .pnlMarks => state.pnlMarks
  | .slippageMeasurements => state.slippageMeasurements
  | .performanceSnapshots => state.performanceSnapshots

def statePart : (name : StateName) → PaperReducedState × List String → StatePart name
  | .order key, state => state.1.orders.lookup key
  | .position key, state => state.1.positions.lookup key
  | .bucket bucket, state => (bucketRows state.1 bucket).length
  | .applied, state => state.1.appliedEventIds.length

def OrderMove (before : Option ReducedOrder) (event : NormalizedEvent)
    (after : Option ReducedOrder) : Prop :=
  ∃ status order, orderStatusOf event = some status ∧
    reducedOrder before event status = .ok order ∧ after = some order

def PositionMove (_before : Option ReducedPosition) (event : NormalizedEvent)
    (after : Option ReducedPosition) : Prop :=
  ∃ position, reducedPosition event = .ok position ∧ after = some position

def CountMove (before : Nat) (_event : NormalizedEvent) (after : Nat) : Prop :=
  after = before + 1

def stateMove : (name : StateName) → StatePart name → NormalizedEvent → StatePart name → Prop
  | .order _ => OrderMove
  | .position _ => PositionMove
  | .bucket _ => CountMove
  | .applied => CountMove

theorem orderStatusOf_of_kind {event : NormalizedEvent} (kind : eventKind event = .order status) :
    orderStatusOf event = some status := by
  unfold eventKind at kind
  unfold orderStatusOf
  cases given : orderEventStatus.lookup (eventTypeText event) with
  | some own =>
      rw [given] at kind
      cases kind
      rfl
  | none =>
      rw [given] at kind
      dsimp only at kind
      split at kind
      · cases kind
      · split at kind
        · cases kind
        · cases kind

theorem kind_of_orderStatusOf {event : NormalizedEvent} (given : orderStatusOf event = some status) : eventKind event = .order status := by
  unfold orderStatusOf at given
  unfold eventKind
  rw [given]

theorem isPositionEvent_of_kind {event : NormalizedEvent} (kind : eventKind event = .position) :
    isPositionEvent event = true := by
  unfold eventKind at kind
  split at kind
  · cases kind
  · split at kind
    · assumption
    · split at kind
      · cases kind
      · cases kind

private theorem not_order_of_kind {event : NormalizedEvent}
    (other : ∀ status, eventKind event ≠ .order status) : isOrderEvent event = false := by
  unfold isOrderEvent
  cases given : orderStatusOf event with
  | none => rfl
  | some status => exact absurd (kind_of_orderStatusOf given) (other status)

section Outcome

variable {before after : PaperReducedState} {event : NormalizedEvent}

theorem StateOutcome.orders (outcome : StateOutcome before event after) (key : String) :
    (isOrderEvent event && decide (orderKey event = key)) = true ∧
        OrderMove (before.orders.lookup key) event (after.orders.lookup key) ∨
      (isOrderEvent event && decide (orderKey event = key)) = false ∧
        after.orders.lookup key = before.orders.lookup key := by
  cases outcome with
  | order status order kind reduced =>
      have given := orderStatusOf_of_kind kind
      by_cases same : orderKey event = key
      · subst same
        refine .inl ⟨?_, status, order, given, reduced, Assoc.lookup_set_self _ _ _⟩
        rw [isOrderEvent, given, Option.isSome_some, decide_eq_true rfl, Bool.and_self]
      · refine .inr ⟨?_, Assoc.lookup_set_of_ne _ _ (Ne.symm same)⟩
        rw [decide_eq_false same, Bool.and_false]
  | position position kind reduced =>
      refine .inr ⟨?_, rfl⟩
      rw [not_order_of_kind (fun status same => by rw [kind] at same; cases same), Bool.false_and]
  | analytics bucket kind =>
      refine .inr ⟨?_, by cases bucket <;> rfl⟩
      rw [not_order_of_kind (fun status same => by rw [kind] at same; cases same), Bool.false_and]
  | ignored kind =>
      refine .inr ⟨?_, rfl⟩
      rw [not_order_of_kind (fun status same => by rw [kind] at same; cases same), Bool.false_and]

theorem lookup_optional_key (entries : List (Option String × ReducedPosition))
    (key : Option String) :
    entries.lookup key = @List.lookup _ _ instBEqOfDecidableEq key entries := by
  congr
  exact lawful_beq_subsingleton _ _

theorem StateOutcome.positions (outcome : StateOutcome before event after) (key : Option String) :
    (decide (eventKind event = .position) && decide (positionKey event = key)) = true ∧
        PositionMove (before.positions.lookup key) event (after.positions.lookup key) ∨
      (decide (eventKind event = .position) && decide (positionKey event = key)) = false ∧
        after.positions.lookup key = before.positions.lookup key := by
  cases outcome with
  | position position kind reduced =>
      by_cases same : positionKey event = key
      · subst same
        refine .inl ⟨?_, position, reduced, ?_⟩
        · rw [decide_eq_true kind, decide_eq_true rfl, Bool.and_self]
        · rw [lookup_optional_key]
          exact Assoc.lookup_set_self _ _ _
      · refine .inr ⟨?_, ?_⟩
        · rw [decide_eq_false same, Bool.and_false]
        · rw [lookup_optional_key, lookup_optional_key]
          exact Assoc.lookup_set_of_ne _ _ (Ne.symm same)
  | order status order kind reduced =>
      refine .inr ⟨?_, rfl⟩
      rw [kind]
      rfl
  | analytics bucket kind =>
      refine .inr ⟨?_, by cases bucket <;> rfl⟩
      rw [kind]
      rfl
  | ignored kind =>
      refine .inr ⟨?_, rfl⟩
      rw [kind]
      rfl

private theorem bucketRows_analytics (state : PaperReducedState) (event : NormalizedEvent)
    (bucket other : AnalyticsBucket) :
    (bucketRows (applyAnalyticsEvent state event bucket) other).length =
      if bucket = other then (bucketRows state other).length + 1
      else (bucketRows state other).length := by
  cases bucket <;> cases other <;>
    simp [applyAnalyticsEvent, bucketRows]

theorem StateOutcome.buckets (outcome : StateOutcome before event after) (bucket : AnalyticsBucket) :
    decide (eventKind event = .analytics bucket) = true ∧
        CountMove (bucketRows before bucket).length event (bucketRows after bucket).length ∨
      decide (eventKind event = .analytics bucket) = false ∧
        (bucketRows after bucket).length = (bucketRows before bucket).length := by
  cases outcome with
  | analytics own kind =>
      by_cases same : own = bucket
      · subst same
        refine .inl ⟨decide_eq_true kind, ?_⟩
        exact (bucketRows_analytics before event own own).trans (if_pos rfl)
      · refine .inr ⟨?_, (bucketRows_analytics before event own bucket).trans (if_neg same)⟩
        rw [kind, decide_eq_false_iff_not, EventKind.analytics.injEq]
        exact same
  | order status order kind reduced =>
      refine .inr ⟨?_, by cases bucket <;> rfl⟩
      rw [kind]
      rfl
  | position position kind reduced =>
      refine .inr ⟨?_, by cases bucket <;> rfl⟩
      rw [kind]
      rfl
  | ignored kind =>
      refine .inr ⟨?_, rfl⟩
      rw [kind]
      rfl

theorem StateOutcome.appliedEventIds (outcome : StateOutcome before event after) :
    after.appliedEventIds = before.appliedEventIds := by
  cases outcome with
  | order | position | ignored => rfl
  | analytics bucket => cases bucket <;> rfl

end Outcome

private theorem bucketRows_applied (state : PaperReducedState) (event : NormalizedEvent)
    (bucket : AnalyticsBucket) : bucketRows (state.applied event) bucket = bucketRows state bucket := by
  cases bucket <;> rfl

theorem reduceEvent_movesParts :
    MovesParts (fun before event after => reduceEvent before event = .ok after) stateAddresses
      statePart stateMove := by
  apply MovesParts.of_either
  intro before event after stepped name
  obtain ⟨state, outcome, made⟩ := reduceEvent_outcome stepped
  obtain ⟨after, warnings⟩ := after
  dsimp only at made
  subst made
  cases name with
  | order key => exact outcome.orders key
  | position key => exact outcome.positions key
  | bucket bucket =>
      have moved := outcome.buckets bucket
      rw [← bucketRows_applied state event bucket] at moved
      exact moved
  | applied =>
      refine .inl ⟨rfl, ?_⟩
      change (state.appliedEventIds ++ [event.eventId]).length = before.1.appliedEventIds.length + 1
      rw [outcome.appliedEventIds, List.length_append, List.length_singleton]

theorem stateMove_functional (name : StateName) (before : StatePart name) (event : NormalizedEvent)
    (after other : StatePart name) (first : stateMove name before event after)
    (second : stateMove name before event other) : after = other := by
  cases name with
  | order key =>
      obtain ⟨status, order, given, reduced, rfl⟩ := first
      obtain ⟨otherStatus, otherOrder, otherGiven, otherReduced, rfl⟩ := second
      rw [given] at otherGiven
      cases otherGiven
      rw [reduced] at otherReduced
      cases otherReduced
      rfl
  | position key =>
      obtain ⟨position, reduced, rfl⟩ := first
      obtain ⟨otherPosition, otherReduced, rfl⟩ := second
      rw [reduced] at otherReduced
      cases otherReduced
      rfl
  | bucket bucket => exact first.trans second.symm
  | applied => exact first.trans second.symm

/-! ### The check of the reducer -/

def PositionChecked (event : NormalizedEvent) : Prop :=
  isPositionEvent event = true →
    isBlank (positionKey event) = false ∧ netQuantityMissing event = .ok false

structure ReducerStep (before : ReducerSeen) (event : NormalizedEvent) (after : ReducerSeen) :
    Prop where
  newEventId : printOption event.eventId ∉ before.eventIds
  newIdempotencyKey : printOption event.idempotencyKey ∉ before.idempotencyKeys
  checked : PositionChecked event
  afterEq : after =
    { eventIds := before.eventIds ++ [printOption event.eventId]
      idempotencyKeys := before.idempotencyKeys ++ [printOption event.idempotencyKey] }

private theorem positionBlockers_eq_nil_iff (index : Nat) (event : NormalizedEvent) :
    positionBlockers index event = .ok [] ↔ PositionChecked event := by
  unfold positionBlockers PositionChecked isPositionEvent
  by_cases position : positionEventTypes.contains (eventTypeText event) = true
  · rw [if_pos position, imp_iff_right position]
    constructor
    · intro validated
      obtain ⟨missing, read, made⟩ := bind_eq_ok.mp validated
      have parts := List.append_eq_nil_iff.mp (Except.ok.inj made)
      rw [blockerIf_eq_nil, blockerIf_eq_nil] at parts
      rw [parts.2] at read
      exact ⟨parts.1, read⟩
    · rintro ⟨key, quantity⟩
      refine bind_eq_ok.mpr ⟨false, quantity, ?_⟩
      rw [key]
      rfl
  · rw [if_neg position]
    exact iff_of_true rfl (fun impossible => absurd impossible position)

theorem reducerCheck_clear_iff (index : Nat) (event : NormalizedEvent)
    (before after : ReducerSeen) (_valid : normalizedEventBlockers event = []) :
    reducerCheck index event before = .ok ([], after) ↔ ReducerStep before event after := by
  constructor
  · intro checked
    obtain ⟨ofPosition, validated, made⟩ := bind_eq_ok.mp checked
    have both := Prod.mk.inj (Except.ok.inj made)
    simp only [List.append_eq_nil_iff, blockerIf_eq_nil, List.contains_eq_mem,
      decide_eq_false_iff_not] at both
    obtain ⟨⟨⟨newEventId, newIdempotencyKey⟩, rfl⟩, afterEq⟩ := both
    exact ⟨newEventId, newIdempotencyKey, (positionBlockers_eq_nil_iff index event).mp validated,
      afterEq.symm⟩
  · rintro ⟨newEventId, newIdempotencyKey, checked, rfl⟩
    refine bind_eq_ok.mpr ⟨[], (positionBlockers_eq_nil_iff index event).mpr checked, ?_⟩
    unfold printOption at newEventId newIdempotencyKey
    simp only [List.contains_eq_mem, decide_eq_false newEventId, decide_eq_false newIdempotencyKey]
    rfl

theorem reducerCheck_total (index : Nat) (event : NormalizedEvent) (seen : ReducerSeen)
    (found : List String) (next : ReducerSeen) (other : Nat) (otherSeen : ReducerSeen)
    (checked : reducerCheck index event seen = .ok (found, next)) :
    ∃ result, reducerCheck other event otherSeen = .ok result := by
  obtain ⟨ofPosition, validated, _⟩ := bind_eq_ok.mp checked
  have again : ∃ blockers, positionBlockers other event = .ok blockers := by
    unfold positionBlockers at validated ⊢
    by_cases position : positionEventTypes.contains (eventTypeText event) = true
    · rw [if_pos position] at validated ⊢
      obtain ⟨missing, read, _⟩ := bind_eq_ok.mp validated
      exact exists_ok_bind read ⟨_, rfl⟩
    · rw [if_neg position]
      exact ⟨[], rfl⟩
  obtain ⟨blockers, again⟩ := again
  exact exists_ok_bind again ⟨_, rfl⟩

theorem reducerRun_of_orderingRun {finish : OrderingSeen} (run : Run OrderingStep {} events finish)
    (checked : ∀ event ∈ events, PositionChecked event) :
    Run ReducerStep {} events
      { eventIds := finish.eventIds, idempotencyKeys := finish.idempotencyKeys } := by
  revert checked
  refine run.history_invariant (motive := fun events (seen : OrderingSeen) =>
    (∀ event ∈ events, PositionChecked event) → Run ReducerStep {} events
      { eventIds := seen.eventIds, idempotencyKeys := seen.idempotencyKeys }) (fun _ => .nil) ?_
  intro events before event after held stepped checked
  have earlier := held fun event member => checked event (List.mem_append_left _ member)
  have last := checked event (List.mem_append_right _ (List.mem_singleton_self event))
  obtain ⟨newEventId, newIdempotencyKey, _, _, _, _, _, rfl⟩ := stepped
  exact .snoc earlier ⟨newEventId, newIdempotencyKey, last, rfl⟩

/-! ### One rebuild for all interleavings -/

section Agreement

variable {first second : List NormalizedEvent} {left right : PaperReducedState}
variable {leftWarnings rightWarnings : List String}

theorem StateOutcome.distinct {before after : PaperReducedState} {event : NormalizedEvent}
    (outcome : StateOutcome before event after)
    (held : Assoc.Distinct before.orders ∧ Assoc.Distinct before.positions) :
    Assoc.Distinct after.orders ∧ Assoc.Distinct after.positions := by
  cases outcome with
  | order status order kind reduced => exact ⟨held.1.set _ _, held.2⟩
  | position position kind reduced => exact ⟨held.1, held.2.set _ _⟩
  | analytics bucket kind =>
      cases bucket with
      | pnlMarks | slippageMeasurements | performanceSnapshots => exact held
  | ignored kind => exact held

theorem EventRun.distinct {finish : PaperReducedState × List String}
    (run : EventRun ({}, []) events finish) :
    Assoc.Distinct finish.1.orders ∧ Assoc.Distinct finish.1.positions := by
  have initial : Assoc.Distinct ({} : PaperReducedState).orders ∧
      Assoc.Distinct ({} : PaperReducedState).positions := ⟨List.nodup_nil, List.nodup_nil⟩
  refine run.invariant (motive := fun (state : PaperReducedState × List String) =>
    Assoc.Distinct state.1.orders ∧ Assoc.Distinct state.1.positions) initial ?_
  intro before event after held stepped
  obtain ⟨state, outcome, made⟩ := reduceEvent_outcome stepped
  rw [made]
  exact outcome.distinct held

theorem EventRun.agree (leftRun : EventRun ({}, []) first (left, leftWarnings))
    (rightRun : EventRun ({}, []) second (right, rightWarnings)) (events : first.Perm second)
    (sameOrders : ∀ key, first.filter (stateAddresses (.order key)) =
      second.filter (stateAddresses (.order key)))
    (samePositions : ∀ key, first.filter (stateAddresses (.position key)) =
      second.filter (stateAddresses (.position key))) :
    (∀ key, left.orders.lookup key = right.orders.lookup key) ∧
      (∀ key, left.positions.lookup key = right.positions.lookup key) ∧
      buildSummary left = buildSummary right := by
  have orders (key : String) : left.orders.lookup key = right.orders.lookup key :=
    reduceEvent_movesParts.part_unique (stateMove_functional (.order key)) leftRun rightRun
      (sameOrders key)
  have positions (key : Option String) : left.positions.lookup key = right.positions.lookup key :=
    reduceEvent_movesParts.part_unique (stateMove_functional (.position key)) leftRun rightRun
      (samePositions key)
  have buckets (bucket : AnalyticsBucket) :
      (bucketRows left bucket).length = (bucketRows right bucket).length :=
    reduceEvent_movesParts.part_unique_of_perm (stateMove_functional (.bucket bucket))
      (fun _ _ _ _ moved => moved) leftRun rightRun events
  have applied : left.appliedEventIds.length = right.appliedEventIds.length :=
    reduceEvent_movesParts.part_unique_of_perm (stateMove_functional .applied)
      (fun _ _ _ _ moved => moved) leftRun rightRun events
  refine ⟨orders, positions, ?_⟩
  have orderEntries := leftRun.distinct.1.perm rightRun.distinct.1 orders
  have positionEntries := leftRun.distinct.2.perm rightRun.distinct.2 (fun key => by
    rw [← lookup_optional_key, ← lookup_optional_key]
    exact positions key)
  have pnlMarks : left.pnlMarks.length = right.pnlMarks.length := buckets .pnlMarks
  have slippage : left.slippageMeasurements.length = right.slippageMeasurements.length :=
    buckets .slippageMeasurements
  have snapshots : left.performanceSnapshots.length = right.performanceSnapshots.length :=
    buckets .performanceSnapshots
  unfold buildSummary
  rw [orderEntries.length_eq, orderEntries.countP_eq, positionEntries.length_eq,
    positionEntries.countP_eq, applied, pnlMarks, slippage, snapshots]

end Agreement

def rowOrderKey (row : PyValue) : Option String :=
  (rowEvent row).bind fun event => if isOrderEvent event then some (orderKey event) else none

def rowPositionKey (row : PyValue) : Option String :=
  (rowEvent row).bind fun event => if isPositionEvent event then positionKey event else none

def OneCycle (keyOf : PyValue → Option String) (rows : List PyValue) : Prop :=
  ∀ row ∈ rows, ∀ other ∈ rows, ∀ key, keyOf row = some key → keyOf other = some key →
    rowCycle row = rowCycle other

def SameRebuild : Except PyError PaperStateReducerResult → Except PyError PaperStateReducerResult →
    Prop
  | .ok left, .ok right =>
      left.status = right.status ∧
        (∀ key, left.state.orders.lookup key = right.state.orders.lookup key) ∧
        (∀ key, left.state.positions.lookup key = right.state.positions.lookup key) ∧
        left.state.summary = right.state.summary
  | .error _, .error _ => True
  | _, _ => False

section Rebuild

variable {streams : Option String → List PyValue} {first second rows : List PyValue}
variable {result : PaperStateReducerResult}

theorem reducerClear_iff (accepted : Accepts rows) :
    (∃ scan, scanEvents reducerCheck {} rows = .ok scan ∧ scan.blockers = []) ↔
      ∀ event ∈ rows.filterMap rowEvent, PositionChecked event := by
  obtain ⟨valid, finish, ordered⟩ := accepts_iff_run.mp accepted
  constructor
  · rintro ⟨scan, scanned, clear⟩ event member
    obtain ⟨read, last, run⟩ :=
      (scanEvents_clear_iff reducerCheck_clear_iff).mp ⟨scan, scanned, clear, rfl⟩
    rw [← (forall₂_rowReads_iff.mp read).2] at member
    obtain ⟨before, after, stepped⟩ := run.exists_step_of_mem member
    exact stepped.checked
  · intro checked
    have run := reducerRun_of_orderingRun ordered checked
    obtain ⟨scan, scanned, clear, _⟩ := (scanEvents_clear_iff reducerCheck_clear_iff).mpr
      ⟨forall₂_rowReads_iff.mpr ⟨valid, rfl⟩, _, run⟩
    exact ⟨scan, scanned, clear⟩

theorem Reduces.events_eq {state : PaperReducedState} (reduces : Reduces rows events state) :
    events = rows.filterMap rowEvent :=
  (forall₂_rowReads_iff.mp reduces.normalized).2

theorem Reduces.reordered {state : PaperReducedState} (same : first.Perm second)
    (accepted : Accepts first) (acceptedOther : Accepts second)
    (reduces : Reduces first events state) :
    ∃ other, Reduces second (second.filterMap rowEvent) other := by
  have eventsEq := reduces.events_eq
  obtain ⟨scan, warnings, scanned, clear, _, run⟩ := reduces
  rw [eventsEq] at run
  have eventsPerm := same.filterMap rowEvent
  have checked := (reducerClear_iff accepted).mp ⟨scan, scanned, clear⟩
  obtain ⟨otherScan, otherScanned, otherClear⟩ := (reducerClear_iff acceptedOther).mpr
    fun event member => checked event (eventsPerm.mem_iff.mpr member)
  obtain ⟨⟨other, otherWarnings⟩, otherRun⟩ := run.transfer
    (fun label other _ _ state (like : label = other) stepped => by
      subst like
      exact reduceEvent_total stepped state)
    (fun event member => ⟨event, eventsPerm.mem_iff.mpr member, rfl⟩) ({}, [])
  have otherEvents :=
    (forall₂_rowReads_iff.mp (scanEvents_kept otherScanned otherClear)).2
  exact ⟨other, otherScan, otherWarnings, otherScanned, otherClear, otherEvents, otherRun⟩

theorem rebuild_reordered (same : first.Perm second) (accepted : Accepts first)
    (acceptedOther : Accepts second) (called : reducePaperEvents (.list first) = .ok result) :
    ∃ other, reducePaperEvents (.list second) = .ok other ∧
      (result.status = .blocked ∧ result.state = {} ∧ other.status = .blocked ∧ other.state = {} ∨
        ∃ left right, Reduces first (first.filterMap rowEvent) left ∧
          Reduces second (second.filterMap rowEvent) right) := by
  rcases reducePaperEvents_cases called with ⟨scan, scanned, reported⟩ | ⟨events, left, reduces, _⟩
  · obtain ⟨otherScan, otherScanned⟩ := scanEvents_total reducerCheck_total scanned
      fun row member => same.mem_iff.mpr member
    have otherReported : otherScan.blockers ≠ [] := by
      intro clear
      have checked := (reducerClear_iff acceptedOther).mp ⟨otherScan, otherScanned, clear⟩
      obtain ⟨own, ownScanned, ownClear⟩ := (reducerClear_iff accepted).mpr
        fun event member => checked event ((same.filterMap rowEvent).mem_iff.mp member)
      rw [scanned] at ownScanned
      cases ownScanned
      exact reported ownClear
    rw [blocked_of_blockers scanned reported] at called
    cases called
    exact ⟨_, blocked_of_blockers otherScanned otherReported, .inl ⟨rfl, rfl, rfl, rfl⟩⟩
  · obtain ⟨right, otherReduces⟩ := reduces.reordered same accepted acceptedOther
    rw [reduces.events_eq] at reduces
    obtain ⟨other, otherCalled, _⟩ := otherReduces.answer
    exact ⟨other, otherCalled, .inr ⟨left, right, reduces, otherReduces⟩⟩

private theorem keyed_filter_eq (left : Interleaves rowCycle streams first)
    (right : Interleaves rowCycle streams second)
    (keep : NormalizedEvent → Bool)
    (oneCycle : ∀ row ∈ first, ∀ other ∈ first, ∀ event otherEvent, rowEvent row = some event →
      rowEvent other = some otherEvent → keep event = true → keep otherEvent = true →
        rowCycle row = rowCycle other) :
    (first.filterMap rowEvent).filter keep = (second.filterMap rowEvent).filter keep := by
  refine (Interleaves.rowEvents left).filter_eq (Interleaves.rowEvents right) ?_
  intro event member other otherMember kept otherKept
  obtain ⟨row, rowMember, found⟩ := List.mem_filterMap.mp member
  obtain ⟨otherRow, otherRowMember, otherFound⟩ := List.mem_filterMap.mp otherMember
  have same := oneCycle row rowMember otherRow otherRowMember event other found otherFound kept
    otherKept
  unfold rowCycle at same
  rw [found, otherFound] at same
  exact same

private theorem orders_filter_eq (left : Interleaves rowCycle streams first)
    (right : Interleaves rowCycle streams second) (oneCycle : OneCycle rowOrderKey first)
    (key : String) : (first.filterMap rowEvent).filter (stateAddresses (.order key)) =
      (second.filterMap rowEvent).filter (stateAddresses (.order key)) := by
  have addressed (row : PyValue) (event : NormalizedEvent) (found : rowEvent row = some event)
      (kept : stateAddresses (.order key) event = true) : rowOrderKey row = some key := by
    obtain ⟨ofOrder, same⟩ := Bool.and_eq_true_iff.mp kept
    unfold rowOrderKey
    rw [found, Option.bind_some, if_pos ofOrder, of_decide_eq_true same]
  apply keyed_filter_eq left right
  intro row member other otherMember event otherEvent found otherFound kept otherKept
  exact oneCycle row member other otherMember key (addressed row event found kept)
    (addressed other otherEvent otherFound otherKept)

private theorem positions_filter_eq (left : Interleaves rowCycle streams first)
    (right : Interleaves rowCycle streams second) (oneCycle : OneCycle rowPositionKey first)
    (checked : ∀ event ∈ first.filterMap rowEvent, PositionChecked event) (key : Option String) :
    (first.filterMap rowEvent).filter (stateAddresses (.position key)) =
      (second.filterMap rowEvent).filter (stateAddresses (.position key)) := by
  have addressed (row : PyValue) (member : row ∈ first) (event : NormalizedEvent)
      (found : rowEvent row = some event) (kept : stateAddresses (.position key) event = true) :
      rowPositionKey row = key ∧ key ≠ none := by
    obtain ⟨ofPosition, same⟩ := Bool.and_eq_true_iff.mp kept
    have position := isPositionEvent_of_kind (of_decide_eq_true ofPosition)
    have keyed := (checked event (List.mem_filterMap.mpr ⟨row, member, found⟩) position).1
    rw [of_decide_eq_true same] at keyed
    unfold rowPositionKey
    rw [found, Option.bind_some, if_pos position, of_decide_eq_true same]
    refine ⟨rfl, ?_⟩
    rintro rfl
    exact absurd keyed (by decide)
  apply keyed_filter_eq left right
  intro row member other otherMember event otherEvent found otherFound kept otherKept
  obtain ⟨own, present⟩ := addressed row member event found kept
  obtain ⟨text, rfl⟩ := Option.ne_none_iff_exists'.mp present
  exact oneCycle row member other otherMember text own
    (addressed other otherMember otherEvent otherFound otherKept).1

/-- The guard passes all interleavings of the same cycles or none, and from those that
it passes the reducer rebuilds the same orders, positions and counts where no order
and no position is of two cycles. -/
theorem interleaved_cycles_rebuild (left : Interleaves rowCycle streams first)
    (right : Interleaves rowCycle streams second) :
    (Accepts first ↔ Accepts second) ∧
      (Accepts first → Accepts second →
        OneCycle rowOrderKey first → OneCycle rowPositionKey first →
          SameRebuild (reducePaperEvents (.list first)) (reducePaperEvents (.list second))) := by
  refine ⟨⟨Accepts.interleaved left right, Accepts.interleaved right left⟩, ?_⟩
  intro accepted acceptedOther ofOrders ofPositions
  have same := left.perm right
  cases called : reducePaperEvents (.list first) with
  | error raised =>
      cases otherCalled : reducePaperEvents (.list second) with
      | error other => trivial
      | ok other =>
          obtain ⟨result, again, _⟩ :=
            rebuild_reordered same.symm acceptedOther accepted otherCalled
          rw [called] at again
          cases again
  | ok result =>
      obtain ⟨other, otherCalled, outcome⟩ := rebuild_reordered same accepted acceptedOther called
      rw [otherCalled]
      rcases outcome with ⟨blocked, empty, otherBlocked, otherEmpty⟩ |
        ⟨leftState, rightState, leftReduces, rightReduces⟩
      · refine ⟨blocked.trans otherBlocked.symm, ?_⟩
        rw [empty, otherEmpty]
        exact ⟨fun _ => rfl, fun _ => rfl, rfl⟩
      · obtain ⟨own, ownCalled, status, stateEq⟩ := leftReduces.answer
        obtain ⟨ownOther, ownOtherCalled, otherStatus, otherStateEq⟩ := rightReduces.answer
        rw [called] at ownCalled
        cases ownCalled
        rw [otherCalled] at ownOtherCalled
        cases ownOtherCalled
        have events := same.filterMap rowEvent
        obtain ⟨leftScan, leftWarnings, leftScanned, leftClear, _, leftRun⟩ := leftReduces
        obtain ⟨_, rightWarnings, _, _, _, rightRun⟩ := rightReduces
        have checked := (reducerClear_iff accepted).mp ⟨leftScan, leftScanned, leftClear⟩
        have agreed := leftRun.agree rightRun events (orders_filter_eq left right ofOrders)
          (positions_filter_eq left right ofPositions checked)
        unfold SameRebuild
        dsimp only
        rw [status, otherStatus, stateEq, otherStateEq]
        have empty : first.filterMap rowEvent = [] ↔ second.filterMap rowEvent = [] := by
          rw [← List.length_eq_zero_iff, events.length_eq, List.length_eq_zero_iff]
        exact ⟨if_congr empty rfl rfl, agreed⟩

end Rebuild

section Example

private def cycleRow (cycle eventType : String) (number : Int) (payload : PyDict) : PyValue :=
  .dict ([("schema_version", .str "1.0"), ("event_id", .str (cycle ++ printInt number)),
    ("cycle_id", .str cycle), ("event_sequence", .int number), ("candidate_id", .str "c1"),
    ("strategy_id", .str "orb_retest"), ("paper_order_id", .str "order-1"),
    ("event_type", .str eventType), ("ts_epoch", .float (.finite 100)),
    ("idempotency_key", .str (cycle ++ printInt number)), ("payload", .dict payload)] ++ safeFlags)

private def openedOrderRow : PyValue :=
  cycleRow "cycle-1" "PAPER_ORDER_OPENED" 1 [("remaining_quantity", .int 10)]

private def filledOrderRow : PyValue :=
  cycleRow "cycle-1" "PAPER_ORDER_FILLED" 2 [("filled_quantity", .int 10)]

private def openedPositionRow : PyValue :=
  cycleRow "cycle-2" "PAPER_POSITION_OPENED" 1
    [("position_key", .str "NIFTY"), ("net_quantity", .int 10)]

private def twoStreams (cycle : Option String) : List PyValue :=
  if cycle = some "cycle-1" then [openedOrderRow, filledOrderRow]
  else if cycle = some "cycle-2" then [openedPositionRow] else []

private theorem rowCycle_rows : rowCycle openedOrderRow = some "cycle-1" ∧
    rowCycle filledOrderRow = some "cycle-1" ∧ rowCycle openedPositionRow = some "cycle-2" := by
  decide

private theorem rowKeys_rows : rowOrderKey openedOrderRow = some "order-1" ∧
    rowOrderKey filledOrderRow = some "order-1" ∧ rowOrderKey openedPositionRow = none ∧
    rowPositionKey openedOrderRow = none ∧ rowPositionKey filledOrderRow = none := by
  decide

theorem interleaved_cycles_rebuild_two :
    Accepts [openedOrderRow, openedPositionRow, filledOrderRow] ∧
      SameRebuild (reducePaperEvents (.list [openedOrderRow, openedPositionRow, filledOrderRow]))
        (reducePaperEvents (.list [openedOrderRow, filledOrderRow, openedPositionRow])) := by
  obtain ⟨opened, filled, position⟩ := rowCycle_rows
  obtain ⟨openedOrder, filledOrder, positionOrder, openedPosition, filledPosition⟩ := rowKeys_rows
  have streams (rows : List PyValue)
      (either : rows = [openedOrderRow, openedPositionRow, filledOrderRow] ∨
        rows = [openedOrderRow, filledOrderRow, openedPositionRow]) : Interleaves rowCycle twoStreams rows := by
    intro cycle
    unfold twoStreams
    rcases either with rfl | rfl
    all_goals
      simp only [List.filter_cons, List.filter_nil, opened, filled, position, decide_eq_true_eq]
      by_cases one : some "cycle-1" = cycle
      · subst one
        simp
      · by_cases two : some "cycle-2" = cycle
        · subst two
          simp
        · simp [one, two, Ne.symm one, Ne.symm two]
  have rebuilt := interleaved_cycles_rebuild (streams _ (.inl rfl)) (streams _ (.inr rfl))
  have accepted : Accepts [openedOrderRow, openedPositionRow, filledOrderRow] := by
    obtain ⟨ordering, guarded, valid⟩ := Option.map_eq_some_iff.mp
      (show (guardPaperEventOrdering (.list [openedOrderRow, openedPositionRow, filledOrderRow])).toOption.map
        PaperEventOrderingGuardResult.valid = some true by decide)
    exact ⟨ordering, eq_ok_of_toOption guarded, valid⟩
  refine ⟨accepted, rebuilt.2 accepted (rebuilt.1.mp accepted) ?_ ?_⟩
  · simp [OneCycle, opened, filled, position, openedOrder, filledOrder, positionOrder]
  · simp [OneCycle, opened, filled, position, openedPosition, filledPosition]

end Example

end Algotradify.Paper.StateReducer
