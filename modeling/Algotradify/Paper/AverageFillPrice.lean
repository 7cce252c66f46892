/-
The average fill price over runs of the fill simulator: what the lifecycle event, the
reduced order and the position ledger carry under that name.

All three carry the price of the last fill. It is the average of the fills exactly while
every fill has the same price.
-/

import Algotradify.Accounting.WeightedAverage
import Algotradify.Paper.FillRuns
import Algotradify.Paper.PositionLedger
import Algotradify.Paper.ReducedOrders
import Algotradify.Py.Floats

namespace Algotradify.Paper.FillSimulation

open Py Transition Lifecycle Events Accounting
open StateReducer (ReducedOrder PaperReducedState reducedOrder orderKey orderStatusOf EventRun
  reduceEvent_orders firstFloat firstInt)

variable {tsEpoch : Option PyFloat} {next : PaperOrderLifecycleEvent}

structure Fill where
  quantity : Int
  price : PyFloat

def fillOf (result : PaperFillSimulationResult) : Option Fill :=
  if 0 < result.fillQuantity then result.fillPrice.map (Fill.mk result.fillQuantity) else none

def fillsOf (results : List PaperFillSimulationResult) : List Fill :=
  results.filterMap fillOf

def cashOf (fills : List Fill) : PyFloat :=
  sumFloats (fills.map fun fill => fill.price * .ofInt fill.quantity)

def MakesCash (price : PyFloat) (filled : Int) (fills : List Fill) : Prop :=
  ∃ cash : ℚ, cashOf fills = .finite cash ∧ price * .ofInt filled = .finite cash

structure CarriesOutcome (key : String) (outcome : PaperFillSimulationResult × PyDict)
    (event : NormalizedEvent) : Prop where
  key : orderKey event = key
  ordered : orderStatusOf event ≠ none
  payload : event.payload = .dict outcome.2 ∨ event.payload = .dict outcome.1.toDict

def outcomesOf (results : List PaperFillSimulationResult) :
    List (PaperFillSimulationResult × PyDict) :=
  results.filterMap fun result => result.lifecycleEvent.map fun event => (result, event)

/-- The reducer takes the events of the outcomes, from a state where nothing is filled of
the order under the key. -/
structure ReducerRun (key : String) (results : List PaperFillSimulationResult)
    (before after : PaperReducedState × List String) : Prop where
  unfilled : ∀ order, before.1.orders.lookup key = some order →
    order.averageFillPrice = none ∧ order.filledQuantity = 0
  events : ∃ events, List.Forall₂ (CarriesOutcome key) (outcomesOf results) events ∧
    EventRun before events after

def ReducesTo (key : String) (results : List PaperFillSimulationResult) (order : ReducedOrder) :
    Prop :=
  ∃ before after, ReducerRun key results before after ∧ after.1.orders.lookup key = some order

def ledgerPrice (ledger : PyDict) (key : String) : Option PyFloat :=
  floatOrNone (((ledger.get "positions").asDict.get key).asDict.get "last_fill_price")

structure CarriesAverage (digest : String → String) (intent : PyValue) (state : SimulationState) :
    Prop where
  lifecycle : ∀ filled price,
    intOrZero (state.current.asDict.get "filled_quantity") = .ok filled → 0 < filled →
    floatOrNone (state.current.asDict.get "average_fill_price") = some price →
    MakesCash price filled (fillsOf state.results)
  reduced : ∀ key order, ReducesTo key state.results order → 0 < order.filledQuantity →
    ∃ price, order.averageFillPrice = some price ∧
      MakesCash price order.filledQuantity (fillsOf state.results)
  ledger : ∀ rounding previous tsEpoch result filled, ∀ book : PositionLedger.Book,
    PositionLedger.safeLedger previous = book.toDict →
    PositionLedger.buildPaperPositionLedger rounding digest intent state.current previous tsEpoch =
      .ok result → result.updated = true →
    intOrZero (state.current.asDict.get "filled_quantity") = .ok filled →
    ∃ price, ledgerPrice result.ledger (PositionLedger.positionKey intent.asDict) = some price ∧
      MakesCash price filled (fillsOf state.results)

def OnePrice (fills : List Fill) : Prop :=
  ∃ price : ℚ, ∀ fill ∈ fills, fill.price = .finite price

/-! ### One quote -/

section Quote

variable {digest : String → String} {intent : PyValue} {quantity : Int}
variable {event : PaperOrderLifecycleEvent} {input : QuoteInput}
variable {result : PaperFillSimulationResult}

theorem build_averageFillPrice {requested : String} {previous requestedFill price : PyValue}
    {reason : Option String} {lifecycle : PaperOrderLifecycleResult}
    (built : buildPaperOrderLifecycleEvent digest intent requested previous tsEpoch reason
      requestedFill price = .ok lifecycle) :
    ∀ next, lifecycle.event = some next → next.averageFillPrice = floatOrNone price := by
  intro next created
  unfold buildPaperOrderLifecycleEvent at built
  obtain ⟨⟨blockers, warnings⟩, _, built⟩ := bind_eq_ok.mp built
  dsimp only at built
  split at built
  · obtain ⟨own, made, built⟩ := bind_eq_ok.mp built
    cases built
    cases created
    obtain ⟨_, _, made⟩ := bind_eq_ok.mp made
    obtain ⟨_, _, made⟩ := bind_eq_ok.mp made
    obtain ⟨_, _, made⟩ := bind_eq_ok.mp made
    cases made
    rfl
  · cases built
    cases created

/-- The event of a quote carries the price of its fill, and the result the quantity
filled before with the fill. -/
structure Emitted (event : PaperOrderLifecycleEvent) (result : PaperFillSimulationResult)
    (next : PyDict) : Prop where
  price : floatOrNone (next.get "average_fill_price") = result.fillPrice
  ended : result.status = .expiredFill ∨ result.status = .rejectedFill → result.fillPrice = none
  cumulative : result.cumulativeFilledQuantity = event.filledQuantity + result.fillQuantity

theorem terminal_emitted {status : PaperFillSimulationStatus} {ended reason : String}
    {previous quote : PyDict} {remaining : Int} {warnings : List String} {evidence : PyDict}
    (built : terminalSimulationResult digest status ended intent.asDict previous quote tsEpoch reason
      event.filledQuantity remaining warnings evidence = .ok result) :
    ∀ next, result.lifecycleEvent = some next → Emitted event result next := by
  intro next moved
  obtain ⟨lifecycle, call, built⟩ := bind_eq_ok.mp built
  have carried := build_averageFillPrice call
  cases created : lifecycle.created with
  | false =>
      rw [created] at built
      cases built
      cases moved
  | true =>
      rw [created] at built
      cases built
      obtain ⟨own, found, same⟩ := Option.map_eq_some_iff.mp moved
      rw [← same]
      constructor
      · change floatOrNone (ofOptionFloat own.averageFillPrice) = none
        rw [carried own found]
        rfl
      · intro _status
        rfl
      · change event.filledQuantity = event.filledQuantity + 0
        rw [Int.add_zero]

theorem not_ended_of_fill {full : Prop} [Decidable full] :
    ¬((if full then PaperFillSimulationStatus.fullFill else .partialFill) = .expiredFill ∨
      (if full then PaperFillSimulationStatus.fullFill else .partialFill) = .rejectedFill) := by
  by_cases whole : full
  · rw [if_pos whole]
    rintro (impossible | impossible) <;> cases impossible
  · rw [if_neg whole]
    rintro (impossible | impossible) <;> cases impossible

theorem fill_emitted {previous : PyDict} {fill : Int} {price : PyFloat} {warnings : List String}
    {evidence : PyDict}
    (built : fillResult digest intent.asDict previous tsEpoch quantity event.filledQuantity fill
      price warnings evidence = .ok result) :
    ∀ next, result.lifecycleEvent = some next → Emitted event result next := by
  intro next moved
  unfold fillResult at built
  dsimp only at built
  obtain ⟨lifecycle, call, built⟩ := bind_eq_ok.mp built
  have carried := build_averageFillPrice call
  cases created : lifecycle.created with
  | false =>
      rw [created] at built
      cases built
      cases moved
  | true =>
      rw [created] at built
      cases built
      obtain ⟨own, found, same⟩ := Option.map_eq_some_iff.mp moved
      rw [← same]
      constructor
      · change floatOrNone (ofOptionFloat own.averageFillPrice) = some price
        rw [carried own found]
        rfl
      · intro status
        exact absurd status not_ended_of_fill
      · rfl

theorem simulate_emitted
    (built : simulateOn digest intent (.dict event.toDict) input = .ok result) :
    ∀ next, result.lifecycleEvent = some next → Emitted event result next := by
  unfold simulateOn simulatePaperFill at built
  obtain ⟨⟨blockers, warnings⟩, _, built⟩ := bind_eq_ok.mp built
  dsimp only at built
  by_cases blocked : blockers ≠ []
  · rw [if_pos blocked] at built
    cases built
    intro next moved
    cases moved
  rw [if_neg blocked] at built
  obtain ⟨_, _, built⟩ := bind_eq_ok.mp built
  obtain ⟨_, readFilled, built⟩ := bind_eq_ok.mp built
  have stored : intOrZero ((PyValue.dict event.toDict).asDict.get "filled_quantity") =
      .ok event.filledQuantity := rfl
  cases stored.symm.trans readFilled
  split at built
  · exact terminal_emitted built
  split at built
  · exact terminal_emitted built
  split at built
  · cases built
    intro next moved
    cases moved
  · obtain ⟨available, _, built⟩ := bind_eq_ok.mp built
    split at built
    · cases built
      intro next moved
      cases moved
    · exact fill_emitted built

end Quote

/-! ### The reducer on the event of a quote -/

theorem firstFloat_cons (value : PyValue) (rest : List PyValue) :
    firstFloat (value :: rest) = (floatOrNone value).or (firstFloat rest) := by
  unfold firstFloat
  rw [List.findSome?_cons]
  cases floatOrNone value <;> rfl

theorem reducedOrder_carried {key status : String} {event : PaperOrderLifecycleEvent}
    {result : PaperFillSimulationResult} {row : NormalizedEvent} {existing : Option ReducedOrder}
    {order : ReducedOrder} (emitted : Emitted event result next.toDict)
    (added : next.filledQuantity = event.filledQuantity + result.fillQuantity)
    (carries : CarriesOutcome key (result, next.toDict) row)
    (reduced : reducedOrder existing row status = .ok order) :
    order.averageFillPrice = result.fillPrice.or (existing.bind ReducedOrder.averageFillPrice) ∧
      order.filledQuantity = next.filledQuantity := by
  obtain ⟨filled, readFilled, reduced⟩ := bind_eq_ok.mp reduced
  obtain ⟨_, _, reduced⟩ := bind_eq_ok.mp reduced
  cases reduced
  have price : floatOrNone (ofOptionFloat next.averageFillPrice) = result.fillPrice :=
    emitted.price
  rw [floatOrNone_ofOptionFloat] at price
  rcases carries.payload with own | whole
  · rw [own, PyValue.asDict_dict] at readFilled ⊢
    have stored : firstInt (PyDict.get next.toDict "filled_quantity" ::
        [PyDict.get next.toDict "cumulative_filled_quantity",
          if status = "FILLED" then PyDict.get next.toDict "quantity" else .none,
          ofOptionInt (existing.map ReducedOrder.filledQuantity)]) =
        .ok (some next.filledQuantity) := rfl
    cases stored.symm.trans readFilled
    constructor
    · change firstFloat [ofOptionFloat next.averageFillPrice, .none,
        ofOptionFloat (existing.bind ReducedOrder.averageFillPrice)] = _
      simp only [firstFloat_cons, floatOrNone_ofOptionFloat]
      rw [price]
      cases result.fillPrice <;> cases existing.bind ReducedOrder.averageFillPrice <;> rfl
    · rfl
  · rw [whole, PyValue.asDict_dict] at readFilled ⊢
    have stored : firstInt (PyDict.get result.toDict "filled_quantity" ::
        [PyDict.get result.toDict "cumulative_filled_quantity",
          if status = "FILLED" then PyDict.get result.toDict "quantity" else .none,
          ofOptionInt (existing.map ReducedOrder.filledQuantity)]) =
        .ok (some result.cumulativeFilledQuantity) := rfl
    cases stored.symm.trans readFilled
    constructor
    · change firstFloat [.none, ofOptionFloat result.fillPrice,
        ofOptionFloat (existing.bind ReducedOrder.averageFillPrice)] = _
      simp only [firstFloat_cons, floatOrNone_ofOptionFloat]
      cases result.fillPrice <;> cases existing.bind ReducedOrder.averageFillPrice <;> rfl
    · change result.cumulativeFilledQuantity = _
      rw [emitted.cumulative, added]

theorem outcomesOf_snoc (results : List PaperFillSimulationResult)
    (result : PaperFillSimulationResult) :
    outcomesOf (results ++ [result]) =
      outcomesOf results ++ (result.lifecycleEvent.map fun event => (result, event)).toList := by
  unfold outcomesOf
  rw [List.filterMap_append]
  cases own : result.lifecycleEvent with
  | none => simp [own]
  | some event => simp [own]

theorem fillsOf_snoc (results : List PaperFillSimulationResult)
    (result : PaperFillSimulationResult) :
    fillsOf (results ++ [result]) = fillsOf results ++ (fillOf result).toList := by
  unfold fillsOf
  rw [List.filterMap_append]
  cases own : fillOf result with
  | none => simp [own]
  | some fill => simp [own]

theorem forall₂_snoc_inv {First Second : Type*} {related : First → Second → Prop}
    {init : List First} {last : First} {others : List Second}
    (pairs : List.Forall₂ related (init ++ [last]) others) :
    ∃ front other, others = front ++ [other] ∧ List.Forall₂ related init front ∧
      related last other := by
  induction init generalizing others with
  | nil =>
      cases pairs with
      | cons own rest =>
          cases rest
          exact ⟨[], _, rfl, .nil, own⟩
  | cons first rest ih =>
      cases pairs with
      | cons own tail =>
          obtain ⟨front, other, same, earlier, here⟩ := ih tail
          exact ⟨_ :: front, other, by rw [same]; rfl, .cons own earlier, here⟩

theorem ReducerRun.moved {key : String} {results : List PaperFillSimulationResult}
    {result : PaperFillSimulationResult} {next : PyDict}
    {before after : PaperReducedState × List String} (moved : result.lifecycleEvent = some next)
    (run : ReducerRun key (results ++ [result]) before after) :
    ∃ middle row order status, ReducerRun key results before middle ∧
      CarriesOutcome key (result, next) row ∧
      reducedOrder (middle.1.orders.lookup key) row status = .ok order ∧
      after.1.orders.lookup key = some order := by
  obtain ⟨events, carried, ran⟩ := run.events
  rw [outcomesOf_snoc, moved, Option.map_some, Option.toList_some] at carried
  obtain ⟨rows, row, split, earlier, own⟩ := forall₂_snoc_inv carried
  rw [split] at ran
  obtain ⟨middle, first, stepped⟩ := ran.snoc_inv
  cases reduceEvent_orders stepped with
  | replaced status order given reduced afterEq =>
      rw [own.key] at reduced afterEq
      exact ⟨middle, row, order, status, ⟨run.unfilled, rows, earlier, first⟩, own, reduced,
        by rw [afterEq, Assoc.lookup_set_self]⟩
  | kept none _ => exact absurd none own.ordered

/-! ### What is carried along a run -/

def lastPrice (fills : List Fill) : Option PyFloat :=
  fills.getLast?.map Fill.price

structure Carried (intent : PyValue) (quantity : Int) (state : SimulationState)
    (event : PaperOrderLifecycleEvent) : Prop where
  traces : Traces intent quantity state event
  total : ((fillsOf state.results).map Fill.quantity).sum = event.filledQuantity
  positive : ∀ fill ∈ fillsOf state.results, 0 < fill.quantity
  lifecycle : ∀ price, 0 < event.filledQuantity → event.averageFillPrice = some price →
    lastPrice (fillsOf state.results) = some price
  filling : event.status.IsFill →
    event.averageFillPrice = lastPrice (fillsOf state.results) ∧ event.averageFillPrice ≠ none
  reduced : ∀ key before after, ReducerRun key state.results before after →
    (after.1.orders.lookup key).bind ReducedOrder.averageFillPrice =
        lastPrice (fillsOf state.results) ∧
      ∀ order, after.1.orders.lookup key = some order →
        order.filledQuantity = event.filledQuantity

section Runs

variable {digest : String → String} {intent : PyValue} {quantity : Int}
variable {start state before after : SimulationState} {inputs : List QuoteInput}

theorem StartsOpen.carried (starts : StartsOpen digest intent start)
    (accepted : IntentAccepted intent.asDict) :
    ∃ quantity event, Carried intent quantity start event := by
  obtain ⟨quantity, event, traces⟩ := starts.traces accepted
  obtain ⟨calls, events, opened, run, last, status, current, results⟩ := starts
  have none : fillsOf start.results = [] := by rw [results]; rfl
  have empty : event.filledQuantity = 0 := by
    rw [← traces.total, results]
    rfl
  have same : (PyDict.get event.toDict "status") = PyDict.get opened.toDict "status" := by
    rw [PyValue.dict.inj (traces.current.symm.trans current)]
  refine ⟨quantity, event, traces, ?_, ?_, ?_, ?_, ?_⟩
  · rw [none, empty]
    rfl
  · rw [none]
    intro fill member
    cases member
  · intro price positive
    omega
  · intro filling
    have text : event.status.value = opened.status.value :=
      PyValue.str.inj same
    rw [status] at text
    rcases filling with partly | full
    · rw [partly] at text
      exact absurd text (by decide)
    · rw [full] at text
      exact absurd text (by decide)
  · intro key before after reducing
    obtain ⟨events, carried, ran⟩ := reducing.events
    rw [results] at carried
    cases carried
    have still := ran.eq_of_nil
    subst still
    rw [none, empty]
    constructor
    · cases found : after.1.orders.lookup key with
      | none => rfl
      | some order => exact (reducing.unfilled order found).1
    · intro order found
      exact (reducing.unfilled order found).2

theorem Traces.of_current {event : PaperOrderLifecycleEvent}
    (traces : Traces intent quantity state event) (current : state.current = .dict next.toDict) :
    Traces intent quantity state next := by
  have records := PyValue.dict.inj (traces.current.symm.trans current)
  have filled : event.filledQuantity = next.filledQuantity :=
    PyValue.int.inj (congrArg (fun record => PyDict.get record "filled_quantity") records)
  have text : event.status.value = next.status.value :=
    PyValue.str.inj (congrArg (fun record => PyDict.get record "status") records)
  have status : event.status = next.status := by
    have coerced := PaperOrderLifecycleStatus.coerceStatus_value event.status
    rw [text, PaperOrderLifecycleStatus.coerceStatus_value] at coerced
    exact (Option.some.inj coerced).symm
  have running := traces.running
  refine ⟨⟨running.positive, running.readQuantity, running.intentChecked, ?_, ?_, ?_⟩, current, ?_⟩
  · rw [← filled]
    exact running.nonneg
  · rw [← filled]
    exact running.within
  · rw [← filled, ← status]
    exact running.filled_iff
  · rw [← filled]
    exact traces.total

theorem Carried.kept {event : PaperOrderLifecycleEvent} {result : PaperFillSimulationResult}
    (carried : Carried intent quantity before event) (noEvent : result.lifecycleEvent = none)
    (noFill : result.fillQuantity = 0) (current : after.current = before.current)
    (results : after.results = before.results ++ [result]) :
    Carried intent quantity after event := by
  have none : fillOf result = none := by
    unfold fillOf
    rw [noFill]
    rfl
  have sameFills : fillsOf after.results = fillsOf before.results := by
    rw [results, fillsOf_snoc, none, Option.toList_none, List.append_nil]
  have sameOutcomes : outcomesOf after.results = outcomesOf before.results := by
    rw [results, outcomesOf_snoc, noEvent, Option.map_none, Option.toList_none, List.append_nil]
  constructor
  · refine ⟨carried.traces.running, current.trans carried.traces.current, ?_⟩
    rw [results, List.map_append, List.sum_append, carried.traces.total]
    simp [noFill]
  · rw [sameFills]
    exact carried.total
  · rw [sameFills]
    exact carried.positive
  · rw [sameFills]
    exact carried.lifecycle
  · rw [sameFills]
    exact carried.filling
  · rw [sameFills]
    intro key first last reducing
    refine carried.reduced key first last ⟨reducing.unfilled, ?_⟩
    rw [← sameOutcomes]
    exact reducing.events

theorem Carried.reduced_moved {event : PaperOrderLifecycleEvent}
    {result : PaperFillSimulationResult} (carried : Carried intent quantity before event)
    (moved : result.lifecycleEvent = some next.toDict) (emitted : Emitted event result next.toDict)
    (added : next.filledQuantity = event.filledQuantity + result.fillQuantity) {key : String}
    {first last : PaperReducedState × List String}
    (reducing : ReducerRun key (before.results ++ [result]) first last) :
    (last.1.orders.lookup key).bind ReducedOrder.averageFillPrice =
        result.fillPrice.or (lastPrice (fillsOf before.results)) ∧
      ∀ order, last.1.orders.lookup key = some order →
        order.filledQuantity = next.filledQuantity := by
  obtain ⟨middle, row, order, status, earlier, own, reduced, found⟩ := reducing.moved moved
  obtain ⟨price, filled⟩ := reducedOrder_carried emitted added own reduced
  constructor
  · rw [found, Option.bind_some, price, (carried.reduced key first middle earlier).1]
  · intro other same
    rw [found] at same
    rw [← Option.some.inj same]
    exact filled

theorem SimulationStep.carried {event : PaperOrderLifecycleEvent} {input : QuoteInput}
    (stepped : SimulationStep digest intent before input after)
    (carried : Carried intent quantity before event) :
    ∃ next, Carried intent quantity after next := by
  have running := carried.traces.running
  obtain ⟨reached, traces⟩ := stepped.traces carried.traces
  unfold SimulationStep simulationAfter at stepped
  rw [carried.traces.current] at stepped
  cases built : simulateOn digest intent (.dict event.toDict) input with
  | error raised =>
      rw [built] at stepped
      exact ⟨event, stepped ▸ carried⟩
  | ok result =>
      rw [built] at stepped
      dsimp only at stepped
      have emitted := simulate_emitted built
      cases simulate_outcome running built with
      | kept noEvent noFill _ =>
          refine ⟨event, carried.kept noEvent noFill ?_ (by rw [stepped])⟩
          rw [stepped, noEvent, carried.traces.current]
          rfl
      | ended fillable next lifecycleEvent noFill same status =>
          have emission := emitted _ lifecycleEvent
          have priceless : result.fillPrice = none := emission.ended (by
            rcases status with ⟨expired, _⟩ | ⟨rejected, _⟩
            · exact .inl expired
            · exact .inr rejected)
          have noAverage : next.averageFillPrice = none := by
            have price : floatOrNone (ofOptionFloat next.averageFillPrice) = result.fillPrice :=
              emission.price
            rw [floatOrNone_ofOptionFloat, priceless] at price
            exact price
          have none : fillOf result = none := by
            unfold fillOf
            rw [noFill]
            rfl
          have sameFills : fillsOf after.results = fillsOf before.results := by
            rw [stepped, fillsOf_snoc, none, Option.toList_none, List.append_nil]
          refine ⟨next, ?_, ?_, ?_, ?_, ?_, ?_⟩
          · apply traces.of_current
            rw [stepped, lifecycleEvent]
            rfl
          · rw [sameFills, carried.total, same]
          · rw [sameFills]
            exact carried.positive
          · intro price _positive average
            rw [noAverage] at average
            cases average
          · intro filling
            rcases status with ⟨_, ended⟩ | ⟨_, ended⟩
            · rw [ended] at filling
              exact absurd filling (by decide)
            · rw [ended] at filling
              exact absurd filling (by decide)
          · intro key first last reducing
            rw [stepped] at reducing
            have moved := carried.reduced_moved lifecycleEvent emission
              (by rw [same, noFill, Int.add_zero]) reducing
            rw [priceless, Option.none_or] at moved
            rw [sameFills]
            exact moved
      | filled fillable next price _ filledTo =>
          have emission := emitted _ filledTo.lifecycleEvent
          have average : next.averageFillPrice = some price := by
            have own : floatOrNone (ofOptionFloat next.averageFillPrice) = result.fillPrice :=
              emission.price
            rw [floatOrNone_ofOptionFloat, filledTo.fillPrice] at own
            exact own
          have one : fillOf result = some ⟨result.fillQuantity, price⟩ := by
            unfold fillOf
            rw [if_pos filledTo.positive, filledTo.fillPrice]
            rfl
          have fills : fillsOf after.results =
              fillsOf before.results ++ [⟨result.fillQuantity, price⟩] := by
            rw [stepped, fillsOf_snoc, one, Option.toList_some]
          have last : lastPrice (fillsOf after.results) = some price := by
            rw [fills, lastPrice, List.getLast?_concat, Option.map_some]
          refine ⟨next, ?_, ?_, ?_, ?_, ?_, ?_⟩
          · apply traces.of_current
            rw [stepped, filledTo.lifecycleEvent]
            rfl
          · rw [fills, List.map_append, List.sum_append, carried.total, List.map_singleton,
              List.sum_singleton, filledTo.added]
          · rw [fills]
            intro fill member
            rcases List.mem_append.mp member with earlier | here
            · exact carried.positive fill earlier
            · rw [List.mem_singleton.mp here]
              exact filledTo.positive
          · intro own _positive same
            rw [last, ← same, average]
          · intro _filling
            rw [last, average]
            exact ⟨rfl, Option.some_ne_none price⟩
          · intro key first final reducing
            rw [stepped] at reducing
            have moved := carried.reduced_moved filledTo.lifecycleEvent emission filledTo.added
              reducing
            rw [filledTo.fillPrice, Option.some_or] at moved
            rw [last]
            exact moved

end Runs

/-! ### Prices and cash -/

def entriesAt (price : ℚ) (fills : List Fill) : List (ℤ × ℚ) :=
  fills.map fun fill => (fill.quantity, price)

theorem weight_entriesAt (price : ℚ) (fills : List Fill) :
    Weighted.weight (entriesAt price fills) = (fills.map Fill.quantity).sum := by
  unfold Weighted.weight entriesAt
  rw [List.map_map]
  rfl

theorem entriesAt_same (price : ℚ) (fills : List Fill) :
    ∀ entry ∈ entriesAt price fills, entry.2 = price := by
  intro entry member
  obtain ⟨fill, _, own⟩ := List.mem_map.mp member
  rw [← own]

theorem cashOf_of_same {fills : List Fill} {price : ℚ}
    (same : ∀ fill ∈ fills, fill.price = .finite price) :
    cashOf fills = .finite (Weighted.total (entriesAt price fills)) := by
  have cash : cashOf fills = .finite (fills.map fun fill => price * (fill.quantity : ℚ)).sum :=
    sumFloats_finite fills _ _ fun fill member => by
      rw [same fill member]
      rfl
  rw [cash]
  unfold Weighted.total entriesAt
  rw [List.map_map]
  congr 2
  exact List.map_congr_left fun fill _ => mul_comm _ _

theorem OnePrice.makesCash {fills : List Fill} {price : PyFloat} (one : OnePrice fills)
    (last : lastPrice fills = some price) :
    MakesCash price (fills.map Fill.quantity).sum fills := by
  obtain ⟨value, same⟩ := one
  obtain ⟨fill, final, own⟩ := Option.map_eq_some_iff.mp last
  have finite : price = .finite value := by
    rw [← own]
    exact same fill (List.mem_of_getLast? final)
  refine ⟨_, cashOf_of_same same, ?_⟩
  rw [finite, Weighted.total_of_same (entriesAt_same value fills), weight_entriesAt, mul_comm]
  rfl

theorem OnePrice.snoc {fills : List Fill} {fill : Fill} (one : OnePrice fills)
    (positive : ∀ other ∈ fills, 0 < other.quantity)
    (cash : MakesCash fill.price ((fills ++ [fill]).map Fill.quantity).sum (fills ++ [fill])) :
    OnePrice (fills ++ [fill]) := by
  obtain ⟨amount, total, made⟩ := cash
  obtain ⟨last, finite, product⟩ := finite_of_mul_eq made
  obtain ⟨price, same⟩ := one
  by_cases first : fills = []
  · subst first
    refine ⟨last, fun other member => ?_⟩
    rw [List.mem_singleton.mp member]
    exact finite
  · have held : Weighted.weight (entriesAt price fills) ≠ 0 := by
      apply (Weighted.weight_pos _ _).ne'
      · intro entry member
        obtain ⟨other, present, own⟩ := List.mem_map.mp member
        rw [← own]
        exact positive other present
      · intro none
        exact first (List.map_eq_nil_iff.mp none)
    have sum : amount = Weighted.total (entriesAt price fills) + fill.quantity * last := by
      unfold cashOf at total
      rw [List.map_append, List.map_singleton, sumFloats_snoc] at total
      have earlier := cashOf_of_same same
      unfold cashOf at earlier
      rw [earlier, finite] at total
      rw [mul_comm]
      exact (PyFloat.finite.inj total).symm
    have equal : last = price := by
      refine @Weighted.eq_of_last_average ℚ _ _ _ (fill.quantity, last) price
        (entriesAt_same price fills) held ?_
      rw [Weighted.weight_snoc, Weighted.total_snoc, weight_entriesAt, ← sum, ← product,
        List.map_append, List.sum_append, List.map_singleton, List.sum_singleton]
    refine ⟨price, fun other member => ?_⟩
    rcases List.mem_append.mp member with earlier | here
    · exact same other earlier
    · rw [List.mem_singleton.mp here, finite, equal]

/-! ### The price that the ledger uses -/

theorem ledgerPrice_of_updated {rounding : ℚ → ℚ} {digest : String → String}
    {intent event previous : PyValue} {book : PositionLedger.Book}
    {result : PositionLedger.PaperPositionLedgerResult}
    (represents : PositionLedger.safeLedger previous = book.toDict)
    (built : PositionLedger.buildPaperPositionLedger rounding digest intent event previous tsEpoch =
      .ok result) (updated : result.updated = true) :
    upperText (event.asDict.get "status") ∈ PositionLedger.positionFillStatuses ∧
      ledgerPrice result.ledger (PositionLedger.positionKey intent.asDict) =
        floatOrNone (event.asDict.get "average_fill_price") := by
  cases PositionLedger.buildPaperPositionLedger_outcome represents built with
  | invalid _ _ _ _ _ same _ => exact absurd (same.symm.trans updated) (by decide)
  | notFill _ _ same _ => exact absurd (same.symm.trans updated) (by decide)
  | stale _ _ _ _ _ same _ => exact absurd (same.symm.trans updated) (by decide)
  | filled cumulative _ isFill _ _ _ _ ledger _ =>
      refine ⟨isFill, ?_⟩
      unfold ledgerPrice
      rw [ledger, PositionLedger.Book.toDict_get_positions, PyValue.asDict_dict]
      simp only [PyDict.get, PositionLedger.Book.positionEntries, PositionLedger.Book.record,
        Assoc.lookup_mapValues, Assoc.lookup_set_self, Option.map_some, Option.getD_some]
      exact floatOrNone_ofOptionFloat _

section Theorem

variable {digest : String → String} {intent : PyValue} {quantity : Int}
variable {start state : SimulationState} {inputs : List QuoteInput}

theorem Carried.lastPrice_of_positive {event : PaperOrderLifecycleEvent}
    (carried : Carried intent quantity state event) (positive : 0 < event.filledQuantity) :
    ∃ price, lastPrice (fillsOf state.results) = some price := by
  cases last : (fillsOf state.results).getLast? with
  | none =>
      rw [List.getLast?_eq_none_iff] at last
      have total := carried.total
      rw [last] at total
      exact absurd total positive.ne
  | some fill => exact ⟨fill.price, by rw [lastPrice, last, Option.map_some]⟩

theorem Carried.carriesAverage {event : PaperOrderLifecycleEvent}
    (carried : Carried intent quantity state event) (one : OnePrice (fillsOf state.results)) :
    CarriesAverage digest intent state := by
  have filledText : intOrZero (state.current.asDict.get "filled_quantity") =
      .ok event.filledQuantity := by
    rw [carried.traces.current]
    rfl
  have averageText : floatOrNone (state.current.asDict.get "average_fill_price") =
      event.averageFillPrice := by
    rw [carried.traces.current]
    exact floatOrNone_ofOptionFloat _
  constructor
  · intro filled price read positive average
    rw [filledText] at read
    rw [← Except.ok.inj read] at positive ⊢
    rw [averageText] at average
    rw [← carried.total]
    exact one.makesCash (carried.lifecycle price positive average)
  · rintro key order ⟨before, after, reducing, found⟩ positive
    obtain ⟨price, filled⟩ := carried.reduced key before after reducing
    have own := filled order found
    rw [own] at positive ⊢
    obtain ⟨last, lastEq⟩ := carried.lastPrice_of_positive positive
    rw [found, Option.bind_some, lastEq] at price
    refine ⟨last, price, ?_⟩
    rw [← carried.total]
    exact one.makesCash lastEq
  · intro rounding previous tsEpoch result filled book represents built updated read
    obtain ⟨isFill, used⟩ := ledgerPrice_of_updated represents built updated
    rw [filledText] at read
    have filling : event.status.IsFill := by
      rw [carried.traces.current] at isFill
      have text : upperText (.str event.status.value) ∈ PositionLedger.positionFillStatuses := isFill
      revert text
      cases event.status <;> decide
    obtain ⟨average, some⟩ := carried.filling filling
    obtain ⟨price, own⟩ := Option.ne_none_iff_exists'.mp some
    refine ⟨price, ?_, ?_⟩
    · rw [used, averageText, own]
    · rw [← Except.ok.inj read, ← carried.total]
      exact one.makesCash (by rw [← average, own])

theorem onePrice_step {before after : SimulationState} {input : QuoteInput}
    {event : PaperOrderLifecycleEvent}
    (stepped : SimulationStep digest intent before input after)
    (carried : Carried intent quantity before event)
    (reached : ∃ next, Carried intent quantity after next)
    (one : OnePrice (fillsOf before.results)) (average : CarriesAverage digest intent after) :
    OnePrice (fillsOf after.results) := by
  obtain ⟨next, own⟩ := reached
  unfold SimulationStep simulationAfter at stepped
  rw [carried.traces.current] at stepped
  cases built : simulateOn digest intent (.dict event.toDict) input with
  | error raised =>
      rw [built] at stepped
      rw [stepped]
      exact one
  | ok result =>
      rw [built] at stepped
      dsimp only at stepped
      have results : after.results = before.results ++ [result] := by rw [stepped]
      have outcome := simulate_outcome carried.traces.running built
      have unfilled : result.fillQuantity = 0 → OnePrice (fillsOf after.results) := by
        intro noFill
        have none : fillOf result = none := by
          unfold fillOf
          rw [noFill]
          rfl
        rw [results, fillsOf_snoc, none, Option.toList_none, List.append_nil]
        exact one
      cases outcome with
      | kept _ noFill _ => exact unfilled noFill
      | ended _ _ _ noFill _ _ => exact unfilled noFill
      | filled _ moved price _ filledTo =>
          have emission := simulate_emitted built _ filledTo.lifecycleEvent
          have current : after.current = .dict moved.toDict := by
            rw [stepped, filledTo.lifecycleEvent]
            rfl
          have fill : fillOf result = some ⟨result.fillQuantity, price⟩ := by
            unfold fillOf
            rw [if_pos filledTo.positive, filledTo.fillPrice]
            rfl
          have fills : fillsOf after.results =
              fillsOf before.results ++ [⟨result.fillQuantity, price⟩] := by
            rw [results, fillsOf_snoc, fill, Option.toList_some]
          have read : intOrZero (after.current.asDict.get "filled_quantity") =
              .ok next.filledQuantity := by
            rw [own.traces.current]
            rfl
          have positive : 0 < next.filledQuantity := by
            have all := own.positive
            have total := own.total
            have earlier := carried.total
            have nonneg := carried.traces.running.nonneg
            have more := filledTo.positive
            rw [fills, List.map_append, List.sum_append, List.map_singleton, List.sum_singleton,
              earlier] at total
            change event.filledQuantity + result.fillQuantity = next.filledQuantity at total
            omega
          have carries : floatOrNone (after.current.asDict.get "average_fill_price") =
              some price := by
            rw [current, ← filledTo.fillPrice]
            exact emission.price
          have cash := average.lifecycle next.filledQuantity price read positive carries
          rw [fills] at cash ⊢
          refine one.snoc carried.positive ?_
          have total := own.total
          rw [fills] at total
          rw [total]
          exact cash

theorem results_grow {labels : List QuoteInput} {middle finish : SimulationState}
    (run : Run (SimulationStep digest intent) middle labels finish) :
    ∃ later, finish.results = middle.results ++ later := by
  refine run.invariant (motive := fun state => ∃ later, state.results = middle.results ++ later)
    ⟨[], (List.append_nil _).symm⟩ ?_
  rintro before input after ⟨earlier, held⟩ stepped
  unfold SimulationStep simulationAfter at stepped
  split at stepped
  · exact ⟨earlier ++ [_], by rw [stepped, held, List.append_assoc]⟩
  · exact ⟨earlier, stepped ▸ held⟩

theorem run_eq_foldl {labels : List QuoteInput} {finish : SimulationState}
    (run : Run (SimulationStep digest intent) start labels finish) :
    finish = labels.foldl (simulationAfter digest intent) start := by
  induction run with
  | nil => rfl
  | snoc _run stepped ih =>
      rw [List.foldl_append, ← ih]
      exact stepped

/-- After every quote of a run the average fill prices that are carried make the cash of
the fills, exactly when all fills of the run have one price. -/
theorem averages_carried_iff (starts : StartsOpen digest intent start)
    (accepted : IntentAccepted intent.asDict)
    (run : Run (SimulationStep digest intent) start inputs state) :
    (∀ first second middle, inputs = first ++ second →
      Run (SimulationStep digest intent) start first middle →
      CarriesAverage digest intent middle) ↔ OnePrice (fillsOf state.results) := by
  obtain ⟨quantity, event, carried⟩ := starts.carried accepted
  have reached : ∀ {labels middle}, Run (SimulationStep digest intent) start labels middle →
      ∃ event, Carried intent quantity middle event := fun ran =>
    ran.invariant (motive := fun state => ∃ event, Carried intent quantity state event)
      ⟨event, carried⟩ (fun _ _ _ ⟨_, earlier⟩ stepped => stepped.carried earlier)
  constructor
  · intro averages
    induction run with
    | nil =>
        refine ⟨0, fun fill member => ?_⟩
        obtain ⟨calls, events, opened, _, _, _, _, results⟩ := starts
        rw [results] at member
        cases member
    | @snoc labels _ _ label ran stepped ih =>
        obtain ⟨before, here⟩ := reached ran
        refine onePrice_step stepped here (reached (.snoc ran stepped)) (ih ?_) ?_
        · intro first second middle split
          apply averages first (second ++ [label]) middle
          rw [split, List.append_assoc]
        · exact averages _ [] _ (List.append_nil _).symm (.snoc ran stepped)
  · intro one first second middle split ran
    obtain ⟨event, here⟩ := reached ran
    obtain ⟨own, initial, later⟩ := run.split split
    rw [run_eq_foldl initial, ← run_eq_foldl ran] at later
    obtain ⟨rest, grown⟩ := results_grow later
    obtain ⟨price, same⟩ := one
    refine here.carriesAverage ⟨price, fun fill member => same fill ?_⟩
    unfold fillsOf
    rw [grown, List.filterMap_append]
    exact List.mem_append_left _ member

end Theorem

/-! ### Two fills -/

def buyTen : PyValue :=
  .dict ([("intent_type", .str "PAPER_ORDER_INTENT"), ("paper_order_intent_id", .str "i1"),
    ("candidate_id", .str "c1"), ("transaction_type", .str "BUY"), ("order_type", .str "MARKET"),
    ("quantity", .int 10)] ++ safeFlags)

def offered (ask available : Int) : QuoteInput :=
  { quote := .dict [("source", .str "TEST_QUOTE"), ("is_order_action", .bool false),
      ("ask", .int ask), ("available_quantity", .int available)] }

def openedEvents : List PaperOrderLifecycleEvent :=
  [{ requestedStatus := "CREATED" }, { requestedStatus := "ACCEPTED" },
    { requestedStatus := "OPEN" }].foldl (eventsAfter id buyTen) []

def openBuy : SimulationState :=
  { current := eventValue openedEvents.getLast? }

def boughtAt (first second : Int) : SimulationState :=
  [offered first 4, offered second 6].foldl (simulationAfter id buyTen) openBuy

theorem openBuy_startsOpen : StartsOpen id buyTen openBuy :=
  ⟨_, openedEvents, _, Run.of_foldl (eventsAfter id buyTen) [] _, rfl, rfl, rfl, rfl⟩

theorem boughtAt_run (first second : Int) : Run (SimulationStep id buyTen) openBuy
    [offered first 4, offered second 6] (boughtAt first second) :=
  Run.of_foldl (simulationAfter id buyTen) openBuy _

/-- Four at 100 and six at 102 are carried as ten at 102. -/
theorem bought_at_two_prices :
    StartsOpen id buyTen openBuy ∧ IntentAccepted buyTen.asDict ∧
      Run (SimulationStep id buyTen) openBuy [offered 100 4, offered 102 6] (boughtAt 100 102) ∧
      ¬ CarriesAverage id buyTen (boughtAt 100 102) := by
  refine ⟨openBuy_startsOpen, ⟨_, rfl, by decide⟩, boughtAt_run 100 102, ?_⟩
  intro average
  have shown : intOrZero ((boughtAt 100 102).current.asDict.get "filled_quantity") = .ok 10 ∧
      floatOrNone ((boughtAt 100 102).current.asDict.get "average_fill_price") =
        some (.finite 102) := ⟨rfl, rfl⟩
  obtain ⟨cash, total, made⟩ := average.lifecycle 10 _ shown.1 (by decide) shown.2
  have spent : cashOf (fillsOf (boughtAt 100 102).results) = .finite 1012 := by decide +kernel
  rw [spent] at total
  rw [← PyFloat.finite.inj total] at made
  revert made
  decide +kernel

theorem averages_carried_iff_bought :
    CarriesAverage id buyTen (boughtAt 100 100) := by
  have bought := averages_carried_iff openBuy_startsOpen ⟨_, rfl, by decide⟩ (boughtAt_run 100 100)
  refine bought.mpr ⟨100, ?_⟩ _ [] _ (List.append_nil _).symm (boughtAt_run 100 100)
  intro fill member
  have fills : (fillsOf (boughtAt 100 100).results).map Fill.price =
      [.finite 100, .finite 100] := rfl
  have price := List.mem_map_of_mem (f := Fill.price) member
  rw [fills] at price
  simpa using price

end Algotradify.Paper.FillSimulation
