/-
Runs of the fill simulator from the open event of an order, each simulated event
fed back as the current one.

The simulator and the lifecycle agree on every fill: what the simulator computes
is an admissible next event, so quantities add up to the filled quantity.
-/

import Algotradify.Paper.FillSimulation
import Algotradify.Paper.LifecycleRuns

namespace Algotradify.Paper.FillSimulation

open Py Transition Lifecycle PaperOrderLifecycleStatus

/-! ### What the checks say about a lifecycle event -/

private theorem upperText_value (status : PaperOrderLifecycleStatus) :
    upperText (.str status.value) = status.value := by
  cases status <;> decide

private theorem openEventBlockers_toDict (event : PaperOrderLifecycleEvent) :
    dedupe (openEventBlockers event.toDict) = [] ↔
      event.status = .opened ∨ event.status = .partiallyFilled := by
  have stored : PyDict.get event.toDict "status" = .str event.status.value := rfl
  have typed : (PyDict.get event.toDict "event_type").isStr "PAPER_ORDER_LIFECYCLE_EVENT" = true :=
    rfl
  have filled : event.toDict.isEmpty = false := rfl
  have flags : validateSafeFlags event.toDict "PAPER_ORDER_LIFECYCLE" = [] :=
    validateSafeFlags_eq_nil event.toDict _ rfl rfl rfl rfl
  unfold openEventBlockers
  rw [filled, if_neg Bool.false_ne_true, stored, upperText_value, typed, flags]
  cases event.status <;> decide

def IntentAccepted (intent : PyDict) : Prop :=
  ∃ blockers, fillIntentBlockers intent = .ok blockers ∧ dedupe blockers = []

theorem IntentAccepted.quantity {intent : PyDict} (accepted : IntentAccepted intent) :
    ∃ quantity, intOrZero (intent.get "quantity") = .ok quantity ∧ 0 < quantity := by
  obtain ⟨blockers, checked, empty⟩ := accepted
  unfold fillIntentBlockers at checked
  split at checked
  · cases checked
    exact absurd empty (by decide)
  · obtain ⟨quantity, read, checked⟩ := bind_eq_ok.mp checked
    cases checked
    rw [dedupe_append_eq_nil, dedupe_blockerIf_eq_nil _ (by decide), decide_eq_false_iff_not,
      not_le] at empty
    exact ⟨quantity, read, empty.2⟩

/-! ### One quote -/

structure Running (intent : PyDict) (quantity : Int) (event : PaperOrderLifecycleEvent) : Prop where
  positive : 0 < quantity
  readQuantity : intOrZero (intent.get "quantity") = .ok quantity
  intentChecked : dedupe (lifecycleIntentBlockers intent) = []
  nonneg : 0 ≤ event.filledQuantity
  within : event.filledQuantity ≤ quantity
  filled_iff : event.status = .filled ↔ event.filledQuantity = quantity

structure QuoteInput where
  quote : PyValue
  tsEpoch : Option PyFloat := none
  nowEpoch : Option PyFloat := none
  maxQuoteAgeSec : PyFloat := .finite 5

def simulateOn (digest : String → String) (intent current : PyValue) (input : QuoteInput) :
    Except PyError PaperFillSimulationResult :=
  simulatePaperFill digest intent current input.quote input.tsEpoch input.nowEpoch
    input.maxQuoteAgeSec

/-- The simulator has computed a fill at `price` with `available` quantity: the
input is valid, neither expired nor rejected, priced and liquid. -/
structure FillComputed (intent : PyDict) (quantity : Int) (event : PaperOrderLifecycleEvent)
    (input : QuoteInput) (available : Int) (price : PyFloat) : Prop where
  validated : ∃ warnings, validatePaperFillSimulationInputs intent event.toDict input.quote.asDict
    input.nowEpoch input.maxQuoteAgeSec = .ok ([], warnings)
  live : isExpired intent input.quote.asDict input.nowEpoch = false
  unrejected : isRejected input.quote.asDict = false
  priced : resolvedFillPrice intent input.quote.asDict = some price
  readAvailable : availableQuantity input.quote.asDict (max (quantity - event.filledQuantity) 0) =
    .ok available
  liquid : 0 < available

/-- A fill: the order moves on to `next`, which is full exactly at its quantity. -/
structure FilledTo (quantity : Int) (event next : PaperOrderLifecycleEvent) (price : PyFloat)
    (result : PaperFillSimulationResult) : Prop where
  simulated : result.simulated = true
  lifecycleEvent : result.lifecycleEvent = some next.toDict
  positive : 0 < result.fillQuantity
  added : next.filledQuantity = event.filledQuantity + result.fillQuantity
  within : next.filledQuantity ≤ quantity
  nextStatus : next.status = if next.filledQuantity = quantity then .filled else .partiallyFilled
  status : result.status = if next.filledQuantity = quantity then .fullFill else .partialFill
  fillPrice : result.fillPrice = some price

inductive SimulationOutcome (intent : PyDict) (quantity : Int) (event : PaperOrderLifecycleEvent)
    (input : QuoteInput) (result : PaperFillSimulationResult) : Prop where
  | kept (noEvent : result.lifecycleEvent = none) (noFill : result.fillQuantity = 0)
      (status : result.status = .blocked ∨ result.status = .noFill)
  | ended (fillable : event.status = .opened ∨ event.status = .partiallyFilled)
      (next : PaperOrderLifecycleEvent) (lifecycleEvent : result.lifecycleEvent = some next.toDict)
      (noFill : result.fillQuantity = 0) (carried : next.filledQuantity = event.filledQuantity)
      (status : result.status = .expiredFill ∧ next.status = .expired ∨
        result.status = .rejectedFill ∧ next.status = .rejected)
  | filled (fillable : event.status = .opened ∨ event.status = .partiallyFilled)
      (next : PaperOrderLifecycleEvent) (price : PyFloat)
      (resolved : resolvedFillPrice intent input.quote.asDict = some price)
      (filledTo : FilledTo quantity event next price result)

section Outcome

variable {digest : String → String} {intent : PyValue} {quantity : Int}
variable {event : PaperOrderLifecycleEvent} {input : QuoteInput}
variable {result : PaperFillSimulationResult}

theorem fillResult_filledTo {intent : PyDict} (running : Running intent quantity event)
    (fillable : event.status = .opened ∨ event.status = .partiallyFilled) {available : Int}
    (liquid : 0 < available) (digest : String → String) (tsEpoch : Option PyFloat)
    (price : PyFloat) (warnings : List String) (evidence : PyDict) :
    ∃ result next, fillResult digest intent event.toDict tsEpoch quantity
        event.filledQuantity (min available (max (quantity - event.filledQuantity) 0)) price warnings
        evidence = .ok result ∧ FilledTo quantity event next price result := by
  have unfilled : event.filledQuantity ≠ quantity := by
    intro full
    have status := running.filled_iff.mpr full
    rcases fillable with opened | partly
    · rw [opened] at status
      cases status
    · rw [partly] at status
      cases status
  have within := running.within
  have nonneg := running.nonneg
  generalize fillEq : min available (max (quantity - event.filledQuantity) 0) = fill
  have positive : 0 < fill := by omega
  have bounded : event.filledQuantity + fill ≤ quantity := by omega
  have remaining : max (quantity - (event.filledQuantity + fill)) 0 = 0 ↔
      event.filledQuantity + fill = quantity := by omega
  -- The requested status is the one that fits the cumulative quantity.
  obtain ⟨status, statusEq, text⟩ : ∃ status : PaperOrderLifecycleStatus,
      status = (if event.filledQuantity + fill = quantity then .filled else .partiallyFilled) ∧
      (if max (quantity - (event.filledQuantity + fill)) 0 = 0 then "FILLED"
        else "PARTIALLY_FILLED") = status.value := by
    refine ⟨_, rfl, ?_⟩
    by_cases full : event.filledQuantity + fill = quantity
    · rw [if_pos (remaining.mpr full), if_pos full]
      rfl
    · rw [if_neg (fun zero => full (remaining.mp zero)), if_neg full]
      rfl
  have isFill : status.IsFill := by
    rw [statusEq]
    split
    · exact .inr rfl
    · exact .inl rfl
  have accepts : Accepts intent (some event.status) status quantity
      (some (event.filledQuantity + fill)) := by
    refine ⟨running.intentChecked, ?_, fun _ => ⟨_, rfl, by omega, bounded, ?_⟩⟩
    · rw [statusEq]
      rcases fillable with opened | partly
      · rw [opened]
        split <;> decide
      · rw [partly]
        split <;> decide
    · intro partly
      rw [statusEq] at partly
      split at partly
      · cases partly
      · omega
  obtain ⟨lifecycle, next, built, created, eventEq, records⟩ :=
    build_accepted digest (some event) tsEpoch
      (some "paper fill simulation from controlled quote") (.float price) (.dict intent)
      (coerceStatus_value status) running.readQuantity (intOrNone_int _) accepts
  have filled := records.filled isFill _ rfl (by omega)
  have call : buildPaperOrderLifecycleEvent digest (.dict intent) status.value
      (.dict event.toDict) tsEpoch (some "paper fill simulation from controlled quote")
      (.int (event.filledQuantity + fill)) (.float price) = .ok lifecycle := built
  have wholeText : status.value = "FILLED" ↔ event.filledQuantity + fill = quantity := by
    rw [statusEq]
    split
    · rename_i full
      exact iff_of_true rfl full
    · rename_i partly
      exact iff_of_false (by decide) partly
  unfold fillResult
  dsimp only
  rw [text, call]
  simp only [bind, Except.bind, pure, Except.pure, created, if_true, eventEq, Option.map_some]
  refine ⟨_, next, rfl, rfl, rfl, positive, filled, ?_, ?_, ?_, rfl⟩
  · rw [filled]
    exact bounded
  · rw [filled, records.statusEq, statusEq]
  · rw [filled]
    simp only [wholeText]

private theorem terminal_outcome {status : PaperFillSimulationStatus}
    (ended : PaperOrderLifecycleStatus) {reason : String} {remainingBefore : Int}
    {warnings : List String} {evidence : PyDict}
    (fillable : event.status = .opened ∨ event.status = .partiallyFilled)
    (pair : status = .expiredFill ∧ ended = .expired ∨ status = .rejectedFill ∧ ended = .rejected)
    (built : terminalSimulationResult digest status ended.value intent.asDict event.toDict
      input.quote.asDict input.tsEpoch reason event.filledQuantity remainingBefore warnings
      evidence = .ok result) :
    SimulationOutcome intent.asDict quantity event input result := by
  unfold terminalSimulationResult at built
  obtain ⟨lifecycle, call, built⟩ := bind_eq_ok.mp built
  have outcome : BuildOutcome digest (.dict intent.asDict) ended.value (some event) (.int 0) .none
      lifecycle := build_outcome call
  cases outcome with
  | blocked created _ =>
      rw [created] at built
      cases built
      exact .kept rfl rfl (.inl rfl)
  | created other _ fill next created eventEq coerced _ _ _ records =>
      rw [coerceStatus_value] at coerced
      cases coerced
      rw [created, eventEq] at built
      cases built
      have notFill : ¬ended.IsFill := by
        rcases pair with ⟨_, rfl⟩ | ⟨_, rfl⟩ <;> decide
      refine .ended fillable next rfl rfl (records.carried notFill) ?_
      rw [records.statusEq]
      exact pair

private theorem fillable_of_validated {intent quote : PyDict} {nowEpoch : Option PyFloat}
    {maxQuoteAgeSec : PyFloat} {blockers warnings : List String}
    (validated : validatePaperFillSimulationInputs intent event.toDict quote nowEpoch
      maxQuoteAgeSec = .ok (blockers, warnings)) (empty : blockers = []) :
    event.status = .opened ∨ event.status = .partiallyFilled := by
  unfold validatePaperFillSimulationInputs at validated
  obtain ⟨ofIntent, _, validated⟩ := bind_eq_ok.mp validated
  cases validated
  simp only [dedupe_append_eq_nil] at empty
  exact (openEventBlockers_toDict event).mp empty.1.1.2

theorem simulate_outcome (running : Running intent.asDict quantity event)
    (built : simulateOn digest intent (.dict event.toDict) input = .ok result) :
    SimulationOutcome intent.asDict quantity event input result := by
  unfold simulateOn simulatePaperFill at built
  obtain ⟨⟨blockers, warnings⟩, validated, built⟩ := bind_eq_ok.mp built
  dsimp only at built
  by_cases blocked : blockers ≠ []
  · rw [if_pos blocked] at built
    cases built
    exact .kept rfl rfl (.inl rfl)
  rw [if_neg blocked] at built
  have fillable := fillable_of_validated validated (not_not.mp blocked)
  obtain ⟨_, readQuantity, built⟩ := bind_eq_ok.mp built
  cases running.readQuantity.symm.trans readQuantity
  obtain ⟨_, readFilled, built⟩ := bind_eq_ok.mp built
  have stored : intOrZero ((PyValue.dict event.toDict).asDict.get "filled_quantity") =
      .ok event.filledQuantity := rfl
  cases stored.symm.trans readFilled
  split at built
  · exact terminal_outcome .expired fillable (.inl ⟨rfl, rfl⟩) built
  split at built
  · exact terminal_outcome .rejected fillable (.inr ⟨rfl, rfl⟩) built
  split at built
  · cases built
    exact .kept rfl rfl (.inr rfl)
  · rename_i price resolved
    obtain ⟨available, _, built⟩ := bind_eq_ok.mp built
    split at built
    · cases built
      exact .kept rfl rfl (.inr rfl)
    · rename_i liquid
      obtain ⟨filled, next, same, filledTo⟩ := fillResult_filledTo running fillable
        (not_le.mp liquid) digest input.tsEpoch price warnings _
      cases built.symm.trans same
      exact .filled fillable next price resolved filledTo

theorem simulate_of_fillComputed (running : Running intent.asDict quantity event) {available : Int}
    {price : PyFloat} (computed : FillComputed intent.asDict quantity event input available price)
    (digest : String → String) :
    ∃ result next, simulateOn digest intent (.dict event.toDict) input = .ok result ∧
      FilledTo quantity event next price result := by
  obtain ⟨warnings, validated⟩ := computed.validated
  have fillable := fillable_of_validated validated rfl
  obtain ⟨result, next, built, filledTo⟩ := fillResult_filledTo running fillable computed.liquid
    digest input.tsEpoch price warnings
    (simulationEvidence intent.asDict event.toDict input.quote.asDict input.nowEpoch
      input.maxQuoteAgeSec)
  refine ⟨result, next, ?_, filledTo⟩
  have stored : intOrZero (PyDict.get event.toDict "filled_quantity") = .ok event.filledQuantity :=
    rfl
  unfold simulateOn simulatePaperFill
  simp only [PyValue.asDict_dict, validated, bind, Except.bind, ne_eq, not_true_eq_false, if_false,
    running.readQuantity, stored, computed.live, computed.unrejected, Bool.false_eq_true,
    computed.priced, computed.readAvailable, if_neg (not_le.mpr computed.liquid)]
  exact built

end Outcome

/-! ### Prices and limits -/

def LimitRespected (intent : PyDict) (result : PaperFillSimulationResult) : Prop :=
  ∀ limit, upper (printValue ((intent.get "order_type").or (.str "LIMIT"))) ≠ "MARKET" →
    floatOrNone (intent.get "price") = some limit →
    ∃ price, result.fillPrice = some price ∧
      (upperText (intent.get "transaction_type") = "BUY" → price.le limit = true) ∧
      (upperText (intent.get "transaction_type") = "SELL" → limit.le price = true)

theorem resolvedFillPrice_limit {intent quote : PyDict} {price limit : PyFloat}
    (resolved : resolvedFillPrice intent quote = some price)
    (notMarket : upper (printValue ((intent.get "order_type").or (.str "LIMIT"))) ≠ "MARKET")
    (limited : floatOrNone (intent.get "price") = some limit) :
    (upperText (intent.get "transaction_type") = "BUY" → price.le limit = true) ∧
      (upperText (intent.get "transaction_type") = "SELL" → limit.le price = true) := by
  unfold resolvedFillPrice at resolved
  rw [limited] at resolved
  dsimp only at resolved
  constructor
  · intro buys
    rw [if_pos buys] at resolved
    split at resolved
    · cases resolved
    · rename_i impossible
      cases impossible
    · rename_i executable own _ same
      cases same
      split at resolved
      · rename_i marketable
        cases resolved
        exact marketable.resolve_left notMarket
      · cases resolved
  · intro sells
    rw [if_neg (by rw [sells]; decide), if_pos sells] at resolved
    split at resolved
    · cases resolved
    · rename_i impossible
      cases impossible
    · rename_i executable own _ same
      cases same
      split at resolved
      · rename_i marketable
        cases resolved
        exact marketable.resolve_left notMarket
      · cases resolved

/-! ### Runs of quotes -/

structure SimulationState where
  current : PyValue
  results : List PaperFillSimulationResult := []

section Runs

variable (digest : String → String) (intent : PyValue)

def simulationAfter (state : SimulationState) (input : QuoteInput) : SimulationState :=
  match simulateOn digest intent state.current input with
  | .ok result =>
      { current := (result.lifecycleEvent.map PyValue.dict).getD state.current
        results := state.results ++ [result] }
  | .error _ => state

def SimulationStep (before : SimulationState) (input : QuoteInput) (after : SimulationState) :
    Prop :=
  after = simulationAfter digest intent before input

def StartsOpen (start : SimulationState) : Prop :=
  ∃ calls events event, Run (LifecycleStep digest intent) [] calls events ∧
    events.getLast? = some event ∧ event.status = .opened ∧ start.current = .dict event.toDict ∧
    start.results = []

end Runs

section Invariant

variable {digest : String → String} {intent : PyValue} {quantity : Int}
variable {start state before after : SimulationState} {inputs : List QuoteInput}

private theorem created_unfilled {calls : List LifecycleCall} {events : List PaperOrderLifecycleEvent}
    (run : Run (LifecycleStep digest intent) [] calls events) :
    ∀ event ∈ events, dedupe (lifecycleIntentBlockers intent.asDict) = [] ∧
      (event.status ∈ [.created, .accepted, .opened] → event.filledQuantity = 0) := by
  refine run.invariant (motive := fun events => ∀ event ∈ events,
    dedupe (lifecycleIntentBlockers intent.asDict) = [] ∧
      (event.status ∈ [.created, .accepted, .opened] → event.filledQuantity = 0))
    (fun event member => by cases member) ?_
  intro before call after unfilled stepped
  cases step_outcome stepped with
  | kept _ same => exact same ▸ unfilled
  | created status fill event _ same _ _ accepts records =>
      rw [same]
      intro other member
      rcases List.mem_append.mp member with earlier | here
      · exact unfilled other earlier
      cases List.mem_singleton.mp here
      refine ⟨accepts.intent, fun young => ?_⟩
      rw [records.statusEq] at young
      have allowed := accepts.allowed
      have notFill : ¬status.IsFill := by
        revert young
        cases status <;> decide
      rw [records.carried notFill]
      cases found : before.getLast? with
      | none => rfl
      | some last =>
          rw [found, Option.map_some] at allowed
          have lastYoung : last.status ∈ [PaperOrderLifecycleStatus.created, .accepted, .opened] := by
            revert young allowed
            cases last.status <;> cases status <;> decide
          exact (unfilled last (List.mem_of_getLast? found)).2 lastYoung

/-- The order behind a state: its current event, and what the quotes have filled. -/
structure Traces (intent : PyValue) (quantity : Int) (state : SimulationState)
    (event : PaperOrderLifecycleEvent) : Prop where
  running : Running intent.asDict quantity event
  current : state.current = .dict event.toDict
  total : (state.results.map PaperFillSimulationResult.fillQuantity).sum = event.filledQuantity

theorem StartsOpen.traces (starts : StartsOpen digest intent start)
    (accepted : IntentAccepted intent.asDict) :
    ∃ quantity event, Traces intent quantity start event := by
  obtain ⟨calls, events, event, run, last, opened, current, results⟩ := starts
  obtain ⟨quantity, readQuantity, positive⟩ := accepted.quantity
  obtain ⟨intentChecked, unfilled⟩ := created_unfilled run event (List.mem_of_getLast? last)
  have empty : event.filledQuantity = 0 := unfilled (by rw [opened]; decide)
  refine ⟨quantity, event, ?_, current, ?_⟩
  · refine ⟨positive, readQuantity, intentChecked, by omega, by omega, ?_⟩
    rw [opened]
    exact iff_of_false (by decide) (by omega)
  · rw [results, empty]
    rfl

private theorem Running.moved {event next : PaperOrderLifecycleEvent}
    (running : Running intent.asDict quantity event) (nonneg : 0 ≤ next.filledQuantity)
    (within : next.filledQuantity ≤ quantity)
    (filled_iff : next.status = .filled ↔ next.filledQuantity = quantity) :
    Running intent.asDict quantity next :=
  ⟨running.positive, running.readQuantity, running.intentChecked, nonneg, within, filled_iff⟩

private theorem Running.unfilled {event : PaperOrderLifecycleEvent}
    (running : Running intent.asDict quantity event)
    (fillable : event.status = .opened ∨ event.status = .partiallyFilled) :
    event.filledQuantity ≠ quantity := by
  intro full
  have status := running.filled_iff.mpr full
  rcases fillable with opened | partly
  · rw [opened] at status
    cases status
  · rw [partly] at status
    cases status

theorem SimulationStep.traces {event : PaperOrderLifecycleEvent} {input : QuoteInput}
    (stepped : SimulationStep digest intent before input after)
    (traces : Traces intent quantity before event) :
    ∃ next, Traces intent quantity after next := by
  have running := traces.running
  unfold SimulationStep simulationAfter at stepped
  rw [traces.current] at stepped
  cases built : simulateOn digest intent (.dict event.toDict) input with
  | error raised =>
      rw [built] at stepped
      exact ⟨event, stepped ▸ traces⟩
  | ok result =>
      rw [built] at stepped
      dsimp only at stepped
      have total : ((before.results ++ [result]).map PaperFillSimulationResult.fillQuantity).sum =
          event.filledQuantity + result.fillQuantity := by
        rw [List.map_append, List.sum_append, traces.total, List.map_singleton, List.sum_singleton]
      cases simulate_outcome running built with
      | kept noEvent noFill _ =>
          rw [noEvent] at stepped
          rw [noFill, Int.add_zero] at total
          exact ⟨event, running, by rw [stepped]; rfl, by rw [stepped]; exact total⟩
      | ended fillable next lifecycleEvent noFill carried status =>
          rw [lifecycleEvent] at stepped
          rw [noFill, Int.add_zero, ← carried] at total
          have notFilled : next.status ≠ .filled := by
            rcases status with ⟨_, ended⟩ | ⟨_, ended⟩ <;> rw [ended] <;> decide
          have unfilled : next.filledQuantity ≠ quantity := carried ▸ running.unfilled fillable
          exact ⟨next, running.moved (carried ▸ running.nonneg) (carried ▸ running.within)
            (iff_of_false notFilled unfilled), by rw [stepped]; rfl, by rw [stepped]; exact total⟩
      | filled fillable next price _ filledTo =>
          rw [filledTo.lifecycleEvent] at stepped
          rw [← filledTo.added] at total
          have nonneg : 0 ≤ next.filledQuantity := by
            have positive := filledTo.positive
            have earlier := running.nonneg
            rw [filledTo.added]
            omega
          refine ⟨next, running.moved nonneg filledTo.within ?_, by rw [stepped]; rfl,
            by rw [stepped]; exact total⟩
          rw [filledTo.nextStatus]
          split
          · rename_i full
            exact iff_of_true rfl full
          · rename_i partly
            exact iff_of_false (by decide) partly

theorem simulationRun_traces (starts : StartsOpen digest intent start)
    (accepted : IntentAccepted intent.asDict)
    (run : Run (SimulationStep digest intent) start inputs state) :
    ∃ quantity event, Traces intent quantity state event := by
  obtain ⟨quantity, event, traces⟩ := starts.traces accepted
  have reached := run.invariant (motive := fun state => ∃ event, Traces intent quantity state event)
    ⟨event, traces⟩ (fun _ _ _ ⟨_, earlier⟩ stepped => stepped.traces earlier)
  exact ⟨quantity, reached⟩

/-- Quantities, limits and terminal states over every run of quotes. -/
theorem fillSimulation_run (starts : StartsOpen digest intent start)
    (accepted : IntentAccepted intent.asDict)
    (run : Run (SimulationStep digest intent) start inputs state) :
    ∃ quantity event, intOrZero (intent.asDict.get "quantity") = .ok quantity ∧
      state.current = .dict event.toDict ∧
      (state.results.map PaperFillSimulationResult.fillQuantity).sum = event.filledQuantity ∧
      event.filledQuantity ≤ quantity ∧
      (event.status = .filled ↔ event.filledQuantity = quantity) ∧
      (∀ input available price, FillComputed intent.asDict quantity event input available price →
        ∃ result next, simulateOn digest intent state.current input = .ok result ∧
          FilledTo quantity event next price result) ∧
      ∀ input result, simulateOn digest intent state.current input = .ok result →
        (0 < result.fillQuantity → LimitRespected intent.asDict result) ∧
          (event.status.IsTerminal → result.fillQuantity = 0 ∧ result.lifecycleEvent = none) ∧
          (result.status = .expiredFill → ∃ next : PaperOrderLifecycleEvent,
            result.lifecycleEvent = some next.toDict ∧ next.status = .expired ∧
              next.filledQuantity = event.filledQuantity) := by
  obtain ⟨quantity, event, traces⟩ := simulationRun_traces starts accepted run
  have running := traces.running
  refine ⟨quantity, event, running.readQuantity, traces.current, traces.total, running.within,
    running.filled_iff, ?_, ?_⟩
  · intro input available price computed
    rw [traces.current]
    exact simulate_of_fillComputed running computed digest
  · intro input result built
    rw [traces.current] at built
    cases simulate_outcome running built with
    | kept noEvent noFill status =>
        refine ⟨fun positive => absurd positive (by omega), fun _ => ⟨noFill, noEvent⟩, ?_⟩
        intro expired
        rw [expired] at status
        rcases status with impossible | impossible <;> cases impossible
    | ended fillable next lifecycleEvent noFill carried status =>
        refine ⟨fun positive => absurd positive (by omega), ?_, ?_⟩
        · intro terminal
          rcases fillable with opened | partly
          · rw [opened] at terminal
            exact absurd terminal (by decide)
          · rw [partly] at terminal
            exact absurd terminal (by decide)
        · intro expired
          rcases status with ⟨_, ended⟩ | ⟨rejected, _⟩
          · exact ⟨next, lifecycleEvent, ended, carried⟩
          · rw [expired] at rejected
            cases rejected
    | filled fillable next price resolved filledTo =>
        refine ⟨?_, ?_, ?_⟩
        · intro _ limit notMarket limited
          exact ⟨price, filledTo.fillPrice, resolvedFillPrice_limit resolved notMarket limited⟩
        · intro terminal
          rcases fillable with opened | partly
          · rw [opened] at terminal
            exact absurd terminal (by decide)
          · rw [partly] at terminal
            exact absurd terminal (by decide)
        · intro expired
          have status := filledTo.status
          rw [expired] at status
          split at status <;> cases status

end Invariant

section Example

private def limitOrder : PyValue :=
  .dict ([("intent_type", .str "PAPER_ORDER_INTENT"), ("paper_order_intent_id", .str "i1"),
    ("candidate_id", .str "c1"), ("transaction_type", .str "BUY"), ("order_type", .str "LIMIT"),
    ("price", .int 100), ("quantity", .int 10)] ++ safeFlags)

private def askQuote (ask available : Int) : QuoteInput :=
  { quote := .dict [("source", .str "TEST_QUOTE"), ("is_order_action", .bool false),
      ("ask", .int ask), ("available_quantity", .int available)] }

private def openEvents : List PaperOrderLifecycleEvent :=
  [{ requestedStatus := "CREATED" }, { requestedStatus := "ACCEPTED" },
    { requestedStatus := "OPEN" }].foldl (eventsAfter id limitOrder) []

private def openOrder : SimulationState :=
  { current := eventValue openEvents.getLast? }

private def quotedOrder : SimulationState :=
  [askQuote 99 4, askQuote 101 5, askQuote 100 20].foldl (simulationAfter id limitOrder) openOrder

theorem fillSimulation_run_limitOrder : ∃ quantity : Int, ∃ event : PaperOrderLifecycleEvent,
    intOrZero (limitOrder.asDict.get "quantity") = .ok quantity ∧
      quotedOrder.current = .dict event.toDict ∧
      (quotedOrder.results.map PaperFillSimulationResult.fillQuantity).sum = event.filledQuantity ∧
      event.filledQuantity ≤ quantity ∧
      (event.status = .filled ↔ event.filledQuantity = quantity) ∧
      quotedOrder.results.map PaperFillSimulationResult.fillQuantity = [4, 0, 6] := by
  have starts : StartsOpen id limitOrder openOrder := by
    refine ⟨_, openEvents, _, Run.of_foldl (eventsAfter id limitOrder) [] _, rfl, rfl, rfl, rfl⟩
  have accepted : IntentAccepted limitOrder.asDict := ⟨_, rfl, by decide⟩
  have run : Run (SimulationStep id limitOrder) openOrder _ quotedOrder :=
    Run.of_foldl (simulationAfter id limitOrder) openOrder _
  obtain ⟨quantity, event, read, current, total, within, filled_iff, _⟩ :=
    fillSimulation_run starts accepted run
  exact ⟨quantity, event, read, current, total, within, filled_iff, by decide⟩

end Example

end Algotradify.Paper.FillSimulation
