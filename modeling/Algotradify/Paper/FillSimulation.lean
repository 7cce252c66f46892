/-
The fill simulator: one controlled quote against the current event of a paper
order. A fill, a rejection or an expiry becomes a lifecycle event; every other
outcome leaves the order where it was.

The price of a simulated fill against the quoted side: the ask for a buy, the bid for a
sell.

A side of zero counts as missing, and the best quote or the last trade is taken in its
place. Every other quoted number is the price of the fill itself.
-/

import Algotradify.Paper.Lifecycle

namespace Algotradify.Paper.FillSimulation

open Py Lifecycle

variable {number price : PyFloat} {intent : PyDict} {digest : String → String}
variable {tsEpoch : Option PyFloat} {result : PaperFillSimulationResult}

inductive PaperFillSimulationStatus where
  | fullFill
  | partialFill
  | noFill
  | rejectedFill
  | expiredFill
  | blocked
deriving DecidableEq, Repr

structure PaperFillSimulationResult where
  simulated : Bool
  status : PaperFillSimulationStatus
  lifecycleEvent : Option PyDict := none
  fillQuantity : Int := 0
  cumulativeFilledQuantity : Int := 0
  remainingQuantity : Option Int := none
  fillPrice : Option PyFloat := none
  blockers : List String := []
  warnings : List String := []
  evidence : PyDict := []
deriving Repr

def PaperFillSimulationStatus.value : PaperFillSimulationStatus → String
  | .fullFill => "FULL_FILL"
  | .partialFill => "PARTIAL_FILL"
  | .noFill => "NO_FILL"
  | .rejectedFill => "REJECTED_FILL"
  | .expiredFill => "EXPIRED_FILL"
  | .blocked => "BLOCKED"

def PaperFillSimulationResult.toDict (result : PaperFillSimulationResult) : PyDict :=
  [("schema_version", .str "1.0"),
    ("simulation_type", .str "PAPER_FILL_SIMULATION_ENGINE"),
    ("simulated", .bool result.simulated),
    ("status", .str result.status.value),
    ("lifecycle_event", match result.lifecycleEvent with
      | some event => if event.isEmpty then .none else .dict event
      | none => .none),
    ("fill_quantity", .int result.fillQuantity),
    ("cumulative_filled_quantity", .int result.cumulativeFilledQuantity),
    ("remaining_quantity", ofOptionInt result.remainingQuantity),
    ("fill_price", ofOptionFloat result.fillPrice),
    ("blockers", ofStrings result.blockers),
    ("warnings", ofStrings result.warnings),
    ("evidence", .dict result.evidence)] ++ safeFlags

/-- `CONTROLLED_QUOTE_SOURCES`. -/
def controlledQuoteSources : List String :=
  ["CONTROLLED_QUOTE", "TEST_QUOTE", "SIMULATED_QUOTE", "PAPER_QUOTE"]

/-- `FILLABLE_PREVIOUS_STATUSES`. -/
def fillablePreviousStatuses : List String := ["OPEN", "PARTIALLY_FILLED"]

/-! ### Reading a quote -/

/-- `left or right` of two optional numbers: a price of zero counts as missing. -/
def orFloat (left right : Option PyFloat) : Option PyFloat :=
  match left with
  | some price => if price.truthy then left else right
  | none => right

def resolvedFillPrice (intent quote : PyDict) : Option PyFloat :=
  let transactionType := upperText (intent.get "transaction_type")
  let orderType := upper (printValue ((intent.get "order_type").or (.str "LIMIT")))
  let limitPrice := floatOrNone (intent.get "price")
  let bid := floatOrNone ((quote.get "bid").or (quote.get "best_bid"))
  let ask := floatOrNone ((quote.get "ask").or (quote.get "best_ask"))
  let last := floatOrNone (((quote.get "last").or (quote.get "ltp")).or (quote.get "mark"))
  if transactionType = "BUY" then
    match orFloat ask last, limitPrice with
    | none, _ => none
    | some executablePrice, none => some executablePrice
    | some executablePrice, some limit =>
        if orderType = "MARKET" ∨ executablePrice.le limit then some executablePrice else none
  else if transactionType = "SELL" then
    match orFloat bid last, limitPrice with
    | none, _ => none
    | some executablePrice, none => some executablePrice
    | some executablePrice, some limit =>
        if orderType = "MARKET" ∨ limit.le executablePrice then some executablePrice else none
  else none

def firstQuantity (quote : PyDict) : List String → Except PyError (Option Int)
  | [] => .ok none
  | key :: rest => do
      match ← intOrNone (quote.get key) with
      | some quantity => pure (some quantity)
      | none => firstQuantity quote rest

def availableQuantity (quote : PyDict) (remainingBefore : Int) : Except PyError Int := do
  let quantity ← firstQuantity quote ["available_quantity", "available_qty", "fillable_quantity",
    "fillable_qty", "size", "quantity"]
  pure (match quantity with
    | some quantity => max quantity 0
    | none => remainingBefore)

def isRejected (quote : PyDict) : Bool :=
  (quote.get "reject").isTrue || (quote.get "rejected").isTrue ||
    ["REJECTED", "REJECTED_FILL"].contains (upperText (quote.get "status"))

def isExpired (intent quote : PyDict) (nowEpoch : Option PyFloat) : Bool :=
  let expiryEpoch :=
    floatOrNone ((quote.get "order_expiry_epoch").or (intent.get "order_expiry_epoch"))
  (quote.get "expired").isTrue ||
    ["EXPIRED", "EXPIRED_FILL"].contains (upperText (quote.get "status")) ||
    match expiryEpoch, nowEpoch with
    | some expiry, some now => expiry.le now
    | _, _ => false

def quoteAgeSec (quote : PyDict) (nowEpoch : Option PyFloat) : Option PyFloat :=
  ageSec ((quote.get "ts_epoch").or (quote.get "quote_ts_epoch")) nowEpoch

/-! ### Validation -/

def fillIntentBlockers (intent : PyDict) : Except PyError (List String) :=
  if intent.isEmpty then .ok ["PAPER_INTENT_REQUIRED"]
  else do
    let quantity ← intOrZero (intent.get "quantity")
    pure (blockerIf (!(intent.get "intent_type").isStr "PAPER_ORDER_INTENT")
        "PAPER_INTENT_TYPE_REQUIRED" ++
      validateSafeFlags intent "PAPER_INTENT" ++
      blockerIf (decide (quantity ≤ 0)) "PAPER_ORDER_QUANTITY_REQUIRED")

def openEventBlockers (event : PyDict) : List String :=
  if event.isEmpty then ["PAPER_ORDER_LIFECYCLE_EVENT_REQUIRED"]
  else
    let previousStatus := upperText (event.get "status")
    blockerIf (!(event.get "event_type").isStr "PAPER_ORDER_LIFECYCLE_EVENT")
        "PAPER_ORDER_LIFECYCLE_EVENT_TYPE_REQUIRED" ++
      validateSafeFlags event "PAPER_ORDER_LIFECYCLE" ++
      if terminalPaperOrderStates.contains previousStatus then ["PAPER_ORDER_ALREADY_TERMINAL"]
      else blockerIf (!fillablePreviousStatuses.contains previousStatus)
        "PAPER_ORDER_NOT_OPEN_FOR_FILL_SIMULATION"

def quoteBlockers (quote : PyDict) (nowEpoch : Option PyFloat) (maxQuoteAgeSec : PyFloat) :
    List String × List String :=
  if quote.isEmpty then (["CONTROLLED_QUOTE_REQUIRED"], [])
  else
    let age := quoteAgeSec quote nowEpoch
    let stale := match age with
      | some age => maxQuoteAgeSec.lt age
      | none => false
    (blockerIf (!controlledQuoteSources.contains (upperText (quote.get "source")))
        "CONTROLLED_QUOTE_SOURCE_REQUIRED" ++
      blockerIf (!(quote.get "is_order_action").isFalse) "CONTROLLED_QUOTE_ORDER_FLAG_UNSAFE" ++
      blockerIf (quote.get "broker_api_called").isTrue "CONTROLLED_QUOTE_BROKER_API_CALLED" ++
      blockerIf (!(quote.get "real_order_id").isNoneOrEmpty)
        "CONTROLLED_QUOTE_REAL_ORDER_ID_PRESENT" ++
      blockerIf stale "CONTROLLED_QUOTE_STALE",
      blockerIf age.isNone "CONTROLLED_QUOTE_AGE_UNAVAILABLE")

def validatePaperFillSimulationInputs (intent previousEvent quote : PyDict)
    (nowEpoch : Option PyFloat) (maxQuoteAgeSec : PyFloat) :
    Except PyError (List String × List String) := do
  let ofIntent ← fillIntentBlockers intent
  let ofQuote := quoteBlockers quote nowEpoch maxQuoteAgeSec
  pure (dedupe (ofIntent ++ openEventBlockers previousEvent ++
    mismatchBlockers intent previousEvent ++ ofQuote.1), dedupe ofQuote.2)

def simulationEvidence (intent previousEvent quote : PyDict) (nowEpoch : Option PyFloat)
    (maxQuoteAgeSec : PyFloat) : PyDict :=
  [("paper_order_intent_id", intent.get "paper_order_intent_id"),
    ("candidate_id", intent.get "candidate_id"),
    ("previous_status", previousEvent.get "status"),
    ("quote_source", quote.get "source"),
    ("quote_ts_epoch", quote.get "ts_epoch"),
    ("quote_age_sec", ofOptionFloat (quoteAgeSec quote nowEpoch)),
    ("max_quote_age_sec", .float maxQuoteAgeSec),
    ("controlled_quote_only", .bool true)] ++ safeFlags

/-! ### The simulation -/

def refusedSimulation (lifecycle : PaperOrderLifecycleResult) (warnings : List String)
    (evidence : PyDict) : PaperFillSimulationResult :=
  { simulated := false
    status := .blocked
    blockers := dedupe lifecycle.blockers
    warnings := dedupe (warnings ++ lifecycle.warnings)
    evidence := evidence }

def terminalSimulationResult (digest : String → String) (status : PaperFillSimulationStatus)
    (lifecycleStatus : String) (intent previousEvent quote : PyDict) (tsEpoch : Option PyFloat)
    (reason : String) (previousFilled remainingBefore : Int) (warnings : List String)
    (evidence : PyDict) : Except PyError PaperFillSimulationResult := do
  let lifecycle ← buildPaperOrderLifecycleEvent digest (.dict intent) lifecycleStatus
    (.dict previousEvent) tsEpoch (some reason) (.int 0) .none
  pure (if lifecycle.created then
      { simulated := true
        status := status
        lifecycleEvent := lifecycle.event.map PaperOrderLifecycleEvent.toDict
        cumulativeFilledQuantity := previousFilled
        remainingQuantity := some remainingBefore
        warnings := warnings
        evidence := evidence.set "quote_status" (quote.get "status") }
    else refusedSimulation lifecycle warnings evidence)

def noFillResult (previousFilled remainingBefore : Int) (fillPrice : Option PyFloat)
    (warnings : List String) (evidence : PyDict) : PaperFillSimulationResult :=
  { simulated := true
    status := .noFill
    cumulativeFilledQuantity := previousFilled
    remainingQuantity := some remainingBefore
    fillPrice := fillPrice
    warnings := dedupe warnings
    evidence := evidence }

def fillResult (digest : String → String) (intent previousEvent : PyDict) (tsEpoch : Option PyFloat)
    (quantity previousFilled fillQuantity : Int) (fillPrice : PyFloat) (warnings : List String)
    (evidence : PyDict) : Except PyError PaperFillSimulationResult := do
  let cumulative := previousFilled + fillQuantity
  let remainingAfter := max (quantity - cumulative) 0
  let lifecycleStatus := if remainingAfter = 0 then "FILLED" else "PARTIALLY_FILLED"
  let lifecycle ← buildPaperOrderLifecycleEvent digest (.dict intent) lifecycleStatus
    (.dict previousEvent) tsEpoch (some "paper fill simulation from controlled quote")
    (.int cumulative) (.float fillPrice)
  pure (if lifecycle.created then
      { simulated := true
        status := if lifecycleStatus = "FILLED" then .fullFill else .partialFill
        lifecycleEvent := lifecycle.event.map PaperOrderLifecycleEvent.toDict
        fillQuantity := fillQuantity
        cumulativeFilledQuantity := cumulative
        remainingQuantity := some remainingAfter
        fillPrice := some fillPrice
        warnings := warnings
        evidence := evidence }
    else refusedSimulation lifecycle warnings evidence)

def simulatePaperFill (digest : String → String) (intent previousEvent quote : PyValue)
    (tsEpoch nowEpoch : Option PyFloat) (maxQuoteAgeSec : PyFloat) :
    Except PyError PaperFillSimulationResult := do
  let intent := intent.asDict
  let previous := previousEvent.asDict
  let quote := quote.asDict
  let (blockers, warnings) ←
    validatePaperFillSimulationInputs intent previous quote nowEpoch maxQuoteAgeSec
  let evidence := simulationEvidence intent previous quote nowEpoch maxQuoteAgeSec
  if blockers ≠ [] then
    pure
      { simulated := false
        status := .blocked
        blockers := blockers
        warnings := warnings
        evidence := evidence }
  else
    let quantity ← intOrZero (intent.get "quantity")
    let previousFilled ← intOrZero (previous.get "filled_quantity")
    let remainingBefore := max (quantity - previousFilled) 0
    if isExpired intent quote nowEpoch then
      terminalSimulationResult digest .expiredFill "EXPIRED" intent previous quote tsEpoch
        "paper fill simulation expired from controlled input" previousFilled remainingBefore
        warnings evidence
    else if isRejected quote then
      terminalSimulationResult digest .rejectedFill "REJECTED" intent previous quote tsEpoch
        (printValue ((quote.get "reject_reason").or
          (.str "paper fill simulation rejected from controlled input")))
        previousFilled remainingBefore warnings evidence
    else
      match resolvedFillPrice intent quote with
      | none =>
          pure (noFillResult previousFilled remainingBefore none
            (warnings ++ ["NO_MARKETABLE_PRICE_FROM_CONTROLLED_QUOTE"]) evidence)
      | some fillPrice =>
          let available ← availableQuantity quote remainingBefore
          if available ≤ 0 then
            pure (noFillResult previousFilled remainingBefore (some fillPrice)
              (warnings ++ ["NO_CONTROLLED_QUOTE_LIQUIDITY"]) evidence)
          else
            fillResult digest intent previous tsEpoch quantity previousFilled
              (min available remainingBefore) fillPrice warnings evidence

/-! ### Quoted prices -/

def lastOf (quote : PyDict) : Option PyFloat :=
  floatOrNone (((quote.get "last").or (quote.get "ltp")).or (quote.get "mark"))

/-- What is taken for a side that is zero: a text is not replaced by the best quote. -/
def insteadOf (side best : PyValue) (last : Option PyFloat) : Option PyFloat :=
  if side.truthy then last else orFloat (floatOrNone best) last

structure NotBetter (intent quote : PyDict) (price : PyFloat) : Prop where
  buy : upperText (intent.get "transaction_type") = "BUY" →
    ∀ ask, floatOrNone (quote.get "ask") = some ask → ask ≠ .nan → ask.le price = true
  sell : upperText (intent.get "transaction_type") = "SELL" →
    ∀ bid, floatOrNone (quote.get "bid") = some bid → bid ≠ .nan → price.le bid = true

structure ZeroSideKept (intent quote : PyDict) : Prop where
  buy : upperText (intent.get "transaction_type") = "BUY" →
    floatOrNone (quote.get "ask") = some (.finite 0) →
    ∀ price, insteadOf (quote.get "ask") (quote.get "best_ask") (lastOf quote) = some price →
      (PyFloat.finite 0).le price = true
  sell : upperText (intent.get "transaction_type") = "SELL" →
    floatOrNone (quote.get "bid") = some (.finite 0) →
    ∀ price, insteadOf (quote.get "bid") (quote.get "best_bid") (lastOf quote) = some price →
      price.le (.finite 0) = true

theorem falsy_number {value : PyValue} (read : floatOrNone value = some number)
    (falsy : value.truthy = false) : number = .finite 0 := by
  cases value with
  | none => cases read
  | bool flag =>
      cases falsy
      cases read
      rfl
  | int own =>
      have zero : own = 0 := by simpa [PyValue.truthy] using falsy
      subst zero
      cases read
      rfl
  | float own =>
      cases read
      cases number with
      | finite value =>
          have zero : value = 0 := by simpa [PyValue.truthy, PyFloat.truthy] using falsy
          rw [zero]
      | _ => cases falsy
  | str text =>
      have empty : text = "" := by simpa [PyValue.truthy] using falsy
      subst empty
      cases read
  | list items => cases read
  | dict entries => cases read

theorem truthy_of_ne_zero (nonzero : number ≠ .finite 0) :
    number.truthy = true := by
  cases number with
  | finite value =>
      have own : value ≠ 0 := fun zero => nonzero (congrArg PyFloat.finite zero)
      exact decide_eq_true own
  | _ => rfl

theorem executable_of_side {side best : PyValue} {last : Option PyFloat}
    (read : floatOrNone side = some number)
    (executable : orFloat (floatOrNone (side.or best)) last = some price) :
    if number = .finite 0 then insteadOf side best last = some price else price = number := by
  unfold PyValue.or at executable
  cases given : side.truthy with
  | true =>
      rw [given, if_pos rfl, read] at executable
      by_cases zero : number = .finite 0
      · rw [if_pos zero, insteadOf, given, if_pos rfl]
        rw [zero] at executable
        exact executable
      · rw [if_neg zero]
        unfold orFloat at executable
        dsimp only at executable
        rw [if_pos (truthy_of_ne_zero zero)] at executable
        exact (Option.some.inj executable).symm
  | false =>
      rw [given, if_neg Bool.false_ne_true] at executable
      rw [if_pos (falsy_number read given), insteadOf, given, if_neg Bool.false_ne_true]
      exact executable

theorem executable_of_resolved {quote : PyDict}
    (resolved : resolvedFillPrice intent quote = some price) :
    (upperText (intent.get "transaction_type") = "BUY" →
      orFloat (floatOrNone ((quote.get "ask").or (quote.get "best_ask"))) (lastOf quote) =
        some price) ∧
      (upperText (intent.get "transaction_type") = "SELL" →
        orFloat (floatOrNone ((quote.get "bid").or (quote.get "best_bid"))) (lastOf quote) =
          some price) := by
  unfold resolvedFillPrice at resolved
  dsimp only at resolved
  constructor
  · intro buys
    rw [if_pos buys] at resolved
    unfold lastOf
    split at resolved
    · cases resolved
    · rename_i own _ given _
      rw [given]
      exact resolved
    · rename_i own limit given _
      rw [given]
      split at resolved
      · exact resolved
      · cases resolved
  · intro sells
    rw [if_neg (by rw [sells]; decide), if_pos sells] at resolved
    unfold lastOf
    split at resolved
    · cases resolved
    · rename_i own _ given _
      rw [given]
      exact resolved
    · rename_i own limit given _
      rw [given]
      split at resolved
      · exact resolved
      · cases resolved

def PaperFillSimulationResult.IsFilled (result : PaperFillSimulationResult) : Prop :=
  result.status = .fullFill ∨ result.status = .partialFill

theorem unfilled_of_terminal {status : PaperFillSimulationStatus} {ended reason : String}
    {previous quote : PyDict} {filled remaining : Int} {warnings : List String} {evidence : PyDict}
    (terminal : status = .expiredFill ∨ status = .rejectedFill)
    (built : terminalSimulationResult digest status ended intent previous quote tsEpoch reason filled
      remaining warnings evidence = .ok result) : ¬ result.IsFilled := by
  obtain ⟨lifecycle, _, built⟩ := bind_eq_ok.mp built
  rintro (impossible | impossible)
  all_goals
    cases created : lifecycle.created with
    | false =>
        rw [created] at built
        cases built
        cases impossible
    | true =>
        rw [created] at built
        cases built
        change status = _ at impossible
        rw [impossible] at terminal
        rcases terminal with other | other <;> cases other

theorem price_of_fillResult {previous : PyDict} {quantity previousFilled fill : Int}
    {warnings : List String} {evidence : PyDict}
    (built : fillResult digest intent previous tsEpoch quantity previousFilled fill price warnings
      evidence = .ok result) (filled : result.IsFilled) : result.fillPrice = some price := by
  unfold fillResult at built
  dsimp only at built
  obtain ⟨lifecycle, _, built⟩ := bind_eq_ok.mp built
  cases created : lifecycle.created with
  | false =>
      rw [created] at built
      cases built
      rcases filled with impossible | impossible <;> cases impossible
  | true =>
      rw [created] at built
      cases built
      rfl

theorem resolved_of_filled {intent previousEvent quote : PyValue} {nowEpoch : Option PyFloat}
    {maxQuoteAgeSec : PyFloat}
    (built : simulatePaperFill digest intent previousEvent quote tsEpoch nowEpoch maxQuoteAgeSec =
      .ok result) (filled : result.IsFilled) :
    ∃ price, result.fillPrice = some price ∧
      resolvedFillPrice intent.asDict quote.asDict = some price := by
  unfold simulatePaperFill at built
  obtain ⟨⟨blockers, warnings⟩, _, built⟩ := bind_eq_ok.mp built
  dsimp only at built
  by_cases blocked : blockers ≠ []
  · rw [if_pos blocked] at built
    cases built
    rcases filled with impossible | impossible <;> cases impossible
  rw [if_neg blocked] at built
  obtain ⟨_, _, built⟩ := bind_eq_ok.mp built
  obtain ⟨_, _, built⟩ := bind_eq_ok.mp built
  split at built
  · exact absurd filled (unfilled_of_terminal (.inl rfl) built)
  split at built
  · exact absurd filled (unfilled_of_terminal (.inr rfl) built)
  split at built
  · cases built
    rcases filled with impossible | impossible <;> cases impossible
  · rename_i price resolved
    obtain ⟨available, _, built⟩ := bind_eq_ok.mp built
    split at built
    · cases built
      rcases filled with impossible | impossible <;> cases impossible
    · exact ⟨price, price_of_fillResult built filled, resolved⟩

/-! ### Fills against the quoted side -/

/-- A fill is never better than the quoted side exactly when what is taken for a side of
zero is not better than zero. -/
theorem fills_not_better_iff {digest : String → String} {intent previousEvent quote : PyValue}
    {tsEpoch nowEpoch : Option PyFloat} {maxQuoteAgeSec : PyFloat}
    {result : PaperFillSimulationResult}
    (built : simulatePaperFill digest intent previousEvent quote tsEpoch nowEpoch maxQuoteAgeSec =
      .ok result) (filled : result.IsFilled) :
    (∃ price, result.fillPrice = some price ∧ NotBetter intent.asDict quote.asDict price) ↔
      ZeroSideKept intent.asDict quote.asDict := by
  obtain ⟨price, own, resolved⟩ := resolved_of_filled built filled
  obtain ⟨bought, sold⟩ := executable_of_resolved resolved
  constructor
  · rintro ⟨other, same, notBetter⟩
    rw [own] at same
    cases same
    constructor
    · intro buys zero taken instead
      have executable := executable_of_side zero (bought buys)
      rw [if_pos rfl, instead] at executable
      rw [Option.some.inj executable]
      exact notBetter.buy buys _ zero (by decide)
    · intro sells zero taken instead
      have executable := executable_of_side zero (sold sells)
      rw [if_pos rfl, instead] at executable
      rw [Option.some.inj executable]
      exact notBetter.sell sells _ zero (by decide)
  · intro kept
    refine ⟨price, own, ?_, ?_⟩
    · intro buys ask read number
      have executable := executable_of_side read (bought buys)
      by_cases zero : ask = .finite 0
      · rw [if_pos zero] at executable
        rw [zero] at read ⊢
        exact kept.buy buys read price executable
      · rw [if_neg zero] at executable
        rw [executable]
        exact PyFloat.le_refl number
    · intro sells bid read number
      have executable := executable_of_side read (sold sells)
      by_cases zero : bid = .finite 0
      · rw [if_pos zero] at executable
        rw [zero] at read ⊢
        exact kept.sell sells read price executable
      · rw [if_neg zero] at executable
        rw [executable]
        exact PyFloat.le_refl number

def sellOrder : PyDict :=
  [("intent_type", .str "PAPER_ORDER_INTENT"), ("paper_order_intent_id", .str "i1"),
    ("candidate_id", .str "c1"), ("transaction_type", .str "SELL"), ("order_type", .str "MARKET"),
    ("quantity", .int 10)] ++ safeFlags

def openSell : PyDict :=
  [("event_type", .str "PAPER_ORDER_LIFECYCLE_EVENT"), ("paper_order_id", .str "o1"),
    ("paper_order_intent_id", .str "i1"), ("candidate_id", .str "c1"), ("status", .str "OPEN"),
    ("filled_quantity", .int 0)] ++ safeFlags

def sold (bid last : Int) : Except PyError PaperFillSimulationResult :=
  simulatePaperFill id (.dict sellOrder) (.dict openSell)
    (.dict [("source", .str "TEST_QUOTE"), ("is_order_action", .bool false), ("bid", .int bid),
      ("last", .int last)]) none none (.finite 5)

/-- Nobody bids, and the order is sold at the last price. -/
theorem sold_without_bid :
    ∃ result, sold 0 100 = .ok result ∧ result.status = .fullFill ∧
      result.fillPrice = some (.finite 100) ∧
      ¬ NotBetter sellOrder [("source", .str "TEST_QUOTE"), ("is_order_action", .bool false),
        ("bid", .int 0), ("last", .int 100)] (.finite 100) := by
  have shown : (sold 0 100).toOption.map (fun result => (result.status, result.fillPrice)) =
      some (.fullFill, some (.finite 100)) := by decide +kernel
  obtain ⟨result, returned, same⟩ := Option.map_eq_some_iff.mp shown
  refine ⟨result, eq_ok_of_toOption returned, congrArg Prod.fst same, congrArg Prod.snd same, ?_⟩
  intro notBetter
  have better := notBetter.sell (by decide) (.finite 0) rfl (by decide)
  revert better
  decide +kernel

theorem fills_not_better_iff_bid :
    ∃ result, sold 99 100 = .ok result ∧
      ∃ price, result.fillPrice = some price ∧
        NotBetter sellOrder [("source", .str "TEST_QUOTE"), ("is_order_action", .bool false),
          ("bid", .int 99), ("last", .int 100)] price := by
  have shown : (sold 99 100).toOption.map PaperFillSimulationResult.status = some .fullFill := by
    decide +kernel
  obtain ⟨result, returned, same⟩ := Option.map_eq_some_iff.mp shown
  have built := eq_ok_of_toOption returned
  refine ⟨result, built, (fills_not_better_iff built (.inl same)).mpr ?_⟩
  constructor
  · intro buys
    exact absurd buys (by decide)
  · intro _sells zero
    exact absurd zero (by decide +kernel)

end Algotradify.Paper.FillSimulation
