/-
The paper position ledger: net positions and per-order cumulative fills built
from intents and lifecycle fill events.

Prices are floats; `rounding` is the function behind `round(value, 6)` and
`digest` the sixteen hex digits of a SHA-256 digest. Both stay parameters, so
that a result names what it needs of them.

The typed position book behind a position ledger record, and the refinement
between the two.

A book holds what a ledger record built by the code can hold: positions with an
integer net quantity and cumulative fills for each order. The side is not
stored, it is a function of the net quantity. One ledger update on the record of
a book is one of three things: nothing, nothing with a reason to block, or the
record of one fill.
-/

import Algotradify.Paper.Common

namespace Algotradify.Paper.PositionLedger

open Py

inductive PaperPositionLedgerStatus where
  | positionOpened
  | positionIncreased
  | positionReduced
  | positionClosed
  | positionReversed
  | noPositionChange
  | blocked
deriving DecidableEq, Repr

structure PaperPositionLedgerResult where
  updated : Bool
  status : PaperPositionLedgerStatus
  ledger : PyDict
  position : Option PyDict := none
  deltaQuantity : Int := 0
  signedDeltaQuantity : Int := 0
  blockers : List String := []
  warnings : List String := []
  evidence : PyDict := []
deriving Repr

/-- `POSITION_FILL_STATUSES`. -/
def positionFillStatuses : List String := ["PARTIALLY_FILLED", "FILLED"]

/-! ### Ledger records -/

def buildLedger (positions orderFills : PyDict) (lastEvent : PyValue) : PyDict :=
  [("schema_version", .str "1.0"),
    ("ledger_type", .str "PAPER_POSITION_LEDGER"),
    ("positions", .dict positions),
    ("order_fills", .dict orderFills),
    ("last_event", if lastEvent.isDict then lastEvent else .none)] ++ safeFlags

def safeLedger (previousLedger : PyValue) : PyDict :=
  if previousLedger.isDict &&
      (previousLedger.asDict.get "ledger_type").isStr "PAPER_POSITION_LEDGER" then
    previousLedger.asDict
  else buildLedger [] [] .none

def stablePositionId (digest : String → String) (positionKey : String) : String :=
  "paper-position-" ++ digest positionKey

def emptyPosition (digest : String → String) (intent : PyDict) (positionKey : String) : PyDict :=
  [("position_id", .str (stablePositionId digest positionKey)),
    ("position_key", .str positionKey),
    ("candidate_id", intent.get "candidate_id"),
    ("symbol", intent.get "symbol"),
    ("tradingsymbol", intent.get "tradingsymbol"),
    ("instrument_token", intent.get "instrument_token"),
    ("strategy", intent.get "strategy"),
    ("net_quantity", .int 0),
    ("side", .str "FLAT"),
    ("average_entry_price", .none),
    ("last_fill_price", .none),
    ("last_update_epoch", .none)] ++ safeFlags

def side (netQuantity : Int) : String :=
  if netQuantity > 0 then "LONG" else if netQuantity < 0 then "SHORT" else "FLAT"

/-- `_position_key`: the first identifying field of the intent that is set. -/
def positionKey (intent : PyDict) : String :=
  match ["instrument_token", "tradingsymbol", "symbol", "candidate_id"].find?
      (fun key => !(intent.get key).isNoneOrEmpty) with
  | some key => printValue (intent.get key)
  | none => "UNKNOWN_PAPER_POSITION"

def previousOrderFillQuantity (ledger : PyDict) (paperOrderId : String) : Except PyError Int :=
  if (ledger.get "order_fills").isDict then
    intOrZero ((ledger.get "order_fills").asDict.get paperOrderId)
  else .ok 0

/-! ### One fill applied to a position -/

def nextAveragePrice (rounding : ℚ → ℚ) (previousNet : Int) (previousAvg : Option PyFloat)
    (signedDelta : Int) (fillPrice : Option PyFloat) : Option PyFloat :=
  if previousNet + signedDelta = 0 then none
  else
    match fillPrice with
    | none => previousAvg
    | some price =>
        if previousNet = 0 ∨
            (previousNet * signedDelta < 0 ∧ signedDelta.natAbs > previousNet.natAbs) then
          some price
        else if previousNet * signedDelta > 0 then
          match previousAvg with
          | none => some price
          | some average =>
              some (((average * .ofInt previousNet.natAbs + price * .ofInt signedDelta.natAbs) /
                .ofInt (previousNet.natAbs + signedDelta.natAbs)).roundWith rounding)
        else previousAvg

def applyPositionDelta (rounding : ℚ → ℚ) (previousPosition : PyDict) (signedDelta : Int)
    (fillPrice tsEpoch : Option PyFloat) : Except PyError PyDict := do
  let previousNet ← intOrZero (previousPosition.get "net_quantity")
  let previousAvg := floatOrNone (previousPosition.get "average_entry_price")
  let newNet := previousNet + signedDelta
  let newAvg := nextAveragePrice rounding previousNet previousAvg signedDelta fillPrice
  pure (previousPosition.update
    ([("net_quantity", .int newNet),
      ("side", .str (side newNet)),
      ("average_entry_price", ofOptionFloat newAvg),
      ("last_fill_price", ofOptionFloat fillPrice),
      ("last_update_epoch", ofOptionFloat tsEpoch)] ++ safeFlags))

def positionStatus (previousNet newNet signedDelta : Int) : PaperPositionLedgerStatus :=
  if previousNet = 0 ∧ newNet ≠ 0 then .positionOpened
  else if newNet = 0 then .positionClosed
  else if previousNet * newNet < 0 then .positionReversed
  else if newNet.natAbs > previousNet.natAbs then .positionIncreased
  else if signedDelta ≠ 0 ∧ newNet.natAbs < previousNet.natAbs then .positionReduced
  else .noPositionChange

/-! ### Validation -/

/-- The checks on the intent, which the realized ledger makes without the quantity. -/
def intentBlockers (intent : PyDict) : Except PyError (List String) :=
  if intent.isEmpty then .ok ["PAPER_INTENT_REQUIRED"]
  else do
    let quantity ← intOrZero (intent.get "quantity")
    pure (blockerIf (!(intent.get "intent_type").isStr "PAPER_ORDER_INTENT")
        "PAPER_INTENT_TYPE_REQUIRED" ++
      validateSafeFlags intent "PAPER_INTENT" ++
      blockerIf (decide (quantity ≤ 0)) "PAPER_ORDER_QUANTITY_REQUIRED" ++
      blockerIf (!(["BUY", "SELL"].contains (upperText (intent.get "transaction_type"))))
        "PAPER_TRANSACTION_TYPE_REQUIRED")

def lifecycleEventBlockers (event : PyDict) : Except PyError (List String) :=
  if event.isEmpty then .ok ["PAPER_ORDER_LIFECYCLE_EVENT_REQUIRED"]
  else do
    let filledQuantity ← intOrZero (event.get "filled_quantity")
    pure (blockerIf (!(event.get "event_type").isStr "PAPER_ORDER_LIFECYCLE_EVENT")
        "PAPER_ORDER_LIFECYCLE_EVENT_TYPE_REQUIRED" ++
      validateSafeFlags event "PAPER_ORDER_LIFECYCLE" ++
      blockerIf (event.get "paper_order_id").isNoneOrEmpty "PAPER_ORDER_ID_REQUIRED" ++
      blockerIf (decide (filledQuantity < 0)) "PAPER_FILLED_QUANTITY_INVALID")

def positionLedgerBlockers (ledger : PyDict) (textPrefix : String) : List String :=
  blockerIf (!(ledger.get "ledger_type").isStr "PAPER_POSITION_LEDGER")
      (textPrefix ++ "_TYPE_REQUIRED") ++
    validateSafeFlags ledger textPrefix ++
    blockerIf (!(ledger.get "positions").isDict) (textPrefix ++ "_POSITIONS_INVALID") ++
    blockerIf (!(ledger.get "order_fills").isDict) (textPrefix ++ "_ORDER_FILLS_INVALID")

def validatePaperPositionLedgerInputs (intent lifecycleEvent previousLedger : PyValue) :
    Except PyError (List String × List String) := do
  let ofIntent ← intentBlockers intent.asDict
  let ofEvent ← lifecycleEventBlockers lifecycleEvent.asDict
  let ledger := previousLedger.asDict
  let ofLedger := if ledger.isEmpty then [] else positionLedgerBlockers ledger "PAPER_POSITION_LEDGER"
  let warnings := blockerIf (ledger.isEmpty && previousLedger.isNone)
    "PAPER_POSITION_LEDGER_STARTING_EMPTY"
  pure (dedupe (ofIntent ++ ofEvent ++ mismatchBlockers intent.asDict lifecycleEvent.asDict ++
    ofLedger), dedupe warnings)

def ledgerEvidence (intent lifecycleEvent previousLedger : PyValue) : PyDict :=
  [("paper_order_intent_id", intent.asDict.get "paper_order_intent_id"),
    ("paper_order_id", lifecycleEvent.asDict.get "paper_order_id"),
    ("candidate_id", intent.asDict.get "candidate_id"),
    ("event_status", lifecycleEvent.asDict.get "status"),
    ("event_filled_quantity", lifecycleEvent.asDict.get "filled_quantity"),
    ("previous_position_count", dictCount (previousLedger.asDict.get "positions")),
    ("previous_order_fill_count", dictCount (previousLedger.asDict.get "order_fills"))] ++ safeFlags

/-! ### The ledger update -/

/-- The update for an accepted fill that adds a positive quantity to its order. -/
def applyFill (rounding : ℚ → ℚ) (digest : String → String) (intent event previous : PyDict)
    (tsEpoch : Option PyFloat) (cumulative previousFilled : Int) (warnings : List String)
    (evidence : PyDict) : Except PyError PaperPositionLedgerResult := do
  let delta := cumulative - previousFilled
  let signedDelta :=
    if upperText (intent.get "transaction_type") = "BUY" then delta else -delta
  let key := positionKey intent
  let positions ← toDict ((previous.get "positions").or (.dict []))
  let previousPosition ← toDict ((positions.get key).or (.dict (emptyPosition digest intent key)))
  let position ← applyPositionDelta rounding previousPosition signedDelta
    (floatOrNone (event.get "average_fill_price"))
    (tsEpoch.orElse fun _ => floatOrNone (event.get "ts_epoch"))
  let orderFills ← toDict ((previous.get "order_fills").or (.dict []))
  let previousNet ← intOrZero (previousPosition.get "net_quantity")
  pure
    { updated := true
      status := positionStatus previousNet (previousNet + signedDelta) signedDelta
      ledger := buildLedger (positions.set key (.dict position))
        (orderFills.set (printValue (event.get "paper_order_id")) (.int cumulative)) (.dict event)
      position := some position
      deltaQuantity := delta
      signedDeltaQuantity := signedDelta
      warnings := warnings
      evidence := evidence }

def buildPaperPositionLedger (rounding : ℚ → ℚ) (digest : String → String)
    (intent lifecycleEvent previousLedger : PyValue) (tsEpoch : Option PyFloat) :
    Except PyError PaperPositionLedgerResult := do
  let (blockers, warnings) ←
    validatePaperPositionLedgerInputs intent lifecycleEvent previousLedger
  let evidence := ledgerEvidence intent lifecycleEvent previousLedger
  let safePrevious := safeLedger previousLedger
  if blockers ≠ [] then
    pure
      { updated := false
        status := .blocked
        ledger := safePrevious
        blockers := blockers
        warnings := warnings
        evidence := evidence }
  else
    let event := lifecycleEvent.asDict
    if upperText (event.get "status") ∉ positionFillStatuses then
      pure
        { updated := false
          status := .noPositionChange
          ledger := safePrevious
          warnings := dedupe (warnings ++ ["NON_FILL_LIFECYCLE_EVENT_IGNORED"])
          evidence := evidence }
    else
      let cumulative ← intOrZero (event.get "filled_quantity")
      let previousFilled ← previousOrderFillQuantity safePrevious
        (printValue (event.get "paper_order_id"))
      let counted := evidence.set "previous_order_filled_quantity" (.int previousFilled)
      if cumulative < previousFilled then
        pure
          { updated := false
            status := .blocked
            ledger := safePrevious
            blockers := ["PAPER_FILL_CUMULATIVE_REGRESSION"]
            warnings := warnings
            evidence := counted }
      else if cumulative - previousFilled = 0 then
        pure
          { updated := false
            status := .noPositionChange
            ledger := safePrevious
            warnings := dedupe (warnings ++ ["DUPLICATE_OR_ALREADY_APPLIED_FILL_EVENT"])
            evidence := counted }
      else
        applyFill rounding digest intent.asDict event safePrevious tsEpoch cumulative previousFilled
          warnings counted

/-! ### The book -/

structure Position where
  positionId : String
  positionKey : String
  candidateId : PyValue
  symbol : PyValue
  tradingsymbol : PyValue
  instrumentToken : PyValue
  strategy : PyValue
  netQuantity : Int
  averageEntryPrice : Option PyFloat
  lastFillPrice : Option PyFloat
  lastUpdateEpoch : Option PyFloat

namespace Position

def toDict (position : Position) : PyDict :=
  [("position_id", .str position.positionId),
    ("position_key", .str position.positionKey),
    ("candidate_id", position.candidateId),
    ("symbol", position.symbol),
    ("tradingsymbol", position.tradingsymbol),
    ("instrument_token", position.instrumentToken),
    ("strategy", position.strategy),
    ("net_quantity", .int position.netQuantity),
    ("side", .str (side position.netQuantity)),
    ("average_entry_price", ofOptionFloat position.averageEntryPrice),
    ("last_fill_price", ofOptionFloat position.lastFillPrice),
    ("last_update_epoch", ofOptionFloat position.lastUpdateEpoch)] ++ safeFlags

def empty (digest : String → String) (intent : PyDict) (key : String) : Position :=
  { positionId := stablePositionId digest key
    positionKey := key
    candidateId := intent.get "candidate_id"
    symbol := intent.get "symbol"
    tradingsymbol := intent.get "tradingsymbol"
    instrumentToken := intent.get "instrument_token"
    strategy := intent.get "strategy"
    netQuantity := 0
    averageEntryPrice := none
    lastFillPrice := none
    lastUpdateEpoch := none }

def applyDelta (rounding : ℚ → ℚ) (position : Position) (signedDelta : Int)
    (fillPrice tsEpoch : Option PyFloat) : Position :=
  { position with
    netQuantity := position.netQuantity + signedDelta
    averageEntryPrice := nextAveragePrice rounding position.netQuantity
      position.averageEntryPrice signedDelta fillPrice
    lastFillPrice := fillPrice
    lastUpdateEpoch := tsEpoch }

@[simp] theorem toDict_get_netQuantity (position : Position) :
    position.toDict.get "net_quantity" = .int position.netQuantity := rfl

@[simp] theorem toDict_get_side (position : Position) :
    position.toDict.get "side" = .str (side position.netQuantity) := rfl

@[simp] theorem toDict_get_averageEntryPrice (position : Position) :
    position.toDict.get "average_entry_price" = ofOptionFloat position.averageEntryPrice := rfl

@[simp] theorem empty_toDict (digest : String → String) (intent : PyDict) (key : String) :
    (empty digest intent key).toDict = emptyPosition digest intent key := rfl

theorem applyPositionDelta_toDict (rounding : ℚ → ℚ) (position : Position) (signedDelta : Int)
    (fillPrice tsEpoch : Option PyFloat) :
    applyPositionDelta rounding position.toDict signedDelta fillPrice tsEpoch =
      .ok (position.applyDelta rounding signedDelta fillPrice tsEpoch).toDict := by
  unfold applyPositionDelta
  rw [toDict_get_netQuantity, toDict_get_averageEntryPrice, intOrZero_int, floatOrNone_ofOptionFloat]
  rfl

end Position

structure Book where
  positions : List (String × Position) := []
  orderFills : List (String × Int) := []
  lastEvent : PyValue := .none

namespace Book

def positionEntries (book : Book) : PyDict :=
  Assoc.mapValues (fun position => PyValue.dict position.toDict) book.positions

def fillEntries (book : Book) : PyDict :=
  Assoc.mapValues PyValue.int book.orderFills

def toDict (book : Book) : PyDict :=
  buildLedger book.positionEntries book.fillEntries book.lastEvent

def filled (book : Book) (paperOrderId : String) : Int :=
  (book.orderFills.lookup paperOrderId).getD 0

def net (book : Book) (key : String) : Int :=
  ((book.positions.lookup key).map Position.netQuantity).getD 0

def average (book : Book) (key : String) : Option PyFloat :=
  (book.positions.lookup key).bind Position.averageEntryPrice

/-- The stored position of a key, or the flat one a first fill starts from. -/
def positionOf (book : Book) (digest : String → String) (intent : PyDict) : Position :=
  (book.positions.lookup (positionKey intent)).getD
    (Position.empty digest intent (positionKey intent))

def signed (intent : PyDict) (quantity : Int) : Int :=
  if upperText (intent.get "transaction_type") = "BUY" then quantity else -quantity

/-- The book after a fill event has brought its order to `cumulative`. -/
def record (rounding : ℚ → ℚ) (digest : String → String) (intent event : PyDict)
    (tsEpoch : Option PyFloat) (cumulative : Int) (book : Book) : Book :=
  let orderId := printValue (event.get "paper_order_id")
  { positions := Assoc.set book.positions (positionKey intent)
      ((book.positionOf digest intent).applyDelta rounding
        (signed intent (cumulative - book.filled orderId))
        (floatOrNone (event.get "average_fill_price"))
        (tsEpoch.orElse fun _ => floatOrNone (event.get "ts_epoch")))
    orderFills := Assoc.set book.orderFills orderId cumulative
    lastEvent := .dict event }

@[simp] theorem toDict_get_positions (book : Book) :
    book.toDict.get "positions" = .dict book.positionEntries := rfl

@[simp] theorem toDict_get_orderFills (book : Book) :
    book.toDict.get "order_fills" = .dict book.fillEntries := rfl

theorem empty_toDict : ({} : Book).toDict = buildLedger [] [] .none := rfl

theorem safeLedger_toDict (book : Book) : safeLedger (.dict book.toDict) = book.toDict := rfl

theorem previousOrderFillQuantity_toDict (book : Book) (orderId : String) :
    previousOrderFillQuantity book.toDict orderId = .ok (book.filled orderId) := by
  unfold previousOrderFillQuantity
  rw [toDict_get_orderFills, PyValue.asDict_dict, if_pos (PyValue.isDict_dict _), filled]
  simp only [PyDict.get, fillEntries, Assoc.lookup_mapValues]
  cases book.orderFills.lookup orderId with
  | none => rfl
  | some quantity => rfl

theorem toDict_or_empty (entries : PyDict) :
    Py.toDict ((PyValue.dict entries).or (.dict [])) = .ok entries := by
  cases entries <;> rfl

private theorem positionEntries_get (book : Book) (digest : String → String) (intent : PyDict) :
    Py.toDict ((book.positionEntries.get (positionKey intent)).or
      (.dict (emptyPosition digest intent (positionKey intent)))) =
        .ok (book.positionOf digest intent).toDict := by
  simp only [PyDict.get, positionEntries, Assoc.lookup_mapValues, positionOf]
  cases book.positions.lookup (positionKey intent) with
  | none => rfl
  | some position => rfl

theorem positionOf_netQuantity (book : Book) (digest : String → String) (intent : PyDict) :
    (book.positionOf digest intent).netQuantity = book.net (positionKey intent) := by
  unfold positionOf net
  cases book.positions.lookup (positionKey intent) <;> rfl

theorem positionOf_averageEntryPrice (book : Book) (digest : String → String) (intent : PyDict) :
    (book.positionOf digest intent).averageEntryPrice = book.average (positionKey intent) := by
  unfold positionOf average
  cases book.positions.lookup (positionKey intent) <;> rfl

section Record

variable (rounding : ℚ → ℚ) (digest : String → String) (intent event : PyDict)
variable (tsEpoch : Option PyFloat) (cumulative : Int) (book : Book)

theorem filled_record (orderId : String) :
    (book.record rounding digest intent event tsEpoch cumulative).filled orderId =
      if orderId = printValue (event.get "paper_order_id") then cumulative
      else book.filled orderId := by
  simp only [filled, record, Assoc.lookup_set]
  split <;> rfl

theorem net_record (key : String) :
    (book.record rounding digest intent event tsEpoch cumulative).net key =
      if key = positionKey intent then
        book.net key +
          signed intent (cumulative - book.filled (printValue (event.get "paper_order_id")))
      else book.net key := by
  by_cases same : key = positionKey intent
  · rw [if_pos same, same, ← positionOf_netQuantity book digest intent]
    simp only [net, record, Assoc.lookup_set_self, Option.map_some, Option.getD_some,
      Position.applyDelta]
  · rw [if_neg same]
    simp only [net, record, Assoc.lookup_set_of_ne _ _ same]

theorem average_record (key : String) :
    (book.record rounding digest intent event tsEpoch cumulative).average key =
      if key = positionKey intent then
        nextAveragePrice rounding (book.net key) (book.average key)
          (signed intent (cumulative - book.filled (printValue (event.get "paper_order_id"))))
          (floatOrNone (event.get "average_fill_price"))
      else book.average key := by
  by_cases same : key = positionKey intent
  · rw [if_pos same, same, ← positionOf_netQuantity book digest intent,
      ← positionOf_averageEntryPrice book digest intent]
    simp only [average, record, Assoc.lookup_set_self, Option.bind_some, Position.applyDelta]
  · rw [if_neg same]
    simp only [average, record, Assoc.lookup_set_of_ne _ _ same]

end Record

theorem applyFill_toDict (rounding : ℚ → ℚ) (digest : String → String) (intent event : PyDict)
    (book : Book) (tsEpoch : Option PyFloat) (cumulative : Int) (warnings : List String)
    (evidence : PyDict) :
    ∃ result, applyFill rounding digest intent event book.toDict tsEpoch cumulative
        (book.filled (printValue (event.get "paper_order_id"))) warnings evidence = .ok result ∧
      result.updated = true ∧
      result.ledger = (book.record rounding digest intent event tsEpoch cumulative).toDict ∧
      result.signedDeltaQuantity =
        signed intent (cumulative - book.filled (printValue (event.get "paper_order_id"))) ∧
      result.status ≠ .blocked := by
  simp only [applyFill, toDict_get_positions, toDict_get_orderFills, toDict_or_empty,
    positionEntries_get, Position.applyPositionDelta_toDict, Position.toDict_get_netQuantity,
    intOrZero_int, Except.bind, bind, pure, Except.pure, Except.ok.injEq, exists_eq_left', true_and]
  refine ⟨?_, rfl, ?_⟩
  · simp only [toDict, record, positionEntries, fillEntries, Assoc.mapValues_set]
    rfl
  · unfold positionStatus
    repeat' split
    all_goals intro impossible; cases impossible

end Book

section Update

variable (rounding : ℚ → ℚ) (digest : String → String)
variable (intent lifecycleEvent previousLedger : PyValue) (tsEpoch : Option PyFloat)

/-- The cumulative quantity the book already holds for the order of an event. -/
def Book.filledBefore (book : Book) (lifecycleEvent : PyValue) : Int :=
  book.filled (printValue (lifecycleEvent.asDict.get "paper_order_id"))

inductive UpdateOutcome (book : Book) (result : PaperPositionLedgerResult) : Prop where
  | invalid (blockers warnings : List String)
      (validated : validatePaperPositionLedgerInputs intent lifecycleEvent previousLedger =
        .ok (blockers, warnings)) (blocked : blockers ≠ [])
      (status : result.status = .blocked) (updated : result.updated = false)
      (ledger : result.ledger = book.toDict)
  | notFill (ignored : upperText (lifecycleEvent.asDict.get "status") ∉ positionFillStatuses)
      (status : result.status = .noPositionChange) (updated : result.updated = false)
      (ledger : result.ledger = book.toDict)
  | stale (cumulative : Int)
      (isFill : upperText (lifecycleEvent.asDict.get "status") ∈ positionFillStatuses)
      (read : intOrZero (lifecycleEvent.asDict.get "filled_quantity") = .ok cumulative)
      (covered : cumulative ≤ book.filledBefore lifecycleEvent)
      (status : result.status =
        if cumulative < book.filledBefore lifecycleEvent then .blocked else .noPositionChange)
      (updated : result.updated = false) (ledger : result.ledger = book.toDict)
  | filled (cumulative : Int)
      (validated : ∃ warnings, validatePaperPositionLedgerInputs intent lifecycleEvent
        previousLedger = .ok ([], warnings))
      (isFill : upperText (lifecycleEvent.asDict.get "status") ∈ positionFillStatuses)
      (read : intOrZero (lifecycleEvent.asDict.get "filled_quantity") = .ok cumulative)
      (fresh : book.filledBefore lifecycleEvent < cumulative)
      (status : result.status ≠ .blocked) (updated : result.updated = true)
      (ledger : result.ledger = (book.record rounding digest intent.asDict lifecycleEvent.asDict
        tsEpoch cumulative).toDict)
      (signedDelta : result.signedDeltaQuantity =
        Book.signed intent.asDict (cumulative - book.filledBefore lifecycleEvent))

variable {rounding digest intent lifecycleEvent previousLedger tsEpoch}

theorem buildPaperPositionLedger_outcome {book : Book} {result : PaperPositionLedgerResult}
    (represents : safeLedger previousLedger = book.toDict)
    (built : buildPaperPositionLedger rounding digest intent lifecycleEvent previousLedger
      tsEpoch = .ok result) :
    UpdateOutcome rounding digest intent lifecycleEvent previousLedger tsEpoch book result := by
  unfold buildPaperPositionLedger at built
  rw [represents] at built
  obtain ⟨⟨blockers, warnings⟩, validated, built⟩ := bind_eq_ok.mp built
  dsimp only at built
  by_cases blocked : blockers ≠ []
  · rw [if_pos blocked] at built
    cases built
    exact .invalid blockers warnings validated blocked rfl rfl rfl
  rw [if_neg blocked] at built
  by_cases ignored : upperText (lifecycleEvent.asDict.get "status") ∉ positionFillStatuses
  · rw [if_pos ignored] at built
    cases built
    exact .notFill ignored rfl rfl rfl
  rw [if_neg ignored] at built
  have isFill := not_not.mp ignored
  obtain ⟨cumulative, read, built⟩ := bind_eq_ok.mp built
  rw [Book.previousOrderFillQuantity_toDict] at built
  change (if cumulative < book.filledBefore lifecycleEvent then _
    else if cumulative - book.filledBefore lifecycleEvent = 0 then _ else _) = _ at built
  by_cases regressed : cumulative < book.filledBefore lifecycleEvent
  · rw [if_pos regressed] at built
    cases built
    exact .stale cumulative isFill read (le_of_lt regressed) (if_pos regressed).symm rfl rfl
  rw [if_neg regressed] at built
  by_cases repeated : cumulative - book.filledBefore lifecycleEvent = 0
  · rw [if_pos repeated] at built
    cases built
    exact .stale cumulative isFill read (by omega) (if_neg regressed).symm rfl rfl
  · rw [if_neg repeated] at built
    obtain ⟨applied, same, updated, ledger, signedDelta, status⟩ :=
      Book.applyFill_toDict rounding digest intent.asDict lifecycleEvent.asDict book tsEpoch
        cumulative warnings _
    have identified := same.symm.trans built
    cases identified
    rw [not_not.mp blocked] at validated
    exact .filled cumulative ⟨warnings, validated⟩ isFill read (by omega) status updated ledger
      signedDelta

end Update

end Algotradify.Paper.PositionLedger
