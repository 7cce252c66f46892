/-
The realized P&L ledger: what a fill closes of the position held before it, at
the average entry price of that position.

The typed realized book behind a realized ledger record, and the refinement
between the two.

An entry carries the proof that its event stores the quantity and the gain the
ledger sums up, so the summary of a record is a function of the book. One update
keeps the book, adds a fill key, or adds an entry with its key.
-/

import Algotradify.Paper.PositionLedger

namespace Algotradify.Paper.RealizedPnl

open Py PositionLedger

inductive PaperRealizedPnlStatus where
  | realized
  | noRealizedChange
  | empty
  | blocked
deriving DecidableEq, Repr

structure PaperRealizedPnlResult where
  updated : Bool
  status : PaperRealizedPnlStatus
  ledger : PyDict
  event : Option PyDict := none
  realizedQuantity : Int := 0
  realizedPnl : PyFloat := .finite 0
  blockers : List String := []
  warnings : List String := []
  evidence : PyDict := []
deriving Repr

/-- `FILL_EVENT_STATUSES`. -/
def fillEventStatuses : List String := ["PARTIALLY_FILLED", "FILLED"]

/-! ### Ledger records -/

/-- `_float_or_none(value) or 0.0`. -/
def floatOrZero (value : PyValue) : PyFloat :=
  match floatOrNone value with
  | some number => if number.truthy then number else .finite 0
  | none => .finite 0

def sumFloats (values : List PyFloat) : PyFloat :=
  values.foldl (· + ·) (.finite 0)

/-- `round(sum(values), 6)`: the sum of no values is the integer zero. -/
def roundedSum (rounding : ℚ → ℚ) : List PyFloat → PyValue
  | [] => .int 0
  | values => .float ((sumFloats values).roundWith rounding)

def eventPnl (event : PyDict) : PyFloat :=
  floatOrZero (event.get "realized_pnl")

def summary (rounding : ℚ → ℚ) (events : List PyDict) : Except PyError PyDict := do
  let quantities ← events.mapM fun event => intOrZero (event.get "realized_quantity")
  let pnls := events.map eventPnl
  pure ([("event_count", .int events.length),
    ("winning_event_count", .int (pnls.filter (PyFloat.lt (.finite 0))).length),
    ("losing_event_count", .int (pnls.filter (PyFloat.lt · (.finite 0))).length),
    ("flat_event_count", .int (pnls.filter (PyFloat.eq · (.finite 0))).length),
    ("total_realized_pnl", roundedSum rounding pnls),
    ("total_realized_quantity", .int quantities.sum)] ++ safeFlags)

def buildRealizedLedger (rounding : ℚ → ℚ) (events : List PyDict) (appliedFillKeys : List PyValue) :
    Except PyError PyDict := do
  let summarized ← summary rounding events
  pure ([("schema_version", .str "1.0"),
    ("ledger_type", .str "PAPER_REALIZED_PNL_LEDGER"),
    ("events", .list (events.map PyValue.dict)),
    ("applied_fill_keys", .list appliedFillKeys),
    ("summary", .dict summarized)] ++ safeFlags)

def safeRealizedLedger (rounding : ℚ → ℚ) (previousRealizedLedger : PyValue) :
    Except PyError PyDict :=
  if previousRealizedLedger.isDict &&
      (previousRealizedLedger.asDict.get "ledger_type").isStr "PAPER_REALIZED_PNL_LEDGER" then
    .ok previousRealizedLedger.asDict
  else buildRealizedLedger rounding [] []

/-- `list(value or [])` of a list; nothing else that is set is iterated here. -/
def listOrEmpty (value : PyValue) : Except PyError (List PyValue) :=
  match value.or (.list []) with
  | .list items => .ok items
  | _ => .error (.typeError "object is not iterable")

def isStrIn (items : List PyValue) (text : String) : Bool :=
  items.any fun item => item.isStr text

/-- `_append_fill_key` and `_append_realized_event`: the events of the ledger
with the new ones, and the key once. -/
def appendToLedger (rounding : ℚ → ℚ) (ledger : PyDict) (newEvents : List PyDict)
    (fillKey : String) : Except PyError PyDict := do
  let items ← listOrEmpty (ledger.get "events")
  let events ← items.mapM toDict
  let keys ← listOrEmpty (ledger.get "applied_fill_keys")
  buildRealizedLedger rounding (events ++ newEvents)
    (if isStrIn keys fillKey then keys else keys ++ [.str fillKey])

def appendFillKey (rounding : ℚ → ℚ) (ledger : PyDict) (fillKey : String) : Except PyError PyDict :=
  appendToLedger rounding ledger [] fillKey

def appendRealizedEvent (rounding : ℚ → ℚ) (ledger realizedEvent : PyDict) (fillKey : String) :
    Except PyError PyDict :=
  appendToLedger rounding ledger [realizedEvent] fillKey

/-! ### One realization -/

def fillKey (paperOrderId : String) (cumulativeFilledQuantity : Int) : String :=
  paperOrderId ++ ":" ++ printInt cumulativeFilledQuantity

def previousPosition (ledger : PyDict) (key : String) : PyDict :=
  ((ledger.get "positions").asDict.get key).asDict

def realizedQuantity (previousNet signedDelta : Int) : Int :=
  if previousNet = 0 ∨ signedDelta = 0 then 0
  else if previousNet * signedDelta ≥ 0 then 0
  else min previousNet.natAbs signedDelta.natAbs

def realizedPnl (rounding : ℚ → ℚ) (previousNet realizedQuantity : Int)
    (averageEntryPrice exitPrice : PyFloat) : PyFloat :=
  if previousNet > 0 then
    ((exitPrice - averageEntryPrice) * .ofInt realizedQuantity).roundWith rounding
  else if previousNet < 0 then
    ((averageEntryPrice - exitPrice) * .ofInt realizedQuantity).roundWith rounding
  else .finite 0

def realizedEvent (digest : String → String) (intent lifecycleEvent position : PyDict)
    (key : String) (previousNet signedDelta quantity : Int)
    (averageEntryPrice exitPrice pnl : PyFloat) (tsEpoch : Option PyFloat) : PyDict :=
  let seed := String.intercalate "|"
    [key, printInt previousNet, printInt signedDelta, printInt quantity]
  [("schema_version", .str "1.0"),
    ("event_type", .str "PAPER_REALIZED_PNL_EVENT"),
    ("realized_event_id", .str ("paper-realized-" ++ digest seed)),
    ("fill_key", .str key),
    ("paper_order_id", lifecycleEvent.get "paper_order_id"),
    ("paper_order_intent_id", lifecycleEvent.get "paper_order_intent_id"),
    ("candidate_id", lifecycleEvent.get "candidate_id"),
    ("position_key", position.get "position_key"),
    ("symbol", position.get "symbol"),
    ("tradingsymbol", position.get "tradingsymbol"),
    ("instrument_token", position.get "instrument_token"),
    ("strategy", position.get "strategy"),
    ("transaction_type", intent.get "transaction_type"),
    ("previous_net_quantity", .int previousNet),
    ("signed_delta_quantity", .int signedDelta),
    ("realized_quantity", .int quantity),
    ("average_entry_price", .float averageEntryPrice),
    ("exit_price", .float exitPrice),
    ("realized_pnl", .float pnl),
    ("ts_epoch", ofOptionFloat tsEpoch)] ++ safeFlags

/-! ### Validation -/

def realizedIntentBlockers (intent : PyDict) : List String :=
  if intent.isEmpty then ["PAPER_INTENT_REQUIRED"]
  else
    blockerIf (!(intent.get "intent_type").isStr "PAPER_ORDER_INTENT")
        "PAPER_INTENT_TYPE_REQUIRED" ++
      validateSafeFlags intent "PAPER_INTENT" ++
      blockerIf (!(["BUY", "SELL"].contains (upperText (intent.get "transaction_type"))))
        "PAPER_TRANSACTION_TYPE_REQUIRED"

def realizedLedgerBlockers (ledger : PyDict) : List String :=
  blockerIf (!(ledger.get "ledger_type").isStr "PAPER_REALIZED_PNL_LEDGER")
      "PAPER_REALIZED_PNL_LEDGER_TYPE_REQUIRED" ++
    validateSafeFlags ledger "PAPER_REALIZED_PNL_LEDGER" ++
    blockerIf (!(ledger.get "events").isList) "PAPER_REALIZED_PNL_EVENTS_INVALID" ++
    blockerIf (!(ledger.get "applied_fill_keys").isList) "PAPER_REALIZED_PNL_APPLIED_KEYS_INVALID"

def validatePaperRealizedPnlInputs
    (previousPositionLedger intent lifecycleEvent previousRealizedLedger : PyValue) :
    Except PyError (List String × List String) := do
  let positionLedger := previousPositionLedger.asDict
  let ofPositions :=
    if positionLedger.isEmpty then ["PREVIOUS_PAPER_POSITION_LEDGER_REQUIRED"]
    else positionLedgerBlockers positionLedger "PREVIOUS_PAPER_POSITION_LEDGER"
  let ofEvent ← lifecycleEventBlockers lifecycleEvent.asDict
  let realizedLedger := previousRealizedLedger.asDict
  let ofRealized := if realizedLedger.isEmpty then [] else realizedLedgerBlockers realizedLedger
  let warnings := blockerIf (realizedLedger.isEmpty && previousRealizedLedger.isNone)
    "PAPER_REALIZED_PNL_LEDGER_STARTING_EMPTY"
  pure (dedupe (ofPositions ++ realizedIntentBlockers intent.asDict ++ ofEvent ++
    mismatchBlockers intent.asDict lifecycleEvent.asDict ++ ofRealized), dedupe warnings)

def listCount : PyValue → PyValue
  | .list items => .int items.length
  | _ => .int 0

def realizedEvidence
    (previousPositionLedger intent lifecycleEvent previousRealizedLedger : PyValue) : PyDict :=
  [("previous_position_ledger_type", previousPositionLedger.asDict.get "ledger_type"),
    ("previous_position_count", dictCount (previousPositionLedger.asDict.get "positions")),
    ("previous_realized_event_count", listCount (previousRealizedLedger.asDict.get "events")),
    ("paper_order_intent_id", intent.asDict.get "paper_order_intent_id"),
    ("paper_order_id", lifecycleEvent.asDict.get "paper_order_id"),
    ("candidate_id", intent.asDict.get "candidate_id"),
    ("event_status", lifecycleEvent.asDict.get "status"),
    ("event_filled_quantity", lifecycleEvent.asDict.get "filled_quantity"),
    ("realized_pnl_only", .bool true)] ++ safeFlags

/-! ### The ledger update -/

/-- The update for a fill that is new to its order: key and quantity checks,
then the prices. -/
def realizeFill (rounding : ℚ → ℚ) (digest : String → String)
    (intent event positionLedger safeLedger : PyDict) (tsEpoch : Option PyFloat)
    (cumulative previousFilled : Int) (warnings : List String) (evidence : PyDict) :
    Except PyError PaperRealizedPnlResult := do
  let key := fillKey (printValue (event.get "paper_order_id")) cumulative
  let appliedKeys ← listOrEmpty (safeLedger.get "applied_fill_keys")
  if appliedKeys.any (fun item => item.isList || item.isDict) then
    .error (.typeError "unhashable type")
  else if isStrIn appliedKeys key then
    pure
      { updated := false
        status := .noRealizedChange
        ledger := safeLedger
        warnings := dedupe (warnings ++ ["DUPLICATE_REALIZED_PNL_FILL_KEY"])
        evidence := evidence.set "fill_key" (.str key) }
  else
    let position := previousPosition positionLedger (positionKey intent)
    let previousNet ← intOrZero (position.get "net_quantity")
    let delta := cumulative - previousFilled
    let signedDelta :=
      if upperText (intent.get "transaction_type") = "BUY" then delta else -delta
    let quantity := realizedQuantity previousNet signedDelta
    let keyed := (evidence.set "fill_key" (.str key)).set "previous_order_filled_quantity"
      (.int previousFilled)
    if quantity ≤ 0 then
      let ledger ← appendFillKey rounding safeLedger key
      pure
        { updated := false
          status := .noRealizedChange
          ledger := ledger
          warnings := dedupe (warnings ++ ["FILL_DID_NOT_REDUCE_EXISTING_POSITION"])
          evidence := keyed }
    else
      match floatOrNone (position.get "average_entry_price"),
          floatOrNone (event.get "average_fill_price") with
      | some averageEntryPrice, some exitPrice =>
          let pnl := realizedPnl rounding previousNet quantity averageEntryPrice exitPrice
          let realized := realizedEvent digest intent event position key previousNet signedDelta
            quantity averageEntryPrice exitPrice pnl
            (tsEpoch.orElse fun _ => floatOrNone (event.get "ts_epoch"))
          let ledger ← appendRealizedEvent rounding safeLedger realized key
          pure
            { updated := true
              status := .realized
              ledger := ledger
              event := some realized
              realizedQuantity := quantity
              realizedPnl := pnl
              warnings := warnings
              evidence := keyed }
      | _, _ =>
          pure
            { updated := false
              status := .blocked
              ledger := safeLedger
              blockers := ["REALIZED_PNL_PRICE_INPUT_REQUIRED"]
              warnings := warnings
              evidence := keyed }

def buildPaperRealizedPnl (rounding : ℚ → ℚ) (digest : String → String)
    (previousPositionLedger intent lifecycleEvent previousRealizedLedger : PyValue)
    (tsEpoch : Option PyFloat) : Except PyError PaperRealizedPnlResult := do
  let (blockers, warnings) ← validatePaperRealizedPnlInputs previousPositionLedger intent
    lifecycleEvent previousRealizedLedger
  let safeLedger ← safeRealizedLedger rounding previousRealizedLedger
  let evidence := realizedEvidence previousPositionLedger intent lifecycleEvent
    previousRealizedLedger
  let event := lifecycleEvent.asDict
  if blockers ≠ [] then
    pure
      { updated := false
        status := .blocked
        ledger := safeLedger
        blockers := blockers
        warnings := warnings
        evidence := evidence }
  else if upperText (event.get "status") ∉ fillEventStatuses then
    pure
      { updated := false
        status := .noRealizedChange
        ledger := safeLedger
        warnings := dedupe (warnings ++ ["NON_FILL_LIFECYCLE_EVENT_IGNORED"])
        evidence := evidence }
  else
    let cumulative ← intOrZero (event.get "filled_quantity")
    let previousFilled ← previousOrderFillQuantity previousPositionLedger.asDict
      (printValue (event.get "paper_order_id"))
    let counted := evidence.set "previous_order_filled_quantity" (.int previousFilled)
    if cumulative < previousFilled then
      pure
        { updated := false
          status := .blocked
          ledger := safeLedger
          blockers := ["PAPER_FILL_CUMULATIVE_REGRESSION"]
          warnings := warnings
          evidence := counted }
    else if cumulative - previousFilled = 0 then
      pure
        { updated := false
          status := .noRealizedChange
          ledger := safeLedger
          warnings := dedupe (warnings ++ ["DUPLICATE_OR_ALREADY_APPLIED_FILL_EVENT"])
          evidence := counted }
    else
      realizeFill rounding digest intent.asDict event previousPositionLedger.asDict safeLedger
        tsEpoch cumulative previousFilled warnings evidence

/-! ### The book -/

structure RealizedEntry where
  event : PyDict
  quantity : Int
  pnl : PyFloat
  storesQuantity : event.get "realized_quantity" = .int quantity
  storesPnl : event.get "realized_pnl" = .float pnl

def realizedEntry (digest : String → String) (intent lifecycleEvent position : PyDict)
    (key : String) (previousNet signedDelta quantity : Int)
    (averageEntryPrice exitPrice pnl : PyFloat) (tsEpoch : Option PyFloat) : RealizedEntry :=
  { event := realizedEvent digest intent lifecycleEvent position key previousNet signedDelta
      quantity averageEntryPrice exitPrice pnl tsEpoch
    quantity := quantity
    pnl := pnl
    storesQuantity := rfl
    storesPnl := rfl }

structure RealizedBook where
  entries : List RealizedEntry := []
  fillKeys : List String := []

theorem floatOrZero_float (value : PyFloat) : floatOrZero (.float value) = value := by
  unfold floatOrZero
  rw [floatOrNone_float]
  dsimp only
  cases value with
  | finite value =>
      by_cases zero : value = 0
      · subst value
        rfl
      · exact if_pos (decide_eq_true zero)
  | nan => rfl
  | posInf => rfl
  | negInf => rfl

theorem sumFloats_append_singleton (values : List PyFloat) (last : PyFloat) :
    sumFloats (values ++ [last]) = sumFloats values + last := by
  unfold sumFloats
  rw [List.foldl_append, List.foldl_cons, List.foldl_nil]

theorem floatOrNone_roundedSum (rounding : ℚ → ℚ) (fixed : rounding 0 = 0)
    (values : List PyFloat) :
    floatOrNone (roundedSum rounding values) = some ((sumFloats values).roundWith rounding) := by
  cases values with
  | nil =>
      change some (PyFloat.finite ((0 : ℤ) : ℚ)) = some (.finite (rounding 0))
      rw [fixed, Int.cast_zero]
  | cons value rest => rfl

namespace RealizedBook

def pnls (book : RealizedBook) : List PyFloat :=
  book.entries.map RealizedEntry.pnl

def summary (rounding : ℚ → ℚ) (book : RealizedBook) : PyDict :=
  [("event_count", .int book.entries.length),
    ("winning_event_count", .int (book.pnls.filter (PyFloat.lt (.finite 0))).length),
    ("losing_event_count", .int (book.pnls.filter (PyFloat.lt · (.finite 0))).length),
    ("flat_event_count", .int (book.pnls.filter (PyFloat.eq · (.finite 0))).length),
    ("total_realized_pnl", roundedSum rounding book.pnls),
    ("total_realized_quantity", .int (book.entries.map RealizedEntry.quantity).sum)] ++ safeFlags

def toDict (rounding : ℚ → ℚ) (book : RealizedBook) : PyDict :=
  [("schema_version", .str "1.0"),
    ("ledger_type", .str "PAPER_REALIZED_PNL_LEDGER"),
    ("events", .list (book.entries.map fun entry => .dict entry.event)),
    ("applied_fill_keys", .list (book.fillKeys.map PyValue.str)),
    ("summary", .dict (book.summary rounding))] ++ safeFlags

def addKey (key : String) (book : RealizedBook) : RealizedBook :=
  { book with fillKeys := if key ∈ book.fillKeys then book.fillKeys else book.fillKeys ++ [key] }

def addEntry (entry : RealizedEntry) (key : String) (book : RealizedBook) : RealizedBook :=
  { (book.addKey key) with entries := book.entries ++ [entry] }

theorem addKey_pnls (key : String) (book : RealizedBook) : (book.addKey key).pnls = book.pnls := rfl

theorem addEntry_pnls (entry : RealizedEntry) (key : String) (book : RealizedBook) :
    (book.addEntry entry key).pnls = book.pnls ++ [entry.pnl] := by
  unfold pnls addEntry
  rw [List.map_append, List.map_singleton]

theorem mem_addKey {key other : String} {book : RealizedBook}
    (member : other ∈ (book.addKey key).fillKeys) : other = key ∨ other ∈ book.fillKeys := by
  unfold addKey at member
  dsimp only at member
  split at member
  · exact .inr member
  · rcases List.mem_append.mp member with old | new
    · exact .inr old
    · exact .inl (List.mem_singleton.mp new)

private theorem mapM_intOrZero (entries : List RealizedEntry) :
    (entries.map RealizedEntry.event).mapM (fun event => intOrZero (event.get "realized_quantity")) =
      Except.ok (entries.map RealizedEntry.quantity) := by
  rw [List.mapM_map]
  apply mapM_eq_ok_map
  intro entry _
  change intOrZero (PyDict.get entry.event "realized_quantity") = .ok entry.quantity
  rw [entry.storesQuantity, intOrZero_int]

private theorem map_eventPnl (entries : List RealizedEntry) :
    (entries.map RealizedEntry.event).map eventPnl = entries.map RealizedEntry.pnl := by
  rw [List.map_map]
  apply List.map_congr_left
  intro entry _
  change floatOrZero (PyDict.get entry.event "realized_pnl") = entry.pnl
  rw [entry.storesPnl, floatOrZero_float]

theorem buildRealizedLedger_toDict (rounding : ℚ → ℚ) (book : RealizedBook) :
    buildRealizedLedger rounding (book.entries.map RealizedEntry.event)
      (book.fillKeys.map PyValue.str) = .ok (book.toDict rounding) := by
  unfold buildRealizedLedger RealizedPnl.summary
  rw [mapM_intOrZero, map_eventPnl]
  simp only [bind, Except.bind, pure, Except.pure, toDict, summary, pnls, List.map_map,
    Function.comp_def, List.length_map]

theorem safeRealizedLedger_toDict (rounding : ℚ → ℚ) (book : RealizedBook) :
    safeRealizedLedger rounding (.dict (book.toDict rounding)) = .ok (book.toDict rounding) := rfl

theorem empty_toDict (rounding : ℚ → ℚ) :
    buildRealizedLedger rounding [] [] = .ok (({} : RealizedBook).toDict rounding) := rfl

theorem isStrIn_map_str (keys : List String) (key : String) :
    isStrIn (keys.map PyValue.str) key = decide (key ∈ keys) := by
  induction keys with
  | nil => rfl
  | cons head rest ih =>
      have tail : (rest.map PyValue.str).any (fun item => item.isStr key) = decide (key ∈ rest) := ih
      rw [List.map_cons, isStrIn, List.any_cons, tail]
      by_cases same : head = key
      · subst head
        simp only [PyValue.isStr, decide_true, Bool.true_or, List.mem_cons, true_or]
      · have apart : ¬key = head := fun equal => same equal.symm
        simp only [PyValue.isStr, same, decide_false, Bool.false_or, List.mem_cons, apart,
          false_or]

theorem listOrEmpty_list (items : List PyValue) : listOrEmpty (.list items) = .ok items := by
  cases items <;> rfl

theorem keys_hashable (book : RealizedBook) :
    (book.fillKeys.map PyValue.str).any (fun item => item.isList || item.isDict) = false := by
  rw [List.any_eq_false]
  intro item member
  obtain ⟨key, _, rfl⟩ := List.mem_map.mp member
  exact Bool.false_ne_true

theorem mapM_toDict {α : Type} (items : List α) (event : α → PyDict) :
    (items.map fun item => PyValue.dict (event item)).mapM Py.toDict =
      Except.ok (items.map event) := by
  rw [List.mapM_map]
  exact mapM_eq_ok_map (fun item _ => toDict_dict (event item))

private theorem appendToLedger_toDict (rounding : ℚ → ℚ) (book : RealizedBook)
    (added : List RealizedEntry) (key : String) :
    appendToLedger rounding (book.toDict rounding) (added.map RealizedEntry.event) key =
      .ok (({ book.addKey key with entries := book.entries ++ added } : RealizedBook).toDict
        rounding) := by
  have storedEvents : PyDict.get (book.toDict rounding) "events" =
      .list (book.entries.map fun entry => .dict entry.event) := rfl
  have storedKeys : PyDict.get (book.toDict rounding) "applied_fill_keys" =
      .list (book.fillKeys.map PyValue.str) := rfl
  have keys : (if isStrIn (book.fillKeys.map PyValue.str) key then book.fillKeys.map PyValue.str
      else book.fillKeys.map PyValue.str ++ [.str key]) =
      (book.addKey key).fillKeys.map PyValue.str := by
    rw [isStrIn_map_str, addKey]
    by_cases listed : key ∈ book.fillKeys
    · rw [if_pos (decide_eq_true listed), if_pos listed]
    · rw [if_neg (by rw [decide_eq_true_eq]; exact listed), if_neg listed, List.map_append,
        List.map_singleton]
  unfold appendToLedger
  rw [storedEvents, storedKeys, listOrEmpty_list, listOrEmpty_list]
  simp only [bind, Except.bind, mapM_toDict]
  rw [keys, ← List.map_append]
  exact buildRealizedLedger_toDict rounding { book.addKey key with entries := book.entries ++ added }

theorem appendFillKey_toDict (rounding : ℚ → ℚ) (book : RealizedBook) (key : String) :
    appendFillKey rounding (book.toDict rounding) key = .ok ((book.addKey key).toDict rounding) := by
  have appended := appendToLedger_toDict rounding book [] key
  rw [List.append_nil] at appended
  exact appended

theorem appendRealizedEvent_toDict (rounding : ℚ → ℚ) (book : RealizedBook) (entry : RealizedEntry)
    (key : String) :
    appendRealizedEvent rounding (book.toDict rounding) entry.event key =
      .ok ((book.addEntry entry key).toDict rounding) :=
  appendToLedger_toDict rounding book [entry] key

end RealizedBook

/-! ### One update -/

theorem previousPosition_net (positions : Book) (key : String) :
    intOrZero ((previousPosition positions.toDict key).get "net_quantity") =
      .ok (positions.net key) := by
  unfold previousPosition
  rw [Book.toDict_get_positions, PyValue.asDict_dict]
  simp only [PyDict.get, Book.positionEntries, Assoc.lookup_mapValues, Book.net]
  cases positions.positions.lookup key with
  | none => rfl
  | some position => rfl

theorem previousPosition_average (positions : Book) (key : String) :
    floatOrNone ((previousPosition positions.toDict key).get "average_entry_price") =
      positions.average key := by
  unfold previousPosition
  rw [Book.toDict_get_positions, PyValue.asDict_dict]
  simp only [PyDict.get, Book.positionEntries, Assoc.lookup_mapValues, Book.average]
  cases positions.positions.lookup key with
  | none => rfl
  | some position => exact floatOrNone_ofOptionFloat position.averageEntryPrice

section Update

variable (rounding : ℚ → ℚ) (intent lifecycleEvent : PyValue)
variable (positions : Book) (book : RealizedBook)

def signedFillDelta (cumulative : Int) : Int :=
  Book.signed intent.asDict (cumulative - positions.filledBefore lifecycleEvent)

def closedQuantity (cumulative : Int) : Int :=
  realizedQuantity (positions.net (positionKey intent.asDict))
    (signedFillDelta intent lifecycleEvent positions cumulative)

def eventFillKey (cumulative : Int) : String :=
  fillKey (printValue (lifecycleEvent.asDict.get "paper_order_id")) cumulative

structure FreshFill (cumulative : Int) : Prop where
  isFill : upperText (lifecycleEvent.asDict.get "status") ∈ fillEventStatuses
  read : intOrZero (lifecycleEvent.asDict.get "filled_quantity") = .ok cumulative
  fresh : positions.filledBefore lifecycleEvent < cumulative

/-- What one update does to the record of a book, by the fill it sees. -/
inductive RealizeOutcome (previousLedger : PyValue) (result : PaperRealizedPnlResult) : Prop where
  | invalid (blockers warnings : List String)
      (validated : validatePaperRealizedPnlInputs (.dict positions.toDict) intent lifecycleEvent
        previousLedger = .ok (blockers, warnings)) (blocked : blockers ≠ [])
      (ledger : result.ledger = book.toDict rounding)
  | notFill (ignored : upperText (lifecycleEvent.asDict.get "status") ∉ fillEventStatuses)
      (ledger : result.ledger = book.toDict rounding)
  | stale (cumulative : Int)
      (read : intOrZero (lifecycleEvent.asDict.get "filled_quantity") = .ok cumulative)
      (covered : cumulative ≤ positions.filledBefore lifecycleEvent)
      (ledger : result.ledger = book.toDict rounding)
  | repeatedKey (cumulative : Int) (fresh : FreshFill lifecycleEvent positions cumulative)
      (listed : eventFillKey lifecycleEvent cumulative ∈ book.fillKeys)
      (ledger : result.ledger = book.toDict rounding)
  | opened (cumulative : Int) (fresh : FreshFill lifecycleEvent positions cumulative)
      (closes : closedQuantity intent lifecycleEvent positions cumulative ≤ 0)
      (ledger : result.ledger =
        (book.addKey (eventFillKey lifecycleEvent cumulative)).toDict rounding)
  | unpriced (cumulative : Int) (fresh : FreshFill lifecycleEvent positions cumulative)
      (closes : 0 < closedQuantity intent lifecycleEvent positions cumulative)
      (missing : positions.average (positionKey intent.asDict) = none ∨
        floatOrNone (lifecycleEvent.asDict.get "average_fill_price") = none)
      (ledger : result.ledger = book.toDict rounding)
  | realized (cumulative : Int) (average exit : PyFloat) (entry : RealizedEntry)
      (fresh : FreshFill lifecycleEvent positions cumulative)
      (closes : 0 < closedQuantity intent lifecycleEvent positions cumulative)
      (averageEq : positions.average (positionKey intent.asDict) = some average)
      (exitEq : floatOrNone (lifecycleEvent.asDict.get "average_fill_price") = some exit)
      (gain : entry.pnl = realizedPnl rounding (positions.net (positionKey intent.asDict))
        (closedQuantity intent lifecycleEvent positions cumulative) average exit)
      (ledger : result.ledger =
        (book.addEntry entry (eventFillKey lifecycleEvent cumulative)).toDict rounding)

variable {rounding intent lifecycleEvent positions book}

private theorem realizeFill_outcome {digest : String → String} {previousLedger : PyValue}
    {tsEpoch : Option PyFloat} {cumulative : Int} {warnings : List String} {evidence : PyDict}
    {result : PaperRealizedPnlResult} (fresh : FreshFill lifecycleEvent positions cumulative)
    (built : realizeFill rounding digest intent.asDict lifecycleEvent.asDict positions.toDict
      (book.toDict rounding) tsEpoch cumulative (positions.filledBefore lifecycleEvent) warnings
      evidence = .ok result) :
    RealizeOutcome rounding intent lifecycleEvent positions book previousLedger result := by
  unfold realizeFill at built
  have storedKeys : PyDict.get (book.toDict rounding) "applied_fill_keys" =
      .list (book.fillKeys.map PyValue.str) := rfl
  rw [storedKeys, RealizedBook.listOrEmpty_list] at built
  obtain ⟨keys, keysEq, built⟩ := bind_eq_ok.mp built
  cases keysEq
  rw [RealizedBook.keys_hashable, if_neg Bool.false_ne_true, RealizedBook.isStrIn_map_str] at built
  change (if decide (eventFillKey lifecycleEvent cumulative ∈ book.fillKeys) = true then _ else _) =
    _ at built
  by_cases listed : eventFillKey lifecycleEvent cumulative ∈ book.fillKeys
  · rw [if_pos (decide_eq_true listed)] at built
    cases built
    exact .repeatedKey cumulative fresh listed rfl
  rw [if_neg (by rw [decide_eq_true_eq]; exact listed)] at built
  obtain ⟨net, netEq, built⟩ := bind_eq_ok.mp built
  rw [previousPosition_net] at netEq
  cases netEq
  change (if closedQuantity intent lifecycleEvent positions cumulative ≤ 0 then _ else _) = _ at built
  by_cases opens : closedQuantity intent lifecycleEvent positions cumulative ≤ 0
  · rw [if_pos opens, RealizedBook.appendFillKey_toDict] at built
    cases built
    exact .opened cumulative fresh opens rfl
  rw [if_neg opens, previousPosition_average] at built
  have closes := not_le.mp opens
  cases averageEq : positions.average (positionKey intent.asDict) with
  | none =>
      rw [averageEq] at built
      cases built
      exact .unpriced cumulative fresh closes (.inl averageEq) rfl
  | some average =>
      cases exitEq : floatOrNone (lifecycleEvent.asDict.get "average_fill_price") with
      | none =>
          rw [averageEq, exitEq] at built
          cases built
          exact .unpriced cumulative fresh closes (.inr exitEq) rfl
      | some exit =>
          rw [averageEq, exitEq] at built
          obtain ⟨ledger, appended, built⟩ := bind_eq_ok.mp built
          cases built
          have stored := RealizedBook.appendRealizedEvent_toDict rounding book
            (realizedEntry digest intent.asDict lifecycleEvent.asDict
              (previousPosition positions.toDict (positionKey intent.asDict))
              (eventFillKey lifecycleEvent cumulative) (positions.net (positionKey intent.asDict))
              (signedFillDelta intent lifecycleEvent positions cumulative)
              (closedQuantity intent lifecycleEvent positions cumulative) average exit
              (realizedPnl rounding (positions.net (positionKey intent.asDict))
                (closedQuantity intent lifecycleEvent positions cumulative) average exit)
              (tsEpoch.orElse fun _ => floatOrNone (lifecycleEvent.asDict.get "ts_epoch")))
            (eventFillKey lifecycleEvent cumulative)
          exact .realized cumulative average exit _ fresh closes averageEq exitEq rfl
            (Except.ok.inj (appended.symm.trans stored))

theorem buildPaperRealizedPnl_outcome {digest : String → String} {previousLedger : PyValue}
    {tsEpoch : Option PyFloat} {result : PaperRealizedPnlResult}
    (represents : safeRealizedLedger rounding previousLedger = .ok (book.toDict rounding))
    (built : buildPaperRealizedPnl rounding digest (.dict positions.toDict) intent lifecycleEvent
      previousLedger tsEpoch = .ok result) :
    RealizeOutcome rounding intent lifecycleEvent positions book previousLedger result := by
  unfold buildPaperRealizedPnl at built
  rw [represents] at built
  obtain ⟨⟨blockers, warnings⟩, validated, built⟩ := bind_eq_ok.mp built
  obtain ⟨ledger, ledgerEq, built⟩ := bind_eq_ok.mp built
  cases ledgerEq
  dsimp only at built
  by_cases blocked : blockers ≠ []
  · rw [if_pos blocked] at built
    cases built
    exact .invalid blockers warnings validated blocked rfl
  rw [if_neg blocked] at built
  by_cases ignored : upperText (lifecycleEvent.asDict.get "status") ∉ fillEventStatuses
  · rw [if_pos ignored] at built
    cases built
    exact .notFill ignored rfl
  rw [if_neg ignored] at built
  obtain ⟨cumulative, read, built⟩ := bind_eq_ok.mp built
  rw [PyValue.asDict_dict, Book.previousOrderFillQuantity_toDict] at built
  change (if cumulative < positions.filledBefore lifecycleEvent then _
    else if cumulative - positions.filledBefore lifecycleEvent = 0 then _ else _) = _ at built
  by_cases regressed : cumulative < positions.filledBefore lifecycleEvent
  · rw [if_pos regressed] at built
    cases built
    exact .stale cumulative read (le_of_lt regressed) rfl
  rw [if_neg regressed] at built
  by_cases repeated : cumulative - positions.filledBefore lifecycleEvent = 0
  · rw [if_pos repeated] at built
    cases built
    exact .stale cumulative read (by omega) rfl
  · rw [if_neg repeated] at built
    have fresh : FreshFill lifecycleEvent positions cumulative :=
      ⟨not_not.mp ignored, read, by omega⟩
    exact realizeFill_outcome fresh built

end Update

end Algotradify.Paper.RealizedPnl
