/-
The position state engine: a filled candidate becomes a managed position, market prices
move its watermarks, and exit actions reduce, close or protect it.

Rounding of a price to three decimals is a parameter. A dictionary that is missing is the
empty one.

The store of position states: a state is written as JSON text and read back.

A status is one of the five of the engine. The text of a file is the state of the disk.
-/

import Algotradify.Core.RiskState
import Algotradify.Json.SortKeys
import Algotradify.Py.Floats

namespace Algotradify.Core.PositionStateEngine

open Py Risk

inductive PositionStatus where
  | opened
  | part
  | breakeven
  | trailing
  | closed
deriving DecidableEq, Repr

structure PositionState where
  tradeId : String
  symbol : String
  side : String
  playbook : String
  entryPrice : PyFloat
  fillPrice : PyFloat
  qty : Int
  initialStop : PyFloat
  currentStop : PyFloat
  target : PyFloat
  openedTs : PyFloat
  updatedTs : PyFloat
  status : PositionStatus := .opened
  tp1Done : Bool := false
  breakevenDone : Bool := false
  trailingActive : Bool := false
  exitReason : Option String := none
  realizedQty : Int := 0
  remainingQty : Int := 0
  mfePrice : Option PyFloat := none
  maePrice : Option PyFloat := none
  mfeR : PyFloat := .finite 0
  maeR : PyFloat := .finite 0
  highWatermark : Option PyFloat := none
  lowWatermark : Option PyFloat := none
  telemetry : PyDict := []
deriving Repr

/-! ### Numbers -/

/-- `value in (None, "", "None")`. -/
def isMissing (value : PyValue) : Bool :=
  value.isNoneOrEmpty || value.isStr "None"

/-- `_safe_float`. -/
def safeFloat (value : PyValue) (default : Option PyFloat) : Option PyFloat :=
  if isMissing value then default
  else
    match toFloat value with
    | .ok number => some number
    | .error _ => default

/-- `_safe_int`: through a float. -/
def safeInt (value : PyValue) (default : Int) : Int :=
  if isMissing value then default
  else
    match toFloat value >>= fun number => toInt (.float number) with
    | .ok number => number
    | .error _ => default

def normalizeSide (value : PyValue) : String :=
  if ["SELL", "SHORT", "BUY_PUT", "PUT", "PE"].contains
      (upper (strip (printValue (value.or (.str ""))))) then "SELL"
  else "BUY"

def signedPnlR (side : String) (entry stop current : PyFloat) : PyFloat :=
  let risk := (entry - stop).abs
  if risk.le (.finite 0) then .finite 0
  else if normalizeSide (.str side) = "BUY" then (current - entry) / risk
  else (entry - current) / risk

/-! ### A filled candidate -/

def initialQty (fill candidate : PyDict) : Int :=
  if 0 < safeInt (fill.get "qty") 0 then safeInt (fill.get "qty") 0
  else if 0 < safeInt (candidate.get "qty") 0 then safeInt (candidate.get "qty") 0
  else if 0 < safeInt (candidate.get "qty_units") 0 then safeInt (candidate.get "qty_units") 0
  else 1

def initialFillPrice (fill candidate : PyDict) : PyFloat :=
  orDefault
    (safeFloat (fill.get "fill_price")
      (safeFloat (candidate.get "execution_entry")
        (safeFloat (candidate.get "entry") (some (.finite 0)))))
    (.finite 0)

def priceOrFactor (rounding : ℚ → ℚ) (given : PyValue) (side : String) (fillPrice : PyFloat)
    (buyFactor sellFactor : ℚ) : PyFloat :=
  let price := orDefault (safeFloat given (some (.finite 0))) (.finite 0)
  if price.le (.finite 0) then
    (fillPrice * .finite (if side = "BUY" then buyFactor else sellFactor)).roundWith rounding
  else price

def initializePositionState (rounding : ℚ → ℚ) (fill candidate : PyDict) (nowTs : PyFloat) :
    PositionState :=
  let qty := initialQty fill candidate
  let fillPrice := initialFillPrice fill candidate
  let side := normalizeSide (candidate.get "side")
  let initialStop :=
    priceOrFactor rounding (candidate.get "stop_loss") side fillPrice (75 / 100) (125 / 100)
  { tradeId := printValue (((candidate.get "trade_id").or (fill.get "trade_id")).or (.str ""))
    symbol := printValue ((candidate.get "symbol").or (.str ""))
    side := side
    playbook := printValue (((candidate.get "selected_playbook").or
      (candidate.get "decision_playbook")).or (.str "none"))
    entryPrice := orDefault (safeFloat (candidate.get "entry") (some fillPrice)) fillPrice
    fillPrice := fillPrice
    qty := qty
    initialStop := initialStop
    currentStop := initialStop
    target := priceOrFactor rounding (candidate.get "target") side fillPrice (135 / 100) (65 / 100)
    openedTs := nowTs
    updatedTs := nowTs
    remainingQty := qty
    mfePrice := some fillPrice
    maePrice := some fillPrice
    highWatermark := some fillPrice
    lowWatermark := some fillPrice
    telemetry := ["setup_score", "trigger_score", "entry_quality_score",
      "execution_quality_score"].map fun key => (key, candidate.get key) }

/-! ### Market prices -/

def updatePositionState (state : PositionState) (market : PyDict) (nowTs : PyFloat) :
    PositionState :=
  let lastPrice :=
    orDefault (safeFloat (market.get "last_price") (some state.fillPrice)) state.fillPrice
  let high := pyMax (orDefault state.highWatermark lastPrice) lastPrice
  let low := pyMin (orDefault state.lowWatermark lastPrice) lastPrice
  let long := normalizeSide (.str state.side) = "BUY"
  let mfePrice := if long then high else low
  let maePrice := if long then low else high
  { state with
    updatedTs := nowTs
    highWatermark := some high
    lowWatermark := some low
    mfePrice := some mfePrice
    maePrice := some maePrice
    mfeR := pyMax state.mfeR (signedPnlR state.side state.fillPrice state.initialStop mfePrice)
    maeR := pyMin state.maeR (signedPnlR state.side state.fillPrice state.initialStop maePrice)
    telemetry := state.telemetry.set "last_price" (.float lastPrice) }

/-! ### Exit actions -/

/-- The quantity that a fraction of the position makes, between nothing and what remains. -/
def shareQty (state : PositionState) (fraction : PyFloat) : Int :=
  match PyFloat.ofInt state.qty * pyMax (.finite 0) (pyMin (.finite 1) fraction) with
  | .finite share => max 0 (min state.remainingQty (roundHalfEven share))
  | _ => 0

def exitQty (state : PositionState) (action : PyDict) : Int :=
  let fraction := orDefault (safeFloat (action.get "exit_fraction") (some (.finite 0))) (.finite 0)
  if shareQty state fraction ≤ 0 ∧ 1 < state.remainingQty then 1 else shareQty state fraction

def actionName (action : PyDict) : String :=
  upper (strip (printValue ((action.get "action").or (.str "HOLD"))))

def actionReason (action : PyDict) : String :=
  strip (printValue ((action.get "reason").or (.str "")))

/-- The branch of `PARTIAL_EXIT`, if it does not return early. -/
def partialExit (state : PositionState) (action : PyDict) : Option PositionState :=
  if state.tp1Done = true ∧ actionReason action = "tp1_hit" then none
  else if state.remainingQty ≤ 0 then none
  else if exitQty state action ≤ 0 then none
  else
    let remaining := max 0 (state.remainingQty - exitQty state action)
    some { state with
      realizedQty := state.realizedQty + exitQty state action
      remainingQty := remaining
      tp1Done := state.tp1Done || decide (actionReason action = "tp1_hit")
      status := if 0 < remaining then .part else .closed }

/-- The branch of `MOVE_STOP`, if it does not return early. -/
def moveStop (state : PositionState) (action : PyDict) : Option PositionState :=
  match safeFloat (action.get "new_stop") none with
  | none => none
  | some newStop =>
      if state.breakevenDone = true ∧
          (state.currentStop - newStop).abs.le (.finite (1 / 1000000000)) then none
      else
        some { state with
          currentStop := newStop
          breakevenDone := true
          status := if state.trailingActive then .trailing else .breakeven }

/-- The branch of `FULL_EXIT`. -/
def fullExit (state : PositionState) : PositionState :=
  { state with
    realizedQty := state.qty
    remainingQty := 0
    status := .closed }

def exitBranch (state : PositionState) (action : PyDict) : Option PositionState :=
  if actionName action = "PARTIAL_EXIT" then partialExit state action
  else if actionName action = "MOVE_STOP" then moveStop state action
  else if actionName action = "FULL_EXIT" then some (fullExit state)
  else some state

def applyExitAction (state : PositionState) (action : PyDict) (nowTs : PyFloat) :
    PositionState :=
  let timed := { state with updatedTs := nowTs }
  match exitBranch timed action with
  | none => timed
  | some changed =>
      if actionReason action = "" then changed
      else { changed with exitReason := some (actionReason action) }

/-! ### The store -/

def PositionStatus.text : PositionStatus → String
  | .opened => "OPEN"
  | .part => "PARTIAL"
  | .breakeven => "BREAKEVEN"
  | .trailing => "TRAILING"
  | .closed => "CLOSED"

def PositionStatus.ofText? : String → Option PositionStatus
  | "OPEN" => some .opened
  | "PARTIAL" => some .part
  | "BREAKEVEN" => some .breakeven
  | "TRAILING" => some .trailing
  | "CLOSED" => some .closed
  | _ => none

theorem PositionStatus.ofText?_text (status : PositionStatus) :
    ofText? status.text = some status := by
  cases status <;> rfl

theorem PositionStatus.text_ne_empty (status : PositionStatus) : status.text ≠ "" := by
  cases status <;> decide

def positionStateToDict (state : PositionState) : PyDict :=
  [("trade_id", .str state.tradeId), ("symbol", .str state.symbol), ("side", .str state.side),
    ("playbook", .str state.playbook), ("entry_price", .float state.entryPrice),
    ("fill_price", .float state.fillPrice), ("qty", .int state.qty),
    ("initial_stop", .float state.initialStop), ("current_stop", .float state.currentStop),
    ("target", .float state.target), ("opened_ts", .float state.openedTs),
    ("updated_ts", .float state.updatedTs), ("status", .str state.status.text),
    ("tp1_done", .bool state.tp1Done), ("breakeven_done", .bool state.breakevenDone),
    ("trailing_active", .bool state.trailingActive),
    ("exit_reason", ofOptionString state.exitReason), ("realized_qty", .int state.realizedQty),
    ("remaining_qty", .int state.remainingQty), ("mfe_price", ofOptionFloat state.mfePrice),
    ("mae_price", ofOptionFloat state.maePrice), ("mfe_r", .float state.mfeR),
    ("mae_r", .float state.maeR), ("high_watermark", ofOptionFloat state.highWatermark),
    ("low_watermark", ofOptionFloat state.lowWatermark), ("telemetry", .dict state.telemetry)]

/-- `str(data.get(key) or default)`. -/
def textOr (data : PyDict) (key default : String) : String :=
  printValue ((data.get key).or (.str default))

/-- `float(_safe_float(data.get(key), 0.0) or 0.0)`. -/
def numberOrZero (data : PyDict) (key : String) : PyFloat :=
  orDefault (safeFloat (data.get key) (some (.finite 0))) (.finite 0)

/-- `str(value) if value is not None else None`. -/
def optionalText : PyValue → Option String
  | .none => none
  | value => some (printValue value)

/-- `dict(value or {})`; nothing else than a dictionary is a mapping here. -/
def mappingOr (value : PyValue) : Option PyDict :=
  if value.truthy then (toDict value).toOption else some []

/-- The state of a payload. A payload that raises, or whose status is none of the engine, has
none. -/
def positionStateFromDict (data : PyDict) : Option PositionState := do
  let status ← PositionStatus.ofText? (textOr data "status" "OPEN")
  let telemetry ← mappingOr (data.get "telemetry")
  some
    { tradeId := textOr data "trade_id" ""
      symbol := textOr data "symbol" ""
      side := textOr data "side" "BUY"
      playbook := textOr data "playbook" "none"
      entryPrice := numberOrZero data "entry_price"
      fillPrice := numberOrZero data "fill_price"
      qty := safeInt (data.get "qty") 0
      initialStop := numberOrZero data "initial_stop"
      currentStop := numberOrZero data "current_stop"
      target := numberOrZero data "target"
      openedTs := numberOrZero data "opened_ts"
      updatedTs := numberOrZero data "updated_ts"
      status := status
      tp1Done := (data.get "tp1_done").truthy
      breakevenDone := (data.get "breakeven_done").truthy
      trailingActive := (data.get "trailing_active").truthy
      exitReason := optionalText (data.get "exit_reason")
      realizedQty := safeInt (data.get "realized_qty") 0
      remainingQty := safeInt (data.get "remaining_qty") 0
      mfePrice := safeFloat (data.get "mfe_price") none
      maePrice := safeFloat (data.get "mae_price") none
      mfeR := numberOrZero data "mfe_r"
      maeR := numberOrZero data "mae_r"
      highWatermark := safeFloat (data.get "high_watermark") none
      lowWatermark := safeFloat (data.get "low_watermark") none
      telemetry := telemetry }

/-- `indent=2`: everything outside ASCII is escaped. -/
def stateLayout : Json.Layout :=
  { afterComma := 0, afterColon := 1, indent := some 2, ensureAscii := true }

/-- The text that `save_position_state` leaves in the file. -/
def savePositionState (state : PositionState) : String :=
  String.ofList (Json.write stateLayout 0 (.dict (positionStateToDict state)))

/-- `load_position_state` of a file that is there. -/
def loadPositionState (text : String) : Option PositionState :=
  match Json.jsonLoads text with
  | some (.dict payload) => positionStateFromDict payload
  | _ => none

/-! ### What is written is read back -/

/-- The texts that a saved state keeps: an empty side or playbook would be replaced. -/
structure Named (state : PositionState) : Prop where
  side : state.side ≠ ""
  playbook : state.playbook ≠ ""

theorem printValue_or_str (text default : String) (kept : text ≠ "" ∨ default = "") :
    printValue ((PyValue.str text).or (.str default)) = text := by
  by_cases empty : text = ""
  · subst empty
    rcases kept with absurd_ | rfl
    · exact absurd rfl absurd_
    · rfl
  · unfold PyValue.or
    rw [if_pos]
    · rfl
    · simp [PyValue.truthy, empty]

theorem orDefault_zero (number : PyFloat) :
    orDefault (some number) (.finite 0) = number := by
  unfold orDefault
  simp only
  split
  · rfl
  · rename_i zero
    cases number with
    | finite value =>
        simp only [PyFloat.truthy, decide_eq_true_eq, ne_eq, not_not] at zero
        rw [zero]
    | nan | posInf | negInf => exact absurd rfl zero

theorem safeFloat_float (number : PyFloat) (default : Option PyFloat) :
    safeFloat (.float number) default = some number := rfl

theorem safeFloat_ofOptionFloat (number : Option PyFloat) :
    safeFloat (ofOptionFloat number) none = number := by
  cases number <;> rfl

theorem safeInt_int (value default : Int) : safeInt (.int value) default = value := by
  have converted : (toFloat (.int value) >>= fun number => toInt (.float number)) = .ok value := by
    change Except.ok ((value : ℚ).num.tdiv (value : ℚ).den) = _
    simp
  unfold safeInt
  rw [converted]
  rfl

theorem optionalText_ofOptionString (text : Option String) :
    optionalText (ofOptionString text) = text := by
  cases text <;> rfl

theorem mappingOr_dict (entries : PyDict) : mappingOr (.dict entries) = some entries := by
  unfold mappingOr
  cases entries <;> rfl

theorem numberOrZero_of_get {data : PyDict} {key : String} {number : PyFloat}
    (held : data.get key = .float number) : numberOrZero data key = number := by
  unfold numberOrZero
  rw [held, safeFloat_float, orDefault_zero]

theorem textOr_of_get {data : PyDict} {key default text : String} (held : data.get key = .str text)
    (kept : text ≠ "" ∨ default = "") : textOr data key default = text := by
  unfold textOr
  rw [held, printValue_or_str text default kept]

theorem positionStateFromDict_toDict {state : PositionState} (named : Named state) :
    positionStateFromDict (positionStateToDict state) = some state := by
  have status : textOr (positionStateToDict state) "status" "OPEN" = state.status.text :=
    textOr_of_get rfl (.inl state.status.text_ne_empty)
  have tradeId : textOr (positionStateToDict state) "trade_id" "" = state.tradeId :=
    textOr_of_get rfl (.inr rfl)
  have symbol : textOr (positionStateToDict state) "symbol" "" = state.symbol :=
    textOr_of_get rfl (.inr rfl)
  have side : textOr (positionStateToDict state) "side" "BUY" = state.side :=
    textOr_of_get rfl (.inl named.side)
  have playbook : textOr (positionStateToDict state) "playbook" "none" = state.playbook :=
    textOr_of_get rfl (.inl named.playbook)
  have telemetry : (positionStateToDict state).get "telemetry" = .dict state.telemetry := rfl
  have qty : (positionStateToDict state).get "qty" = .int state.qty := rfl
  have realizedQty : (positionStateToDict state).get "realized_qty" = .int state.realizedQty := rfl
  have remainingQty : (positionStateToDict state).get "remaining_qty" = .int state.remainingQty :=
    rfl
  have tp1Done : ((positionStateToDict state).get "tp1_done").truthy = state.tp1Done := rfl
  have breakevenDone :
      ((positionStateToDict state).get "breakeven_done").truthy = state.breakevenDone := rfl
  have trailingActive :
      ((positionStateToDict state).get "trailing_active").truthy = state.trailingActive := rfl
  have exitReason : (positionStateToDict state).get "exit_reason" =
      ofOptionString state.exitReason := rfl
  have mfePrice : (positionStateToDict state).get "mfe_price" =
      ofOptionFloat state.mfePrice := rfl
  have maePrice : (positionStateToDict state).get "mae_price" =
      ofOptionFloat state.maePrice := rfl
  have highWatermark : (positionStateToDict state).get "high_watermark" =
      ofOptionFloat state.highWatermark := rfl
  have lowWatermark : (positionStateToDict state).get "low_watermark" =
      ofOptionFloat state.lowWatermark := rfl
  unfold positionStateFromDict
  rw [status, PositionStatus.ofText?_text, telemetry, mappingOr_dict]
  simp only [Option.bind_eq_bind, Option.bind_some]
  rw [tradeId, symbol, side, playbook, qty, realizedQty, remainingQty, safeInt_int, safeInt_int,
    safeInt_int, tp1Done, breakevenDone, trailingActive, exitReason, optionalText_ofOptionString,
    mfePrice, maePrice, highWatermark, lowWatermark, safeFloat_ofOptionFloat,
    safeFloat_ofOptionFloat, safeFloat_ofOptionFloat, safeFloat_ofOptionFloat]
  have number (key : String) {value : PyFloat}
      (held : (positionStateToDict state).get key = .float value) :
      numberOrZero (positionStateToDict state) key = value := numberOrZero_of_get held
  rw [number "entry_price" rfl, number "fill_price" rfl, number "initial_stop" rfl,
    number "current_stop" rfl, number "target" rfl, number "opened_ts" rfl,
    number "updated_ts" rfl, number "mfe_r" rfl, number "mae_r" rfl]

/-- The numbers of a state are those that their printed forms denote, as floats are. -/
def Printable (state : PositionState) : Prop :=
  Json.wellFormed (.dict (positionStateToDict state)) = true

theorem loadPositionState_save {state : PositionState} (named : Named state)
    (printable : Printable state) : loadPositionState (savePositionState state) = some state := by
  have read := Json.jsonLoads_write stateLayout printable
    (fun _ impossible => absurd impossible List.not_mem_nil : ∀ char ∈ ([] : List Char), _)
  rw [List.append_nil] at read
  unfold loadPositionState savePositionState
  rw [read]
  exact positionStateFromDict_toDict named

end Algotradify.Core.PositionStateEngine
