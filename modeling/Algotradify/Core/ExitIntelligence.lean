/-
Exit intelligence: one evaluation of an open position against a market snapshot, with the
patch of the position that goes with its decision.

The configuration is the dictionary of its attributes. An evaluation that raises has no
decision.

Exit intelligence over runs: each patch is applied to the position before the next
evaluation, and neither the stop nor the best price ever moves against the position.
-/

import Algotradify.Core.EntrySemantics
import Algotradify.Core.RiskState
import Algotradify.Py.Floats

namespace Algotradify.Core.ExitIntelligence

open Py Risk

variable {price nowTs : PyFloat} {quantity : Int} {position cfg market : PyDict}

inductive ExitAction where
  | noop
  | modifyPlan
  | partialExit
  | fullExit
deriving DecidableEq, Repr

structure ExitDecision where
  action : ExitAction
  reasonCodes : List String
  beforePlan : PyDict
  afterPlan : PyDict
  statePatch : PyDict := []
  exitQtyUnits : Int := 0
  safeMode : Bool := false
  cooldownApplied : Bool := false
deriving Repr

/-! ### Prices -/

/-- `_to_float`. -/
def toFloat? (value : PyValue) : Option PyFloat :=
  EntrySemantics.safeFloat value

def betterPrice (side : String) (current baseline : PyFloat) : Bool :=
  if side = "BUY" then baseline.le current else current.le baseline

def tightenStop (side : String) (currentSl candidateSl : PyFloat) : PyFloat :=
  if side = "BUY" then pyMax currentSl candidateSl else pyMin currentSl candidateSl

def profitProgress (side : String) (entry target current : PyFloat) : Option PyFloat :=
  let denom := if side = "BUY" then target - entry else entry - target
  let numer := if side = "BUY" then current - entry else entry - current
  if denom.le (.finite 0) then none else some (numer / denom)

def tightens (side : String) (currentSl tightened : PyFloat) : Bool :=
  (decide (side = "BUY") && currentSl.lt tightened) ||
    (decide (side = "SELL") && tightened.lt currentSl)

/-! ### Configuration -/

/-- `getattr(cfg, name, default)`. -/
def getAttr (cfg : PyDict) (name : String) (default : PyValue) : PyValue :=
  (cfg.lookup name).getD default

/-- `float(getattr(cfg, name, default))`. -/
def floatAttr (cfg : PyDict) (name : String) (default : ℚ) : Except PyError PyFloat :=
  toFloat (getAttr cfg name (.float (.finite default)))

/-- `float(value * 60)`. -/
def sixtyTimes : PyValue → Except PyError PyFloat
  | .bool flag => .ok (.finite (if flag then 60 else 0))
  | .int value => .ok (.finite (value * 60))
  | .float value => .ok (value * .finite 60)
  | .str text => toFloat (.str (String.join (List.replicate 60 text)))
  | _ => .error (.typeError "unsupported operand type(s) for *")

/-- `_derive_safe_mode`. -/
def deriveSafeMode (market : PyDict) (allowStaleQuotes : Bool) (maxQuoteAgeSec : PyFloat) :
    Bool × Option String :=
  let feedState := upper (printValue ((market.get "feed_state").or (.str "")))
  let quoteAge := toFloat? (((market.get "option_age_sec").or (market.get "quote_age_sec")).or
    (market.get "price_age_sec"))
  if ["DEGRADED", "DOWN", "UNKNOWN"].contains feedState then
    (true, some ("feed_" ++ lower feedState))
  else
    match quoteAge with
    | none => (false, none)
    | some age =>
        if maxQuoteAgeSec.lt age && !allowStaleQuotes then (true, some "quote_stale")
        else (false, none)

/-! ### What is read of a position -/

def exitSide (position : PyDict) : String :=
  let side := upper (printValue ((position.get "side").or (.str "BUY")))
  if ["BUY", "SELL"].contains side then side else "BUY"

def openQty (position : PyDict) : Except PyError Int := do
  let quantity ← toInt ((((position.get "remaining_qty_units").or (position.get "qty_units")).or
    (position.get "qty")).or (.int 0))
  pure (max 0 quantity)

structure ExitReading where
  side : String
  entry : Option PyFloat
  currentSl : Option PyFloat
  currentTp : Option PyFloat
  currentPrice : Option PyFloat
  qtyUnits : Int
  bestPriceSeen : Option PyFloat
  bestPriceTs : Option PyFloat
  lastActionTs : PyFloat
  stallCounter : Int
  phase : String
  elapsedSec : PyFloat
deriving Repr

def readPosition (position market : PyDict) (nowTs : PyFloat) : Except PyError ExitReading := do
  let qtyUnits ← openQty position
  let stallCounter ← toInt ((position.get "stall_counter").or (.int 0))
  pure
    { side := exitSide position
      entry := toFloat? (position.get "entry_price")
      currentSl := toFloat? (position.get "current_sl")
      currentTp := toFloat? (position.get "current_tp")
      currentPrice := toFloat? ((((market.get "ltp").or (market.get "mark_price")).or
        (market.get "last_price")).or (position.get "last_price"))
      qtyUnits := qtyUnits
      bestPriceSeen := toFloat? (position.get "best_price_seen")
      bestPriceTs := toFloat? (position.get "best_price_ts")
      lastActionTs := orDefault (toFloat? (position.get "last_action_ts")) (.finite 0)
      stallCounter := max 0 stallCounter
      phase := upper (printValue ((position.get "exit_intel_phase").or (.str "INIT")))
      elapsedSec := pyMax (.finite 0)
        (nowTs - orDefault (toFloat? (position.get "entry_time")) nowTs) }

def ExitReading.beforePlan (reading : ExitReading) : PyDict :=
  [("current_sl", ofOptionFloat reading.currentSl),
    ("current_tp", ofOptionFloat reading.currentTp),
    ("best_price_seen", ofOptionFloat reading.bestPriceSeen),
    ("best_price_ts", ofOptionFloat reading.bestPriceTs),
    ("exit_intel_phase", .str reading.phase),
    ("stall_counter", .int reading.stallCounter),
    ("last_action_ts", .float reading.lastActionTs)]

structure ExitPrices where
  entry : PyFloat
  currentSl : PyFloat
  currentTp : PyFloat
  currentPrice : PyFloat

def ExitReading.prices? (reading : ExitReading) : Option ExitPrices := do
  let entry ← reading.entry
  let currentSl ← reading.currentSl
  let currentTp ← reading.currentTp
  let currentPrice ← reading.currentPrice
  if reading.qtyUnits ≤ 0 then none
  else
    some
      { entry := entry
        currentSl := currentSl
        currentTp := currentTp
        currentPrice := currentPrice }

/-- A complete reading at a time, with the safe mode of the snapshot. -/
structure ExitTick extends ExitPrices where
  reading : ExitReading
  nowTs : PyFloat
  safeMode : Bool
  safeReason : Option String

namespace ExitTick

variable (tick : ExitTick)

def side : String := tick.reading.side

def qtyUnits : Int := tick.reading.qtyUnits

def priorBest : PyFloat := tick.reading.bestPriceSeen.getD tick.entry

def madeNewBest : Bool := betterPrice tick.side tick.currentPrice tick.priorBest

def updatedBest : PyFloat := if tick.madeNewBest then tick.currentPrice else tick.priorBest

def updatedBestTs : PyFloat :=
  if tick.madeNewBest then tick.nowTs else tick.reading.bestPriceTs.getD tick.nowTs

def basePatch : PyDict :=
  [("best_price_seen", .float tick.updatedBest), ("best_price_ts", .float tick.updatedBestTs),
    ("stall_counter", .int (if tick.madeNewBest then 0 else tick.reading.stallCounter + 1)),
    ("exit_intel_phase", .str tick.reading.phase), ("reason_codes", .list [])]

def decision (action : ExitAction) (reasonCodes : List String) (changes : PyDict) : ExitDecision :=
  { action := action
    reasonCodes := reasonCodes
    beforePlan := tick.reading.beforePlan
    afterPlan := tick.reading.beforePlan.update (tick.basePatch.update changes)
    statePatch := tick.basePatch.update changes
    safeMode := tick.safeMode }

/-! ### The stages of an evaluation -/

/-- `float(position.get("max_hold_sec") or getattr(cfg, "MAX_HOLD_MINUTES", 60) * 60)`. -/
def maxHoldSec (position cfg : PyDict) : Except PyError PyFloat :=
  if (position.get "max_hold_sec").truthy then toFloat (position.get "max_hold_sec")
  else sixtyTimes (getAttr cfg "MAX_HOLD_MINUTES" (.int 60))

def hardExit (position cfg : PyDict) : Except PyError (Option ExitDecision) := do
  let hitTarget := betterPrice tick.side tick.currentPrice tick.currentTp
  let hitStop := !betterPrice tick.side tick.currentPrice tick.currentSl
  let maxHold ← maxHoldSec position cfg
  let hitTime := maxHold.le tick.reading.elapsedSec
  let reason := if hitTarget then "TARGET_HIT" else if hitStop then "STOP_HIT" else "TIME_EXIT"
  pure (if hitTarget || hitStop || hitTime then
    some { tick.decision .fullExit [reason]
        [("exit_intel_phase", .str "FINAL_EXIT"), ("last_action_ts", .float tick.nowTs),
          ("reason_codes", ofStrings [reason])] with
      exitQtyUnits := tick.qtyUnits }
    else none)

def cooldown (cfg : PyDict) : Except PyError (Option ExitDecision) := do
  let cooldownSec ← floatAttr cfg "EXIT_INTEL_ACTION_COOLDOWN_SEC" 15
  pure (if (tick.nowTs - tick.reading.lastActionTs).lt cooldownSec then
    some { tick.decision .noop ["cooldown_active"]
        [("reason_codes", ofStrings ["cooldown_active"])] with
      cooldownApplied := true }
    else none)

def moveStop (candidate : PyFloat) (phase reason : String) : Option ExitDecision :=
  let tightened := tightenStop tick.side tick.currentSl candidate
  if tightens tick.side tick.currentSl tightened then
    some (tick.decision .modifyPlan [reason]
      [("current_sl", .float tightened), ("exit_intel_phase", .str phase),
        ("last_action_ts", .float tick.nowTs), ("reason_codes", ofStrings [reason])])
  else none

def favourable (price fraction : PyFloat) : PyFloat :=
  price * (if tick.side = "BUY" then .finite 1 + fraction else .finite 1 - fraction)

def profitProtect (cfg : PyDict) : Except PyError (Option ExitDecision) := do
  let profitTriggerPct ← floatAttr cfg "EXIT_INTEL_PROFIT_PROTECT_TRIGGER_PCT" (1 / 100)
  let beBufferPct ← floatAttr cfg "EXIT_INTEL_BREAK_EVEN_BUFFER_PCT" (5 / 10000)
  pure (if betterPrice tick.side tick.currentPrice (tick.favourable tick.entry profitTriggerPct) then
    tick.moveStop (tick.favourable tick.entry beBufferPct) "PROTECT" "profit_protect_be"
    else none)

/-- The stop that trails the best price, by the range of the market or by a fraction. -/
def trailCandidate (cfg market : PyDict) (trailOffsetPct atrMult : PyFloat) : PyFloat :=
  let useAtr := (getAttr cfg "EXIT_INTEL_TRAIL_USE_ATR" (.bool true)).truthy
  let atr := orDefault (toFloat? (market.get "atr")) (.finite 0)
  if useAtr && (PyFloat.finite 0).lt atr then
    if tick.side = "BUY" then tick.updatedBest - atr * atrMult else tick.updatedBest + atr * atrMult
  else
    tick.updatedBest *
      (if tick.side = "BUY" then .finite 1 - trailOffsetPct else .finite 1 + trailOffsetPct)

def trail (cfg market : PyDict) : Except PyError (Option ExitDecision) := do
  let trailOffsetPct ← floatAttr cfg "EXIT_INTEL_TRAIL_OFFSET_PCT" (5 / 1000)
  let trailStepPct ← floatAttr cfg "EXIT_INTEL_TRAIL_STEP_PCT" (2 / 1000)
  let atrMult ← floatAttr cfg "EXIT_INTEL_TRAIL_ATR_MULT" (8 / 10)
  pure (if (tick.entry.abs * trailStepPct).le (tick.updatedBest - tick.priorBest).abs then
    tick.moveStop (tick.trailCandidate cfg market trailOffsetPct atrMult) "TRAIL" "trail_upgrade"
    else none)

def momentumBreak (market : PyDict) (threshold : PyFloat) : Bool :=
  match toFloat? (market.get "momentum") with
  | none => (market.get "momentum_break").truthy
  | some momentum =>
      if tick.side = "BUY" then momentum.le threshold else (-threshold).le momentum

def stallExit (cfg : PyDict) : Except PyError (ExitAction × Int) := do
  let actionName := upper (printValue (getAttr cfg "EXIT_INTEL_STALL_ACTION" (.str "PARTIAL_EXIT")))
  let partialFraction ← floatAttr cfg "EXIT_INTEL_PARTIAL_EXIT_FRACTION" (1 / 2)
  let rounded ← roundInt (PyFloat.ofInt tick.qtyUnits * partialFraction)
  let exitQtyUnits := max 1 rounded
  pure (if actionName = "FULL_EXIT" ∨ tick.qtyUnits ≤ 1 then (.fullExit, tick.qtyUnits)
    else (.partialExit, min exitQtyUnits (max 1 (tick.qtyUnits - 1))))

def stalled (progress : Option PyFloat) (stallTargetPct stallSeconds : PyFloat) : Bool :=
  match progress with
  | none => false
  | some progress =>
      stallTargetPct.le progress &&
        stallSeconds.le (tick.nowTs - orDefault (some tick.updatedBestTs) tick.nowTs)

/-- `safe_reason or "safe_mode"`. -/
def safeText : String := tick.safeReason.getD "safe_mode"

def stall (cfg market : PyDict) : Except PyError (Option ExitDecision) := do
  let progress := profitProgress tick.side tick.entry tick.currentTp tick.currentPrice
  let stallTargetPct ← floatAttr cfg "EXIT_INTEL_STALL_TARGET_PCT" (9 / 10)
  let stallSeconds ← floatAttr cfg "EXIT_INTEL_STALL_SECONDS" 45
  let threshold ← floatAttr cfg "EXIT_INTEL_STALL_MOMENTUM_BREAK" (-1 / 1000)
  if tick.stalled progress stallTargetPct stallSeconds && tick.momentumBreak market threshold then
    let (action, exitQtyUnits) ← tick.stallExit cfg
    if tick.safeMode then
      pure (some (tick.decision .noop ["safe_mode_restricted", tick.safeText]
        [("reason_codes", ofStrings ["safe_mode_restricted", tick.safeText])]))
    else
      pure (some { tick.decision action ["stall_near_target"]
          [("exit_intel_phase", .str "STALL_EXIT"), ("last_action_ts", .float tick.nowTs),
            ("reason_codes", ofStrings ["stall_near_target"])] with
        exitQtyUnits := exitQtyUnits })
  else pure none

def noSignal : ExitDecision :=
  match tick.safeMode, tick.safeReason with
  | true, some safeReason =>
      tick.decision .noop ["safe_mode:" ++ safeReason]
        [("reason_codes", ofStrings ["safe_mode:" ++ safeReason])]
  | _, _ => tick.decision .noop ["no_exit_signal"] []

def orNext (stage : Except PyError (Option ExitDecision)) (next : Except PyError ExitDecision) :
    Except PyError ExitDecision := do
  let found ← stage
  found.elim next pure

def evaluate (position market cfg : PyDict) : Except PyError ExitDecision :=
  orNext (tick.hardExit position cfg)
    (orNext (tick.cooldown cfg)
      (orNext (tick.profitProtect cfg)
        (orNext (tick.trail cfg market)
          (orNext (tick.stall cfg market) (pure tick.noSignal)))))

end ExitTick

def missingInputs (reading : ExitReading) : ExitDecision :=
  { action := .noop
    reasonCodes := ["missing_exit_inputs"]
    beforePlan := reading.beforePlan
    afterPlan := reading.beforePlan }

def evaluateExit (position market : PyDict) (nowTs : PyFloat) (cfg : PyDict) :
    Except PyError ExitDecision := do
  let reading ← readPosition position market nowTs
  match reading.prices? with
  | none => pure (missingInputs reading)
  | some prices =>
      let maxQuoteAgeSec ← floatAttr cfg "EXIT_INTEL_MAX_QUOTE_AGE_SEC" (25 / 10)
      let safe := deriveSafeMode market (getAttr cfg "ALLOW_STALE_LTP" (.bool false)).truthy
        maxQuoteAgeSec
      let tick : ExitTick :=
        { toExitPrices := prices
          reading := reading
          nowTs := nowTs
          safeMode := safe.1
          safeReason := safe.2 }
      tick.evaluate position market cfg

/-! ### Prices -/

/-- The second price is at least as good for the side as the first. -/
def Favours (side : String) (before after : PyFloat) : Prop :=
  betterPrice side after before = true

theorem toFloat?_float (number : price ≠ .nan) :
    toFloat? (.float price) = some price := by
  cases price with
  | nan => exact absurd rfl number
  | finite | posInf | negInf => rfl

theorem ne_nan_of_toFloat? {value : PyValue} (read : toFloat? value = some price) :
    price ≠ .nan := by
  rintro rfl
  unfold toFloat? EntrySemantics.safeFloat at read
  cases converted : toFloat value with
  | error raised =>
      rw [converted] at read
      cases read
  | ok number =>
      rw [converted] at read
      cases number <;> cases read

theorem Favours.refl (side : String) (number : price ≠ .nan) :
    Favours side price price := by
  unfold Favours betterPrice
  split <;> exact PyFloat.le_refl number

theorem Favours.trans {side : String} {first second third : PyFloat}
    (left : Favours side first second) (right : Favours side second third) :
    Favours side first third := by
  unfold Favours betterPrice at *
  split_ifs at * with long
  · exact PyFloat.le_trans left right
  · exact PyFloat.le_trans right left

theorem favours_of_tightens {side : String} {currentSl tightened : PyFloat}
    (moves : tightens side currentSl tightened = true) :
    Favours side currentSl tightened ∧ tightened ≠ .nan := by
  unfold tightens at moves
  rw [Bool.or_eq_true, Bool.and_eq_true, Bool.and_eq_true, decide_eq_true_eq,
    decide_eq_true_eq] at moves
  unfold Favours betterPrice
  rcases moves with ⟨rfl, less⟩ | ⟨rfl, less⟩
  · exact ⟨PyFloat.le_of_lt less, PyFloat.ne_nan_of_lt less⟩
  · refine ⟨PyFloat.le_of_lt less, ?_⟩
    rintro rfl
    cases currentSl <;> cases less

/-- A partial exit takes something of an open quantity and leaves something, a full one takes
all of it. -/
structure ExitDecision.Exits (decision : ExitDecision) (quantity : Int) : Prop where
  part : decision.action = .partialExit →
    1 ≤ decision.exitQtyUnits ∧ decision.exitQtyUnits ≤ quantity - 1
  full : decision.action = .fullExit → decision.exitQtyUnits = quantity

theorem ExitDecision.exits_of_noop {decision : ExitDecision} (noop : decision.action = .noop) :
    decision.Exits quantity := by
  constructor <;> simp [noop]

theorem ExitDecision.exits_of_modifyPlan {decision : ExitDecision}
    (modifies : decision.action = .modifyPlan) : decision.Exits quantity := by
  constructor <;> simp [modifies]

namespace ExitTick

variable {tick : ExitTick}

/-! ### Decisions -/

/-- What holds of every decision of a tick: its patch carries the best price, and a stop only
where it tightens; a part leaves something open and a full exit nothing. -/
structure Sound (tick : ExitTick) (decision : ExitDecision) : Prop where
  distinct : Assoc.Distinct decision.statePatch
  side : decision.statePatch.lookup "side" = none
  best : decision.statePatch.lookup "best_price_seen" = some (.float tick.updatedBest)
  stop : decision.statePatch.lookup "current_sl" = none ∨
    ∃ tightened, decision.statePatch.lookup "current_sl" = some (.float tightened) ∧
      tightens tick.side tick.currentSl tightened = true
  quantity : decision.Exits tick.qtyUnits

theorem distinct_basePatch (tick : ExitTick) : Assoc.Distinct tick.basePatch := by
  unfold Assoc.Distinct basePatch
  simp

theorem sound_of_changes {decision : ExitDecision} {changes : PyDict}
    (patch : decision.statePatch = tick.basePatch.update changes)
    (distinct : Assoc.Distinct changes) (side : changes.lookup "side" = none)
    (best : changes.lookup "best_price_seen" = none)
    (stop : changes.lookup "current_sl" = none ∨
      ∃ tightened, changes.lookup "current_sl" = some (.float tightened) ∧
        tightens tick.side tick.currentSl tightened = true)
    (quantity : decision.Exits tick.qtyUnits) : Sound tick decision := by
  have found (key : String) : decision.statePatch.lookup key =
      (changes.lookup key).or (tick.basePatch.lookup key) := by
    rw [patch]
    exact PyDict.lookup_update _ distinct key
  constructor
  · rw [patch]
    exact PyDict.Distinct.update (distinct_basePatch tick) changes
  · rw [found, side]
    rfl
  · rw [found, best]
    rfl
  · rcases stop with none | ⟨tightened, held, moves⟩
    · left
      rw [found, none]
      rfl
    · right
      refine ⟨tightened, ?_, moves⟩
      rw [found, held]
      rfl
  · exact quantity

theorem hardExit_sound {decision : ExitDecision}
    (made : tick.hardExit position cfg = .ok (some decision)) : Sound tick decision := by
  unfold hardExit at made
  obtain ⟨maxHold, -, made⟩ := bind_eq_ok.mp made
  have chosen := Except.ok.inj made
  simp only at chosen
  split at chosen
  · cases chosen
    apply sound_of_changes rfl
    · simp [Assoc.Distinct]
    · rfl
    · rfl
    · exact .inl rfl
    · exact ⟨fun part => (by cases part), fun _ => rfl⟩
  · cases chosen

theorem cooldown_sound {decision : ExitDecision} (made : tick.cooldown cfg = .ok (some decision)) :
    Sound tick decision := by
  unfold cooldown at made
  obtain ⟨cooldownSec, -, made⟩ := bind_eq_ok.mp made
  have chosen := Except.ok.inj made
  split at chosen
  · cases chosen
    apply sound_of_changes rfl
    · simp [Assoc.Distinct]
    · rfl
    · rfl
    · exact .inl rfl
    · exact ExitDecision.exits_of_noop rfl
  · cases chosen

theorem moveStop_sound {candidate : PyFloat} {phase reason : String} {decision : ExitDecision}
    (made : tick.moveStop candidate phase reason = some decision) : Sound tick decision := by
  unfold moveStop at made
  simp only at made
  split at made
  · rename_i moves
    cases made
    apply sound_of_changes rfl
    · simp [Assoc.Distinct]
    · rfl
    · rfl
    · exact .inr ⟨_, rfl, moves⟩
    · exact ExitDecision.exits_of_modifyPlan rfl
  · cases made

theorem profitProtect_sound {decision : ExitDecision}
    (made : tick.profitProtect cfg = .ok (some decision)) : Sound tick decision := by
  unfold profitProtect at made
  obtain ⟨trigger, -, made⟩ := bind_eq_ok.mp made
  obtain ⟨buffer, -, made⟩ := bind_eq_ok.mp made
  have chosen := Except.ok.inj made
  split at chosen
  · exact moveStop_sound chosen
  · cases chosen

theorem trail_sound {decision : ExitDecision} (made : tick.trail cfg market = .ok (some decision)) :
    Sound tick decision := by
  unfold trail at made
  obtain ⟨offset, -, made⟩ := bind_eq_ok.mp made
  obtain ⟨step, -, made⟩ := bind_eq_ok.mp made
  obtain ⟨mult, -, made⟩ := bind_eq_ok.mp made
  have chosen := Except.ok.inj made
  split at chosen
  · exact moveStop_sound chosen
  · cases chosen

theorem stallExit_quantity {action : ExitAction}
    (made : tick.stallExit cfg = .ok (action, quantity)) :
    (action = .partialExit → 1 ≤ quantity ∧ quantity ≤ tick.qtyUnits - 1) ∧
      (action = .fullExit → quantity = tick.qtyUnits) := by
  unfold stallExit at made
  obtain ⟨fraction, -, made⟩ := bind_eq_ok.mp made
  obtain ⟨rounded, -, made⟩ := bind_eq_ok.mp made
  have chosen := Except.ok.inj made
  split at chosen
  · cases chosen
    simp
  · rename_i divisible
    cases chosen
    simp only [not_or] at divisible
    constructor
    · intro _
      omega
    · intro full
      cases full

theorem stall_sound {decision : ExitDecision} (made : tick.stall cfg market = .ok (some decision)) :
    Sound tick decision := by
  unfold stall at made
  obtain ⟨target, -, made⟩ := bind_eq_ok.mp made
  obtain ⟨seconds, -, made⟩ := bind_eq_ok.mp made
  obtain ⟨threshold, -, made⟩ := bind_eq_ok.mp made
  split at made
  · obtain ⟨⟨action, quantity⟩, exits, made⟩ := bind_eq_ok.mp made
    obtain ⟨part, full⟩ := stallExit_quantity exits
    simp only at made
    split at made
    · cases Except.ok.inj made
      apply sound_of_changes rfl
      · simp [Assoc.Distinct]
      · rfl
      · rfl
      · exact .inl rfl
      · exact ExitDecision.exits_of_noop rfl
    · cases Except.ok.inj made
      apply sound_of_changes rfl
      · simp [Assoc.Distinct]
      · rfl
      · rfl
      · exact .inl rfl
      · exact ⟨part, full⟩
  · cases made

theorem noSignal_sound (tick : ExitTick) : Sound tick tick.noSignal := by
  unfold noSignal
  split
  · apply sound_of_changes rfl
    · simp [Assoc.Distinct]
    · rfl
    · rfl
    · exact .inl rfl
    · exact ExitDecision.exits_of_noop rfl
  · apply sound_of_changes rfl
    · simp [Assoc.Distinct]
    · rfl
    · rfl
    · exact .inl rfl
    · exact ExitDecision.exits_of_noop rfl

theorem orNext_sound {stage : Except PyError (Option ExitDecision)}
    {next : Except PyError ExitDecision} {decision : ExitDecision}
    (made : orNext stage next = .ok decision)
    (own : ∀ decision, stage = .ok (some decision) → Sound tick decision)
    (later : next = .ok decision → Sound tick decision) : Sound tick decision := by
  unfold orNext at made
  obtain ⟨found, ran, made⟩ := bind_eq_ok.mp made
  cases found with
  | none => exact later made
  | some earlier =>
      cases made
      exact own decision ran

theorem evaluate_sound {decision : ExitDecision}
    (made : tick.evaluate position market cfg = .ok decision) : Sound tick decision := by
  unfold evaluate at made
  apply orNext_sound made (fun _ => hardExit_sound)
  intro made
  apply orNext_sound made (fun _ => cooldown_sound)
  intro made
  apply orNext_sound made (fun _ => profitProtect_sound)
  intro made
  apply orNext_sound made (fun _ => trail_sound)
  intro made
  apply orNext_sound made (fun _ => stall_sound)
  intro made
  cases made
  exact noSignal_sound tick

theorem updatedBest_favours (tick : ExitTick) (number : price ≠ .nan)
    (prior : tick.priorBest = price) (current : tick.currentPrice ≠ .nan) :
    Favours tick.side price tick.updatedBest ∧ tick.updatedBest ≠ .nan := by
  unfold updatedBest
  cases better : tick.madeNewBest with
  | true =>
      simp only [if_true]
      refine ⟨?_, current⟩
      rw [← prior]
      exact better
  | false =>
      simp only [Bool.false_eq_true, if_false]
      rw [prior]
      exact ⟨.refl _ number, number⟩

end ExitTick

/-! ### Evaluations -/

theorem readPosition_eq {reading : ExitReading}
    (read : readPosition position market nowTs = .ok reading) :
    reading.side = exitSide position ∧ openQty position = .ok reading.qtyUnits ∧
      reading.currentSl = toFloat? (position.get "current_sl") ∧
      reading.bestPriceSeen = toFloat? (position.get "best_price_seen") ∧
      ∃ value, reading.currentPrice = toFloat? value := by
  unfold readPosition at read
  obtain ⟨quantity, ofQuantity, read⟩ := bind_eq_ok.mp read
  obtain ⟨counter, -, read⟩ := bind_eq_ok.mp read
  cases Except.ok.inj read
  exact ⟨rfl, ofQuantity, rfl, rfl, _, rfl⟩

theorem prices?_eq_some {reading : ExitReading} {prices : ExitPrices}
    (complete : reading.prices? = some prices) :
    reading.currentSl = some prices.currentSl ∧ reading.currentPrice = some prices.currentPrice := by
  unfold ExitReading.prices? at complete
  simp only [Option.bind_eq_bind, Option.bind_eq_some_iff] at complete
  obtain ⟨entry, -, currentSl, ofSl, currentTp, -, currentPrice, ofPrice, chosen⟩ := complete
  split at chosen
  · cases chosen
  · cases chosen
    exact ⟨ofSl, ofPrice⟩

theorem evaluateExit_cases {decision : ExitDecision}
    (made : evaluateExit position market nowTs cfg = .ok decision) :
    ∃ reading, readPosition position market nowTs = .ok reading ∧
      (decision = missingInputs reading ∨
        ∃ tick : ExitTick, tick.reading = reading ∧ reading.currentSl = some tick.currentSl ∧
          reading.currentPrice = some tick.currentPrice ∧ tick.Sound decision) := by
  unfold evaluateExit at made
  obtain ⟨reading, read, made⟩ := bind_eq_ok.mp made
  refine ⟨reading, read, ?_⟩
  cases complete : reading.prices? with
  | none =>
      rw [complete] at made
      exact .inl (Except.ok.inj made).symm
  | some prices =>
      rw [complete] at made
      obtain ⟨maxAge, -, made⟩ := bind_eq_ok.mp made
      obtain ⟨ofSl, ofPrice⟩ := prices?_eq_some complete
      exact .inr ⟨_, rfl, ofSl, ofPrice, ExitTick.evaluate_sound made⟩

/-! ### Runs -/

structure ExitInput where
  market : PyDict
  nowTs : PyFloat
  cfg : PyDict

def patched (position : PyDict) (input : ExitInput) : PyDict :=
  match evaluateExit position input.market input.nowTs input.cfg with
  | .ok decision => position.update decision.statePatch
  | .error _ => position

def positionAfter (position : PyDict) (inputs : List ExitInput) : PyDict :=
  inputs.foldl patched position

/-- A price of a position, once it is there, is kept or replaced by one at least as good. -/
def KeepsPrice (side key : String) (before after : PyDict) : Prop :=
  ∀ price, toFloat? (before.get key) = some price →
    ∃ later, toFloat? (after.get key) = some later ∧ Favours side price later

/-- Neither the stop nor the best price moves against the side of the position. -/
structure Guarded (before after : PyDict) : Prop where
  side : exitSide after = exitSide before
  stop : KeepsPrice (exitSide before) "current_sl" before after
  best : KeepsPrice (exitSide before) "best_price_seen" before after

theorem KeepsPrice.refl (side key : String) (position : PyDict) :
    KeepsPrice side key position position :=
  fun price read => ⟨price, read, .refl side (ne_nan_of_toFloat? read)⟩

theorem KeepsPrice.trans {side key : String} {first second third : PyDict}
    (left : KeepsPrice side key first second) (right : KeepsPrice side key second third) :
    KeepsPrice side key first third := by
  intro price read
  obtain ⟨middle, ofMiddle, better⟩ := left price read
  obtain ⟨last, ofLast, best⟩ := right middle ofMiddle
  exact ⟨last, ofLast, better.trans best⟩

theorem Guarded.refl (position : PyDict) : Guarded position position :=
  ⟨rfl, .refl _ _ _, .refl _ _ _⟩

theorem Guarded.trans {first second third : PyDict} (left : Guarded first second)
    (right : Guarded second third) : Guarded first third := by
  obtain ⟨side, stop, best⟩ := right
  rw [left.side] at side stop best
  exact ⟨side, left.stop.trans stop, left.best.trans best⟩

theorem get_update_of_lookup {changes : PyDict} (distinct : Assoc.Distinct changes) {key : String} :
    (position.update changes).get key =
      ((changes.lookup key).or (position.lookup key)).getD .none := by
  unfold PyDict.get
  rw [PyDict.lookup_update position distinct]

theorem guarded_patch {decision : ExitDecision}
    (made : evaluateExit position market nowTs cfg = .ok decision) :
    Guarded position (position.update decision.statePatch) := by
  obtain ⟨reading, read, missing | ⟨tick, own, ofSl, ofPrice, sound⟩⟩ := evaluateExit_cases made
  · subst missing
    exact .refl position
  · obtain ⟨ofSide, -, readSl, readBest, value, readPrice⟩ := readPosition_eq read
    have side : tick.side = exitSide position := by
      rw [← ofSide, ← own]
      rfl
    have current : tick.currentPrice ≠ .nan := ne_nan_of_toFloat? (readPrice.symm.trans ofPrice)
    constructor
    · have same : (position.update decision.statePatch).get "side" = position.get "side" := by
        rw [get_update_of_lookup sound.distinct, sound.side]
        rfl
      unfold exitSide
      rw [same]
    · intro price ofPosition
      have found : tick.currentSl = price :=
        Option.some.inj (ofSl.symm.trans (readSl.trans ofPosition))
      rcases sound.stop with none | ⟨tightened, held, moves⟩
      · refine ⟨price, ?_, .refl _ (ne_nan_of_toFloat? ofPosition)⟩
        rw [get_update_of_lookup sound.distinct, none]
        exact ofPosition
      · obtain ⟨favours, number⟩ := favours_of_tightens moves
        rw [found, side] at favours
        refine ⟨tightened, ?_, favours⟩
        rw [get_update_of_lookup sound.distinct, held]
        exact toFloat?_float number
    · intro price ofPosition
      have prior : tick.priorBest = price := by
        unfold ExitTick.priorBest
        rw [own, readBest, ofPosition]
        rfl
      obtain ⟨favours, number⟩ :=
        tick.updatedBest_favours (ne_nan_of_toFloat? ofPosition) prior current
      rw [side] at favours
      refine ⟨tick.updatedBest, ?_, favours⟩
      rw [get_update_of_lookup sound.distinct, sound.best]
      exact toFloat?_float number

theorem guarded_patched (position : PyDict) (input : ExitInput) :
    Guarded position (patched position input) := by
  unfold patched
  cases made : evaluateExit position input.market input.nowTs input.cfg with
  | error raised => exact .refl position
  | ok decision => exact guarded_patch made

theorem guarded_run (position : PyDict) (inputs : List ExitInput) :
    Guarded position (positionAfter position inputs) := by
  induction inputs generalizing position with
  | nil => exact .refl position
  | cons input rest ih => exact (guarded_patched position input).trans (ih _)

theorem exits_of_evaluateExit {decision : ExitDecision}
    (made : evaluateExit position market nowTs cfg = .ok decision) :
    ∃ quantity, openQty position = .ok quantity ∧ decision.Exits quantity := by
  obtain ⟨reading, read, missing | ⟨tick, own, -, -, sound⟩⟩ := evaluateExit_cases made
  · refine ⟨reading.qtyUnits, (readPosition_eq read).2.1, ?_⟩
    subst missing
    exact ExitDecision.exits_of_noop rfl
  · refine ⟨reading.qtyUnits, (readPosition_eq read).2.1, ?_⟩
    rw [← own]
    exact sound.quantity

/-- In every run of evaluations whose patches are applied, the stop and the best price never
move against the position between two of its states, and what an evaluation exits is all of
the open quantity or a part that leaves some of it. -/
theorem exits_never_widen (position : PyDict) (earlier later : List ExitInput) :
    Guarded (positionAfter position earlier) (positionAfter position (earlier ++ later)) ∧
      ∀ (input : ExitInput) (decision : ExitDecision),
        evaluateExit (positionAfter position earlier) input.market input.nowTs input.cfg =
          .ok decision →
        ∃ quantity, openQty (positionAfter position earlier) = .ok quantity ∧
          decision.Exits quantity := by
  constructor
  · unfold positionAfter
    rw [List.foldl_append]
    exact guarded_run _ later
  · intro input decision made
    exact exits_of_evaluateExit made

private def stalledPosition : PyDict :=
  [("side", .str "BUY"), ("entry_price", .int 100), ("current_sl", .int 105),
    ("current_tp", .int 110), ("best_price_seen", .float (.finite (1099 / 10))),
    ("best_price_ts", .int 1), ("remaining_qty_units", .int 10), ("entry_time", .int 1)]

private def stalledInput : ExitInput :=
  { market := [("ltp", .float (.finite (1095 / 10))), ("momentum", .float (.finite (-1 / 100)))]
    nowTs := .finite 100
    cfg := [] }

/-- A long position that stalls below its target is left in part. -/
theorem exits_never_widen_stalled : ∃ (decision : ExitDecision) (quantity : Int),
    decision.action = .partialExit ∧ openQty stalledPosition = .ok quantity ∧
      decision.Exits quantity := by
  have stalls : (evaluateExit stalledPosition stalledInput.market stalledInput.nowTs
      stalledInput.cfg).toOption.map ExitDecision.action = some .partialExit := by decide +kernel
  obtain ⟨decision, made, action⟩ := Option.map_eq_some_iff.mp stalls
  obtain ⟨quantity, open_, exits⟩ :=
    (exits_never_widen stalledPosition [] []).2 stalledInput decision (eq_ok_of_toOption made)
  exact ⟨decision, quantity, action, open_, exits⟩

end Algotradify.Core.ExitIntelligence
