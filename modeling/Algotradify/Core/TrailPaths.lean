/-
Exit intelligence along two paths of the price.

The stop trails the best price only at a tick that moves the best price by a whole step of its
own, outside the cooldown. Two paths to one best price leave one stop where both have such a
tick at the best price.
-/

import Algotradify.Core.ExitIntelligence

namespace Algotradify.Core.ExitIntelligence

open Py Risk

variable {before after candidate stop entry : PyFloat} {decision : ExitDecision} {side : String}

/-! ### Prices -/

theorem posInf_scale {factor : ℚ} (positive : 0 < factor) :
    PyFloat.posInf * .finite factor = .posInf := by
  change PyFloat.infinityOfSign (some (1 * (if factor < 0 then -1 else if factor = 0 then 0 else 1)))
    = .posInf
  rw [if_neg (not_lt.mpr positive.le), if_neg positive.ne']
  rfl

theorem negInf_scale {factor : ℚ} (positive : 0 < factor) :
    PyFloat.negInf * .finite factor = .negInf := by
  change PyFloat.infinityOfSign
    (some (-1 * (if factor < 0 then -1 else if factor = 0 then 0 else 1))) = .negInf
  rw [if_neg (not_lt.mpr positive.le), if_neg positive.ne']
  rfl

theorem scale_mono {factor : ℚ} (positive : 0 < factor) (atMost : before.le after = true) :
    (before * .finite factor).le (after * .finite factor) = true := by
  cases before with
  | nan => cases after <;> cases atMost
  | negInf =>
      rw [negInf_scale positive]
      cases after with
      | nan => cases atMost
      | finite => rfl
      | posInf => rw [posInf_scale positive]; rfl
      | negInf => rw [negInf_scale positive]; rfl
  | posInf =>
      rw [posInf_scale positive]
      cases after with
      | nan | negInf | finite => cases atMost
      | posInf => rw [posInf_scale positive]; rfl
  | finite left =>
      cases after with
      | nan | negInf => cases atMost
      | posInf => rw [posInf_scale positive]; rfl
      | finite right =>
          rw [PyFloat.finite_le] at atMost
          rw [PyFloat.finite_mul, PyFloat.finite_mul, PyFloat.finite_le]
          exact mul_le_mul_of_nonneg_right atMost positive.le

theorem add_mono (distance : ℚ) (atMost : before.le after = true) :
    (before + .finite distance).le (after + .finite distance) = true := by
  cases before with
  | nan => cases after <;> cases atMost
  | negInf => cases after <;> cases atMost <;> rfl
  | posInf =>
      cases after <;> cases atMost
      rfl
  | finite left =>
      cases after with
      | nan | negInf => cases atMost
      | posInf => rfl
      | finite right =>
          rw [PyFloat.finite_le] at atMost
          rw [PyFloat.finite_add, PyFloat.finite_add, PyFloat.finite_le]
          exact add_le_add_left atMost distance

/-! ### Settings -/

structure TrailSettings where
  trigger : PyFloat
  buffer : PyFloat
  step : PyFloat
  offset : ℚ
  range : Option ℚ
  inside : |offset| < 1

/-- The distance of the stop from the best price by the range of the market, where it is
used. -/
def trailRange (cfg market : PyDict) (atrMult : PyFloat) : Option PyFloat :=
  let atr := orDefault (toFloat? (market.get "atr")) (.finite 0)
  if (getAttr cfg "EXIT_INTEL_TRAIL_USE_ATR" (.bool true)).truthy && (PyFloat.finite 0).lt atr then
    some (atr * atrMult)
  else none

structure TrailSettings.Read (settings : TrailSettings) (input : ExitInput) : Prop where
  trigger : floatAttr input.cfg "EXIT_INTEL_PROFIT_PROTECT_TRIGGER_PCT" (1 / 100) =
    .ok settings.trigger
  buffer : floatAttr input.cfg "EXIT_INTEL_BREAK_EVEN_BUFFER_PCT" (5 / 10000) =
    .ok settings.buffer
  offset : floatAttr input.cfg "EXIT_INTEL_TRAIL_OFFSET_PCT" (5 / 1000) =
    .ok (.finite settings.offset)
  step : floatAttr input.cfg "EXIT_INTEL_TRAIL_STEP_PCT" (2 / 1000) = .ok settings.step
  range : ∃ atrMult, floatAttr input.cfg "EXIT_INTEL_TRAIL_ATR_MULT" (8 / 10) = .ok atrMult ∧
    trailRange input.cfg input.market atrMult = settings.range.map .finite

def movedBy (side : String) (price fraction : PyFloat) : PyFloat :=
  price * (if side = "BUY" then .finite 1 + fraction else .finite 1 - fraction)

namespace TrailSettings

variable (settings : TrailSettings)

def protectFrom (side : String) (entry : PyFloat) : PyFloat :=
  movedBy side entry settings.trigger

def breakEven (side : String) (entry : PyFloat) : PyFloat :=
  movedBy side entry settings.buffer

def level (side : String) (best : PyFloat) : PyFloat :=
  match settings.range with
  | some range => if side = "BUY" then best - .finite range else best + .finite range
  | none =>
      best * (if side = "BUY" then .finite 1 - .finite settings.offset
        else .finite 1 + .finite settings.offset)

theorem level_mono (side : String) (better : Favours side before after) :
    Favours side (settings.level side before) (settings.level side after) := by
  have inside := abs_lt.mp settings.inside
  unfold Favours betterPrice at *
  unfold level
  by_cases long : side = "BUY"
  · simp only [if_pos long] at better ⊢
    cases settings.range with
    | none =>
        rw [PyFloat.finite_sub]
        exact scale_mono (by linarith) better
    | some range => exact add_mono (-range) better
  · simp only [if_neg long] at better ⊢
    cases settings.range with
    | none =>
        rw [PyFloat.finite_add]
        exact scale_mono (by linarith) better
    | some range => exact add_mono range better

end TrailSettings

theorem ExitTick.trailCandidate_eq {settings : TrailSettings} {input : ExitInput} (tick : ExitTick)
    {atrMult : PyFloat}
    (range : trailRange input.cfg input.market atrMult = settings.range.map .finite) :
    tick.trailCandidate input.cfg input.market (.finite settings.offset) atrMult =
      settings.level tick.side tick.updatedBest := by
  unfold trailRange at range
  unfold trailCandidate TrailSettings.level
  simp only at range ⊢
  cases held : settings.range with
  | none =>
      rw [held] at range
      split at range
      · cases range
      · rename_i unused
        rw [if_neg unused]
  | some distance =>
      rw [held] at range
      split at range
      · rename_i used
        rw [if_pos used, Option.some.inj range]
      · cases range

/-! ### Ticks -/

def tickOf (position : PyDict) (input : ExitInput) : Option ExitTick := do
  let reading ← (readPosition position input.market input.nowTs).toOption
  let prices ← reading.prices?
  let maxQuoteAgeSec ← (floatAttr input.cfg "EXIT_INTEL_MAX_QUOTE_AGE_SEC" (25 / 10)).toOption
  let safe := deriveSafeMode input.market
    (getAttr input.cfg "ALLOW_STALE_LTP" (.bool false)).truthy maxQuoteAgeSec
  some
    { toExitPrices := prices
      reading := reading
      nowTs := input.nowTs
      safeMode := safe.1
      safeReason := safe.2 }

def stopPrice (position : PyDict) : Option PyFloat := toFloat? (position.get "current_sl")

def bestPrice (position : PyDict) : Option PyFloat := toFloat? (position.get "best_price_seen")

def entryPrice (position : PyDict) : Option PyFloat := toFloat? (position.get "entry_price")

theorem patch_cases {position : PyDict} {input : ExitInput}
    (made : evaluateExit position input.market input.nowTs input.cfg = .ok decision) :
    decision.statePatch = [] ∨ ∃ tick, tickOf position input = some tick ∧
      tick.evaluate position input.market input.cfg = .ok decision := by
  unfold evaluateExit at made
  obtain ⟨reading, read, made⟩ := bind_eq_ok.mp made
  cases complete : reading.prices? with
  | none =>
      rw [complete] at made
      left
      rw [← Except.ok.inj made]
      rfl
  | some prices =>
      rw [complete] at made
      obtain ⟨maxAge, ofAge, made⟩ := bind_eq_ok.mp made
      right
      refine ⟨_, ?_, made⟩
      unfold tickOf
      rw [read, ofAge]
      simp only [Except.toOption, Option.bind_eq_bind, Option.bind_some]
      rw [complete]
      rfl

theorem evaluateExit_of_tickOf {position : PyDict} {input : ExitInput} {tick : ExitTick}
    (found : tickOf position input = some tick) :
    evaluateExit position input.market input.nowTs input.cfg =
      tick.evaluate position input.market input.cfg := by
  unfold tickOf at found
  simp only [Option.bind_eq_bind, Option.bind_eq_some_iff] at found
  obtain ⟨reading, read, prices, complete, maxAge, ofAge, made⟩ := found
  unfold evaluateExit
  rw [eq_ok_of_toOption read]
  simp only [Except.bind, bind]
  rw [complete]
  simp only
  rw [eq_ok_of_toOption ofAge]
  rw [← Option.some.inj made]

structure ExitTick.Of (tick : ExitTick) (position : PyDict) : Prop where
  side : tick.side = exitSide position
  entry : entryPrice position = some tick.entry
  stop : stopPrice position = some tick.currentSl
  best : tick.priorBest = (bestPrice position).getD tick.entry
  current : tick.currentPrice ≠ .nan

theorem tickOf_of {position : PyDict} {input : ExitInput} {tick : ExitTick}
    (found : tickOf position input = some tick) : tick.Of position := by
  unfold tickOf at found
  simp only [Option.bind_eq_bind, Option.bind_eq_some_iff] at found
  obtain ⟨reading, read, prices, complete, maxAge, -, made⟩ := found
  cases Option.some.inj made
  unfold readPosition at read
  obtain ⟨quantity, -, read⟩ := bind_eq_ok.mp (eq_ok_of_toOption read)
  obtain ⟨counter, -, read⟩ := bind_eq_ok.mp read
  cases Except.ok.inj read
  unfold ExitReading.prices? at complete
  simp only [Option.bind_eq_bind, Option.bind_eq_some_iff] at complete
  obtain ⟨entry, ofEntry, currentSl, ofSl, currentTp, -, currentPrice, ofPrice, chosen⟩ := complete
  split at chosen
  · cases chosen
  · cases chosen
    exact ⟨rfl, ofEntry, ofSl, rfl, ne_nan_of_toFloat? ofPrice⟩

/-! ### What a decision does to the stop -/

namespace ExitTick

variable {tick : ExitTick} {settings : TrailSettings} {position : PyDict} {input : ExitInput}

structure Decides (tick : ExitTick) (position cfg : PyDict) : Prop where
  stays : tick.hardExit position cfg = .ok none
  cooled : tick.cooldown cfg = .ok none

structure Protects (tick : ExitTick) (settings : TrailSettings) (position : PyDict)
    (input : ExitInput) : Prop extends tick.Decides position input.cfg where
  ready : betterPrice tick.side tick.currentPrice
    (settings.protectFrom tick.side tick.entry) = true

/-- Profit protection leaves the tick to the trailing stop, and the tick moves the best price by
a whole step. -/
structure Trails (tick : ExitTick) (settings : TrailSettings) (position : PyDict)
    (input : ExitInput) : Prop extends tick.Decides position input.cfg where
  unprotected : tick.profitProtect input.cfg = .ok none
  stepped : (tick.entry.abs * settings.step).le (tick.updatedBest - tick.priorBest).abs = true

/-- A stop that the tick may put in place of the current one. -/
def Proposes (tick : ExitTick) (settings : TrailSettings) (position : PyDict) (input : ExitInput)
    (candidate : PyFloat) : Prop :=
  (tick.Protects settings position input ∧
      candidate = settings.breakEven tick.side tick.entry) ∨
    (tick.Trails settings position input ∧
      candidate = settings.level tick.side tick.updatedBest)

/-- A patch leaves the entry price alone, and moves the stop only to a proposed one. -/
structure Patches (tick : ExitTick) (settings : TrailSettings) (position : PyDict)
    (input : ExitInput) (patch : PyDict) : Prop where
  entry : patch.lookup "entry_price" = none
  stop : patch.lookup "current_sl" = none ∨
    ∃ candidate, tick.Proposes settings position input candidate ∧
      tightens tick.side tick.currentSl (tightenStop tick.side tick.currentSl candidate) = true ∧
      patch.lookup "current_sl" =
        some (.float (tightenStop tick.side tick.currentSl candidate))

theorem lookup_decision {changes : PyDict} (distinct : Assoc.Distinct changes) {key : String}
    (absent : key ∉ tick.basePatch.keys) :
    (tick.basePatch.update changes).lookup key = changes.lookup key := by
  rw [PyDict.lookup_update _ distinct, Assoc.lookup_eq_none_iff.mpr absent, Option.or_none]

theorem patches_of_quiet {changes patch : PyDict} (made : patch = tick.basePatch.update changes)
    (distinct : Assoc.Distinct changes) (entry : changes.lookup "entry_price" = none)
    (stop : changes.lookup "current_sl" = none) : tick.Patches settings position input patch := by
  constructor
  · rw [made, lookup_decision distinct (by simp [basePatch, PyDict.keys])]
    exact entry
  · left
    rw [made, lookup_decision distinct (by simp [basePatch, PyDict.keys])]
    exact stop

theorem hardExit_patches (made : tick.hardExit position input.cfg = .ok (some decision)) :
    tick.Patches settings position input decision.statePatch := by
  unfold hardExit at made
  obtain ⟨maxHold, -, made⟩ := bind_eq_ok.mp made
  have chosen := Except.ok.inj made
  simp only at chosen
  split at chosen
  · cases chosen
    exact patches_of_quiet rfl (by simp [Assoc.Distinct]) rfl rfl
  · cases chosen

theorem cooldown_patches (made : tick.cooldown input.cfg = .ok (some decision)) :
    tick.Patches settings position input decision.statePatch := by
  unfold cooldown at made
  obtain ⟨cooldownSec, -, made⟩ := bind_eq_ok.mp made
  have chosen := Except.ok.inj made
  split at chosen
  · cases chosen
    exact patches_of_quiet rfl (by simp [Assoc.Distinct]) rfl rfl
  · cases chosen

theorem stall_patches (made : tick.stall input.cfg input.market = .ok (some decision)) :
    tick.Patches settings position input decision.statePatch := by
  unfold stall at made
  obtain ⟨target, -, made⟩ := bind_eq_ok.mp made
  obtain ⟨seconds, -, made⟩ := bind_eq_ok.mp made
  obtain ⟨threshold, -, made⟩ := bind_eq_ok.mp made
  split at made
  · obtain ⟨⟨action, quantity⟩, -, made⟩ := bind_eq_ok.mp made
    simp only at made
    split at made
    · cases Except.ok.inj made
      exact patches_of_quiet rfl (by simp [Assoc.Distinct]) rfl rfl
    · cases Except.ok.inj made
      exact patches_of_quiet rfl (by simp [Assoc.Distinct]) rfl rfl
  · cases made

theorem noSignal_patches (tick : ExitTick) :
    tick.Patches settings position input tick.noSignal.statePatch := by
  unfold noSignal
  split
  · exact patches_of_quiet rfl (by simp [Assoc.Distinct]) rfl rfl
  · exact patches_of_quiet rfl (by simp [Assoc.Distinct]) rfl rfl

theorem moveStop_patches {phase reason : String}
    (made : tick.moveStop candidate phase reason = some decision)
    (proposed : tick.Proposes settings position input candidate) :
    tick.Patches settings position input decision.statePatch := by
  unfold moveStop at made
  simp only at made
  split at made
  · rename_i moves
    cases made
    constructor
    · change (tick.basePatch.update _).lookup "entry_price" = none
      rw [lookup_decision (by simp [Assoc.Distinct]) (by simp [basePatch, PyDict.keys])]
      rfl
    · right
      refine ⟨candidate, proposed, moves, ?_⟩
      change (tick.basePatch.update _).lookup "current_sl" = _
      rw [lookup_decision (by simp [Assoc.Distinct]) (by simp [basePatch, PyDict.keys])]
      rfl
  · cases made

theorem orNext_cases {stage : Except PyError (Option ExitDecision)}
    {next : Except PyError ExitDecision} (made : orNext stage next = .ok decision) :
    stage = .ok (some decision) ∨ stage = .ok none ∧ next = .ok decision := by
  unfold orNext at made
  obtain ⟨found, ran, made⟩ := bind_eq_ok.mp made
  cases found with
  | none => exact .inr ⟨ran, made⟩
  | some earlier =>
      cases made
      exact .inl ran

theorem evaluate_patches (reads : settings.Read input)
    (made : tick.evaluate position input.market input.cfg = .ok decision) :
    tick.Patches settings position input decision.statePatch := by
  unfold evaluate at made
  rcases orNext_cases made with exits | ⟨stays, made⟩
  · exact hardExit_patches exits
  rcases orNext_cases made with cooling | ⟨cooled, made⟩
  · exact cooldown_patches cooling
  rcases orNext_cases made with protects | ⟨unprotected, made⟩
  · unfold profitProtect at protects
    rw [reads.trigger, reads.buffer] at protects
    have chosen := Except.ok.inj protects
    split at chosen
    · rename_i ready
      exact moveStop_patches chosen (.inl ⟨⟨⟨stays, cooled⟩, ready⟩, rfl⟩)
    · cases chosen
  rcases orNext_cases made with trails | ⟨-, made⟩
  · unfold trail at trails
    obtain ⟨atrMult, ofMult, range⟩ := reads.range
    rw [reads.offset, reads.step, ofMult] at trails
    have chosen := Except.ok.inj trails
    split at chosen
    · rename_i stepped
      apply moveStop_patches chosen
      right
      exact ⟨⟨⟨stays, cooled⟩, unprotected, stepped⟩, trailCandidate_eq tick range⟩
    · cases chosen
  rcases orNext_cases made with stalls | ⟨-, made⟩
  · exact stall_patches stalls
  · rw [← Except.ok.inj made]
    exact noSignal_patches tick

end ExitTick

/-! ### Stops -/

theorem floats_antisymm {left right : PyFloat} (atMost : left.le right = true)
    (atLeast : right.le left = true) : left = right := by
  cases left with
  | nan => cases right <;> cases atMost
  | posInf => cases right <;> first | rfl | cases atMost
  | negInf => cases right <;> first | rfl | cases atLeast
  | finite before =>
      cases right with
      | nan | negInf => cases atMost
      | posInf => cases atLeast
      | finite after =>
          rw [PyFloat.finite_le] at atMost atLeast
          rw [le_antisymm atMost atLeast]

theorem Favours.antisymm {left right : PyFloat} (better : Favours side left right)
    (worse : Favours side right left) : left = right := by
  unfold Favours betterPrice at better worse
  by_cases long : side = "BUY"
  · rw [if_pos long] at better worse
    exact floats_antisymm better worse
  · rw [if_neg long] at better worse
    exact floats_antisymm worse better

theorem exitSide_cases (position : PyDict) :
    exitSide position = "BUY" ∨ exitSide position = "SELL" := by
  unfold exitSide
  simp only
  split
  · rename_i known
    simpa using known
  · left
    rfl

theorem tightenStop_of_tightens
    (moves : tightens side stop (tightenStop side stop candidate) = true) :
    tightenStop side stop candidate = candidate := by
  have irreflexive : stop.lt stop = false := by cases stop <;> simp [PyFloat.lt]
  unfold tightens at moves
  unfold tightenStop pyMax pyMin at *
  split_ifs at * with long less more
  · rfl
  · simp [long, irreflexive] at moves
  · rfl
  · simp [long, irreflexive] at moves

theorem favours_of_not_tightens (known : side = "BUY" ∨ side = "SELL") (stopNumber : stop ≠ .nan)
    (number : candidate ≠ .nan)
    (stays : tightens side stop (tightenStop side stop candidate) = false) :
    Favours side candidate stop := by
  unfold Favours betterPrice
  rcases known with rfl | rfl
  · rw [if_pos rfl]
    apply PyFloat.le_of_not_lt number stopNumber
    intro less
    simp [tightens, tightenStop, pyMax, less] at stays
  · rw [if_neg (by decide)]
    apply PyFloat.le_of_not_lt stopNumber number
    intro less
    simp [tightens, tightenStop, pyMin, less] at stays

/-! ### Steps -/

def startBest (position : PyDict) (entry : PyFloat) : PyFloat :=
  (bestPrice position).getD entry

structure Steps (settings : TrailSettings) (position : PyDict) (input : ExitInput)
    (tick : ExitTick) : Prop where
  found : tickOf position input = some tick
  entry : entryPrice (patched position input) = entryPrice position
  best : bestPrice (patched position input) = some tick.updatedBest
  better : Favours (exitSide position) tick.priorBest tick.updatedBest
  stop : stopPrice (patched position input) = stopPrice position ∨
    ∃ candidate, tick.Proposes settings position input candidate ∧
      stopPrice (patched position input) = some candidate

section Steps

variable {settings : TrailSettings} {position : PyDict} {input : ExitInput}

theorem ExitTick.Of.priorBest_ne_nan {tick : ExitTick} (ofTick : tick.Of position) :
    tick.priorBest ≠ .nan := by
  rw [ofTick.best]
  cases held : bestPrice position with
  | none => exact ne_nan_of_toFloat? ofTick.entry
  | some best => exact ne_nan_of_toFloat? held

theorem patched_cases (position : PyDict) (reads : settings.Read input) :
    patched position input = position ∨ ∃ tick, Steps settings position input tick := by
  cases made : evaluateExit position input.market input.nowTs input.cfg with
  | error raised =>
      left
      unfold patched
      rw [made]
  | ok decision =>
      have same : patched position input = position.update decision.statePatch := by
        unfold patched
        rw [made]
      rcases patch_cases made with empty | ⟨tick, found, decided⟩
      · left
        rw [same, empty]
        rfl
      right
      have ofTick := tickOf_of found
      have sound := ExitTick.evaluate_sound decided
      have own := ExitTick.evaluate_patches reads decided
      obtain ⟨better, number⟩ :=
        tick.updatedBest_favours ofTick.priorBest_ne_nan rfl ofTick.current
      rw [ofTick.side] at better
      refine ⟨tick, found, ?_, ?_, better, ?_⟩
      · unfold entryPrice
        rw [same, get_update_of_lookup sound.distinct, own.entry]
        rfl
      · unfold bestPrice
        rw [same, get_update_of_lookup sound.distinct, sound.best]
        exact toFloat?_float number
      · unfold stopPrice
        rw [same, get_update_of_lookup sound.distinct]
        rcases own.stop with quiet | ⟨candidate, proposed, moves, held⟩
        · left
          rw [quiet]
          rfl
        · right
          have newNumber := (favours_of_tightens moves).2
          rw [tightenStop_of_tightens moves] at held newNumber
          refine ⟨candidate, proposed, ?_⟩
          rw [held]
          exact toFloat?_float newNumber

theorem entryPrice_patched (reads : settings.Read input) :
    entryPrice (patched position input) = entryPrice position := by
  rcases patched_cases position reads with same | ⟨tick, step⟩
  · rw [same]
  · exact step.entry

theorem startBest_patched (reads : settings.Read input) (entered : entryPrice position = some entry) :
    Favours (exitSide position) (startBest position entry)
      (startBest (patched position input) entry) := by
  rcases patched_cases position reads with same | ⟨tick, step⟩
  · rw [same]
    apply Favours.refl
    unfold startBest
    cases held : bestPrice position with
    | none => exact ne_nan_of_toFloat? entered
    | some best => exact ne_nan_of_toFloat? held
  · have ofTick := tickOf_of step.found
    have same : tick.entry = entry := Option.some.inj (ofTick.entry.symm.trans entered)
    unfold startBest
    rw [step.best, ← same, ← ofTick.best]
    exact step.better

theorem stop_of_moveStop {tick : ExitTick} (phase reason : String)
    (rest : Except PyError ExitDecision) (found : tickOf position input = some tick)
    (number : candidate ≠ .nan) (decides : tick.evaluate position input.market input.cfg =
      (tick.moveStop candidate phase reason).elim rest .ok) :
    ∃ stop, stopPrice (patched position input) = some stop ∧
      Favours (exitSide position) candidate stop := by
  have ofTick := tickOf_of found
  cases moved : tick.moveStop candidate phase reason with
  | none =>
      obtain ⟨stop, held, better⟩ :=
        (guarded_patched position input).stop tick.currentSl ofTick.stop
      refine ⟨stop, held, Favours.trans ?_ better⟩
      apply favours_of_not_tightens (exitSide_cases position) (ne_nan_of_toFloat? ofTick.stop)
        number
      unfold ExitTick.moveStop at moved
      simp only at moved
      split at moved
      · cases moved
      · rename_i stays
        rw [ofTick.side] at stays
        exact Bool.eq_false_iff.mpr stays
  | some decision =>
      have made : evaluateExit position input.market input.nowTs input.cfg = .ok decision := by
        rw [evaluateExit_of_tickOf found, decides, moved]
        rfl
      have same : patched position input = position.update decision.statePatch := by
        unfold patched
        rw [made]
      have sound := ExitTick.moveStop_sound moved
      unfold ExitTick.moveStop at moved
      simp only at moved
      split at moved
      · rename_i moves
        have becomes := tightenStop_of_tightens moves
        refine ⟨candidate, ?_, .refl _ number⟩
        unfold stopPrice
        rw [same, get_update_of_lookup sound.distinct]
        cases moved
        change toFloat? ((((tick.basePatch.update _).lookup "current_sl").or _).getD .none) = _
        rw [ExitTick.lookup_decision (by simp [Assoc.Distinct])
          (by simp [ExitTick.basePatch, PyDict.keys]), becomes]
        exact toFloat?_float number
      · cases moved

theorem ExitTick.trail_eq {tick : ExitTick} (reads : settings.Read input)
    (trails : tick.Trails settings position input) :
    tick.trail input.cfg input.market =
      .ok (tick.moveStop (settings.level tick.side tick.updatedBest) "TRAIL" "trail_upgrade") := by
  obtain ⟨atrMult, ofMult, range⟩ := reads.range
  unfold ExitTick.trail
  rw [reads.offset, reads.step, ofMult]
  change Except.ok (ite _ _ _) = _
  rw [if_pos trails.stepped, ExitTick.trailCandidate_eq tick range]

theorem ExitTick.profitProtect_eq {tick : ExitTick} (reads : settings.Read input)
    (protects : tick.Protects settings position input) :
    tick.profitProtect input.cfg =
      .ok (tick.moveStop (settings.breakEven tick.side tick.entry) "PROTECT"
        "profit_protect_be") := by
  unfold ExitTick.profitProtect
  rw [reads.trigger, reads.buffer]
  change Except.ok (ite _ _ _) = _
  rw [if_pos]
  · rfl
  · exact protects.ready

theorem stop_of_trails {tick : ExitTick} (reads : settings.Read input)
    (found : tickOf position input = some tick) (trails : tick.Trails settings position input)
    (number : settings.level tick.side tick.updatedBest ≠ .nan) :
    ∃ stop, stopPrice (patched position input) = some stop ∧
      Favours (exitSide position) (settings.level tick.side tick.updatedBest) stop := by
  apply stop_of_moveStop "TRAIL" "trail_upgrade"
    (ExitTick.orNext (tick.stall input.cfg input.market) (pure tick.noSignal)) found number
  unfold ExitTick.evaluate
  rw [trails.stays, trails.cooled, trails.unprotected, ExitTick.trail_eq reads trails]
  rfl

theorem stop_of_protects {tick : ExitTick} (reads : settings.Read input)
    (found : tickOf position input = some tick) (protects : tick.Protects settings position input)
    (number : settings.breakEven tick.side tick.entry ≠ .nan) :
    ∃ stop, stopPrice (patched position input) = some stop ∧
      Favours (exitSide position) (settings.breakEven tick.side tick.entry) stop := by
  apply stop_of_moveStop "PROTECT" "profit_protect_be"
    (ExitTick.orNext (tick.trail input.cfg input.market)
      (ExitTick.orNext (tick.stall input.cfg input.market) (pure tick.noSignal))) found number
  unfold ExitTick.evaluate
  rw [protects.stays, protects.cooled, ExitTick.profitProtect_eq reads protects]
  rfl

end Steps

/-! ### Paths -/

section Paths

variable {settings : TrailSettings} {position : PyDict} {best : PyFloat}
variable {inputs : List ExitInput}

/-- A tick of the run is of a kind, at the position that it finds. -/
def Occurs (kind : ExitTick → PyDict → ExitInput → Prop) (position : PyDict)
    (inputs : List ExitInput) : Prop :=
  ∃ (earlier : List ExitInput) (input : ExitInput) (later : List ExitInput) (tick : ExitTick),
    inputs = earlier ++ input :: later ∧
      tickOf (positionAfter position earlier) input = some tick ∧
      kind tick (positionAfter position earlier) input

/-- A tick decides on trailing while the best price is the given one. -/
def TrailsAt (settings : TrailSettings) (best : PyFloat) (tick : ExitTick) (position : PyDict)
    (input : ExitInput) : Prop :=
  tick.Trails settings position input ∧ tick.updatedBest = best

def NoTighter (position : PyDict) (candidate : PyFloat) : Prop :=
  ∀ stop, stopPrice position = some stop →
    tightens (exitSide position) stop (tightenStop (exitSide position) stop candidate) = false

/-- The stop follows the run to its best price: where the level of the best price is tighter
than the first stop and the best price has moved, some tick decides on trailing there, and where
the best price reaches the protection of profit, some tick protects it, or the level of the best
price is the better stop. -/
structure Followed (settings : TrailSettings) (position : PyDict) (best : PyFloat)
    (inputs : List ExitInput) : Prop where
  trailed : Occurs (TrailsAt settings best) position inputs ∨
    NoTighter position (settings.level (exitSide position) best) ∨
    ∀ entry, entryPrice position = some entry →
      startBest position entry = best ∧ (PyFloat.finite 0).lt (entry.abs * settings.step) = true
  protected_ : ∀ entry, entryPrice position = some entry →
    betterPrice (exitSide position) best
        (settings.protectFrom (exitSide position) entry) = false ∨
      NoTighter position (settings.breakEven (exitSide position) entry) ∨
      Occurs (fun tick => tick.Protects settings) position inputs ∨
      Occurs (TrailsAt settings best) position inputs ∧
        Favours (exitSide position) (settings.breakEven (exitSide position) entry)
          (settings.level (exitSide position) best)

theorem positionAfter_snoc (position : PyDict) (inputs : List ExitInput) (input : ExitInput) :
    positionAfter position (inputs ++ [input]) = patched (positionAfter position inputs) input := by
  unfold positionAfter
  rw [List.foldl_append]
  rfl

theorem positionAfter_append (position : PyDict) (earlier later : List ExitInput) :
    positionAfter position (earlier ++ later) =
      positionAfter (positionAfter position earlier) later := by
  unfold positionAfter
  rw [List.foldl_append]

theorem exitSide_after (position : PyDict) (inputs : List ExitInput) :
    exitSide (positionAfter position inputs) = exitSide position :=
  (guarded_run position inputs).side

theorem entryPrice_after (reads : ∀ input ∈ inputs, settings.Read input) :
    entryPrice (positionAfter position inputs) = entryPrice position := by
  induction inputs using List.reverseRecOn with
  | nil => rfl
  | append_singleton inputs input ih =>
      rw [positionAfter_snoc, entryPrice_patched (reads input (by simp))]
      apply ih
      intro earlier member
      exact reads earlier (by simp [member])

theorem startBest_after (reads : ∀ input ∈ inputs, settings.Read input)
    (entered : entryPrice position = some entry) :
    Favours (exitSide position) (startBest position entry)
      (startBest (positionAfter position inputs) entry) := by
  induction inputs using List.reverseRecOn with
  | nil =>
      apply Favours.refl
      unfold startBest
      cases held : bestPrice position with
      | none => exact ne_nan_of_toFloat? entered
      | some best => exact ne_nan_of_toFloat? held
  | append_singleton inputs input ih =>
      have earlier : ∀ input ∈ inputs, settings.Read input := by
        intro input member
        exact reads input (by simp [member])
      have step := startBest_patched (reads input (by simp))
        ((entryPrice_after earlier).trans entered)
      rw [positionAfter_snoc]
      rw [exitSide_after] at step
      exact (ih earlier).trans step

theorem stop_after (reads : ∀ input ∈ inputs, settings.Read input)
    (held : stopPrice (positionAfter position inputs) = some stop) :
    stopPrice position = some stop ∨
      Occurs (fun tick before input => tick.Proposes settings before input stop ∧
        bestPrice (patched before input) = some tick.updatedBest) position inputs := by
  induction inputs using List.reverseRecOn with
  | nil => exact .inl held
  | append_singleton inputs input ih =>
      have earlier : ∀ input ∈ inputs, settings.Read input := by
        intro input member
        exact reads input (by simp [member])
      have before : stopPrice (positionAfter position inputs) = some stop →
          stopPrice position = some stop ∨
            Occurs (fun tick before input => tick.Proposes settings before input stop ∧
              bestPrice (patched before input) = some tick.updatedBest) position
              (inputs ++ [input]) := by
        intro kept
        rcases ih earlier kept with first | ⟨front, middle, back, tick, split, found⟩
        · exact .inl first
        · right
          refine ⟨front, middle, back ++ [input], tick, ?_, found⟩
          rw [split]
          simp
      rw [positionAfter_snoc] at held
      rcases patched_cases (positionAfter position inputs) (reads input (by simp)) with
        same | ⟨tick, step⟩
      · rw [same] at held
        exact before held
      rcases step.stop with kept | ⟨candidate, proposed, moved⟩
      · rw [kept] at held
        exact before held
      · right
        have same := Option.some.inj (moved.symm.trans held)
        subst same
        exact ⟨inputs, input, [], tick, rfl, step.found, proposed, step.best⟩

theorem stop_kept {earlier : List ExitInput} (later : List ExitInput) {input : ExitInput}
    (step : ∃ stop, stopPrice (patched (positionAfter position earlier) input) = some stop ∧
      Favours (exitSide (positionAfter position earlier)) candidate stop) :
    ∃ stop, stopPrice (positionAfter position (earlier ++ input :: later)) = some stop ∧
      Favours (exitSide position) candidate stop := by
  obtain ⟨stop, held, better⟩ := step
  have run := guarded_run (patched (positionAfter position earlier) input) later
  obtain ⟨last, ofLast, best⟩ := run.stop stop held
  rw [exitSide_after] at better
  rw [(guarded_patched _ input).side, exitSide_after] at best
  refine ⟨last, ?_, better.trans best⟩
  rw [positionAfter_append]
  exact ofLast

theorem stop_present (reads : ∀ input ∈ inputs, settings.Read input)
    (held : stopPrice (positionAfter position inputs) = some stop) :
    ∃ first, stopPrice position = some first := by
  induction inputs using List.reverseRecOn generalizing stop with
  | nil => exact ⟨stop, held⟩
  | append_singleton inputs input ih =>
      have earlier : ∀ input ∈ inputs, settings.Read input := by
        intro input member
        exact reads input (by simp [member])
      rw [positionAfter_snoc] at held
      rcases patched_cases (positionAfter position inputs) (reads input (by simp)) with
        same | ⟨tick, step⟩
      · rw [same] at held
        exact ih earlier held
      · exact ih earlier (tickOf_of step.found).stop

theorem stop_absent (reads : ∀ input ∈ inputs, settings.Read input)
    (absent : stopPrice position = none) : stopPrice (positionAfter position inputs) = none := by
  cases held : stopPrice (positionAfter position inputs) with
  | none => rfl
  | some stop =>
      obtain ⟨first, present⟩ := stop_present reads held
      rw [absent] at present
      cases present

theorem Favours.ne_nan (better : Favours side before after) :
    after ≠ .nan := by
  rintro rfl
  unfold Favours betterPrice at better
  split at better
  · cases before <;> cases better
  · cases before <;> cases better

theorem favours_first (none_tighter : NoTighter position candidate) (number : candidate ≠ .nan)
    {first : PyFloat} (present : stopPrice position = some first)
    (held : stopPrice (positionAfter position inputs) = some stop) :
    Favours (exitSide position) candidate stop := by
  obtain ⟨last, ofLast, better⟩ := (guarded_run position inputs).stop first present
  rw [← Option.some.inj (ofLast.symm.trans held)]
  apply Favours.trans _ better
  exact favours_of_not_tightens (exitSide_cases position) (ne_nan_of_toFloat? present) number
    (none_tighter first present)

theorem favours_level (reads : ∀ input ∈ inputs, settings.Read input)
    (occurs : Occurs (TrailsAt settings best) position inputs)
    (number : settings.level (exitSide position) best ≠ .nan)
    (held : stopPrice (positionAfter position inputs) = some stop) :
    Favours (exitSide position) (settings.level (exitSide position) best) stop := by
  obtain ⟨earlier, input, later, tick, rfl, found, trails, atBest⟩ := occurs
  have side : tick.side = exitSide position :=
    (tickOf_of found).side.trans (exitSide_after position earlier)
  have step := stop_of_trails (reads input (by simp)) found trails (by rw [side, atBest]; exact number)
  obtain ⟨last, ofLast, better⟩ := stop_kept later step
  rw [← Option.some.inj (ofLast.symm.trans held)]
  rw [side, atBest] at better
  exact better

theorem favours_breakEven (reads : ∀ input ∈ inputs, settings.Read input)
    (entered : entryPrice position = some entry)
    (occurs : Occurs (fun tick => tick.Protects settings) position inputs)
    (number : settings.breakEven (exitSide position) entry ≠ .nan)
    (held : stopPrice (positionAfter position inputs) = some stop) :
    Favours (exitSide position) (settings.breakEven (exitSide position) entry) stop := by
  obtain ⟨earlier, input, later, tick, rfl, found, protects⟩ := occurs
  have ofTick := tickOf_of found
  have side : tick.side = exitSide position := ofTick.side.trans (exitSide_after position earlier)
  have before : ∀ input ∈ earlier, settings.Read input := by
    intro input member
    exact reads input (by simp [member])
  have same : tick.entry = entry :=
    Option.some.inj (ofTick.entry.symm.trans ((entryPrice_after before).trans entered))
  have step := stop_of_protects (reads input (by simp)) found protects
    (by rw [side, same]; exact number)
  obtain ⟨last, ofLast, better⟩ := stop_kept later step
  rw [← Option.some.inj (ofLast.symm.trans held)]
  rw [side, same] at better
  exact better

theorem not_stepped_self {threshold : PyFloat} (positive : (PyFloat.finite 0).lt threshold = true)
    (price : PyFloat) : threshold.le (price - price).abs = false := by
  apply Bool.eq_false_iff.mpr
  intro reached
  have above := PyFloat.lt_of_lt_of_le positive reached
  cases price with
  | nan | posInf | negInf => cases above
  | finite value =>
      rw [PyFloat.finite_sub, sub_self] at above
      simp [PyFloat.abs] at above

theorem floats_le_of_not_le {left right : PyFloat} (leftNumber : left ≠ .nan) (rightNumber : right ≠ .nan)
    (above : left.le right = false) : right.le left = true := by
  apply PyFloat.le_of_not_lt rightNumber leftNumber
  intro less
  rw [PyFloat.le_of_lt less] at above
  cases above

theorem current_favours_updatedBest {tick : ExitTick} {before : PyDict} (ofTick : tick.Of before) :
    Favours tick.side tick.currentPrice tick.updatedBest := by
  unfold ExitTick.updatedBest
  cases better : tick.madeNewBest with
  | true =>
      rw [if_pos rfl]
      exact .refl _ ofTick.current
  | false =>
      rw [if_neg (by simp)]
      unfold ExitTick.madeNewBest betterPrice at better
      unfold Favours betterPrice
      by_cases long : tick.side = "BUY"
      · rw [if_pos long] at better ⊢
        exact floats_le_of_not_le ofTick.priorBest_ne_nan ofTick.current better
      · rw [if_neg long] at better ⊢
        exact floats_le_of_not_le ofTick.current ofTick.priorBest_ne_nan better

end Paths

/-! ### Two paths -/

section TwoPaths

variable {settings : TrailSettings} {position : PyDict} {best : PyFloat}
variable {left right : List ExitInput}

theorem stop_not_behind (readsLeft : ∀ input ∈ left, settings.Read input)
    (readsRight : ∀ input ∈ right, settings.Read input)
    (followed : Followed settings position best left)
    (reached : bestPrice (positionAfter position right) = some best) {other : PyFloat}
    (held : stopPrice (positionAfter position right) = some stop)
    (ofLeft : stopPrice (positionAfter position left) = some other) :
    Favours (exitSide position) stop other := by
  obtain ⟨first, present⟩ := stop_present readsLeft ofLeft
  rcases stop_after readsRight held with same | occurs
  · obtain ⟨last, ofLast, better⟩ := (guarded_run position left).stop stop same
    rw [← Option.some.inj (ofLast.symm.trans ofLeft)]
    exact better
  obtain ⟨earlier, input, later, tick, split, found, proposed, recorded⟩ := occurs
  have before : ∀ input ∈ earlier, settings.Read input := by
    intro input member
    exact readsRight input (by simp [split, member])
  have after : ∀ input ∈ later, settings.Read input := by
    intro input member
    exact readsRight input (by simp [split, member])
  have ofTick := tickOf_of found
  have side : tick.side = exitSide position := ofTick.side.trans (exitSide_after position earlier)
  have entered : entryPrice position = some tick.entry :=
    (entryPrice_after before).symm.trans ofTick.entry
  have number : stop ≠ .nan := ne_nan_of_toFloat? held
  have atMost : Favours (exitSide position) tick.updatedBest best := by
    rw [split, positionAfter_append] at reached
    have later_entered :=
      (entryPrice_patched (readsRight input (by simp [split]))).trans ofTick.entry
    have run := startBest_after after later_entered
    change bestPrice (positionAfter (patched (positionAfter position earlier) input) later) =
      some best at reached
    unfold startBest at run
    rw [recorded, reached, (guarded_patched _ input).side, exitSide_after] at run
    exact run
  rcases proposed with ⟨protects, own⟩ | ⟨trails, own⟩
  · rw [side] at own
    subst own
    rcases followed.protected_ tick.entry entered with short | loose | occurs | ⟨occurs, better⟩
    · have ready := protects.ready
      have reaches := current_favours_updatedBest ofTick
      rw [side] at ready reaches
      have reaches : Favours (exitSide position) (settings.protectFrom (exitSide position) tick.entry)
        best := Favours.trans ready (reaches.trans atMost)
      unfold Favours at reaches
      rw [short] at reaches
      cases reaches
    · exact favours_first loose number present ofLeft
    · exact favours_breakEven readsLeft entered occurs number ofLeft
    · exact better.trans (favours_level readsLeft occurs better.ne_nan ofLeft)
  · rw [side] at own
    have atLeast := settings.level_mono (exitSide position) atMost
    rw [own]
    rcases followed.trailed with occurs | loose | unmoved
    · exact atLeast.trans (favours_level readsLeft occurs atLeast.ne_nan ofLeft)
    · exact atLeast.trans (favours_first loose atLeast.ne_nan present ofLeft)
    · obtain ⟨start, positive⟩ := unmoved tick.entry entered
      have fromStart := startBest_after before entered
      have raised := (tick.updatedBest_favours ofTick.priorBest_ne_nan rfl ofTick.current).1
      have prior : startBest (positionAfter position earlier) tick.entry = tick.priorBest :=
        ofTick.best.symm
      rw [start, prior] at fromStart
      rw [side] at raised
      have same : tick.updatedBest = tick.priorBest :=
        Favours.antisymm (atMost.trans fromStart) raised
      have stepped := trails.stepped
      rw [same, not_stepped_self positive] at stepped
      cases stepped

/-- Two runs that the stop follows to the same best price leave the same stop. -/
theorem stop_same_of_followed (settings : TrailSettings) (position : PyDict) (best : PyFloat)
    (left right : List ExitInput)
    (reads : ∀ input ∈ left ++ right, settings.Read input)
    (reachedLeft : bestPrice (positionAfter position left) = some best)
    (reachedRight : bestPrice (positionAfter position right) = some best)
    (followedLeft : Followed settings position best left)
    (followedRight : Followed settings position best right) :
    stopPrice (positionAfter position left) = stopPrice (positionAfter position right) := by
  have readsLeft : ∀ input ∈ left, settings.Read input := by
    intro input member
    exact reads input (List.mem_append_left _ member)
  have readsRight : ∀ input ∈ right, settings.Read input := by
    intro input member
    exact reads input (List.mem_append_right _ member)
  cases present : stopPrice position with
  | none =>
      rw [stop_absent readsLeft present, stop_absent readsRight present]
  | some first =>
      obtain ⟨stop, ofLeft, -⟩ := (guarded_run position left).stop first present
      obtain ⟨other, ofRight, -⟩ := (guarded_run position right).stop first present
      have ofLeft : stopPrice (positionAfter position left) = some stop := ofLeft
      have ofRight : stopPrice (positionAfter position right) = some other := ofRight
      have forth := stop_not_behind readsRight readsLeft followedRight reachedLeft ofLeft ofRight
      have back := stop_not_behind readsLeft readsRight followedLeft reachedRight ofRight ofLeft
      rw [ofLeft, ofRight, forth.antisymm back]

end TwoPaths

/-! ### Checks -/

def undecided : Except PyError (Option ExitDecision) → Bool
  | .ok none => true
  | _ => false

theorem eq_ok_none_of_undecided {stage : Except PyError (Option ExitDecision)}
    (passes : undecided stage = true) : stage = .ok none := by
  cases stage with
  | error raised => cases passes
  | ok found =>
      cases found with
      | none => rfl
      | some decision => cases passes

def pastCooldown (position : PyDict) (input : ExitInput) : Bool :=
  (tickOf position input).any fun tick => undecided (tick.cooldown input.cfg)

def trailsAt (settings : TrailSettings) (best : PyFloat) (position : PyDict) (input : ExitInput) :
    Bool :=
  (tickOf position input).any fun tick =>
    undecided (tick.hardExit position input.cfg) && undecided (tick.cooldown input.cfg) &&
      undecided (tick.profitProtect input.cfg) &&
      (tick.entry.abs * settings.step).le (tick.updatedBest - tick.priorBest).abs &&
      decide (tick.updatedBest = best)

theorem occurs_of_trailsAt {settings : TrailSettings} {best : PyFloat} {position : PyDict}
    (earlier : List ExitInput) {input : ExitInput} (later : List ExitInput)
    (trails : trailsAt settings best (positionAfter position earlier) input = true) :
    Occurs (TrailsAt settings best) position (earlier ++ input :: later) := by
  unfold trailsAt at trails
  cases found : tickOf (positionAfter position earlier) input with
  | none =>
      rw [found] at trails
      cases trails
  | some tick =>
      rw [found, Option.any_some] at trails
      simp only [Bool.and_eq_true, decide_eq_true_eq] at trails
      obtain ⟨⟨⟨⟨stays, cooled⟩, unprotected⟩, stepped⟩, atBest⟩ := trails
      have decides : tick.Decides (positionAfter position earlier) input.cfg :=
        ⟨eq_ok_none_of_undecided stays, eq_ok_none_of_undecided cooled⟩
      exact ⟨earlier, input, later, tick, rfl, found,
        ⟨decides, eq_ok_none_of_undecided unprotected, stepped⟩, atBest⟩

private def longPosition : PyDict :=
  [("side", .str "BUY"), ("entry_price", .int 100), ("current_sl", .int 99),
    ("current_tp", .int 110), ("remaining_qty_units", .int 10), ("entry_time", .int 1)]

private def quoteAt (price : ℚ) (nowTs : ℚ) : ExitInput :=
  { market := [("ltp", .float (.finite price))]
    nowTs := .finite nowTs
    cfg := [] }

/-- A best price that is reached in one jump trails the stop, and the same best price that is
reached in two small steps does not. -/
theorem stop_depends_on_path : ¬ ∀ (position : PyDict) (left right : List ExitInput)
    (last : ExitInput) (best : PyFloat),
    (∀ input ∈ left ++ right, input.cfg = last.cfg) →
    bestPrice (positionAfter position (left ++ [last])) = some best →
    bestPrice (positionAfter position (right ++ [last])) = some best →
    pastCooldown (positionAfter position left) last = true →
    pastCooldown (positionAfter position right) last = true →
    stopPrice (positionAfter position (left ++ [last])) =
      stopPrice (positionAfter position (right ++ [last])) := by
  intro independent
  have same := independent longPosition [] [quoteAt (10015 / 100) 50] (quoteAt (1003 / 10) 100)
    (.finite (1003 / 10)) (by simp [quoteAt]) (by decide +kernel) (by decide +kernel)
    (by decide +kernel) (by decide +kernel)
  exact absurd same (by decide +kernel)

private def standardTrail : TrailSettings :=
  { trigger := .finite (1 / 100)
    buffer := .finite (5 / 10000)
    step := .finite (2 / 1000)
    offset := 5 / 1000
    range := none
    inside := by rw [abs_lt]; constructor <;> norm_num }

private theorem standardTrail_read (price nowTs : ℚ) : standardTrail.Read (quoteAt price nowTs) := by
  exact ⟨rfl, rfl, rfl, rfl, _, rfl, rfl⟩

private theorem standardTrail_followed {inputs : List ExitInput} {best : PyFloat}
    (short : betterPrice "BUY" best (standardTrail.protectFrom "BUY" (.finite 100)) = false)
    (trails : Occurs (TrailsAt standardTrail best) longPosition inputs) :
    Followed standardTrail longPosition best inputs := by
  refine ⟨.inl trails, ?_⟩
  intro entry entered
  left
  have same : entryPrice longPosition = some (.finite 100) := by decide +kernel
  rw [← Option.some.inj (same.symm.trans entered)]
  exact short

/-- Two paths to one best price, the second one in two whole steps, leave the same stop. -/
theorem stop_same_of_followed_long :
    stopPrice (positionAfter longPosition [quoteAt (1005 / 10) 100]) =
      stopPrice (positionAfter longPosition [quoteAt (1002 / 10) 50, quoteAt (1005 / 10) 100]) := by
  apply stop_same_of_followed standardTrail longPosition (.finite (1005 / 10))
  · intro input member
    simp only [List.singleton_append, List.mem_cons, List.not_mem_nil, or_false] at member
    rcases member with rfl | rfl | rfl
    · exact standardTrail_read _ _
    · exact standardTrail_read _ _
    · exact standardTrail_read _ _
  · decide +kernel
  · decide +kernel
  · apply standardTrail_followed (by decide +kernel)
    exact occurs_of_trailsAt [] [] (by decide +kernel)
  · apply standardTrail_followed (by decide +kernel)
    exact occurs_of_trailsAt [quoteAt (1002 / 10) 50] [] (by decide +kernel)

end Algotradify.Core.ExitIntelligence
