/-
Runs that open trades through the gate and close them in any order.

The gate and the ledger read the same trade apart. The ledger leaves out a trade without
exposure and files one with an empty symbol under another name, and a total that is not a
number passes every limit. Where the two count a trade alike, the limits of the gate hold
of the open trades.
-/

import Mathlib.Algebra.Order.BigOperators.Group.List
import Algotradify.Core.RiskEngine
import Algotradify.Py.Floats
import Algotradify.Transition.Run

namespace Algotradify.Core.Exposure

open Py Risk Transition

variable {trades : List Trade} {today : Int} {events : List Event}

abbrev OpenTrades := List (String × List Trade)

/-- A trade that is put to the gate, and what the gate reads besides. -/
structure Opening where
  group : String
  trade : Trade
  today : Int
  riskMode : Option String
  portfolio : PyDict
  regime : PyValue
  totalCapital : PyValue

inductive Event where
  | opened (opening : Opening)
  | closed (group : String) (index : ℕ)

/-- The gate let the trade in, asked with the snapshot of the open trades. -/
def Allowed (config : RiskEngineConfig) (market : Market) (before : OpenTrades)
    (opening : Opening) : Prop :=
  ∃ reason, allowTrade config market opening.today opening.riskMode opening.portfolio
    opening.regime (some opening.trade)
    (some (snapshotFromOpenTrades market opening.today opening.totalCapital before).toDict) =
      .ok (true, reason)

inductive Step (config : RiskEngineConfig) (market : Market) (equityHigh : ℚ)
    (before : OpenTrades) : Event → OpenTrades → Prop
  | opened (opening : Opening)
      (equity : toFloat (equityHighOf opening.portfolio) = .ok (.finite equityHigh))
      (allowed : Allowed config market before opening) :
      Step config market equityHigh before (.opened opening)
        (Assoc.set before opening.group
          ((before.lookup opening.group).getD [] ++ [opening.trade]))
  | closed (group : String) (index : ℕ) (trades : List Trade)
      (present : before.lookup group = some trades) (within : index < trades.length) :
      Step config market equityHigh before (.closed group index)
        (Assoc.set before group (trades.eraseIdx index))

/-- The gate and the ledger count the trade alike: both name it so, its exposure is a
positive number and its greeks are numbers. -/
structure Counted (market : Market) (trade : Trade) : Prop where
  named : gateUnderlying trade = some (ledgerUnderlying trade)
  exposure : ∃ amount : ℚ, 0 < amount ∧ estimateTradeExposure market trade = .finite amount
  greeks : ∀ today, ∃ delta vega : ℚ,
    estimateTradeGreeks market today trade = (.finite delta, .finite vega)

def exposureOf (market : Market) (trades : List Trade) : PyFloat :=
  sumFloats (trades.map (estimateTradeExposure market))

def ofUnderlying (trades : List Trade) (underlying : Option String) : List Trade :=
  trades.filter fun trade => gateUnderlying trade = underlying

def netDelta (market : Market) (today : Int) (trades : List Trade) : PyFloat :=
  sumFloats (trades.map fun trade => (estimateTradeGreeks market today trade).1)

def netVega (market : Market) (today : Int) (trades : List Trade) : PyFloat :=
  sumFloats (trades.map fun trade => (estimateTradeGreeks market today trade).2)

/-- The limits on the count and the exposure of every underlying that has open trades. -/
def WithinLimits (config : RiskEngineConfig) (market : Market) (equityHigh : ℚ)
    (trades : List Trade) : Prop :=
  ∀ trade ∈ trades,
    ((ofUnderlying trades (gateUnderlying trade)).length : Int) ≤
      config.maxPositionsPerUnderlying ∧
    (exposureOf market (ofUnderlying trades (gateUnderlying trade))).le
      (.finite (config.maxUnderlyingExposurePct * equityHigh)) = true

/-! ### Numbers of counted trades -/

def numberOf : PyFloat → ℚ
  | .finite value => value
  | _ => 0

def exposureNumber (market : Market) (trade : Trade) : ℚ :=
  numberOf (estimateTradeExposure market trade)

def deltaNumber (market : Market) (today : Int) (trade : Trade) : ℚ :=
  numberOf (estimateTradeGreeks market today trade).1

def vegaNumber (market : Market) (today : Int) (trade : Trade) : ℚ :=
  numberOf (estimateTradeGreeks market today trade).2

section

variable {market : Market} {trade : Trade}

theorem Counted.exposure_eq (counted : Counted market trade) :
    estimateTradeExposure market trade = .finite (exposureNumber market trade) ∧
      0 < exposureNumber market trade := by
  obtain ⟨amount, positive, estimated⟩ := counted.exposure
  rw [exposureNumber, estimated]
  exact ⟨rfl, positive⟩

theorem Counted.greeks_eq (counted : Counted market trade) (today : Int) :
    estimateTradeGreeks market today trade =
      (.finite (deltaNumber market today trade), .finite (vegaNumber market today trade)) := by
  obtain ⟨delta, vega, estimated⟩ := counted.greeks today
  rw [deltaNumber, vegaNumber, estimated]
  rfl

theorem exposureOf_eq (counted : ∀ trade ∈ trades, Counted market trade) :
    exposureOf market trades = .finite (trades.map (exposureNumber market)).sum :=
  sumFloats_finite trades _ _ fun trade member => (counted trade member).exposure_eq.1

theorem netDelta_eq (today : Int) (counted : ∀ trade ∈ trades, Counted market trade) :
    netDelta market today trades = .finite (trades.map (deltaNumber market today)).sum :=
  sumFloats_finite trades _ _ fun trade member => by rw [(counted trade member).greeks_eq today]

theorem netVega_eq (today : Int) (counted : ∀ trade ∈ trades, Counted market trade) :
    netVega market today trades = .finite (trades.map (vegaNumber market today)).sum :=
  sumFloats_finite trades _ _ fun trade member => by rw [(counted trade member).greeks_eq today]

/-! ### The totals of the ledger -/

structure TotalsOf (market : Market) (today : Int) (trades : List Trade) (totals : Totals) :
    Prop where
  exposure : ∀ underlying,
    (totals.exposureByUnderlying.lookup underlying).getD (.finite 0) =
      .finite ((ofUnderlying trades (some underlying)).map (exposureNumber market)).sum
  count : ∀ underlying, (totals.countByUnderlying.lookup underlying).getD 0 =
    (ofUnderlying trades (some underlying)).length
  netDelta : totals.netDelta = .finite (trades.map (deltaNumber market today)).sum
  netVega : totals.netVega = .finite (trades.map (vegaNumber market today)).sum

theorem ofUnderlying_snoc (trades : List Trade) (trade : Trade) (underlying : Option String) :
    ofUnderlying (trades ++ [trade]) underlying =
      ofUnderlying trades underlying ++ if gateUnderlying trade = underlying then [trade] else [] := by
  unfold ofUnderlying
  rw [List.filter_append, List.filter_singleton]
  simp

theorem add_of_counted {today : Int} {totals : Totals} (counted : Counted market trade) :
    (totals.add market today trade).exposureByUnderlying =
        Assoc.set totals.exposureByUnderlying (ledgerUnderlying trade)
          ((totals.exposureByUnderlying.lookup (ledgerUnderlying trade)).getD (.finite 0) +
            .finite (exposureNumber market trade)) ∧
      (totals.add market today trade).countByUnderlying =
        Assoc.set totals.countByUnderlying (ledgerUnderlying trade)
          ((totals.countByUnderlying.lookup (ledgerUnderlying trade)).getD 0 + 1) ∧
      (totals.add market today trade).netDelta =
        totals.netDelta + .finite (deltaNumber market today trade) ∧
      (totals.add market today trade).netVega =
        totals.netVega + .finite (vegaNumber market today trade) := by
  obtain ⟨exposure, positive⟩ := counted.exposure_eq
  have kept : ¬ isAtMostZero (.finite (exposureNumber market trade)) = true := by
    rw [isAtMostZero, PyFloat.finite_le]
    exact not_le.mpr positive
  unfold Totals.add
  simp [exposure, counted.greeks_eq today, kept, addAt]

theorem TotalsOf.add {totals : Totals} (sums : TotalsOf market today trades totals)
    (counted : Counted market trade) :
    TotalsOf market today (trades ++ [trade]) (totals.add market today trade) := by
  obtain ⟨exposures, counts, delta, vega⟩ := @add_of_counted market trade today totals counted
  constructor
  · intro underlying
    rw [exposures, ofUnderlying_snoc, counted.named, Assoc.lookup_set]
    by_cases own : underlying = ledgerUnderlying trade
    · subst own
      rw [if_pos rfl, if_pos rfl, Option.getD_some, sums.exposure, PyFloat.finite_add,
        List.map_append, List.sum_append, List.map_singleton, List.sum_singleton]
    · have other : ¬ some (ledgerUnderlying trade) = some underlying := fun same =>
        own (Option.some.inj same).symm
      rw [if_neg own, if_neg other, List.append_nil, sums.exposure]
  · intro underlying
    rw [counts, ofUnderlying_snoc, counted.named, Assoc.lookup_set]
    by_cases own : underlying = ledgerUnderlying trade
    · subst own
      rw [if_pos rfl, if_pos rfl, Option.getD_some, sums.count, List.length_append]
      simp
    · have other : ¬ some (ledgerUnderlying trade) = some underlying := fun same =>
        own (Option.some.inj same).symm
      rw [if_neg own, if_neg other, List.append_nil, sums.count]
  · rw [delta, sums.netDelta, PyFloat.finite_add, List.map_append, List.sum_append,
      List.map_singleton, List.sum_singleton]
  · rw [vega, sums.netVega, PyFloat.finite_add, List.map_append, List.sum_append,
      List.map_singleton, List.sum_singleton]

theorem totalsOf_fold (today : Int) (counted : ∀ trade ∈ trades, Counted market trade) :
    TotalsOf market today trades (trades.foldl (Totals.add market today) .empty) := by
  induction trades using List.reverseRecOn with
  | nil =>
      constructor
      · intro underlying
        rfl
      · intro underlying
        rfl
      · rfl
      · rfl
  | append_singleton rest trade ih =>
      rw [List.foldl_append, List.foldl_cons, List.foldl_nil]
      exact (ih fun other member => counted other (List.mem_append_left _ member)).add
        (counted trade (List.mem_append_right _ (List.mem_singleton_self trade)))

/-! ### What the gate lets in -/

theorem refuse_run {condition : Bool} {reason : String} :
    (refuse condition reason).run = .ok (.ok ()) ↔ condition = false := by
  unfold refuse
  cases condition with
  | true =>
      constructor
      · intro passed
        cases passed
      · intro impossible
        cases impossible
  | false => exact iff_of_true rfl rfl

theorem coerceFloat_run {value : PyValue} {field : String} {number : PyFloat}
    (read : (coerceFloat value field).run = .ok (.ok number)) : toFloat value = .ok number := by
  unfold coerceFloat at read
  cases converted : toFloat value with
  | error raised =>
      rw [converted] at read
      cases read
  | ok own =>
      rw [converted] at read
      cases read
      rfl

theorem namedUnderlying_run {underlying : String}
    (named : (namedUnderlying trade).run = .ok (.ok underlying)) :
    gateUnderlying trade = some underlying := by
  unfold namedUnderlying at named
  cases own : gateUnderlying trade with
  | none =>
      rw [own] at named
      cases named
  | some name =>
      rw [own] at named
      cases named
      rfl

/-- What the portfolio checks let in, read off the state of the exposures. -/
structure Passed (config : RiskEngineConfig) (market : Market) (today : Int) (source : PyDict)
    (trade : Trade) (equityHigh : PyFloat) (regime : String) : Prop where
  checks : ∃ byUnderlying counts netDelta netVega underlying existing positions,
    entriesOf (source.get "exposure_by_underlying") = .ok byUnderlying ∧
    entriesOf (source.get "open_positions_count_by_underlying") = .ok counts ∧
    toFloat (valueOr source "net_delta" (.float (.finite 0))) = .ok netDelta ∧
    toFloat (valueOr source "net_vega" (.float (.finite 0))) = .ok netVega ∧
    gateUnderlying trade = some underlying ∧
    floatEntry byUnderlying underlying = .ok existing ∧
    toInt ((counts.get underlying).or (.int 0)) = .ok positions ∧
    (isPositive equityHigh && isAbove config.maxUnderlyingExposurePct
      ((existing + pyMax (.finite 0) (estimateTradeExposure market trade)) / equityHigh)) = false ∧
    positions + 1 ≤ config.maxPositionsPerUnderlying ∧
    isAbove (netDeltaLimit config regime)
      (netDelta + (estimateTradeGreeks market today trade).1).abs = false ∧
    isAbove (netVegaLimit config regime)
      (netVega + (estimateTradeGreeks market today trade).2).abs = false

theorem passed_of_portfolioLimitChecks {config : RiskEngineConfig} {source : PyDict}
    {equityHigh : PyFloat} {regime : String}
    (passed : (portfolioLimitChecks config market today source trade equityHigh regime).run =
      .ok (.ok ())) : Passed config market today source trade equityHigh regime := by
  obtain ⟨byUnderlying, first, passed⟩ := run_bind_eq_ok.mp passed
  obtain ⟨_byExpiry, _read, passed⟩ := run_bind_eq_ok.mp passed
  obtain ⟨counts, second, passed⟩ := run_bind_eq_ok.mp passed
  obtain ⟨netDelta, third, passed⟩ := run_bind_eq_ok.mp passed
  obtain ⟨netVega, fourth, passed⟩ := run_bind_eq_ok.mp passed
  obtain ⟨underlying, named, passed⟩ := run_bind_eq_ok.mp passed
  obtain ⟨_unit, exposed, passed⟩ := run_bind_eq_ok.mp passed
  obtain ⟨_unit, positioned, passed⟩ := run_bind_eq_ok.mp passed
  obtain ⟨_unit, _expiry, passed⟩ := run_bind_eq_ok.mp passed
  obtain ⟨_unit, delta, vega⟩ := run_bind_eq_ok.mp passed
  obtain ⟨existing, held, exposed⟩ := run_bind_eq_ok.mp exposed
  obtain ⟨positions, counted, positioned⟩ := run_bind_eq_ok.mp positioned
  have room := of_decide_eq_false (refuse_run.mp positioned)
  exact ⟨byUnderlying, counts, netDelta, netVega, underlying, existing, positions,
    run_lift_eq_ok.mp first, run_lift_eq_ok.mp second, coerceFloat_run third,
    coerceFloat_run fourth, namedUnderlying_run named, run_lift_eq_ok.mp held,
    run_lift_eq_ok.mp counted, refuse_run.mp exposed, by omega, refuse_run.mp delta,
    refuse_run.mp vega⟩

/-! ### The state of the exposures, as the gate reads it -/

theorem entriesOf_dict (entries : PyDict) : entriesOf (.dict entries) = .ok entries := by
  cases entries with
  | nil => rfl
  | cons first rest => rfl

theorem or_float (number : PyFloat) :
    toFloat ((PyValue.float number).or (.float (.finite 0))) = .ok number := by
  unfold PyValue.or
  by_cases zero : (PyValue.float number).truthy = true
  · rw [if_pos zero]
    rfl
  · rw [if_neg zero]
    cases number with
    | finite value =>
        have none : value = 0 := by simpa [PyValue.truthy, PyFloat.truthy] using zero
        rw [none]
        rfl
    | _ => exact absurd rfl zero

theorem or_int (number : Int) : toInt ((PyValue.int number).or (.int 0)) = .ok number := by
  unfold PyValue.or
  by_cases zero : (PyValue.int number).truthy = true
  · rw [if_pos zero]
    rfl
  · have none : number = 0 := by simpa [PyValue.truthy] using zero
    rw [if_neg zero, none]
    rfl

theorem floatEntry_floats (entries : List (String × PyFloat)) (key : String) :
    floatEntry (Assoc.mapValues PyValue.float entries) key =
      .ok ((entries.lookup key).getD (.finite 0)) := by
  unfold floatEntry PyDict.get
  rw [Assoc.lookup_mapValues]
  cases entries.lookup key with
  | none => exact or_float (.finite 0)
  | some number => exact or_float number

theorem intEntry_ints (entries : List (String × Int)) (key : String) :
    toInt ((PyDict.get (Assoc.mapValues PyValue.int entries) key).or (.int 0)) =
      .ok ((entries.lookup key).getD 0) := by
  unfold PyDict.get
  rw [Assoc.lookup_mapValues]
  cases entries.lookup key with
  | none => exact or_int 0
  | some number => exact or_int number

/-- There is room for a trade: the limits hold with it added to the open trades. -/
structure Room (config : RiskEngineConfig) (market : Market) (today : Int) (trades : List Trade)
    (trade : Trade) (equityHigh : ℚ) (regime : String) : Prop where
  positions : ((ofUnderlying trades (gateUnderlying trade)).length : Int) + 1 ≤
    config.maxPositionsPerUnderlying
  exposure : ((ofUnderlying trades (gateUnderlying trade)).map (exposureNumber market)).sum +
    exposureNumber market trade ≤ config.maxUnderlyingExposurePct * equityHigh
  delta : |(trades.map (deltaNumber market today)).sum + deltaNumber market today trade| ≤
    netDeltaLimit config regime
  vega : |(trades.map (vegaNumber market today)).sum + vegaNumber market today trade| ≤
    netVegaLimit config regime

theorem abs_finite (value : ℚ) : (PyFloat.finite value).abs = .finite |value| := by
  unfold PyFloat.abs
  rfl

theorem isAbove_eq_false {limit value : ℚ} (within : isAbove limit (.finite value) = false) :
    value ≤ limit := by
  unfold isAbove PyFloat.lt at within
  exact not_lt.mp (of_decide_eq_false within)

theorem Passed.room {config : RiskEngineConfig} {totalCapital : PyValue} {openTrades : OpenTrades}
    {equityHigh : ℚ} {regime : String}
    (open_counted : ∀ other ∈ tradesOf openTrades, Counted market other)
    (counted : Counted market trade) (positive : 0 < equityHigh)
    (passed : Passed config market today
      (snapshotFromOpenTrades market today totalCapital openTrades).toDict trade
      (.finite equityHigh) regime) :
    Room config market today (tradesOf openTrades) trade equityHigh regime := by
  obtain ⟨byUnderlying, counts, netDelta, netVega, underlying, existing, positions, first, second,
    third, fourth, named, held, number, exposed, room, delta, vega⟩ := passed.checks
  have sums := totalsOf_fold today open_counted
  obtain ⟨own, ownPositive⟩ := counted.exposure_eq
  have exposures : byUnderlying = Assoc.mapValues PyValue.float
      ((tradesOf openTrades).foldl (Totals.add market today) .empty).exposureByUnderlying :=
    (Except.ok.inj ((entriesOf_dict _).symm.trans first)).symm
  have numbers : counts = Assoc.mapValues PyValue.int
      ((tradesOf openTrades).foldl (Totals.add market today) .empty).countByUnderlying :=
    (Except.ok.inj ((entriesOf_dict _).symm.trans second)).symm
  have deltas : netDelta =
      ((tradesOf openTrades).foldl (Totals.add market today) .empty).netDelta :=
    (Except.ok.inj third).symm
  have vegas : netVega = ((tradesOf openTrades).foldl (Totals.add market today) .empty).netVega :=
    (Except.ok.inj fourth).symm
  rw [exposures, floatEntry_floats, sums.exposure] at held
  rw [numbers, intEntry_ints, sums.count] at number
  have existing_eq := Except.ok.inj held
  have positions_eq := Except.ok.inj number
  rw [deltas, sums.netDelta, counted.greeks_eq today, PyFloat.finite_add, abs_finite] at delta
  rw [vegas, sums.netVega, counted.greeks_eq today, PyFloat.finite_add, abs_finite] at vega
  have larger : pyMax (.finite 0) (.finite (exposureNumber market trade)) =
      .finite (exposureNumber market trade) := by
    unfold pyMax
    rw [if_pos ((PyFloat.finite_lt _ _).mpr ownPositive)]
  have above : isPositive (.finite equityHigh) = true := (PyFloat.finite_lt _ _).mpr positive
  rw [above, Bool.true_and, own, larger, ← existing_eq, PyFloat.finite_add,
    PyFloat.finite_div] at exposed
  have share := isAbove_eq_false exposed
  rw [div_le_iff₀ positive] at share
  constructor
  · rw [named, positions_eq]
    exact room
  · rw [named]
    exact share
  · exact isAbove_eq_false delta
  · exact isAbove_eq_false vega

theorem passed_of_allowTrade {config : RiskEngineConfig} {riskMode : Option String}
    {portfolio source : PyDict} {regime : PyValue} {reason : String} {equityHigh : ℚ}
    (equity : toFloat (equityHighOf portfolio) = .ok (.finite equityHigh))
    (allowed : allowTrade config market today riskMode portfolio regime (some trade)
      (some source) = .ok (true, reason)) :
    0 < equityHigh ∧
      Passed config market today source trade (.finite equityHigh)
        (resolveRegime portfolio regime) := by
  have gate : (tradeGate config market today riskMode portfolio regime (some trade)
      (some source)).run = .ok (.ok ()) := by
    unfold allowTrade at allowed
    split at allowed
    · assumption
    · cases allowed
    · cases allowed
  obtain ⟨_unit, _mode, gate⟩ := run_bind_eq_ok.mp gate
  obtain ⟨number, asked, gate⟩ := run_bind_eq_ok.mp gate
  obtain ⟨_unit, _day, limits⟩ := run_bind_eq_ok.mp gate
  obtain ⟨own, read, asked⟩ := run_bind_eq_ok.mp asked
  obtain ⟨_unit, above, returned⟩ := run_bind_eq_ok.mp asked
  have same : own = .finite equityHigh :=
    Except.ok.inj ((coerceFloat_run read).symm.trans equity)
  have kept : own = number := Except.ok.inj (Except.ok.inj returned)
  subst same
  constructor
  · have positive := refuse_run.mp above
    rw [isAtMostZero, Bool.eq_false_iff, ne_eq, PyFloat.finite_le] at positive
    exact not_le.mp positive
  · rw [← kept] at limits
    exact passed_of_portfolioLimitChecks limits

end

/-! ### The limits under an opening and a closing -/

theorem tradesOf_opened (openTrades : OpenTrades) (group : String) (trade : Trade) :
    (tradesOf (Assoc.set openTrades group
      ((openTrades.lookup group).getD [] ++ [trade]))).Perm (trade :: tradesOf openTrades) := by
  unfold tradesOf
  induction openTrades with
  | nil => exact .refl _
  | cons head rest ih =>
      obtain ⟨name, trades⟩ := head
      by_cases here : group = name
      · rw [here, Assoc.set, if_pos rfl, Assoc.lookup_cons_self, Option.getD_some]
        simp only [List.flatMap_cons, List.append_assoc, List.singleton_append]
        exact List.perm_middle
      · rw [Assoc.set, if_neg here, Assoc.lookup_cons_of_ne here]
        simp only [List.flatMap_cons]
        exact (ih.append_left trades).trans List.perm_middle

theorem tradesOf_closed {openTrades : OpenTrades} {group : String}
    (present : openTrades.lookup group = some trades) (index : ℕ) :
    (tradesOf (Assoc.set openTrades group (trades.eraseIdx index))).Sublist
      (tradesOf openTrades) := by
  unfold tradesOf
  induction openTrades with
  | nil => cases present
  | cons head rest ih =>
      obtain ⟨name, held⟩ := head
      by_cases here : group = name
      · rw [here, Assoc.lookup_cons_self] at present
        have same := Option.some.inj present
        rw [here, Assoc.set, if_pos rfl, ← same]
        simp only [List.flatMap_cons]
        exact (List.eraseIdx_sublist held index).append (List.Sublist.refl _)
      · rw [Assoc.lookup_cons_of_ne here] at present
        rw [Assoc.set, if_neg here]
        simp only [List.flatMap_cons]
        exact (List.Sublist.refl held).append (ih present)

def CountsWithin (config : RiskEngineConfig) (market : Market) (equityHigh : ℚ)
    (trades : List Trade) : Prop :=
  ∀ trade ∈ trades,
    ((ofUnderlying trades (gateUnderlying trade)).length : Int) ≤
      config.maxPositionsPerUnderlying ∧
    ((ofUnderlying trades (gateUnderlying trade)).map (exposureNumber market)).sum ≤
      config.maxUnderlyingExposurePct * equityHigh

section

variable {config : RiskEngineConfig} {market : Market} {equityHigh : ℚ}

theorem withinLimits_iff (counted : ∀ trade ∈ trades, Counted market trade) :
    WithinLimits config market equityHigh trades ↔ CountsWithin config market equityHigh trades := by
  apply forall_congr'
  intro trade
  apply forall_congr'
  intro _member
  have own : ∀ other ∈ ofUnderlying trades (gateUnderlying trade), Counted market other :=
    fun other found => counted other (List.mem_of_mem_filter found)
  rw [exposureOf_eq own, PyFloat.finite_le]

theorem CountsWithin.perm {others : List Trade} (same : others.Perm trades)
    (within : CountsWithin config market equityHigh trades) :
    CountsWithin config market equityHigh others := by
  intro trade member
  have filtered : (ofUnderlying others (gateUnderlying trade)).Perm
      (ofUnderlying trades (gateUnderlying trade)) := same.filter _
  rw [filtered.length_eq, (filtered.map (exposureNumber market)).sum_eq]
  exact within trade (same.mem_iff.mp member)

theorem CountsWithin.sublist {fewer : List Trade} (closed : fewer.Sublist trades)
    (counted : ∀ trade ∈ trades, Counted market trade)
    (within : CountsWithin config market equityHigh trades) :
    CountsWithin config market equityHigh fewer := by
  intro trade member
  obtain ⟨positions, exposure⟩ := within trade (closed.subset member)
  have own : (ofUnderlying fewer (gateUnderlying trade)).Sublist
      (ofUnderlying trades (gateUnderlying trade)) := closed.filter _
  have smaller : ((ofUnderlying fewer (gateUnderlying trade)).map (exposureNumber market)).sum ≤
      ((ofUnderlying trades (gateUnderlying trade)).map (exposureNumber market)).sum := by
    apply (own.map _).sum_le_sum
    intro number present
    obtain ⟨other, found, value⟩ := List.mem_map.mp present
    rw [← value]
    exact (counted other (List.mem_of_mem_filter found)).exposure_eq.2.le
  have fewerPositions := own.length_le
  exact ⟨by omega, smaller.trans exposure⟩

theorem ofUnderlying_cons (trades : List Trade) (trade : Trade) (underlying : Option String) :
    ofUnderlying (trade :: trades) underlying =
      if gateUnderlying trade = underlying then trade :: ofUnderlying trades underlying
      else ofUnderlying trades underlying := by
  unfold ofUnderlying
  rw [List.filter_cons]
  simp

theorem CountsWithin.cons {today : Int} {trades : List Trade} {trade : Trade} {regime : String}
    (within : CountsWithin config market equityHigh trades)
    (room : Room config market today trades trade equityHigh regime) :
    CountsWithin config market equityHigh (trade :: trades) := by
  intro other member
  by_cases same : gateUnderlying trade = gateUnderlying other
  · have positions := room.positions
    have exposure := room.exposure
    rw [ofUnderlying_cons, ← same, if_pos rfl, List.length_cons, List.map_cons, List.sum_cons]
    exact ⟨by push_cast; omega, by linarith⟩
  · rw [ofUnderlying_cons, if_neg same]
    rcases List.mem_cons.mp member with own | older
    · exact absurd (congrArg gateUnderlying own.symm) same
    · exact within other older

/-! ### Runs -/

/-- What the open trades and the events so far are known to satisfy. -/
structure Sound (config : RiskEngineConfig) (market : Market) (equityHigh : ℚ)
    (events : List Event) (openTrades : OpenTrades) : Prop where
  counted : ∀ trade ∈ tradesOf openTrades, Counted market trade
  within : CountsWithin config market equityHigh (tradesOf openTrades)
  greeks : ∀ earlier last, events = earlier ++ [.opened last] →
    |((tradesOf openTrades).map (deltaNumber market last.today)).sum| ≤
      netDeltaLimit config (resolveRegime last.portfolio last.regime) ∧
    |((tradesOf openTrades).map (vegaNumber market last.today)).sum| ≤
      netVegaLimit config (resolveRegime last.portfolio last.regime)

theorem Sound.opened {before : OpenTrades} {opening : Opening}
    (sound : Sound config market equityHigh events before)
    (equity : toFloat (equityHighOf opening.portfolio) = .ok (.finite equityHigh))
    (allowed : Allowed config market before opening) (counted : Counted market opening.trade) :
    Sound config market equityHigh (events ++ [.opened opening])
      (Assoc.set before opening.group
        ((before.lookup opening.group).getD [] ++ [opening.trade])) := by
  obtain ⟨reason, allowed⟩ := allowed
  obtain ⟨positive, passed⟩ := passed_of_allowTrade equity allowed
  have room := passed.room sound.counted counted positive
  have same := tradesOf_opened before opening.group opening.trade
  constructor
  · intro trade member
    rcases List.mem_cons.mp (same.mem_iff.mp member) with own | older
    · rw [own]
      exact counted
    · exact sound.counted trade older
  · exact (sound.within.cons room).perm same
  · intro earlier last history
    have own : last = opening :=
      (Event.opened.inj (List.singleton_inj.mp (List.append_inj_right' history rfl))).symm
    subst own
    rw [(same.map _).sum_eq, (same.map (vegaNumber market last.today)).sum_eq, List.map_cons,
      List.map_cons, List.sum_cons, List.sum_cons, add_comm, add_comm (vegaNumber _ _ _)]
    exact ⟨room.delta, room.vega⟩

theorem Sound.closed {before : OpenTrades} {group : String} {index : ℕ}
    (sound : Sound config market equityHigh events before)
    (present : before.lookup group = some trades) :
    Sound config market equityHigh (events ++ [.closed group index])
      (Assoc.set before group (trades.eraseIdx index)) := by
  have fewer := tradesOf_closed present index
  constructor
  · intro trade member
    exact sound.counted trade (fewer.subset member)
  · exact sound.within.sublist fewer sound.counted
  · intro earlier last history
    have impossible := List.singleton_inj.mp (List.append_inj_right' history rfl)
    cases impossible

theorem sound_run {start finish : OpenTrades}
    (run : Run (Step config market equityHigh) start events finish) (empty : tradesOf start = [])
    (counted : ∀ opening, Event.opened opening ∈ events → Counted market opening.trade) :
    Sound config market equityHigh events finish := by
  induction run with
  | nil =>
      constructor
      · intro trade member
        rw [empty] at member
        cases member
      · intro trade member
        rw [empty] at member
        cases member
      · intro earlier last impossible
        exact absurd impossible.symm (List.append_ne_nil_of_right_ne_nil _ (List.cons_ne_nil _ _))
  | snoc _run stepped ih =>
      have sound := ih fun opening member => counted opening (List.mem_append_left _ member)
      cases stepped with
      | opened opening equity allowed =>
          exact sound.opened equity allowed
            (counted opening (List.mem_append_right _ (List.mem_singleton_self _)))
      | closed group index trades present within => exact sound.closed present

/-- In every run that starts without open trades and opens trades which the gate and the
ledger count alike, the limits hold of what is open; after an opening the greeks are within
the limits of a trade that was opened. -/
theorem limits_hold_of_counted {start finish : OpenTrades} {events : List Event}
    (run : Run (Step config market equityHigh) start events finish)
    (empty : tradesOf start = [])
    (counted : ∀ opening, Event.opened opening ∈ events → Counted market opening.trade) :
    WithinLimits config market equityHigh (tradesOf finish) ∧
      ∀ earlier last, events = earlier ++ [.opened last] →
        ∃ used, Event.opened used ∈ events ∧
          (netDelta market last.today (tradesOf finish)).abs.le
            (.finite (netDeltaLimit config (resolveRegime used.portfolio used.regime))) = true ∧
          (netVega market last.today (tradesOf finish)).abs.le
            (.finite (netVegaLimit config (resolveRegime used.portfolio used.regime))) = true := by
  have sound := sound_run run empty counted
  constructor
  · exact (withinLimits_iff sound.counted).mpr sound.within
  · intro earlier last history
    obtain ⟨delta, vega⟩ := sound.greeks earlier last history
    refine ⟨last, ?_, ?_, ?_⟩
    · rw [history]
      exact List.mem_append_right _ (List.mem_singleton_self _)
    · rw [netDelta_eq last.today sound.counted, abs_finite, PyFloat.finite_le]
      exact delta
    · rw [netVega_eq last.today sound.counted, abs_finite, PyFloat.finite_le]
      exact vega

end

/-! ### A trade without prices -/

def defaultLimits : RiskEngineConfig :=
  { maxDailyLossPct := 2 / 100
    maxTradesPerDay := 5
    maxOpenRiskPct := 2 / 100
    maxNetDelta := 200
    maxNetVega := 120
    dailyProfitLock := 12 / 1000
    symbolDailyProfitLock := 6 / 1000
    dailyDrawdownLock := -1 / 100
    maxUnderlyingExposurePct := 4 / 10
    maxPositionsPerUnderlying := 3
    maxExpiryConcentrationPct := 65 / 100
    eventNetDeltaMult := 1 / 2
    eventNetVegaMult := 1 / 2
    dailyLossMult := { event := 1 / 2, trend := 1, range := 1 }
    openRiskMult := { event := 6 / 10, trend := 1, range := 1 }
    maxTradesMult := { event := 6 / 10, trend := 1, range := 1 } }

def niftyMarket : Market :=
  { lotSize := [("NIFTY", 50)]
    sqrt := id
    expiryDay := fun _ => none }

def quietPortfolio : PyDict :=
  [("equity_high", .int 100000), ("capital", .int 100000), ("daily_pnl_pct", .int 0),
    ("open_risk_pct", .int 0)]

def openingOf (trade : Trade) : Opening :=
  { group := "NIFTY"
    trade := trade
    today := 0
    riskMode := none
    portfolio := quietPortfolio
    regime := .none
    totalCapital := .int 100000 }

def unpriced : Opening :=
  openingOf [("symbol", .str "NIFTY"), ("qty_units", .int 50)]

theorem unpriced_allowed (count : ℕ) (small : count < 4) :
    Allowed defaultLimits niftyMarket
      (if count = 0 then [] else [("NIFTY", List.replicate count unpriced.trade)]) unpriced := by
  refine ⟨"OK", eq_ok_of_toOption ?_⟩
  revert count
  decide +kernel

/-- Four trades are open where three are the limit. -/
theorem four_unpriced :
    ∃ finish, Run (Step defaultLimits niftyMarket 100000) []
        [.opened unpriced, .opened unpriced, .opened unpriced, .opened unpriced] finish ∧
      ¬ WithinLimits defaultLimits niftyMarket 100000 (tradesOf finish) := by
  have equity : toFloat (equityHighOf unpriced.portfolio) = .ok (.finite 100000) := rfl
  refine ⟨[("NIFTY", List.replicate 4 unpriced.trade)],
    .cons (.opened unpriced equity (unpriced_allowed 0 (by decide)))
      (.cons (.opened unpriced equity (unpriced_allowed 1 (by decide)))
        (.cons (.opened unpriced equity (unpriced_allowed 2 (by decide)))
          (.cons (.opened unpriced equity (unpriced_allowed 3 (by decide))) .nil))), ?_⟩
  intro within
  have positions := (within unpriced.trade (List.mem_append_left _
    (List.mem_replicate.mpr ⟨by decide, rfl⟩))).1
  revert positions
  decide +kernel

def future : Opening :=
  openingOf [("symbol", .str "NIFTY"), ("instrument_type", .str "FUT"),
    ("entry_price", .int 100), ("qty_units", .int 50)]

theorem future_counted : Counted niftyMarket future.trade := by
  have quantity : inferQtyUnits niftyMarket future.trade = .finite 50 := by decide +kernel
  have kind : instrumentType future.trade = "FUT" := by decide +kernel
  have side : sideSign future.trade = .finite 1 := by decide +kernel
  constructor
  · decide +kernel
  · exact ⟨5000, by decide +kernel, by decide +kernel⟩
  · intro today
    refine ⟨50, 0, ?_⟩
    unfold estimateTradeGreeks
    simp only [quantity, side]
    have held : ¬ isAtMostZero (.finite 50) = true := by decide +kernel
    rw [if_neg held, if_pos kind, PyFloat.finite_mul, one_mul]

theorem limits_hold_of_counted_future :
    ∃ finish, WithinLimits defaultLimits niftyMarket 100000 (tradesOf finish) ∧
      (tradesOf finish).length = 1 := by
  have run : Run (Step defaultLimits niftyMarket 100000) [] [.opened future]
      [("NIFTY", [future.trade])] :=
    .cons (.opened future rfl ⟨"OK", eq_ok_of_toOption (by decide +kernel)⟩) .nil
  refine ⟨_, (limits_hold_of_counted run rfl ?_).1, rfl⟩
  intro opening member
  cases member with
  | head => exact future_counted
  | tail _ rest => cases rest

end Algotradify.Core.Exposure
