/-
What the fills of the paper engine keep: the quantities and the average price add up, and no price
is better than the touch or worse than the limit.

Three things break it. A floor of one cent stands above a touch that is lower; the price of a
remainder is half a spread beyond the touch, whatever the limit; and the average of a remainder
divides by no less than a billionth.
-/

import Mathlib.Tactic.FieldSimp
import Mathlib.Tactic.Linarith
import Mathlib.Tactic.Positivity
import Algotradify.Core.FillRealism

namespace Algotradify.Core.FillRealism

open Py

/-! ### The promise -/

def noBetter (side : String) (touch price : ℚ) : Prop :=
  if side = "BUY" then touch ≤ price else price ≤ touch

/-- A price is not better than the touch and, for a limit order, not worse than the limit. -/
structure PriceWithin (req : FillRequest) (price : ℚ) : Prop where
  touch : ∃ touch, req.touchPrice = some touch ∧ noBetter req.sideName touch price
  limit : req.orderTypeName = "LIMIT" →
    ∃ limit, safeFloat req.limitPrice = some limit ∧ crosses req.sideName limit price = true

structure Realistic (req : FillRequest) (result : FillResult) : Prop where
  sum : (result.partialFills.map PartialFill.qty).sum = result.filledQty
  atMost : result.filledQty ≤ req.qty
  whole : result.status = .filled → result.filledQty = req.qty
  average : ∀ avgPrice, result.avgPrice = some avgPrice → avgPrice * result.filledQty =
    (result.partialFills.map fun fill => fill.qty * fill.price).sum
  averaged : result.partialFills ≠ [] → result.avgPrice ≠ none
  unfilled : result.status = .rejected ∨ result.status = .opened → result.partialFills = []
  prices : ∀ fill ∈ result.partialFills, PriceWithin req fill.price

/-! ### The condition -/

structure Quoted (cfg : FillRealismConfig) (ageMs : Option ℚ) (req : FillRequest)
    (mid touch : ℚ) : Prop where
  sided : req.sideName = "BUY" ∨ req.sideName = "SELL"
  asked : 0 < req.qty
  middle : req.mid = some mid
  priced : 0 < mid
  fresh : isStale cfg ageMs = false
  narrow : isWide cfg req mid = false
  touches : req.touchPrice = some touch
  positive : 0 < touch

/-- A limit order's limit crosses the touch, and the slipped price where that is asked for. -/
def Crossed (cfg : FillRealismConfig) (uniform : ℚ → ℚ → ℚ) (req : FillRequest)
    (mid touch : ℚ) : Prop :=
  req.orderTypeName = "LIMIT" → ∃ limit, safeFloat req.limitPrice = some limit ∧ 0 < limit ∧
    crosses req.sideName limit touch = true ∧
    (cfg.limitOrderRejectOnSlip = true → crosses req.sideName limit
      (slippedExecPrice req.sideName touch (totalSlippage cfg uniform req mid)) = true)

structure Executes (cfg : FillRealismConfig) (uniform : ℚ → ℚ → ℚ) (ageMs : Option ℚ)
    (req : FillRequest) (mid touch : ℚ) : Prop where
  quoted : Quoted cfg ageMs req mid touch
  crossed : Crossed cfg uniform req mid touch
  deep : 0 < req.depthBest
  partials : req.qty ≤ req.depthBest ∨ cfg.allowPartialFills = true

def halfSpreadPrice (req : FillRequest) (touch : ℚ) : ℚ :=
  if req.sideName = "BUY" then touch + |req.computeSpread.getD 0| * (1 / 2)
  else max (1 / 100) (touch - |req.computeSpread.getD 0| * (1 / 2))

structure RemainderWithin (req : FillRequest) (touch : ℚ) : Prop where
  quantity : 1 / 10 ^ 9 ≤ req.qty
  floor : req.sideName = "SELL" → 1 / 100 ≤ touch
  limit : req.orderTypeName = "LIMIT" → ∃ limit, safeFloat req.limitPrice = some limit ∧
    crosses req.sideName limit (halfSpreadPrice req touch) = true

/-- The requested quantity is not negative, a market sell does not meet a touch under a cent, and a
remainder that is filled is within its bounds. -/
structure KeepsBounds (cfg : FillRealismConfig) (uniform : ℚ → ℚ → ℚ) (ageMs : Option ℚ)
    (req : FillRequest) : Prop where
  quantity : 0 ≤ req.qty
  floor : ∀ mid touch, Executes cfg uniform ageMs req mid touch → req.sideName = "SELL" →
    req.orderTypeName ≠ "LIMIT" → 1 / 100 ≤ touch
  remainder : ∀ mid touch, Executes cfg uniform ageMs req mid touch → req.depthBest < req.qty →
    cfg.fillRemainderAtWorse = true → RemainderWithin req touch

/-! ### Results without fills -/

structure Unfilled (result : FillResult) : Prop where
  status : result.status ≠ .filled
  quantity : result.filledQty = 0
  average : result.avgPrice = none
  fills : result.partialFills = []

theorem unfilled_reject (reason : String) : Unfilled (reject reason) :=
  ⟨FillStatus.noConfusion, rfl, rfl, rfl⟩

section

variable {cfg : FillRealismConfig} {uniform : ℚ → ℚ → ℚ} {ageMs : Option ℚ} {req : FillRequest}
variable {mid touch : ℚ}

theorem realistic_of_unfilled {result : FillResult} (unfilled : Unfilled result) :
    Realistic req result ↔ 0 ≤ req.qty := by
  constructor
  · intro realistic
    rw [← unfilled.quantity]
    exact realistic.atMost
  · intro least
    constructor
    · rw [unfilled.fills, unfilled.quantity]
      rfl
    · rw [unfilled.quantity]
      exact least
    · intro filled
      exact absurd filled unfilled.status
    · intro avgPrice shown
      rw [unfilled.average] at shown
      cases shown
    · intro some
      exact absurd unfilled.fills some
    · intro _status
      exact unfilled.fills
    · intro fill member
      rw [unfilled.fills] at member
      cases member

/-! ### The checks -/

theorem totalSlippage_nonneg (cfg : FillRealismConfig) (uniform : ℚ → ℚ → ℚ) (req : FillRequest)
    (mid : ℚ) : 0 ≤ totalSlippage cfg uniform req mid := by
  unfold totalSlippage
  apply List.sum_nonneg
  intro part member
  obtain ⟨component, _listed, same⟩ := List.mem_map.mp member
  rw [← same]
  exact le_max_right _ _

theorem filter_eq_some {value : ℚ} {read : Option ℚ}
    (kept : (read.filter fun number => 0 < number) = some value) : read = some value ∧ 0 < value := by
  obtain ⟨found, positive⟩ := Option.filter_eq_some_iff.mp kept
  exact ⟨found, of_decide_eq_true positive⟩

theorem filter_positive {value : ℚ} (positive : 0 < value) :
    ((some value).filter fun number => 0 < number) = some value :=
  Option.filter_eq_some_iff.mpr ⟨rfl, decide_eq_true positive⟩

def execPrice (cfg : FillRealismConfig) (uniform : ℚ → ℚ → ℚ) (req : FillRequest)
    (mid touch : ℚ) : ℚ :=
  if req.orderTypeName = "LIMIT" then touch
  else slippedExecPrice req.sideName touch (totalSlippage cfg uniform req mid)

def paidSlippage (cfg : FillRealismConfig) (uniform : ℚ → ℚ → ℚ) (req : FillRequest)
    (mid : ℚ) : ℚ :=
  if req.orderTypeName = "LIMIT" then 0 else totalSlippage cfg uniform req mid

theorem limited_price {side : String} {limit : ℚ} (crossed : crosses side limit touch = true) :
    (if side = "BUY" then min limit touch else max limit touch) = touch := by
  unfold crosses at crossed
  by_cases buys : side = "BUY"
  · rw [if_pos buys] at crossed ⊢
    exact min_eq_right (of_decide_eq_true crossed)
  · rw [if_neg buys] at crossed ⊢
    exact max_eq_right (of_decide_eq_true crossed)

theorem fillLimit_of_crossed {slipped limit : ℚ} (isLimit : safeFloat req.limitPrice = some limit)
    (positive : 0 < limit) (crossed : crosses req.sideName limit touch = true)
    (kept : cfg.limitOrderRejectOnSlip = true → crosses req.sideName limit slipped = true) :
    fillLimit cfg req touch slipped = fillAt cfg req touch touch 0 := by
  have slips : ¬ (cfg.limitOrderRejectOnSlip = true ∧
      crosses req.sideName limit slipped = false) := by
    rintro ⟨asked, apart⟩
    rw [kept asked] at apart
    cases apart
  unfold fillLimit
  rw [isLimit]
  dsimp only
  rw [if_neg (not_le.mpr positive), if_neg (by rw [crossed]; decide), if_neg slips,
    limited_price crossed, sub_self, abs_zero]

theorem unfilled_fillLimit {slipped : ℚ}
    (apart : ¬ ∃ limit, safeFloat req.limitPrice = some limit ∧ 0 < limit ∧
      crosses req.sideName limit touch = true ∧
      (cfg.limitOrderRejectOnSlip = true → crosses req.sideName limit slipped = true)) :
    Unfilled (fillLimit cfg req touch slipped) := by
  unfold fillLimit
  cases isLimit : safeFloat req.limitPrice with
  | none => exact unfilled_reject _
  | some limit =>
      dsimp only
      by_cases low : limit ≤ 0
      · rw [if_pos low]
        exact unfilled_reject _
      rw [if_neg low]
      by_cases uncrossed : crosses req.sideName limit touch = false
      · rw [if_pos uncrossed]
        exact ⟨FillStatus.noConfusion, rfl, rfl, rfl⟩
      rw [if_neg uncrossed]
      by_cases slips : cfg.limitOrderRejectOnSlip = true ∧
          crosses req.sideName limit slipped = false
      · rw [if_pos slips]
        exact unfilled_reject _
      · refine absurd ⟨limit, isLimit, not_le.mp low, Bool.eq_true_of_not_eq_false uncrossed, ?_⟩ apart
        intro asked
        exact Bool.eq_true_of_not_eq_false fun away => slips ⟨asked, away⟩

theorem fillQuoted_of_crossed (crossed : Crossed cfg uniform req mid touch) :
    fillQuoted cfg uniform req mid touch =
      fillAt cfg req touch (execPrice cfg uniform req mid touch) (paidSlippage cfg uniform req mid) := by
  unfold fillQuoted execPrice paidSlippage
  dsimp only
  by_cases isLimit : req.orderTypeName = "LIMIT"
  · obtain ⟨limit, read, positive, within, kept⟩ := crossed isLimit
    rw [if_pos isLimit, if_pos isLimit, if_pos isLimit]
    exact fillLimit_of_crossed read positive within kept
  · rw [if_neg isLimit, if_neg isLimit, if_neg isLimit]

theorem unfilled_fillQuoted (apart : ¬ Crossed cfg uniform req mid touch) :
    Unfilled (fillQuoted cfg uniform req mid touch) := by
  unfold Crossed at apart
  obtain ⟨isLimit, apart⟩ := Classical.not_imp.mp apart
  unfold fillQuoted
  dsimp only
  rw [if_pos isLimit]
  exact unfilled_fillLimit apart

theorem unfilled_fillAt {price slippage : ℚ}
    (thin : ¬ (0 < req.depthBest ∧ (req.qty ≤ req.depthBest ∨ cfg.allowPartialFills = true))) :
    Unfilled (fillAt cfg req touch price slippage) := by
  unfold fillAt
  dsimp only
  by_cases empty : req.depthBest ≤ 0
  · rw [if_pos empty]
    exact unfilled_reject _
  · rw [if_neg empty]
    have deep := not_le.mp empty
    rw [if_neg fun enough => thin ⟨deep, .inl enough⟩]
    have whole : cfg.allowPartialFills = false :=
      Bool.eq_false_iff.mpr fun partials => thin ⟨deep, .inr partials⟩
    rw [if_pos whole]
    exact unfilled_reject _

theorem simulateFill_of_executes (executes : Executes cfg uniform ageMs req mid touch) :
    simulateFill cfg uniform ageMs req =
      fillAt cfg req touch (execPrice cfg uniform req mid touch)
        (paidSlippage cfg uniform req mid) := by
  have quoted := executes.quoted
  have sided : ¬ (req.sideName ≠ "BUY" ∧ req.sideName ≠ "SELL") := by
    rintro ⟨notBuy, notSell⟩
    exact quoted.sided.elim notBuy notSell
  unfold simulateFill
  rw [if_neg sided, if_neg (not_le.mpr quoted.asked), quoted.middle, filter_positive quoted.priced]
  dsimp only
  rw [quoted.fresh, quoted.narrow, quoted.touches, filter_positive quoted.positive]
  exact fillQuoted_of_crossed executes.crossed

theorem unfilled_simulateFill (apart : ¬ ∃ mid touch, Executes cfg uniform ageMs req mid touch) :
    Unfilled (simulateFill cfg uniform ageMs req) := by
  unfold simulateFill
  by_cases sided : req.sideName ≠ "BUY" ∧ req.sideName ≠ "SELL"
  · rw [if_pos sided]
    exact unfilled_reject _
  rw [if_neg sided]
  by_cases none : req.qty ≤ 0
  · rw [if_pos none]
    exact unfilled_reject _
  rw [if_neg none]
  cases middle : req.mid.filter fun mid => 0 < mid with
  | none => exact unfilled_reject _
  | some mid =>
      dsimp only
      by_cases stale : isStale cfg ageMs = true
      · rw [if_pos stale]
        exact unfilled_reject _
      rw [if_neg stale]
      by_cases wide : isWide cfg req mid = true
      · rw [if_pos wide]
        exact unfilled_reject _
      rw [if_neg wide]
      cases touches : req.touchPrice.filter fun touch => 0 < touch with
      | none => exact unfilled_reject _
      | some touch =>
          dsimp only
          have quoted : Quoted cfg ageMs req mid touch := by
            constructor
            · by_contra other
              rw [not_or] at other
              exact sided other
            · exact not_le.mp none
            · exact (filter_eq_some middle).1
            · exact (filter_eq_some middle).2
            · exact Bool.eq_false_iff.mpr stale
            · exact Bool.eq_false_iff.mpr wide
            · exact (filter_eq_some touches).1
            · exact (filter_eq_some touches).2
          by_cases crossed : Crossed cfg uniform req mid touch
          · rw [fillQuoted_of_crossed crossed]
            apply unfilled_fillAt
            intro deep
            exact apart ⟨mid, touch, quoted, crossed, deep.1, deep.2⟩
          · exact unfilled_fillQuoted crossed

/-! ### Prices -/

theorem noBetter_slipped_iff {slippage : ℚ} (sided : req.sideName = "BUY" ∨ req.sideName = "SELL")
    (least : 0 ≤ slippage) :
    noBetter req.sideName touch (slippedExecPrice req.sideName touch slippage) ↔
      (req.sideName = "SELL" → 1 / 100 ≤ touch) := by
  unfold noBetter slippedExecPrice
  rcases sided with buys | sells
  · rw [buys, if_pos rfl, if_pos rfl]
    constructor
    · intro _within impossible
      exact absurd impossible (by decide)
    · intro _floor
      linarith
  · rw [sells, if_neg (by decide), if_neg (by decide), max_le_iff]
    constructor
    · intro within _sells
      exact within.1
    · intro floor
      exact ⟨floor rfl, by linarith⟩

theorem noBetter_self (side : String) (touch : ℚ) : noBetter side touch touch := by
  unfold noBetter
  split <;> exact le_refl touch

theorem priceWithin_execPrice_iff (executes : Executes cfg uniform ageMs req mid touch) :
    PriceWithin req (execPrice cfg uniform req mid touch) ↔
      (req.sideName = "SELL" → req.orderTypeName ≠ "LIMIT" → 1 / 100 ≤ touch) := by
  have quoted := executes.quoted
  unfold execPrice
  by_cases isLimit : req.orderTypeName = "LIMIT"
  · rw [if_pos isLimit]
    apply iff_of_true
    · constructor
      · exact ⟨touch, quoted.touches, noBetter_self _ _⟩
      · intro _isLimit
        obtain ⟨limit, read, _positive, within, _kept⟩ := executes.crossed isLimit
        exact ⟨limit, read, within⟩
    · intro _sells other
      exact absurd isLimit other
  · rw [if_neg isLimit]
    have slipped := @noBetter_slipped_iff req touch _ quoted.sided
      (totalSlippage_nonneg cfg uniform req mid)
    constructor
    · intro within sells _market
      obtain ⟨own, touches, bound⟩ := within.touch
      rw [quoted.touches] at touches
      rw [← Option.some.inj touches] at bound
      exact slipped.mp bound sells
    · intro floor
      constructor
      · exact ⟨touch, quoted.touches, slipped.mpr fun sells => floor sells isLimit⟩
      · exact fun impossible => absurd impossible isLimit

theorem execPrice_pos (executes : Executes cfg uniform ageMs req mid touch) :
    0 < execPrice cfg uniform req mid touch := by
  have positive := executes.quoted.positive
  have least := totalSlippage_nonneg cfg uniform req mid
  unfold execPrice slippedExecPrice
  split
  · exact positive
  · split
    · linarith
    · exact lt_max_of_lt_left (by norm_num)

def worsening (req : FillRequest) (slippage : ℚ) : ℚ :=
  if 0 < |slippage| then |slippage| else |req.computeSpread.getD 0| * (1 / 2)

def remainderPrice (req : FillRequest) (price slippage : ℚ) : ℚ :=
  slippedExecPrice req.sideName price (worsening req slippage)

theorem worsening_nonneg (req : FillRequest) (slippage : ℚ) : 0 ≤ worsening req slippage := by
  unfold worsening
  split <;> positivity

theorem remainderPrice_pos {price : ℚ} (positive : 0 < price) (slippage : ℚ) :
    0 < remainderPrice req price slippage := by
  have least := worsening_nonneg req slippage
  unfold remainderPrice slippedExecPrice
  split
  · linarith
  · exact lt_max_of_lt_left (by norm_num)

theorem remainderPrice_of_limit (isLimit : req.orderTypeName = "LIMIT") :
    remainderPrice req (execPrice cfg uniform req mid touch) (paidSlippage cfg uniform req mid) =
      halfSpreadPrice req touch := by
  unfold remainderPrice execPrice paidSlippage worsening slippedExecPrice halfSpreadPrice
  rw [if_pos isLimit, if_pos isLimit, abs_zero, if_neg (lt_irrefl 0)]

theorem noBetter_remainder_iff (executes : Executes cfg uniform ageMs req mid touch) :
    noBetter req.sideName touch
        (remainderPrice req (execPrice cfg uniform req mid touch)
          (paidSlippage cfg uniform req mid)) ↔
      (req.sideName = "SELL" → 1 / 100 ≤ touch) := by
  have least := worsening_nonneg req (paidSlippage cfg uniform req mid)
  have slip := totalSlippage_nonneg cfg uniform req mid
  unfold remainderPrice
  rcases executes.quoted.sided with buys | sells
  · apply iff_of_true
    · unfold noBetter slippedExecPrice execPrice slippedExecPrice
      rw [buys, if_pos rfl, if_pos rfl, if_pos rfl]
      split <;> linarith
    · intro sells
      rw [buys] at sells
      exact absurd sells (by decide)
  · unfold noBetter slippedExecPrice
    rw [sells, if_neg (by decide), if_neg (by decide), max_le_iff]
    constructor
    · intro within _sells
      exact within.1
    · intro floor
      have cent := floor rfl
      have below : execPrice cfg uniform req mid touch ≤ touch := by
        unfold execPrice slippedExecPrice
        split
        · exact le_refl touch
        · rw [sells, if_neg (by decide)]
          exact max_le cent (by linarith)
      exact ⟨cent, by linarith⟩

theorem priceWithin_remainder_iff (executes : Executes cfg uniform ageMs req mid touch) :
    PriceWithin req (remainderPrice req (execPrice cfg uniform req mid touch)
        (paidSlippage cfg uniform req mid)) ↔
      (req.sideName = "SELL" → 1 / 100 ≤ touch) ∧
      (req.orderTypeName = "LIMIT" → ∃ limit, safeFloat req.limitPrice = some limit ∧
        crosses req.sideName limit (halfSpreadPrice req touch) = true) := by
  rw [← noBetter_remainder_iff executes]
  constructor
  · intro within
    constructor
    · obtain ⟨own, touches, bound⟩ := within.touch
      rw [executes.quoted.touches] at touches
      rw [← Option.some.inj touches] at bound
      exact bound
    · intro isLimit
      have kept := within.limit isLimit
      rw [remainderPrice_of_limit isLimit] at kept
      exact kept
  · rintro ⟨bound, kept⟩
    constructor
    · exact ⟨touch, executes.quoted.touches, bound⟩
    · intro isLimit
      rw [remainderPrice_of_limit isLimit]
      exact kept isLimit

/-! ### Quantities -/

/-- A result of one fill adds up, so that its price decides. -/
theorem realistic_single {result : FillResult} {fill : PartialFill}
    (fills : result.partialFills = [fill]) (average : result.avgPrice = some fill.price)
    (filled : result.filledQty = fill.qty) (atMost : fill.qty ≤ req.qty)
    (status : result.status = .filled ∧ fill.qty = req.qty ∨ result.status = .partFilled) :
    Realistic req result ↔ PriceWithin req fill.price := by
  constructor
  · intro realistic
    apply realistic.prices fill
    rw [fills]
    exact List.mem_singleton_self fill
  · intro within
    constructor
    · rw [fills, filled, List.map_singleton, List.sum_singleton]
    · rw [filled]
      exact atMost
    · intro whole
      rw [filled]
      rcases status with ⟨_, same⟩ | part
      · exact same
      · rw [part] at whole
        cases whole
    · intro avgPrice shown
      rw [average] at shown
      rw [fills, filled, ← Option.some.inj shown, List.map_singleton, List.sum_singleton, mul_comm]
    · intro _some
      rw [average]
      exact Option.some_ne_none _
    · intro other
      rcases status with ⟨own, _⟩ | own
      · rw [own] at other
        rcases other with rejected | opened <;> contradiction
      · rw [own] at other
        rcases other with rejected | opened <;> contradiction
    · intro other member
      rw [fills] at member
      rw [List.mem_singleton.mp member]
      exact within

theorem realistic_remainder {result : FillResult} {first rest price worse divisor : ℚ}
    (fills : (result.partialFills.map fun fill => (fill.qty, fill.price)) =
      [(first, price), (rest, worse)])
    (average : result.avgPrice = some ((first * price + rest * worse) / divisor))
    (filled : result.filledQty = req.qty) (status : result.status = .filled)
    (parts : first + rest = req.qty) (total : 0 < first * price + rest * worse)
    (asked : 0 < req.qty) (divides : divisor = max req.qty (1 / 10 ^ 9)) :
    Realistic req result ↔
      1 / 10 ^ 9 ≤ req.qty ∧ PriceWithin req price ∧ PriceWithin req worse := by
  have quantities : (result.partialFills.map PartialFill.qty).sum = first + rest := by
    have same := congrArg (List.map Prod.fst) fills
    rw [List.map_map] at same
    change result.partialFills.map PartialFill.qty = [first, rest] at same
    rw [same]
    simp
  have amounts : (result.partialFills.map fun fill => fill.qty * fill.price).sum =
      first * price + rest * worse := by
    have same := congrArg (List.map fun entry : ℚ × ℚ => entry.1 * entry.2) fills
    rw [List.map_map] at same
    change result.partialFills.map (fun fill => fill.qty * fill.price) =
      [first * price, rest * worse] at same
    rw [same]
    simp
  have prices : (∀ fill ∈ result.partialFills, PriceWithin req fill.price) ↔
      PriceWithin req price ∧ PriceWithin req worse := by
    have same := congrArg (List.map Prod.snd) fills
    rw [List.map_map] at same
    change result.partialFills.map PartialFill.price = [price, worse] at same
    rw [← List.forall_mem_map (f := PartialFill.price), same]
    simp
  have positive : 0 < divisor := by
    rw [divides]
    exact lt_max_of_lt_left asked
  have adds : (first * price + rest * worse) / divisor * req.qty = first * price + rest * worse ↔
      1 / 10 ^ 9 ≤ req.qty := by
    rw [div_mul_eq_mul_div, div_eq_iff positive.ne', mul_right_inj' total.ne', divides]
    constructor
    · intro same
      rw [same]
      exact le_max_right _ _
    · intro enough
      exact (max_eq_left enough).symm
  rw [← prices, ← adds]
  constructor
  · intro realistic
    constructor
    · have whole := realistic.average _ average
      rw [amounts, filled] at whole
      exact whole
    · exact realistic.prices
  · rintro ⟨total, within⟩
    constructor
    · rw [quantities, filled, parts]
    · exact filled.le
    · exact fun _ => filled
    · intro avgPrice shown
      rw [average] at shown
      rw [← Option.some.inj shown, amounts, filled]
      exact total
    · intro _some
      rw [average]
      exact Option.some_ne_none _
    · intro other
      rw [status] at other
      rcases other with rejected | opened <;> contradiction
    · exact within

theorem realistic_of_executes (executes : Executes cfg uniform ageMs req mid touch) :
    Realistic req (simulateFill cfg uniform ageMs req) ↔
      (req.sideName = "SELL" → req.orderTypeName ≠ "LIMIT" → 1 / 100 ≤ touch) ∧
      (req.depthBest < req.qty → cfg.fillRemainderAtWorse = true → RemainderWithin req touch) := by
  have asked := executes.quoted.asked
  have deep := executes.deep
  have executed := priceWithin_execPrice_iff executes
  have remainder := priceWithin_remainder_iff executes
  have positive := execPrice_pos executes
  have worse := @remainderPrice_pos req _ positive (paidSlippage cfg uniform req mid)
  rw [simulateFill_of_executes executes]
  unfold fillAt
  dsimp only
  rw [if_neg (not_le.mpr deep)]
  by_cases enough : req.qty ≤ req.depthBest
  · -- the book holds the whole order
    rw [if_pos enough, realistic_single rfl rfl rfl (le_refl _) (.inl ⟨rfl, rfl⟩), executed]
    constructor
    · intro floor
      exact ⟨floor, fun impossible => absurd enough (not_le.mpr impossible)⟩
    · exact And.left
  have partials : ¬ cfg.allowPartialFills = false := by
    rcases executes.partials with whole | allowed
    · exact absurd whole enough
    · rw [allowed]
      decide
  have thin := not_le.mp enough
  have firstQty : max (min req.depthBest req.qty) 0 = req.depthBest := by
    rw [min_eq_left thin.le, max_eq_left deep.le]
  have restQty : max (req.qty - req.depthBest) 0 = req.qty - req.depthBest :=
    max_eq_left (by linarith)
  rw [if_neg enough, if_neg partials, firstQty, restQty]
  by_cases worsens : cfg.fillRemainderAtWorse = true
  · -- the rest is filled at a worse price
    rw [if_pos ⟨sub_pos.mpr thin, worsens⟩]
    have total : 0 < req.depthBest * execPrice cfg uniform req mid touch +
        (req.qty - req.depthBest) * remainderPrice req (execPrice cfg uniform req mid touch)
          (paidSlippage cfg uniform req mid) := by
      have rest := sub_pos.mpr thin
      positivity
    have parts : req.depthBest + (req.qty - req.depthBest) = req.qty := add_sub_cancel _ _
    rw [realistic_remainder rfl rfl rfl rfl parts total asked rfl]
    change 1 / 10 ^ 9 ≤ req.qty ∧ PriceWithin req (execPrice cfg uniform req mid touch) ∧
      PriceWithin req (remainderPrice req (execPrice cfg uniform req mid touch)
        (paidSlippage cfg uniform req mid)) ↔ _
    rw [executed, remainder]
    constructor
    · rintro ⟨quantity, floor, cent, limit⟩
      exact ⟨floor, fun _ _ => ⟨quantity, cent, limit⟩⟩
    · rintro ⟨floor, within⟩
      have kept := within thin worsens
      exact ⟨kept.quantity, floor, kept.floor, kept.limit⟩
  · -- the rest is left
    rw [if_neg fun both => worsens both.2,
      realistic_single rfl rfl rfl thin.le (.inr rfl), executed]
    constructor
    · intro floor
      exact ⟨floor, fun _ impossible => absurd impossible worsens⟩
    · exact And.left

/-- The fills of a request are realistic exactly under these conditions. -/
theorem realistic_iff (cfg : FillRealismConfig) (uniform : ℚ → ℚ → ℚ) (ageMs : Option ℚ)
    (req : FillRequest) :
    Realistic req (simulateFill cfg uniform ageMs req) ↔ KeepsBounds cfg uniform ageMs req := by
  by_cases executed : ∃ mid touch, Executes cfg uniform ageMs req mid touch
  · obtain ⟨mid, touch, executes⟩ := executed
    rw [realistic_of_executes executes]
    constructor
    · rintro ⟨floor, remainder⟩
      constructor
      · exact executes.quoted.asked.le
      · intro _mid other again
        rw [← Option.some.inj (executes.quoted.touches.symm.trans again.quoted.touches)]
        exact floor
      · intro _mid other again
        rw [← Option.some.inj (executes.quoted.touches.symm.trans again.quoted.touches)]
        exact remainder
    · intro keeps
      exact ⟨keeps.floor mid touch executes, keeps.remainder mid touch executes⟩
  · rw [realistic_of_unfilled (unfilled_simulateFill executed)]
    constructor
    · intro least
      exact ⟨least, fun mid touch executes => absurd ⟨mid, touch, executes⟩ executed,
        fun mid touch executes => absurd ⟨mid, touch, executes⟩ executed⟩
    · exact KeepsBounds.quantity

end

/-! ### A remainder beyond the limit -/

def worseConfig : FillRealismConfig :=
  { maxQuoteAgeMs := 2000
    maxSpreadPctForMarket := 15 / 1000
    spreadMultiplierRange := .list [.float (.finite (1 / 4)), .float (.finite 1)]
    volImpactK := .float (.finite (5 / 100))
    depthImpactK := .float (.finite (1 / 10))
    latencyMs := 120
    limitOrderRejectOnSlip := true
    allowPartialFills := true
    fillRemainderAtWorse := true }

def thinBook : FillRequest :=
  { side := "BUY"
    qty := 10
    orderType := "LIMIT"
    limitPrice := .float (.finite (10005 / 100))
    ltp := .float (.finite 100)
    bid := .float (.finite 98)
    ask := .float (.finite 100)
    spread := .none
    depth := .dict [("sell", .list [.dict [("quantity", .int 5), ("price", .int 100)]])]
    volatility := .none
    latencyMs := .none }

/-- The remainder is filled at 101. -/
theorem remainder_beyond_limit : ¬∀ (cfg : FillRealismConfig) (uniform : ℚ → ℚ → ℚ)
    (ageMs : Option ℚ) (req : FillRequest),
    Realistic req (simulateFill cfg uniform ageMs req) := by
  intro always
  have realistic := always worseConfig (fun low _high => low) (some 0) thinBook
  have fills : (simulateFill worseConfig (fun low _high => low) (some 0) thinBook).partialFills =
      [{ fillId := "fill-1", qty := 5, price := 100 },
        { fillId := "fill-2", qty := 5, price := 101 }] := by decide +kernel
  have within := realistic.prices { fillId := "fill-2", qty := 5, price := 101 } (by
    rw [fills]
    exact List.mem_cons_of_mem _ List.mem_cons_self)
  obtain ⟨limit, read, kept⟩ := within.limit (by decide +kernel)
  have isLimit : safeFloat thinBook.limitPrice = some (10005 / 100) := rfl
  rw [isLimit] at read
  rw [← Option.some.inj read] at kept
  exact absurd kept (by decide +kernel)

end Algotradify.Core.FillRealism
