/-
The status of each monitor against its quality flags, where all numbers are finite.
-/

import Algotradify.Market.Quotes

namespace Algotradify.Market

open Py Core.Risk Execution Dedup Candidates

/-! ### Finite numbers -/

structure DepthLimits.Finite (limits : DepthLimits) : Prop where
  totalDepth : ∃ value : ℚ, limits.minTotalDepth = .finite value
  depthAge : ∃ value : ℚ, limits.maxDepthAgeSec = .finite value
  imbalance : ∃ value : ℚ, limits.maxImbalanceRatio = .finite value

structure LiveLimits.Finite (limits : LiveLimits) : Prop where
  spotAge : ∃ value : ℚ, limits.maxSpotQuoteAgeSec = .finite value
  optionChainAge : ∃ value : ℚ, limits.maxOptionChainAgeSec = .finite value

section Rows

variable {row : PyDict}

end Rows

theorem beyond_eq_false_iff {value : Option PyFloat} {limit : PyFloat}
    (finite : ∀ number, value = some number → ∃ exact : ℚ, number = .finite exact)
    (bound : ∃ exact : ℚ, limit = .finite exact) (present : value.isSome = true) :
    beyond value limit = false ↔ within value limit = true := by
  obtain ⟨number, rfl⟩ := Option.isSome_iff_exists.mp present
  obtain ⟨exact, rfl⟩ := finite number rfl
  obtain ⟨top, rfl⟩ := bound
  change (PyFloat.finite top).lt (.finite exact) = false ↔ (PyFloat.finite exact).le _ = true
  rw [Bool.eq_false_iff, Ne, PyFloat.finite_lt, PyFloat.finite_le, not_lt]

/-! ### Depth -/

/-- A side count that is given is not zero exactly where it reaches the minimum. -/
def CountAlike (minimum : ℤ) (count : Option ℤ) : Prop :=
  ∀ number, count = some number → (number ≠ 0 ↔ minimum ≤ number)

section Depth

variable {limits : DepthLimits} {reading : DepthReading}

structure Unblocked (limits : DepthLimits) (reading : DepthReading) : Prop where
  missingSide : messagesOf (missingSideChecks reading) = []
  zeroSide : messagesOf (zeroSideChecks reading) = []
  shallowDepth : messagesOf (shallowDepthChecks limits reading) = []
  staleDepth : messagesOf (staleDepthChecks limits reading) = []
  imbalance : messagesOf (imbalanceChecks limits reading) = []

theorem positiveDepth_iff {depth : Option PyFloat}
    (finite : ∀ number, depth = some number → ∃ exact : ℚ, number = .finite exact) :
    positiveDepth depth = true ↔ depth.isNone = false ∧ within depth (.finite 0) = false := by
  cases depth with
  | none => exact iff_of_false Bool.false_ne_true fun both => Bool.noConfusion both.1
  | some number =>
      obtain ⟨exact, rfl⟩ := finite number rfl
      have flat : (PyFloat.finite exact).le (.finite 0) = false ↔ 0 < exact := by
        rw [Bool.eq_false_iff, Ne, PyFloat.finite_le, not_le]
      change (PyFloat.finite 0).lt (.finite exact) = true ↔ _ ∧ (PyFloat.finite exact).le _ = false
      rw [PyFloat.finite_lt, flat]
      exact ⟨fun above => ⟨rfl, above⟩, And.right⟩

theorem ratio_of_positive
    (ceFinite : ∀ number, reading.ceDepth = some number → ∃ exact : ℚ, number = .finite exact)
    (peFinite : ∀ number, reading.peDepth = some number → ∃ exact : ℚ, number = .finite exact)
    (ce : positiveDepth reading.ceDepth = true) (pe : positiveDepth reading.peDepth = true) :
    ∃ ratio : ℚ, reading.ratio = some (.finite ratio) := by
  obtain ⟨_, ceOk⟩ := (positiveDepth_iff ceFinite).mp ce
  obtain ⟨_, peOk⟩ := (positiveDepth_iff peFinite).mp pe
  unfold positiveDepth at ce pe
  obtain ⟨left, leftIs, _⟩ := Option.any_eq_true _ _ |>.mp ce
  obtain ⟨right, rightIs, _⟩ := Option.any_eq_true _ _ |>.mp pe
  obtain ⟨low, rfl⟩ := ceFinite left leftIs
  obtain ⟨high, rfl⟩ := peFinite right rightIs
  rw [leftIs] at ceOk
  rw [rightIs] at peOk
  have ceAbove : (PyFloat.finite low).le (.finite 0) = false := ceOk
  have peAbove : (PyFloat.finite high).le (.finite 0) = false := peOk
  unfold DepthReading.ratio imbalanceRatio
  rw [leftIs, rightIs]
  dsimp only
  rw [ceAbove, peAbove]
  rw [pyMax_finite, pyMin_finite]
  exact ⟨max low high / min low high, rfl⟩

structure DepthReading.Finite (reading : DepthReading) : Prop where
  ce : ∀ number, reading.ceDepth = some number → ∃ exact : ℚ, number = .finite exact
  pe : ∀ number, reading.peDepth = some number → ∃ exact : ℚ, number = .finite exact
  age : ∀ number, reading.depthAgeSec = some number → ∃ exact : ℚ, number = .finite exact

theorem totalDepth_finite (finite : reading.Finite) :
    ∃ total : ℚ, reading.totalDepth = .finite total := by
  have each : ∀ depth : Option PyFloat,
      (∀ number, depth = some number → ∃ exact : ℚ, number = .finite exact) →
        ∃ exact : ℚ, orDefault depth (.finite 0) = .finite exact := by
    intro depth own
    cases depth with
    | none => exact ⟨0, rfl⟩
    | some number =>
        obtain ⟨exact, rfl⟩ := own number rfl
        unfold orDefault
        dsimp only
        split
        · exact ⟨exact, rfl⟩
        · exact ⟨0, rfl⟩
  obtain ⟨ce, ceIs⟩ := each _ finite.ce
  obtain ⟨pe, peIs⟩ := each _ finite.pe
  unfold DepthReading.totalDepth
  rw [ceIs, peIs]
  exact ⟨ce + pe, rfl⟩

theorem unblocked_iff (bounds : limits.Finite) (finite : reading.Finite)
    (ceAlike : CountAlike limits.minSideCount reading.ceCount)
    (peAlike : CountAlike limits.minSideCount reading.peCount) :
    Unblocked limits reading ↔
      (sideQuality limits reading).all = true ∧
        limits.minTotalDepth.le reading.totalDepth = true := by
  obtain ⟨total, totalIs⟩ := totalDepth_finite finite
  obtain ⟨least, leastIs⟩ := bounds.totalDepth
  have reaches : reading.totalDepth.lt limits.minTotalDepth = false ↔
      limits.minTotalDepth.le reading.totalDepth = true := by
    rw [totalIs, leastIs, Bool.eq_false_iff, Ne, PyFloat.finite_lt, PyFloat.finite_le, not_lt]
  have counted : ∀ count : Option ℤ, CountAlike limits.minSideCount count →
      ((count.isNone = false ∧ decide (count = some 0) = false) ↔
        count.any (fun number => decide (limits.minSideCount ≤ number)) = true) := by
    intro count alike
    cases count with
    | none => simp
    | some number =>
        have own := alike number rfl
        simp only [Option.isNone_some, Option.some.injEq, decide_eq_false_iff_not, true_and,
          Option.any_some, decide_eq_true_eq]
        exact own
  have aged : (reading.depthAgeSec.isNone = false ∧
      beyond reading.depthAgeSec limits.maxDepthAgeSec = false) ↔
        within reading.depthAgeSec limits.maxDepthAgeSec = true := by
    cases present : reading.depthAgeSec with
    | none => simp [within]
    | some number =>
        have own : beyond (some number) limits.maxDepthAgeSec = false ↔ _ :=
          beyond_eq_false_iff (fun other same => finite.age other (present.trans same))
            bounds.depthAge rfl
        rw [own]
        simp
  have balanced : positiveDepth reading.ceDepth = true → positiveDepth reading.peDepth = true →
      (beyond reading.ratio limits.maxImbalanceRatio = false ↔
        within reading.ratio limits.maxImbalanceRatio = true) := by
    intro ce pe
    obtain ⟨ratio, ratioIs⟩ := ratio_of_positive finite.ce finite.pe ce pe
    refine beyond_eq_false_iff (fun number same => ?_) bounds.imbalance ?_
    · rw [ratioIs] at same
      exact ⟨ratio, (Option.some.inj same).symm⟩
    · rw [ratioIs]
      rfl
  have ceCounted := counted _ ceAlike
  have peCounted := counted _ peAlike
  have cePositive := positiveDepth_iff finite.ce
  have pePositive := positiveDepth_iff finite.pe
  have split : Unblocked limits reading ↔
      messagesOf (missingSideChecks reading) = [] ∧ messagesOf (zeroSideChecks reading) = [] ∧
        messagesOf (shallowDepthChecks limits reading) = [] ∧
          messagesOf (staleDepthChecks limits reading) = [] ∧
            messagesOf (imbalanceChecks limits reading) = [] := by
    constructor
    · rintro ⟨missing, zero, shallow, stale, imbalance⟩
      exact ⟨missing, zero, shallow, stale, imbalance⟩
    · rintro ⟨missing, zero, shallow, stale, imbalance⟩
      exact ⟨missing, zero, shallow, stale, imbalance⟩
  rw [split]
  simp only [messagesOf_eq_nil_iff, missingSideChecks, zeroSideChecks, shallowDepthChecks,
    staleDepthChecks, imbalanceChecks, List.forall_mem_cons, List.not_mem_nil, false_implies,
    implies_true, and_true, SideQuality.all, sideQuality, Bool.and_eq_true]
  rw [reaches]
  constructor
  · rintro ⟨⟨ce, pe⟩, ⟨ceZero, peZero⟩, ⟨ceGiven, ceFlat, peGiven, peFlat, enough⟩, age, ratio⟩
    have ceDepth := cePositive.mpr ⟨ceGiven, ceFlat⟩
    have peDepth := pePositive.mpr ⟨peGiven, peFlat⟩
    exact ⟨⟨⟨⟨⟨⟨ceCounted.mp ⟨ce, ceZero⟩, peCounted.mp ⟨pe, peZero⟩⟩, ceDepth⟩, peDepth⟩,
      aged.mp age⟩, (balanced ceDepth peDepth).mp ratio⟩, enough⟩
  · rintro ⟨⟨⟨⟨⟨⟨ce, pe⟩, ceDepth⟩, peDepth⟩, age⟩, ratio⟩, enough⟩
    obtain ⟨ceGiven, ceZero⟩ := ceCounted.mpr ce
    obtain ⟨peGiven, peZero⟩ := peCounted.mpr pe
    obtain ⟨ceThere, ceFlat⟩ := cePositive.mp ceDepth
    obtain ⟨peThere, peFlat⟩ := pePositive.mp peDepth
    exact ⟨⟨ceGiven, peGiven⟩, ⟨ceZero, peZero⟩, ⟨ceThere, ceFlat, peThere, peFlat, enough⟩,
      aged.mpr age, (balanced ceDepth peDepth).mpr ratio⟩

end Depth

/-! ### One live snapshot -/

section Live

variable {limits : LiveLimits} {reading : LiveReading}

structure LiveReading.Finite (reading : LiveReading) : Prop where
  spotAge : ∀ number, reading.spotAge = some number → ∃ exact : ℚ, number = .finite exact
  chainAge : ∀ number, reading.optionChainAge = some number → ∃ exact : ℚ, number = .finite exact

end Live

/-! ### Many snapshots -/

section Snapshots

variable (snapshots : List LiveMarketDataSnapshot)

end Snapshots

/-! ### All monitors -/

end Algotradify.Market
