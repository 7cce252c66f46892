/-
What the filter asks of a candidate of the pool, read from the candidate and the numbers of
the context: no evidence that a provider supplied has a part in it.
-/

import Algotradify.Movement.Ranker

namespace Algotradify.Movement

open Py Dedup
open Core.Risk (pyMin)

variable {direction : Direction}

/-! ### Allowed candidates -/

structure Allowed (candidate : StrategyCandidate) : Prop where
  tradable : candidate.direction ≠ .noTrade
  notStopped : candidate.status ≠ .noTrade
  unopposed :
    optionPressureStatus candidate ≠ some OptionPressureStatus.conflictingPressure.value
  noHardBlocker : hasHardBlocker (pressureBlockers candidate) = false
  quoted : optionPressureStatus candidate ≠ some OptionPressureStatus.blocked.value
  applicable : optionPressureStatus candidate ≠ some OptionPressureStatus.notApplicable.value
  safe : weakConfirmationWithBadContext candidate (pressureBlockers candidate)
    (optionPressurePayload candidate) = false

theorem decision_eq_allow_iff (candidate : StrategyCandidate) :
    (filterResult candidate).decision = .allowCandidate ↔ Allowed candidate := by
  unfold filterResult
  dsimp only
  constructor
  · intro allowed
    by_cases stopped : candidate.status = .noTrade
    · rw [filterVerdict, if_pos stopped] at allowed
      cases allowed
    by_cases aside : candidate.direction = .noTrade
    · rw [filterVerdict, if_neg stopped, if_pos aside] at allowed
      cases allowed
    rw [filterVerdict, if_neg stopped, if_neg aside] at allowed
    split at allowed
    · cases allowed
    split at allowed
    · cases allowed
    split at allowed
    · cases allowed
    split at allowed
    · cases allowed
    split at allowed
    · cases allowed
    rename_i unopposed plain quoted applicable safe
    exact ⟨aside, stopped, unopposed, Bool.eq_false_iff.mpr plain, quoted, applicable,
      Bool.eq_false_iff.mpr safe⟩
  · intro allowed
    rw [filterVerdict, if_neg allowed.notStopped, if_neg allowed.tradable,
      if_neg allowed.unopposed, if_neg (Bool.eq_false_iff.mp allowed.noHardBlocker),
      if_neg allowed.quoted, if_neg allowed.applicable,
      if_neg (Bool.eq_false_iff.mp allowed.safe)]
    split <;> rfl

theorem Allowed.blockers {candidate : StrategyCandidate} (allowed : Allowed candidate) :
    (filterResult candidate).blockers = dedupe candidate.blockers := by
  have none : pressureBlockers candidate = candidate.blockers := by
    unfold pressureBlockers
    rw [decide_eq_false allowed.quoted]
    exact List.append_nil _
  have verdict : (filterVerdict candidate (pressureBlockers candidate)).blockers = [] := by
    rw [filterVerdict, if_neg allowed.notStopped, if_neg allowed.tradable,
      if_neg allowed.unopposed, if_neg (Bool.eq_false_iff.mp allowed.noHardBlocker),
      if_neg allowed.quoted, if_neg allowed.applicable,
      if_neg (Bool.eq_false_iff.mp allowed.safe)]
    split <;> rfl
  unfold filterResult
  dsimp only
  rw [verdict, none, List.append_nil]

/-! ### Attached evidence -/

theorem getOr_set_self (entries : PyDict) (key : String) (value default : PyValue) :
    getOr (entries.set key value) key default = value := by
  unfold getOr PyDict.set
  rw [Assoc.lookup_set_self, Option.getD_some]

theorem optionPressurePayload_attach (context : Option StrategyContext)
    (candidate : StrategyCandidate) :
    optionPressurePayload (attachOptionPressureConfirmation context candidate) =
      (confirmOptionPressure context candidate.direction).toDict := by
  unfold optionPressurePayload attachOptionPressureConfirmation
  dsimp only
  rw [getOr_set_self, PyValue.asDict_dict]

theorem writtenText_value (status : OptionPressureStatus) :
    writtenText (.str status.value) = some status.value := by
  cases status <;> decide

theorem optionPressureStatus_attach (context : Option StrategyContext)
    (candidate : StrategyCandidate) :
    optionPressureStatus (attachOptionPressureConfirmation context candidate) =
      some (confirmOptionPressure context candidate.direction).status.value := by
  unfold optionPressureStatus
  rw [optionPressurePayload_attach]
  exact writtenText_value _

theorem writtenText_decision (decision : NoTradeDecision) :
    writtenText (.str decision.value) = some decision.value := by
  cases decision <;> decide

theorem noTradeDecisionOf_apply (candidate : StrategyCandidate) (result : NoTradeFilterResult) :
    noTradeDecisionOf (applyDecision candidate result) = some result.decision.value := by
  have read : PyDict.get (filterEvidence result) "decision" = .str result.decision.value := rfl
  unfold noTradeDecisionOf applyDecision
  dsimp only
  rw [getOr_set_self]
  dsimp only
  rw [read]
  exact writtenText_decision _

theorem value_injective {left right : OptionPressureStatus} (same : left.value = right.value) :
    left = right := by
  cases left <;> cases right <;> first | rfl | exact absurd same (by decide)

/-! ### The numbers of the context -/

/-- The liquidity, the freshness or the regime is bad for a weak confirmation. -/
def riskContext (context : StrategyContext) (candidate : StrategyCandidate) : Bool :=
  let spread := bounded (directionalSpreadQuality context candidate.direction)
  let depth := bounded (directionalDepthQuality context candidate.direction)
  let freshness := bounded (freshnessOf context)
  (bounded (pyMin (pyMin candidate.liquidityScore spread) depth)).lt (decimal (9 / 20)) ||
    (bounded (pyMin candidate.freshnessScore freshness)).lt (decimal (9 / 20)) ||
    candidate.regimeAlignmentScore.lt (decimal (1 / 4)) ||
    spread.lt (decimal (9 / 20)) || depth.lt (decimal (9 / 20)) ||
    freshness.lt (decimal (9 / 20))

/-- What the filter asks of a candidate of the pool in this context. -/
structure Passes (context : StrategyContext) (candidate : StrategyCandidate) : Prop where
  tradable : candidate.direction ≠ .noTrade
  notStopped : candidate.status ≠ .noTrade
  noHardBlocker : hasHardBlocker candidate.blockers = false
  quoted : (baseBlockers context candidate.direction).1 = []
  unopposed : hasConflictingPressure candidate.direction (premiumBiasOf context) = false
  supported : (decimal (31 / 50)).le (contextPressure context candidate.direction) = true ∨
    riskContext context candidate = false

section Confirmation

variable {context : StrategyContext} {candidate : StrategyCandidate}

theorem confirm_status (context : StrategyContext) (direction : Direction) :
    (confirmOptionPressure (some context) direction).status =
      (pressureVerdict context direction (baseBlockers context direction).1).status := rfl

theorem blocked_of_unquoted (unquoted : (baseBlockers context direction).1 ≠ []) :
    (confirmOptionPressure (some context) direction).status = .blocked := by
  rw [confirm_status]
  unfold pressureVerdict
  by_cases aside : direction = .noTrade
  · rw [if_pos aside, if_neg unquoted]
  · rw [if_neg aside, if_pos unquoted]

theorem conflicting_of_opposed (tradable : direction ≠ .noTrade)
    (quoted : (baseBlockers context direction).1 = [])
    (opposed : hasConflictingPressure direction (premiumBiasOf context) = true) :
    (confirmOptionPressure (some context) direction).status = .conflictingPressure := by
  rw [confirm_status, quoted, pressureVerdict, if_neg tradable, if_neg (not_not.mpr rfl),
    if_pos opposed]

theorem pressureVerdict_unopposed (tradable : direction ≠ .noTrade)
    (unopposed : hasConflictingPressure direction (premiumBiasOf context) = false) :
    pressureVerdict context direction [] =
      if (decimal (31 / 50)).le (contextPressure context direction) then { status := .confirmed }
      else { status := .weakConfirmation, warnings := ["WEAK_OPTION_CONFIRMATION"] } := by
  rw [pressureVerdict, if_neg tradable, if_neg (not_not.mpr rfl),
    if_neg (Bool.eq_false_iff.mp unopposed)]

theorem status_of_unopposed (tradable : direction ≠ .noTrade)
    (quoted : (baseBlockers context direction).1 = [])
    (unopposed : hasConflictingPressure direction (premiumBiasOf context) = false) :
    (confirmOptionPressure (some context) direction).status =
      if (decimal (31 / 50)).le (contextPressure context direction) then .confirmed
      else .weakConfirmation := by
  rw [confirm_status, quoted, pressureVerdict_unopposed tradable unopposed]
  split <;> rfl

theorem attach_blockers (tradable : candidate.direction ≠ .noTrade)
    (quoted : (baseBlockers context candidate.direction).1 = [])
    (unopposed : hasConflictingPressure candidate.direction (premiumBiasOf context) = false) :
    (attachOptionPressureConfirmation (some context) candidate).blockers =
      dedupe candidate.blockers := by
  have blockers : (confirmOptionPressure (some context) candidate.direction).blockers = [] := by
    have read : (confirmOptionPressure (some context) candidate.direction).blockers =
        dedupe ((baseBlockers context candidate.direction).1 ++
          (pressureVerdict context candidate.direction
            (baseBlockers context candidate.direction).1).blockers) := rfl
    rw [read, quoted, pressureVerdict_unopposed tradable unopposed]
    split <;> rfl
  have apart : (confirmOptionPressure (some context) candidate.direction).status ≠
      .conflictingPressure := by
    rw [status_of_unopposed tradable quoted unopposed]
    split <;> decide
  unfold attachOptionPressureConfirmation
  dsimp only
  rw [blockers, decide_eq_false apart]
  exact congrArg dedupe (by rw [List.append_nil]; exact List.append_nil _)

theorem hasHardBlocker_eq_false_iff (blockers : List String) :
    hasHardBlocker blockers = false ↔ ∀ blocker ∈ blockers, blocker ∉ hardNoTradeBlockers := by
  unfold hasHardBlocker
  simp

theorem written_hardNoTradeBlocker {blocker : String} (hard : blocker ∈ hardNoTradeBlockers) :
    blocker ≠ "" := by
  rintro rfl
  exact absurd hard (by decide)

theorem hasHardBlocker_dedupe (blockers : List String) :
    hasHardBlocker (dedupe blockers) = false ↔ hasHardBlocker blockers = false := by
  rw [hasHardBlocker_eq_false_iff, hasHardBlocker_eq_false_iff]
  constructor
  · intro none blocker member hard
    exact none blocker (mem_dedupe.mpr ⟨member, written_hardNoTradeBlocker hard⟩) hard
  · intro none blocker member
    exact none blocker (mem_dedupe.mp member).1

theorem compound_hard : ∀ blocker ∈ weakConfirmationCompoundBlockers,
    blocker ∈ hardNoTradeBlockers := by
  decide

theorem noCompound_of_noHard {blockers : List String} (none : hasHardBlocker blockers = false) :
    blockers.any weakConfirmationCompoundBlockers.contains = false := by
  rw [hasHardBlocker_eq_false_iff] at none
  rw [List.any_eq_false]
  intro blocker member compound
  exact none blocker member (compound_hard blocker (List.contains_iff_mem.mp compound))

theorem weakConfirmation_attach {blockers : List String}
    (none : hasHardBlocker blockers = false) :
    weakConfirmationWithBadContext (attachOptionPressureConfirmation (some context) candidate)
        blockers (confirmOptionPressure (some context) candidate.direction).toDict =
      (decide ((confirmOptionPressure (some context) candidate.direction).status =
        .weakConfirmation) && riskContext context candidate) := by
  have status : (PyDict.get (confirmOptionPressure (some context) candidate.direction).toDict
      "status").isStr OptionPressureStatus.weakConfirmation.value =
      decide ((confirmOptionPressure (some context) candidate.direction).status =
        .weakConfirmation) := by
    have read : PyDict.get (confirmOptionPressure (some context) candidate.direction).toDict
        "status" = .str (confirmOptionPressure (some context) candidate.direction).status.value :=
      rfl
    rw [read]
    cases (confirmOptionPressure (some context) candidate.direction).status <;> decide
  unfold weakConfirmationWithBadContext
  rw [status, noCompound_of_noHard none, Bool.false_or]
  rfl

theorem allowed_attach_iff :
    Allowed (attachOptionPressureConfirmation (some context) candidate) ↔
      Passes context candidate := by
  constructor
  · intro allowed
    have tradable : candidate.direction ≠ .noTrade := allowed.tradable
    have quoted : (baseBlockers context candidate.direction).1 = [] := by
      by_contra unquoted
      apply allowed.quoted
      rw [optionPressureStatus_attach, blocked_of_unquoted unquoted]
    have unopposed : hasConflictingPressure candidate.direction (premiumBiasOf context) = false := by
      rw [Bool.eq_false_iff]
      intro opposed
      apply allowed.unopposed
      rw [optionPressureStatus_attach, conflicting_of_opposed tradable quoted opposed]
    have blockers : pressureBlockers (attachOptionPressureConfirmation (some context) candidate) =
        dedupe candidate.blockers := by
      unfold pressureBlockers
      rw [decide_eq_false allowed.quoted,
        attach_blockers tradable quoted unopposed]
      exact List.append_nil _
    have noHardBlocker := allowed.noHardBlocker
    have safe := allowed.safe
    rw [blockers] at noHardBlocker safe
    rw [optionPressurePayload_attach, weakConfirmation_attach noHardBlocker,
      status_of_unopposed tradable quoted unopposed] at safe
    refine ⟨tradable, allowed.notStopped, (hasHardBlocker_dedupe _).mp noHardBlocker,
      quoted, unopposed, ?_⟩
    by_cases strong : (decimal (31 / 50)).le (contextPressure context candidate.direction) = true
    · exact .inl strong
    · rw [if_neg strong] at safe
      exact .inr safe
  · intro passes
    have status := status_of_unopposed passes.tradable passes.quoted passes.unopposed
    have apart (other : OptionPressureStatus) (notConfirmed : other ≠ .confirmed)
        (notWeak : other ≠ .weakConfirmation) :
        optionPressureStatus (attachOptionPressureConfirmation (some context) candidate) ≠
          some other.value := by
      rw [optionPressureStatus_attach, status]
      intro same
      have equal := value_injective (Option.some.inj same)
      split at equal
      · exact notConfirmed equal.symm
      · exact notWeak equal.symm
    have quoted := apart .blocked (by decide) (by decide)
    have blockers : pressureBlockers (attachOptionPressureConfirmation (some context) candidate) =
        dedupe candidate.blockers := by
      unfold pressureBlockers
      rw [decide_eq_false quoted,
        attach_blockers passes.tradable passes.quoted passes.unopposed]
      exact List.append_nil _
    have noHardBlocker := (hasHardBlocker_dedupe candidate.blockers).mpr passes.noHardBlocker
    refine ⟨passes.tradable, passes.notStopped, apart .conflictingPressure (by decide) (by decide),
      ?_, quoted, apart .notApplicable (by decide) (by decide), ?_⟩
    · rw [blockers]
      exact noHardBlocker
    · rw [blockers, optionPressurePayload_attach, weakConfirmation_attach noHardBlocker, status]
      rcases passes.supported with strong | calm
      · rw [if_pos strong]
        rfl
      · rw [calm, Bool.and_false]

end Confirmation

theorem not_allowed_attach_none (candidate : StrategyCandidate) :
    ¬ Allowed (attachOptionPressureConfirmation none candidate) := by
  intro allowed
  apply allowed.quoted
  rw [optionPressureStatus_attach]
  rfl

end Algotradify.Movement
