/-
The order of the ranking: a candidate that is nowhere worse ranks above another one, unless
rounding leaves nothing between them, and then the names decide; the order of the candidates
in the list does not show.
-/

import Algotradify.Movement.Ranker

namespace Algotradify.Movement

open Py Dedup Sorting

variable {low high : PyFloat} {first second candidate : StrategyCandidate}
variable {candidates : List StrategyCandidate}

/-! ### Bounded numbers -/

/-- A number cut off at zero and one; what is no number counts as one. -/
def clamped : PyFloat → ℚ
  | .finite value => max 0 (min 1 value)
  | .negInf => 0
  | .posInf => 1
  | .nan => 1

theorem bounded_eq (value : PyFloat) : bounded value = .finite (roundFour (clamped value)) := by
  unfold bounded
  have cut : Core.Risk.pyMax (decimal 0) (Core.Risk.pyMin (decimal 1) value) =
      .finite (clamped value) := by
    cases value with
    | nan | posInf | negInf => rfl
    | finite number =>
        have own : clamped (.finite number) = max 0 (min 1 number) := rfl
        unfold Core.Risk.pyMin Core.Risk.pyMax
        rw [own]
        by_cases small : number < 1
        · rw [if_pos ((PyFloat.finite_lt number 1).mpr small)]
          by_cases positive : 0 < number
          · rw [if_pos ((PyFloat.finite_lt 0 number).mpr positive), min_eq_right small.le,
              max_eq_right positive.le]
          · have notAbove : ¬ (decimal 0).lt (.finite number) = true :=
              mt (PyFloat.finite_lt 0 number).mp positive
            rw [if_neg notAbove, min_eq_right small.le, max_eq_left (not_lt.mp positive)]
        · have notBelow : ¬ (PyFloat.finite number).lt (decimal 1) = true :=
            mt (PyFloat.finite_lt number 1).mp small
          rw [if_neg notBelow, min_eq_left (not_lt.mp small), max_eq_right zero_le_one]
          rfl
  rw [cut]
  rfl

theorem roundFour_rounds : Rounds roundFour :=
  rounds_grid (by norm_num) (fun _ _ => roundHalfEven_mono) roundHalfEven_int

theorem clamped_mono (atMost : low.le high = true) :
    clamped low ≤ clamped high := by
  cases low with
  | finite own =>
      cases high with
      | finite other =>
          have ordered := (PyFloat.finite_le own other).mp atMost
          exact max_le_max_left 0 (min_le_min_left 1 ordered)
      | posInf => exact max_le zero_le_one (min_le_left _ _)
      | negInf => cases atMost
      | nan => cases atMost
  | negInf =>
      cases high with
      | finite other => exact le_max_left _ _
      | posInf => exact zero_le_one
      | negInf => exact le_refl _
      | nan => cases atMost
  | posInf =>
      cases high with
      | finite other => cases atMost
      | posInf => exact le_refl _
      | negInf => cases atMost
      | nan => cases atMost
  | nan => cases high <;> cases atMost

/-! ### Merits -/

def StrategyCandidate.rankScores (candidate : StrategyCandidate) : List PyFloat :=
  [candidate.rawScore, candidate.confidenceScore, candidate.optionConfirmationScore,
    candidate.liquidityScore, candidate.freshnessScore, candidate.volatilityScore,
    candidate.regimeAlignmentScore]

def AtLeastAsGood (first second : StrategyCandidate) : Prop :=
  List.Forall₂ (fun own other => other.le own = true) first.rankScores second.rankScores

/-- The numbers that the order is taken by: the rank score and the scores that break ties,
each rounded to four digits. -/
def merits (candidate : StrategyCandidate) : List PyFloat :=
  [rankScoreOf candidate, bounded candidate.optionConfirmationScore,
    bounded candidate.liquidityScore, bounded candidate.freshnessScore,
    bounded candidate.regimeAlignmentScore]

def meritParts (candidate : StrategyCandidate) : List KeyPart :=
  (merits candidate).map fun merit => .number (-merit)

def nameParts (candidate : StrategyCandidate) : List KeyPart :=
  [.text candidate.strategyId, .text candidate.candidateId]

def rankKey (candidate : StrategyCandidate) : List KeyPart :=
  rankSortKey (rankScoreOf candidate, candidate)

theorem rankKey_eq (candidate : StrategyCandidate) :
    rankKey candidate = meritParts candidate ++ nameParts candidate := by
  unfold rankKey rankSortKey tieBreakerOf meritParts merits nameParts
  simp only [List.map_cons, List.map_nil, List.cons_append, List.nil_append]

def weightedSum (candidate : StrategyCandidate) : ℚ :=
  roundFour (clamped candidate.rawScore) * (9 / 50) +
    roundFour (clamped candidate.confidenceScore) * (9 / 50) +
    roundFour (clamped candidate.optionConfirmationScore) * (1 / 5) +
    roundFour (clamped candidate.liquidityScore) * (7 / 50) +
    roundFour (clamped candidate.freshnessScore) * (3 / 25) +
    roundFour (clamped candidate.volatilityScore) * (2 / 25) +
    roundFour (clamped candidate.regimeAlignmentScore) * (1 / 10)

theorem rankScoreOf_eq (candidate : StrategyCandidate) :
    rankScoreOf candidate = bounded (.finite (weightedSum candidate)) := by
  unfold rankScoreOf weightedSum decimal
  simp only [bounded_eq, PyFloat.finite_mul, PyFloat.finite_add]

theorem exists_merits (candidate : StrategyCandidate) :
    ∃ numbers : List ℚ, merits candidate = numbers.map PyFloat.finite := by
  refine ⟨[roundFour (clamped (.finite (weightedSum candidate))),
    roundFour (clamped candidate.optionConfirmationScore),
    roundFour (clamped candidate.liquidityScore), roundFour (clamped candidate.freshnessScore),
    roundFour (clamped candidate.regimeAlignmentScore)], ?_⟩
  unfold merits
  rw [rankScoreOf_eq]
  simp only [bounded_eq, List.map_cons, List.map_nil]

theorem rounded_mono (atMost : low.le high = true) :
    roundFour (clamped low) ≤ roundFour (clamped high) :=
  roundFour_rounds.monotone (clamped_mono atMost)

theorem weightedSum_mono (good : AtLeastAsGood first second) :
    weightedSum second ≤ weightedSum first := by
  unfold AtLeastAsGood StrategyCandidate.rankScores at good
  simp only [List.forall₂_cons, List.Forall₂.nil, and_true] at good
  obtain ⟨raw, confidence, confirmation, liquidity, freshness, volatility, regime⟩ := good
  have one := rounded_mono raw
  have two := rounded_mono confidence
  have three := rounded_mono confirmation
  have four := rounded_mono liquidity
  have five := rounded_mono freshness
  have six := rounded_mono volatility
  have seven := rounded_mono regime
  unfold weightedSum
  linarith

/-! ### Keys -/

theorem comparable_bounded (left right : PyFloat) :
    (KeyPart.number (-bounded left)).Comparable (.number (-bounded right)) := by
  rw [bounded_eq, bounded_eq, PyFloat.neg_finite, PyFloat.neg_finite]
  exact KeyPart.comparable_finite _ _

theorem comparable_rankKey : Comparable KeyPart.same KeyPart.less rankKey := by
  intro first second
  rw [rankKey_eq, rankKey_eq]
  unfold meritParts merits nameParts
  rw [rankScoreOf_eq, rankScoreOf_eq]
  simp only [List.map_cons, List.map_nil, List.cons_append, List.nil_append]
  refine .cons (comparable_bounded _ _) (.cons (comparable_bounded _ _)
    (.cons (comparable_bounded _ _) (.cons (comparable_bounded _ _)
      (.cons (comparable_bounded _ _) (.cons ?_ (.cons ?_ .nil))))))
  · exact KeyPart.comparable_text _ _
  · exact KeyPart.comparable_text _ _

theorem atMost_bounded (ordered : roundFour (clamped low) ≤ roundFour (clamped high)) :
    (KeyPart.number (-bounded high)).same (.number (-bounded low)) = true ∨
      (KeyPart.number (-bounded high)).less (.number (-bounded low)) = true := by
  rw [bounded_eq, bounded_eq, PyFloat.neg_finite, PyFloat.neg_finite]
  unfold KeyPart.same KeyPart.less
  rcases lt_or_eq_of_le ordered with less | equal
  · right
    exact (PyFloat.finite_lt _ _).mpr (neg_lt_neg less)
  · left
    simp [PyFloat.eq, equal]

theorem meritParts_atMost (good : AtLeastAsGood first second) :
    List.Forall₂ (fun left right => left.same right = true ∨ left.less right = true)
      (meritParts first) (meritParts second) := by
  have total : roundFour (clamped (.finite (weightedSum second))) ≤
      roundFour (clamped (.finite (weightedSum first))) :=
    rounded_mono ((PyFloat.finite_le _ _).mpr (weightedSum_mono good))
  unfold AtLeastAsGood StrategyCandidate.rankScores at good
  simp only [List.forall₂_cons, List.Forall₂.nil, and_true] at good
  obtain ⟨_, _, confirmation, liquidity, freshness, _, regime⟩ := good
  unfold meritParts merits
  rw [rankScoreOf_eq, rankScoreOf_eq]
  simp only [List.map_cons, List.map_nil]
  exact .cons (atMost_bounded total) (.cons (atMost_bounded (rounded_mono confirmation))
    (.cons (atMost_bounded (rounded_mono liquidity))
      (.cons (atMost_bounded (rounded_mono freshness))
        (.cons (atMost_bounded (rounded_mono regime)) .nil))))

theorem meritParts_injective (same : meritParts first = meritParts second) :
    merits first = merits second := by
  obtain ⟨own, isOwn⟩ := exists_merits first
  obtain ⟨other, isOther⟩ := exists_merits second
  unfold meritParts at same
  rw [isOwn, isOther] at same ⊢
  rw [List.map_map, List.map_map] at same
  apply congrArg
  refine List.map_injective_iff.mpr ?_ same
  intro left right equal
  simpa using equal

theorem meritParts_known (candidate : StrategyCandidate) :
    ∀ part ∈ meritParts candidate, part.same part = true := by
  obtain ⟨numbers, are⟩ := exists_merits candidate
  unfold meritParts
  rw [are]
  simp [KeyPart.same, PyFloat.eq]

def NamedBefore (first second : StrategyCandidate) : Prop :=
  first.strategyId < second.strategyId ∨
    first.strategyId = second.strategyId ∧ first.candidateId < second.candidateId

theorem keyLess_nameParts (before : NamedBefore first second) :
    keyLess (nameParts first) (nameParts second) = true := by
  unfold nameParts keyLess
  rcases before with strategy | ⟨same, candidate⟩
  · rw [tupleLess, if_neg]
    · exact decide_eq_true strategy
    · unfold KeyPart.same
      simp [ne_of_lt strategy]
  · rw [tupleLess, if_pos (by unfold KeyPart.same; simp [same]), tupleLess, if_neg]
    · exact decide_eq_true candidate
    · unfold KeyPart.same
      simp [ne_of_lt candidate]

/-- A candidate that is nowhere worse is in front, unless rounding leaves no difference. -/
theorem rankKey_less_of_merits (good : AtLeastAsGood first second)
    (apart : merits first ≠ merits second) :
    keyLess (rankKey first) (rankKey second) = true := by
  rw [rankKey_eq, rankKey_eq]
  exact tupleLess_of_atMost keyPartLaws (meritParts_atMost good)
    (fun same => apart (meritParts_injective same)) _ _

theorem rankKey_less_of_names (same : merits first = merits second)
    (named : NamedBefore first second) :
    keyLess (rankKey first) (rankKey second) = true := by
  have parts : meritParts first = meritParts second := by
    unfold meritParts
    rw [same]
  rw [rankKey_eq, rankKey_eq, parts]
  unfold keyLess
  rw [tupleLess_append (meritParts_known second)]
  exact keyLess_nameParts named

/-! ### Ranks -/

def ranking (candidates : List StrategyCandidate) : List StrategyCandidate :=
  (candidates.filter fun candidate => (exclusionReason candidate).isNone).insertionSort
    (NotAfter KeyPart.same KeyPart.less rankKey)

theorem scoredCandidates_eq (candidates : List StrategyCandidate) :
    scoredCandidates candidates =
      (ranking candidates).map fun candidate => (rankScoreOf candidate, candidate) := by
  unfold scoredCandidates ranking
  symm
  apply List.map_insertionSort
  intro first _ second _
  unfold NotAfter rankLe keyLess rankKey
  exact Iff.rfl

theorem ranking_sorted (candidates : List StrategyCandidate) :
    (ranking candidates).Pairwise (NotAfter KeyPart.same KeyPart.less rankKey) :=
  pairwise_notAfter keyPartLaws comparable_rankKey _

theorem mem_ranking_iff :
    candidate ∈ ranking candidates ↔
      candidate ∈ candidates ∧ exclusionReason candidate = none := by
  unfold ranking
  rw [List.mem_insertionSort, List.mem_filter, Option.isNone_iff_eq_none]

def RankedAt (candidates : List StrategyCandidate) (candidate : StrategyCandidate) (rank : ℕ) :
    Prop :=
  ∃ entry ∈ rankedEntries candidates, entry.1.2 = candidate ∧ entry.2 = rank

theorem rankedAt_iff {rank : ℕ} :
    RankedAt candidates candidate rank ↔
      1 ≤ rank ∧ (ranking candidates)[rank - 1]? = some candidate := by
  unfold RankedAt rankedEntries
  rw [scoredCandidates_eq]
  constructor
  · rintro ⟨entry, member, rfl, rfl⟩
    obtain ⟨first, at_⟩ := List.mem_zipIdx_iff_le_and_getElem?_sub.mp member
    rw [List.getElem?_map] at at_
    obtain ⟨candidate, found, same⟩ := Option.map_eq_some_iff.mp at_
    exact ⟨first, by rw [found, ← same]⟩
  · intro ⟨first, found⟩
    refine ⟨((rankScoreOf candidate, candidate), rank), ?_, rfl, rfl⟩
    rw [List.mem_zipIdx_iff_le_and_getElem?_sub, List.getElem?_map, found]
    exact ⟨first, rfl⟩

theorem exists_rank (member : candidate ∈ candidates) (rankable : exclusionReason candidate = none) :
    ∃ rank, RankedAt candidates candidate rank := by
  obtain ⟨index, found⟩ := List.mem_iff_getElem?.mp (mem_ranking_iff.mpr ⟨member, rankable⟩)
  refine ⟨index + 1, rankedAt_iff.mpr ⟨Nat.le_add_left 1 index, ?_⟩⟩
  rw [Nat.add_sub_cancel]
  exact found

theorem rank_lt_of_keyLess {firstRank secondRank : ℕ}
    (firstAt : RankedAt candidates first firstRank)
    (secondAt : RankedAt candidates second secondRank)
    (before : keyLess (rankKey first) (rankKey second) = true) : firstRank < secondRank := by
  obtain ⟨firstLeast, firstFound⟩ := rankedAt_iff.mp firstAt
  obtain ⟨secondLeast, secondFound⟩ := rankedAt_iff.mp secondAt
  by_contra notBefore
  rcases Nat.lt_or_ge (secondRank - 1) (firstRank - 1) with behind | notBehind
  · obtain ⟨secondBound, isSecond⟩ := List.getElem?_eq_some_iff.mp secondFound
    obtain ⟨firstBound, isFirst⟩ := List.getElem?_eq_some_iff.mp firstFound
    have sorted := List.pairwise_iff_getElem.mp (ranking_sorted candidates) _ _ secondBound
      firstBound behind
    rw [isFirst, isSecond] at sorted
    unfold NotAfter at sorted
    unfold keyLess at before
    rw [before] at sorted
    cases sorted
  · have equal : firstRank = secondRank := by omega
    rw [equal, secondFound] at firstFound
    rw [Option.some.inj firstFound] at before
    unfold keyLess at before
    rw [tupleLess_irrefl keyPartLaws] at before
    cases before

theorem ranking_of_perm {others : List StrategyCandidate}
    (distinct : (candidates.map StrategyCandidate.candidateId).Nodup)
    (perm : candidates.Perm others) : ranking candidates = ranking others := by
  apply sort_eq_of_perm keyPartLaws comparable_rankKey _ (perm.filter _)
  intro left leftIn right rightIn same
  apply List.inj_on_of_nodup_map distinct (List.mem_filter.mp leftIn).1
    (List.mem_filter.mp rightIn).1
  rw [rankKey_eq, rankKey_eq] at same
  have lengths : (meritParts left).length = (meritParts right).length := rfl
  have names := (List.append_inj same lengths).2
  unfold nameParts at names
  simpa using (List.cons.inj (List.cons.inj names).2).1

theorem rankedEntries_of_perm {others : List StrategyCandidate}
    (distinct : (candidates.map StrategyCandidate.candidateId).Nodup)
    (perm : candidates.Perm others) : rankedEntries candidates = rankedEntries others := by
  unfold rankedEntries
  rw [scoredCandidates_eq, scoredCandidates_eq, ranking_of_perm distinct perm]

/-! ### The ranking -/

private def scoredCandidate (strategyId : String) (rawScore : ℚ) : StrategyCandidate :=
  { schemaVersion := movementCandidateSchemaVersion
    candidateId := strategyId ++ "-1"
    strategyId := strategyId
    movementType := "BREAKOUT"
    symbol := "NIFTY"
    direction := .buyCall
    status := .rawCandidate
    rawScore := .finite rawScore
    confidenceScore := decimal (1 / 2)
    priceStructureScore := decimal (1 / 2)
    optionConfirmationScore := decimal (1 / 2)
    liquidityScore := decimal (1 / 2)
    freshnessScore := decimal (1 / 2)
    volatilityScore := decimal (1 / 2)
    regimeAlignmentScore := decimal (1 / 2)
    entryTrigger := "break"
    invalidIf := "back inside"
    rankReason := "volume"
    evidence := [(noTradeFilterEvidenceKey,
      .dict [("decision", .str NoTradeDecision.allowCandidate.value)])] }

private def rivals (rawScore : ℚ) : List StrategyCandidate :=
  [scoredCandidate "orb" rawScore, scoredCandidate "breakout" (1 / 2)]

private theorem rivals_ranked (rawScore : ℚ) :
    ∃ firstRank secondRank, RankedAt (rivals rawScore) (scoredCandidate "orb" rawScore) firstRank ∧
      RankedAt (rivals rawScore) (scoredCandidate "breakout" (1 / 2)) secondRank := by
  have rankable (strategyId : String) (score : ℚ) :
      exclusionReason (scoredCandidate strategyId score) = none := rfl
  obtain ⟨firstRank, firstAt⟩ := exists_rank (List.mem_cons_self : _ ∈ rivals rawScore)
    (rankable _ _)
  obtain ⟨secondRank, secondAt⟩ := exists_rank
    (List.mem_cons_of_mem _ List.mem_cons_self : _ ∈ rivals rawScore) (rankable _ _)
  exact ⟨firstRank, secondRank, firstAt, secondAt⟩

private theorem rivals_good {rawScore : ℚ} (atLeast : 1 / 2 ≤ rawScore) :
    AtLeastAsGood (scoredCandidate "orb" rawScore) (scoredCandidate "breakout" (1 / 2)) := by
  have first : (decimal (1 / 2)).le (.finite rawScore) = true := (PyFloat.finite_le _ _).mpr atLeast
  have rest : (decimal (1 / 2)).le (decimal (1 / 2)) = true := (PyFloat.finite_le _ _).mpr le_rfl
  exact .cons first (.cons rest (.cons rest (.cons rest (.cons rest (.cons rest (.cons rest
    .nil))))))

/-- The ranking follows the merits, and where they are the same the names; it does not depend
on the order of candidates with different ids. -/
theorem ranked_by_merit :
    (∀ (candidates : List StrategyCandidate) (first second : StrategyCandidate)
      (firstRank secondRank : ℕ), RankedAt candidates first firstRank →
        RankedAt candidates second secondRank →
        (AtLeastAsGood first second → merits first ≠ merits second → firstRank < secondRank) ∧
        (merits first = merits second → NamedBefore first second → firstRank < secondRank)) ∧
    ∀ candidates others : List StrategyCandidate,
      (candidates.map StrategyCandidate.candidateId).Nodup → candidates.Perm others →
      (rankMovementCandidates candidates).rankedCandidates =
          (rankMovementCandidates others).rankedCandidates ∧
        (rankMovementCandidates candidates).rankRecords =
          (rankMovementCandidates others).rankRecords := by
  constructor
  · intro candidates first second firstRank secondRank firstAt secondAt
    constructor
    · intro good apart
      exact rank_lt_of_keyLess firstAt secondAt (rankKey_less_of_merits good apart)
    · intro same named
      exact rank_lt_of_keyLess firstAt secondAt (rankKey_less_of_names same named)
  · intro candidates others distinct perm
    have entries := rankedEntries_of_perm distinct perm
    unfold rankMovementCandidates
    dsimp only
    rw [entries]
    exact ⟨rfl, rfl⟩

theorem ranked_by_merit_rivals : ∃ firstRank secondRank,
    RankedAt (rivals (3 / 5)) (scoredCandidate "orb" (3 / 5)) firstRank ∧
      RankedAt (rivals (3 / 5)) (scoredCandidate "breakout" (1 / 2)) secondRank ∧
      firstRank < secondRank := by
  obtain ⟨firstRank, secondRank, firstAt, secondAt⟩ := rivals_ranked (3 / 5)
  have decided := (ranked_by_merit.1 _ _ _ _ _ firstAt secondAt).1 (rivals_good (by norm_num))
    (by decide +kernel)
  exact ⟨firstRank, secondRank, firstAt, secondAt, decided⟩

def Dominates (first second : StrategyCandidate) : Prop :=
  AtLeastAsGood first second ∧
    ∃ pair ∈ first.rankScores.zip second.rankScores, pair.2.lt pair.1 = true

def UnitScores (candidate : StrategyCandidate) : Prop :=
  ∀ score ∈ candidate.rankScores, (decimal 0).le score = true ∧ score.le (decimal 1) = true

/-- A raw score of 0.50001 is rounded to that of 0.5, and the names decide. -/
theorem dominated_ranks_first :
    ¬ ∀ (candidates : List StrategyCandidate) (first second : StrategyCandidate)
      (firstRank secondRank : ℕ),
      (∀ candidate ∈ candidates, exclusionReason candidate = none ∧ UnitScores candidate) →
      RankedAt candidates first firstRank → RankedAt candidates second secondRank →
      Dominates first second → firstRank < secondRank := by
  intro always
  obtain ⟨firstRank, secondRank, firstAt, secondAt⟩ := rivals_ranked (50001 / 100000)
  have unit (strategyId : String) (rawScore : ℚ) (low : 0 ≤ rawScore) (high : rawScore ≤ 1) :
      UnitScores (scoredCandidate strategyId rawScore) := by
    unfold UnitScores StrategyCandidate.rankScores scoredCandidate decimal
    simp only [List.forall_mem_cons, PyFloat.finite_le]
    norm_num [low, high]
  have promised := always _ _ _ _ _ ?_ firstAt secondAt
    ⟨rivals_good (by norm_num), _, List.mem_cons_self, ?_⟩
  · have behind := rank_lt_of_keyLess secondAt firstAt
      (rankKey_less_of_names (by decide +kernel) (.inl (by decide)))
    omega
  · intro candidate member
    rcases List.mem_cons.mp member with rfl | other
    · exact ⟨rfl, unit _ _ (by norm_num) (by norm_num)⟩
    · rw [List.mem_singleton.mp other]
      exact ⟨rfl, unit _ _ (by norm_num) (by norm_num)⟩
  · exact (PyFloat.finite_lt _ _).mpr (by norm_num)

end Algotradify.Movement
