/-
The top executable: the best of the rows that nothing rejects.

Every row is rejected with the reasons that speak against it, or it is eligible. The eligible
rows are ordered by their score and their candidate's id, the greatest first, and the first
is selected.
-/

import Algotradify.Candidates.Quality
import Algotradify.Dedup.Firsts

namespace Algotradify.Candidates

open Py Core.Risk

structure TopExecutableSelection where
  status : String
  selected : Option PyDict
  eligible : List PyDict
  rejected : List PyDict
  reason : Option String

/-- `_score`. -/
def rowScore (row : PyDict) : PyFloat :=
  (toFloat ((PyDict.get row "quality_score").or (.float (.finite 0)))).toOption.getD (.finite 0)

/-- `str(row.get("candidate_id") or "")`. -/
def rowId (row : PyDict) : String :=
  printValue ((PyDict.get row "candidate_id").or (.str ""))

/-- `_rejection_reasons`. -/
def rejectionReasons (minQualityScore : PyFloat) (row : PyDict) :
    Except PyError (List String) := do
  let execution ← mappingOr (PyDict.get row "execution_readiness")
  let blockers ← toItems ((PyDict.get row "blockers").or (.list []))
  pure (Paper.dedupe
    (Dedup.messageIf (!(PyDict.get execution "execution_allowed").truthy) "EXECUTION_NOT_ALLOWED" ++
      Dedup.messageIf ((rowScore row).lt minQualityScore) "QUALITY_SCORE_BELOW_THRESHOLD" ++
      Dedup.messageIf ((PyDict.get row "status").isStr "BLOCKED_NOT_EXECUTION_READY")
        "TRADE_QUALITY_BLOCKED" ++
      blockers.map fun blocker => "BLOCKER:" ++ printValue blocker))

structure Screened where
  eligible : List PyDict := []
  rejected : List PyDict := []

def withReasons (row : PyDict) (reasons : List String) : PyDict :=
  PyDict.set row "selector_rejection_reasons" (ofStrings reasons)

def Screened.add (minQualityScore : PyFloat) (screened : Screened) (row : PyDict) :
    Except PyError Screened := do
  let reasons ← rejectionReasons minQualityScore row
  pure
    (if reasons.isEmpty then { screened with eligible := screened.eligible ++ [row] }
    else { screened with rejected := screened.rejected ++ [withReasons row reasons] })

def screen (minQualityScore : PyFloat) (rows : List PyDict) : Except PyError Screened :=
  rows.foldlM (Screened.add minQualityScore) {}

def rowOrderedBy (row : PyDict) : PyFloat × String :=
  (rowScore row, rowId row)

def SelectedBefore (first second : PyDict) : Prop :=
  scoredLess (rowOrderedBy first) (rowOrderedBy second) = false

instance : DecidableRel SelectedBefore := fun _ _ => inferInstanceAs (Decidable (_ = false))

def withSelectorRanks (rank : Int) : List PyDict → List PyDict
  | [] => []
  | row :: rest =>
      PyDict.set row "selector_rank" (.int rank) :: withSelectorRanks (rank + 1) rest

def asTopExecutable (row : PyDict) : PyDict :=
  PyDict.set (PyDict.set row "selected_by" (.str "top_executable_selector")) "selection_reason"
    (.str "highest_quality_score_above_threshold")

/-- What is returned of the eligible rows in their order and the rejected ones. -/
def selectionOf (eligible rejected : List PyDict) : TopExecutableSelection :=
  match eligible with
  | [] =>
      { status := "NO_ELIGIBLE_CANDIDATES"
        selected := none
        eligible := []
        rejected := rejected
        reason := some "no_execution_allowed_quality_candidate" }
  | top :: _ =>
      { status := "SELECTED"
        selected := some (asTopExecutable top)
        eligible := eligible
        rejected := rejected
        reason := some "selected_highest_quality_candidate" }

/-- `select_top_executable`. -/
def selectTopExecutable (minQualityScore : PyFloat) (rows : List PyDict) :
    Except PyError TopExecutableSelection := do
  let screened ← screen minQualityScore rows
  pure (selectionOf (withSelectorRanks 1 (screened.eligible.insertionSort SelectedBefore))
    screened.rejected)

theorem selectionOf_eligible (eligible rejected : List PyDict) :
    (selectionOf eligible rejected).eligible = eligible := by
  cases eligible <;> rfl

theorem selectionOf_rejected (eligible rejected : List PyDict) :
    (selectionOf eligible rejected).rejected = rejected := by
  cases eligible <;> rfl

theorem selectionOf_selected (eligible rejected : List PyDict) :
    (selectionOf eligible rejected).selected = eligible.head?.map asTopExecutable := by
  cases eligible <;> rfl

/-! ### The two sides -/

def reasonsAgainst (minQualityScore : PyFloat) (row : PyDict) : List String :=
  (rejectionReasons minQualityScore row).toOption.getD []

def isEligible (minQualityScore : PyFloat) (row : PyDict) : Bool :=
  (reasonsAgainst minQualityScore row).isEmpty

def sidesOf (minQualityScore : PyFloat) (rows : List PyDict) : Screened where
  eligible := rows.filter (isEligible minQualityScore)
  rejected := (rows.filter (!isEligible minQualityScore ·)).map fun row =>
    withReasons row (reasonsAgainst minQualityScore row)

variable {minQualityScore : PyFloat} {rows : List PyDict}

theorem reasonsAgainst_of_ok {row : PyDict} {reasons : List String}
    (read : rejectionReasons minQualityScore row = .ok reasons) :
    reasonsAgainst minQualityScore row = reasons := by
  unfold reasonsAgainst
  rw [read]
  rfl

theorem read_of_screen {screened : Screened} {start : Screened}
    (ran : rows.foldlM (Screened.add minQualityScore) start = .ok screened) :
    ∀ row ∈ rows, ∃ reasons, rejectionReasons minQualityScore row = .ok reasons := by
  induction rows generalizing start with
  | nil => exact fun _ member => absurd member List.not_mem_nil
  | cons row rest ih =>
      rw [List.foldlM_cons] at ran
      obtain ⟨next, added, ran⟩ := bind_eq_ok.mp ran
      obtain ⟨reasons, read, -⟩ := bind_eq_ok.mp added
      intro other member
      rcases List.mem_cons.mp member with here | later
      · rw [here]
        exact ⟨reasons, read⟩
      · exact ih ran other later

theorem screen_eq_sides
    (read : ∀ row ∈ rows, ∃ reasons, rejectionReasons minQualityScore row = .ok reasons) :
    screen minQualityScore rows = .ok (sidesOf minQualityScore rows) := by
  induction rows using List.reverseRecOn with
  | nil => rfl
  | append_singleton rows row ih =>
      have before := ih fun other member => read other (List.mem_append_left _ member)
      obtain ⟨reasons, ofRow⟩ := read row (List.mem_append_right _ (List.mem_singleton_self row))
      unfold screen at before ⊢
      rw [List.foldlM_append, before]
      change Screened.add minQualityScore (sidesOf minQualityScore rows) row >>= pure = _
      unfold Screened.add
      rw [ofRow]
      have against := reasonsAgainst_of_ok ofRow
      cases clear : reasons.isEmpty with
      | true =>
          have eligible : isEligible minQualityScore row = true := by
            rw [isEligible, against, clear]
          simp [sidesOf, clear, eligible, bind, Except.bind, pure, Except.pure]
      | false =>
          have rejected : isEligible minQualityScore row = false := by
            rw [isEligible, against, clear]
          simp [sidesOf, clear, rejected, against, bind, Except.bind, pure, Except.pure]

theorem screen_eq_ok_iff {screened : Screened} :
    screen minQualityScore rows = .ok screened ↔
      (∀ row ∈ rows, ∃ reasons, rejectionReasons minQualityScore row = .ok reasons) ∧
        screened = sidesOf minQualityScore rows := by
  constructor
  · intro ran
    have read := read_of_screen ran
    have same := (screen_eq_sides read).symm.trans ran
    exact ⟨read, (Except.ok.inj same).symm⟩
  · rintro ⟨read, same⟩
    rw [same]
    exact screen_eq_sides read

def eligibleInOrder (minQualityScore : PyFloat) (rows : List PyDict) : List PyDict :=
  (rows.filter (isEligible minQualityScore)).insertionSort SelectedBefore

theorem selectTopExecutable_eq_ok_iff {selection : TopExecutableSelection} :
    selectTopExecutable minQualityScore rows = .ok selection ↔
      (∀ row ∈ rows, ∃ reasons, rejectionReasons minQualityScore row = .ok reasons) ∧
        selection = selectionOf (withSelectorRanks 1 (eligibleInOrder minQualityScore rows))
          (sidesOf minQualityScore rows).rejected := by
  constructor
  · intro ran
    obtain ⟨screened, split, made⟩ := bind_eq_ok.mp ran
    obtain ⟨read, sides⟩ := screen_eq_ok_iff.mp split
    subst sides
    exact ⟨read, (Except.ok.inj made).symm⟩
  · rintro ⟨read, same⟩
    rw [same]
    exact bind_eq_ok.mpr ⟨_, screen_eq_sides read, rfl⟩

theorem mem_withSelectorRanks {rank : Int} {rows : List PyDict} {ranked : PyDict}
    (member : ranked ∈ withSelectorRanks rank rows) :
    ∃ row ∈ rows, ∃ own, ranked = PyDict.set row "selector_rank" (.int own) := by
  induction rows generalizing rank with
  | nil => cases member
  | cons row rest ih =>
      rcases List.mem_cons.mp member with here | later
      · exact ⟨row, List.mem_cons_self, rank, here⟩
      · obtain ⟨other, inRest, own, made⟩ := ih later
        exact ⟨other, List.mem_cons_of_mem _ inRest, own, made⟩

theorem head?_withSelectorRanks (rank : Int) (rows : List PyDict) :
    (withSelectorRanks rank rows).head? =
      rows.head?.map fun row => PyDict.set row "selector_rank" (.int rank) := by
  cases rows <;> rfl

/-! ### Reading a row again -/

theorem rowScore_congr {first second : PyDict}
    (same : PyDict.get first "quality_score" = PyDict.get second "quality_score") :
    rowScore first = rowScore second := by
  unfold rowScore
  rw [same]

@[simp] theorem rowScore_ranked (row : PyDict) (rank : Int) :
    rowScore (PyDict.set row "selector_rank" (.int rank)) = rowScore row :=
  rowScore_congr (PyDict.get_set_of_ne row _ (by decide))

@[simp] theorem rowScore_asTopExecutable (row : PyDict) :
    rowScore (asTopExecutable row) = rowScore row := by
  apply rowScore_congr
  unfold asTopExecutable
  rw [PyDict.get_set_of_ne _ _ (by decide), PyDict.get_set_of_ne _ _ (by decide)]

theorem eligible_reads {row : PyDict} (read : rejectionReasons minQualityScore row = .ok []) :
    (rowScore row).lt minQualityScore = false ∧
      ∃ execution, mappingOr (PyDict.get row "execution_readiness") = .ok execution ∧
        (PyDict.get execution "execution_allowed").truthy = true := by
  obtain ⟨execution, found, read⟩ := bind_eq_ok.mp read
  obtain ⟨blockers, -, read⟩ := bind_eq_ok.mp read
  have blank := (Paper.dedupe_eq_nil_iff _).mp (Except.ok.inj read)
  constructor
  · by_contra below
    rw [Bool.not_eq_false] at below
    have listed := blank "QUALITY_SCORE_BELOW_THRESHOLD" (by simp [below, Dedup.messageIf])
    exact absurd listed (by decide)
  · refine ⟨execution, found, ?_⟩
    by_contra refused
    have listed := blank "EXECUTION_NOT_ALLOWED" (by simp [refused, Dedup.messageIf])
    exact absurd listed (by decide)

end Algotradify.Candidates
