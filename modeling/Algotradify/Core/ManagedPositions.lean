/-
Quantities and status of a managed position over runs of the position state engine: what
one exit action does to them, and the runs in which a closed position stays closed.
-/

import Algotradify.Core.PositionStateEngine

namespace Algotradify.Core.PositionStateEngine

open Py

variable {state before after : PositionState} {action : PyDict}

inductive EngineCall where
  | update (market : PyDict) (nowTs : PyFloat)
  | exit (action : PyDict) (nowTs : PyFloat)

def EngineCall.apply (state : PositionState) : EngineCall → PositionState
  | .update market nowTs => updatePositionState state market nowTs
  | .exit action nowTs => applyExitAction state action nowTs

def stateAfter (start : PositionState) (calls : List EngineCall) : PositionState :=
  calls.foldl EngineCall.apply start

/-- The quantities add up to that of the position, which is closed when nothing remains. -/
structure Conserved (quantity : Int) (state : PositionState) : Prop where
  total : state.realizedQty + state.remainingQty = quantity
  closed_iff : state.status = .closed ↔ state.remainingQty = 0

/-- What an earlier state of a position leaves open to a later one. -/
structure Lasts (earlier later : PositionState) : Prop where
  remaining : later.remainingQty ≤ earlier.remainingQty
  closed : earlier.status = .closed → later.status = .closed

def MovesStop (state : PositionState) (action : PyDict) : Prop :=
  actionName action = "MOVE_STOP" ∧ ∃ newStop, safeFloat (action.get "new_stop") none = some newStop ∧
    ¬(state.breakevenDone = true ∧
      (state.currentStop - newStop).abs.le (.finite (1 / 1000000000)) = true)

def Reopens (state : PositionState) : EngineCall → Prop
  | .update _ _ => False
  | .exit action _ => state.remainingQty = 0 ∧ MovesStop state action

/-! ### One exit action -/

theorem exitQty_le (open_ : 0 < state.remainingQty) :
    exitQty state action ≤ state.remainingQty := by
  unfold exitQty shareQty
  dsimp only
  split
  · omega
  · split <;> omega

structure Holding where
  qty : Int
  realized : Int
  remaining : Int
  status : PositionStatus
deriving DecidableEq, Repr

def PositionState.holding (state : PositionState) : Holding :=
  { qty := state.qty
    realized := state.realizedQty
    remaining := state.remainingQty
    status := state.status }

@[simp] theorem holding_status (state : PositionState) : state.holding.status = state.status := rfl

inductive ExitEffect (before : Holding) : Holding → Prop
  | kept : ExitEffect before before
  | reduced {quantity : Int} (some : 0 < quantity) (held : quantity ≤ before.remaining)
      {status : PositionStatus} (ends : status = .closed ↔ before.remaining - quantity = 0) :
      ExitEffect before
        { before with
          realized := before.realized + quantity
          remaining := before.remaining - quantity
          status := status }
  | moved {status : PositionStatus} (opens : status ≠ .closed) :
      ExitEffect before { before with status := status }
  | exited :
      ExitEffect before
        { before with
          realized := before.qty
          remaining := 0
          status := .closed }

theorem partialExit_effect (made : partialExit before action = some after) :
    ExitEffect before.holding after.holding := by
  unfold partialExit at made
  split at made
  · cases made
  split at made
  · cases made
  split at made
  · cases made
  rename_i open_ quantity
  have held : exitQty before action ≤ before.remainingQty := exitQty_le (Int.not_le.mp open_)
  have left : max 0 (before.remainingQty - exitQty before action) =
      before.remainingQty - exitQty before action := by omega
  simp only [left, Option.some.injEq] at made
  subst made
  apply ExitEffect.reduced (Int.not_le.mp quantity) held
  simp only [PositionState.holding]
  split
  · simp only [reduceCtorEq, false_iff]
    omega
  · simp only [true_iff]
    omega

theorem moveStop_effect (made : moveStop before action = some after) :
    ExitEffect before.holding after.holding := by
  unfold moveStop at made
  split at made
  · cases made
  split at made
  · cases made
  cases made
  apply ExitEffect.moved
  split <;> simp

theorem exitBranch_effect (made : exitBranch before action = some after) :
    ExitEffect before.holding after.holding := by
  unfold exitBranch at made
  split at made
  · exact partialExit_effect made
  split at made
  · exact moveStop_effect made
  split at made
  · cases made
    exact .exited
  · cases made
    exact .kept

theorem applyExitAction_holding (state : PositionState) (action : PyDict) (nowTs : PyFloat) :
    (applyExitAction state action nowTs).holding =
      ((exitBranch { state with updatedTs := nowTs } action).getD
        { state with updatedTs := nowTs }).holding := by
  unfold applyExitAction
  simp only
  split
  · rename_i stopped
    rw [stopped]
    rfl
  · rename_i made
    rw [made]
    split <;> rfl

theorem applyExitAction_effect (state : PositionState) (action : PyDict) (nowTs : PyFloat) :
    ExitEffect state.holding (applyExitAction state action nowTs).holding := by
  have timed : ({ state with updatedTs := nowTs } : PositionState).holding = state.holding := rfl
  rw [applyExitAction_holding, ← timed]
  generalize ({ state with updatedTs := nowTs } : PositionState) = before
  cases made : exitBranch before action with
  | none => exact .kept
  | some changed => exact exitBranch_effect made

/-! ### Closed positions -/

theorem moveStop_eq_none_iff (named : actionName action = "MOVE_STOP") :
    moveStop state action = none ↔ ¬MovesStop state action := by
  unfold MovesStop moveStop
  cases given : safeFloat (action.get "new_stop") none with
  | none => simp
  | some newStop =>
      simp only [named, true_and, Option.some.injEq, exists_eq_left']
      split
      · rename_i same
        exact iff_of_true rfl (not_not.mpr same)
      · rename_i different
        exact iff_of_false (by simp) (not_not.mpr different)

theorem exitBranch_moveStop (named : actionName action = "MOVE_STOP") :
    exitBranch state action = moveStop state action := by
  unfold exitBranch
  rw [if_neg, if_pos named]
  simp [named]

theorem MovesStop.status (moves : MovesStop state action) :
    ((exitBranch state action).getD state).status ≠ .closed := by
  rw [exitBranch_moveStop moves.1]
  cases made : moveStop state action with
  | none => exact absurd moves ((moveStop_eq_none_iff moves.1).mp made)
  | some changed =>
      unfold moveStop at made
      split at made
      · cases made
      split at made
      · cases made
      cases made
      rw [Option.getD_some]
      simp only
      split <;> simp

theorem exitBranch_closed (closed : state.status = .closed) (empty : state.remainingQty = 0)
    (still : ¬MovesStop state action) :
    ((exitBranch state action).getD state).status = .closed := by
  by_cases named : actionName action = "MOVE_STOP"
  · rw [exitBranch_moveStop named, (moveStop_eq_none_iff named).mpr still]
    exact closed
  · unfold exitBranch
    rw [if_neg named]
    split
    · have stopped : partialExit state action = none := by
        unfold partialExit
        simp [empty]
      rw [stopped]
      exact closed
    · split
      · rfl
      · exact closed

theorem applyExitAction_status (state : PositionState) (action : PyDict) (nowTs : PyFloat) :
    (applyExitAction state action nowTs).status =
      ((exitBranch { state with updatedTs := nowTs } action).getD
        { state with updatedTs := nowTs }).status := by
  have same := congrArg Holding.status (applyExitAction_holding state action nowTs)
  simpa only [holding_status] using same

theorem closed_applyExitAction_iff (nowTs : PyFloat) (closed : state.status = .closed)
    (empty : state.remainingQty = 0) :
    (applyExitAction state action nowTs).status = .closed ↔ ¬MovesStop state action := by
  rw [applyExitAction_status]
  have timedClosed : ({ state with updatedTs := nowTs } : PositionState).status = .closed := closed
  have timedEmpty : ({ state with updatedTs := nowTs } : PositionState).remainingQty = 0 := empty
  have timedMoves : MovesStop { state with updatedTs := nowTs } action ↔ MovesStop state action :=
    Iff.rfl
  rw [← timedMoves]
  generalize ({ state with updatedTs := nowTs } : PositionState) = before at *
  constructor
  · intro stays moves
    exact moves.status stays
  · exact exitBranch_closed timedClosed timedEmpty

/-! ### Runs -/

/-- Quantities that add up, none of them owed, and a status that tells when nothing is left. -/
structure Holding.Sound (holding : Holding) : Prop where
  total : holding.realized + holding.remaining = holding.qty
  nonneg : 0 ≤ holding.remaining
  closed_iff : holding.status = .closed ↔ holding.remaining = 0

theorem ExitEffect.step {before after : Holding} (effect : ExitEffect before after)
    (sound : before.Sound)
    (stays : before.status = .closed → after.status = .closed) :
    after.Sound ∧ after.qty = before.qty ∧ after.remaining ≤ before.remaining := by
  obtain ⟨total, nonneg, closed_iff⟩ := sound
  cases effect with
  | kept => exact ⟨⟨total, nonneg, closed_iff⟩, rfl, Int.le_refl _⟩
  | reduced some held ends =>
      refine ⟨⟨?_, ?_, ends⟩, rfl, ?_⟩
      · simp only
        omega
      · simp only
        omega
      · simp only
        omega
  | moved opens =>
      have left : before.remaining ≠ 0 := fun empty => opens (stays (closed_iff.mpr empty))
      exact ⟨⟨total, nonneg, iff_of_false opens left⟩, rfl, Int.le_refl _⟩
  | exited => exact ⟨⟨Int.add_zero _, Int.le_refl 0, iff_of_true rfl rfl⟩, rfl, nonneg⟩

theorem EngineCall.apply_effect (state : PositionState) (call : EngineCall) :
    ExitEffect state.holding (call.apply state).holding := by
  cases call with
  | update market nowTs => exact .kept
  | exit action nowTs => exact applyExitAction_effect state action nowTs

theorem closed_apply_iff (empty : state.remainingQty = 0) (call : EngineCall)
    (closed : state.status = .closed) :
    (call.apply state).status = .closed ↔ ¬Reopens state call := by
  cases call with
  | update market nowTs => exact iff_of_true closed id
  | exit action nowTs =>
      unfold EngineCall.apply Reopens
      rw [closed_applyExitAction_iff nowTs closed empty, empty]
      simp

theorem initial_sound (rounding : ℚ → ℚ) (fill candidate : PyDict) (nowTs : PyFloat) :
    (initializePositionState rounding fill candidate nowTs).holding.Sound := by
  have some : 0 < initialQty fill candidate := by
    unfold initialQty
    split
    · assumption
    split
    · assumption
    split
    · assumption
    · omega
  constructor
  · exact Int.zero_add _
  · exact Int.le_of_lt some
  · apply iff_of_false (by simp [PositionState.holding, initializePositionState])
    simp only [PositionState.holding, initializePositionState]
    omega

def Steady (start : PositionState) (calls : List EngineCall) : Prop :=
  ∀ earlier call rest, calls = earlier ++ call :: rest → ¬Reopens (stateAfter start earlier) call

theorem stateAfter_append (start : PositionState) (first second : List EngineCall) :
    stateAfter start (first ++ second) = stateAfter (stateAfter start first) second :=
  List.foldl_append

theorem stateAfter_singleton (start : PositionState) (call : EngineCall) :
    stateAfter start [call] = call.apply start := rfl

theorem Reopens.empty {state : PositionState} {call : EngineCall} (reopens : Reopens state call) :
    state.remainingQty = 0 := by
  cases call with
  | update market nowTs => cases reopens
  | exit action nowTs => exact reopens.1

theorem Steady.append {start : PositionState} {first second : List EngineCall}
    (steady : Steady start (first ++ second)) :
    Steady start first ∧ Steady (stateAfter start first) second := by
  constructor
  · intro earlier call rest split
    apply steady earlier call (rest ++ second)
    simp [split]
  · intro earlier call rest split
    rw [← stateAfter_append]
    apply steady (first ++ earlier) call rest
    simp [split]

theorem EngineCall.apply_sound {call : EngineCall} (sound : state.holding.Sound)
    (still : ¬Reopens state call) :
    (call.apply state).holding.Sound ∧ (call.apply state).qty = state.qty ∧
      Lasts state (call.apply state) := by
  have stays : state.status = .closed → (call.apply state).status = .closed :=
    fun closed => (closed_apply_iff (sound.closed_iff.mp closed) call closed).mpr still
  obtain ⟨after, same, less⟩ := (call.apply_effect state).step sound stays
  exact ⟨after, same, less, stays⟩

theorem steady_run {start : PositionState} {calls : List EngineCall}
    (sound : start.holding.Sound) (steady : Steady start calls) :
    (stateAfter start calls).holding.Sound ∧ (stateAfter start calls).qty = start.qty ∧
      Lasts start (stateAfter start calls) := by
  induction calls using List.reverseRecOn with
  | nil => exact ⟨sound, rfl, Int.le_refl _, id⟩
  | append_singleton calls call ih =>
      obtain ⟨before, last⟩ := steady.append
      obtain ⟨soundBefore, sameBefore, lastsBefore⟩ := ih before
      have still : ¬Reopens (stateAfter start calls) call := last [] call [] rfl
      obtain ⟨after, same, lasts⟩ := EngineCall.apply_sound soundBefore still
      rw [stateAfter_append, stateAfter_singleton]
      refine ⟨after, same.trans sameBefore, ?_, ?_⟩
      · exact Int.le_trans lasts.remaining lastsBefore.remaining
      · intro closed
        exact lasts.closed (lastsBefore.closed closed)

theorem Conserved.of_sound (sound : state.holding.Sound) :
    Conserved state.qty state :=
  ⟨sound.total, sound.closed_iff⟩

/-- A managed position is conserved in a run, with what remains never more than before and
closed for good, exactly when no call moves the stop of a position of which nothing
remains. -/
theorem position_conserved_iff (rounding : ℚ → ℚ) (fill candidate : PyDict) (nowTs : PyFloat)
    (calls : List EngineCall) :
    (∀ earlier later rest, calls = earlier ++ later ++ rest →
      Conserved (initializePositionState rounding fill candidate nowTs).qty
          (stateAfter (initializePositionState rounding fill candidate nowTs) earlier) ∧
        Lasts (stateAfter (initializePositionState rounding fill candidate nowTs) earlier)
          (stateAfter (initializePositionState rounding fill candidate nowTs)
            (earlier ++ later))) ↔
      Steady (initializePositionState rounding fill candidate nowTs) calls := by
  have sound := initial_sound rounding fill candidate nowTs
  generalize initializePositionState rounding fill candidate nowTs = start at sound ⊢
  constructor
  · intro holds earlier call rest split reopens
    have cut : calls = earlier ++ [call] ++ rest := by simp [split]
    obtain ⟨conserved, lasts⟩ := holds earlier [call] rest cut
    have closed := conserved.closed_iff.mpr reopens.empty
    have stays := lasts.closed closed
    rw [stateAfter_append, stateAfter_singleton] at stays
    exact (closed_apply_iff reopens.empty call closed).mp stays reopens
  · intro steady earlier later rest split
    subst split
    obtain ⟨before, later⟩ := steady.append.1.append
    obtain ⟨soundBefore, sameBefore, _⟩ := steady_run sound before
    rw [← sameBefore, stateAfter_append]
    exact ⟨.of_sound soundBefore, (steady_run soundBefore later).2.2⟩

/-- A position that is closed and whose stop is then moved. -/
theorem stop_reopens_position :
    (stateAfter (initializePositionState id [] [] (.finite 0))
        [.exit [("action", .str "FULL_EXIT")] (.finite 1)]).status = .closed ∧
      (stateAfter (initializePositionState id [] [] (.finite 0))
        [.exit [("action", .str "FULL_EXIT")] (.finite 1),
          .exit [("action", .str "MOVE_STOP"), ("new_stop", .int 100)] (.finite 2)]).status =
            .breakeven ∧
      (stateAfter (initializePositionState id [] [] (.finite 0))
        [.exit [("action", .str "FULL_EXIT")] (.finite 1),
          .exit [("action", .str "MOVE_STOP"), ("new_stop", .int 100)] (.finite 2)]).remainingQty =
            0 := by
  decide

end Algotradify.Core.PositionStateEngine
