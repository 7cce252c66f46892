/-
The tick store with asynchronous writes. Inserted ticks wait in a queue. Flushers take batches
from its front under the queue lock, write each batch in one transaction, and put a batch that
could not be written back to the front.

Between its steps a flusher holds its batch alone, so that inserts and other flushers interleave
with it.
-/

import Algotradify.Py.Convert
import Algotradify.Transition.Run
import Mathlib.Data.List.Perm.Subperm

namespace Algotradify.Core.TickStore

open Py Transition

variable {index : Nat} {store after : Store} {setting : PyValue} {moves : List Move}

/-- The columns of the `ticks` table that are written. -/
structure TickRow where
  timestamp : String
  instrumentToken : PyValue
  lastPrice : PyValue
  volume : PyValue
  oi : PyValue
  timestampEpoch : PyFloat
  timestampIso : String

def tickRow (tsIso : String) (token lastPrice volume oi : PyValue) (tsEpoch : PyFloat) : TickRow :=
  { timestamp := tsIso
    instrumentToken := token
    lastPrice := lastPrice
    volume := volume
    oi := oi
    timestampEpoch := tsEpoch
    timestampIso := tsIso }

/-- `_flush_batch_size`, for the setting `TICK_STORE_ASYNC_BATCH_SIZE`. -/
def flushBatchSize (setting : PyValue) : Nat :=
  match toInt (if setting.truthy then setting else .int 1000) with
  | .ok size => (max 1 size).toNat
  | .error _ => 1000

/-- A flusher between two calls, before its write, and after a write that failed. -/
inductive Flusher where
  | idle
  | writing (rows : List TickRow)
  | failed (rows : List TickRow)

def Flusher.rows : Flusher → List TickRow
  | idle => []
  | writing rows => rows
  | failed rows => rows

structure Store where
  queue : List TickRow
  ticks : List TickRow
  flushers : List Flusher

inductive Move where
  | insertTick (row : TickRow)
  | take (flusher : Nat) (maxRows : Option Int)
  | writeRows (flusher : Nat) (succeeds : Bool)
  | putBack (flusher : Nat)

/-- `_enqueue_row`. -/
def Store.enqueueRow (store : Store) (row : TickRow) : Store :=
  { store with queue := store.queue ++ [row] }

def Store.put (store : Store) (index : Nat) (flusher : Flusher) : Store :=
  { store with flushers := store.flushers.set index flusher }

/-- The limit of a batch: `max_rows`, or the batch size that is set. -/
def batchLimit (setting : PyValue) : Option Int → Nat
  | some maxRows => maxRows.toNat
  | none => flushBatchSize setting

/-- The first lock of `_flush_pending_ticks`. Without rows the call returns at once. -/
def Store.take (setting : PyValue) (store : Store) (index : Nat) (maxRows : Option Int) : Store :=
  let limit := batchLimit setting maxRows
  let rows := store.queue.take limit
  if rows.isEmpty then store
  else { store with queue := store.queue.drop limit }.put index (.writing rows)

/-- `_write_rows`: the transaction writes all rows or none. -/
def Store.writeRows (store : Store) (index : Nat) (rows : List TickRow) (succeeds : Bool) : Store :=
  if succeeds then { store with ticks := store.ticks ++ rows }.put index .idle
  else store.put index (.failed rows)

/-- The second lock of `_flush_pending_ticks`. -/
def Store.putBack (store : Store) (index : Nat) (rows : List TickRow) : Store :=
  { store with queue := rows ++ store.queue }.put index .idle

def step (setting : PyValue) (store : Store) : Move → Option Store
  | .insertTick row => some (store.enqueueRow row)
  | .take index maxRows =>
      match store.flushers[index]? with
      | some .idle => some (store.take setting index maxRows)
      | _ => none
  | .writeRows index succeeds =>
      match store.flushers[index]? with
      | some (.writing rows) => some (store.writeRows index rows succeeds)
      | _ => none
  | .putBack index =>
      match store.flushers[index]? with
      | some (.failed rows) => some (store.putBack index rows)
      | _ => none

def Step (setting : PyValue) (before : Store) (move : Move) (after : Store) : Prop :=
  step setting before move = some after

def start (flushers : Nat) : Store :=
  { queue := []
    ticks := []
    flushers := List.replicate flushers .idle }

/-! ### What is promised -/

def inserted : List Move → List TickRow
  | [] => []
  | .insertTick row :: moves => row :: inserted moves
  | _ :: moves => inserted moves

def Store.inFlight (store : Store) : List TickRow :=
  store.flushers.flatMap Flusher.rows

/-- Every row of a list is in the queue, in one batch or in the table, as often as in the list. -/
def Conserves (rows : List TickRow) (store : Store) : Prop :=
  rows.Perm (store.queue ++ store.inFlight ++ store.ticks)

def Quiet (store : Store) : Prop :=
  ∀ flusher ∈ store.flushers, flusher = .idle

def Move.IsInsert : Move → Prop
  | .insertTick _ => True
  | _ => False

/-- The moves of a call of `flush_pending_ticks()` from its start to its return, when no other
flusher runs and its write, if it has rows to write, succeeds. -/
inductive FlushCall (index : Nat) : List Move → Prop
  | empty {front : List Move} (inserts : ∀ move ∈ front, move.IsInsert) :
      FlushCall index (front ++ [.take index none])
  | written {front middle : List Move} (inserts : ∀ move ∈ front, move.IsInsert)
      (later : ∀ move ∈ middle, move.IsInsert) :
      FlushCall index (front ++ .take index none :: (middle ++ [.writeRows index true]))

def Visible (rows : List TickRow) (store : Store) : Prop :=
  rows.Subperm store.ticks

/-! ### No tick is lost or duplicated -/

theorem inserted_append (first second : List Move) :
    inserted (first ++ second) = inserted first ++ inserted second := by
  induction first with
  | nil => rfl
  | cons move rest ih =>
      cases move with
      | insertTick row => exact congrArg (row :: ·) ih
      | _ => exact ih

theorem flatMap_set_perm {Entry Item : Type} (collect : Entry → List Item) {entries : List Entry}
    {old : Entry} (new : Entry) (at_ : entries[index]? = some old) :
    ((entries.set index new).flatMap collect ++ collect old).Perm
      (entries.flatMap collect ++ collect new) := by
  classical
  induction entries generalizing index with
  | nil => simp at at_
  | cons head rest ih =>
      cases index with
      | zero =>
          have same : head = old := by simpa using at_
          subst same
          simp only [List.set_cons_zero, List.flatMap_cons, List.perm_iff_count, List.count_append]
          intro item
          omega
      | succ index =>
          have later := ih (by simpa using at_)
          simp only [List.perm_iff_count, List.count_append] at later
          simp only [List.set_cons_succ, List.flatMap_cons, List.perm_iff_count, List.count_append]
          intro item
          have counted := later item
          omega

theorem conserves_put {rows : List TickRow} {old new : Flusher}
    (at_ : store.flushers[index]? = some old) (conserved : Conserves rows store)
    (flushers : after.flushers = store.flushers.set index new)
    (moved : (after.queue ++ new.rows ++ after.ticks).Perm
      (store.queue ++ old.rows ++ store.ticks)) : Conserves rows after := by
  classical
  have changed := flatMap_set_perm Flusher.rows new at_
  unfold Conserves Store.inFlight at *
  rw [flushers]
  simp only [List.perm_iff_count, List.count_append] at *
  intro row
  have total := conserved row
  have hands := changed row
  have places := moved row
  omega

theorem conserves_step {move : Move} (conserved : Conserves (inserted moves) store)
    (stepped : Step setting store move after) :
    Conserves (inserted (moves ++ [move])) after := by
  classical
  rw [inserted_append]
  unfold Step step at stepped
  cases move with
  | insertTick row =>
      cases stepped
      change Conserves (inserted moves ++ [row]) (store.enqueueRow row)
      unfold Conserves Store.enqueueRow Store.inFlight at *
      simp only [List.perm_iff_count, List.count_append] at *
      intro other
      have total := conserved other
      omega
  | take index maxRows =>
      rw [show inserted [Move.take index maxRows] = [] from rfl, List.append_nil]
      dsimp only at stepped
      split at stepped
      · next at_ =>
          rw [← Option.some.inj stepped]
          unfold Store.take
          dsimp only
          split
          · exact conserved
          · apply conserves_put at_ conserved rfl
            · simp only [Store.put, Flusher.rows, List.append_nil]
              apply List.Perm.append_right
              have whole := List.take_append_drop (batchLimit setting maxRows) store.queue
              conv_rhs => rw [← whole]
              exact List.perm_append_comm
      · cases stepped
  | writeRows index succeeds =>
      rw [show inserted [Move.writeRows index succeeds] = [] from rfl, List.append_nil]
      dsimp only at stepped
      split at stepped
      · next rows at_ =>
          rw [← Option.some.inj stepped]
          unfold Store.writeRows
          cases succeeds with
          | true =>
              rw [if_pos rfl]
              apply conserves_put at_ conserved rfl
              simp only [Store.put, Flusher.rows, List.perm_iff_count, List.count_append,
                List.count_nil]
              omega
          | false => exact conserves_put at_ conserved rfl (List.Perm.refl _)
      · cases stepped
  | putBack index =>
      rw [show inserted [Move.putBack index] = [] from rfl, List.append_nil]
      dsimp only at stepped
      split at stepped
      · next rows at_ =>
          rw [← Option.some.inj stepped]
          apply conserves_put at_ conserved rfl
          simp only [Store.putBack, Store.put, Flusher.rows, List.append_nil]
          apply List.Perm.append_right
          exact List.perm_append_comm
      · cases stepped

theorem conserves_run {flushers : Nat} (run : Run (Step setting) (start flushers) moves store) :
    Conserves (inserted moves) store := by
  apply run.history_invariant (motive := fun moves store => Conserves (inserted moves) store)
  · have idle : (List.replicate flushers Flusher.idle).flatMap Flusher.rows = [] := by
      simp [List.flatMap_replicate, Flusher.rows]
    unfold Conserves Store.inFlight start
    rw [idle]
    exact .nil
  · exact fun _ _ _ _ conserved stepped => conserves_step conserved stepped

/-! ### What a flush makes visible -/

theorem run_inserts (run : Run (Step setting) store moves after)
    (inserts : ∀ move ∈ moves, move.IsInsert) :
    after = { store with queue := store.queue ++ inserted moves } := by
  induction run with
  | nil => simp [inserted]
  | @snoc labels before after move run stepped ih =>
      have earlier := ih fun move member => inserts move (List.mem_append_left _ member)
      have last := inserts move (List.mem_append_right _ List.mem_cons_self)
      cases move with
      | insertTick row =>
          cases stepped
          rw [earlier, inserted_append]
          simp [Store.enqueueRow, inserted]
      | take | writeRows | putBack => cases last

theorem inFlight_of_quiet (quiet : Quiet store) : store.inFlight = [] := by
  unfold Store.inFlight
  rw [List.flatMap_eq_nil_iff]
  intro flusher member
  rw [quiet flusher member]
  rfl

theorem take_stepped (stepped : Step setting store (.take index none) after) :
    (store.queue.take (flushBatchSize setting) = [] ∧ after = store ∧
        store.flushers[index]? = some .idle) ∨
      (after.flushers[index]? = some (.writing (store.queue.take (flushBatchSize setting))) ∧
        after.ticks = store.ticks) := by
  unfold Step step at stepped
  dsimp only at stepped
  split at stepped
  · next at_ =>
      rw [← Option.some.inj stepped]
      unfold Store.take batchLimit
      dsimp only
      split
      · next none => exact .inl ⟨List.isEmpty_iff.mp none, rfl, at_⟩
      · have inside := (List.getElem?_eq_some_iff.mp at_).1
        exact .inr ⟨List.getElem?_set_self inside, rfl⟩
  · cases stepped

theorem ticks_of_flushCall {call : List Move} (flush : FlushCall index call)
    (run : Run (Step setting) store call after) (returned : after.flushers[index]? = some .idle) :
    ∃ later, after.ticks =
      store.ticks ++ (store.queue ++ later).take (flushBatchSize setting) := by
  cases flush with
  | @empty front inserts =>
      obtain ⟨before, begun, stepped⟩ := run.snoc_inv
      have queued := run_inserts begun inserts
      refine ⟨inserted front, ?_⟩
      rcases take_stepped stepped with ⟨none, same, _⟩ | ⟨holds, _⟩
      · rw [queued] at none
        rw [same, queued, none, List.append_nil]
      · cases holds.symm.trans returned
  | @written front middle inserts later =>
      obtain ⟨before, begun, rest⟩ := run.split rfl
      obtain ⟨taken, stepped, rest⟩ := rest.cons_inv
      obtain ⟨last, inserting, wrote⟩ := rest.snoc_inv
      have queued := run_inserts begun inserts
      have kept := run_inserts inserting later
      refine ⟨inserted front, ?_⟩
      unfold Step step at wrote
      dsimp only at wrote
      split at wrote
      · next rows at_ =>
          rw [kept] at at_
          have ticks := congrArg Store.ticks (Option.some.inj wrote)
          rw [← ticks, kept]
          rcases take_stepped stepped with ⟨_, same, idle⟩ | ⟨holds, sameTicks⟩
          · rw [← same] at idle
            cases idle.symm.trans at_
          · cases holds.symm.trans at_
            rw [queued] at sameTicks ⊢
            exact congrArg (· ++ _) sameTicks
      · cases wrote

theorem visible_iff {rows : List TickRow} {call : List Move} (conserved : Conserves rows store)
    (quiet : Quiet store) (flush : FlushCall index call) (run : Run (Step setting) store call after)
    (returned : after.flushers[index]? = some .idle) :
    Visible rows after ↔ store.queue.length ≤ flushBatchSize setting := by
  obtain ⟨later, written⟩ := ticks_of_flushCall flush run returned
  unfold Conserves at conserved
  rw [inFlight_of_quiet quiet, List.append_nil] at conserved
  unfold Visible
  rw [written]
  constructor
  · intro visible
    have size := visible.length_le
    rw [conserved.length_eq] at size
    simp only [List.length_append, List.length_take] at size
    omega
  · intro fits
    have front : (store.queue ++ later).take (flushBatchSize setting) =
        store.queue ++ later.take (flushBatchSize setting - store.queue.length) := by
      rw [List.take_append, List.take_of_length_le fits]
    rw [front]
    apply conserved.subperm.trans
    apply (List.perm_append_comm).subperm.trans
    exact (List.sublist_append_left _ _ |>.append_left store.ticks).subperm

/-- At every moment no tick is lost or duplicated. A flush shows all ticks that were inserted
before it exactly when one batch can hold what the queue holds at its start. -/
theorem flush_visible_iff (setting : PyValue) (flushers : Nat) {moves : List Move} {store : Store}
    (run : Run (Step setting) (start flushers) moves store) :
    Conserves (inserted moves) store ∧
      ∀ index call after, Quiet store → FlushCall index call → Run (Step setting) store call after →
        after.flushers[index]? = some .idle →
          (Visible (inserted moves) after ↔ store.queue.length ≤ flushBatchSize setting) := by
  have conserved := conserves_run run
  refine ⟨conserved, ?_⟩
  intro index call after quiet flush called returned
  exact visible_iff conserved quiet flush called returned

/-! ### More ticks than a batch holds -/

def queued (rows : List TickRow) : Store :=
  { queue := rows
    ticks := []
    flushers := [.idle] }

theorem run_queued (setting : PyValue) (rows : List TickRow) :
    Run (Step setting) (start 1) (rows.map Move.insertTick) (queued rows) := by
  induction rows using List.reverseRecOn with
  | nil => exact .nil
  | append_singleton rows row ih =>
      rw [List.map_append, List.map_singleton]
      exact .snoc ih rfl

theorem quiet_queued (rows : List TickRow) : Quiet (queued rows) := by
  intro flusher member
  exact List.mem_singleton.mp member

theorem exists_flush (setting : PyValue) {rows : List TickRow}
    (there : rows.take (flushBatchSize setting) ≠ []) :
    ∃ after, Run (Step setting) (queued rows) [.take 0 none, .writeRows 0 true] after ∧
      after.flushers[0]? = some .idle := by
  have taken : Step setting (queued rows) (.take 0 none)
      { queue := rows.drop (flushBatchSize setting)
        ticks := []
        flushers := [.writing (rows.take (flushBatchSize setting))] } := by
    have waits : ((queued rows).queue.take (batchLimit setting none)).isEmpty ≠ true :=
      mt List.isEmpty_iff.mp there
    change Option.some ((queued rows).take setting 0 none) = _
    unfold Store.take
    dsimp only
    rw [if_neg waits]
    rfl
  exact ⟨_, .cons taken (.cons rfl .nil), rfl⟩

theorem flushCall_sample : FlushCall 0 [.take 0 none, .writeRows 0 true] :=
  @FlushCall.written 0 [] [] (fun _ member => absurd member List.not_mem_nil)
    fun _ member => absurd member List.not_mem_nil

def sampleTick : TickRow :=
  tickRow "2026-01-01T00:00:00Z" (.int 256265) (.float (.finite 100)) .none .none
    (.finite 1767225600)

theorem flush_visible_one : ∃ after,
    Run (Step .none) (queued [sampleTick]) [.take 0 none, .writeRows 0 true] after ∧
      Visible [sampleTick] after := by
  have size : flushBatchSize .none = 1000 := by decide
  have there : [sampleTick].take (flushBatchSize .none) ≠ [] := by
    rw [size]
    exact List.cons_ne_nil _ _
  obtain ⟨after, called, returned⟩ := exists_flush .none there
  have shown := ((flush_visible_iff .none 1 (run_queued .none [sampleTick])).2 0 _ after
    (quiet_queued _) flushCall_sample called returned).mpr (by rw [size]; decide)
  exact ⟨after, called, shown⟩

/-- With one tick more than a batch holds, the last one is not in the table after the flush. -/
theorem tick_invisible : ¬∀ (setting : PyValue) (flushers : Nat) (moves : List Move) (store : Store),
    Run (Step setting) (start flushers) moves store → ∀ index call after, Quiet store →
      FlushCall index call → Run (Step setting) store call after →
        after.flushers[index]? = some .idle → Visible (inserted moves) after := by
  intro always
  have size : flushBatchSize .none = 1000 := by decide
  have there : (List.replicate 1001 sampleTick).take (flushBatchSize .none) ≠ [] := by
    rw [size, List.take_replicate]
    exact List.cons_ne_nil _ _
  obtain ⟨after, called, returned⟩ := exists_flush .none there
  have run := run_queued .none (List.replicate 1001 sampleTick)
  have shown := always .none 1 _ _ run 0 _ after (quiet_queued _) flushCall_sample called returned
  rw [visible_iff (conserves_run run) (quiet_queued _) flushCall_sample called returned] at shown
  rw [size] at shown
  simp only [queued, List.length_replicate] at shown
  omega

end Algotradify.Core.TickStore
