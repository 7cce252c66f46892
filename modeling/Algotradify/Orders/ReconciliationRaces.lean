/-
The reconciliation among clients that create orders, send them and get them filled: the
fetch of the broker's rows, the listing of the orders and the loop over them are steps of
their own, and anything may happen in between.

The listed records may be stale when the loop reaches them, so what a turn of the loop does
is stated first for any record: it touches its own order only, and moves it only to a state
on the path it has looked up.
-/

import Algotradify.Orders.ReconciliationCycle

namespace Algotradify.Orders.Reconciliation

open Py Sql Transition Core.Reconciliation

variable {brokerPositions : List PyDict} {before system : System} {move : Move}
variable {order : BrokerOrder} {brokerId owner : String} {moves : List Move}

/-! ### Stale records -/

/-- Calls on one order that move it, if at all, to one of the allowed states. -/
structure Confined (orderId : String) (allowed : OrderState → Prop) (before after : Database) :
    Prop where
  run : ∃ entries, Run Step before entries after
  others : ∀ other, other ≠ orderId →
    after.orderStates.select other = before.orderStates.select other
  own : ∀ row, before.orderStates.select orderId = some row →
    ∃ written, after.orderStates.select orderId = some written ∧
      (written.state = row.state ∨ allowed written.state)

section Stale

variable {contexts : ℕ → CallContext} {session after : Session} {orderId reason : String}
variable {allowed : OrderState → Prop} {record : OrderRecord} {broker : Option String}
variable {fill : Option PyFloat} {outcome : Except OrderError OrderRecord}

theorem Confined.refl (orderId : String) (allowed : OrderState → Prop) (db : Database) :
    Confined orderId allowed db db :=
  ⟨⟨[], .nil⟩, fun _ _ => rfl, fun row selected => ⟨row, selected, Or.inl rfl⟩⟩

theorem Confined.trans {first second third : Database}
    (left : Confined orderId allowed first second)
    (right : Confined orderId allowed second third) : Confined orderId allowed first third := by
  obtain ⟨entries, run⟩ := left.run
  obtain ⟨later, rest⟩ := right.run
  refine ⟨⟨entries ++ later, run.append rest⟩, fun other different => ?_, fun row selected => ?_⟩
  · rw [right.others other different, left.others other different]
  · obtain ⟨middle, stored, state⟩ := left.own row selected
    obtain ⟨written, found, moved⟩ := right.own middle stored
    refine ⟨written, found, ?_⟩
    rcases moved with same | permitted
    · rw [same]
      exact state
    · exact Or.inr permitted

private theorem Confined.write {db : Database} {entry : Entry} {current written : OrderRow}
    {event : EventRow} (stepped : Step db entry (db.write orderId written event))
    (selected : db.orderStates.select orderId = some current)
    (state : written.state = current.state ∨ allowed written.state) :
    Confined orderId allowed db (db.write orderId written event) := by
  refine ⟨⟨_, .snoc .nil stepped⟩, fun other different => ?_, fun row stored => ?_⟩
  · exact Table.select_put_of_ne _ _ different
  · cases selected.symm.trans stored
    exact ⟨written, Table.select_put_self _ _ _, state⟩

theorem call_transition_confined (allowed : OrderState → Prop) {request : TransitionRequest}
    {next : OrderState}
    (called : session.call contexts (.transition request) = (outcome, after))
    (own : strip request.orderId = orderId) (asked : request.nextState = next.value)
    (fits : allowed next) :
    Confined orderId allowed session.db after.db ∧
      ∀ record, outcome = .ok record → record.orderId = orderId := by
  obtain ⟨_, ⟨entry, stepped⟩, left⟩ := call_cases called
  obtain ⟨record, flag, same, effect⟩ | ⟨raised, same, unchanged, _⟩ := left
  swap
  · subst same
    rw [unchanged]
    exact ⟨.refl _ _ _, fun _ impossible => nomatch impossible⟩
  subst same
  generalize after.db = left at effect stepped ⊢
  cases effect with
  | @moved _ found current written coerced selected _ made =>
      rw [asked, coerceState_value] at coerced
      cases coerced
      obtain ⟨_, state, _⟩ := transitionRow made
      rw [own] at selected stepped ⊢
      refine ⟨.write stepped selected (Or.inr (state ▸ fits)), fun record same => ?_⟩
      cases same
      rfl

theorem call_setFilled_confined (allowed : OrderState → Prop) {request : FillRequest}
    (called : session.call contexts (.setFilled request) = (outcome, after))
    (own : strip request.orderId = orderId) :
    Confined orderId allowed session.db after.db ∧
      ∀ record, outcome = .ok record → record.orderId = orderId := by
  obtain ⟨_, ⟨entry, stepped⟩, left⟩ := call_cases called
  obtain ⟨record, flag, same, effect⟩ | ⟨raised, same, unchanged, _⟩ := left
  swap
  · subst same
    rw [unchanged]
    exact ⟨.refl _ _ _, fun _ impossible => nomatch impossible⟩
  subst same
  generalize after.db = left at effect stepped ⊢
  cases effect with
  | unchanged selected near =>
      rw [own]
      refine ⟨.refl _ _ _, fun record same => ?_⟩
      cases same
      rfl
  | @filled _ current written selected _ made =>
      obtain ⟨_, state, _⟩ := fillRow made
      rw [own] at selected stepped ⊢
      refine ⟨.write stepped selected (Or.inl state), fun record same => ?_⟩
      cases same
      rfl

theorem followPath_confined {path : List OrderState} (stripped : strip orderId = orderId)
    (own : record.orderId = orderId) (fits : ∀ state ∈ path, allowed state)
    (followed : followPath contexts reason broker fill path record session = (outcome, after)) :
    Confined orderId allowed session.db after.db ∧
      ∀ record, outcome = .ok record → record.orderId = orderId := by
  induction path generalizing session record with
  | nil =>
      cases followed
      refine ⟨.refl _ _ _, fun _ same => ?_⟩
      cases same
      exact own
  | cons step rest ih =>
      have ownStripped : strip record.orderId = orderId := by rw [own, stripped]
      cases rest with
      | nil =>
          exact call_transition_confined allowed followed ownStripped rfl (fits step List.mem_cons_self)
      | cons second rest =>
          unfold followPath at followed
          split at followed
          · next _ next middle called =>
            obtain ⟨first, kept⟩ := call_transition_confined allowed called ownStripped rfl
              (fits step List.mem_cons_self)
            obtain ⟨later, keptLater⟩ := ih (kept next rfl)
              (fun state member => fits state (List.mem_cons_of_mem step member)) followed
            exact ⟨first.trans later, keptLater⟩
          · next _ raised middle called =>
            cases followed
            obtain ⟨first, _⟩ := call_transition_confined allowed called ownStripped rfl
              (fits step List.mem_cons_self)
            exact ⟨first, fun _ impossible => nomatch impossible⟩

/-- A move goes to its target, or stops at `SENT` on the way. -/
theorem moveToState_confined (allowed : OrderState → Prop) {target : OrderState}
    (moved : moveToState contexts record target reason broker fill session = (outcome, after))
    (stripped : strip orderId = orderId) (own : record.orderId = orderId)
    (fits : allowed target) (sent : allowed .sent) :
    Confined orderId allowed session.db after.db ∧
      ∀ record, outcome = .ok record → record.orderId = orderId := by
  have idle : outcome = .ok record → after = session →
      Confined orderId allowed session.db after.db ∧
        ∀ record, outcome = .ok record → record.orderId = orderId := by
    rintro rfl rfl
    refine ⟨.refl _ _ _, fun _ same => ?_⟩
    cases same
    exact own
  unfold moveToState at moved
  split at moved
  · split at moved
    · split at moved
      · exact call_setFilled_confined allowed moved (by rw [own, stripped])
      · cases moved
        exact idle rfl rfl
    · cases moved
      exact idle rfl rfl
  · next elsewhere =>
    split at moved
    · cases moved
      exact ⟨.refl _ _ _, fun _ impossible => nomatch impossible⟩
    · next path found =>
      refine followPath_confined stripped own (fun state member => ?_) moved
      rw [findTransitionPath_eq, if_neg elsewhere] at found
      split at found
      · cases found
        rw [List.mem_singleton.mp member]
        exact fits
      split at found
      · cases found
        rcases List.mem_cons.mp member with rfl | last
        · exact sent
        · rw [List.mem_singleton.mp last]
          exact fits
      · cases found

end Stale

def movesTo (snapshot : Snapshot) (record : OrderRecord) : Option OrderState :=
  match snapshot.rowFor record with
  | none =>
      if record.state ∈ [.acknowledged, .partiallyFilled] ∧ snapshot.hasOpenPositions = true then
        none
      else some .rejected
  | some row => targetStateFromBroker row

section Turns

variable {contexts : ℕ → CallContext} {session : Session}

theorem syncState_confined {record : OrderRecord} {row : PyDict}
    {outcome : Except OrderError OrderRecord} {after : Session}
    (stripped : strip record.orderId = record.orderId)
    (synced : syncState contexts record row session = (outcome, after)) :
    Confined record.orderId
        (fun state => state = .sent ∨ targetStateFromBroker row = some state)
        session.db after.db ∧
      ∀ working, outcome = .ok working → working.orderId = record.orderId := by
  unfold syncState at synced
  split at synced
  · cases synced
    refine ⟨.refl _ _ _, fun _ same => ?_⟩
    cases same
    rfl
  · next target asked =>
    dsimp only at synced
    split at synced
    · next _ raised middle moved =>
      cases synced
      refine ⟨(moveToState_confined _ moved stripped rfl (Or.inr asked) (Or.inl rfl)).1, ?_⟩
      exact fun _ impossible => nomatch impossible
    · next _ working middle moved =>
      obtain ⟨confined, kept⟩ :=
        moveToState_confined (fun state =>
          state = .sent ∨ targetStateFromBroker row = some state)
          moved stripped rfl (Or.inr asked) (Or.inl rfl)
      split at synced
      · cases synced
        exact ⟨confined, kept⟩
      · cases synced
        exact ⟨confined, kept⟩

theorem syncFill_confined (contexts : ℕ → CallContext) (session : Session)
    (allowed : OrderState → Prop) {working : OrderRecord} (row : PyDict)
    (stripped : strip working.orderId = working.orderId) :
    Confined working.orderId allowed session.db (syncFill contexts working row session).2.db := by
  unfold syncFill
  split
  · cases called : session.call contexts (.setFilled
      { orderId := working.orderId
        filledQty := brokerFilledQty row
        reason := some "reconcile_fill_qty_sync" }) with
    | mk outcome after =>
        have confined := (call_setFilled_confined allowed called stripped).1
        cases outcome with
        | ok _ => exact confined
        | error _ => exact confined
  · exact .refl _ _ _

/-- A turn of the loop touches the order of its record only, and moves it only to the state
it wants, or to `SENT` on the way. -/
theorem reconcileOrder_confined (snapshot : Snapshot) {record : OrderRecord}
    (stripped : strip record.orderId = record.orderId) :
    Confined record.orderId (fun state => state = .sent ∨ movesTo snapshot record = some state)
      session.db (reconcileOrder contexts snapshot session record).db := by
  unfold reconcileOrder movesTo
  cases found : snapshot.rowFor record with
  | none =>
      dsimp only
      unfold rejectMissing
      split
      · exact .refl _ _ _
      · cases moved : moveToState contexts record .rejected "reconcile_missing_broker_order" none
          none session with
        | mk outcome after =>
            have confined : Confined record.orderId (fun state => state = .sent ∨
                (some .rejected : Option OrderState) = some state) session.db after.db :=
              (moveToState_confined _ moved stripped rfl (Or.inr rfl) (Or.inl rfl)).1
            cases outcome with
            | ok _ => exact confined
            | error _ => exact confined
  | some row =>
      dsimp only
      unfold syncOrder
      cases synced : syncState contexts record row session with
      | mk outcome middle =>
          obtain ⟨confined, kept⟩ := syncState_confined stripped synced
          cases outcome with
          | error _ => exact confined
          | ok working =>
              have own := kept working rfl
              have workingStripped : strip working.orderId = working.orderId := by
                rw [own, stripped]
              have filled := syncFill_confined contexts middle
                (fun state => state = .sent ∨ targetStateFromBroker row = some state) row
                workingStripped
              rw [own] at filled
              dsimp only
              cases done : syncFill contexts working row middle with
              | mk outcome last =>
                  rw [done] at filled
                  cases outcome with
                  | ok _ => exact confined.trans filled
                  | error _ => exact confined.trans filled

theorem applied_confined {snapshot : Snapshot} {records : List OrderRecord}
    (stripped : ∀ record ∈ records, strip record.orderId = record.orderId) :
    (∃ entries, Run Step session.db entries
        (records.foldl (reconcileOrder contexts snapshot) session).db) ∧
      ∀ other, other ∉ records.map OrderRecord.orderId →
        (records.foldl (reconcileOrder contexts snapshot) session).db.orderStates.select other =
          session.db.orderStates.select other := by
  induction records generalizing session with
  | nil => exact ⟨⟨[], .nil⟩, fun _ _ => rfl⟩
  | cons record rest ih =>
      have first : Confined _ _ session.db (reconcileOrder contexts snapshot session record).db :=
        reconcileOrder_confined snapshot (stripped record List.mem_cons_self)
      obtain ⟨⟨later, rest⟩, others⟩ := @ih (reconcileOrder contexts snapshot session record)
        (fun other member => stripped other (List.mem_cons_of_mem record member))
      obtain ⟨entries, run⟩ := first.run
      rw [List.foldl_cons]
      refine ⟨⟨entries ++ later, run.append rest⟩, fun other absent => ?_⟩
      rw [List.map_cons, List.mem_cons, not_or] at absent
      rw [others other absent.2, first.others other absent.1]

theorem applied_own {snapshot : Snapshot} {records : List OrderRecord} {record : OrderRecord}
    (stripped : ∀ record ∈ records, strip record.orderId = record.orderId)
    (distinct : (records.map OrderRecord.orderId).Nodup) (member : record ∈ records) :
    ∃ before : Session,
      before.db.orderStates.select record.orderId =
        session.db.orderStates.select record.orderId ∧
      (records.foldl (reconcileOrder contexts snapshot) session).db.orderStates.select
        record.orderId =
      (reconcileOrder contexts snapshot before record).db.orderStates.select record.orderId := by
  induction records generalizing session with
  | nil => cases member
  | cons head rest ih =>
      rw [List.map_cons, List.nodup_cons] at distinct
      rw [List.foldl_cons]
      have strippedRest : ∀ record ∈ rest, strip record.orderId = record.orderId :=
        fun other inRest => stripped other (List.mem_cons_of_mem head inRest)
      rcases List.mem_cons.mp member with rfl | later
      · refine ⟨session, rfl, ?_⟩
        exact (applied_confined strippedRest).2 record.orderId distinct.1
      · obtain ⟨before, same, final⟩ := @ih
          (reconcileOrder contexts snapshot session head) strippedRest distinct.2 later
        refine ⟨before, ?_, final⟩
        rw [same]
        have first : Confined _ _ session.db (reconcileOrder contexts snapshot session head).db :=
          reconcileOrder_confined snapshot (stripped head List.mem_cons_self)
        refine first.others record.orderId (fun clash => distinct.1 ?_)
        rw [← clash]
        exact List.mem_map_of_mem later

theorem reconcileOrder_fills {brokerOrders : List PyDict} {orderId : String} {row : OrderRow}
    {brokerRow : PyDict} (reads : Reads session.db orderId row) (present : orderId ≠ "")
    (found : (Snapshot.take brokerOrders brokerPositions).rowFor (rowToRecord orderId row) =
      some brokerRow) (path : ∀ target, targetStateFromBroker brokerRow = some target →
      ∃ states, findTransitionPath row.state target = .ok states)
    (healthy : ∀ index, Healthy (contexts index)) :
    ∃ written,
      (reconcileOrder contexts (.take brokerOrders brokerPositions) session
        (rowToRecord orderId row)).db.orderStates.select orderId = some written ∧
      differs written.filledQty.value (brokerFilledQty brokerRow) = false := by
  unfold reconcileOrder
  rw [found]
  dsimp only
  cases handled : syncOrder contexts (rowToRecord orderId row) brokerRow session with
  | mk outcome after =>
      cases outcome with
      | ok _ =>
          obtain ⟨written, moved, synced⟩ := syncOrder_ok reads handled
          exact ⟨written, moved.reads.selected, near_of_synced synced⟩
      | error raised =>
          obtain ⟨_, target, asked, _, lacking, missing⟩ :=
            (syncOrder_error reads present handled).2 healthy
          obtain ⟨states, found⟩ := path target asked
          cases missing.symm.trans found

end Turns

/-! ### The system -/

structure BrokerOrder where
  owner : String
  row : PyDict

inductive Phase where
  | idle
  | fetched (snapshot : Snapshot)
  | listed (snapshot : Snapshot) (records : List OrderRecord)

structure System where
  db : Database
  broker : List (String × BrokerOrder)
  phase : Phase
  /-- The orders that were created or sent since the last fetch. -/
  fresh : List String

def System.start : System :=
  { db := .empty, broker := [], phase := .idle, fresh := [] }

inductive Move where
  | client (call : Call)
  | accept (owner brokerId : String) (row : PyDict)
  | report (brokerId : String) (row : PyDict)
  | fetch (brokerPositions : List PyDict)
  | list (limit : ℕ)
  | apply (contexts : ℕ → CallContext)

def orderIdOf : Operation → String
  | .create request => strip request.orderId
  | .transition request => strip request.orderId
  | .setFilled request => strip request.orderId

def startsOrder (before after : Database) (orderId : String) : Bool :=
  match before.orderStates.select orderId, after.orderStates.select orderId with
  | none, some _ => true
  | some current, some written => decide (current.state ≠ .sent ∧ written.state = .sent)
  | _, _ => false

/-- The broker keeps the id of a row, and never takes back a fill. -/
def System.next (system : System) : Move → Option System
  | .client call =>
      let after := (perform system.db call).2
      let orderId := orderIdOf call.operation
      some
        { system with
          db := after
          fresh :=
            if startsOrder system.db after orderId then orderId :: system.fresh
            else system.fresh }
  | .accept owner brokerId row =>
      if system.broker.lookup brokerId = none ∧ brokerId ≠ "" ∧ brokerOrderId row = brokerId then
        some { system with broker := system.broker ++ [(brokerId, ⟨owner, row⟩)] }
      else none
  | .report brokerId row =>
      match system.broker.lookup brokerId with
      | some order =>
          if brokerOrderId row = brokerId ∧
              (brokerFilledQty order.row).le (brokerFilledQty row) = true then
            some { system with broker := Assoc.set system.broker brokerId ⟨order.owner, row⟩ }
          else none
      | none => none
  | .fetch brokerPositions =>
      match system.phase with
      | .idle => some
          { system with
            phase := .fetched
              (.take (system.broker.map fun entry => entry.2.row) brokerPositions)
            fresh := [] }
      | _ => none
  | .list limit =>
      match system.phase with
      | .fetched snapshot => some
          { system with phase := .listed snapshot (listOrders limit system.db) }
      | _ => none
  | .apply contexts =>
      match system.phase with
      | .listed snapshot records => some
          { system with
            db := (applyCycle contexts snapshot records system.db).db
            phase := .idle }
      | _ => none

/-- The listed records of the orders that were created or sent since the fetch are not ones
that the cycle wants to reject. -/
def Spares (system : System) (snapshot : Snapshot) (records : List OrderRecord) : Prop :=
  ∀ record ∈ records, record.orderId ∈ system.fresh → movesTo snapshot record ≠ some .rejected

/-- The cycle can bring the fill of a broker row to its order: an order that is not listed
has it, and one that is listed finds the row, is still as it was listed, has a path to the
state of the row, and meets a database that works. -/
def Reaches (contexts : ℕ → CallContext) (system : System) (snapshot : Snapshot)
    (records : List OrderRecord) (owner : String) (brokerRow : PyDict) : Prop :=
  (owner ∉ records.map OrderRecord.orderId →
    ∃ row, system.db.orderStates.select owner = some row ∧
      differs row.filledQty.value (brokerFilledQty brokerRow) = false) ∧
  ∀ record ∈ records, record.orderId = owner →
    snapshot.rowFor record = some brokerRow ∧
    (∃ row, system.db.orderStates.select owner = some row ∧ record = rowToRecord owner row) ∧
    (∀ target, targetStateFromBroker brokerRow = some target →
      ∃ states, findTransitionPath record.state target = .ok states) ∧
    ∀ index, Healthy (contexts index)

/-- A loop that spares the orders started since the fetch, and reaches the orders whose
rows have a fill. -/
def SoundLoop (contexts : ℕ → CallContext) (system : System) : Prop :=
  ∀ snapshot records, system.phase = .listed snapshot records →
    Spares system snapshot records ∧
    ∀ brokerId order brokerRow, system.broker.lookup brokerId = some order →
      snapshot.brokerById.lookup brokerId = some brokerRow →
      PyFloat.lt (.finite 0) (brokerFilledQty brokerRow) = true →
      Reaches contexts system snapshot records order.owner brokerRow

def SystemStep (before : System) (move : Move) (after : System) : Prop :=
  before.next move = some after

def SoundStep (before : System) (move : Move) (after : System) : Prop :=
  SystemStep before move after ∧ ∀ contexts, move = .apply contexts → SoundLoop contexts before

inductive Makes (before : System) : Move → System → Prop
  | client (call : Call) (fresh : List String) :
      Makes before (.client call) { before with db := (perform before.db call).2, fresh := fresh }
  | accept {owner brokerId : String} {row : PyDict} (absent : before.broker.lookup brokerId = none)
      (named : brokerId ≠ "") (own : brokerOrderId row = brokerId) :
      Makes before (.accept owner brokerId row)
        { before with broker := before.broker ++ [(brokerId, ⟨owner, row⟩)] }
  | report {brokerId : String} {row : PyDict} {order : BrokerOrder}
      (found : before.broker.lookup brokerId = some order) (own : brokerOrderId row = brokerId)
      (atLeast : (brokerFilledQty order.row).le (brokerFilledQty row) = true) :
      Makes before (.report brokerId row)
        { before with broker := Assoc.set before.broker brokerId ⟨order.owner, row⟩ }
  | fetch (brokerPositions : List PyDict) (idle : before.phase = .idle) :
      Makes before (.fetch brokerPositions)
        { before with
          phase := .fetched (.take (before.broker.map fun entry => entry.2.row) brokerPositions)
          fresh := [] }
  | list {snapshot : Snapshot} (limit : ℕ) (fetched : before.phase = .fetched snapshot) :
      Makes before (.list limit)
        { before with phase := .listed snapshot (listOrders limit before.db) }
  | apply {snapshot : Snapshot} {records : List OrderRecord} (contexts : ℕ → CallContext)
      (listed : before.phase = .listed snapshot records) :
      Makes before (.apply contexts)
        { before with
          db := (applyCycle contexts snapshot records before.db).db
          phase := .idle }

theorem SystemStep.makes {after : System} (stepped : SystemStep before move after) :
    Makes before move after := by
  unfold SystemStep at stepped
  cases move with
  | client call =>
      cases stepped
      exact .client call _
  | accept owner brokerId row =>
      simp only [System.next] at stepped
      split at stepped
      · next free =>
        cases stepped
        exact .accept free.1 free.2.1 free.2.2
      · cases stepped
  | report brokerId row =>
      simp only [System.next] at stepped
      split at stepped
      · next order found =>
        split at stepped
        · next own =>
          cases stepped
          exact .report found own.1 own.2
        · cases stepped
      · cases stepped
  | fetch brokerPositions =>
      simp only [System.next] at stepped
      split at stepped
      · next idle =>
        cases stepped
        exact .fetch brokerPositions idle
      · cases stepped
  | list limit =>
      simp only [System.next] at stepped
      split at stepped
      · next snapshot fetched =>
        cases stepped
        exact .list limit fetched
      · cases stepped
  | apply contexts =>
      simp only [System.next] at stepped
      split at stepped
      · next snapshot records listed =>
        cases stepped
        exact .apply contexts listed
      · cases stepped

/-! ### What every run keeps -/

def Listed (records : List OrderRecord) : Prop :=
  (records.map OrderRecord.orderId).Nodup ∧
    ∀ record ∈ records, strip record.orderId = record.orderId ∧ record.orderId ≠ ""

def Taken (snapshot : Snapshot) : Prop :=
  ∃ brokerOrders brokerPositions, snapshot = .take brokerOrders brokerPositions

structure Sane (system : System) : Prop where
  reached : ∃ entries, Run Step Database.empty entries system.db
  named : ∀ brokerId order, system.broker.lookup brokerId = some order →
    brokerOrderId order.row = brokerId ∧ brokerId ≠ ""
  distinct : Assoc.Distinct system.broker
  fetched : ∀ snapshot, system.phase = .fetched snapshot → Taken snapshot
  listed : ∀ snapshot records, system.phase = .listed snapshot records →
    Taken snapshot ∧ Listed records

theorem Sane.start : Sane .start where
  reached := ⟨[], .nil⟩
  named _ _ impossible := nomatch impossible
  distinct := List.nodup_nil
  fetched _ impossible := nomatch impossible
  listed _ _ impossible := nomatch impossible

theorem listed_listOrders {entries : List Entry} {db : Database} (limit : ℕ)
    (reached : Run Step Database.empty entries db) : Listed (listOrders limit db) := by
  refine ⟨listOrders_nodup (run_keyed reached), fun record member => ?_⟩
  obtain ⟨_, _, reads, present, _⟩ := lists_of_mem reached member
  exact ⟨reads.stripped, present⟩

theorem lookup_append_new {id other : String} {broker : List (String × BrokerOrder)}
    (absent : broker.lookup id = none) :
    (broker ++ [(id, order)]).lookup other =
      if other = id then some order else broker.lookup other := by
  rw [List.lookup_append]
  by_cases same : other = id
  · rw [if_pos same, same, absent, Option.none_or, Assoc.lookup_cons_self]
  · rw [if_neg same, Assoc.lookup_cons_of_ne same, List.lookup_nil, Option.or_none]

theorem Sane.step {after : System} (sane : Sane before) (stepped : SystemStep before move after) :
    Sane after := by
  obtain ⟨entries, run⟩ := sane.reached
  cases SystemStep.makes stepped with
  | client call fresh =>
      have called : Step before.db (call, (perform before.db call).1)
          (perform before.db call).2 := rfl
      exact ⟨⟨_, .snoc run called⟩, sane.named, sane.distinct, sane.fetched, sane.listed⟩
  | @accept owner id row absent named own =>
      refine ⟨⟨entries, run⟩, fun other order found => ?_, ?_, sane.fetched, sane.listed⟩
      · change (before.broker ++ [(id, _)]).lookup other = some order at found
        rw [lookup_append_new absent] at found
        split at found
        · next here =>
          cases found
          rw [here]
          exact ⟨own, named⟩
        · exact sane.named other order found
      · have grown := sane.distinct.set id ⟨owner, row⟩
        rw [Assoc.set_of_notMem (Assoc.lookup_eq_none_iff.mp absent)] at grown
        exact grown
  | @report id row order found own atLeast =>
      refine ⟨⟨entries, run⟩, fun other stored found' => ?_, sane.distinct.set _ _,
        sane.fetched, sane.listed⟩
      change (Assoc.set before.broker id _).lookup other = some stored at found'
      by_cases here : other = id
      · rw [here, Assoc.lookup_set_self] at found'
        cases found'
        rw [here]
        exact ⟨own, (sane.named id order found).2⟩
      · rw [Assoc.lookup_set_of_ne _ _ here] at found'
        exact sane.named other stored found'
  | fetch brokerPositions idle =>
      refine ⟨⟨entries, run⟩, sane.named, sane.distinct, fun snapshot same => ?_,
        fun _ _ impossible => nomatch impossible⟩
      cases same
      exact ⟨_, _, rfl⟩
  | list limit fetched =>
      refine ⟨⟨entries, run⟩, sane.named, sane.distinct, fun _ impossible => (nomatch impossible),
        fun other records same => ?_⟩
      cases same
      exact ⟨sane.fetched _ fetched, listed_listOrders limit run⟩
  | @apply snapshot records contexts listed =>
      obtain ⟨_, _, stripped⟩ := sane.listed snapshot records listed
      obtain ⟨⟨later, rest⟩, _⟩ := @applied_confined contexts (.start before.db) snapshot records
        (fun record member => (stripped record member).1)
      exact ⟨⟨entries ++ later, run.append rest⟩, sane.named, sane.distinct,
        fun _ impossible => (nomatch impossible), fun _ _ impossible => nomatch impossible⟩

/-! ### The fill of one broker order -/

def Holds (brokerId owner : String) (fill : PyFloat) (system : System) : Prop :=
  ∃ row, system.broker.lookup brokerId = some ⟨owner, row⟩ ∧
    fill.le (brokerFilledQty row) = true

def Shows (brokerId : String) (fill : PyFloat) (snapshot : Snapshot) : Prop :=
  ∃ row, snapshot.brokerById.lookup brokerId = some row ∧ fill.le (brokerFilledQty row) = true

def ShowsInCycle (brokerId : String) (fill : PyFloat) (system : System) : Prop :=
  (∀ snapshot, system.phase = .fetched snapshot → Shows brokerId fill snapshot) ∧
    ∀ snapshot records, system.phase = .listed snapshot records → Shows brokerId fill snapshot

theorem brokerById_complete {broker : List (String × BrokerOrder)}
    (distinct : Assoc.Distinct broker)
    (named : ∀ entry ∈ broker, brokerOrderId entry.2.row = entry.1 ∧ entry.1 ≠ "")
    (member : (brokerId, order) ∈ broker) :
    (brokerById (broker.map fun entry => entry.2.row)).lookup brokerId = some order.row := by
  induction broker using List.reverseRecOn with
  | nil => cases member
  | append_singleton rest last ih =>
      obtain ⟨lastId, lastOrder⟩ := last
      obtain ⟨lastNamed, lastPresent⟩ :=
        named (lastId, lastOrder) (List.mem_append_right rest List.mem_cons_self)
      change brokerOrderId lastOrder.row = lastId at lastNamed
      have split : brokerById ((rest ++ [(lastId, lastOrder)]).map fun entry => entry.2.row) =
          Assoc.set (brokerById (rest.map fun entry => entry.2.row)) lastId lastOrder.row := by
        unfold brokerById
        rw [List.map_append, List.foldl_append, List.map_singleton, List.foldl_cons,
          List.foldl_nil, lastNamed, if_neg lastPresent]
      rw [split]
      rcases List.mem_append.mp member with inRest | isLast
      · have elsewhere : brokerId ≠ lastId := by
          rintro rfl
          have absent := Assoc.Distinct.notMem distinct
          exact absent (List.mem_map_of_mem inRest)
        rw [Assoc.lookup_set_of_ne _ _ elsewhere]
        refine ih ?_ (fun entry inside => named entry (List.mem_append_left _ inside)) inRest
        unfold Assoc.Distinct at distinct ⊢
        rw [List.map_append] at distinct
        exact (List.nodup_append.mp distinct).1
      · cases List.mem_singleton.mp isLast
        rw [Assoc.lookup_set_self]

theorem Sane.snapshot_lookup (sane : Sane system)
    (found : system.broker.lookup brokerId = some order) (brokerPositions : List PyDict) :
    (Snapshot.take (system.broker.map fun entry => entry.2.row) brokerPositions).brokerById.lookup
      brokerId = some order.row := by
  refine brokerById_complete sane.distinct (fun entry member => ?_) (Assoc.mem_of_lookup found)
  exact sane.named entry.1 entry.2 ((Assoc.lookup_eq_some_iff sane.distinct _ _).mpr member)

theorem Holds.step {after : System} {fill : PyFloat} (holds : Holds brokerId owner fill before)
    (stepped : SystemStep before move after) : Holds brokerId owner fill after := by
  obtain ⟨row, found, atLeast⟩ := holds
  cases SystemStep.makes stepped with
  | accept absent named own =>
      refine ⟨row, ?_, atLeast⟩
      rw [lookup_append_new absent, if_neg, found]
      rintro rfl
      rw [absent] at found
      cases found
  | @report id new order stored own grown =>
      by_cases here : brokerId = id
      · subst here
        cases stored.symm.trans found
        exact ⟨new, Assoc.lookup_set_self _ _ _, PyFloat.le_trans atLeast grown⟩
      · exact ⟨row, (Assoc.lookup_set_of_ne _ _ here).trans found, atLeast⟩
  | client => exact ⟨row, found, atLeast⟩
  | fetch => exact ⟨row, found, atLeast⟩
  | list => exact ⟨row, found, atLeast⟩
  | apply => exact ⟨row, found, atLeast⟩

theorem Holds.fetch {after : System} {fill : PyFloat} (sane : Sane before)
    (holds : Holds brokerId owner fill before)
    (stepped : SystemStep before (.fetch brokerPositions) after) :
    ShowsInCycle brokerId fill after := by
  obtain ⟨row, found, atLeast⟩ := holds
  cases SystemStep.makes stepped with
  | fetch _ idle =>
      refine ⟨fun snapshot same => ?_, fun _ _ impossible => nomatch impossible⟩
      cases same
      exact ⟨row, sane.snapshot_lookup found brokerPositions, atLeast⟩

theorem ShowsInCycle.step {after : System} {fill : PyFloat} (sane : Sane before)
    (holds : Holds brokerId owner fill before) (shows : ShowsInCycle brokerId fill before)
    (stepped : SystemStep before move after) :
    ShowsInCycle brokerId fill after := by
  cases SystemStep.makes stepped with
  | fetch brokerPositions idle => exact holds.fetch sane stepped
  | client => exact shows
  | accept => exact shows
  | report => exact shows
  | list limit fetched =>
      refine ⟨fun _ impossible => (nomatch impossible), fun other records same => ?_⟩
      cases same
      exact shows.1 _ fetched
  | apply =>
      exact ⟨fun _ impossible => (nomatch impossible), fun _ _ impossible => (nomatch impossible)⟩

/-! ### Live orders -/

/-- What holds of every state of a run once the broker has the order with this fill. -/
structure Followed (brokerId owner : String) (fill : PyFloat) (system : System) : Prop where
  sane : Sane system
  holds : Holds brokerId owner fill system
  shows : ShowsInCycle brokerId fill system

theorem Sane.run {after : System} (sane : Sane before) (run : Run SoundStep before moves after) :
    Sane after :=
  run.invariant sane fun _ _ _ kept stepped => kept.step stepped.1

theorem Holds.run {after : System} {fill : PyFloat} (holds : Holds brokerId owner fill before)
    (run : Run SoundStep before moves after) : Holds brokerId owner fill after :=
  run.invariant holds fun _ _ _ kept stepped => kept.step stepped.1

theorem Followed.run {after : System} {fill : PyFloat}
    (followed : Followed brokerId owner fill before) (run : Run SoundStep before moves after) :
    Followed brokerId owner fill after := by
  refine run.invariant followed fun before move after kept stepped => ?_
  exact ⟨kept.sane.step stepped.1, kept.holds.step stepped.1,
    kept.shows.step kept.sane kept.holds stepped.1⟩

theorem followed_of_fetch {first middle between : List Move} {reported : System}
    (started : Run SoundStep .start first reported)
    (later : Run SoundStep reported (middle ++ .fetch brokerPositions :: between) before)
    (found : reported.broker.lookup brokerId = some order)
    (positive : PyFloat.lt (.finite 0) (brokerFilledQty order.row) = true) :
    Followed brokerId order.owner (brokerFilledQty order.row) before := by
  obtain ⟨fetching, toFetch, rest⟩ := later.split rfl
  obtain ⟨fetched, stepped, fromFetch⟩ := rest.cons_inv
  have sane : Sane fetching := (Sane.start.run started).run toFetch
  have reportedFill : Holds brokerId order.owner (brokerFilledQty order.row) reported :=
    ⟨order.row, found, PyFloat.le_refl (PyFloat.ne_nan_of_lt positive)⟩
  have holds := reportedFill.run toFetch
  exact Followed.run ⟨sane.step stepped.1, holds.step stepped.1, holds.fetch sane stepped.1⟩
    fromFetch

theorem applied_spares {contexts : ℕ → CallContext} {snapshot : Snapshot}
    {records : List OrderRecord} (listed : Listed records) (spares : Spares system snapshot records)
    {orderId : String} (fresh : orderId ∈ system.fresh) {row : OrderRow}
    (selected : system.db.orderStates.select orderId = some row) (live : row.state ≠ .rejected) :
    ∃ written,
      (applyCycle contexts snapshot records system.db).db.orderStates.select orderId =
        some written ∧ written.state ≠ .rejected := by
  unfold applyCycle
  by_cases inList : orderId ∈ records.map OrderRecord.orderId
  swap
  · refine ⟨row, ?_, live⟩
    rw [(applied_confined fun record member => (listed.2 record member).1).2 orderId inList]
    exact selected
  obtain ⟨record, member, rfl⟩ := List.mem_map.mp inList
  obtain ⟨turn, before, after⟩ := @applied_own contexts (.start system.db) snapshot records record
    (fun record member => (listed.2 record member).1) listed.1 member
  rw [after]
  have confined : Confined _ _ turn.db (reconcileOrder contexts snapshot turn record).db :=
    reconcileOrder_confined snapshot (listed.2 record member).1
  obtain ⟨written, stored, moved⟩ := confined.own row (before.trans selected)
  refine ⟨written, stored, ?_⟩
  rcases moved with same | sent | wanted
  · rw [same]
    exact live
  · rw [sent]
    decide
  · rintro rejected
    rw [rejected] at wanted
    exact spares record member fresh wanted

theorem applied_reaches {contexts : ℕ → CallContext} {brokerOrders : List PyDict}
    {records : List OrderRecord} {brokerRow : PyDict} (sane : Sane system) (listed : Listed records)
    (reaches : Reaches contexts system (.take brokerOrders brokerPositions) records owner
      brokerRow) :
    ∃ written,
      (applyCycle contexts (.take brokerOrders brokerPositions) records
        system.db).db.orderStates.select owner = some written ∧
      differs written.filledQty.value (brokerFilledQty brokerRow) = false := by
  obtain ⟨unlisted, reached⟩ := reaches
  have stripped : ∀ record ∈ records, strip record.orderId = record.orderId :=
    fun record member => (listed.2 record member).1
  unfold applyCycle
  by_cases inList : owner ∈ records.map OrderRecord.orderId
  swap
  · obtain ⟨row, selected, near⟩ := unlisted inList
    refine ⟨row, ?_, near⟩
    rw [(applied_confined stripped).2 owner inList]
    exact selected
  obtain ⟨record, member, own⟩ := List.mem_map.mp inList
  obtain ⟨found, ⟨row, selected, same⟩, path, healthy⟩ := reached record member own
  obtain ⟨turn, before, after⟩ := @applied_own contexts (.start system.db)
    (.take brokerOrders brokerPositions) records record stripped listed.1 member
  rw [own] at before after
  rw [after]
  rw [same] at found path ⊢
  obtain ⟨entries, run⟩ := sane.reached
  have reads : Reads turn.db owner row :=
    ⟨before.trans selected, own ▸ stripped record member,
      run_nonNegative run owner row selected⟩
  exact reconcileOrder_fills reads (own ▸ (listed.2 record member).2) found path healthy

/-- In every run of cycles among clients and broker whose loops spare the orders started
since their fetch, and reach those with a fill: no loop rejects an order created or sent
since the fetch, and a loop that ends a cycle whose fetch came after the broker reported a
fill leaves that fill, or the larger one it was shown, in the local record. -/
theorem live_orders_kept {first rest : List Move} {contexts : ℕ → CallContext}
    {reported before after : System} (started : Run SoundStep .start first reported)
    (later : Run SoundStep reported rest before)
    (applied : SoundStep before (.apply contexts) after) :
    (∀ orderId ∈ before.fresh, ∀ row, before.db.orderStates.select orderId = some row →
      row.state ≠ .rejected →
        ∃ written, after.db.orderStates.select orderId = some written ∧
          written.state ≠ .rejected) ∧
    ∀ brokerId order middle brokerPositions between,
      reported.broker.lookup brokerId = some order →
      PyFloat.lt (.finite 0) (brokerFilledQty order.row) = true →
      rest = middle ++ .fetch brokerPositions :: between →
        ∃ snapshot records brokerRow written,
          before.phase = .listed snapshot records ∧
          snapshot.brokerById.lookup brokerId = some brokerRow ∧
          (brokerFilledQty order.row).le (brokerFilledQty brokerRow) = true ∧
          after.db.orderStates.select order.owner = some written ∧
          differs written.filledQty.value (brokerFilledQty brokerRow) = false := by
  have sane : Sane before := (Sane.start.run started).run later
  obtain ⟨stepped, sound⟩ := applied
  cases stepped.makes with
  | @apply snapshot records _ phase =>
      obtain ⟨⟨brokerOrders, brokerPositions, rfl⟩, listed⟩ := sane.listed _ records phase
      obtain ⟨spares, reaches⟩ := sound contexts rfl _ records phase
      refine ⟨fun orderId fresh row selected live => ?_, ?_⟩
      · exact applied_spares listed spares fresh selected live
      · rintro brokerId order middle fetchedPositions between found positive rfl
        obtain ⟨_, ⟨current, stored, _⟩, _, shows⟩ := followed_of_fetch started later found positive
        obtain ⟨brokerRow, shown, atLeast⟩ := shows _ records phase
        have reached := reaches brokerId _ brokerRow stored shown
          (PyFloat.lt_of_lt_of_le positive atLeast)
        obtain ⟨written, kept, near⟩ := applied_reaches sane listed reached
        exact ⟨_, records, brokerRow, written, phase, shown, atLeast, kept, near⟩

def Move.applies : Move → Bool
  | .apply _ => true
  | _ => false

def System.through (system : System) (moves : List Move) : System :=
  moves.foldl (fun system move => (system.next move).getD system) system

theorem run_through {system : System} {moves : List Move}
    (quiet : moves.all (fun move => !move.applies) = true)
    (made : (moves.foldlM System.next system).isSome = true) :
    Run SoundStep system moves (system.through moves) := by
  induction moves generalizing system with
  | nil => exact .nil
  | cons move rest ih =>
      rw [List.all_cons, Bool.and_eq_true, Bool.not_eq_true'] at quiet
      rw [List.foldlM_cons] at made
      cases stepped : system.next move with
      | none =>
          rw [stepped] at made
          cases made
      | some middle =>
          rw [stepped] at made
          have same : system.through (move :: rest) = middle.through rest := by
            unfold System.through
            rw [List.foldl_cons, stepped, Option.getD_some]
          rw [same]
          refine .cons ⟨stepped, fun contexts loop => ?_⟩ (ih quiet.2 made)
          rw [loop] at quiet
          cases quiet.1

def brokerAnswer (brokerId status : String) (filled : ℚ) : PyDict :=
  [("order_id", .str brokerId), ("status", .str status),
    ("filled_quantity", .float (.finite filled))]

def sends (orderId brokerId : String) : List Move :=
  [.client ⟨clockAt 1, .create
      { orderId := orderId, idempotencyKey := orderId, quantity := some (.finite 10) }⟩,
    .client ⟨clockAt 2, .transition
      { orderId := orderId, nextState := "SENT", brokerOrderId := some brokerId }⟩]

def fillsOrder : List Move :=
  sends "o1" "b1" ++
    [.accept "o1" "b1" (brokerAnswer "b1" "OPEN" 0), .report "b1" (brokerAnswer "b1" "COMPLETE" 10)]

/-- A cycle up to its loop, with an order that is sent and acknowledged after the fetch. -/
def lateOrder : List Move :=
  .fetch [[("quantity", .float (.finite 10))]] :: sends "o2" "b2" ++
    [.client ⟨clockAt 3, .transition { orderId := "o2", nextState := "ACKNOWLEDGED" }⟩, .list 2000]

def lateLoop : System :=
  (System.start.through fillsOrder).through lateOrder

theorem lateLoop_sound : SoundLoop (fun _ => clockAt 4) lateLoop := by
  intro snapshot records phase
  have checked : (match lateLoop.phase with
      | .listed snapshot records =>
          records.all (fun record => !lateLoop.fresh.contains record.orderId ||
            movesTo snapshot record != some .rejected) &&
          records.any (fun record => record.orderId == "o1") &&
          records.all (fun record => record.orderId != "o1" ||
            (record.brokerOrderId.bind blankToNone == some "b1" &&
              (lateLoop.db.orderStates.select "o1").any fun row =>
                record == rowToRecord "o1" row)) &&
          records.all (fun record => record.orderId != "o1" ||
            (snapshot.brokerById.lookup "b1").all fun row =>
              (targetStateFromBroker row).all fun target =>
                (findTransitionPath record.state target).isOk)
      | _ => false) = true := by
    decide +kernel
  rw [phase] at checked
  simp only [Bool.and_eq_true, List.all_eq_true, List.any_eq_true, Bool.or_eq_true,
    Option.any_eq_true, Option.all_eq_true, Bool.not_eq_true', bne_iff_ne, beq_iff_eq, ne_eq,
    List.contains_eq_mem, decide_eq_false_iff_not] at checked
  obtain ⟨⟨⟨spares, listed, member, own⟩, stored⟩, paths⟩ := checked
  refine ⟨fun record inside fresh => ?_, fun brokerId order brokerRow found shown _ => ?_⟩
  · rcases spares record inside with old | spared
    · exact absurd fresh old
    · exact spared
  have broker : (lateLoop.broker.map fun entry => (entry.1, entry.2.owner)) = [("b1", "o1")] := by
    decide
  have here := List.mem_map_of_mem (f := fun entry => (entry.1, entry.2.owner))
    (Assoc.mem_of_lookup found)
  rw [broker, List.mem_singleton, Prod.mk.injEq] at here
  obtain ⟨rfl, owner⟩ := here
  rw [owner]
  refine ⟨fun absent => ?_, fun record inside isOwn => ?_⟩
  · exact absurd (List.mem_map.mpr ⟨listed, member, own⟩) absent
  rcases stored record inside with other | ⟨named, row, selected, same⟩
  · exact absurd isOwn other
  refine ⟨?_, ⟨row, selected, same⟩, fun target wanted => ?_,
    fun _ => ⟨rfl, PyFloat.noConfusion⟩⟩
  · unfold Snapshot.rowFor
    rw [named, Option.toList_some, List.singleton_append, List.findSome?_cons, shown]
  · rcases paths record inside with other | reach
    · exact absurd isOwn other
    · have ok := reach brokerRow shown target wanted
      cases path : findTransitionPath record.state target with
      | ok states => exact ⟨states, rfl⟩
      | error raised =>
          rw [path] at ok
          cases ok

/-- The cycle keeps the late order, and brings the fill to the other one. -/
theorem live_orders_kept_late :
    let after := lateLoop.through [.apply fun _ => clockAt 4]
    (∃ written, after.db.orderStates.select "o2" = some written ∧ written.state ≠ .rejected) ∧
      ∃ shown written, (PyFloat.finite 10).le shown = true ∧
        after.db.orderStates.select "o1" = some written ∧
        differs written.filledQty.value shown = false := by
  intro after
  have started := @run_through .start fillsOrder (by decide) (by decide)
  have later := @run_through (System.start.through fillsOrder) lateOrder (by decide)
    (by decide)
  have applied : SystemStep lateLoop (.apply fun _ => clockAt 4) after := by
    have made : (lateLoop.next (.apply fun _ => clockAt 4)).isSome = true := by decide
    obtain ⟨next, stepped⟩ := Option.isSome_iff_exists.mp made
    have same : after = next := by
      change (lateLoop.next (.apply fun _ => clockAt 4)).getD lateLoop = next
      rw [stepped]
      rfl
    rw [same]
    exact stepped
  have sound : SoundStep lateLoop (.apply fun _ => clockAt 4) after := by
    refine ⟨applied, fun contexts same => ?_⟩
    cases same
    exact lateLoop_sound
  obtain ⟨kept, filled⟩ := live_orders_kept started later sound
  constructor
  · have late : "o2" ∈ lateLoop.fresh ∧ (lateLoop.db.orderStates.select "o2").any
        (fun row => row.state != .rejected) = true := by
      decide
    obtain ⟨row, selected, live⟩ := (Option.any_eq_true _ _).mp late.2
    exact kept "o2" late.1 row selected (bne_iff_ne.mp live)
  · have reported : ((System.start.through fillsOrder).broker.lookup "b1").any (fun order =>
        order.owner == "o1" && brokerFilledQty order.row == .finite 10) = true := by
      decide
    obtain ⟨order, found, same⟩ := (Option.any_eq_true _ _).mp reported
    rw [Bool.and_eq_true, beq_iff_eq, beq_iff_eq] at same
    obtain ⟨_, _, brokerRow, written, _, _, atLeast, stored, near⟩ :=
      filled "b1" order [] _ _ found (by rw [same.2]; decide) rfl
    rw [same.1] at stored
    rw [same.2] at atLeast
    exact ⟨_, written, atLeast, stored, near⟩

/-- An order that is sent while a cycle runs over an older answer of the broker, and is
then filled. -/
def overtakenOrder : List Move :=
  [.fetch []] ++ sends "o1" "b1" ++
    [.accept "o1" "b1" (brokerAnswer "b1" "OPEN" 0), .list 2000, .apply fun _ => clockAt 3,
      .report "b1" (brokerAnswer "b1" "COMPLETE" 10), .fetch [], .list 2000,
      .apply fun _ => clockAt 4]

/-- The cycle rejects the order that was sent after its fetch, and the fill of the order
never gets to the local record. -/
theorem sent_order_rejected :
    (overtakenOrder.foldlM System.next .start).isSome = true ∧
      let sent := System.start.through (overtakenOrder.take 5)
      let rejected := System.start.through (overtakenOrder.take 6)
      let last := System.start.through overtakenOrder
      sent.fresh.contains "o1" = true ∧
      ((sent.db.orderStates.select "o1").map OrderRow.state = some .sent) ∧
      ((rejected.db.orderStates.select "o1").map OrderRow.state = some .rejected) ∧
      ((last.broker.lookup "b1").map fun order => brokerFilledQty order.row) =
        some (.finite 10) ∧
      ((last.db.orderStates.select "o1").map fun row => (row.state, row.filledQty.value)) =
        some (.rejected, .finite 0) := by
  decide

/-! ### The orders of every interleaving -/

theorem SystemStep.calls {after : System} (sane : Sane before)
    (stepped : SystemStep before move after) : ∃ entries, Run Step before.db entries after.db := by
  cases SystemStep.makes stepped with
  | client call fresh => exact ⟨[(call, (perform before.db call).1)], .snoc .nil rfl⟩
  | accept absent named own => exact ⟨[], .nil⟩
  | report found own atLeast => exact ⟨[], .nil⟩
  | fetch brokerPositions idle => exact ⟨[], .nil⟩
  | list limit fetched => exact ⟨[], .nil⟩
  | @apply snapshot records contexts listed =>
      obtain ⟨_, _, stripped⟩ := sane.listed snapshot records listed
      exact (@applied_confined contexts (.start before.db) snapshot records
        fun record member => (stripped record member).1).1

theorem systemRun_calls {after : System} (sane : Sane before)
    (run : Run SystemStep before moves after) :
    Sane after ∧ ∃ entries, Run Step before.db entries after.db := by
  apply run.invariant (motive := fun system =>
    Sane system ∧ ∃ entries, Run Step before.db entries system.db) ⟨sane, [], .nil⟩
  rintro middle move next ⟨kept, entries, earlier⟩ stepped
  obtain ⟨later, calls⟩ := stepped.calls kept
  exact ⟨kept.step stepped, entries ++ later, earlier.append calls⟩

/-- However clients, the broker and the steps of the reconciliation take turns, the log, the
orders and their mirror agree, no fill is negative, and an order keeps what identifies it and,
once closed, how it was closed. -/
theorem orders_agree_interleaved {earlier later : List Move} {before after : System}
    (reached : Run SystemStep .start earlier before) (rest : Run SystemStep before later after) :
    Synchronized after.db ∧ NonNegativeFills after.db ∧
      ∀ orderId row, before.db.orderStates.select orderId = some row →
        ∃ last, after.db.orderStates.select orderId = some last ∧ Keeps row last := by
  obtain ⟨sane, entries, initial⟩ := systemRun_calls Sane.start reached
  obtain ⟨_, others, calls⟩ := systemRun_calls sane rest
  have whole : Run Step Database.empty (entries ++ others) after.db := initial.append calls
  refine ⟨?_, run_nonNegative whole, ?_⟩
  · exact whole.invariant empty_synchronized fun _ _ _ => step_synchronized
  · intro orderId row stored
    exact run_keeps calls (run_nonNegative initial) stored

theorem orders_agree_interleaved_late : ∃ after : System,
    Synchronized after.db ∧ NonNegativeFills after.db ∧
      ∀ orderId row, lateLoop.db.orderStates.select orderId = some row →
        ∃ last, after.db.orderStates.select orderId = some last ∧ Keeps row last := by
  have started := @run_through .start fillsOrder (by decide) (by decide)
  have later := @run_through (System.start.through fillsOrder) lateOrder (by decide)
    (by decide)
  have made : (lateLoop.next (.apply fun _ => clockAt 4)).isSome = true := by decide
  obtain ⟨after, stepped⟩ := Option.isSome_iff_exists.mp made
  have reached : Run SystemStep .start (fillsOrder ++ lateOrder) lateLoop :=
    (started.append later).mono fun _ _ _ sound => sound.1
  exact ⟨after, orders_agree_interleaved reached (.snoc .nil stepped)⟩

end Algotradify.Orders.Reconciliation
