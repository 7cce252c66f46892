/-
The lifecycle of orders: the calls of the order manager, one record for each client order id.

Every call reads the clock, and a call for an unknown order raises and changes nothing. Prices
are exact numbers here.

Runs of the order manager: the quantities, the average price of the counted fills, and orders
that have come to an end.

A filled quantity never exceeds the requested one. The average price is the one of the counted
fills, and an order that has ended stays as it is, exactly in the runs in which every fill of an
order already filled in part fits into what is still requested, or has the average price, and no
call comes for an order that has ended.
-/

import Algotradify.Accounting.WeightedAverage
import Algotradify.Py.Value
import Mathlib.Tactic.LinearCombination

namespace Algotradify.Core.OrderLifecycle

open Py

inductive OrderStatus where
  | created
  | submitting
  | acked
  | partiallyFilled
  | filled
  | cancelPending
  | cancelled
  | rejected
  | error
deriving DecidableEq, Repr

structure OrderIntent where
  symbol : String
  side : String
  qty : ℤ

structure OrderRecord where
  clientOrderId : String
  intent : OrderIntent
  status : OrderStatus := .created
  brokerOrderId : Option String := none
  requestedQty : ℤ := 0
  filledQty : ℤ := 0
  avgFillPrice : ℚ := 0
  rejectReason : Option String := none
  createdTs : ℚ
  updatedTs : ℚ
  events : List PyDict := []

namespace OrderRecord

variable (record : OrderRecord) (now : ℚ)

def appendEvent (eventType : String) (payload : PyDict) : OrderRecord :=
  { record with
    updatedTs := now
    events := record.events ++
      [[("ts", .float (.finite now)), ("event_type", .str eventType)] ++ payload] }

def markSubmitting : OrderRecord :=
  { record with status := .submitting }.appendEvent now "submitting" []

def markAcked (brokerOrderId : String) : OrderRecord :=
  { record with status := .acked, brokerOrderId := some brokerOrderId }.appendEvent now "acked"
    [("broker_order_id", .str brokerOrderId)]

def applyFill (fillQty : ℤ) (fillPrice : ℚ) : OrderRecord :=
  let newQty := max 0 fillQty
  let totalQty := record.filledQty + newQty
  let avgFillPrice :=
    if 0 < totalQty then
      (record.avgFillPrice * record.filledQty + fillPrice * newQty) / totalQty
    else record.avgFillPrice
  let filledQty := min record.requestedQty totalQty
  let status := if record.requestedQty ≤ filledQty then .filled else .partiallyFilled
  { record with
    avgFillPrice := avgFillPrice
    filledQty := filledQty
    status := status }.appendEvent now "fill"
    [("fill_qty", .int newQty), ("fill_price", .float (.finite fillPrice)),
      ("cum_qty", .int filledQty), ("avg_fill", .float (.finite avgFillPrice))]

def markCancelPending : OrderRecord :=
  { record with status := .cancelPending }.appendEvent now "cancel_pending" []

def markCancelled : OrderRecord :=
  { record with status := .cancelled }.appendEvent now "cancelled" []

def markRejected (reason : String) : OrderRecord :=
  { record with status := .rejected, rejectReason := some reason }.appendEvent now "rejected"
    [("reason", .str reason)]

def markError (reason : String) : OrderRecord :=
  { record with status := .error, rejectReason := some reason }.appendEvent now "error"
    [("reason", .str reason)]

end OrderRecord

/-- `self.orders`. -/
abbrev Orders := List (String × OrderRecord)

def create (orders : Orders) (clientOrderId : String) (intent : OrderIntent) (createdTs now : ℚ) :
    Orders :=
  let record : OrderRecord :=
    { clientOrderId := clientOrderId
      intent := intent
      requestedQty := max 0 intent.qty
      createdTs := createdTs
      updatedTs := createdTs }
  Assoc.set orders clientOrderId (record.appendEvent now "created"
    [("symbol", .str intent.symbol), ("side", .str intent.side), ("qty", .int intent.qty)])

/-! ### Calls -/

inductive OrderEvent where
  | submitting
  | acked (brokerOrderId : String)
  | fill (fillQty : ℤ) (fillPrice : ℚ)
  | cancelPending
  | cancelled
  | rejected (reason : String)
  | error (reason : String)

def OrderEvent.change (record : OrderRecord) (now : ℚ) : OrderEvent → OrderRecord
  | .submitting => record.markSubmitting now
  | .acked brokerOrderId => record.markAcked now brokerOrderId
  | .fill fillQty fillPrice => record.applyFill now fillQty fillPrice
  | .cancelPending => record.markCancelPending now
  | .cancelled => record.markCancelled now
  | .rejected reason => record.markRejected now reason
  | .error reason => record.markError now reason

def onOrder (orders : Orders) (clientOrderId : String) (now : ℚ) (event : OrderEvent) :
    Except PyError Orders :=
  match orders.lookup clientOrderId with
  | none => .error (.runtimeError ("KeyError: " ++ clientOrderId))
  | some record => .ok (Assoc.set orders clientOrderId (event.change record now))

inductive Call where
  | create (clientOrderId : String) (intent : OrderIntent) (createdTs now : ℚ)
  | event (clientOrderId : String) (now : ℚ) (event : OrderEvent)

def Call.clientOrderId : Call → String
  | .create clientOrderId _ _ _ => clientOrderId
  | .event clientOrderId _ _ => clientOrderId

def apply (orders : Orders) : Call → Orders
  | .create clientOrderId intent createdTs now => create orders clientOrderId intent createdTs now
  | .event clientOrderId now event =>
      match onOrder orders clientOrderId now event with
      | .ok after => after
      | .error _ => orders

def afterCalls (calls : List Call) : Orders :=
  calls.foldl apply []

/-! ### Runs -/

open Accounting

def OrderStatus.terminal : OrderStatus → Bool
  | .filled | .cancelled | .rejected | .error => true
  | _ => false

/-! ### Counted fills -/

def countCall (orders : Orders) (clientOrderId : String) (counted : List (ℤ × ℚ)) :
    Call → List (ℤ × ℚ)
  | .create other _ _ _ => if other = clientOrderId then [] else counted
  | .event other _ (.fill fillQty fillPrice) =>
      if other = clientOrderId then
        counted ++ (orders.lookup clientOrderId).toList.map fun record =>
          (min (max 0 fillQty) (record.requestedQty - record.filledQty), fillPrice)
      else counted
  | .event _ _ _ => counted

/-- The orders after some calls with the counted fills of one of them. -/
def tracked (clientOrderId : String) (calls : List Call) : Orders × List (ℤ × ℚ) :=
  calls.foldl (fun state call => (apply state.1 call, countCall state.1 clientOrderId state.2 call))
    ([], [])

def counted (clientOrderId : String) (calls : List Call) : List (ℤ × ℚ) :=
  (tracked clientOrderId calls).2

theorem tracked_orders (clientOrderId : String) (calls : List Call) :
    (tracked clientOrderId calls).1 = afterCalls calls := by
  induction calls using List.reverseRecOn with
  | nil => rfl
  | append_singleton calls call ih =>
      unfold tracked afterCalls at *
      rw [List.foldl_append, List.foldl_append]
      change apply _ call = apply _ call
      rw [ih]

theorem counted_snoc (clientOrderId : String) (calls : List Call) (call : Call) :
    counted clientOrderId (calls ++ [call]) =
      countCall (afterCalls calls) clientOrderId (counted clientOrderId calls) call := by
  rw [← tracked_orders clientOrderId calls]
  unfold counted tracked
  rw [List.foldl_append]
  rfl

theorem afterCalls_snoc (calls : List Call) (call : Call) :
    afterCalls (calls ++ [call]) = apply (afterCalls calls) call := by
  unfold afterCalls
  rw [List.foldl_append]
  rfl

/-! ### One call -/

section Step

variable {orders : Orders} {clientOrderId : String} {record : OrderRecord}

theorem apply_event_none {now : ℚ} {event : OrderEvent}
    (absent : orders.lookup clientOrderId = none) :
    apply orders (.event clientOrderId now event) = orders := by
  simp only [apply, onOrder, absent]

theorem apply_event_some {now : ℚ} {event : OrderEvent}
    (held : orders.lookup clientOrderId = some record) :
    apply orders (.event clientOrderId now event) =
      Py.Assoc.set orders clientOrderId (event.change record now) := by
  simp only [apply, onOrder, held]

theorem lookup_apply_of_ne {call : Call} (other : clientOrderId ≠ call.clientOrderId) :
    (apply orders call).lookup clientOrderId = orders.lookup clientOrderId := by
  cases call with
  | create own intent createdTs now => exact Py.Assoc.lookup_set_of_ne _ _ other
  | event own now event =>
      cases held : orders.lookup own with
      | none => rw [apply_event_none held]
      | some record =>
          rw [apply_event_some held]
          exact Py.Assoc.lookup_set_of_ne _ _ other

theorem lookup_apply_event (now : ℚ) (event : OrderEvent) :
    (apply orders (.event clientOrderId now event)).lookup clientOrderId =
      (orders.lookup clientOrderId).map fun record => event.change record now := by
  cases held : orders.lookup clientOrderId with
  | none => rw [apply_event_none held, held, Option.map_none]
  | some record => rw [apply_event_some held, Py.Assoc.lookup_set_self, Option.map_some]

theorem countCall_of_ne {call : Call} (other : clientOrderId ≠ call.clientOrderId)
    (fills : List (ℤ × ℚ)) : countCall orders clientOrderId fills call = fills := by
  cases call with
  | create own intent createdTs now => exact if_neg fun same => other same.symm
  | event own now event =>
      cases event with
      | fill fillQty fillPrice => exact if_neg fun same => other same.symm
      | submitting | acked | cancelPending | cancelled | rejected | error => rfl

theorem change_ne (event : OrderEvent) (record : OrderRecord) (now : ℚ) :
    event.change record now ≠ record := by
  intro same
  have longer := congrArg (fun record => record.events.length) same
  cases event <;>
    simp [OrderEvent.change, OrderRecord.markSubmitting, OrderRecord.markAcked,
      OrderRecord.applyFill, OrderRecord.markCancelPending, OrderRecord.markCancelled,
      OrderRecord.markRejected, OrderRecord.markError, OrderRecord.appendEvent] at longer

end Step

/-! ### Quantities -/

structure Within (record : OrderRecord) : Prop where
  nonneg : 0 ≤ record.filledQty
  most : record.filledQty ≤ record.requestedQty

theorem Within.change {record : OrderRecord} (within : Within record) (event : OrderEvent)
    (now : ℚ) : Within (event.change record now) := by
  obtain ⟨nonneg, most⟩ := within
  cases event with
  | fill fillQty fillPrice =>
      constructor
      · change 0 ≤ min record.requestedQty (record.filledQty + max 0 fillQty)
        omega
      · change min record.requestedQty (record.filledQty + max 0 fillQty) ≤ record.requestedQty
        omega
  | submitting | acked | cancelPending | cancelled | rejected | error => exact ⟨nonneg, most⟩

theorem within_afterCalls (calls : List Call) {clientOrderId : String} {record : OrderRecord}
    (held : (afterCalls calls).lookup clientOrderId = some record) : Within record := by
  induction calls using List.reverseRecOn generalizing clientOrderId record with
  | nil => cases held
  | append_singleton calls call ih =>
      rw [afterCalls_snoc] at held
      by_cases own : clientOrderId = call.clientOrderId
      · cases call with
        | create other intent createdTs now =>
            change clientOrderId = other at own
            subst own
            change List.lookup clientOrderId (Py.Assoc.set _ clientOrderId _) = _ at held
            rw [Py.Assoc.lookup_set_self] at held
            rw [← Option.some.inj held]
            constructor
            · exact le_refl _
            · exact le_max_left _ _
        | event other now event =>
            change clientOrderId = other at own
            subst own
            rw [lookup_apply_event] at held
            obtain ⟨before, ofBefore, rfl⟩ := Option.map_eq_some_iff.mp held
            exact (ih ofBefore).change event now
      · rw [lookup_apply_of_ne own] at held
        exact ih held

/-! ### The average price -/

/-- A fill that keeps the average price true: it fits into what is still requested, it is the
first one, or it has the average price. -/
def Fitting (record : OrderRecord) (fillQty : ℤ) (fillPrice : ℚ) : Prop :=
  max 0 fillQty ≤ record.requestedQty - record.filledQty ∨ record.filledQty = 0 ∨
    fillPrice = record.avgFillPrice

theorem clipped_average {prior more requested : ℚ} (average price : ℚ) (priorNonneg : 0 ≤ prior)
    (nonneg : 0 ≤ requested - prior) (beyond : requested - prior < more) :
    (average * prior + price * more) / (prior + more) * requested =
        average * prior + (requested - prior) * price ↔
      prior = 0 ∨ price = average := by
  have positive : prior + more ≠ 0 := by linarith
  have excess : more - (requested - prior) ≠ 0 := by linarith
  rw [div_mul_eq_mul_div, div_eq_iff positive]
  constructor
  · intro same
    have product : prior * ((more - (requested - prior)) * (price - average)) = 0 := by
      linear_combination same
    rcases mul_eq_zero.mp product with none | rest
    · exact .inl none
    · right
      exact sub_eq_zero.mp ((mul_eq_zero.mp rest).resolve_left excess)
  · intro agree
    rcases agree with rfl | rfl
    · ring
    · ring

theorem average_applyFill_iff {record : OrderRecord} (within : Within record) {total : ℚ}
    (average : record.avgFillPrice * record.filledQty = total) (now : ℚ) (fillQty : ℤ)
    (fillPrice : ℚ) :
    (record.applyFill now fillQty fillPrice).avgFillPrice *
          (record.applyFill now fillQty fillPrice).filledQty =
        total + (min (max 0 fillQty) (record.requestedQty - record.filledQty) : ℤ) * fillPrice ↔
      Fitting record fillQty fillPrice := by
  obtain ⟨nonneg, most⟩ := within
  change (if 0 < record.filledQty + max 0 fillQty then
      (record.avgFillPrice * record.filledQty + fillPrice * (max 0 fillQty : ℤ)) /
        (record.filledQty + max 0 fillQty : ℤ)
      else record.avgFillPrice) *
        (min record.requestedQty (record.filledQty + max 0 fillQty) : ℤ) = _ ↔ _
  unfold Fitting
  have newNonneg : 0 ≤ max 0 fillQty := le_max_left _ _
  generalize max 0 fillQty = newQty at *
  by_cases fits : newQty ≤ record.requestedQty - record.filledQty
  · have whole : min record.requestedQty (record.filledQty + newQty) =
        record.filledQty + newQty := by omega
    rw [whole, min_eq_left fits]
    apply iff_of_true _ (.inl fits)
    by_cases some : 0 < record.filledQty + newQty
    · have nonzero : ((record.filledQty + newQty : ℤ) : ℚ) ≠ 0 := by
        exact_mod_cast some.ne'
      rw [if_pos some, div_mul_cancel₀ _ nonzero, average]
      ring
    · have noPrior : record.filledQty = 0 := by omega
      have noneNew : newQty = 0 := by omega
      rw [if_neg some, ← average, noPrior, noneNew]
      simp
  · have clipped : min record.requestedQty (record.filledQty + newQty) = record.requestedQty := by
      omega
    have some : 0 < record.filledQty + newQty := by omega
    rw [clipped, min_eq_right (by omega), if_pos some, ← average, or_iff_right fits]
    have beyond : (record.requestedQty - record.filledQty : ℚ) < newQty := by
      exact_mod_cast not_le.mp fits
    have priorNonneg : (0 : ℚ) ≤ record.filledQty := by exact_mod_cast nonneg
    have remains : (0 : ℚ) ≤ record.requestedQty - record.filledQty := by
      exact_mod_cast (by omega : 0 ≤ record.requestedQty - record.filledQty)
    have agree := clipped_average record.avgFillPrice fillPrice priorNonneg remains beyond
    push_cast
    rw [agree, Int.cast_eq_zero]

/-! ### Runs -/

/-- The accounts of the orders after some calls: the quantities, the averages, and what has
ended. -/
structure Accounts (calls : List Call) : Prop where
  within : ∀ clientOrderId record, (afterCalls calls).lookup clientOrderId = some record →
    record.filledQty ≤ record.requestedQty
  average : ∀ clientOrderId record, (afterCalls calls).lookup clientOrderId = some record →
    record.avgFillPrice * record.filledQty = Weighted.total (counted clientOrderId calls)
  ended : ∀ earlier call, calls = earlier ++ [call] → ∀ clientOrderId record,
    (afterCalls earlier).lookup clientOrderId = some record → record.status.terminal = true →
      (afterCalls calls).lookup clientOrderId = some record

/-- A call comes for an order that has not ended, and a fill keeps its average price true. -/
def Admissible (orders : Orders) (call : Call) : Prop :=
  ∀ record, orders.lookup call.clientOrderId = some record →
    record.status.terminal = false ∧
      ∀ now fillQty fillPrice, call = .event call.clientOrderId now (.fill fillQty fillPrice) →
        Fitting record fillQty fillPrice

theorem average_create (calls : List Call) (clientOrderId : String) (intent : OrderIntent)
    (createdTs now : ℚ) {record : OrderRecord}
    (held : (afterCalls (calls ++ [.create clientOrderId intent createdTs now])).lookup
      clientOrderId = some record) :
    record.avgFillPrice * record.filledQty = Weighted.total
      (counted clientOrderId (calls ++ [.create clientOrderId intent createdTs now])) := by
  rw [afterCalls_snoc] at held
  change List.lookup clientOrderId (Py.Assoc.set _ clientOrderId _) = _ at held
  rw [Py.Assoc.lookup_set_self] at held
  rw [counted_snoc, ← Option.some.inj held]
  change (0 : ℚ) * _ = Weighted.total (if clientOrderId = clientOrderId then [] else _)
  rw [if_pos rfl, zero_mul, Weighted.total_nil]

theorem average_snoc_iff {calls : List Call} {call : Call} {record : OrderRecord}
    (held : (afterCalls calls).lookup call.clientOrderId = some record)
    (average : record.avgFillPrice * record.filledQty =
      Weighted.total (counted call.clientOrderId calls)) :
    (∀ after, (afterCalls (calls ++ [call])).lookup call.clientOrderId = some after →
        after.avgFillPrice * after.filledQty =
          Weighted.total (counted call.clientOrderId (calls ++ [call]))) ↔
      ∀ now fillQty fillPrice, call = .event call.clientOrderId now (.fill fillQty fillPrice) →
        Fitting record fillQty fillPrice := by
  cases call with
  | create own intent createdTs now =>
      apply iff_of_true
      · intro after created
        exact average_create calls own intent createdTs now created
      · intro now fillQty fillPrice impossible
        cases impossible
  | event own now event =>
      rw [counted_snoc, afterCalls_snoc]
      change (afterCalls calls).lookup own = some record at held
      change record.avgFillPrice * record.filledQty = Weighted.total (counted own calls) at average
      change (∀ after, (apply _ (.event own now event)).lookup own = some after → _) ↔ _
      rw [lookup_apply_event, held, Option.map_some]
      cases event with
      | fill fillQty fillPrice =>
          have within := within_afterCalls calls held
          have step := average_applyFill_iff within average now fillQty fillPrice
          have counts : countCall (afterCalls calls) own (counted own calls)
              (.event own now (.fill fillQty fillPrice)) = counted own calls ++
                [(min (max 0 fillQty) (record.requestedQty - record.filledQty), fillPrice)] := by
            simp [countCall, held]
          change (∀ after, _ → _ = Weighted.total (countCall _ own (counted own calls)
            (.event own now (.fill fillQty fillPrice)))) ↔ _
          rw [counts, Weighted.total_snoc, ← average]
          rw [← average] at step
          constructor
          · intro kept later otherQty otherPrice same
            cases same
            exact step.mp (kept _ rfl)
          · intro fits after changed
            rw [← Option.some.inj changed]
            exact step.mpr (fits now fillQty fillPrice rfl)
      | submitting | acked | cancelPending | cancelled | rejected | error =>
          apply iff_of_true
          · intro after changed
            rw [← Option.some.inj changed]
            exact average
          · intro later fillQty fillPrice impossible
            cases impossible

theorem lookup_apply_ne {orders : Orders} {call : Call} {record : OrderRecord}
    (held : orders.lookup call.clientOrderId = some record)
    (terminal : record.status.terminal = true) :
    (apply orders call).lookup call.clientOrderId ≠ some record := by
  intro same
  cases call with
  | create own intent createdTs now =>
      change List.lookup own (Py.Assoc.set _ own _) = _ at same
      rw [Py.Assoc.lookup_set_self] at same
      rw [← Option.some.inj same] at terminal
      cases terminal
  | event own now event =>
      change (apply _ (.event own now event)).lookup own = _ at same
      change orders.lookup own = _ at held
      rw [lookup_apply_event, held, Option.map_some] at same
      exact change_ne event record now (Option.some.inj same)

theorem accounts_nil : Accounts [] := by
  constructor
  · intro clientOrderId record held
    cases held
  · intro clientOrderId record held
    cases held
  · intro earlier call split
    simp at split

theorem accounts_snoc_iff {calls : List Call} (accounts : Accounts calls) (call : Call) :
    Accounts (calls ++ [call]) ↔ Admissible (afterCalls calls) call := by
  constructor
  · intro after record held
    constructor
    · by_contra ended
      have terminal : record.status.terminal = true := by simpa using ended
      have kept := after.ended calls call rfl _ record held terminal
      rw [afterCalls_snoc] at kept
      exact lookup_apply_ne held terminal kept
    · apply (average_snoc_iff held (accounts.average _ record held)).mp
      intro later changed
      exact after.average _ later changed
  · intro admissible
    constructor
    · intro clientOrderId record held
      exact (within_afterCalls _ held).most
    · intro clientOrderId record held
      by_cases own : clientOrderId = call.clientOrderId
      · subst own
        cases before : (afterCalls calls).lookup call.clientOrderId with
        | none =>
            cases call with
            | create own intent createdTs now =>
                exact average_create calls own intent createdTs now held
            | event own now event =>
                change (afterCalls calls).lookup own = none at before
                rw [afterCalls_snoc, apply_event_none before, Call.clientOrderId, before] at held
                cases held
        | some earlier =>
            apply (average_snoc_iff before (accounts.average _ earlier before)).mpr _ record held
            exact (admissible earlier before).2
      · rw [afterCalls_snoc, lookup_apply_of_ne own] at held
        rw [counted_snoc, countCall_of_ne own]
        exact accounts.average clientOrderId record held
    · intro earlier last split clientOrderId record held terminal
      obtain ⟨rfl, same⟩ := List.append_inj' split rfl
      cases same
      rw [afterCalls_snoc]
      by_cases own : clientOrderId = call.clientOrderId
      · subst own
        rw [(admissible record held).1] at terminal
        cases terminal
      · rw [lookup_apply_of_ne own]
        exact held

/-- The accounts of every state of a run are kept exactly if each of its calls comes for an
order that has not ended and each of its fills keeps the average price true. -/
theorem accounts_iff_admissible (calls : List Call) :
    (∀ earlier later, calls = earlier ++ later → Accounts earlier) ↔
      ∀ earlier call later, calls = earlier ++ call :: later →
        Admissible (afterCalls earlier) call := by
  constructor
  · intro accounts earlier call later split
    have before := accounts earlier (call :: later) split
    apply (accounts_snoc_iff before call).mp
    apply accounts _ later
    rw [split, List.append_assoc]
    rfl
  · intro admissible earlier later split
    induction earlier using List.reverseRecOn generalizing later with
    | nil => exact accounts_nil
    | append_singleton earlier call ih =>
        have whole : calls = earlier ++ call :: later := by
          rw [split, List.append_assoc]
          rfl
        exact (accounts_snoc_iff (ih (call :: later) whole) call).mpr
          (admissible earlier call later whole)

private def tenUnits : OrderIntent := { symbol := "NIFTY", side := "BUY", qty := 10 }

/-- An order for ten units that is filled with eight at 100 and then with five at 110. -/
theorem overfilled_average : ¬ ∀ (calls : List Call), Accounts calls := by
  intro accounts
  have average := (accounts [.create "a" tenUnits 0 0, .event "a" 1 (.fill 8 100),
    .event "a" 2 (.fill 5 110)]).average "a"
  have held : ∃ record, (afterCalls [.create "a" tenUnits 0 0, .event "a" 1 (.fill 8 100),
      .event "a" 2 (.fill 5 110)]).lookup "a" = some record ∧
      record.avgFillPrice * record.filledQty = 13500 / 13 := ⟨_, rfl, by decide +kernel⟩
  obtain ⟨record, found, product⟩ := held
  rw [average record found] at product
  exact absurd product (by decide +kernel)

end Algotradify.Core.OrderLifecycle
