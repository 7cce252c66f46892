/-
What a call leaves of an order that it has sent: the state of the order and the status of
its intent on every path that follows the submission.
-/

import Algotradify.Execution.PlaceOrder
import Algotradify.Orders.ReconciledOrders

namespace Algotradify.Execution

open Py Sql Orders
open Orders.Reconciliation (Healthy coerceState_value)

variable {request : PlaceRequest} {order : OrderRecord} {attempts : List Attempt}

/-! ### Moving an order -/

section Moves

variable {context : CallContext} {orderId reason : String} {next : OrderState}
variable {brokerOrderId : Option String} {engine after : Engine} {record : OrderRecord}

structure MovedOrder (context : CallContext) (orderId : String) (next : OrderState)
    (engine after : Engine) : Prop where
  healthy : Healthy context
  same : after = { engine with orders := after.orders }
  written : ∃ current written event,
    engine.orders.orderStates.select (strip orderId) = some current ∧
      next ∈ validTransitions current.state ∧ written.state = next ∧
      written.idempotencyKey = current.idempotencyKey ∧
      after.orders = engine.orders.write (strip orderId) written event

theorem moveOrder_ok
    (moved : moveOrder context orderId next reason brokerOrderId engine = .ok (record, after)) :
    MovedOrder context orderId next engine after := by
  unfold moveOrder at moved
  cases ran : transition context
      { orderId := orderId, nextState := next.value, reason := some reason
        brokerOrderId := brokerOrderId } engine.orders with
  | error raised =>
      rw [ran] at moved
      cases moved
  | ok result =>
      obtain ⟨_, db⟩ := result
      rw [ran] at moved
      cases moved
      have effect := transition_effect ran
      refine ⟨?_, rfl, ?_⟩
      · unfold transition at ran
        simp only at ran
        split at ran
        · cases ran
        obtain ⟨_, _, ran⟩ := bind_eq_ok.mp ran
        obtain ⟨_, started, ran⟩ := bind_eq_ok.mp ran
        constructor
        · unfold beginImmediate at started
          split at started
          · cases started
          · assumption
        · intro broken
          split at ran
          · cases ran
          · obtain ⟨_, _, ran⟩ := bind_eq_ok.mp ran
            obtain ⟨_, made, _⟩ := bind_eq_ok.mp ran
            obtain ⟨_, bound, _⟩ := bind_eq_ok.mp made
            unfold requireReal at bound
            rw [Option.getD_none, broken] at bound
            cases bound
      · cases effect with
        | @moved _ _ current written asked selected allowed made =>
            rw [coerceState_value] at asked
            cases asked
            obtain ⟨sameOrder, state, _⟩ := transitionRow made
            exact ⟨current, written, _, selected, allowed, state, sameOrder.idempotencyKey, rfl⟩

theorem moveOrder_returns {row : OrderRow} (stripped : strip orderId = orderId)
    (present : orderId ≠ "") (selected : engine.orders.orderStates.select orderId = some row)
    (legal : next ∈ validTransitions row.state) (healthy : Healthy context) :
    ∃ record after,
      moveOrder context orderId next reason brokerOrderId engine = .ok (record, after) := by
  have number : clampQuantity row.filledQty.value ≠ .nan := by
    unfold clampQuantity
    split
    · exact PyFloat.noConfusion
    · exact row.filledQty.isNumber
  obtain ⟨time, boundTime, _⟩ := SqlReal.exists_bind healthy.2
  obtain ⟨fill, boundFill, _⟩ := SqlReal.exists_bind number
  have ran : ∃ result, transition context
      { orderId := orderId, nextState := next.value, reason := some reason
        brokerOrderId := brokerOrderId } engine.orders = .ok result := by
    unfold transition
    simp only [stripped, if_neg present, coerceState_value, beginImmediate, healthy.1, selected]
    refine exists_ok_bind rfl ?_
    refine exists_ok_bind rfl ?_
    have valid : validateTransition row.state next = .ok () := by
      unfold validateTransition isTransitionValid
      rw [if_pos (List.contains_iff_mem.mpr legal)]
    refine exists_ok_bind valid ?_
    have made : TransitionRequest.row
        { orderId := orderId, nextState := next.value, reason := some reason
          brokerOrderId := brokerOrderId } context next row = .ok
        { row with
          state := next
          updatedAt := time
          brokerOrderId := brokerOrderId.or row.brokerOrderId
          filledQty := fill } := by
      unfold TransitionRequest.row TransitionRequest.quantity requireReal
      rw [Option.getD_none, Option.getD_none, boundTime, boundFill]
      rfl
    refine exists_ok_bind made ?_
    exact ⟨_, writeOrder_eq _ _ selected⟩
  obtain ⟨result, ran⟩ := ran
  unfold moveOrder
  rw [ran]
  exact ⟨_, _, rfl⟩

theorem MovedOrder.selected (moved : MovedOrder context orderId next engine after) :
    ∃ written, after.orders.orderStates.select (strip orderId) = some written ∧
      written.state = next := by
  obtain ⟨_, written, _, _, _, state, _, wrote⟩ := moved.written
  refine ⟨written, ?_, state⟩
  rw [wrote]
  exact Table.select_put_self _ _ _

end Moves

/-! ### Writing an intent -/

theorem upper_new : upper "NEW" = "NEW" := by decide

theorem upper_rejected : upper "REJECTED" = "REJECTED" := by decide

theorem upper_submitted : upper "SUBMITTED" = "SUBMITTED" := by decide

theorem EngineConfig.strip_digest (config : EngineConfig) (text : String) :
    strip (config.digest text) = config.digest text :=
  strip_eq_self (config.digest_solid text).2

theorem upsertIntent_ok {failure : Option String} {clientOrderId status : String}
    {row : IntentRow} {intents after : IntentTable}
    (wrote : upsertIntent failure clientOrderId row intents = .ok after)
    (own : row.status = status) (plain : upper status = status) (named : status ≠ "")
    (stripped : strip clientOrderId = clientOrderId) (present : clientOrderId ≠ "") :
    failure = none ∧ intentStatus after clientOrderId = some status := by
  unfold upsertIntent at wrote
  split at wrote
  · cases wrote
  · cases wrote
    refine ⟨rfl, ?_⟩
    unfold intentStatus
    dsimp only
    rw [stripped, if_neg present, Table.select_put_self, Option.map_some, own, plain,
      if_neg named, plain]

theorem intentOf_status {status : String} {intent : IntentRow}
    (made : intentOf request status = .ok intent) : intent.status = status := by
  unfold intentOf at made
  obtain ⟨_, _, made⟩ := bind_eq_ok.mp made
  rw [← Except.ok.inj made]

/-! ### The checks before the submission -/

/-- Every check of a call lets it through to the broker: the key and the intent can be made,
the intent is not submitted and can be written, the order is new, the risk inputs can be read
and the engine allows them, there is a broker function, the instrument is not disabled, and
the order can be moved. -/
structure PassesChecks (config : EngineConfig) (env : Environment) (request : PlaceRequest)
    (engine : Engine) : Prop where
  intent : ∃ intent, intentOf request "NEW" = .ok intent
  notSubmitted : (intentStatus engine.intents (clientOrderIdOf config request)).any
    (["SUBMITTED", "FILLED"].contains ·) = false
  stored : env.intentFailures 0 = none
  created : ∃ key order db, buildIdempotencyKey config.digest request = .ok key ∧
    createOrGetOrder (env.orderCalls 0) (creationOf request key) engine.orders =
      .ok ((order, true), db)
  allowed : ∃ risk context,
    buildPretradeRiskInputs env request (extractRequestedQty request.submitKwargs) =
      .ok (risk, context) ∧
    (Pretrade.evaluate config.pretrade engine.decisions risk context
      env.pretradeClock).allowed = true
  broker : request.submitOrderFn.isSome = true
  gate : env.instrumentDisabled = false
  sendable : Healthy (env.orderCalls 1)

structure Sent (config : EngineConfig) (env : Environment) (request : PlaceRequest)
    (engine : Engine) (sent : SentOrder) : Prop where
  passes : PassesChecks config env request engine
  key : buildIdempotencyKey config.digest request = .ok sent.idempotencyKey
  client : sent.clientOrderId = clientOrderIdOf config request
  submit : request.submitOrderFn = some sent.submit
  failures : sent.engine.failures = engine.failures
  stripped : strip sent.order.orderId = sent.order.orderId
  present : sent.order.orderId ≠ ""
  row : ∃ row, sent.engine.orders.orderStates.select sent.order.orderId = some row ∧
    row.state = .sent ∧ row.idempotencyKey = strip sent.idempotencyKey
  fresh : ∀ orderId row, engine.orders.orderStates.select orderId = some row →
    row.idempotencyKey ≠ strip sent.idempotencyKey
  kept : ∀ orderId row, engine.orders.orderStates.select orderId = some row →
    sent.engine.orders.orderStates.select orderId = some row
  intent : intentStatus sent.engine.intents sent.clientOrderId = some "NEW"
  intentRow : intentOf request "NEW" = .ok sent.intent

theorem ended_ne_inr {engine : Engine} {outcome : Except PlaceError Placement} {sent : SentOrder} :
    ended engine outcome ≠ .inr sent :=
  fun impossible => nomatch impossible

theorem rejectByRisk_ne_inr {config : EngineConfig} {env : Environment} {key : String}
    {risk : Pretrade.RiskRequest} {decision : Pretrade.RiskDecision} {engine : Engine}
    {sent : SentOrder} :
    rejectByRisk config env request key risk decision order engine ≠ .inr sent := by
  unfold rejectByRisk
  dsimp only
  split
  · exact ended_ne_inr
  · exact ended_ne_inr

theorem createOrGetOrder_created {context : CallContext} {creation : CreateRequest}
    {db after : Database}
    (created : createOrGetOrder context creation db = .ok ((order, true), after)) :
    ∃ row event, order = rowToRecord (strip creation.orderId) row ∧ row.state = .new ∧
      row.idempotencyKey = strip creation.idempotencyKey ∧ order.orderId ≠ "" ∧
      db.orderStates.select (strip creation.orderId) = none ∧
      (∀ orderId other, db.orderStates.select orderId = some other →
        other.idempotencyKey ≠ strip creation.idempotencyKey) ∧
      after = db.write (strip creation.orderId) row event := by
  have effect := createOrGetOrder_effect created
  have present : strip creation.orderId ≠ "" := by
    intro blank
    unfold createOrGetOrder at created
    rw [if_pos blank] at created
    cases created
  cases effect with
  | @created _ row made freshId freshKey =>
      obtain ⟨sameKey, state, _⟩ := createRow made
      rw [sameKey] at freshKey
      exact ⟨row, _, rfl, state, sameKey, present, freshId, freshKey, rfl⟩

theorem sendOrder_sent {config : EngineConfig} {env : Environment} {key client : String}
    {intent : IntentRow} {engine : Engine} {sent : SentOrder}
    (reached : sendOrder config env request key client intent order engine = .inr sent) :
    (∃ risk context,
      buildPretradeRiskInputs env request (extractRequestedQty request.submitKwargs) =
        .ok (risk, context) ∧
      (Pretrade.evaluate config.pretrade engine.decisions risk context
        env.pretradeClock).allowed = true) ∧
    request.submitOrderFn = some sent.submit ∧ env.instrumentDisabled = false ∧
    sent.idempotencyKey = key ∧ sent.clientOrderId = client ∧ sent.intent = intent ∧
    sent.order = order ∧ sent.engine.failures = engine.failures ∧
    sent.engine.intents = engine.intents ∧
    ∃ after, MovedOrder (env.orderCalls 1) order.orderId .sent engine after ∧
      sent.engine.orders = after.orders := by
  unfold sendOrder at reached
  cases inputs : buildPretradeRiskInputs env request
      (extractRequestedQty request.submitKwargs) with
  | error raised =>
      rw [inputs] at reached
      exact absurd reached ended_ne_inr
  | ok both =>
      obtain ⟨risk, context⟩ := both
      rw [inputs] at reached
      dsimp only at reached
      split at reached
      · exact absurd reached rejectByRisk_ne_inr
      · next allowed =>
        rw [Bool.not_eq_true, Bool.not_eq_false'] at allowed
        split at reached
        · exact absurd reached ended_ne_inr
        · next submit given =>
          split at reached
          · split at reached
            · exact absurd reached ended_ne_inr
            · exact absurd reached ended_ne_inr
          · next enabled =>
            split at reached
            · exact absurd reached ended_ne_inr
            · next _ moved ran =>
              cases reached
              have done := moveOrder_ok ran
              have failures : moved.failures = engine.failures := by rw [done.same]
              have intents : moved.intents = engine.intents := by rw [done.same]
              exact ⟨⟨risk, context, rfl, allowed⟩, given, Bool.eq_false_iff.mpr enabled, rfl,
                rfl, rfl, rfl, failures, intents, moved, done, rfl⟩

theorem clientOrderIdOf_solid (config : EngineConfig) (request : PlaceRequest) :
    strip (clientOrderIdOf config request) = clientOrderIdOf config request ∧
      clientOrderIdOf config request ≠ "" :=
  ⟨config.strip_digest _, (config.digest_solid _).1⟩

theorem beforeSubmit_sent {config : EngineConfig} {env : Environment} {engine : Engine}
    {sent : SentOrder} (reached : beforeSubmit config env request engine = .inr sent) :
    Sent config env request engine sent := by
  unfold beforeSubmit at reached
  cases keyed : buildIdempotencyKey config.digest request with
  | error raised =>
      rw [keyed] at reached
      exact absurd reached ended_ne_inr
  | ok key =>
      rw [keyed] at reached
      dsimp only at reached
      split at reached
      · exact absurd reached ended_ne_inr
      next notSubmitted =>
      rw [Bool.not_eq_true] at notSubmitted
      cases made : intentOf request "NEW" with
      | error raised =>
          rw [made] at reached
          exact absurd reached ended_ne_inr
      | ok intent =>
          rw [made] at reached
          dsimp only at reached
          cases wrote : upsertIntent (env.intentFailures 0) (clientOrderIdOf config request) intent
              engine.intents with
          | error raised =>
              rw [wrote] at reached
              exact absurd reached ended_ne_inr
          | ok intents =>
              rw [wrote] at reached
              dsimp only at reached
              cases creation : createOrGetOrder (env.orderCalls 0) (creationOf request key)
                  engine.orders with
              | error raised =>
                  rw [creation] at reached
                  exact absurd reached ended_ne_inr
              | ok result =>
                  obtain ⟨⟨order, created⟩, db⟩ := result
                  rw [creation] at reached
                  dsimp only at reached
                  cases created with
                  | false => exact absurd reached ended_ne_inr
                  | true =>
                      rw [Bool.not_true, if_neg Bool.false_ne_true] at reached
                      obtain ⟨allowed, given, gate, sameKey, sameClient, sameIntent, sameOrder,
                        failures, sameIntents, after, moved, orders⟩ := sendOrder_sent reached
                      obtain ⟨row, event, own, state, ownKey, present, freshId, freshKey, wroteDb⟩ :=
                        createOrGetOrder_created creation
                      obtain ⟨solid, named⟩ := clientOrderIdOf_solid config request
                      have status := intentOf_status made
                      obtain ⟨stored, new⟩ := upsertIntent_ok wrote status upper_new (by decide)
                        solid named
                      have stripped : strip order.orderId = order.orderId := by
                        rw [own]
                        exact strip_strip _
                      have selected : db.orderStates.select order.orderId = some row := by
                        rw [own, wroteDb]
                        exact Table.select_put_self _ _ _
                      have others : ∀ other, other ≠ order.orderId →
                          db.orderStates.select other = engine.orders.orderStates.select other := by
                        intro other different
                        rw [own] at different
                        rw [wroteDb]
                        exact Table.select_put_of_ne _ _ different
                      obtain ⟨current, written, _, found, _, sentState, sentKey, wroteSent⟩ :=
                        moved.written
                      rw [stripped] at found wroteSent
                      cases selected.symm.trans found
                      refine
                        { passes := ⟨⟨intent, made⟩, notSubmitted, stored, ⟨key, order, db, keyed,
                            creation⟩, allowed, by rw [given]; rfl, gate, moved.healthy⟩
                          key := sameKey ▸ keyed
                          client := sameClient
                          submit := given
                          failures := failures
                          stripped := by rw [sameOrder, stripped]
                          present := by rw [sameOrder]; exact present
                          row := ?_
                          fresh := by rw [sameKey]; exact freshKey
                          kept := ?_
                          intent := by rw [sameIntents, sameClient, new]
                          intentRow := by rw [sameIntent]; exact made }
                      · refine ⟨written, ?_, sentState, ?_⟩
                        · rw [sameOrder, orders, wroteSent]
                          exact Table.select_put_self _ _ _
                        · rw [sentKey, ownKey, sameKey]
                          rfl
                      · intro other stored known
                        have different : other ≠ order.orderId := by
                          rintro rfl
                          rw [own] at known
                          cases freshId.symm.trans known
                        rw [orders, wroteSent]
                        refine (Table.select_put_of_ne _ _ different).trans ?_
                        rw [others other different]
                        exact known

theorem beforeSubmit_reaches {config : EngineConfig} {env : Environment} {engine : Engine}
    (passes : PassesChecks config env request engine) :
    ∃ sent, beforeSubmit config env request engine = .inr sent := by
  obtain ⟨intent, made⟩ := passes.intent
  obtain ⟨key, order, db, keyed, creation⟩ := passes.created
  obtain ⟨risk, context, inputs, allowed⟩ := passes.allowed
  obtain ⟨submit, given⟩ := Option.isSome_iff_exists.mp passes.broker
  obtain ⟨row, event, own, state, _, present, _, _, wrote⟩ := createOrGetOrder_created creation
  unfold beforeSubmit
  rw [keyed]
  dsimp only
  rw [passes.notSubmitted, if_neg Bool.false_ne_true, made, passes.stored]
  dsimp only [upsertIntent]
  rw [creation]
  dsimp only
  rw [Bool.not_true, if_neg Bool.false_ne_true]
  unfold sendOrder
  rw [inputs]
  dsimp only
  rw [allowed, Bool.not_true, if_neg Bool.false_ne_true, given]
  dsimp only
  rw [passes.gate, if_neg Bool.false_ne_true]
  have selected : db.orderStates.select order.orderId = some row := by
    rw [own, wrote]
    exact Table.select_put_self _ _ _
  have stripped : strip order.orderId = order.orderId := by
    rw [own]
    exact strip_strip _
  have legal : OrderState.sent ∈ validTransitions row.state := by
    rw [state]
    decide
  obtain ⟨_, _, moved⟩ := @moveOrder_returns (env.orderCalls 1) order.orderId "order_sent" .sent
    request.brokerOrderId { engine with intents := _, orders := db } row stripped present selected
    legal passes.sendable
  rw [moved]
  exact ⟨_, rfl⟩

theorem reaches_iff {config : EngineConfig} {env : Environment} {engine : Engine} :
    (∃ sent, beforeSubmit config env request engine = .inr sent) ↔
      PassesChecks config env request engine :=
  ⟨fun reached => (beforeSubmit_sent reached.choose_spec).passes, beforeSubmit_reaches⟩

/-! ### Settling a sent order -/

def Agrees (sent : SentOrder) (accepted : Bool) (engine : Engine) : Prop :=
  (∃ row, engine.orders.orderStates.select sent.order.orderId = some row ∧
    row.state = if accepted then .acknowledged else .rejected) ∧
  intentStatus engine.intents sent.clientOrderId =
    some (if accepted then "SUBMITTED" else "REJECTED")

structure Unsettled (sent : SentOrder) (engine : Engine) : Prop where
  stripped : strip sent.order.orderId = sent.order.orderId
  present : sent.order.orderId ≠ ""
  row : ∃ row, engine.orders.orderStates.select sent.order.orderId = some row ∧ row.state = .sent
  solid : strip sent.clientOrderId = sent.clientOrderId
  named : sent.clientOrderId ≠ ""
  intent : intentStatus engine.intents sent.clientOrderId = some "NEW"

theorem Sent.unsettled {config : EngineConfig} {env : Environment} {engine : Engine}
    {sent : SentOrder} (spec : Sent config env request engine sent) (failures : FailureState) :
    Unsettled sent { sent.engine with failures := failures } := by
  obtain ⟨row, selected, state, _⟩ := spec.row
  obtain ⟨solid, named⟩ := clientOrderIdOf_solid config request
  rw [← spec.client] at solid named
  exact ⟨spec.stripped, spec.present, ⟨row, selected, state⟩, solid, named, spec.intent⟩

section Settling

variable {env : Environment} {sent : SentOrder} {engine after : Engine} {status : String}

theorem not_agrees_of_sent (accepted : Bool)
    (sentRow : ∃ row, engine.orders.orderStates.select sent.order.orderId = some row ∧
      row.state = .sent) : ¬Agrees sent accepted engine := by
  rintro ⟨⟨row, selected, state⟩, _⟩
  obtain ⟨other, found, still⟩ := sentRow
  cases selected.symm.trans found
  rw [still] at state
  cases accepted with
  | true => cases state
  | false => cases state

theorem writeIntent_ok (wrote : writeIntent env sent status engine = .ok after)
    (plain : upper status = status) (written : status ≠ "")
    (solid : strip sent.clientOrderId = sent.clientOrderId) (named : sent.clientOrderId ≠ "") :
    env.intentFailures 1 = none ∧ after = { engine with intents := after.intents } ∧
      intentStatus after.intents sent.clientOrderId = some status := by
  unfold writeIntent at wrote
  cases stored : upsertIntent (env.intentFailures 1) sent.clientOrderId
      { sent.intent with status := status } engine.intents with
  | error raised =>
      rw [stored] at wrote
      cases wrote
  | ok intents =>
      rw [stored] at wrote
      cases wrote
      obtain ⟨works, reads⟩ := upsertIntent_ok stored rfl plain written solid named
      exact ⟨works, rfl, reads⟩

theorem writeIntent_returns (status : String) (works : env.intentFailures 1 = none) :
    ∃ after, writeIntent env sent status engine = .ok after := by
  unfold writeIntent
  rw [works]
  exact ⟨_, rfl⟩

theorem agrees_of_moved {context : CallContext} {next : OrderState} {accepted : Bool}
    (stripped : strip sent.order.orderId = sent.order.orderId)
    (target : next = if accepted then .acknowledged else .rejected)
    (intent : intentStatus after.intents sent.clientOrderId =
      some (if accepted then "SUBMITTED" else "REJECTED"))
    (moved : MovedOrder context sent.order.orderId next engine after) :
    Agrees sent accepted after := by
  obtain ⟨row, selected, state⟩ := moved.selected
  rw [stripped] at selected
  exact ⟨⟨row, selected, state.trans target⟩, intent⟩

def leftBy (before : Engine) : Except OrderError (OrderRecord × Engine) → Engine
  | .ok (_, after) => after
  | .error _ => before

theorem rejectOrder_agrees_iff {context : CallContext} {reason : String}
    {brokerOrderId : Option String} (unsettled : Unsettled sent engine)
    (reads : intentStatus after.intents sent.clientOrderId = some "REJECTED")
    (orders : after.orders = engine.orders) :
    Agrees sent false (leftBy after
      (moveOrder context sent.order.orderId .rejected reason brokerOrderId after)) ↔
        Healthy context := by
  obtain ⟨row, selected, state⟩ := unsettled.row
  rw [← orders] at selected
  cases moved : moveOrder context sent.order.orderId .rejected reason brokerOrderId after with
  | error raised =>
      constructor
      · intro agrees
        exact absurd agrees (not_agrees_of_sent false ⟨row, selected, state⟩)
      · intro healthy
        obtain ⟨_, _, returned⟩ := @moveOrder_returns context sent.order.orderId reason .rejected
          brokerOrderId after row unsettled.stripped unsettled.present selected
          (by rw [state]; decide) healthy
        cases moved.symm.trans returned
  | ok done =>
      obtain ⟨record, final⟩ := done
      have spec := moveOrder_ok moved
      have same : final.intents = after.intents := by rw [spec.same]
      rw [← same] at reads
      exact iff_of_true (agrees_of_moved unsettled.stripped rfl reads spec) spec.healthy

theorem settleError_agrees_iff {raised : Raised} (unsettled : Unsettled sent engine) :
    Agrees sent false (settleError env sent raised engine attempts).engine ↔
      env.intentFailures 1 = none ∧ raised.isKillSwitch = false ∧ Healthy (env.orderCalls 2) := by
  cases wrote : writeIntent env sent "REJECTED" engine with
  | error storage =>
      have left : (settleError env sent raised engine attempts).engine = engine := by
        unfold settleError
        rw [wrote]
        rfl
      rw [left]
      refine iff_of_false (not_agrees_of_sent false unsettled.row) ?_
      rintro ⟨works, _⟩
      obtain ⟨_, returned⟩ := @writeIntent_returns env sent engine "REJECTED" works
      cases wrote.symm.trans returned
  | ok written =>
      obtain ⟨works, same, reads⟩ := writeIntent_ok wrote upper_rejected (by decide)
        unsettled.solid unsettled.named
      have orders : written.orders = engine.orders := by rw [same]
      cases kill : raised.isKillSwitch with
      | true =>
          have left : (settleError env sent raised engine attempts).engine = written := by
            unfold settleError
            rw [wrote]
            dsimp only
            rw [kill, if_pos rfl]
            rfl
          rw [left]
          refine iff_of_false (not_agrees_of_sent false ?_) fun impossible => nomatch impossible.2.1
          rw [orders]
          exact unsettled.row
      | false =>
          have left : (settleError env sent raised engine attempts).engine = leftBy written
              (moveOrder (env.orderCalls 2) sent.order.orderId .rejected
                ("submit_error:" ++ raised.typeName) none written) := by
            unfold settleError
            rw [wrote]
            dsimp only
            rw [kill, if_neg Bool.false_ne_true]
            split
            · next moved =>
              rw [moved]
              rfl
            · next moved =>
              rw [moved]
              rfl
          rw [left, rejectOrder_agrees_iff unsettled reads orders]
          constructor
          · intro healthy
            exact ⟨works, rfl, healthy⟩
          · intro all
            exact all.2.2

theorem settleReject_agrees_iff {config : EngineConfig} {response : PyValue}
    (unsettled : Unsettled sent engine) :
    Agrees sent false
        (settleReject config env request sent response engine attempts).engine ↔
      env.intentFailures 1 = none ∧
        (engine.failures.count config.failure .brokerReject
          (env.failureClock (attempts.length - 1))).killReason config.failure = none ∧
        Healthy (env.orderCalls 2) := by
  cases wrote : writeIntent env sent "REJECTED" engine with
  | error storage =>
      have left : (settleReject config env request sent response engine attempts).engine =
          engine := by
        unfold settleReject
        rw [wrote]
        rfl
      rw [left]
      refine iff_of_false (not_agrees_of_sent false unsettled.row) ?_
      rintro ⟨works, _⟩
      obtain ⟨_, returned⟩ := @writeIntent_returns env sent engine "REJECTED" works
      cases wrote.symm.trans returned
  | ok written =>
      obtain ⟨works, same, reads⟩ := writeIntent_ok wrote upper_rejected (by decide)
        unsettled.solid unsettled.named
      have orders : written.orders = engine.orders := by rw [same]
      have failures : written.failures = engine.failures := by rw [same]
      unfold settleReject registerFailure
      rw [wrote]
      dsimp only
      rw [failures]
      cases spent : (engine.failures.count config.failure .brokerReject
          (env.failureClock (attempts.length - 1))).killReason config.failure with
      | some reason =>
          refine iff_of_false (not_agrees_of_sent false ?_) fun impossible => nomatch impossible.2.1
          change ∃ row, written.orders.orderStates.select sent.order.orderId = some row ∧ _
          rw [orders]
          exact unsettled.row
      | none =>
          dsimp only
          generalize counted : Engine.mk written.orders written.intents written.decisions _ = after
          have afterOrders : after.orders = engine.orders := by rw [← counted, orders]
          have afterReads : intentStatus after.intents sent.clientOrderId = some "REJECTED" := by
            rw [← counted]
            exact reads
          have settled := @rejectOrder_agrees_iff sent engine after (env.orderCalls 2)
            "broker_rejected" (brokerIdOf request response) unsettled afterReads afterOrders
          refine Iff.trans ?_ (settled.trans ?_)
          · cases moveOrder (env.orderCalls 2) sent.order.orderId OrderState.rejected
              "broker_rejected" (brokerIdOf request response) after with
            | error storage => exact Iff.rfl
            | ok done => exact Iff.rfl
          constructor
          · intro healthy
            exact ⟨works, rfl, healthy⟩
          · intro all
            exact all.2.2

theorem settleAccept_agrees_iff {response : PyValue} (unsettled : Unsettled sent engine) :
    Agrees sent true (settleAccept env request sent response engine attempts).engine ↔
      env.intentFailures 1 = none ∧ Healthy (env.orderCalls 2) := by
  obtain ⟨row, selected, state⟩ := unsettled.row
  unfold settleAccept
  cases moved : moveOrder (env.orderCalls 2) sent.order.orderId .acknowledged
      "broker_acknowledged" (brokerIdOf request response) engine with
  | error storage =>
      refine iff_of_false (not_agrees_of_sent true unsettled.row) ?_
      rintro ⟨_, healthy⟩
      obtain ⟨_, _, returned⟩ := @moveOrder_returns (env.orderCalls 2) sent.order.orderId
        "broker_acknowledged" .acknowledged (brokerIdOf request response) engine row
        unsettled.stripped unsettled.present selected (by rw [state]; decide) healthy
      cases moved.symm.trans returned
  | ok done =>
      obtain ⟨record, acknowledged⟩ := done
      have spec := moveOrder_ok moved
      have intents : acknowledged.intents = engine.intents := by rw [spec.same]
      dsimp only
      cases wrote : writeIntent env sent "SUBMITTED" acknowledged with
      | error storage =>
          constructor
          · rintro ⟨_, intent⟩
            change intentStatus acknowledged.intents sent.clientOrderId = _ at intent
            rw [intents, unsettled.intent] at intent
            exact absurd (Option.some.inj intent) (by decide)
          · rintro ⟨works, _⟩
            obtain ⟨_, returned⟩ := @writeIntent_returns env sent acknowledged "SUBMITTED" works
            cases wrote.symm.trans returned
      | ok final =>
          obtain ⟨works, same, reads⟩ := writeIntent_ok wrote upper_submitted (by decide)
            unsettled.solid unsettled.named
          refine iff_of_true ⟨?_, reads⟩ ⟨works, spec.healthy⟩
          obtain ⟨written, found, target⟩ := spec.selected
          rw [unsettled.stripped] at found
          change ∃ row, final.orders.orderStates.select sent.order.orderId = some row ∧ _
          rw [same]
          exact ⟨written, found, target⟩

end Settling

/-! ### Every path after the submission -/

def SentOrder.accepted (config : EngineConfig) (env : Environment) (sent : SentOrder) : Bool :=
  match (sent.submission config env).outcome with
  | .ok response => !explicitReject response
  | .error _ => false

def RaisesKillSwitch (config : FailureConfig) (submit : ℕ → Attempt) (clock : ℕ → PyFloat)
    (failures : FailureState) : Prop :=
  ∃ last, Due config submit clock failures last ∧
    (((submit last).isRaise = true ∧
        (failuresAfter config clock failures (last + 1)).killReason config ≠ none) ∨
      (∃ accepted error, submit last = .raises accepted error ∧
        last + 1 = config.networkRetryMaxAttempts ∧ error.isKillSwitch = true) ∨
      ∃ accepted response, submit last = .returns accepted response ∧
        explicitReject response = true ∧
        ((failuresAfter config clock failures last).count config .brokerReject
          (clock last)).killReason config ≠ none)

theorem containsText_append (before part after : String) :
    containsText (before ++ part ++ after) part = true := by
  unfold containsText
  rw [String.toList_append, String.toList_append, List.append_assoc, List.any_eq_true]
  refine ⟨part.toList ++ after.toList, ?_, List.isPrefixOf_iff_prefix.mpr ⟨_, rfl⟩⟩
  exact (List.mem_tails _ _).mpr ⟨_, rfl⟩

theorem isKillSwitch_killSwitchError (reason : String) :
    (killSwitchError reason).isKillSwitch = true := by
  unfold Raised.isKillSwitch killSwitchError
  rw [Bool.true_and, String.append_assoc, String.append_assoc]
  exact containsText_append "❌ " killSwitchMarker _

def Final (config : FailureConfig) (submit : ℕ → Attempt) (clock : ℕ → PyFloat)
    (failures : FailureState) (index : ℕ) : Prop :=
  (submit index).isRaise = false ∨
    (failuresAfter config clock failures (index + 1)).killReason config ≠ none ∨
    index + 1 = config.networkRetryMaxAttempts

section Last

variable {config : FailureConfig} {submit : ℕ → Attempt} {clock : ℕ → PyFloat}
variable {failures : FailureState} {first second : ℕ}

theorem Final.le (final : Final config submit clock failures first)
    (due : Due config submit clock failures second) : second ≤ first := by
  by_contra later
  obtain ⟨raised, within⟩ := due.2 first (not_le.mp later)
  have below := due.1
  rcases final with returned | spent | exhausted
  · rw [raised] at returned
    cases returned
  · exact spent within
  · omega

theorem Final.unique (left : Final config submit clock failures first)
    (dueFirst : Due config submit clock failures first)
    (right : Final config submit clock failures second)
    (dueSecond : Due config submit clock failures second) : first = second :=
  le_antisymm (right.le dueFirst) (left.le dueSecond)

theorem Ending.final {outcome : Except Raised PyValue} {left : FailureState}
    (ending : Ending config submit clock failures first outcome left) :
    Final config submit clock failures first := by
  cases ending with
  | returned here => exact Or.inl (by rw [here]; rfl)
  | killed _ spent => exact Or.inr (Or.inl (by rw [spent]; exact Option.some_ne_none _))
  | exhausted _ _ none_left => exact Or.inr (Or.inr none_left)

theorem raisesKillSwitch_iff (due : Due config submit clock failures first)
    (final : Final config submit clock failures first) :
    RaisesKillSwitch config submit clock failures ↔
      (((submit first).isRaise = true ∧
          (failuresAfter config clock failures (first + 1)).killReason config ≠ none) ∨
        (∃ accepted error, submit first = .raises accepted error ∧
          first + 1 = config.networkRetryMaxAttempts ∧ error.isKillSwitch = true) ∨
        ∃ accepted response, submit first = .returns accepted response ∧
          explicitReject response = true ∧
          ((failuresAfter config clock failures first).count config .brokerReject
            (clock first)).killReason config ≠ none) := by
  constructor
  · rintro ⟨last, dueLast, ways⟩
    have finalLast : Final config submit clock failures last := by
      rcases ways with ⟨_, spent⟩ | ⟨_, _, _, exhausted, _⟩ | ⟨_, _, returned, _⟩
      · exact Or.inr (Or.inl spent)
      · exact Or.inr (Or.inr exhausted)
      · exact Or.inl (by rw [returned]; rfl)
    rw [final.unique due finalLast dueLast]
    exact ways
  · intro ways
    exact ⟨first, due, ways⟩

end Last

/-- Once an order was sent, its state and its intent agree with the outcome exactly when the
two writes that settle them succeed and the call raises no kill switch. -/
theorem stores_agree_iff {config : EngineConfig} {env : Environment} {request : PlaceRequest}
    {engine : Engine} {sent : SentOrder}
    (reached : beforeSubmit config env request engine = .inr sent) :
    Agrees sent (sent.accepted config env) (placeOrder config env request engine).engine ↔
      env.intentFailures 1 = none ∧ Healthy (env.orderCalls 2) ∧
        ¬RaisesKillSwitch config.failure sent.submit env.failureClock engine.failures := by
  have spec := beforeSubmit_sent reached
  have run : placeOrder config env request engine = submitOrder config env request sent := by
    unfold placeOrder
    rw [reached]
  have unsettled := spec.unsettled (sent.submission config env).failures
  obtain ⟨last, attempts, due, ending⟩ := executeWithNetworkRetry_ends config.failure sent.submit
    env.failureClock sent.engine.failures
  change (sent.submission config env).attempts = _ at attempts
  change Ending _ _ _ _ _ (sent.submission config env).outcome
    (sent.submission config env).failures at ending
  have final := ending.final
  rw [run, ← spec.failures, raisesKillSwitch_iff due final]
  unfold submitOrder SentOrder.accepted
  generalize sent.submission config env = loop at attempts ending unsettled ⊢
  obtain ⟨outcome, failures, made⟩ := loop
  dsimp only at attempts ending unsettled ⊢
  cases ending with
  | @returned accepted response here =>
      rw [here]
      dsimp only
      cases rejects : explicitReject response with
      | true =>
          rw [if_pos rfl, Bool.not_true, settleReject_agrees_iff unsettled, attempts,
            List.length_map, List.length_range, Nat.add_sub_cancel]
          constructor
          · rintro ⟨works, within, healthy⟩
            refine ⟨works, healthy, ?_⟩
            rintro (⟨raised, _⟩ | ⟨_, _, raised, _⟩ | ⟨_, _, _, _, spent⟩)
            · cases raised
            · cases raised
            · exact spent within
          · rintro ⟨works, healthy, quiet⟩
            refine ⟨works, ?_, healthy⟩
            by_contra spent
            exact quiet (Or.inr (Or.inr ⟨accepted, response, rfl, rejects, spent⟩))
      | false =>
          rw [if_neg Bool.false_ne_true, Bool.not_false, settleAccept_agrees_iff unsettled]
          constructor
          · rintro ⟨works, healthy⟩
            refine ⟨works, healthy, ?_⟩
            rintro (⟨raised, _⟩ | ⟨_, _, raised, _⟩ | ⟨_, _, same, rejected, _⟩)
            · cases raised
            · cases raised
            · cases same
              rw [rejects] at rejected
              cases rejected
          · rintro ⟨works, healthy, _⟩
            exact ⟨works, healthy⟩
  | @killed reason raised spent =>
      have overThreshold : (failuresAfter config.failure env.failureClock sent.engine.failures
          (last + 1)).killReason config.failure ≠ none := by
        rw [spent]
        exact Option.some_ne_none reason
      dsimp only
      rw [settleError_agrees_iff unsettled]
      constructor
      · rintro ⟨_, quiet, _⟩
        rw [isKillSwitch_killSwitchError] at quiet
        cases quiet
      · rintro ⟨_, _, quiet⟩
        exact absurd (Or.inl ⟨raised, overThreshold⟩) quiet
  | @exhausted accepted error here within none_left =>
      dsimp only
      rw [settleError_agrees_iff unsettled, here]
      constructor
      · rintro ⟨works, quiet, healthy⟩
        refine ⟨works, healthy, ?_⟩
        rintro (⟨_, spent⟩ | ⟨_, _, same, _, marked⟩ | ⟨_, _, returned, _⟩)
        · exact spent within
        · cases same
          rw [quiet] at marked
          cases marked
        · cases returned
      · rintro ⟨works, healthy, quiet⟩
        refine ⟨works, ?_, healthy⟩
        by_contra marked
        rw [Bool.not_eq_false] at marked
        exact quiet (Or.inr (Or.inl ⟨accepted, error, rfl, none_left, marked⟩))

/-- A stand-in for the hash: a letter and the text without its white space. -/
def solidText (text : String) : String :=
  String.ofList ('h' :: text.toList.filter fun char => !isSpace char)

theorem solidText_solid (text : String) :
    solidText text ≠ "" ∧ ∀ char ∈ (solidText text).toList, isSpace char = false := by
  unfold solidText
  constructor
  · intro empty
    have letters := congrArg String.toList empty
    rw [String.toList_ofList] at letters
    cases letters
  · intro char member
    rw [String.toList_ofList] at member
    rcases List.mem_cons.mp member with rfl | kept
    · rfl
    · exact (Bool.not_eq_true' _).mp (List.mem_filter.mp kept).2

def plainConfig : EngineConfig :=
  { digest := solidText
    digest_solid := solidText_solid
    failure := { attempts_positive := standardAttempts_positive }
    pretrade :=
      { rate_positive := Pretrade.standardRate_positive
        window_nonneg := Pretrade.standardWindow_nonneg } }

def calmAt (time : ℚ) : Environment :=
  { orderCalls := fun _ => ⟨.finite time, none⟩
    intentFailures := fun _ => none
    now := .finite time
    pretradeClock := .finite time
    decisionRecord := ⟨.finite time, none⟩
    failureClock := fun index => .finite (time + index)
    instrumentDisabled := false }

def buyRequest (signalId instrument : String) (submit : ℕ → Attempt) : PlaceRequest :=
  { signalId := .str signalId
    instrument := .str instrument
    side := .str "BUY"
    timestamp := .int 1
    orderId := some signalId
    submitOrderFn := some submit }

def accepting : ℕ → Attempt :=
  fun _ => .returns true (.dict [("status", .str "OPEN")])

def unreachable : ℕ → Attempt :=
  fun _ => .raises false ⟨"ConnectionError", false, "timed out"⟩

/-- An accepted order is acknowledged and its intent submitted. -/
theorem stores_agree_accepted :
    ∃ sent, beforeSubmit plainConfig (calmAt 1) (buyRequest "s1" "NIFTY" accepting) .start =
        .inr sent ∧
      Agrees sent true
        (placeOrder plainConfig (calmAt 1) (buyRequest "s1" "NIFTY" accepting) .start).engine := by
  have reaches : (beforeSubmit plainConfig (calmAt 1) (buyRequest "s1" "NIFTY" accepting)
      .start).isRight = true := by
    decide +kernel
  obtain ⟨sent, reached⟩ := Sum.isRight_iff.mp reaches
  have submits : sent.submit = accepting :=
    (Option.some.inj (beforeSubmit_sent reached).submit).symm
  have accepted : sent.accepted plainConfig (calmAt 1) = true := by
    unfold SentOrder.accepted SentOrder.submission
    rw [submits, (beforeSubmit_sent reached).failures]
    decide
  have agrees := stores_agree_iff reached
  rw [accepted] at agrees
  refine ⟨sent, reached, agrees.mpr ⟨rfl, ⟨rfl, PyFloat.noConfusion⟩, ?_⟩⟩
  rw [submits]
  rintro ⟨last, _, ⟨raised, _⟩ | ⟨_, _, raised, _⟩ | ⟨_, _, returned, rejected, _⟩⟩
  · cases raised
  · cases raised
  · cases returned
    cases rejected

/-- After three failed attempts for one order, the first failure of the next one triggers the
kill switch: its intent is rejected, and the order stays sent. -/
theorem killed_order_stays_sent :
    let first := placeOrder plainConfig (calmAt 1) (buyRequest "s1" "NIFTY" unreachable) .start
    let second := placeOrder plainConfig (calmAt 10) (buyRequest "s2" "SENSEX" unreachable)
      first.engine
    second.attempts.length = 1 ∧ second.engine.failures.killSwitchTriggered = true ∧
      (second.engine.orders.orderStates.select "s2").map OrderRow.state = some .sent ∧
      intentStatus second.engine.intents
        (clientOrderIdOf plainConfig (buyRequest "s2" "SENSEX" unreachable)) = some "REJECTED" := by
  decide +kernel

end Algotradify.Execution
