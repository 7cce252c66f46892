/-
What a placement does to the state of an engine, as single writes: to the failure counters,
the decisions, its own intent and the orders.
-/

import Algotradify.Execution.SentOrders
import Mathlib.Logic.Relation

namespace Algotradify.Execution

open Py Sql Orders Relation

/-- One write of a placement. Orders are created under its own key, and its own intent is
written only. -/
inductive EngineEffect (config : EngineConfig) (request : PlaceRequest) (before : Engine) :
    Engine → Prop
  | failures {failures : FailureState}
      (latch : before.failures.killSwitchTriggered = true → failures.killSwitchTriggered = true) :
      EngineEffect config request before { before with failures := failures }
  | decisions (decisions : Pretrade.Store) :
      EngineEffect config request before { before with decisions := decisions }
  | intent (row : IntentRow) :
      EngineEffect config request before
        { before with intents := before.intents.put (clientOrderIdOf config request) row }
  | created {key : String} {context : CallContext} {reply : Reply} {db : Database}
      (keyed : buildIdempotencyKey config.digest request = .ok key)
      (effect : Effect context before.orders (.create (creationOf request key)) reply db) :
      EngineEffect config request before { before with orders := db }
  | moved {move : TransitionRequest} {context : CallContext} {reply : Reply} {db : Database}
      (effect : Effect context before.orders (.transition move) reply db) :
      EngineEffect config request before { before with orders := db }

abbrev Effects (config : EngineConfig) (request : PlaceRequest) : Engine → Engine → Prop :=
  ReflTransGen (EngineEffect config request)

section Effects

variable {config : EngineConfig} {env : Environment} {request : PlaceRequest}
variable {engine after : Engine} {sent : SentOrder}

theorem moveOrder_effects {context : CallContext} {orderId reason : String} {next : OrderState}
    {brokerOrderId : Option String} {record : OrderRecord}
    (moved : moveOrder context orderId next reason brokerOrderId engine = .ok (record, after)) :
    Effects config request engine after := by
  unfold moveOrder at moved
  cases ran : transition context
      { orderId := orderId, nextState := next.value, reason := some reason
        brokerOrderId := brokerOrderId } engine.orders with
  | error raised =>
      rw [ran] at moved
      cases moved
  | ok result =>
      obtain ⟨_, db⟩ := result
      rw [ran] at moved
      cases moved
      exact .single (.moved (transition_effect ran))

theorem upsertIntent_effects {failure : Option String} {row : IntentRow} {intents : IntentTable}
    (wrote : upsertIntent failure (clientOrderIdOf config request) row engine.intents =
      .ok intents) : Effects config request engine { engine with intents := intents } := by
  unfold upsertIntent at wrote
  split at wrote
  · cases wrote
  · cases wrote
    rw [(clientOrderIdOf_solid config request).1]
    exact .single (.intent _)

theorem writeIntent_effects {status : String}
    (client : sent.clientOrderId = clientOrderIdOf config request)
    (wrote : writeIntent env sent status engine = .ok after) :
    Effects config request engine after := by
  unfold writeIntent at wrote
  rw [client] at wrote
  cases stored : upsertIntent (env.intentFailures 1) (clientOrderIdOf config request)
      { sent.intent with status := status } engine.intents with
  | error raised =>
      rw [stored] at wrote
      cases wrote
  | ok intents =>
      rw [stored] at wrote
      cases wrote
      exact upsertIntent_effects stored

theorem register_effects (failure : FailureType) (now : PyFloat) :
    Effects config request engine
      { engine with failures := (registerFailure config.failure failure now engine.failures).1 } :=
  .single (.failures (registerFailure_latches config.failure failure now))

theorem recordQuietly_effects (context : CallContext) (risk : Pretrade.RiskRequest)
    (accepted : Bool) (reasonCode orderId : String) :
    Effects config request engine
      (recordQuietly context risk accepted reasonCode orderId engine) :=
  .single (.decisions _)

def engineOf : Stopped ⊕ SentOrder → Engine
  | .inl stopped => stopped.engine
  | .inr sent => sent.engine

theorem rejectByRisk_effects (key : String) (risk : Pretrade.RiskRequest)
    (decision : Pretrade.RiskDecision) (order : OrderRecord) :
    Effects config request engine
      (engineOf (rejectByRisk config env request key risk decision order engine)) := by
  have counted : Effects config request engine _ :=
    (recordQuietly_effects env.decisionRecord risk false decision.reasonCode order.orderId).trans
      (register_effects .riskLimit (env.failureClock 0))
  unfold rejectByRisk
  dsimp only
  split
  · exact counted
  · next moved => exact counted.trans (moveOrder_effects moved)

theorem sendOrder_effects (key client : String) (intent : IntentRow) (order : OrderRecord) :
    Effects config request engine
      (engineOf (sendOrder config env request key client intent order engine)) := by
  unfold sendOrder
  split
  · exact .refl
  · dsimp only
    split
    · exact rejectByRisk_effects _ _ _ _
    · split
      · exact .refl
      · split
        · split
          · exact .refl
          · next moved => exact moveOrder_effects moved
        · split
          · exact .refl
          · next moved =>
            exact (moveOrder_effects moved).trans (recordQuietly_effects _ _ _ _ _)

theorem beforeSubmit_effects :
    Effects config request engine (engineOf (beforeSubmit config env request engine)) := by
  unfold beforeSubmit
  split
  · exact .refl
  · next keyed =>
    dsimp only
    split
    · exact .refl
    · split
      · exact .refl
      · split
        · exact .refl
        · next wrote =>
          have stored : Effects config request engine _ := upsertIntent_effects wrote
          split
          · exact stored
          · next creation =>
            have known := stored.tail (.created keyed (createOrGetOrder_effect creation))
            split
            · exact known
            · exact known.trans (sendOrder_effects _ _ _ _)

theorem submitOrder_effects (client : sent.clientOrderId = clientOrderIdOf config request) :
    Effects config request sent.engine (submitOrder config env request sent).engine := by
  have looped : Effects config request sent.engine
      { sent.engine with failures := (sent.submission config env).failures } :=
    .single (.failures (retryLoop_latches config.failure sent.submit env.failureClock _ 0))
  unfold submitOrder
  dsimp only
  split
  · refine looped.trans ?_
    unfold settleError
    split
    · exact .refl
    · next wrote =>
      have written : Effects config request _ _ := writeIntent_effects client wrote
      split
      · exact written
      · split
        · exact written
        · next moved => exact written.trans (moveOrder_effects moved)
  · split
    · refine looped.trans ?_
      unfold settleReject
      split
      · exact .refl
      · next wrote =>
        have counted : Effects config request _ _ :=
          (writeIntent_effects client wrote).trans (register_effects .brokerReject
            (env.failureClock ((sent.submission config env).attempts.length - 1)))
        dsimp only
        split
        · exact counted
        · split
          · exact counted
          · next moved => exact counted.trans (moveOrder_effects moved)
    · refine looped.trans ?_
      unfold settleAccept
      split
      · exact .refl
      · next moved =>
        have written : Effects config request _ _ := moveOrder_effects moved
        split
        · exact written
        · next wrote => exact written.trans (writeIntent_effects client wrote)

theorem placeOrder_effects :
    Effects config request engine (placeOrder config env request engine).engine := by
  have before := @beforeSubmit_effects config env request engine
  unfold placeOrder
  cases reached : beforeSubmit config env request engine with
  | inl stopped =>
      rw [reached] at before
      exact before
  | inr sent =>
      rw [reached] at before
      exact before.trans (submitOrder_effects (beforeSubmit_sent reached).client)

end Effects

end Algotradify.Execution
