/-
The failure counters of the execution engine, its kill switch, and the retry loop around
a call to the broker.

The broker function is given by what it does at each attempt, with whether it has accepted
the order. The failure log, the waits between attempts and the counters' other readers are
left out.
-/

import Algotradify.Py.Convert

namespace Algotradify.Execution

open Py

variable {state : FailureState}

/-! ### Counters -/

inductive FailureType where
  | network
  | brokerReject
  | spreadTooWide
  | slippageTooHigh
  | riskLimit
  | unknown
deriving DecidableEq

structure FailureConfig where
  networkFailureWindowSec : PyFloat := .finite 60
  brokerRejectKillThreshold : Int := 3
  networkKillThreshold : Int := 3
  networkRetryMaxAttempts : ℕ := 3
  attempts_positive : 0 < networkRetryMaxAttempts := by decide

theorem standardAttempts_positive : 0 < 3 := by
  decide

structure FailureState where
  failedExecutions : ℕ
  failureCounters : FailureType → ℕ
  networkFailureTimestamps : List PyFloat
  killSwitchTriggered : Bool
  killSwitchReason : Option String

def FailureState.start : FailureState :=
  { failedExecutions := 0
    failureCounters := fun _ => 0
    networkFailureTimestamps := []
    killSwitchTriggered := false
    killSwitchReason := none }

/-- `_prune_network_failure_window`. -/
def pruneNetworkFailureWindow (config : FailureConfig) (now : PyFloat)
    (timestamps : List PyFloat) : List PyFloat :=
  timestamps.dropWhile fun time => time.lt (now - config.networkFailureWindowSec)

def FailureState.count (config : FailureConfig) (failure : FailureType) (now : PyFloat)
    (state : FailureState) : FailureState :=
  { state with
    failedExecutions := state.failedExecutions + 1
    failureCounters :=
      Function.update state.failureCounters failure (state.failureCounters failure + 1)
    networkFailureTimestamps := pruneNetworkFailureWindow config now
      (if failure = .network then state.networkFailureTimestamps ++ [now]
        else state.networkFailureTimestamps) }

def FailureState.killReason (config : FailureConfig) (state : FailureState) : Option String :=
  if config.brokerRejectKillThreshold < state.failureCounters .brokerReject then
    some "BROKER_REJECT_THRESHOLD_EXCEEDED"
  else if config.networkKillThreshold < state.networkFailureTimestamps.length then
    some "NETWORK_FAILURE_WINDOW_EXCEEDED"
  else none

/-- `register_failure`: the state it leaves, and the reason with which it raises if it is
told to. -/
def registerFailure (config : FailureConfig) (failure : FailureType) (now : PyFloat)
    (state : FailureState) : FailureState × Option String :=
  let counted := state.count config failure now
  match counted.killReason config with
  | some reason =>
      ({ counted with killSwitchTriggered := true, killSwitchReason := some reason }, some reason)
  | none => (counted, none)

def resetFailures (_state : FailureState) : FailureState :=
  .start

/-! ### Attempts -/

/-- An exception, with `type(exc).__name__`, `str(exc)` and whether it is a `RuntimeError`. -/
structure Raised where
  typeName : String
  isRuntimeError : Bool
  text : String

def killSwitchMarker : String := "EXECUTION KILL SWITCH TRIGGERED"

def killSwitchError (reason : String) : Raised :=
  { typeName := "RuntimeError"
    isRuntimeError := true
    text := "❌ " ++ killSwitchMarker ++ " (" ++ reason ++ ")" }

inductive Attempt where
  | returns (accepted : Bool) (response : PyValue)
  | raises (accepted : Bool) (error : Raised)

def Attempt.accepted : Attempt → Bool
  | .returns accepted _ => accepted
  | .raises accepted _ => accepted

def Attempt.isRaise : Attempt → Bool
  | .returns _ _ => false
  | .raises _ _ => true

/-- How a retry loop ends, the state it leaves, and the attempts it has made. -/
structure Submission where
  outcome : Except Raised PyValue
  failures : FailureState
  attempts : List Attempt

/-- The loop of `execute_with_network_retry` with this many attempts left. -/
def retryLoop (config : FailureConfig) (operation : ℕ → Attempt) (clock : ℕ → PyFloat) :
    ℕ → ℕ → FailureState → Submission
  | 0, _, state =>
      { outcome := .error ⟨"RuntimeError", true, "place_order_submit_failed_without_exception"⟩
        failures := state
        attempts := [] }
  | left + 1, index, state =>
      match operation index with
      | .returns _ response =>
          { outcome := .ok response, failures := state, attempts := [operation index] }
      | .raises _ error =>
          match registerFailure config .network (clock index) state with
          | (registered, some reason) =>
              { outcome := .error (killSwitchError reason)
                failures := registered
                attempts := [operation index] }
          | (registered, none) =>
              if left = 0 then
                { outcome := .error error, failures := registered, attempts := [operation index] }
              else
                let rest := retryLoop config operation clock left (index + 1) registered
                { rest with attempts := operation index :: rest.attempts }

def executeWithNetworkRetry (config : FailureConfig) (operation : ℕ → Attempt)
    (clock : ℕ → PyFloat) (state : FailureState) : Submission :=
  retryLoop config operation clock config.networkRetryMaxAttempts 0 state

/-! ### The kill switch -/

theorem registerFailure_latches (config : FailureConfig) (failure : FailureType) (now : PyFloat)
    (triggered : state.killSwitchTriggered = true) :
    (registerFailure config failure now state).1.killSwitchTriggered = true := by
  unfold registerFailure
  dsimp only
  split
  · rfl
  · exact triggered

theorem retryLoop_latches (config : FailureConfig) (operation : ℕ → Attempt) (clock : ℕ → PyFloat)
    (left index : ℕ) (triggered : state.killSwitchTriggered = true) :
    (retryLoop config operation clock left index state).failures.killSwitchTriggered = true := by
  induction left generalizing index state with
  | zero => exact triggered
  | succ left ih =>
      unfold retryLoop
      split
      · exact triggered
      · have latched := registerFailure_latches config .network (clock index) triggered
        split
        · next registered reason counted =>
          rw [counted] at latched
          exact latched
        · next registered counted =>
          rw [counted] at latched
          split
          · exact latched
          · exact ih (index + 1) latched

/-! ### Which attempts are made -/

def failuresAfter (config : FailureConfig) (clock : ℕ → PyFloat) (state : FailureState) :
    ℕ → FailureState
  | 0 => state
  | attempts + 1 =>
      (failuresAfter config clock state attempts).count config .network (clock attempts)

/-- An attempt is due when all before it raised, and no threshold was exceeded. -/
def Due (config : FailureConfig) (operation : ℕ → Attempt) (clock : ℕ → PyFloat)
    (state : FailureState) (index : ℕ) : Prop :=
  index < config.networkRetryMaxAttempts ∧ ∀ earlier < index,
    (operation earlier).isRaise = true ∧
      (failuresAfter config clock state (earlier + 1)).killReason config = none

theorem Due.earlier {config : FailureConfig} {operation : ℕ → Attempt} {clock : ℕ → PyFloat}
    {first last : ℕ} (due : Due config operation clock state last) (before : first ≤ last) :
    Due config operation clock state first :=
  ⟨lt_of_le_of_lt before due.1, fun earlier less => due.2 earlier (lt_of_lt_of_le less before)⟩

/-- How the loop ends at its last attempt: with the answer, with the kill switch, or with
the error of the last attempt that it has. -/
inductive Ending (config : FailureConfig) (operation : ℕ → Attempt) (clock : ℕ → PyFloat)
    (state : FailureState) (last : ℕ) : Except Raised PyValue → FailureState → Prop
  | returned {accepted : Bool} {response : PyValue}
      (here : operation last = .returns accepted response) :
      Ending config operation clock state last (.ok response)
        (failuresAfter config clock state last)
  | killed {reason : String} (raised : (operation last).isRaise = true)
      (spent : (failuresAfter config clock state (last + 1)).killReason config = some reason) :
      Ending config operation clock state last (.error (killSwitchError reason))
        { failuresAfter config clock state (last + 1) with
          killSwitchTriggered := true
          killSwitchReason := some reason }
  | exhausted {accepted : Bool} {error : Raised} (here : operation last = .raises accepted error)
      (within : (failuresAfter config clock state (last + 1)).killReason config = none)
      (none_left : last + 1 = config.networkRetryMaxAttempts) :
      Ending config operation clock state last (.error error)
        (failuresAfter config clock state (last + 1))

theorem retryLoop_ends {config : FailureConfig} {operation : ℕ → Attempt} {clock : ℕ → PyFloat}
    (left index : ℕ) (some_left : 0 < left) (total : index + left = config.networkRetryMaxAttempts)
    (due : Due config operation clock state index) :
    let loop := retryLoop config operation clock left index (failuresAfter config clock state index)
    ∃ more, loop.attempts = (List.range' index (more + 1)).map operation ∧
      Due config operation clock state (index + more) ∧
      Ending config operation clock state (index + more) loop.outcome loop.failures := by
  induction left generalizing index with
  | zero => exact absurd some_left (lt_irrefl 0)
  | succ left ih =>
      unfold retryLoop
      dsimp only
      cases here : operation index with
      | returns accepted response =>
          exact ⟨0, by rw [List.range'_one, List.map_singleton, here], due, .returned here⟩
      | raises accepted error =>
          have raised : (operation index).isRaise = true := by rw [here]; rfl
          have counted : (failuresAfter config clock state index).count config .network
              (clock index) = failuresAfter config clock state (index + 1) := rfl
          unfold registerFailure
          rw [counted]
          dsimp only
          cases spent : (failuresAfter config clock state (index + 1)).killReason config with
          | some reason =>
              exact ⟨0, by rw [List.range'_one, List.map_singleton, here], due,
                .killed raised spent⟩
          | none =>
              dsimp only
              by_cases last : left = 0
              · rw [if_pos last]
                refine ⟨0, by rw [List.range'_one, List.map_singleton, here], due, ?_⟩
                exact .exhausted here spent (by omega)
              · rw [if_neg last]
                have next : Due config operation clock state (index + 1) := by
                  refine ⟨by omega, fun earlier less => ?_⟩
                  by_cases same : earlier = index
                  · rw [same]
                    exact ⟨raised, spent⟩
                  · exact due.2 earlier (by omega)
                obtain ⟨more, attempts, dueLast, ending⟩ :=
                  ih (index + 1) (Nat.pos_of_ne_zero last) (by omega) next
                rw [show index + 1 + more = index + (more + 1) by omega] at dueLast ending
                refine ⟨more + 1, ?_, dueLast, ending⟩
                rw [List.range'_succ, List.map_cons, ← attempts, here]

theorem executeWithNetworkRetry_ends (config : FailureConfig) (operation : ℕ → Attempt)
    (clock : ℕ → PyFloat) (state : FailureState) :
    let loop := executeWithNetworkRetry config operation clock state
    ∃ last, loop.attempts = (List.range (last + 1)).map operation ∧
      Due config operation clock state last ∧
      Ending config operation clock state last loop.outcome loop.failures := by
  have first : Due config operation clock state 0 :=
    ⟨config.attempts_positive, fun _ impossible => absurd impossible (Nat.not_lt_zero _)⟩
  obtain ⟨last, attempts, due, ending⟩ :=
    retryLoop_ends config.networkRetryMaxAttempts 0 config.attempts_positive (Nat.zero_add _) first
  rw [Nat.zero_add] at due ending
  rw [← List.range_eq_range'] at attempts
  exact ⟨last, attempts, due, ending⟩

end Algotradify.Execution
