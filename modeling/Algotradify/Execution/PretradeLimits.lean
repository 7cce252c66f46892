/-
Clients that share one store of decisions: each evaluates an order and, if it is allowed,
records it, and other clients may do the same in between.

The limits are checked against the decisions of the store when an order is evaluated, so
they hold of the recorded decisions when nothing was accepted between the evaluation of an
order and its record.
-/

import Algotradify.Execution.PretradeRisk
import Algotradify.Timed.Windows
import Algotradify.Transition.Run

namespace Algotradify.Execution.Pretrade

open Py Sql Transition Timed

variable {request : RiskRequest} {store : Store} {config : RiskConfig} {now : ℚ} {event : RiskEvent}

/-! ### Clients -/

def RiskEvent.isAccepted (event : RiskEvent) : Bool :=
  event.decision = "ACCEPTED"

def Store.accepted (store : Store) : List RiskEvent :=
  store.events.filter RiskEvent.isAccepted

/-- An evaluation that is not recorded yet, with the clock it read and the accepted
decisions it saw. -/
structure Pending where
  request : RiskRequest
  decision : RiskDecision
  clock : PyFloat
  seen : List RiskEvent

structure System where
  store : Store
  pending : String → Option Pending
  /-- The last reading of the clock. -/
  clock : PyFloat

def System.start : System :=
  { store := .empty, pending := fun _ => none, clock := .negInf }

inductive Move where
  | evaluate (client : String) (request : RiskRequest) (context : PyDict) (clock : PyFloat)
  | record (client : String) (orderId : Option String) (context : Orders.CallContext)

def Pending.record (pending : Pending) (orderId : Option String) (context : Orders.CallContext)
    (store : Store) : Except Orders.OrderError Store :=
  recordDecision context pending.request pending.decision.allowed
    (if pending.decision.allowed then "ACCEPTED" else pending.decision.reasonCode) orderId store

def System.next (config : RiskConfig) (system : System) : Move → Option System
  | .evaluate client request context clock => some
      { system with
        pending := Function.update system.pending client (some
          { request := request
            decision := evaluate config system.store request context clock
            clock := clock
            seen := system.store.accepted })
        clock := clock }
  | .record client orderId context =>
      match system.pending client with
      | some pending => some
          { store := (pending.record orderId context system.store).toOption.getD system.store
            pending := Function.update system.pending client none
            clock := context.clock }
      | none => none

def SystemStep (config : RiskConfig) (before : System) (move : Move) (after : System) : Prop :=
  before.next config move = some after

def Reading (last clock : PyFloat) : Prop :=
  ∃ now, clock = .finite now ∧ last.le clock = true

/-- An evaluation by an engine that is on, from the store and the clock alone; a record of an
allowed order that has a signal, before anything else was accepted. -/
def Sound (config : RiskConfig) (before : System) : Move → Prop
  | .evaluate _ _ context clock =>
      config.enabled = true ∧ Reading before.clock clock ∧
        (context.get "now_epoch").isNone = true ∧
        (context.get "trades_last_minute").isNone = true ∧
        (context.get "max_trades_per_minute").isNone = true
  | .record client _ context =>
      Reading before.clock context.clock ∧
        ∀ pending ∈ before.pending client, pending.decision.allowed = true →
          strip pending.request.signalId ≠ "" ∧ before.store.accepted = pending.seen

instance (last clock : PyFloat) : Decidable (Reading last clock) :=
  match clock with
  | .finite now =>
      decidable_of_iff (last.le (.finite now) = true)
        ⟨fun later => ⟨now, rfl, later⟩, fun reading => reading.choose_spec.2⟩
  | .nan => isFalse fun reading => nomatch reading.choose_spec.1
  | .posInf => isFalse fun reading => nomatch reading.choose_spec.1
  | .negInf => isFalse fun reading => nomatch reading.choose_spec.1

instance (config : RiskConfig) (before : System) (move : Move) :
    Decidable (Sound config before move) :=
  match move with
  | .evaluate _ _ _ _ => inferInstanceAs (Decidable (_ ∧ _))
  | .record _ _ _ => inferInstanceAs (Decidable (_ ∧ _))

def SoundStep (config : RiskConfig) (before : System) (move : Move) (after : System) : Prop :=
  SystemStep config before move after ∧ Sound config before move

/-! ### Recorded decisions -/

def RiskEvent.seconds (event : RiskEvent) : ℚ :=
  match event.tsEpoch.value with
  | .finite time => time
  | _ => 0

theorem isAccepted_riskEvent (request : RiskRequest) (accepted : Bool) (reasonCode : String)
    (orderId : Option String) (now : SqlReal) :
    (riskEvent request accepted reasonCode orderId now).isAccepted = accepted := by
  cases accepted <;> rfl

theorem key_riskEvent (request : RiskRequest) (accepted : Bool) (reasonCode : String)
    (orderId : Option String) (now : SqlReal) :
    (riskEvent request accepted reasonCode orderId now).key = request.key :=
  rfl

theorem accepted_append (store : Store) (event : RiskEvent)
    (registry : Table SignalKey RegistryRow) :
    Store.accepted ⟨store.events ++ [event], registry⟩ =
      if event.isAccepted then store.accepted ++ [event] else store.accepted := by
  unfold Store.accepted
  rw [List.filter_append, List.filter_singleton]
  cases event.isAccepted with
  | true => rfl
  | false => exact List.append_nil _

theorem recordDecision_ok {context : Orders.CallContext} {accepted : Bool} {reasonCode : String}
    {orderId : Option String} {after : Store}
    (recorded : recordDecision context request accepted reasonCode orderId store = .ok after) :
    ∃ now event, now.value = context.clock ∧ event.tsEpoch = now ∧
      event.key = (normalizeRequest request).key ∧ event.isAccepted = accepted ∧
      after.events = store.events ++ [event] ∧
      after.registry =
        if accepted ∧ (normalizeRequest request).signalId ≠ "" then
          store.registry.upsert event.key ⟨now, 1⟩ fun row => ⟨now, row.hits + 1⟩
        else store.registry := by
  unfold recordDecision at recorded
  obtain ⟨_, _, recorded⟩ := Py.bind_eq_ok.mp recorded
  split at recorded
  · cases recorded
  · next now bound =>
    cases recorded
    refine ⟨now, riskEvent (normalizeRequest request) accepted reasonCode orderId now,
      SqlReal.bind_eq_some bound, rfl, key_riskEvent _ _ _ _ _, isAccepted_riskEvent _ _ _ _ _,
      rfl, ?_⟩
    rw [key_riskEvent]

/-! ### What every run keeps -/

structure Limited (config : RiskConfig) (events : List RiskEvent) : Prop where
  finite : ∀ event ∈ events, event.tsEpoch.value = .finite event.seconds
  paced : Paced 60 config.maxTradesPerMinute.toNat (events.map RiskEvent.seconds)
  spaced : events.Pairwise fun earlier later => earlier.key = later.key →
    config.duplicateWindowSec.le (later.tsEpoch.value - earlier.tsEpoch.value) = true

/-- The registry has every signal that was accepted, no earlier than it was. -/
def Registered (store : Store) : Prop :=
  ∀ event ∈ store.accepted, event.signalId ≠ "" → ∃ row time,
    store.registry.select event.key = some row ∧
      row.lastSeenTs.value = .finite time ∧ event.seconds ≤ time

structure Cleared (config : RiskConfig) (last : PyFloat) (pending : Pending) : Prop where
  reading : ∃ time, pending.clock = .finite time
  past : pending.clock.le last = true
  few : pending.seen.countP (fun event =>
    (pending.clock - .finite 60).le event.tsEpoch.value) < config.maxTradesPerMinute.toNat
  fresh : ∀ event ∈ pending.seen, event.signalId ≠ "" →
    event.key = (normalizeRequest pending.request).key →
      config.duplicateWindowSec.le (pending.clock - event.tsEpoch.value) = true

structure Kept (config : RiskConfig) (system : System) : Prop where
  limited : Limited config system.store.accepted
  registered : Registered system.store
  past : ∀ event ∈ system.store.accepted, event.tsEpoch.value.le system.clock = true
  cleared : ∀ client pending, system.pending client = some pending →
    pending.decision.allowed = true → Cleared config system.clock pending

theorem Kept.start (config : RiskConfig) : Kept config .start where
  limited := ⟨fun _ impossible => (nomatch impossible), .nil, .nil⟩
  registered _ impossible := nomatch impossible
  past _ impossible := nomatch impossible
  cleared _ _ impossible := nomatch impossible

theorem recentAccepted_eq (store : Store) (now : PyFloat) :
    recentAcceptedTradeCount store now =
      store.accepted.countP fun event => (now - .finite 60).le event.tsEpoch.value := by
  unfold recentAcceptedTradeCount Store.accepted
  rw [List.countP_filter]
  refine List.countP_congr fun event _ => ?_
  unfold RiskEvent.isAccepted SqlReal.atLeast
  rw [Bool.and_comm]

theorem toFloatOr_none {value : PyValue} (absent : value.isNone = true) (fallback : PyFloat) :
    toFloatOr value fallback = fallback := by
  unfold toFloatOr
  rw [if_pos absent]

theorem toIntOr_none {value : PyValue} (absent : value.isNone = true) (fallback : Int) :
    toIntOr value fallback = fallback := by
  unfold toIntOr
  rw [if_pos absent]

theorem window_of_fresh {row : RegistryRow} {last time : ℚ} (named : request.signalId ≠ "")
    (fresh : (lookupDuplicateSignal config store request (.finite now)).1 = false)
    (selected : store.registry.select request.key = some row)
    (seen : row.lastSeenTs.value = .finite last) (since : time ≤ last) (past : time ≤ now) :
    config.duplicateWindowSec.le (.finite (now - time)) = true := by
  unfold lookupDuplicateSignal at fresh
  rw [if_neg named, selected] at fresh
  dsimp only at fresh
  split at fresh
  · next off =>
    refine PyFloat.le_trans off ?_
    rw [PyFloat.finite_le]
    exact sub_nonneg.mpr past
  · rw [seen, PyFloat.finite_sub] at fresh
    have number : config.duplicateWindowSec ≠ .nan := by
      intro broken
      have nonneg := config.window_nonneg
      rw [broken] at nonneg
      cases nonneg
    have longer : config.duplicateWindowSec.le (.finite (now - last)) = true := by
      refine PyFloat.le_of_not_lt number PyFloat.noConfusion fun less => ?_
      rw [PyFloat.le_of_lt less] at fresh
      cases fresh
    refine PyFloat.le_trans longer ?_
    rw [PyFloat.finite_le]
    exact sub_le_sub_left since now

theorem cleared_of_allowed {system : System} {client : String} {context : PyDict} {clock : PyFloat}
    (kept : Kept config system)
    (sound : Sound config system (.evaluate client request context clock))
    (allowed : (evaluate config system.store request context clock).allowed = true) :
    Cleared config clock
      { request := request
        decision := evaluate config system.store request context clock
        clock := clock
        seen := system.store.accepted } := by
  obtain ⟨enabled, ⟨now, rfl, later⟩, noEpoch, noTrades, noLimit⟩ := sound
  obtain ⟨rate, fresh⟩ := allowed_within enabled allowed
  rw [toFloatOr_none noEpoch] at rate fresh
  refine ⟨⟨now, rfl⟩, PyFloat.le_refl PyFloat.noConfusion, ?_, fun event member named own => ?_⟩
  · unfold tradesLastMinute tradesLimit at rate
    rw [if_pos noTrades, toIntOr_none noLimit, recentAccepted_eq,
      max_eq_right config.rate_positive] at rate
    dsimp only
    omega
  · have stored := kept.limited.finite event member
    have before := PyFloat.le_trans (kept.past event member) later
    rw [stored, PyFloat.finite_le] at before
    obtain ⟨row, last, selected, seen, since⟩ := kept.registered event member named
    rw [own] at selected
    dsimp only
    rw [stored, PyFloat.finite_sub]
    refine window_of_fresh ?_ fresh selected seen since before
    have sameSignal : event.signalId = (normalizeRequest request).signalId :=
      congrArg Prod.fst own
    rwa [← sameSignal]

/-! ### One more decision -/

theorem seconds_of_finite (time : event.tsEpoch.value = .finite now) :
    event.seconds = now := by
  unfold RiskEvent.seconds
  rw [time]

theorem Limited.append {events : List RiskEvent} (limited : Limited config events)
    (time : event.tsEpoch.value = .finite now) (past : ∀ earlier ∈ events, earlier.seconds ≤ now)
    (few : events.countP (fun earlier => decide (now - 60 ≤ earlier.seconds)) <
      config.maxTradesPerMinute.toNat) (fresh : ∀ earlier ∈ events, earlier.key = event.key →
      config.duplicateWindowSec.le (.finite (now - earlier.seconds)) = true) :
    Limited config (events ++ [event]) := by
  refine ⟨fun other member => ?_, ?_, ?_⟩
  · rcases List.mem_append.mp member with before | last
    · exact limited.finite other before
    · rw [List.mem_singleton.mp last, time, seconds_of_finite time]
  · rw [List.map_append, List.map_singleton, seconds_of_finite time]
    refine .snoc limited.paced (List.forall_mem_map.mpr past) ?_
    rw [List.countP_map]
    exact few
  · rw [List.pairwise_append]
    refine ⟨limited.spaced, List.pairwise_singleton _ _, fun earlier member later last same => ?_⟩
    cases List.mem_singleton.mp last
    rw [time, limited.finite earlier member, PyFloat.finite_sub]
    exact fresh earlier member same

theorem select_upsert_self (table : Table SignalKey RegistryRow) (key : SignalKey)
    (row : RegistryRow) (merge : RegistryRow → RegistryRow)
    (same : ∀ old, (merge old).lastSeenTs = row.lastSeenTs) :
    ∃ written, (table.upsert key row merge).select key = some written ∧
      written.lastSeenTs = row.lastSeenTs := by
  unfold Table.upsert
  cases table.select key with
  | none => exact ⟨row, Table.select_put_self _ _ _, rfl⟩
  | some old => exact ⟨merge old, Table.select_put_self _ _ _, same old⟩

theorem select_upsert_of_ne (table : Table SignalKey RegistryRow) {key other : SignalKey}
    (row : RegistryRow) (merge : RegistryRow → RegistryRow) (different : other ≠ key) :
    (table.upsert key row merge).select other = table.select other := by
  unfold Table.upsert
  cases table.select key with
  | none => exact Table.select_put_of_ne _ _ different
  | some old => exact Table.select_put_of_ne _ _ different

theorem Registered.append {stored : SqlReal} (registered : Registered store)
    (accepted : event.isAccepted = true) (time : stored.value = .finite now)
    (past : ∀ earlier ∈ store.accepted ++ [event], earlier.seconds ≤ now) :
    Registered ⟨store.events ++ [event],
      store.registry.upsert event.key ⟨stored, 1⟩ fun row => ⟨stored, row.hits + 1⟩⟩ := by
  intro other member named
  rw [accepted_append, if_pos accepted] at member
  by_cases own : other.key = event.key
  · obtain ⟨row, selected, seen⟩ := select_upsert_self store.registry event.key ⟨stored, 1⟩
      (fun row => ⟨stored, row.hits + 1⟩) fun _ => rfl
    rw [own]
    exact ⟨row, now, selected, by rw [seen, time], past other member⟩
  · rw [select_upsert_of_ne _ _ _ own]
    rcases List.mem_append.mp member with before | last
    · exact registered other before named
    · exact absurd (congrArg RiskEvent.key (List.mem_singleton.mp last)) own

theorem Cleared.later {last clock : PyFloat} {pending : Pending}
    (cleared : Cleared config last pending) (later : last.le clock = true) :
    Cleared config clock pending :=
  { cleared with past := PyFloat.le_trans cleared.past later }

theorem Kept.accept {config : RiskConfig} {system : System} {pending : Pending}
    {context : Orders.CallContext} {orderId : Option String} {after : Store} {now : ℚ}
    (kept : Kept config system) (cleared : Cleared config system.clock pending)
    (allowed : pending.decision.allowed = true)
    (named : strip pending.request.signalId ≠ "")
    (alone : system.store.accepted = pending.seen)
    (reading : context.clock = .finite now) (later : system.clock.le (.finite now) = true)
    (recorded : pending.record orderId context system.store = .ok after) :
    Limited config after.accepted ∧ Registered after ∧
      ∀ event ∈ after.accepted, event.tsEpoch.value.le (.finite now) = true := by
  obtain ⟨stored, event, value, same, key, accepted, events, registry⟩ :=
    recordDecision_ok recorded
  rw [allowed] at accepted registry
  rw [reading] at value
  obtain ⟨evaluated, clock⟩ := cleared.reading
  have time : event.tsEpoch.value = .finite now := by rw [same, value]
  have past : ∀ earlier ∈ system.store.accepted, earlier.seconds ≤ now := by
    intro earlier member
    have before := PyFloat.le_trans (kept.past earlier member) later
    rwa [kept.limited.finite earlier member, PyFloat.finite_le] at before
  have waited : evaluated ≤ now := by
    have since := PyFloat.le_trans cleared.past later
    rwa [clock, PyFloat.finite_le] at since
  have named : (normalizeRequest pending.request).signalId ≠ "" := named
  rw [if_pos ⟨rfl, named⟩] at registry
  have written : after = ⟨system.store.events ++ [event], system.store.registry.upsert event.key
      ⟨stored, 1⟩ fun row => ⟨stored, row.hits + 1⟩⟩ := by
    rw [← events, ← registry]
  have all : after.accepted = system.store.accepted ++ [event] := by
    rw [written, accepted_append, if_pos accepted]
  have pastAll : ∀ earlier ∈ system.store.accepted ++ [event], earlier.seconds ≤ now := by
    intro earlier member
    rcases List.mem_append.mp member with before | last
    · exact past earlier before
    · rw [List.mem_singleton.mp last, seconds_of_finite time]
  have limited : Limited config after.accepted := by
    rw [all]
    refine kept.limited.append time past ?_ fun earlier member own => ?_
    · refine lt_of_le_of_lt ?_ cleared.few
      rw [← alone, clock]
      refine List.countP_mono_left fun earlier member within => ?_
      rw [kept.limited.finite earlier member, PyFloat.finite_sub, PyFloat.finite_le]
      exact (sub_le_sub_right waited 60).trans (of_decide_eq_true within)
    · have signal : earlier.signalId = (normalizeRequest pending.request).signalId :=
        congrArg Prod.fst (own.trans key)
      have fresh := cleared.fresh earlier (alone ▸ member) (signal ▸ named) (own.trans key)
      rw [clock, kept.limited.finite earlier member, PyFloat.finite_sub] at fresh
      refine PyFloat.le_trans fresh ?_
      rw [PyFloat.finite_le]
      exact sub_le_sub_right waited earlier.seconds
  refine ⟨limited, ?_, fun earlier member => ?_⟩
  · rw [written]
    exact kept.registered.append accepted value pastAll
  · rw [limited.finite earlier member, PyFloat.finite_le]
    exact pastAll earlier (all ▸ member)

theorem accepted_of_rejected {pending : Pending} {context : Orders.CallContext}
    {orderId : Option String} {after : Store} (rejected : pending.decision.allowed = false)
    (recorded : pending.record orderId context store = .ok after) :
    after.accepted = store.accepted ∧ after.registry = store.registry := by
  obtain ⟨_, event, _, _, _, notAccepted, events, registry⟩ := recordDecision_ok recorded
  rw [rejected] at notAccepted registry
  rw [if_neg (fun both => nomatch both.1)] at registry
  refine ⟨?_, registry⟩
  have same : after = ⟨store.events ++ [event], after.registry⟩ := by rw [← events]
  rw [same, accepted_append, notAccepted]
  rfl

theorem Kept.step {before after : System} {move : Move} (kept : Kept config before)
    (stepped : SoundStep config before move after) :
    Kept config after := by
  obtain ⟨stepped, sound⟩ := stepped
  unfold SystemStep at stepped
  cases move with
  | evaluate client request context clock =>
      cases stepped
      obtain ⟨now, _, later⟩ := sound.2.1
      refine ⟨kept.limited, kept.registered, fun event member => ?_, fun other pending found => ?_⟩
      · exact PyFloat.le_trans (kept.past event member) later
      · intro allowed
        change Function.update before.pending client _ other = some pending at found
        by_cases own : other = client
        · rw [own, Function.update_self] at found
          cases found
          exact cleared_of_allowed kept sound allowed
        · rw [Function.update_of_ne own] at found
          exact (kept.cleared other pending found allowed).later later
  | record client orderId context =>
      simp only [System.next] at stepped
      split at stepped
      swap
      · cases stepped
      next pending waiting =>
      cases stepped
      obtain ⟨⟨now, reading, later⟩, alone⟩ := sound
      have others : ∀ other own, Function.update before.pending client none other = some own →
          own.decision.allowed = true → Cleared config context.clock own := by
        intro other own found allowed
        by_cases same : other = client
        · rw [same, Function.update_self] at found
          cases found
        · rw [Function.update_of_ne same] at found
          exact (kept.cleared other own found allowed).later later
      have idle : ∀ store : Store, store.accepted = before.store.accepted →
          store.registry = before.store.registry →
          Kept config ⟨store, Function.update before.pending client none, context.clock⟩ := by
        intro store sameEvents sameRegistry
        refine ⟨sameEvents ▸ kept.limited, fun event member => ?_, fun event member => ?_, others⟩
        · change event ∈ store.accepted at member
          rw [sameEvents] at member
          rw [sameRegistry]
          exact kept.registered event member
        · change event ∈ store.accepted at member
          rw [sameEvents] at member
          exact PyFloat.le_trans (kept.past event member) later
      cases recorded : pending.record orderId context before.store with
      | error raised => exact idle before.store rfl rfl
      | ok store =>
          cases allowed : pending.decision.allowed with
          | false =>
              obtain ⟨sameEvents, sameRegistry⟩ := accepted_of_rejected allowed recorded
              exact idle store sameEvents sameRegistry
          | true =>
              obtain ⟨named, same⟩ := alone pending waiting allowed
              rw [reading] at later
              obtain ⟨limited, registered, past⟩ := kept.accept
                (kept.cleared client pending waiting allowed) allowed named same reading later
                recorded
              refine ⟨limited, registered, ?_, others⟩
              rw [reading]
              exact past

/-! ### The limits -/

/-- In every run of clients whose allowed orders are recorded before anything else is
accepted: no minute holds more accepted decisions than the limit, and those of one signal
are a duplicate window apart. -/
theorem limits_hold {config : RiskConfig} {moves : List Move} {system : System}
    (run : Run (SoundStep config) .start moves system) :
    (∀ start : ℚ, (system.store.accepted.countP fun event =>
      (PyFloat.finite start).le event.tsEpoch.value &&
        event.tsEpoch.value.le (.finite (start + 60))) ≤ config.maxTradesPerMinute.toNat) ∧
    system.store.accepted.Pairwise fun earlier later => earlier.key = later.key →
      config.duplicateWindowSec.le (later.tsEpoch.value - earlier.tsEpoch.value) = true := by
  have kept : Kept config system :=
    run.invariant (Kept.start config) fun _ _ _ kept stepped => kept.step stepped
  refine ⟨fun start => ?_, kept.limited.spaced⟩
  have paced := kept.limited.paced.window start
  rw [List.countP_map] at paced
  refine le_trans (List.countP_mono_left fun event member within => ?_) paced
  rw [kept.limited.finite event member, Bool.and_eq_true, PyFloat.finite_le,
    PyFloat.finite_le] at within
  exact decide_eq_true within

def oneTrade : RiskConfig :=
  { maxTradesPerMinute := 1, window_nonneg := standardWindow_nonneg }

def buyOrder : RiskRequest :=
  { signalId := "s1", instrument := "NIFTY", side := "BUY", quantity := .finite 1
    timestamp := .finite 0 }

def inTurn : List Move :=
  [.evaluate "a" buyOrder [] (.finite 0), .record "a" none ⟨.finite 1, none⟩,
    .evaluate "b" buyOrder [] (.finite 2), .record "b" none ⟨.finite 3, none⟩]

def crossed : List Move :=
  [.evaluate "a" buyOrder [] (.finite 0), .evaluate "b" buyOrder [] (.finite 0),
    .record "a" none ⟨.finite 1, none⟩, .record "b" none ⟨.finite 1, none⟩]

def System.nextSound (config : RiskConfig) (system : System) (move : Move) : Option System :=
  if Sound config system move then system.next config move else none

theorem limits_hold_inTurn :
    ∃ system, Run (SystemStep oneTrade) .start inTurn system ∧
      (system.store.events.map RiskEvent.decision) = ["ACCEPTED", "REJECTED"] ∧
      (system.store.accepted.countP fun event =>
        (PyFloat.finite 0).le event.tsEpoch.value &&
          event.tsEpoch.value.le (.finite (0 + 60))) ≤ 1 := by
  have traced : ((inTurn.foldlM (System.nextSound oneTrade) .start).any fun system =>
      (system.store.events.map RiskEvent.decision) == ["ACCEPTED", "REJECTED"]) = true := by
    decide +kernel
  obtain ⟨system, made, decisions⟩ := (Option.any_eq_true _ _).mp traced
  have run : Run (SoundStep oneTrade) .start inTurn system := by
    refine (Run.of_foldlM made).mono fun before move after stepped => ?_
    obtain ⟨sound, next⟩ := Option.ite_none_right_eq_some.mp stepped
    exact ⟨next, sound⟩
  exact ⟨system, run.mono fun _ _ _ stepped => stepped.1, eq_of_beq decisions,
    (limits_hold run).1 0⟩

/-- Two orders of one signal are accepted in one moment, where one a minute is allowed. -/
theorem crossed_both_accepted :
    ((crossed.foldlM (System.next oneTrade) .start).map fun system =>
      system.store.accepted.map fun event => (event.key, event.tsEpoch.value)) =
      some [(("s1", "NIFTY", "BUY"), .finite 1), (("s1", "NIFTY", "BUY"), .finite 1)] ∧
    oneTrade.maxTradesPerMinute = 1 ∧ oneTrade.duplicateWindowSec = .finite 300 := by
  decide +kernel

end Algotradify.Execution.Pretrade
