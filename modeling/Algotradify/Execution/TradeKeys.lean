/-
The idempotency key of a placement: which trades it tells apart, and whose order or intent
a placement is answered with.
-/

import Algotradify.Execution.BrokerRuns

namespace Algotradify.Execution

open Py Sql Orders Transition

/-! ### Trades -/

/-- A trade, as `build_idempotency_key` normalises its components. -/
structure Trade where
  signalId : String
  instrument : String
  side : String
  timestamp : String
deriving DecidableEq

def tradeOf (request : PlaceRequest) : Trade :=
  { signalId := strip (printValue (request.signalId.or (.str "")))
    instrument := strip (printValue (request.instrument.or (.str "")))
    side := upper (strip (printValue (request.side.or (.str ""))))
    timestamp := strip (if request.timestamp.isNone then "" else printValue request.timestamp) }

def Trade.text (trade : Trade) : String :=
  trade.signalId ++ trade.instrument ++ trade.side ++ trade.timestamp

def Trade.lengths (trade : Trade) : ℕ × ℕ × ℕ :=
  (trade.signalId.length, trade.instrument.length, trade.side.length)

/-- The trades have different texts, or their texts are cut at the same places. -/
def CutAlike (first second : Trade) : Prop :=
  first.text ≠ second.text ∨ first.lengths = second.lengths

theorem append_inj {first second third fourth : String} (same : first ++ second = third ++ fourth)
    (lengths : first.length = third.length) : first = third ∧ second = fourth := by
  have letters := congrArg String.toList same
  rw [String.toList_append, String.toList_append] at letters
  obtain ⟨left, right⟩ := List.append_inj letters lengths
  exact ⟨String.toList_inj.mp left, String.toList_inj.mp right⟩

theorem Trade.eq_of_lengths {first second : Trade} (texts : first.text = second.text)
    (lengths : first.lengths = second.lengths) : first = second := by
  obtain ⟨signalIds, instruments, sides⟩ := by
    simpa only [Trade.lengths, Prod.mk.injEq] using lengths
  obtain ⟨texts, timestamp⟩ := append_inj texts (by
    rw [String.length_append, String.length_append, String.length_append, String.length_append]
    omega)
  obtain ⟨texts, side⟩ := append_inj texts (by
    rw [String.length_append, String.length_append]
    omega)
  obtain ⟨signalId, instrument⟩ := append_inj texts signalIds
  cases first
  cases second
  simp only at signalId instrument side timestamp
  rw [signalId, instrument, side, timestamp]

theorem eq_iff_cutAlike {first second : Trade} (texts : first.text = second.text) :
    first = second ↔ CutAlike first second := by
  constructor
  · intro same
    rw [same]
    exact .inr rfl
  · intro alike
    rcases alike with different | lengths
    · exact absurd texts different
    · exact Trade.eq_of_lengths texts lengths

theorem buildIdempotencyKey_trade (digest : String → String) (request : PlaceRequest) :
    buildIdempotencyKey digest request =
      if (tradeOf request).signalId = "" then .error (.valueError "missing_signal_id")
      else if (tradeOf request).instrument = "" then .error (.valueError "missing_instrument")
      else if (tradeOf request).side = "" then .error (.valueError "missing_side")
      else if (tradeOf request).timestamp = "" then .error (.valueError "missing_timestamp")
      else .ok (digest (tradeOf request).text) := rfl

theorem buildIdempotencyKey_eq {digest : String → String} {request : PlaceRequest} {key : String}
    (built : buildIdempotencyKey digest request = .ok key) : key = digest (tradeOf request).text := by
  rw [buildIdempotencyKey_trade] at built
  generalize tradeOf request = trade at built ⊢
  split at built
  · cases built
  split at built
  · cases built
  split at built
  · cases built
  split at built
  · cases built
  cases built
  rfl

/-! ### What a placement adds to the stores -/

/-- Where the orders of a placement have their keys from, and its intents their ids. -/
structure Adds (config : EngineConfig) (request : PlaceRequest) (before after : Engine) :
    Prop where
  orders : ∀ orderId row, after.orders.orderStates.select orderId = some row →
    (∃ earlier, before.orders.orderStates.select orderId = some earlier ∧
      row.idempotencyKey = earlier.idempotencyKey) ∨
    ∃ key, buildIdempotencyKey config.digest request = .ok key ∧ row.idempotencyKey = strip key
  intents : ∀ clientOrderId row, after.intents.select clientOrderId = some row →
    (∃ earlier, before.intents.select clientOrderId = some earlier) ∨
      clientOrderId = clientOrderIdOf config request

section Adding

variable {config : EngineConfig} {env : Environment} {request : PlaceRequest}
variable {engine after : Engine}

theorem Adds.of_same (orders : after.orders = engine.orders)
    (intents : after.intents = engine.intents) : Adds config request engine after := by
  constructor
  · intro orderId row selected
    rw [orders] at selected
    exact .inl ⟨row, selected, rfl⟩
  · intro clientOrderId row selected
    rw [intents] at selected
    exact .inl ⟨row, selected⟩

theorem Adds.trans {middle : Engine} (first : Adds config request engine middle)
    (second : Adds config request middle after) : Adds config request engine after := by
  constructor
  · intro orderId row selected
    rcases second.orders orderId row selected with ⟨between, found, sameKey⟩ | own
    · rcases first.orders orderId between found with ⟨earlier, stored, earlierKey⟩ | own
      · exact .inl ⟨earlier, stored, sameKey.trans earlierKey⟩
      · obtain ⟨key, built, betweenKey⟩ := own
        exact .inr ⟨key, built, sameKey.trans betweenKey⟩
    · exact .inr own
  · intro clientOrderId row selected
    rcases second.intents clientOrderId row selected with ⟨between, found⟩ | own
    · exact first.intents clientOrderId between found
    · exact .inr own

theorem keys_of_effect {context : CallContext} {operation : Operation} {reply : Reply}
    {before db : Database} (effect : Effect context before operation reply db) {orderId : String}
    {row : OrderRow} (selected : db.orderStates.select orderId = some row) :
    (∃ earlier, before.orderStates.select orderId = some earlier ∧
      row.idempotencyKey = earlier.idempotencyKey) ∨
    ∃ creation, operation = .create creation ∧
      row.idempotencyKey = strip creation.idempotencyKey := by
  have written : ∀ {own : String} {current written : OrderRow} {event : EventRow},
      before.orderStates.select own = some current →
      written.idempotencyKey = current.idempotencyKey →
      (before.write own written event).orderStates.select orderId = some row →
      ∃ earlier, before.orderStates.select orderId = some earlier ∧
        row.idempotencyKey = earlier.idempotencyKey := by
    intro own current written event stored sameKey found
    change (before.orderStates.put own written).select orderId = some row at found
    rw [Table.select_put] at found
    split at found
    · rename_i same
      cases found
      rw [same]
      exact ⟨current, stored, sameKey⟩
    · exact ⟨row, found, rfl⟩
  cases effect with
  | found => exact .inl ⟨row, selected, rfl⟩
  | @created request inserted made freshId freshKey =>
      change (before.orderStates.put _ inserted).select orderId = some row at selected
      rw [Table.select_put] at selected
      split at selected
      · cases selected
        exact .inr ⟨request, rfl, (createRow made).1⟩
      · exact .inl ⟨row, selected, rfl⟩
  | moved asked stored allowed made =>
      exact .inl (written stored (transitionRow made).1.idempotencyKey selected)
  | unchanged => exact .inl ⟨row, selected, rfl⟩
  | filled stored different made =>
      exact .inl (written stored (fillRow made).1.idempotencyKey selected)

theorem EngineEffect.adds (effect : EngineEffect config request engine after) :
    Adds config request engine after := by
  cases effect with
  | failures latch => exact .of_same rfl rfl
  | decisions decisions => exact .of_same rfl rfl
  | intent row =>
      constructor
      · intro orderId row selected
        exact .inl ⟨row, selected, rfl⟩
      · intro clientOrderId row selected
        simp only [Table.select_put] at selected
        split at selected
        · rename_i same
          exact .inr same
        · exact .inl ⟨row, selected⟩
  | created keyed effect =>
      constructor
      · intro orderId row selected
        rcases keys_of_effect effect selected with earlier | ⟨creation, same, own⟩
        · exact .inl earlier
        · rw [← Operation.create.inj same] at own
          exact .inr ⟨_, keyed, own⟩
      · intro clientOrderId row selected
        exact .inl ⟨row, selected⟩
  | moved effect =>
      constructor
      · intro orderId row selected
        rcases keys_of_effect effect selected with earlier | ⟨creation, impossible, own⟩
        · exact .inl earlier
        · cases impossible
      · intro clientOrderId row selected
        exact .inl ⟨row, selected⟩

theorem Effects.adds (effects : Effects config request engine after) :
    Adds config request engine after := by
  induction effects with
  | refl => exact .of_same rfl rfl
  | tail earlier effect ih => exact ih.trans effect.adds

end Adding

/-! ### Whose order a placement is answered with -/

def Placement.skips : Placement → Bool
  | .intentAlreadySubmitted .. | .duplicate .. => true
  | _ => false

section Answers

variable {config : EngineConfig} {env : Environment} {request : PlaceRequest}
variable {engine : Engine} {sent : SentOrder} {placement : Placement}

theorem submitOrder_places
    (answered : (submitOrder config env request sent).outcome = .ok placement) :
    placement.skips = false := by
  unfold submitOrder at answered
  simp only at answered
  split at answered
  · unfold settleError at answered
    split at answered
    · cases answered
    · split at answered
      · cases answered
      · split at answered
        · cases answered
        · cases answered
          rfl
  · split at answered
    · unfold settleReject at answered
      split at answered
      · cases answered
      · simp only at answered
        split at answered
        · cases answered
        · split at answered
          · cases answered
          · cases answered
            rfl
    · unfold settleAccept at answered
      split at answered
      · cases answered
      · split at answered
        · cases answered
        · cases answered
          rfl

theorem sendOrder_places {key client : String} {intent : IntentRow} {order : OrderRecord}
    {stopped : Stopped}
    (stops : sendOrder config env request key client intent order engine = .inl stopped)
    (answered : stopped.outcome = .ok placement) : placement.skips = false := by
  unfold sendOrder at stops
  split at stops
  · cases stops
    cases answered
  · simp only at stops
    split at stops
    · unfold rejectByRisk at stops
      simp only at stops
      split at stops
      · cases stops
        cases answered
      · cases stops
        cases answered
        rfl
    · split at stops
      · cases stops
        cases answered
        rfl
      · split at stops
        · split at stops
          · cases stops
            cases answered
          · cases stops
            cases answered
            rfl
        · split at stops
          · cases stops
            cases answered
          · cases stops

theorem createOrGetOrder_found {context : CallContext} {creation : CreateRequest}
    {db after : Database} {order : OrderRecord}
    (found : createOrGetOrder context creation db = .ok ((order, false), after)) :
    ∃ orderId row, order = rowToRecord orderId row ∧ db.orderStates.select orderId = some row ∧
      row.idempotencyKey = strip creation.idempotencyKey := by
  cases createOrGetOrder_effect found with
  | @found _ orderId row selected sameKey noConflict => exact ⟨orderId, row, rfl, selected, sameKey⟩

theorem found_of_skips (answered : (placeOrder config env request engine).outcome = .ok placement)
    (skips : placement.skips = true) :
    (∃ key orderId row, placement = .duplicate key (rowToRecord orderId row) ∧
      buildIdempotencyKey config.digest request = .ok key ∧
      engine.orders.orderStates.select orderId = some row ∧ row.idempotencyKey = strip key) ∨
    ∃ key row, placement = .intentAlreadySubmitted key (clientOrderIdOf config request) ∧
      engine.intents.select (clientOrderIdOf config request) = some row := by
  unfold placeOrder at answered
  cases reached : beforeSubmit config env request engine with
  | inr sent =>
      rw [reached] at answered
      rw [submitOrder_places answered] at skips
      cases skips
  | inl stopped =>
      rw [reached] at answered
      change stopped.outcome = .ok placement at answered
      unfold beforeSubmit at reached
      cases built : buildIdempotencyKey config.digest request with
      | error raised =>
          rw [built] at reached
          cases reached
          cases answered
      | ok key =>
          rw [built] at reached
          simp only at reached
          split at reached
          · rename_i submitted
            cases reached
            cases answered
            refine .inr ⟨key, ?_⟩
            obtain ⟨solid, named⟩ := clientOrderIdOf_solid config request
            unfold intentStatus at submitted
            simp only [solid, if_neg named] at submitted
            cases stored : engine.intents.select (clientOrderIdOf config request) with
            | none =>
                rw [stored] at submitted
                cases submitted
            | some row => exact ⟨row, rfl, rfl⟩
          · split at reached
            · cases reached
              cases answered
            · split at reached
              · cases reached
                cases answered
              · split at reached
                · cases reached
                  cases answered
                · rename_i creation
                  split at reached
                  · rename_i created
                    cases reached
                    cases answered
                    rw [Bool.not_eq_true'] at created
                    rw [created] at creation
                    obtain ⟨orderId, row, same, selected, sameKey⟩ :=
                      createOrGetOrder_found creation
                    rw [same]
                    exact .inl ⟨key, orderId, row, rfl, rfl, selected, sameKey⟩
                  · rw [sendOrder_places reached answered] at skips
                    cases skips

end Answers

/-! ### Runs -/

def Move.placesOnly : Move → Prop
  | .orders ⟨_, .create _⟩ => False
  | _ => True

def PlacingStep (config : EngineConfig) (before : Engine) (entry : Entry) (after : Engine) : Prop :=
  EngineStep config before entry after ∧ entry.1.placesOnly

def placed (entries : List Entry) : List PlaceRequest :=
  entries.filterMap fun entry =>
    match entry.1 with
    | .place _ request => some request
    | _ => none

/-- A placement of the request in the run put the order into the store. -/
def Creates (config : EngineConfig) (entries : List Entry) (request : PlaceRequest)
    (orderId : String) : Prop :=
  ∃ earlier env attempts later before, entries = earlier ++ (.place env request, attempts) :: later ∧
    Run (PlacingStep config) .start earlier before ∧
    before.orders.orderStates.select orderId = none ∧
    ((placeOrder config env request before).engine.orders.orderStates.select orderId).isSome = true

/-- Every order and every intent in the stores is that of a placement. -/
structure Placed (config : EngineConfig) (entries : List Entry) (engine : Engine) : Prop where
  orders : ∀ orderId row, engine.orders.orderStates.select orderId = some row →
    ∃ request key, Creates config entries request orderId ∧
      buildIdempotencyKey config.digest request = .ok key ∧ row.idempotencyKey = strip key
  intents : ∀ clientOrderId row, engine.intents.select clientOrderId = some row →
    ∃ request ∈ placed entries, clientOrderIdOf config request = clientOrderId

section Placing

variable {config : EngineConfig} {entries : List Entry} {before after : Engine} {entry : Entry}

theorem placed_append (first second : List Entry) :
    placed (first ++ second) = placed first ++ placed second :=
  List.filterMap_append ..

theorem Creates.snoc {request : PlaceRequest} {orderId : String}
    (creates : Creates config entries request orderId) (entry : Entry) :
    Creates config (entries ++ [entry]) request orderId := by
  obtain ⟨earlier, env, attempts, later, before, cut, run, absent, present⟩ := creates
  refine ⟨earlier, env, attempts, later ++ [entry], before, ?_, run, absent, present⟩
  rw [cut, List.append_assoc, List.cons_append]

theorem Placed.keep (holds : Placed config entries before) (entry : Entry)
    (orders : ∀ orderId row, after.orders.orderStates.select orderId = some row →
      ∃ earlier, before.orders.orderStates.select orderId = some earlier ∧
        row.idempotencyKey = earlier.idempotencyKey)
    (intents : after.intents = before.intents) : Placed config (entries ++ [entry]) after := by
  constructor
  · intro orderId row selected
    obtain ⟨earlier, stored, same⟩ := orders orderId row selected
    obtain ⟨request, key, creates, built, own⟩ := holds.orders orderId earlier stored
    exact ⟨request, key, creates.snoc entry, built, same.trans own⟩
  · intro clientOrderId row selected
    rw [intents] at selected
    obtain ⟨request, member, own⟩ := holds.intents clientOrderId row selected
    refine ⟨request, ?_, own⟩
    rw [placed_append]
    exact List.mem_append_left _ member

theorem Placed.place {env : Environment} {request : PlaceRequest} {attempts : List Attempt}
    (holds : Placed config entries before) (run : Run (PlacingStep config) .start entries before) :
    Placed config (entries ++ [(.place env request, attempts)])
      (placeOrder config env request before).engine := by
  have adds : Adds config request before (placeOrder config env request before).engine :=
    placeOrder_effects.adds
  constructor
  · intro orderId row selected
    cases stored : before.orders.orderStates.select orderId with
    | none =>
        rcases adds.orders orderId row selected with ⟨earlier, found, -⟩ | ⟨key, built, own⟩
        · rw [stored] at found
          cases found
        · refine ⟨request, key, ⟨entries, env, attempts, [], before, rfl, run, stored, ?_⟩, built,
            own⟩
          rw [selected]
          rfl
    | some earlier =>
        have continues : Continues before (placeOrder config env request before).engine :=
          placeOrder_continues
        obtain ⟨later, found, same⟩ := continues.rows orderId earlier stored
        rw [selected] at found
        cases found
        obtain ⟨owner, key, creates, built, own⟩ := holds.orders orderId earlier stored
        exact ⟨owner, key, creates.snoc _, built, same.trans own⟩
  · intro clientOrderId row selected
    rw [placed_append]
    rcases adds.intents clientOrderId row selected with ⟨earlier, stored⟩ | own
    · obtain ⟨owner, member, same⟩ := holds.intents clientOrderId earlier stored
      exact ⟨owner, List.mem_append_left _ member, same⟩
    · exact ⟨request, List.mem_append_right _ List.mem_cons_self, own.symm⟩

theorem Placed.step (holds : Placed config entries before)
    (run : Run (PlacingStep config) .start entries before)
    (stepped : PlacingStep config before entry after) : Placed config (entries ++ [entry]) after := by
  obtain ⟨made, only⟩ := stepped
  obtain ⟨move, attempts⟩ := entry
  have answered := Option.some.inj made
  have unchanged : ∀ orderId row, before.orders.orderStates.select orderId = some row →
      ∃ earlier, before.orders.orderStates.select orderId = some earlier ∧
        row.idempotencyKey = earlier.idempotencyKey :=
    fun _ row selected => ⟨row, selected, rfl⟩
  cases move with
  | place env request =>
      obtain ⟨rfl, rfl⟩ := Prod.mk.inj answered
      exact holds.place run
  | fail failure now =>
      cases answered
      exact holds.keep _ unchanged rfl
  | retry operation clock =>
      cases answered
      exact holds.keep _ unchanged rfl
  | reset =>
      cases answered
      exact holds.keep _ unchanged rfl
  | orders call =>
      cases answered
      rcases step_cases (show Step before.orders (call, (perform before.orders call).1)
          (perform before.orders call).2 from rfl) with ⟨reply, returned, effect⟩ | ⟨_, _, same⟩
      · refine holds.keep _ ?_ rfl
        intro orderId row selected
        rcases keys_of_effect effect selected with earlier | ⟨creation, created, -⟩
        · exact earlier
        · obtain ⟨context, operation⟩ := call
          cases created
          exact only.elim
      · refine holds.keep _ ?_ rfl
        simp only [same]
        exact unchanged

theorem placed_of_run (run : Run (PlacingStep config) .start entries after) :
    Placed config entries after := by
  have both := run.history_invariant
    (motive := fun entries engine => Run (PlacingStep config) .start entries engine ∧
      Placed config entries engine) ?_ ?_
  · exact both.2
  · refine ⟨.nil, ?_, ?_⟩
    · intro orderId row selected
      cases selected
    · intro clientOrderId row selected
      cases selected
  · intro entries before entry after holds stepped
    exact ⟨.snoc holds.1 stepped, holds.2.step holds.1 stepped⟩

end Placing

/-! ### Trades and keys -/

/-- What the id of an intent is a hash of: it has no timestamp, and the instrument in upper
case. -/
def clientText (request : PlaceRequest) : String :=
  "|".intercalate
    [strip ((tradeIdOf request.signalId).getD ""), upper (strip "PLACE_ORDER"),
      upper (strip (normalizeInstrument request.instrument)),
      upper (strip (printValue (request.side.or (.str ""))))]

/-- Two keys tell two trades apart exactly when the trades are cut alike. A placement that is
answered with a stored order gets that of its own trade exactly when it is cut alike with the
one that created the order, and one that is answered with a submitted intent gets that of its
own trade if no other trade that was placed has the same intent. -/
theorem keys_tell_trades_apart (config : EngineConfig)
    (injective : Function.Injective config.digest) :
    (∀ first second firstKey secondKey,
      buildIdempotencyKey config.digest first = .ok firstKey →
      buildIdempotencyKey config.digest second = .ok secondKey →
      ((firstKey = secondKey → tradeOf first = tradeOf second) ↔
        CutAlike (tradeOf first) (tradeOf second))) ∧
    ∀ entries engine env request placement, Run (PlacingStep config) .start entries engine →
      (placeOrder config env request engine).outcome = .ok placement →
      (∀ key order, placement = .duplicate key order →
        ∃ other, Creates config entries other order.orderId ∧
          (tradeOf other = tradeOf request ↔ CutAlike (tradeOf other) (tradeOf request))) ∧
      ∀ key clientOrderId, placement = .intentAlreadySubmitted key clientOrderId →
        (∀ other ∈ placed entries, clientText other = clientText request →
          tradeOf other = tradeOf request) →
        ∃ other ∈ placed entries, tradeOf other = tradeOf request := by
  refine ⟨?_, ?_⟩
  · intro first second firstKey secondKey ofFirst ofSecond
    have firstText := buildIdempotencyKey_eq ofFirst
    have secondText := buildIdempotencyKey_eq ofSecond
    constructor
    · intro apart
      by_cases texts : (tradeOf first).text = (tradeOf second).text
      · have same := apart (by rw [firstText, secondText, texts])
        exact (eq_iff_cutAlike texts).mp same
      · exact .inl texts
    · intro alike same
      rw [firstText, secondText] at same
      exact (eq_iff_cutAlike (injective same)).mpr alike
  · intro entries engine env request placement run answered
    have holds := placed_of_run run
    refine ⟨?_, ?_⟩
    · intro key order duplicate
      rw [duplicate] at answered
      rcases found_of_skips answered rfl with
        ⟨own, orderId, row, same, built, selected, rowKey⟩ | ⟨_, _, impossible, _⟩
      · cases same
        obtain ⟨other, otherKey, creates, otherBuilt, otherRow⟩ :=
          holds.orders orderId row selected
        have keyText := buildIdempotencyKey_eq built
        have otherText := buildIdempotencyKey_eq otherBuilt
        have digests := otherRow.symm.trans rowKey
        rw [keyText, otherText, config.strip_digest, config.strip_digest] at digests
        exact ⟨other, creates, eq_iff_cutAlike (injective digests)⟩
      · cases impossible
    · intro key clientOrderId submitted own
      rw [submitted] at answered
      rcases found_of_skips answered rfl with ⟨_, _, _, impossible, _⟩ | ⟨_, row, same, selected⟩
      · cases impossible
      · obtain ⟨other, member, sameId⟩ := holds.intents _ row selected
        exact ⟨other, member, own other member (injective sameId)⟩

/-- A stand-in for the hash: white space as strokes, so many as its code, and an arrow. -/
def strokes (char : Char) : List Char :=
  if isSpace char || char == '~' || char == '^' then List.replicate char.toNat '~' ++ ['^']
  else [char]

def strokeText (text : String) : String :=
  String.ofList ('h' :: text.toList.flatMap strokes)

theorem strokes_append_inj {first second : Char} {rest others : List Char}
    (same : strokes first ++ rest = strokes second ++ others) : first = second ∧ rest = others := by
  have counted : ∀ left right : ℕ,
      List.replicate left '~' ++ '^' :: rest = List.replicate right '~' ++ '^' :: others →
      left = right ∧ rest = others := by
    intro left
    induction left with
    | zero =>
        intro right equal
        cases right with
        | zero => exact ⟨rfl, List.tail_eq_of_cons_eq equal⟩
        | succ right => simp [List.replicate_succ] at equal
    | succ left ih =>
        intro right equal
        cases right with
        | zero => simp [List.replicate_succ] at equal
        | succ right =>
            simp only [List.replicate_succ, List.cons_append, List.cons.injEq, true_and] at equal
            obtain ⟨counts, rests⟩ := ih right equal
            exact ⟨congrArg Nat.succ counts, rests⟩
  -- A code is a stroke or an arrow first, and a letter that stands for itself is neither.
  have mixed : ∀ {count : ℕ} {char : Char} {tail tails : List Char},
      ¬(isSpace char || char == '~' || char == '^') = true →
      List.replicate count '~' ++ '^' :: tail ≠ char :: tails := by
    intro count char tail tails plain equal
    cases count with
    | zero =>
        rw [← List.head_eq_of_cons_eq equal] at plain
        exact plain (by decide)
    | succ count =>
        rw [← List.head_eq_of_cons_eq equal] at plain
        exact plain (by decide)
  unfold strokes at same
  split at same
  · split at same
    · simp only [List.append_assoc, List.singleton_append] at same
      obtain ⟨codes, rests⟩ := counted _ _ same
      exact ⟨Char.toNat_inj.mp codes, rests⟩
    · rename_i plain
      simp only [List.append_assoc, List.singleton_append] at same
      exact absurd same (mixed plain)
  · rename_i plain
    split at same
    · simp only [List.append_assoc, List.singleton_append] at same
      exact absurd same.symm (mixed plain)
    · exact ⟨List.head_eq_of_cons_eq same, List.tail_eq_of_cons_eq same⟩

theorem strokes_ne_nil (char : Char) : strokes char ≠ [] := by
  unfold strokes
  split
  · simp
  · simp

theorem strokeText_injective : Function.Injective strokeText := by
  intro first second same
  have letters := List.tail_eq_of_cons_eq (String.ofList_injective same)
  apply String.toList_inj.mp
  generalize first.toList = left at letters ⊢
  generalize second.toList = right at letters ⊢
  induction left generalizing right with
  | nil =>
      cases right with
      | nil => rfl
      | cons char rest => simp [strokes_ne_nil] at letters
  | cons char rest ih =>
      cases right with
      | nil => simp [strokes_ne_nil] at letters
      | cons other others =>
          rw [List.flatMap_cons, List.flatMap_cons] at letters
          obtain ⟨heads, tails⟩ := strokes_append_inj letters
          rw [heads, ih others tails]

theorem strokeText_solid (text : String) :
    strokeText text ≠ "" ∧ ∀ char ∈ (strokeText text).toList, isSpace char = false := by
  unfold strokeText
  constructor
  · intro empty
    have letters := congrArg String.toList empty
    rw [String.toList_ofList] at letters
    cases letters
  · intro char member
    rw [String.toList_ofList] at member
    rcases List.mem_cons.mp member with rfl | stroke
    · rfl
    · obtain ⟨code, -, stroke⟩ := List.mem_flatMap.mp stroke
      unfold strokes at stroke
      split at stroke
      · rcases List.mem_append.mp stroke with stroke | arrow
        · rw [List.eq_of_mem_replicate stroke]
          rfl
        · rw [List.mem_singleton.mp arrow]
          rfl
      · rename_i plain
        rw [List.mem_singleton.mp stroke]
        simp only [Bool.or_eq_true, not_or] at plain
        exact Bool.eq_false_iff.mpr plain.1.1

def strokeConfig : EngineConfig :=
  { digest := strokeText
    digest_solid := strokeText_solid
    failure := { attempts_positive := standardAttempts_positive }
    pretrade :=
      { rate_positive := Pretrade.standardRate_positive
        window_nonneg := Pretrade.standardWindow_nonneg } }

def deferredRequest (signalId instrument : String) : PlaceRequest :=
  { signalId := .str signalId
    instrument := .str instrument
    side := .str "B"
    timestamp := .str "t"
    orderId := some "first" }

/-- The id of the order that a placement was answered with instead of its own. -/
def Placing.foundOrder (placing : Placing) : Option String :=
  match placing.outcome with
  | .ok (.duplicate _ order) => some order.orderId
  | _ => none

theorem Placing.found {placing : Placing} {orderId : String}
    (found : placing.foundOrder = some orderId) :
    ∃ key order, placing.outcome = .ok (.duplicate key order) ∧ order.orderId = orderId := by
  unfold Placing.foundOrder at found
  split at found
  · rename_i key order answered
    cases found
    exact ⟨key, order, answered, rfl⟩
  · cases found

def firstPlaced : Engine :=
  (placeOrder strokeConfig (calmAt 1) (deferredRequest "S" "TX") .start).engine

def firstEntry : Entry :=
  (.place (calmAt 1) (deferredRequest "S" "TX"),
    (placeOrder strokeConfig (calmAt 1) (deferredRequest "S" "TX") .start).attempts)

theorem place_step (config : EngineConfig) (env : Environment) (request : PlaceRequest)
    (engine : Engine) :
    PlacingStep config engine (.place env request, (placeOrder config env request engine).attempts)
      (placeOrder config env request engine).engine :=
  ⟨rfl, trivial⟩

theorem first_run : Run (PlacingStep strokeConfig) .start [firstEntry] firstPlaced :=
  .cons (place_step strokeConfig (calmAt 1) (deferredRequest "S" "TX") .start) .nil

/-- A trade that is placed twice is answered with its own order. -/
theorem keys_tell_trades_apart_repeated :
    ∃ other, Creates strokeConfig [firstEntry] other "first" ∧
      (tradeOf other = tradeOf (deferredRequest "S" "TX") ↔
        CutAlike (tradeOf other) (tradeOf (deferredRequest "S" "TX"))) := by
  have found : (placeOrder strokeConfig (calmAt 2) (deferredRequest "S" "TX")
      firstPlaced).foundOrder = some "first" := by
    decide +kernel
  obtain ⟨key, order, answered, same⟩ := Placing.found found
  rw [← same]
  exact ((keys_tell_trades_apart strokeConfig strokeText_injective).2 _ _ _ _ _ first_run
    answered).1 key order rfl

/-- Two trades whose texts are cut at different places have one key, and the second is answered
with the order of the first. -/
theorem shifted_trade_answered_with_order :
    Function.Injective strokeConfig.digest ∧
      tradeOf (deferredRequest "S" "TX") ≠ tradeOf (deferredRequest "ST" "X") ∧
      (∃ key, buildIdempotencyKey strokeConfig.digest (deferredRequest "S" "TX") = .ok key ∧
        buildIdempotencyKey strokeConfig.digest (deferredRequest "ST" "X") = .ok key) ∧
      Run (PlacingStep strokeConfig) .start [firstEntry] firstPlaced ∧
      ∃ key order,
        (placeOrder strokeConfig (calmAt 2) (deferredRequest "ST" "X") firstPlaced).outcome =
          .ok (.duplicate key order) ∧ order.orderId = "first" := by
  have found : (placeOrder strokeConfig (calmAt 2) (deferredRequest "ST" "X")
      firstPlaced).foundOrder = some "first" := by
    decide +kernel
  have key : ∀ {signalId instrument : String}, (tradeOf (deferredRequest signalId instrument)) =
        ⟨signalId, instrument, "B", "t"⟩ → signalId ≠ "" → instrument ≠ "" →
      buildIdempotencyKey strokeConfig.digest (deferredRequest signalId instrument) =
        .ok (strokeText (signalId ++ instrument ++ "B" ++ "t")) := by
    intro signalId instrument same named listed
    have sided : "B" ≠ "" := by decide
    have timed : "t" ≠ "" := by decide
    rw [buildIdempotencyKey_trade, same, if_neg named, if_neg listed, if_neg sided, if_neg timed]
    rfl
  exact ⟨strokeText_injective, by decide,
    ⟨_, key (by decide) (by decide) (by decide), key (by decide) (by decide) (by decide)⟩,
    first_run, Placing.found found⟩

end Algotradify.Execution
