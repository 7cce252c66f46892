/-
What a paper order id names.

The id of an intent is a digest of candidate and timestamp, the id of an order a
digest of intent id and candidate, and the position ledger counts fills by order
id. Side and quantity are in neither digest, and a timestamp of zero prints like
an absent one.
-/

import Algotradify.Paper.IntentBridge
import Algotradify.Paper.Lifecycle
import Algotradify.Paper.PositionConservation

namespace Algotradify.Paper.OrderIdentity

open Py Transition Lifecycle IntentBridge PositionLedger PaperOrderLifecycleStatus

/-! ### Intents -/

def Creates (digest : String → String) (input : IntentInput) (intent : PaperOrderIntent) : Prop :=
  ∃ result, buildPaperOrderIntent digest input = .ok result ∧ result.intent = some intent

def candidateOf (input : IntentInput) : String :=
  printValue ((selected input.topExecutable).get "candidate_id")

def sideOf (input : IntentInput) : Option String :=
  (selectedSide (selected input.topExecutable)).map upper

def quantityOf (input : IntentInput) : Except PyError (Option Int) :=
  selectedQuantity (selected input.topExecutable)

def seedOf (input : IntentInput) : String :=
  intentSeed (candidateOf input) input.tsEpoch

structure Agree (first second : PaperOrderIntent) : Prop where
  candidateId : first.candidateId = second.candidateId
  createdAtEpoch : first.createdAtEpoch = second.createdAtEpoch
  side : first.transactionType.map upper = second.transactionType.map upper
  quantity : first.quantity = second.quantity

/-- Two inputs that ask for different orders of one candidate at timestamps that
print alike. -/
def Confusable (first second : IntentInput) : Prop :=
  candidateOf first = candidateOf second ∧
    printTimestamp first.tsEpoch = printTimestamp second.tsEpoch ∧
    ¬(first.tsEpoch = second.tsEpoch ∧ sideOf first = sideOf second ∧
      quantityOf first = quantityOf second)

structure Copies (digest : String → String) (input : IntentInput) (intent : PaperOrderIntent) :
    Prop where
  paperOrderIntentId : intent.paperOrderIntentId = "paper-" ++ digest (seedOf input)
  candidateId : intent.candidateId = candidateOf input
  createdAtEpoch : intent.createdAtEpoch = input.tsEpoch
  side : intent.transactionType.map upper = sideOf input
  quantity : quantityOf input = .ok intent.quantity

section Intents

variable {digest : String → String} {first second : IntentInput}
variable {firstIntent secondIntent : PaperOrderIntent}

theorem Creates.copies (creates : Creates digest first firstIntent) :
    Copies digest first firstIntent := by
  obtain ⟨result, built, same⟩ := creates
  unfold buildPaperOrderIntent at built
  obtain ⟨⟨blockers, warnings⟩, _, built⟩ := bind_eq_ok.mp built
  dsimp only at built
  split at built
  · cases built
    cases same
  · obtain ⟨quantity, readQuantity, built⟩ := bind_eq_ok.mp built
    obtain ⟨_, _, built⟩ := bind_eq_ok.mp built
    obtain ⟨_, _, built⟩ := bind_eq_ok.mp built
    obtain ⟨_, _, built⟩ := bind_eq_ok.mp built
    obtain ⟨_, _, built⟩ := bind_eq_ok.mp built
    cases built
    cases same
    exact ⟨rfl, rfl, rfl, rfl, readQuantity⟩

private theorem bar_notMem_printTimestamp (tsEpoch : Option PyFloat) :
    '|' ∉ (printTimestamp tsEpoch).toList := by
  intro member
  unfold printTimestamp at member
  split at member
  · split at member
    · exact absurd (numeral_printFloat _ '|' member) (by decide)
    · cases member
  · cases member

theorem seedOf_inj (same : seedOf first = seedOf second) :
    candidateOf first = candidateOf second ∧
      printTimestamp first.tsEpoch = printTimestamp second.tsEpoch := by
  have lists := congrArg String.toList same
  have bar : "|".toList = ['|'] := rfl
  simp only [seedOf, intentSeed, String.toList_append, bar, List.append_assoc,
    List.singleton_append] at lists
  obtain ⟨candidates, timestamps⟩ := joined_inj (bar_notMem_printTimestamp first.tsEpoch)
    (bar_notMem_printTimestamp second.tsEpoch) lists
  exact ⟨String.toList_inj.mp candidates, String.toList_inj.mp timestamps⟩

theorem intentId_eq_iff (collisionFree : digest (seedOf first) = digest (seedOf second) →
      seedOf first = seedOf second)
    (firstCopies : Copies digest first firstIntent)
    (secondCopies : Copies digest second secondIntent) :
    firstIntent.paperOrderIntentId = secondIntent.paperOrderIntentId ↔
      candidateOf first = candidateOf second ∧
        printTimestamp first.tsEpoch = printTimestamp second.tsEpoch := by
  rw [firstCopies.paperOrderIntentId, secondCopies.paperOrderIntentId]
  constructor
  · intro same
    exact seedOf_inj (collisionFree (String.append_right_inj _ |>.mp same))
  · rintro ⟨candidates, timestamps⟩
    rw [seedOf, seedOf, intentSeed, intentSeed, candidates, timestamps]

theorem agree_iff (firstCopies : Copies digest first firstIntent)
    (secondCopies : Copies digest second secondIntent) :
    Agree firstIntent secondIntent ↔ candidateOf first = candidateOf second ∧
      first.tsEpoch = second.tsEpoch ∧ sideOf first = sideOf second ∧
      quantityOf first = quantityOf second := by
  have quantities : firstIntent.quantity = secondIntent.quantity ↔
      quantityOf first = quantityOf second := by
    rw [firstCopies.quantity, secondCopies.quantity]
    exact (Except.ok.injEq _ _).to_iff.symm
  rw [← quantities, ← firstCopies.candidateId, ← secondCopies.candidateId,
    ← firstCopies.createdAtEpoch, ← secondCopies.createdAtEpoch, ← firstCopies.side,
    ← secondCopies.side]
  constructor
  · intro agree
    exact ⟨agree.candidateId, agree.createdAtEpoch, agree.side, agree.quantity⟩
  · rintro ⟨candidates, timestamps, sides, quantities⟩
    exact ⟨candidates, timestamps, sides, quantities⟩

theorem intentId_agree_iff (collisionFree : digest (seedOf first) = digest (seedOf second) →
      seedOf first = seedOf second)
    (firstCopies : Copies digest first firstIntent)
    (secondCopies : Copies digest second secondIntent) :
    (firstIntent.paperOrderIntentId = secondIntent.paperOrderIntentId →
      Agree firstIntent secondIntent) ↔ ¬Confusable first second := by
  rw [intentId_eq_iff collisionFree firstCopies secondCopies, agree_iff firstCopies secondCopies,
    Confusable]
  constructor
  · rintro agree ⟨candidates, timestamps, differ⟩
    exact differ (agree ⟨candidates, timestamps⟩).2
  · rintro apart ⟨candidates, timestamps⟩
    exact ⟨candidates, not_not.mp fun differ => apart ⟨candidates, timestamps, differ⟩⟩

end Intents

/-! ### Orders in the position ledger -/

/-- A lifecycle event of the order of a created intent, as the ledger gets it. -/
structure OrderFill where
  input : IntentInput
  intent : PaperOrderIntent
  event : PaperOrderLifecycleEvent
  tsEpoch : Option PyFloat := none

namespace OrderFill

def ledgerInput (fill : OrderFill) : LedgerInput :=
  { intent := .dict fill.intent.toDict
    lifecycleEvent := .dict fill.event.toDict
    tsEpoch := fill.tsEpoch }

def orderSeed (fill : OrderFill) : String :=
  fill.intent.paperOrderIntentId ++ "|" ++ fill.intent.candidateId

structure Made (digest : String → String) (fill : OrderFill) : Prop where
  intent : Creates digest fill.input fill.intent
  event : ∃ requestedStatus previous tsEpoch reason requestedFill averageFillPrice result,
    buildPaperOrderLifecycleEvent digest (.dict fill.intent.toDict) requestedStatus
        (eventValue previous) tsEpoch reason requestedFill averageFillPrice = .ok result ∧
      result.event = some fill.event

end OrderFill

def seeds (fills : List OrderFill) : Set String :=
  { seed | ∃ fill ∈ fills, seed = seedOf fill.input ∨ seed = fill.orderSeed }

section Orders

variable {digest : String → String} {fill first second : OrderFill}

theorem OrderFill.Made.orderId (made : fill.Made digest) :
    fill.event.paperOrderId = "paper-order-" ++ digest fill.orderSeed := by
  obtain ⟨_, previous, _, _, _, _, result, built, same⟩ := made.event
  cases build_outcome built with
  | blocked _ event =>
      rw [event] at same
      cases same
  | created _ _ _ event _ eventEq _ _ _ _ records =>
      rw [eventEq] at same
      cases same
      exact records.paperOrderId

theorem OrderFill.Made.filled_pos (made : fill.Made digest) (isFill : fill.event.status.IsFill) :
    0 < fill.event.filledQuantity := by
  obtain ⟨_, previous, _, _, _, _, result, built, same⟩ := made.event
  cases build_outcome built with
  | blocked _ event =>
      rw [event] at same
      cases same
  | created status _ _ event _ eventEq _ _ _ accepts records =>
      rw [eventEq] at same
      cases same
      rw [records.statusEq] at isFill
      obtain ⟨wanted, wantedEq, positive, _⟩ := accepts.fill isFill
      rw [records.filled isFill wanted wantedEq positive]
      exact positive

private theorem bar_notMem_intentId (hex : HexDigest digest) (text : String) :
    '|' ∉ ("paper-" ++ digest text).toList := by
  intro member
  rw [String.toList_append] at member
  rcases List.mem_append.mp member with stem | digits
  · exact absurd stem (by decide)
  · exact absurd (hex.hex text '|' digits) (by decide)

theorem intentId_eq_of_orderId_eq (hex : HexDigest digest)
    (collisionFree : Set.InjOn digest (seeds [first, second]))
    (firstMade : first.Made digest) (secondMade : second.Made digest)
    (same : first.event.paperOrderId = second.event.paperOrderId) :
    first.intent.paperOrderIntentId = second.intent.paperOrderIntentId := by
  rw [firstMade.orderId, secondMade.orderId] at same
  have sameSeed : first.orderSeed = second.orderSeed := by
    apply collisionFree
    · exact ⟨first, List.mem_cons_self, .inr rfl⟩
    · exact ⟨second, List.mem_cons_of_mem _ List.mem_cons_self, .inr rfl⟩
    · exact String.append_right_inj _ |>.mp same
  have lists := congrArg String.toList sameSeed
  have bar : "|".toList = ['|'] := rfl
  simp only [OrderFill.orderSeed, String.toList_append, bar, List.append_assoc,
    List.singleton_append] at lists
  have clean : ∀ fill : OrderFill, fill.Made digest → '|' ∉ fill.intent.paperOrderIntentId.toList := by
    intro fill made
    rw [made.intent.copies.paperOrderIntentId]
    exact bar_notMem_intentId hex _
  exact String.toList_inj.mp
    (joined_inj_first (clean first firstMade) (clean second secondMade) lists).1

/-- Orders with one id agree unless their inputs are confusable. -/
theorem agree_of_orderId_eq (hex : HexDigest digest)
    (collisionFree : Set.InjOn digest (seeds [first, second]))
    (firstMade : first.Made digest) (secondMade : second.Made digest)
    (apart : ¬Confusable first.input second.input)
    (same : first.event.paperOrderId = second.event.paperOrderId) :
    Agree first.intent second.intent := by
  have seedFree : digest (seedOf first.input) = digest (seedOf second.input) →
      seedOf first.input = seedOf second.input := by
    intro digests
    apply collisionFree
    · exact ⟨first, List.mem_cons_self, .inl rfl⟩
    · exact ⟨second, List.mem_cons_of_mem _ List.mem_cons_self, .inl rfl⟩
    · exact digests
  exact (intentId_agree_iff seedFree firstMade.intent.copies secondMade.intent.copies).mpr apart
    (intentId_eq_of_orderId_eq hex collisionFree firstMade secondMade same)

theorem repeated_fill_agrees {rounding : ℚ → ℚ} {start ledger : PyValue} {fills : List OrderFill}
    {exit : OrderFill} {result : PaperPositionLedgerResult} {warnings : List String}
    (hex : HexDigest digest) (starts : StartsEmpty start)
    (run : Run (LedgerStep rounding digest) start (fills.map OrderFill.ledgerInput) ledger)
    (made : ∀ fill ∈ exit :: fills, fill.Made digest)
    (collisionFree : Set.InjOn digest (seeds (exit :: fills)))
    (apart : ∀ fill ∈ fills, ¬Confusable fill.input exit.input)
    (isFill : exit.event.status.IsFill)
    (validated : validatePaperPositionLedgerInputs (.dict exit.intent.toDict)
      (.dict exit.event.toDict) ledger = .ok ([], warnings))
    (built : buildPaperPositionLedger rounding digest (.dict exit.intent.toDict)
      (.dict exit.event.toDict) ledger exit.tsEpoch = .ok result)
    (unapplied : result.updated = false) :
    ∃ fill ∈ fills, fill.event.paperOrderId = exit.event.paperOrderId ∧
      Agree fill.intent exit.intent ∧
      exit.event.filledQuantity ≤ fill.event.filledQuantity := by
  obtain ⟨book, represents, bookRun⟩ := run_book run starts.represents
  have exitMade := made exit List.mem_cons_self
  have positive := exitMade.filled_pos isFill
  have stored : ∀ fill : OrderFill, intOrZero (fill.event.toDict.get "filled_quantity") =
      .ok fill.event.filledQuantity := fun _ => rfl
  have statusText : upperText (exit.event.toDict.get "status") ∈ positionFillStatuses := by
    have status : exit.event.toDict.get "status" = .str exit.event.status.value := rfl
    rw [status]
    rcases isFill with partly | full
    · rw [partly]
      decide
    · rw [full]
      decide
  cases buildPaperPositionLedger_outcome represents.safeLedger built with
  | invalid blockers _ others blocked =>
      cases others.symm.trans validated
      exact absurd rfl blocked
  | notFill ignored => exact absurd statusText ignored
  | filled _ _ _ _ _ _ updated =>
      rw [unapplied] at updated
      cases updated
  | stale cumulative _ read covered =>
      cases (stored exit).symm.trans read
      change exit.event.filledQuantity ≤ book.filled exit.event.paperOrderId at covered
      rcases bookRun_filled_source bookRun exit.event.paperOrderId with zero | source
      · omega
      · obtain ⟨input, member, sameOrder, held⟩ := source
        obtain ⟨fill, fillMember, rfl⟩ := List.mem_map.mp member
        have heldEq := Except.ok.inj ((stored fill).symm.trans held)
        rw [← heldEq] at covered
        have subset : seeds [fill, exit] ⊆ seeds (exit :: fills) := by
          rintro seed ⟨other, present, isSeed⟩
          rcases List.mem_cons.mp present with rfl | present
          · exact ⟨other, List.mem_cons_of_mem exit fillMember, isSeed⟩
          · cases List.mem_singleton.mp present
            exact ⟨exit, List.mem_cons_self, isSeed⟩
        refine ⟨fill, fillMember, sameOrder, ?_, covered⟩
        exact agree_of_orderId_eq hex (collisionFree.mono subset)
          (made fill (List.mem_cons_of_mem exit fillMember)) exitMade (apart fill fillMember)
          sameOrder

end Orders

/-- An intent id names one order exactly for inputs that are not confusable, and in
runs without confusable fills the ledger takes a fill for a repeated one only when
it repeats a fill of the same order. -/
theorem paperOrderId_names_order {digest : String → String} (hex : HexDigest digest) :
    (∀ first second firstIntent secondIntent, Creates digest first firstIntent →
        Creates digest second secondIntent →
        Set.InjOn digest { seedOf first, seedOf second } →
        ((firstIntent.paperOrderIntentId = secondIntent.paperOrderIntentId →
          Agree firstIntent secondIntent) ↔ ¬Confusable first second)) ∧
      ∀ rounding start fills ledger, StartsEmpty start →
        Run (LedgerStep rounding digest) start (fills.map OrderFill.ledgerInput) ledger →
        ∀ exit, (∀ fill ∈ exit :: fills, fill.Made digest) →
        Set.InjOn digest (seeds (exit :: fills)) →
        (∀ fill ∈ fills, ¬Confusable fill.input exit.input) → exit.event.status.IsFill →
        ∀ warnings result, validatePaperPositionLedgerInputs (.dict exit.intent.toDict)
            (.dict exit.event.toDict) ledger = .ok ([], warnings) →
          buildPaperPositionLedger rounding digest (.dict exit.intent.toDict)
            (.dict exit.event.toDict) ledger exit.tsEpoch = .ok result →
          result.updated = false →
          ∃ fill ∈ fills, fill.event.paperOrderId = exit.event.paperOrderId ∧
            Agree fill.intent exit.intent ∧
            exit.event.filledQuantity ≤ fill.event.filledQuantity := by
  constructor
  · intro first second firstIntent secondIntent firstCreates secondCreates collisionFree
    exact intentId_agree_iff (fun same => collisionFree (.inl rfl) (.inr rfl) same)
      firstCreates.copies secondCreates.copies
  · intro rounding start fills ledger starts run exit made collisionFree apart isFill warnings
      result validated built unapplied
    exact repeated_fill_agrees hex starts run made collisionFree apart isFill validated built
      unapplied

/-! ### An entry and an exit of one candidate at one timestamp -/

section Example

/-- The first sixteen digits of the SHA-256 digests of the texts that occur below. -/
private def tabledDigest : String → String :=
  tableDigest [("c1|100.0", "ee0043a7d82ef855"),
    ("paper-ee0043a7d82ef855|c1", "263c76c488a4842f")]

private theorem tabledDigest_hex : HexDigest tabledDigest :=
  tableDigest_hex (by decide)

private def selectionOf (side : String) (price : Int) : IntentInput :=
  { topExecutable := .dict [("status", .str "SELECTED"),
      ("selected", .dict [("candidate_id", .str "c1"), ("instrument_token", .str "12345"),
        ("transaction_type", .str side), ("quantity", .int 10), ("price", .int price),
        ("is_order", .bool false)])]
    executionSafety := .dict [("execution_permitted", .bool true),
      ("is_order_action", .bool false)]
    tsEpoch := some (.finite 100) }

private def intentOf (input : IntentInput) : PaperOrderIntent :=
  ((buildPaperOrderIntent tabledDigest input).toOption.bind PaperOrderIntentResult.intent).getD
    { paperOrderIntentId := "", candidateId := "" }

private def eventAfter (intent : PaperOrderIntent) (previous : Option PaperOrderLifecycleEvent)
    (call : String × PyValue) : Option PaperOrderLifecycleEvent :=
  (buildPaperOrderLifecycleEvent tabledDigest (.dict intent.toDict) call.1 (eventValue previous)
    none none call.2 (.int 100)).toOption.bind PaperOrderLifecycleResult.event

private def openedOf (intent : PaperOrderIntent) : Option PaperOrderLifecycleEvent :=
  [("CREATED", PyValue.none), ("ACCEPTED", .none), ("OPEN", .none)].foldl (eventAfter intent) none

private def fullFillOf (input : IntentInput) : OrderFill :=
  let event := eventAfter (intentOf input) (openedOf (intentOf input)) ("FILLED", .int 10)
  { input := input
    intent := intentOf input
    event := event.getD ⟨"", "", "", .created, none, none, 0, none, none, 0, "", [], []⟩ }

private theorem selection_creates (side : String) (price : Int)
    (built : ((buildPaperOrderIntent tabledDigest (selectionOf side price)).toOption.bind
      PaperOrderIntentResult.intent).isSome = true) :
    Creates tabledDigest (selectionOf side price) (intentOf (selectionOf side price)) := by
  unfold intentOf
  cases call : buildPaperOrderIntent tabledDigest (selectionOf side price) with
  | error raised =>
      rw [call] at built
      cases built
  | ok result =>
      rw [call] at built
      obtain ⟨intent, same⟩ := Option.isSome_iff_exists.mp built
      refine ⟨result, call, ?_⟩
      change result.intent = some intent at same
      change result.intent = some (result.intent.getD _)
      rw [same, Option.getD_some]

private def entryOrder : IntentInput := selectionOf "BUY" 100

private def exitOrder : IntentInput := selectionOf "SELL" 105

/-- A buy and a sell of one candidate at one timestamp get one order id, and the
ledger takes the fill of the sell for the fill of the buy. -/
theorem paperOrderId_shared :
    Creates tabledDigest entryOrder (intentOf entryOrder) ∧
      Creates tabledDigest exitOrder (intentOf exitOrder) ∧
      (intentOf entryOrder).paperOrderIntentId = (intentOf exitOrder).paperOrderIntentId ∧
      ¬Agree (intentOf entryOrder) (intentOf exitOrder) ∧
      (buildPaperPositionLedger id tabledDigest (.dict (fullFillOf exitOrder).intent.toDict)
        (.dict (fullFillOf exitOrder).event.toDict)
        (ledgerAfter id tabledDigest .none (fullFillOf entryOrder).ledgerInput) none).toOption.map
          PaperPositionLedgerResult.status = some .noPositionChange := by
  refine ⟨selection_creates _ _ (by decide), selection_creates _ _ (by decide),
    by decide, ?_, by decide⟩
  intro agree
  exact absurd agree.side (by decide)

private theorem fullFill_made (side : String) (price : Int)
    (created : ((buildPaperOrderIntent tabledDigest (selectionOf side price)).toOption.bind
      PaperOrderIntentResult.intent).isSome = true)
    (filled : (eventAfter (intentOf (selectionOf side price))
      (openedOf (intentOf (selectionOf side price))) ("FILLED", .int 10)).isSome = true) :
    (fullFillOf (selectionOf side price)).Made tabledDigest := by
  refine ⟨selection_creates side price created, ?_⟩
  obtain ⟨event, same⟩ := Option.isSome_iff_exists.mp filled
  have stored : (fullFillOf (selectionOf side price)).event = event := by
    unfold fullFillOf
    dsimp only
    rw [same, Option.getD_some]
  rw [stored]
  unfold eventAfter at same
  obtain ⟨result, call, eventEq⟩ := Option.bind_eq_some_iff.mp same
  exact ⟨"FILLED", openedOf (intentOf (selectionOf side price)), none, none, .int 10, .int 100,
    result, eq_ok_of_toOption call, eventEq⟩

private def repricedOrder : IntentInput := selectionOf "BUY" 101

theorem paperOrderId_names_order_repriced :
    Agree (intentOf entryOrder) (intentOf repricedOrder) ∧
      ∃ fill ∈ [fullFillOf entryOrder],
        fill.event.paperOrderId = (fullFillOf repricedOrder).event.paperOrderId ∧
          Agree fill.intent (fullFillOf repricedOrder).intent ∧
          (fullFillOf repricedOrder).event.filledQuantity ≤ fill.event.filledQuantity := by
  have alike : ¬Confusable entryOrder repricedOrder := by
    rintro ⟨_, _, differ⟩
    exact differ ⟨rfl, rfl, rfl⟩
  have entryMade : (fullFillOf entryOrder).Made tabledDigest :=
    fullFill_made "BUY" 100 (by decide) (by decide)
  have repricedMade : (fullFillOf repricedOrder).Made tabledDigest :=
    fullFill_made "BUY" 101 (by decide) (by decide)
  have made : ∀ fill ∈ [fullFillOf repricedOrder, fullFillOf entryOrder], fill.Made tabledDigest := by
    intro fill member
    rcases List.mem_cons.mp member with rfl | member
    · exact repricedMade
    · cases List.mem_singleton.mp member
      exact entryMade
  have intentSeeds : seedOf entryOrder = "c1|100.0" ∧ seedOf repricedOrder = "c1|100.0" := by
    decide
  have orderSeeds : (fullFillOf entryOrder).orderSeed = "paper-ee0043a7d82ef855|c1" ∧
      (fullFillOf repricedOrder).orderSeed = "paper-ee0043a7d82ef855|c1" := by
    decide
  have collisionFree : Set.InjOn tabledDigest
      (seeds [fullFillOf repricedOrder, fullFillOf entryOrder]) := by
    have known : ∀ seed ∈ seeds [fullFillOf repricedOrder, fullFillOf entryOrder],
        seed = "c1|100.0" ∨ seed = "paper-ee0043a7d82ef855|c1" := by
      rintro seed ⟨fill, member, isSeed⟩
      rcases List.mem_cons.mp member with rfl | member
      · exact isSeed.imp (·.trans intentSeeds.2) (·.trans orderSeeds.2)
      · cases List.mem_singleton.mp member
        exact isSeed.imp (·.trans intentSeeds.1) (·.trans orderSeeds.1)
    intro left leftSeed right rightSeed same
    rcases known left leftSeed with rfl | rfl <;> rcases known right rightSeed with rfl | rfl
    · rfl
    · exact absurd same (by decide)
    · exact absurd same (by decide)
    · rfl
  obtain ⟨pairs, runs⟩ := paperOrderId_names_order tabledDigest_hex
  constructor
  · refine (pairs entryOrder repricedOrder _ _ entryMade.intent repricedMade.intent ?_).mpr alike
      (by decide)
    intro left leftSeed right rightSeed _
    have same : ∀ seed ∈ ({seedOf entryOrder, seedOf repricedOrder} : Set String),
        seed = "c1|100.0" := by
      rintro seed (rfl | rfl)
      · exact intentSeeds.1
      · exact intentSeeds.2
    rw [same left leftSeed, same right rightSeed]
  · have run : Run (LedgerStep id tabledDigest) .none
        ([fullFillOf entryOrder].map OrderFill.ledgerInput)
        (ledgerAfter id tabledDigest .none (fullFillOf entryOrder).ledgerInput) :=
      .snoc .nil rfl
    obtain ⟨⟨blockers, warnings⟩, validated, clear⟩ := Option.map_eq_some_iff.mp
      (show (validatePaperPositionLedgerInputs (.dict (fullFillOf repricedOrder).intent.toDict)
        (.dict (fullFillOf repricedOrder).event.toDict)
        (ledgerAfter id tabledDigest .none (fullFillOf entryOrder).ledgerInput)).toOption.map
          Prod.fst = some [] by decide)
    obtain ⟨result, built, unapplied⟩ := Option.map_eq_some_iff.mp
      (show (buildPaperPositionLedger id tabledDigest (.dict (fullFillOf repricedOrder).intent.toDict)
        (.dict (fullFillOf repricedOrder).event.toDict)
        (ledgerAfter id tabledDigest .none (fullFillOf entryOrder).ledgerInput) none).toOption.map
          PaperPositionLedgerResult.updated = some false by decide)
    change blockers = [] at clear
    subst clear
    exact runs id .none [fullFillOf entryOrder] _ (.inl rfl) run (fullFillOf repricedOrder) made
      collisionFree (by
        intro fill member
        cases List.mem_singleton.mp member
        exact alike) (by decide) warnings result (eq_ok_of_toOption validated)
      (eq_ok_of_toOption built) unapplied

end Example

end Algotradify.Paper.OrderIdentity
