/-
One fill in the two ledgers: the position ledger takes off a position what the realized
ledger books.

Each ledger validates its inputs on its own. A closing fill is what both of them read
off the inputs alike; the rest of what each asks for stays a condition of its own.
-/

import Algotradify.Paper.RealizedPnl
import Algotradify.Paper.PositionConservation
import Algotradify.Py.Comprehension

namespace Algotradify.Paper.PositionLedger

open Py RealizedPnl

/-! ### What both ledgers check -/

structure SharedChecks (ledger intent event : PyDict) : Prop where
  intentChecked : dedupe (realizedIntentBlockers intent) = []
  eventChecked : ∃ blockers, lifecycleEventBlockers event = .ok blockers ∧ dedupe blockers = []
  matched : dedupe (mismatchBlockers intent event) = []
  ledgerChecked : dedupe (positionLedgerBlockers ledger "PAPER_POSITION_LEDGER") = []

theorem positionLedgerBlockers_texts (ledger : PyDict) :
    dedupe (positionLedgerBlockers ledger "PREVIOUS_PAPER_POSITION_LEDGER") = [] ↔
      dedupe (positionLedgerBlockers ledger "PAPER_POSITION_LEDGER") = [] := by
  simp only [positionLedgerBlockers, validateSafeFlags, dedupe_append_eq_nil]
  simp (disch := decide +kernel) only [dedupe_blockerIf_eq_nil]

theorem checkedLedger_ne_nil {ledger : PyDict}
    (checked : dedupe (positionLedgerBlockers ledger "PAPER_POSITION_LEDGER") = []) :
    ledger ≠ [] := by
  rintro rfl
  exact absurd checked (by decide)

theorem checkedLedger_shape {ledger : PyDict}
    (checked : dedupe (positionLedgerBlockers ledger "PAPER_POSITION_LEDGER") = []) :
    ledger.get "ledger_type" = .str "PAPER_POSITION_LEDGER" ∧
      (∃ positions, ledger.get "positions" = .dict positions) ∧
      ∃ orderFills, ledger.get "order_fills" = .dict orderFills := by
  have isDict : ∀ value : PyValue, value.isDict = true → ∃ entries, value = .dict entries := by
    intro value dict
    cases value with
    | dict entries => exact ⟨entries, rfl⟩
    | _ => cases dict
  simp only [positionLedgerBlockers, dedupe_append_eq_nil] at checked
  obtain ⟨⟨⟨ofType, _ofFlags⟩, ofPositions⟩, ofFills⟩ := checked
  simp (disch := decide) only [dedupe_blockerIf_eq_nil, Bool.not_eq_false', PyValue.isStr_eq_true]
    at ofType ofPositions ofFills
  exact ⟨ofType, isDict _ ofPositions, isDict _ ofFills⟩

theorem safeLedger_checked {ledger : PyValue}
    (checked : dedupe (positionLedgerBlockers ledger.asDict "PAPER_POSITION_LEDGER") = []) :
    safeLedger ledger = ledger.asDict := by
  obtain ⟨ofType, _positions, _orderFills⟩ := checkedLedger_shape checked
  cases ledger with
  | dict entries =>
      apply if_pos
      rw [PyValue.isDict_dict, Bool.true_and, PyValue.isStr_eq_true]
      exact ofType
  | _ => cases ofType

theorem intentBlockers_empty_iff (intent : PyDict) :
    (∃ blockers, intentBlockers intent = .ok blockers ∧ dedupe blockers = []) ↔
      dedupe (realizedIntentBlockers intent) = [] ∧
        ∃ quantity, intOrZero (intent.get "quantity") = .ok quantity ∧ 0 < quantity := by
  unfold intentBlockers realizedIntentBlockers
  by_cases empty : intent.isEmpty = true
  · rw [if_pos empty, if_pos empty]
    constructor
    · rintro ⟨blockers, checked, clear⟩
      cases checked
      exact absurd clear (by decide)
    · rintro ⟨clear, _⟩
      exact absurd clear (by decide)
  · rw [if_neg empty, if_neg empty]
    simp only [bind_eq_ok, dedupe_append_eq_nil]
    constructor
    · rintro ⟨blockers, ⟨quantity, read, checked⟩, clear⟩
      cases checked
      simp only [dedupe_append_eq_nil] at clear
      obtain ⟨⟨⟨ofType, ofFlags⟩, ofQuantity⟩, ofSide⟩ := clear
      rw [dedupe_blockerIf_eq_nil _ (by decide), decide_eq_false_iff_not, not_le] at ofQuantity
      exact ⟨⟨⟨ofType, ofFlags⟩, ofSide⟩, quantity, read, ofQuantity⟩
    · rintro ⟨⟨⟨ofType, ofFlags⟩, ofSide⟩, quantity, read, positive⟩
      refine ⟨_, ⟨quantity, read, rfl⟩, ?_⟩
      simp only [dedupe_append_eq_nil]
      refine ⟨⟨⟨ofType, ofFlags⟩, ?_⟩, ofSide⟩
      rw [dedupe_blockerIf_eq_nil _ (by decide), decide_eq_false_iff_not, not_le]
      exact positive

section Inputs

variable {ledger intent lifecycleEvent realizedLedger : PyValue}

theorem validated_position_iff (given : ledger.asDict ≠ []) :
    (∃ warnings, validatePaperPositionLedgerInputs intent lifecycleEvent ledger =
        .ok ([], warnings)) ↔
      SharedChecks ledger.asDict intent.asDict lifecycleEvent.asDict ∧
        ∃ quantity, intOrZero (intent.asDict.get "quantity") = .ok quantity ∧ 0 < quantity := by
  have stored : ledger.asDict.isEmpty ≠ true := fun empty => given (List.isEmpty_iff.mp empty)
  unfold validatePaperPositionLedgerInputs
  simp only [bind_eq_ok]
  constructor
  · rintro ⟨warnings, ofIntent, intentRead, ofEvent, eventRead, validated⟩
    have clear := congrArg Prod.fst (Except.ok.inj validated)
    simp only [if_neg stored, dedupe_append_eq_nil] at clear
    obtain ⟨⟨⟨intentClear, eventClear⟩, matched⟩, ledgerChecked⟩ := clear
    obtain ⟨intentChecked, positive⟩ :=
      (intentBlockers_empty_iff _).mp ⟨ofIntent, intentRead, intentClear⟩
    exact ⟨⟨intentChecked, ⟨ofEvent, eventRead, eventClear⟩, matched, ledgerChecked⟩, positive⟩
  · rintro ⟨checks, positive⟩
    obtain ⟨ofIntent, intentRead, intentClear⟩ :=
      (intentBlockers_empty_iff _).mpr ⟨checks.intentChecked, positive⟩
    obtain ⟨ofEvent, eventRead, eventClear⟩ := checks.eventChecked
    refine ⟨dedupe (blockerIf (ledger.asDict.isEmpty && ledger.isNone)
      "PAPER_POSITION_LEDGER_STARTING_EMPTY"), ofIntent, intentRead, ofEvent, eventRead, ?_⟩
    apply congrArg Except.ok
    refine Prod.ext ?_ rfl
    simp only [if_neg stored, dedupe_append_eq_nil]
    exact ⟨⟨⟨intentClear, eventClear⟩, checks.matched⟩, checks.ledgerChecked⟩

/-- A realized ledger record that the module reads without a blocker, or none. -/
def ReadableLedger (realizedLedger : PyDict) : Prop :=
  realizedLedger = [] ∨ dedupe (realizedLedgerBlockers realizedLedger) = []

theorem validated_realized_iff :
    (∃ warnings, validatePaperRealizedPnlInputs ledger intent lifecycleEvent realizedLedger =
        .ok ([], warnings)) ↔
      SharedChecks ledger.asDict intent.asDict lifecycleEvent.asDict ∧
        ReadableLedger realizedLedger.asDict := by
  unfold validatePaperRealizedPnlInputs
  simp only [bind_eq_ok]
  have ofRealized : dedupe (if realizedLedger.asDict.isEmpty = true then []
      else realizedLedgerBlockers realizedLedger.asDict) = [] ↔
      ReadableLedger realizedLedger.asDict := by
    unfold ReadableLedger
    split
    · rename_i empty
      exact iff_of_true rfl (.inl (List.isEmpty_iff.mp empty))
    · rename_i stored
      rw [List.isEmpty_iff] at stored
      exact (or_iff_right stored).symm
  constructor
  · rintro ⟨warnings, ofEvent, eventRead, validated⟩
    have clear := congrArg Prod.fst (Except.ok.inj validated)
    simp only [dedupe_append_eq_nil] at clear
    obtain ⟨⟨⟨⟨ledgerClear, intentChecked⟩, eventClear⟩, matched⟩, realizedClear⟩ := clear
    refine ⟨⟨intentChecked, ⟨ofEvent, eventRead, eventClear⟩, matched, ?_⟩,
      ofRealized.mp realizedClear⟩
    split at ledgerClear
    · exact absurd ledgerClear (by decide)
    · exact (positionLedgerBlockers_texts _).mp ledgerClear
  · rintro ⟨checks, readable⟩
    obtain ⟨ofEvent, eventRead, eventClear⟩ := checks.eventChecked
    have stored : ledger.asDict.isEmpty ≠ true := fun empty =>
      checkedLedger_ne_nil checks.ledgerChecked (List.isEmpty_iff.mp empty)
    refine ⟨dedupe (blockerIf (realizedLedger.asDict.isEmpty && realizedLedger.isNone)
      "PAPER_REALIZED_PNL_LEDGER_STARTING_EMPTY"), ofEvent, eventRead, ?_⟩
    apply congrArg Except.ok
    refine Prod.ext ?_ rfl
    simp only [if_neg stored, dedupe_append_eq_nil]
    exact ⟨⟨⟨⟨(positionLedgerBlockers_texts _).mpr checks.ledgerChecked, checks.intentChecked⟩,
      eventClear⟩, checks.matched⟩, ofRealized.mpr readable⟩

end Inputs

/-! ### Closing fills -/

def PaperPositionLedgerStatus.takesOff : PaperPositionLedgerStatus → Bool
  | .positionReduced => true
  | .positionClosed => true
  | .positionReversed => true
  | _ => false

def heldPosition (ledger intent : PyDict) : PyDict :=
  previousPosition ledger (positionKey intent)

/-- A fill event that both ledgers read as `delta` against a net quantity. -/
structure ClosingFill (ledger intent event : PyDict) (cumulative previousFilled net : Int) :
    Prop where
  checks : SharedChecks ledger intent event
  isFill : upperText (event.get "status") ∈ positionFillStatuses
  read : intOrZero (event.get "filled_quantity") = .ok cumulative
  readPrevious : previousOrderFillQuantity ledger (printValue (event.get "paper_order_id")) =
    .ok previousFilled
  fresh : previousFilled < cumulative
  held : intOrZero ((heldPosition ledger intent).get "net_quantity") = .ok net
  closes : net * Book.signed intent (cumulative - previousFilled) < 0

theorem realizedQuantity_of_closes {net delta : Int} (closes : net * delta < 0) :
    realizedQuantity net delta = min net.natAbs delta.natAbs ∧ 0 < realizedQuantity net delta := by
  have netMoves : net ≠ 0 := by
    rintro rfl
    rw [zero_mul] at closes
    exact lt_irrefl _ closes
  have deltaMoves : delta ≠ 0 := by
    rintro rfl
    rw [mul_zero] at closes
    exact lt_irrefl _ closes
  have moves : ¬(net = 0 ∨ delta = 0) := fun either => either.elim netMoves deltaMoves
  have against : ¬net * delta ≥ 0 := not_le.mpr closes
  have closed : realizedQuantity net delta = min net.natAbs delta.natAbs := by
    unfold realizedQuantity
    rw [if_neg moves, if_neg against]
    omega
  refine ⟨closed, ?_⟩
  rw [closed]
  omega

theorem closes_of_realizedQuantity_pos {net delta : Int} (positive : 0 < realizedQuantity net delta) :
    net * delta < 0 := by
  unfold realizedQuantity at positive
  split at positive
  · exact absurd positive (lt_irrefl _)
  · split at positive
    · exact absurd positive (lt_irrefl _)
    · rename_i against
      exact not_le.mp against

theorem ClosingFill.held_ne_zero {ledger intent event : PyDict} {cumulative previousFilled net : Int}
    (fill : ClosingFill ledger intent event cumulative previousFilled net) : net ≠ 0 := by
  intro flat
  have closes := fill.closes
  rw [flat, zero_mul] at closes
  exact lt_irrefl _ closes

theorem stored_position_iff {digest : String → String} {positions intent previous : PyDict}
    {key : String} {net : Int} (open_ : net ≠ 0)
    (read : intOrZero (previous.get "net_quantity") = .ok net) :
    toDict ((positions.get key).or (.dict (emptyPosition digest intent key))) = .ok previous ↔
      (positions.get key).asDict = previous := by
  by_cases stored : (positions.get key).truthy = true
  · rw [PyValue.or, if_pos stored]
    cases value : positions.get key with
    | dict entries =>
        constructor
        · intro same
          cases same
          rfl
        · intro same
          cases same
          rfl
    | _ =>
        constructor
        · intro impossible
          cases impossible
        · intro same
          cases same
          exact absurd (Except.ok.inj read).symm open_
  · rw [PyValue.or, if_neg stored]
    constructor
    · intro same
      cases same
      exact absurd (Except.ok.inj read).symm open_
    · intro same
      have missing : (positions.get key).asDict = [] := by
        cases value : positions.get key with
        | dict entries =>
            rw [value] at stored
            cases entries with
            | nil => rfl
            | cons entry rest => exact absurd rfl stored
        | _ => rfl
      rw [← same, missing] at read
      exact absurd (Except.ok.inj read).symm open_

theorem heldPosition_eq {ledger intent positions : PyDict}
    (stored : ledger.get "positions" = .dict positions) :
    heldPosition ledger intent = (positions.get (positionKey intent)).asDict := by
  unfold heldPosition previousPosition
  rw [stored, PyValue.asDict_dict]

theorem signed_ne_zero {intent : PyDict} {quantity : Int} (moves : quantity ≠ 0) :
    Book.signed intent quantity ≠ 0 := by
  unfold Book.signed
  split
  · exact moves
  · omega

section OneFill

variable {rounding : ℚ → ℚ} {digest : String → String}
variable {ledger intent lifecycleEvent realizedLedger : PyValue} {tsEpoch : Option PyFloat}
variable {cumulative previousFilled net : Int}

theorem booked_closingFill {booked : PaperRealizedPnlResult}
    (built : buildPaperRealizedPnl rounding digest ledger intent lifecycleEvent realizedLedger
      tsEpoch = .ok booked) (realized : booked.status = .realized) :
    ∃ cumulative previousFilled net,
      ClosingFill ledger.asDict intent.asDict lifecycleEvent.asDict cumulative previousFilled net ∧
      booked.realizedQuantity =
        realizedQuantity net (Book.signed intent.asDict (cumulative - previousFilled)) := by
  unfold buildPaperRealizedPnl at built
  obtain ⟨⟨blockers, warnings⟩, validated, built⟩ := bind_eq_ok.mp built
  obtain ⟨safeLedger, _read, built⟩ := bind_eq_ok.mp built
  dsimp only at built
  by_cases blocked : blockers ≠ []
  · rw [if_pos blocked] at built
    cases built
    cases realized
  rw [if_neg blocked] at built
  by_cases ignored : upperText (lifecycleEvent.asDict.get "status") ∉ fillEventStatuses
  · rw [if_pos ignored] at built
    cases built
    cases realized
  rw [if_neg ignored] at built
  obtain ⟨cumulative, read, built⟩ := bind_eq_ok.mp built
  obtain ⟨previousFilled, readPrevious, built⟩ := bind_eq_ok.mp built
  by_cases regressed : cumulative < previousFilled
  · rw [if_pos regressed] at built
    cases built
    cases realized
  rw [if_neg regressed] at built
  by_cases repeated : cumulative - previousFilled = 0
  · rw [if_pos repeated] at built
    cases built
    cases realized
  rw [if_neg repeated] at built
  unfold realizeFill at built
  obtain ⟨keys, _keysRead, built⟩ := bind_eq_ok.mp built
  dsimp only at built
  split at built
  · cases built
  split at built
  · cases built
    cases realized
  obtain ⟨net, held, built⟩ := bind_eq_ok.mp built
  change (if realizedQuantity net (Book.signed intent.asDict (cumulative - previousFilled)) ≤ 0
    then _ else _) = _ at built
  by_cases opens :
      realizedQuantity net (Book.signed intent.asDict (cumulative - previousFilled)) ≤ 0
  · rw [if_pos opens] at built
    obtain ⟨_extended, _appended, built⟩ := bind_eq_ok.mp built
    cases built
    cases realized
  rw [if_neg opens] at built
  split at built
  · obtain ⟨_extended, _appended, built⟩ := bind_eq_ok.mp built
    cases built
    rw [not_not.mp blocked] at validated
    obtain ⟨checks, _readable⟩ := validated_realized_iff.mp ⟨warnings, validated⟩
    exact ⟨cumulative, previousFilled, net,
      ⟨checks, not_not.mp ignored, read, readPrevious, by omega, held,
        closes_of_realizedQuantity_pos (not_le.mp opens)⟩, rfl⟩
  · cases built
    cases realized

theorem positionStatus_closes {net delta : Int} (moves : delta ≠ 0)
    (reduces : (positionStatus net (net + delta) delta).takesOff = true) : net * delta < 0 := by
  by_contra along
  have same : 0 ≤ net * delta := not_lt.mp along
  have grows : net = 0 ∨ (0 < net ∧ 0 < delta) ∨ (net < 0 ∧ delta < 0) := by
    rcases lt_trichotomy net 0 with short | flat | long
    · rcases lt_or_gt_of_ne moves with sells | buys
      · exact .inr (.inr ⟨short, sells⟩)
      · exact absurd (mul_neg_of_neg_of_pos short buys) along
    · exact .inl flat
    · rcases lt_or_gt_of_ne moves with sells | buys
      · exact absurd (mul_neg_of_pos_of_neg long sells) along
      · exact .inr (.inl ⟨long, buys⟩)
  have stays : ¬net * (net + delta) < 0 := by
    rw [mul_add, not_lt]
    exact add_nonneg (mul_self_nonneg net) same
  unfold positionStatus at reduces
  rw [if_neg stays] at reduces
  split at reduces
  · cases reduces
  split at reduces
  · omega
  split at reduces
  · cases reduces
  split at reduces
  · omega
  · cases reduces

theorem applied_closingFill {applied : PaperPositionLedgerResult}
    (built : buildPaperPositionLedger rounding digest intent lifecycleEvent ledger tsEpoch =
      .ok applied)
    (reduces : applied.status.takesOff = true) :
    ∃ cumulative previousFilled net,
      ClosingFill ledger.asDict intent.asDict lifecycleEvent.asDict cumulative previousFilled net ∧
      applied.signedDeltaQuantity = Book.signed intent.asDict (cumulative - previousFilled) := by
  unfold buildPaperPositionLedger at built
  obtain ⟨⟨blockers, warnings⟩, validated, built⟩ := bind_eq_ok.mp built
  dsimp only at built
  by_cases blocked : blockers ≠ []
  · rw [if_pos blocked] at built
    cases built
    cases reduces
  rw [if_neg blocked] at built
  by_cases ignored : upperText (lifecycleEvent.asDict.get "status") ∉ positionFillStatuses
  · rw [if_pos ignored] at built
    cases built
    cases reduces
  rw [if_neg ignored] at built
  obtain ⟨cumulative, read, built⟩ := bind_eq_ok.mp built
  obtain ⟨previousFilled, readPrevious, built⟩ := bind_eq_ok.mp built
  by_cases regressed : cumulative < previousFilled
  · rw [if_pos regressed] at built
    cases built
    cases reduces
  rw [if_neg regressed] at built
  by_cases repeated : cumulative - previousFilled = 0
  · rw [if_pos repeated] at built
    cases built
    cases reduces
  rw [if_neg repeated] at built
  unfold applyFill at built
  obtain ⟨positions, positionsRead, built⟩ := bind_eq_ok.mp built
  obtain ⟨previous, previousRead, built⟩ := bind_eq_ok.mp built
  obtain ⟨position, _positionRead, built⟩ := bind_eq_ok.mp built
  obtain ⟨_orderFills, _fillsRead, built⟩ := bind_eq_ok.mp built
  obtain ⟨net, held, built⟩ := bind_eq_ok.mp built
  cases built
  change (positionStatus net (net + Book.signed intent.asDict (cumulative - previousFilled))
    (Book.signed intent.asDict (cumulative - previousFilled))).takesOff = true at reduces
  have closes := positionStatus_closes (signed_ne_zero repeated) reduces
  have isOpen : net ≠ 0 := by
    rintro rfl
    rw [zero_mul] at closes
    exact lt_irrefl _ closes
  have given : ledger.asDict ≠ [] := by
    intro missing
    have started : safeLedger ledger = buildLedger [] [] .none := by
      apply if_neg
      rw [missing]
      exact fun named => Bool.false_ne_true ((Bool.and_false _).symm.trans named)
    rw [started] at positionsRead
    cases positionsRead
    cases previousRead
    exact isOpen (Except.ok.inj held).symm
  rw [not_not.mp blocked] at validated
  obtain ⟨checks, positive⟩ := (validated_position_iff given).mp ⟨warnings, validated⟩
  rw [safeLedger_checked checks.ledgerChecked] at positionsRead readPrevious
  obtain ⟨_ofType, ⟨stored, positionsEq⟩, _orderFills⟩ := checkedLedger_shape checks.ledgerChecked
  rw [positionsEq, Book.toDict_or_empty] at positionsRead
  cases positionsRead
  refine ⟨cumulative, previousFilled, net, ⟨checks, not_not.mp ignored, read, readPrevious,
    by omega, ?_, closes⟩, rfl⟩
  rw [heldPosition_eq positionsEq, (stored_position_iff isOpen held).mp previousRead]
  exact held

theorem positionStatus_ne_blocked (net after delta : Int) : positionStatus net after delta ≠ .blocked := by
  unfold positionStatus
  repeat' split
  all_goals intro impossible; cases impossible

theorem applyFill_ok {record event positions orderFills : PyDict} {warnings : List String}
    {evidence : PyDict} (open_ : net ≠ 0)
    (positionsEq : record.get "positions" = .dict positions)
    (fillsEq : record.get "order_fills" = .dict orderFills)
    (held : intOrZero ((heldPosition record intent.asDict).get "net_quantity") = .ok net) :
    ∃ applied, applyFill rounding digest intent.asDict event record tsEpoch cumulative
        previousFilled warnings evidence = .ok applied ∧ applied.status ≠ .blocked ∧
      applied.signedDeltaQuantity = Book.signed intent.asDict (cumulative - previousFilled) := by
  rw [heldPosition_eq positionsEq] at held
  have previousRead := (@stored_position_iff digest positions intent.asDict _ _ _ open_ held).mpr rfl
  have positionsRead : toDict ((record.get "positions").or (.dict [])) = .ok positions := by
    rw [positionsEq, Book.toDict_or_empty]
  have fillsRead : toDict ((record.get "order_fills").or (.dict [])) = .ok orderFills := by
    rw [fillsEq, Book.toDict_or_empty]
  unfold applyFill
  apply exists_bind_ok positionsRead
  apply exists_bind_ok previousRead
  refine exists_bind_ok (bind_eq_ok.mpr ⟨net, held, rfl⟩) ?_
  apply exists_bind_ok fillsRead
  apply exists_bind_ok held
  exact ⟨_, rfl, positionStatus_ne_blocked _ _ _, rfl⟩

theorem ClosingFill.applied
    (fill : ClosingFill ledger.asDict intent.asDict lifecycleEvent.asDict cumulative previousFilled
      net)
    (positive : ∃ quantity, intOrZero (intent.asDict.get "quantity") = .ok quantity ∧ 0 < quantity) :
    ∃ applied, buildPaperPositionLedger rounding digest intent lifecycleEvent ledger tsEpoch =
        .ok applied ∧ applied.status ≠ .blocked ∧
      applied.signedDeltaQuantity = Book.signed intent.asDict (cumulative - previousFilled) := by
  have checked := fill.checks.ledgerChecked
  obtain ⟨warnings, validated⟩ :=
    (validated_position_iff (checkedLedger_ne_nil checked)).mpr ⟨fill.checks, positive⟩
  obtain ⟨_ofType, ⟨positions, positionsEq⟩, orderFills, fillsEq⟩ := checkedLedger_shape checked
  have notIgnored : ¬upperText (lifecycleEvent.asDict.get "status") ∉ positionFillStatuses :=
    not_not.mpr fill.isFill
  have notRegressed : ¬cumulative < previousFilled := not_lt.mpr (le_of_lt fill.fresh)
  have notRepeated : ¬cumulative - previousFilled = 0 := by
    have fresh := fill.fresh
    omega
  unfold buildPaperPositionLedger
  rw [safeLedger_checked checked]
  apply exists_bind_ok validated
  dsimp only
  rw [if_neg (not_not.mpr rfl), if_neg notIgnored]
  apply exists_bind_ok fill.read
  apply exists_bind_ok fill.readPrevious
  rw [if_neg notRegressed, if_neg notRepeated]
  exact applyFill_ok fill.held_ne_zero positionsEq fillsEq fill.held

structure ReadyFor (realizedLedger : PyDict) (key : String) : Prop where
  readable : ReadableLedger realizedLedger
  keys : ∃ keys, listOrEmpty (realizedLedger.get "applied_fill_keys") = .ok keys ∧
    (keys.any fun item => item.isList || item.isDict) = false ∧ isStrIn keys key = false
  events : ∃ events, listOrEmpty (realizedLedger.get "events") = .ok events ∧
    ∀ item ∈ events, item.isDict = true ∧
      ∃ quantity, intOrZero (item.asDict.get "realized_quantity") = .ok quantity

theorem safeRealizedLedger_readable (rounding : ℚ → ℚ)
    (readable : ReadableLedger realizedLedger.asDict) :
    ∃ safeLedger, safeRealizedLedger rounding realizedLedger = .ok safeLedger ∧
      listOrEmpty (safeLedger.get "applied_fill_keys") =
        listOrEmpty (realizedLedger.asDict.get "applied_fill_keys") ∧
      listOrEmpty (safeLedger.get "events") = listOrEmpty (realizedLedger.asDict.get "events") := by
  rcases readable with missing | clear
  · have unnamed : ¬(realizedLedger.isDict &&
        (realizedLedger.asDict.get "ledger_type").isStr "PAPER_REALIZED_PNL_LEDGER") = true := by
      rw [missing]
      exact fun named => Bool.false_ne_true ((Bool.and_false _).symm.trans named)
    refine ⟨_, if_neg unnamed, ?_, ?_⟩
    · rw [missing]
      rfl
    · rw [missing]
      rfl
  · simp only [realizedLedgerBlockers, dedupe_append_eq_nil] at clear
    obtain ⟨⟨⟨ofType, _ofFlags⟩, _ofEvents⟩, _ofKeys⟩ := clear
    rw [dedupe_blockerIf_eq_nil _ (by decide), Bool.not_eq_false'] at ofType
    have named : (realizedLedger.isDict &&
        (realizedLedger.asDict.get "ledger_type").isStr "PAPER_REALIZED_PNL_LEDGER") = true := by
      rw [ofType, Bool.and_true]
      cases realizedLedger with
      | dict entries => rfl
      | _ => cases ofType
    exact ⟨_, if_pos named, rfl, rfl⟩

theorem ReadyFor.append {safeLedger realized : PyDict} {key : String} {quantity : Int}
    (ready : ReadyFor realizedLedger.asDict key)
    (sameKeys : listOrEmpty (safeLedger.get "applied_fill_keys") =
      listOrEmpty (realizedLedger.asDict.get "applied_fill_keys"))
    (sameEvents : listOrEmpty (safeLedger.get "events") =
      listOrEmpty (realizedLedger.asDict.get "events"))
    (storesQuantity : realized.get "realized_quantity" = .int quantity) :
    ∃ extended, appendRealizedEvent rounding safeLedger realized key = .ok extended := by
  obtain ⟨keys, keysRead, _hashable, _fresh⟩ := ready.keys
  obtain ⟨events, eventsRead, records⟩ := ready.events
  have converted : events.mapM toDict = .ok (events.map PyValue.asDict) := by
    apply mapM_eq_ok_map
    intro item member
    cases item with
    | dict entries => rfl
    | _ => cases (records _ member).1
  have summed : ∀ event ∈ events.map PyValue.asDict ++ [realized],
      ∃ quantity, intOrZero (PyDict.get event "realized_quantity") = .ok quantity := by
    intro event member
    rcases List.mem_append.mp member with stored | new
    · obtain ⟨item, listed, rfl⟩ := List.mem_map.mp stored
      exact (records item listed).2
    · rw [List.mem_singleton.mp new, storesQuantity]
      exact ⟨quantity, rfl⟩
  obtain ⟨quantities, quantitiesRead⟩ := mapM_exists summed
  refine ⟨_, bind_eq_ok.mpr ⟨events, sameEvents.trans eventsRead, bind_eq_ok.mpr ⟨_, converted,
    bind_eq_ok.mpr ⟨keys, sameKeys.trans keysRead, bind_eq_ok.mpr ⟨_,
    bind_eq_ok.mpr ⟨quantities, quantitiesRead, rfl⟩, rfl⟩⟩⟩⟩⟩

theorem realizeFill_ok {event positionLedger safeLedger evidence : PyDict} {warnings : List String}
    {average exit : PyFloat}
    (ready : ReadyFor realizedLedger.asDict
      (fillKey (printValue (event.get "paper_order_id")) cumulative))
    (sameKeys : listOrEmpty (safeLedger.get "applied_fill_keys") =
      listOrEmpty (realizedLedger.asDict.get "applied_fill_keys"))
    (sameEvents : listOrEmpty (safeLedger.get "events") =
      listOrEmpty (realizedLedger.asDict.get "events"))
    (held : intOrZero ((heldPosition positionLedger intent.asDict).get "net_quantity") = .ok net)
    (closes : net * Book.signed intent.asDict (cumulative - previousFilled) < 0)
    (priced : floatOrNone ((heldPosition positionLedger intent.asDict).get "average_entry_price") =
      some average)
    (fillPriced : floatOrNone (event.get "average_fill_price") = some exit) :
    ∃ booked, realizeFill rounding digest intent.asDict event positionLedger safeLedger tsEpoch
        cumulative previousFilled warnings evidence = .ok booked ∧ booked.status = .realized ∧
      booked.realizedQuantity =
        realizedQuantity net (Book.signed intent.asDict (cumulative - previousFilled)) := by
  obtain ⟨keys, keysRead, hashable, fresh⟩ := ready.keys
  have someClosed := not_le.mpr (realizedQuantity_of_closes closes).2
  unfold heldPosition at held priced
  unfold realizeFill
  apply exists_bind_ok (sameKeys.trans keysRead)
  dsimp only
  rw [hashable, if_neg Bool.false_ne_true, fresh, if_neg Bool.false_ne_true]
  apply exists_bind_ok held
  change ∃ booked, (if realizedQuantity net
    (Book.signed intent.asDict (cumulative - previousFilled)) ≤ 0 then _ else _) = _ ∧ _
  rw [if_neg someClosed, priced, fillPriced]
  refine exists_bind_ok (ready.append sameKeys sameEvents rfl).choose_spec ?_
  exact ⟨_, rfl, rfl, rfl⟩

theorem ClosingFill.booked
    (fill : ClosingFill ledger.asDict intent.asDict lifecycleEvent.asDict cumulative previousFilled
      net)
    {average exit : PyFloat}
    (priced : floatOrNone ((heldPosition ledger.asDict intent.asDict).get "average_entry_price") =
      some average)
    (fillPriced : floatOrNone (lifecycleEvent.asDict.get "average_fill_price") = some exit)
    (ready : ReadyFor realizedLedger.asDict
      (fillKey (printValue (lifecycleEvent.asDict.get "paper_order_id")) cumulative)) :
    ∃ booked, buildPaperRealizedPnl rounding digest ledger intent lifecycleEvent realizedLedger
        tsEpoch = .ok booked ∧ booked.status = .realized ∧
      booked.realizedQuantity =
        realizedQuantity net (Book.signed intent.asDict (cumulative - previousFilled)) := by
  obtain ⟨warnings, validated⟩ := validated_realized_iff.mpr ⟨fill.checks, ready.readable⟩
  obtain ⟨safeLedger, safeRead, sameKeys, sameEvents⟩ :=
    safeRealizedLedger_readable rounding ready.readable
  have notIgnored : ¬upperText (lifecycleEvent.asDict.get "status") ∉ fillEventStatuses :=
    not_not.mpr fill.isFill
  have notRegressed : ¬cumulative < previousFilled := not_lt.mpr (le_of_lt fill.fresh)
  have notRepeated : ¬cumulative - previousFilled = 0 := by
    have fresh := fill.fresh
    omega
  unfold buildPaperRealizedPnl
  apply exists_bind_ok validated
  apply exists_bind_ok safeRead
  dsimp only
  rw [if_neg (not_not.mpr rfl), if_neg notIgnored]
  apply exists_bind_ok fill.read
  apply exists_bind_ok fill.readPrevious
  rw [if_neg notRegressed, if_neg notRepeated]
  exact realizeFill_ok ready sameKeys sameEvents fill.held fill.closes priced fillPriced

end OneFill

/-! ### The two ledgers agree -/

/-- Whatever the realized ledger books of an intent with a quantity, the position ledger
takes off the position; whatever the position ledger takes off a priced position at a
price, a realized ledger that has not seen the fill books. -/
theorem closingFills_agree (rounding : ℚ → ℚ) (digest : String → String)
    (ledger intent lifecycleEvent realizedLedger : PyValue) (bookedAt appliedAt : Option PyFloat) :
    (∀ booked, buildPaperRealizedPnl rounding digest ledger intent lifecycleEvent realizedLedger
        bookedAt = .ok booked → booked.status = .realized →
      (∃ quantity, intOrZero (intent.asDict.get "quantity") = .ok quantity ∧ 0 < quantity) →
      ∃ applied net, buildPaperPositionLedger rounding digest intent lifecycleEvent ledger
          appliedAt = .ok applied ∧ applied.status ≠ .blocked ∧
        intOrZero ((heldPosition ledger.asDict intent.asDict).get "net_quantity") = .ok net ∧
        net * applied.signedDeltaQuantity < 0 ∧ 0 < booked.realizedQuantity ∧
        min net.natAbs applied.signedDeltaQuantity.natAbs = booked.realizedQuantity) ∧
    ∀ applied, buildPaperPositionLedger rounding digest intent lifecycleEvent ledger
        appliedAt = .ok applied → applied.status.takesOff = true →
      (∃ average, floatOrNone ((heldPosition ledger.asDict intent.asDict).get
        "average_entry_price") = some average) →
      (∃ price, floatOrNone (lifecycleEvent.asDict.get "average_fill_price") = some price) →
      (∀ cumulative, intOrZero (lifecycleEvent.asDict.get "filled_quantity") = .ok cumulative →
        ReadyFor realizedLedger.asDict
          (fillKey (printValue (lifecycleEvent.asDict.get "paper_order_id")) cumulative)) →
      ∃ booked net, buildPaperRealizedPnl rounding digest ledger intent lifecycleEvent
          realizedLedger bookedAt = .ok booked ∧ booked.status = .realized ∧
        intOrZero ((heldPosition ledger.asDict intent.asDict).get "net_quantity") = .ok net ∧
        booked.realizedQuantity = min net.natAbs applied.signedDeltaQuantity.natAbs := by
  constructor
  · intro booked built realized positive
    obtain ⟨cumulative, previousFilled, net, fill, quantity⟩ := booked_closingFill built realized
    obtain ⟨applied, updated, unblocked, signed⟩ := fill.applied positive
    obtain ⟨closed, someClosed⟩ := realizedQuantity_of_closes fill.closes
    refine ⟨applied, net, updated, unblocked, fill.held, ?_, ?_, ?_⟩
    · rw [signed]
      exact fill.closes
    · rw [quantity]
      exact someClosed
    · rw [quantity, closed, signed]
  · rintro applied built reduces ⟨average, priced⟩ ⟨price, fillPriced⟩ ready
    obtain ⟨cumulative, previousFilled, net, fill, signed⟩ := applied_closingFill built reduces
    obtain ⟨booked, realized, status, quantity⟩ :=
      fill.booked priced fillPriced (ready cumulative fill.read)
    refine ⟨booked, net, realized, status, fill.held, ?_⟩
    rw [quantity, (realizedQuantity_of_closes fill.closes).1, signed]

/-! ### Exits of a long position -/

private def entryLedger : PyValue :=
  ledgerAfter id id .none entryInput

private def bookedOf (intent lifecycleEvent : PyValue) : Option (PaperRealizedPnlStatus × Int) :=
  (buildPaperRealizedPnl id id entryLedger intent lifecycleEvent .none none).toOption.map
    fun booked => (booked.status, booked.realizedQuantity)

private def appliedOf (intent lifecycleEvent : PyValue) : Option (PaperPositionLedgerStatus × Int) :=
  (buildPaperPositionLedger id id intent lifecycleEvent entryLedger none).toOption.map
    fun applied => (applied.status, applied.signedDeltaQuantity)

private def unpricedExit : PyValue :=
  .dict (exitInput.lifecycleEvent.asDict.set "average_fill_price" .none)

/-- An exit whose intent has no quantity is booked and blocks the position ledger; an exit
without a price reduces the position and blocks the realized ledger. -/
theorem closingFills_apart :
    bookedOf (exampleIntent "exit" "SELL" 0) exitInput.lifecycleEvent = some (.realized, 4) ∧
    appliedOf (exampleIntent "exit" "SELL" 0) exitInput.lifecycleEvent = some (.blocked, 0) ∧
    appliedOf exitInput.intent unpricedExit = some (.positionReduced, -4) ∧
    bookedOf exitInput.intent unpricedExit = some (.blocked, 0) := by
  decide +kernel

theorem closingFills_agree_exit :
    (∃ applied, ∃ net : Int, buildPaperPositionLedger id id exitInput.intent exitInput.lifecycleEvent
        entryLedger none = .ok applied ∧ min net.natAbs applied.signedDeltaQuantity.natAbs = 4) ∧
    ∃ booked, buildPaperRealizedPnl id id entryLedger exitInput.intent exitInput.lifecycleEvent
        .none none = .ok booked ∧ booked.status = .realized := by
  have agree := closingFills_agree id id entryLedger exitInput.intent exitInput.lifecycleEvent .none
    none none
  have booked : bookedOf exitInput.intent exitInput.lifecycleEvent = some (.realized, 4) := by
    decide +kernel
  have applied : appliedOf exitInput.intent exitInput.lifecycleEvent =
      some (.positionReduced, -4) := by
    decide +kernel
  obtain ⟨booking, built, bookedEq⟩ := Option.map_eq_some_iff.mp booked
  obtain ⟨update, updated, appliedEq⟩ := Option.map_eq_some_iff.mp applied
  constructor
  · obtain ⟨further, net, furtherEq, _unblocked, _held, _against, _positive, quantity⟩ :=
      agree.1 booking (eq_ok_of_toOption built) (congrArg Prod.fst bookedEq) ⟨4, rfl, by decide⟩
    refine ⟨further, net, furtherEq, ?_⟩
    have four : booking.realizedQuantity = 4 := congrArg Prod.snd bookedEq
    omega
  · have reduced : update.status = .positionReduced := congrArg Prod.fst appliedEq
    have takesOff : update.status.takesOff = true := by
      rw [reduced]
      rfl
    obtain ⟨further, _net, furtherEq, realized, _held, _quantity⟩ :=
      agree.2 update (eq_ok_of_toOption updated) takesOff ⟨.finite 100, rfl⟩ ⟨.finite 105, rfl⟩
        fun _ _ => ⟨.inl rfl, ⟨[], rfl, rfl, rfl⟩, ⟨[], rfl, fun _ member => by cases member⟩⟩
    exact ⟨further, furtherEq, realized⟩

end Algotradify.Paper.PositionLedger
