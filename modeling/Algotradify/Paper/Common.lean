/-
Helpers that every paper trading module repeats: lenient number conversion,
safe execution flags, blocker lists and their deduplication.

The modules carry private copies of these functions. The copies agree, so each
is modelled once and the modules share it.

Fields of records as JSON: what a lenient conversion returns is a value of the language
that sorting leaves alone.

The flags that no payload may carry, wherever they are nested.

Persistence, session boundaries and export bundles carry copies of this walk that differ
in the texts of their blockers only.
-/

import Algotradify.Json.ObjectTrees

namespace Algotradify.Paper

open Py

/-! ### Lenient conversions -/

/-- `_int_or_none`: only TypeError and ValueError are caught, an infinite float
still raises OverflowError. -/
def intOrNone (value : PyValue) : Except PyError (Option Int) :=
  if value.isNoneOrEmpty then .ok none
  else
    match toInt value with
    | .ok number => .ok (some number)
    | .error (.typeError _) => .ok none
    | .error (.valueError _) => .ok none
    | .error raised => .error raised

/-- `_float_or_none`. -/
def floatOrNone (value : PyValue) : Option PyFloat :=
  if value.isNoneOrEmpty then none else (toFloat value).toOption

/-- `_int_or_none(value) or 0`. -/
def intOrZero (value : PyValue) : Except PyError Int := do
  let number ← intOrNone value
  pure (number.getD 0)

/-- The age of a timestamp, at least zero, when both times are known. -/
def ageSec (tsEpoch : PyValue) (nowEpoch : Option PyFloat) : Option PyFloat :=
  match floatOrNone tsEpoch, nowEpoch with
  | some ts, some now =>
      let age := now - ts
      some (if age.lt (.finite 0) then .finite 0 else age)
  | _, _ => none

@[simp] theorem intOrNone_int (value : Int) : intOrNone (.int value) = .ok (some value) := rfl

@[simp] theorem intOrZero_int (value : Int) : intOrZero (.int value) = .ok value := rfl

@[simp] theorem intOrNone_none : intOrNone .none = .ok none := rfl

@[simp] theorem intOrZero_none : intOrZero .none = .ok 0 := rfl

@[simp] theorem floatOrNone_float (value : PyFloat) : floatOrNone (.float value) = some value := rfl

@[simp] theorem floatOrNone_ofOptionFloat (value : Option PyFloat) :
    floatOrNone (ofOptionFloat value) = value := by
  cases value <;> rfl

/-- `str(value or "").upper()`. -/
def upperText (value : PyValue) : String :=
  upper (printValue (value.or (.str "")))

/-- `len(value or {}) if isinstance(value, dict) else 0`. -/
def dictCount (value : PyValue) : PyValue :=
  .int value.asDict.length

/-! ### Digests -/

def isHexDigit (char : Char) : Bool :=
  "0123456789abcdef".toList.contains char

/-- `hexdigest()` is written in lower case hexadecimal digits. -/
structure HexDigest (digest : String → String) : Prop where
  hex : ∀ text, ∀ char ∈ (digest text).toList, isHexDigit char = true

def tableDigest (table : List (String × String)) (text : String) : String :=
  (table.lookup text).getD "0000000000000000"

theorem tableDigest_hex {table : List (String × String)}
    (hex : ∀ entry ∈ table, ∀ char ∈ entry.2.toList, isHexDigit char = true) :
    HexDigest (tableDigest table) where
  hex := by
    intro text
    unfold tableDigest
    cases found : table.lookup text with
    | none => decide
    | some digits => exact hex (text, digits) (Assoc.mem_of_lookup found)

/-! ### Blockers -/

/-- A conditional `blockers.append(text)`. -/
def blockerIf (condition : Bool) (text : String) : List String :=
  if condition then [text] else []

@[simp] theorem blockerIf_eq_nil (condition : Bool) (text : String) :
    blockerIf condition text = [] ↔ condition = false := by
  cases condition with
  | false => exact iff_of_true rfl rfl
  | true => exact iff_of_false (List.cons_ne_nil _ _) Bool.true_eq_false_eq_False

/-- One turn of the `_dedupe` loop; the output doubles as the set of seen texts. -/
def dedupeStep (out : List String) (item : String) : List String :=
  if strip item ≠ "" ∧ strip item ∉ out then out ++ [strip item] else out

/-- `_dedupe`: stripped texts in order of first appearance, blank ones dropped. -/
def dedupe (items : List String) : List String :=
  items.foldl dedupeStep []

private theorem dedupe_from_ne_nil (items out : List String) (started : out ≠ []) :
    items.foldl dedupeStep out ≠ [] := by
  induction items generalizing out with
  | nil => exact started
  | cons item rest ih =>
      rw [List.foldl_cons]
      apply ih
      unfold dedupeStep
      split
      · exact List.append_ne_nil_of_left_ne_nil started _
      · exact started

theorem dedupe_eq_nil_iff (items : List String) :
    dedupe items = [] ↔ ∀ item ∈ items, strip item = "" := by
  unfold dedupe
  induction items with
  | nil => simp only [List.foldl_nil, List.not_mem_nil, false_implies, implies_true]
  | cons item rest ih =>
      rw [List.foldl_cons, List.forall_mem_cons]
      by_cases blank : strip item = ""
      · have skipped : dedupeStep [] item = [] := if_neg (fun both => both.1 blank)
        rw [skipped, ih]
        exact (and_iff_right blank).symm
      · have kept : dedupeStep [] item = [strip item] := if_pos ⟨blank, List.not_mem_nil⟩
        constructor
        · intro empty
          rw [kept] at empty
          exact absurd empty (dedupe_from_ne_nil rest _ (List.cons_ne_nil _ _))
        · intro allBlank
          exact absurd allBlank.1 blank

@[simp] theorem dedupe_nil : dedupe [] = [] := rfl

theorem eq_nil_of_dedupe_eq_nil {items : List String}
    (visible : ∀ item ∈ items, strip item ≠ "") (empty : dedupe items = []) : items = [] := by
  cases items with
  | nil => rfl
  | cons item rest =>
      have blank := (dedupe_eq_nil_iff _).mp empty item List.mem_cons_self
      exact absurd blank (visible item List.mem_cons_self)

theorem visible_blockerIf {condition : Bool} {text : String} (visible : strip text ≠ "") :
    ∀ item ∈ blockerIf condition text, strip item ≠ "" := by
  intro item member
  unfold blockerIf at member
  split at member
  · cases List.mem_singleton.mp member
    exact visible
  · cases member

theorem dedupe_append_eq_nil (first second : List String) :
    dedupe (first ++ second) = [] ↔ dedupe first = [] ∧ dedupe second = [] := by
  simp only [dedupe_eq_nil_iff, List.forall_mem_append]

theorem visible_dedupe (items : List String) : ∀ item ∈ dedupe items, strip item ≠ "" := by
  unfold dedupe
  have kept : ∀ out : List String, (∀ item ∈ out, strip item ≠ "") →
      ∀ item ∈ items.foldl dedupeStep out, strip item ≠ "" := by
    induction items with
    | nil => exact fun _ visible => visible
    | cons head rest ih =>
        intro out visible
        rw [List.foldl_cons]
        apply ih
        unfold dedupeStep
        split
        · rename_i added
          intro item member
          rcases List.mem_append.mp member with earlier | last
          · exact visible item earlier
          · rw [List.mem_singleton.mp last, strip_strip]
            exact added.1
        · exact visible
  exact kept [] fun _ member => absurd member List.not_mem_nil

theorem dedupe_blockerIf_eq_nil (condition : Bool) {text : String} (visible : strip text ≠ "") :
    dedupe (blockerIf condition text) = [] ↔ condition = false := by
  cases condition with
  | false => simp only [blockerIf, Bool.false_eq_true, if_false, dedupe_nil]
  | true =>
      simp only [blockerIf, if_true, dedupe_eq_nil_iff, List.forall_mem_singleton, visible,
        Bool.true_eq_false]

/-! ### Safe execution flags -/

def safeFlags : PyDict :=
  [("paper_only", .bool true), ("is_order_action", .bool false),
    ("broker_api_called", .bool false), ("real_order_id", .none)]

/-- `_validate_safe_flags`. -/
def validateSafeFlags (payload : PyDict) (textPrefix : String) : List String :=
  blockerIf (!(payload.get "paper_only").isTrue) (textPrefix ++ "_NOT_PAPER_ONLY") ++
    blockerIf (!(payload.get "is_order_action").isFalse) (textPrefix ++ "_ORDER_FLAG_UNSAFE") ++
    blockerIf (!(payload.get "broker_api_called").isFalse) (textPrefix ++ "_BROKER_API_CALLED") ++
    blockerIf (!(payload.get "real_order_id").isNoneOrEmpty)
      (textPrefix ++ "_REAL_ORDER_ID_PRESENT")

def mismatchBlockers (intent event : PyDict) : List String :=
  if intent.isEmpty || event.isEmpty then []
  else
    blockerIf (printValue (intent.get "paper_order_intent_id") !=
        printValue (event.get "paper_order_intent_id")) "PAPER_INTENT_LIFECYCLE_MISMATCH" ++
      blockerIf (printValue (intent.get "candidate_id") != printValue (event.get "candidate_id"))
        "PAPER_CANDIDATE_LIFECYCLE_MISMATCH"

theorem validateSafeFlags_eq_nil (payload : PyDict) (textPrefix : String)
    (paperOnly : payload.get "paper_only" = .bool true)
    (orderAction : payload.get "is_order_action" = .bool false)
    (brokerCalled : payload.get "broker_api_called" = .bool false)
    (realOrder : payload.get "real_order_id" = .none) :
    validateSafeFlags payload textPrefix = [] := by
  simp only [validateSafeFlags, paperOnly, orderAction, brokerCalled, realOrder]
  rfl

/-! ### Flags -/

open Json

theorem wellFormed_toFloat {value : PyValue} (formed : wellFormed value = true)
    {number : PyFloat} (read : toFloat value = .ok number) : wellFormed (.float number) = true := by
  cases value with
  | none | list | dict => cases read
  | bool flag =>
      cases read
      cases flag with
      | false => exact isDecimal_intCast 0
      | true => exact isDecimal_intCast 1
  | int number =>
      cases read
      exact isDecimal_intCast number
  | float number =>
      cases read
      exact formed
  | str text =>
      unfold toFloat at read
      dsimp only at read
      split at read
      · rename_i found parsed
        cases read
        cases number with
        | finite exact => exact isDecimal_of_parseFloat? parsed
        | nan | posInf | negInf => rfl
      · cases read

theorem wellFormed_floatOrNone {value : PyValue} (formed : wellFormed value = true) :
    wellFormed (ofOptionFloat (floatOrNone value)) = true := by
  unfold floatOrNone
  split
  · rfl
  · cases read : toFloat value with
    | error raised => rfl
    | ok number => exact wellFormed_toFloat formed read

theorem wellFormed_ofOptionString (text : Option String) :
    wellFormed (ofOptionString text) = true := by
  cases text <;> rfl

theorem wellFormed_ofOptionInt (number : Option Int) :
    wellFormed (ofOptionInt number) = true := by
  cases number <;> rfl

theorem sortKeys_ofOptionString (text : Option String) :
    sortKeys (ofOptionString text) = ofOptionString text := by
  cases text <;> rfl

theorem sortKeys_ofOptionInt (number : Option Int) :
    sortKeys (ofOptionInt number) = ofOptionInt number := by
  cases number <;> rfl

theorem sortKeys_ofOptionFloat (number : Option PyFloat) :
    sortKeys (ofOptionFloat number) = ofOptionFloat number := by
  cases number <;> rfl

/-! ### Flags of one entry -/

def flagBlockers (textPrefix : String) (entry : PyObject.WalkEntry) : List String :=
  blockerIf (decide (entry.key = "paper_only") && !entry.value.isTrue)
      (textPrefix ++ "_" ++ entry.path ++ "_UNSAFE_PAPER_ONLY_FLAG") ++
    blockerIf (decide (entry.key = "read_only") && !entry.value.isTrue)
      (textPrefix ++ "_" ++ entry.path ++ "_UNSAFE_READ_ONLY_FLAG") ++
    blockerIf (decide (entry.key = "is_order_action") && !entry.value.isFalse)
      (textPrefix ++ "_" ++ entry.path ++ "_UNSAFE_ORDER_ACTION_FLAG") ++
    blockerIf (decide (entry.key = "broker_api_called") && entry.value.isTrue)
      (textPrefix ++ "_" ++ entry.path ++ "_BROKER_API_CALLED") ++
    blockerIf (decide (entry.key = "real_order_id") && !entry.value.isNoneOrEmpty)
      (textPrefix ++ "_" ++ entry.path ++ "_REAL_ORDER_ID_PRESENT")

/-- `_unsafe_payload_blockers`. -/
def unsafePayloadBlockers (textPrefix : String) : PyObject → List String
  | .none => []
  | .dict entries => (PyObject.walkDict "ROOT" entries).flatMap (flagBlockers textPrefix)
  | _ => [textPrefix ++ "_MUST_BE_OBJECT"]

def flagSafe (key : String) (value : PyObject) : Bool :=
  !(decide (key = "paper_only") && !value.isTrue) &&
    !(decide (key = "read_only") && !value.isTrue) &&
    !(decide (key = "is_order_action") && !value.isFalse) &&
    !(decide (key = "broker_api_called") && value.isTrue) &&
    !(decide (key = "real_order_id") && !value.isNoneOrEmpty)

theorem flagBlockers_eq_nil (textPrefix : String) (entry : PyObject.WalkEntry) :
    flagBlockers textPrefix entry = [] ↔ flagSafe entry.key entry.value = true := by
  unfold flagBlockers flagSafe
  simp only [List.append_eq_nil_iff, blockerIf_eq_nil, Bool.and_eq_true, Bool.not_eq_true']

theorem unsafePayloadBlockers_eq_nil (textPrefix : String) (entries : List (PyKey × PyObject)) :
    unsafePayloadBlockers textPrefix (.dict entries) = [] ↔
      PyObject.everyEntry flagSafe entries = true := by
  unfold unsafePayloadBlockers
  rw [List.flatMap_eq_nil_iff, ← PyObject.walkDict_all flagSafe entries "ROOT", List.all_eq_true]
  exact forall₂_congr fun entry _ => flagBlockers_eq_nil textPrefix entry

end Algotradify.Paper
