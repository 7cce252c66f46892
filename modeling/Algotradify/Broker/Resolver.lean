/-
Resolution of option contracts: from a request to an instrument with a token.

The rows of the request's family are those with its symbol, expiry, type and exchange. A row
with the requested strike is taken; where there is none, the nearest row within a distance may
stand in for it. Too few rows with a token make the resolution fail.
-/

import Algotradify.Execution.OrderIntent
import Algotradify.Py.CaseConversion
import Algotradify.Py.KeyParts
import Algotradify.Sorting.Stable
import Mathlib.Algebra.Order.Ring.WithTop
import Mathlib.Data.List.Pairwise

namespace Algotradify.Broker

open Py Execution

variable {distance : PyFloat} {first second : PyDict}

inductive BrokerContractResolutionStatus where
  | exactMatch
  | fallback
  | notFound
  | coverageFailed
  | invalidRequest
deriving DecidableEq, Repr

def BrokerContractResolutionStatus.value : BrokerContractResolutionStatus → String
  | .exactMatch => "EXACT"
  | .fallback => "FALLBACK"
  | .notFound => "NOT_FOUND"
  | .coverageFailed => "COVERAGE_FAILED"
  | .invalidRequest => "INVALID_REQUEST"

structure OptionContractRequest where
  symbol : String
  expiry : String
  strike : PyFloat
  optionType : String
  exchange : String := "NFO"

def OptionContractRequest.normalized (request : OptionContractRequest) : OptionContractRequest :=
  { symbol := strip (upper request.symbol)
    expiry := strip request.expiry
    strike := request.strike
    optionType := strip (upper request.optionType)
    exchange := strip (upper request.exchange) }

structure BrokerContractResolution where
  status : BrokerContractResolutionStatus
  resolved : Bool
  request : PyDict
  instrument : Option PyDict := none
  fallbackUsed : Bool := false
  fallbackDistance : Option PyFloat := none
  reason : Option String := none
  blockers : List String := []
  warnings : List String := []

def BrokerContractResolution.instrumentToken (resolution : BrokerContractResolution) : PyValue :=
  fieldOf resolution.instrument "instrument_token"

def BrokerContractResolution.toDict (resolution : BrokerContractResolution) : PyDict :=
  [("status", .str resolution.status.value), ("resolved", .bool resolution.resolved),
    ("request", .dict resolution.request),
    ("instrument", ((givenDict resolution.instrument).map PyValue.dict).getD .none),
    ("instrument_token", resolution.instrumentToken),
    ("fallback_used", .bool resolution.fallbackUsed),
    ("fallback_distance", ofOptionFloat resolution.fallbackDistance),
    ("reason", ofOptionString resolution.reason), ("blockers", ofStrings resolution.blockers),
    ("warnings", ofStrings resolution.warnings), ("is_execution_decision", .bool false)]

/-- `_request_dict`. -/
def requestDict (request : OptionContractRequest) : PyDict :=
  let normalized := request.normalized
  [("symbol", .str normalized.symbol), ("expiry", .str normalized.expiry),
    ("strike", .float normalized.strike), ("option_type", .str normalized.optionType),
    ("exchange", .str normalized.exchange)]

/-! ### The rows -/

/-- `_instrument_symbol`. -/
def instrumentSymbol (row : PyDict) : String :=
  strip (upper (printValue ((firstOf row ["symbol", "name", "underlying"]).or (.str ""))))

/-- `_instrument_expiry`. -/
def instrumentExpiry (row : PyDict) : String :=
  strip (printValue ((firstOf row ["expiry", "expiry_date"]).or (.str "")))

/-- `_instrument_type`. -/
def instrumentType (row : PyDict) : String :=
  strip (upper (printValue
    ((firstOf row ["instrument_type", "option_type", "type"]).or (.str ""))))

/-- `_instrument_exchange`. -/
def instrumentExchange (row : PyDict) : String :=
  strip (upper (printValue ((PyDict.get row "exchange").or (.str "NFO"))))

/-- `_instrument_strike`. -/
def instrumentStrike (row : PyDict) : Option PyFloat :=
  (toFloat (PyDict.get row "strike")).toOption

/-- `_has_token`. -/
def hasToken (row : PyDict) : Bool :=
  !(PyDict.get row "instrument_token").isNoneOrEmpty

/-- `_same_contract_family`. -/
def sameContractFamily (row : PyDict) (request : OptionContractRequest) : Bool :=
  decide (instrumentSymbol row = request.normalized.symbol) &&
    decide (instrumentExpiry row = request.normalized.expiry) &&
    decide (instrumentType row = request.normalized.optionType) &&
    decide (instrumentExchange row = request.normalized.exchange)

/-- `_find_exact`. -/
def findExact (instruments : List PyDict) (request : OptionContractRequest) : Option PyDict :=
  instruments.find? fun row => (instrumentStrike row).any fun strike =>
    sameContractFamily row request && strike.eq request.normalized.strike && hasToken row

/-- A row that may stand in for the requested one, behind its distance. -/
def fallbackCandidate (request : OptionContractRequest) (maxFallbackDistance : PyFloat)
    (row : PyDict) : Option (PyFloat × PyDict) :=
  if !sameContractFamily row request || !hasToken row then none
  else
    match instrumentStrike row with
    | none => none
    | some strike =>
        let distance := (strike - request.normalized.strike).abs
        if distance.le maxFallbackDistance then some (distance, row) else none

abbrev NearerFirst (first second : PyFloat × PyDict) : Prop :=
  second.1.lt first.1 = false

/-- `_find_safe_fallback`. -/
def findSafeFallback (instruments : List PyDict) (request : OptionContractRequest)
    (maxFallbackDistance : PyFloat) : Option (PyFloat × PyDict) :=
  ((instruments.filterMap (fallbackCandidate request maxFallbackDistance)).insertionSort
    NearerFirst).head?

/-- `_coverage_count`. -/
def coverageCount (instruments : List PyDict) (request : OptionContractRequest) : ℕ :=
  instruments.countP fun row => sameContractFamily row request && hasToken row

/-- `_valid_request`. -/
def validRequest (request : OptionContractRequest) : Bool :=
  decide (request.normalized.symbol ≠ "") && decide (request.normalized.expiry ≠ "") &&
    decide (request.normalized.optionType ∈ ["CE", "PE"]) &&
    (PyFloat.finite 0).lt request.normalized.strike

/-! ### Resolution -/

structure ResolverSettings where
  allowFallback : Bool := true
  maxFallbackDistance : PyFloat := .finite 100
  minTokenCoverage : ℤ := 1

def coverageMessage (request : OptionContractRequest) (coverage : ℕ) (required : ℤ) : String :=
  "Token coverage below threshold for " ++ request.symbol ++ " " ++ request.expiry ++ " " ++
    request.optionType ++ ": coverage=" ++ printInt coverage ++ ", required=" ++ printInt required

def resolutionFound (settings : ResolverSettings) (request : OptionContractRequest)
    (instruments : List PyDict) : BrokerContractResolution :=
  match findExact instruments request with
  | some row =>
      { status := .exactMatch
        resolved := true
        request := requestDict request
        instrument := some row
        reason := some "EXACT_CONTRACT_MATCH" }
  | none =>
      match if settings.allowFallback then
          findSafeFallback instruments request settings.maxFallbackDistance else none with
      | some (distance, row) =>
          { status := .fallback
            resolved := true
            request := requestDict request
            instrument := some row
            fallbackUsed := true
            fallbackDistance := some distance
            reason := some "SAFE_FALLBACK_CONTRACT_MATCH"
            warnings := ["FALLBACK_CONTRACT_USED"] }
      | none =>
          { status := .notFound
            resolved := false
            request := requestDict request
            reason := some "OPTION_TOKEN_NOT_FOUND"
            blockers := ["OPTION_TOKEN_NOT_FOUND"] }

/-- `resolve_option_contract`. `TokenCoverageError` is a `RuntimeError`. -/
def resolveOptionContract (settings : ResolverSettings) (request : OptionContractRequest)
    (instruments : List PyDict) : Except PyError BrokerContractResolution :=
  let normalized := request.normalized
  if !validRequest normalized then
    .ok
      { status := .invalidRequest
        resolved := false
        request := requestDict normalized
        reason := some "INVALID_OPTION_CONTRACT_REQUEST"
        blockers := ["INVALID_OPTION_CONTRACT_REQUEST"] }
  else if (coverageCount instruments normalized : ℤ) < settings.minTokenCoverage then
    .error (.runtimeError (coverageMessage normalized (coverageCount instruments normalized)
      settings.minTokenCoverage))
  else .ok (resolutionFound settings normalized instruments)

/-! ### Normalizing again -/

theorem normalized_normalized (request : OptionContractRequest) :
    request.normalized.normalized = request.normalized := by
  unfold OptionContractRequest.normalized
  simp only [upper_strip_upper, strip_strip]

theorem normalized_strike (request : OptionContractRequest) :
    request.normalized.strike = request.strike := by
  simp only [OptionContractRequest.normalized]

@[simp] theorem sameContractFamily_normalized (row : PyDict) (request : OptionContractRequest) :
    sameContractFamily row request.normalized = sameContractFamily row request := by
  unfold sameContractFamily
  rw [normalized_normalized]

@[simp] theorem validRequest_normalized (request : OptionContractRequest) :
    validRequest request.normalized = validRequest request := by
  unfold validRequest
  rw [normalized_normalized]

/-! ### What a resolution is to be -/

section Rows

variable (request : OptionContractRequest) (settings : ResolverSettings) (row : PyDict)

def offered : Bool :=
  sameContractFamily row request && hasToken row

def distanceTo : Option PyFloat :=
  (instrumentStrike row).map fun strike => (strike - request.strike).abs

def atStrike : Bool :=
  offered request row && (instrumentStrike row).any fun strike => strike.eq request.strike

def withinReach : Bool :=
  offered request row &&
    (distanceTo request row).any fun distance => distance.le settings.maxFallbackDistance

end Rows

section Resolution

variable {request : OptionContractRequest} {settings : ResolverSettings}
  {instruments others : List PyDict}

structure Nearest (request : OptionContractRequest) (settings : ResolverSettings)
    (instruments : List PyDict) (row : PyDict) : Prop where
  member : row ∈ instruments
  reached : withinReach request settings row = true
  least : ∀ other ∈ instruments, withinReach request settings other = true →
    ∀ own distance, distanceTo request row = some own →
      distanceTo request other = some distance → own.le distance = true

theorem findExact_eq : findExact instruments request = instruments.find? (atStrike request) := by
  have each : ∀ row, ((instrumentStrike row).any fun strike =>
      sameContractFamily row request && strike.eq request.normalized.strike && hasToken row) =
        atStrike request row := by
    intro row
    unfold atStrike offered
    rw [normalized_strike]
    cases instrumentStrike row with
    | none => rw [Option.any_none, Option.any_none, Bool.and_false]
    | some strike =>
        rw [Option.any_some, Option.any_some, Bool.and_right_comm]
  unfold findExact
  rw [funext each]

theorem fallbackCandidate_eq_some_iff {row : PyDict} {found : PyDict} :
    fallbackCandidate request settings.maxFallbackDistance row = some (distance, found) ↔
      found = row ∧ distanceTo request row = some distance ∧
        withinReach request settings row = true := by
  have same := normalized_strike request
  unfold fallbackCandidate withinReach offered distanceTo
  rw [same]
  cases family : sameContractFamily row request with
  | false => simp
  | true =>
      cases token : hasToken row with
      | false => simp
      | true =>
          cases instrumentStrike row with
          | none => simp
          | some strike =>
              simp only [Bool.not_true, Bool.or_self, Bool.false_eq_true, if_false, Option.map_some,
                Option.any_some, Bool.and_self, Bool.true_and, Option.ite_none_right_eq_some,
                Option.some.injEq, Prod.mk.injEq]
              constructor
              · rintro ⟨reached, isDistance, isRow⟩
                exact ⟨isRow.symm, isDistance, reached⟩
              · rintro ⟨isRow, isDistance, reached⟩
                exact ⟨reached, isDistance, isRow.symm⟩

/-! A distance within reach is a number, so distances within reach are ordered. -/

def distanceKey (candidate : PyFloat × PyDict) : (WithTop ℚ)ᵒᵈ :=
  OrderDual.toDual (match candidate.1 with
    | .finite value => (value : WithTop ℚ)
    | _ => ⊤)

theorem abs_reached {value limit : PyFloat} (reached : value.abs.le limit = true) :
    (∃ number, value.abs = .finite number) ∨ value.abs = .posInf := by
  cases value with
  | finite number => exact .inl ⟨|number|, rfl⟩
  | nan => cases limit <;> cases reached
  | posInf => exact .inr rfl
  | negInf => exact .inr rfl

theorem distance_reached {row : PyDict} (reached : withinReach request settings row = true)
    (own : distanceTo request row = some distance) :
    (∃ number, distance = .finite number) ∨ distance = .posInf := by
  unfold withinReach at reached
  have most := ((Bool.and_eq_true ..).mp reached).2
  rw [own, Option.any_some] at most
  unfold distanceTo at own
  obtain ⟨strike, _, made⟩ := Option.map_eq_some_iff.mp own
  rw [← made] at most ⊢
  exact abs_reached most

theorem descendsBy_distanceKey :
    Sorting.DescendsBy NearerFirst distanceKey
      (instruments.filterMap (fallbackCandidate request settings.maxFallbackDistance)) := by
  have number : ∀ candidate ∈
      instruments.filterMap (fallbackCandidate request settings.maxFallbackDistance),
      (∃ number, candidate.1 = .finite number) ∨ candidate.1 = .posInf := by
    rintro ⟨distance, found⟩ member
    obtain ⟨row, _, made⟩ := List.mem_filterMap.mp member
    obtain ⟨_, own, reached⟩ := fallbackCandidate_eq_some_iff.mp made
    exact distance_reached reached own
  rintro ⟨first, _⟩ inFirst ⟨second, _⟩ inSecond
  unfold NearerFirst distanceKey
  rw [OrderDual.toDual_le_toDual]
  dsimp only
  rcases number _ inFirst with ⟨left, rfl⟩ | rfl
  · rcases number _ inSecond with ⟨right, rfl⟩ | rfl
    · simp [PyFloat.lt]
    · simp [PyFloat.lt]
  · rcases number _ inSecond with ⟨right, rfl⟩ | rfl
    · simp [PyFloat.lt]
    · simp [PyFloat.lt]

theorem nearest_of_findSafeFallback {row : PyDict}
    (found : findSafeFallback instruments request settings.maxFallbackDistance =
      some (distance, row)) :
    Nearest request settings instruments row ∧ distanceTo request row = some distance := by
  unfold findSafeFallback at found
  have listed := (List.perm_insertionSort _ _).mem_iff.mp (List.mem_of_head? found)
  obtain ⟨source, member, made⟩ := List.mem_filterMap.mp listed
  obtain ⟨rfl, own, reached⟩ := fallbackCandidate_eq_some_iff.mp made
  refine ⟨⟨member, reached, ?_⟩, own⟩
  intro other inOther otherReached near far ofRow ofOther
  have among := List.mem_filterMap.mpr
    ⟨other, inOther, fallbackCandidate_eq_some_iff.mpr ⟨rfl, ofOther, otherReached⟩⟩
  have behind := descendsBy_distanceKey.le_head found _ among
  rw [own] at ofRow
  cases ofRow
  unfold distanceKey at behind
  rw [OrderDual.toDual_le_toDual] at behind
  rcases distance_reached otherReached ofOther with ⟨right, rfl⟩ | rfl
  · rcases distance_reached reached own with ⟨left, rfl⟩ | rfl
    · rw [PyFloat.finite_le]
      exact WithTop.coe_le_coe.mp behind
    · simp at behind
  · rcases distance_reached reached own with ⟨left, rfl⟩ | rfl
    · rfl
    · rfl

theorem findSafeFallback_eq_none_iff :
    findSafeFallback instruments request settings.maxFallbackDistance = none ↔
      ∀ row ∈ instruments, withinReach request settings row = false := by
  unfold findSafeFallback
  rw [List.head?_eq_none_iff, ← List.length_eq_zero_iff, List.length_insertionSort,
    List.length_eq_zero_iff, List.filterMap_eq_nil_iff]
  constructor
  · intro none row member
    by_contra reached
    rw [Bool.not_eq_false] at reached
    have measured := ((Bool.and_eq_true ..).mp reached).2
    obtain ⟨distance, own, _⟩ := (Option.any_eq_true ..).mp measured
    have found := fallbackCandidate_eq_some_iff.mpr ⟨rfl, own, reached⟩
    rw [none row member] at found
    cases found
  · intro far row member
    cases found : fallbackCandidate request settings.maxFallbackDistance row with
    | none => rfl
    | some candidate =>
        obtain ⟨distance, source⟩ := candidate
        obtain ⟨_, _, reached⟩ := fallbackCandidate_eq_some_iff.mp found
        rw [far row member] at reached
        cases reached

structure ResolutionMeets (request : OptionContractRequest) (settings : ResolverSettings)
    (instruments : List PyDict) (resolution : BrokerContractResolution) : Prop where
  exactMatch : resolution.status = .exactMatch ↔ ∃ row ∈ instruments, atStrike request row = true
  fallback : resolution.status = .fallback ↔
    (∀ row ∈ instruments, atStrike request row = false) ∧ settings.allowFallback = true ∧
      ∃ row ∈ instruments, withinReach request settings row = true
  notFound : resolution.status = .notFound ↔
    (∀ row ∈ instruments, atStrike request row = false) ∧
      ¬(settings.allowFallback = true ∧
        ∃ row ∈ instruments, withinReach request settings row = true)
  exactRow : resolution.status = .exactMatch →
    ∃ row ∈ instruments, atStrike request row = true ∧ resolution.instrument = some row
  nearestRow : resolution.status = .fallback →
    ∃ row, Nearest request settings instruments row ∧ resolution.instrument = some row

theorem resolutionFound_meets :
    ResolutionMeets request settings instruments
      (resolutionFound settings request instruments) := by
  unfold resolutionFound
  rw [findExact_eq]
  cases found : instruments.find? (atStrike request) with
  | some row =>
      have member := List.mem_of_find?_eq_some found
      have own := List.find?_some found
      have here : ∃ row ∈ instruments, atStrike request row = true := ⟨row, member, own⟩
      have none : ¬∀ row ∈ instruments, atStrike request row = false := by
        intro absent
        rw [absent row member] at own
        cases own
      exact ⟨by simp [here], by simp [none], by simp [none],
        fun _ => ⟨row, member, own, rfl⟩, fun other => (by cases other)⟩
  | none =>
      have absent : ∀ row ∈ instruments, atStrike request row = false := by
        intro row member
        exact Bool.eq_false_iff.mpr (List.find?_eq_none.mp found row member)
      have nowhere : ¬∃ row ∈ instruments, atStrike request row = true := by
        rintro ⟨row, member, own⟩
        rw [absent row member] at own
        cases own
      dsimp only
      by_cases allowed : settings.allowFallback = true
      · rw [if_pos allowed]
        cases chosen : findSafeFallback instruments request settings.maxFallbackDistance with
        | none =>
            have far := findSafeFallback_eq_none_iff.mp chosen
            have unreached : ¬∃ row ∈ instruments, withinReach request settings row = true := by
              rintro ⟨row, member, reached⟩
              rw [far row member] at reached
              cases reached
            exact ⟨by simp [nowhere], by simp [unreached], by simpa [unreached] using absent,
              fun other => (by cases other), fun other => (by cases other)⟩
        | some candidate =>
            obtain ⟨distance, row⟩ := candidate
            have nearest := (nearest_of_findSafeFallback chosen).1
            have reached : ∃ row ∈ instruments, withinReach request settings row = true :=
              ⟨row, nearest.member, nearest.reached⟩
            exact ⟨by simp [nowhere], by simpa [allowed, reached] using absent,
              by simp [allowed, reached], fun other => (by cases other), fun _ => ⟨row, nearest, rfl⟩⟩
      · rw [if_neg allowed]
        exact ⟨by simp [nowhere], by simp [allowed], by simpa [allowed] using absent,
          fun other => (by cases other), fun other => (by cases other)⟩

/-! ### The order of the rows -/

def SameStrike (first second : PyDict) : Prop :=
  ∃ strike, strike ≠ .nan ∧ instrumentStrike first = some strike ∧
    instrumentStrike second = some strike

def DistinctStrikes (request : OptionContractRequest) (instruments : List PyDict) : Prop :=
  (instruments.filter fun row => sameContractFamily row request).Pairwise
    fun first second => ¬SameStrike first second

def Untied (request : OptionContractRequest) (settings : ResolverSettings)
    (instruments : List PyDict) : Prop :=
  ∀ first second, Nearest request settings instruments first →
    Nearest request settings instruments second → SameStrike first second

instance : Std.Symm fun first second => ¬SameStrike first second where
  symm := by
    rintro first second differ ⟨strike, number, own, other⟩
    exact differ ⟨strike, number, other, own⟩

theorem eq_of_sameStrike (distinct : DistinctStrikes request instruments)
    (inFirst : first ∈ instruments) (inSecond : second ∈ instruments)
    (ofFirst : offered request first = true) (ofSecond : offered request second = true)
    (same : SameStrike first second) : first = second := by
  by_contra apart
  have family : ∀ {row}, row ∈ instruments → offered request row = true →
      row ∈ instruments.filter fun row => sameContractFamily row request :=
    fun member own => List.mem_filter.mpr ⟨member, ((Bool.and_eq_true ..).mp own).1⟩
  exact distinct.forall (family inFirst ofFirst) (family inSecond ofSecond) apart same

theorem sameStrike_of_atStrike (ofFirst : atStrike request first = true)
    (ofSecond : atStrike request second = true) : SameStrike first second := by
  have read : ∀ {row}, atStrike request row = true →
      instrumentStrike row = some request.strike ∧ request.strike ≠ .nan := by
    intro row own
    obtain ⟨strike, found, same⟩ := (Option.any_eq_true ..).mp ((Bool.and_eq_true ..).mp own).2
    have isStrike := PyFloat.eq_of_eq same
    refine ⟨by rw [found, isStrike], ?_⟩
    intro nan
    rw [isStrike, nan] at same
    cases same
  exact ⟨request.strike, (read ofFirst).2, (read ofFirst).1, (read ofSecond).1⟩

theorem atStrike_unique (distinct : DistinctStrikes request instruments)
    (inFirst : first ∈ instruments) (inSecond : second ∈ instruments)
    (ofFirst : atStrike request first = true) (ofSecond : atStrike request second = true) :
    first = second :=
  eq_of_sameStrike distinct inFirst inSecond ((Bool.and_eq_true ..).mp ofFirst).1
    ((Bool.and_eq_true ..).mp ofSecond).1 (sameStrike_of_atStrike ofFirst ofSecond)

theorem findExact_eq_of_perm (distinct : DistinctStrikes request instruments)
    (perm : instruments.Perm others) :
    findExact instruments request = findExact others request := by
  rw [findExact_eq, findExact_eq]
  cases here : instruments.find? (atStrike request) with
  | none =>
      apply Eq.symm
      rw [List.find?_eq_none] at here ⊢
      exact fun row member => here row (perm.mem_iff.mpr member)
  | some row =>
      cases there : others.find? (atStrike request) with
      | none =>
          have absent := List.find?_eq_none.mp there row
            (perm.mem_iff.mp (List.mem_of_find?_eq_some here))
          exact absurd (List.find?_some here) absent
      | some other =>
          rw [atStrike_unique distinct (List.mem_of_find?_eq_some here)
            (perm.mem_iff.mpr (List.mem_of_find?_eq_some there)) (List.find?_some here)
            (List.find?_some there)]

theorem Nearest.of_perm {row : PyDict} (nearest : Nearest request settings instruments row)
    (perm : instruments.Perm others) : Nearest request settings others row where
  member := perm.mem_iff.mp nearest.member
  reached := nearest.reached
  least := fun other member => nearest.least other (perm.mem_iff.mpr member)

theorem findSafeFallback_eq_of_perm (distinct : DistinctStrikes request instruments)
    (untied : Untied request settings instruments) (perm : instruments.Perm others) :
    findSafeFallback instruments request settings.maxFallbackDistance =
      findSafeFallback others request settings.maxFallbackDistance := by
  cases here : findSafeFallback instruments request settings.maxFallbackDistance with
  | none =>
      apply Eq.symm
      rw [findSafeFallback_eq_none_iff] at here ⊢
      exact fun row member => here row (perm.mem_iff.mpr member)
  | some candidate =>
      obtain ⟨distance, row⟩ := candidate
      obtain ⟨nearest, own⟩ := nearest_of_findSafeFallback here
      cases there : findSafeFallback others request settings.maxFallbackDistance with
      | none =>
          have far := findSafeFallback_eq_none_iff.mp there row (perm.mem_iff.mp nearest.member)
          rw [nearest.reached] at far
          cases far
      | some candidate =>
          obtain ⟨length, other⟩ := candidate
          obtain ⟨nearestThere, ofOther⟩ := nearest_of_findSafeFallback there
          have back := nearestThere.of_perm perm.symm
          have isOther : row = other := eq_of_sameStrike distinct nearest.member back.member
            ((Bool.and_eq_true ..).mp nearest.reached).1 ((Bool.and_eq_true ..).mp back.reached).1
            (untied row other nearest back)
          rw [← isOther] at ofOther ⊢
          rw [own] at ofOther
          rw [Option.some.inj ofOther]

/-! ### The normalized request -/

theorem offered_normalized (row : PyDict) : offered request.normalized row = offered request row := by
  unfold offered
  rw [sameContractFamily_normalized]

theorem distanceTo_normalized (row : PyDict) :
    distanceTo request.normalized row = distanceTo request row := by
  unfold distanceTo
  rw [normalized_strike]

theorem atStrike_normalized (row : PyDict) :
    atStrike request.normalized row = atStrike request row := by
  unfold atStrike
  rw [offered_normalized, normalized_strike]

theorem withinReach_normalized (row : PyDict) :
    withinReach request.normalized settings row = withinReach request settings row := by
  unfold withinReach
  rw [offered_normalized, distanceTo_normalized]

theorem nearest_normalized {row : PyDict} :
    Nearest request.normalized settings instruments row ↔
      Nearest request settings instruments row := by
  constructor
  · rintro ⟨member, reached, least⟩
    simp only [withinReach_normalized, distanceTo_normalized] at reached least
    exact ⟨member, reached, least⟩
  · rintro ⟨member, reached, least⟩
    refine ⟨member, ?_, ?_⟩
    · rw [withinReach_normalized]
      exact reached
    · simp only [withinReach_normalized, distanceTo_normalized]
      exact least

theorem resolutionMeets_of_normalized {resolution : BrokerContractResolution}
    (meets : ResolutionMeets request.normalized settings instruments resolution) :
    ResolutionMeets request settings instruments resolution := by
  obtain ⟨exactMatch, fallback, notFound, exactRow, nearestRow⟩ := meets
  simp only [atStrike_normalized] at exactMatch exactRow
  simp only [atStrike_normalized, withinReach_normalized] at fallback notFound
  simp only [nearest_normalized] at nearestRow
  exact ⟨exactMatch, fallback, notFound, exactRow, nearestRow⟩

theorem resolveOptionContract_of_valid (valid : validRequest request = true) :
    resolveOptionContract settings request instruments =
      if (coverageCount instruments request.normalized : ℤ) < settings.minTokenCoverage then
        .error (.runtimeError (coverageMessage request.normalized
          (coverageCount instruments request.normalized) settings.minTokenCoverage))
      else .ok (resolutionFound settings request.normalized instruments) := by
  unfold resolveOptionContract
  simp only [validRequest_normalized, valid, Bool.not_true, Bool.false_eq_true, if_false]

theorem coverageCount_normalized :
    coverageCount instruments request.normalized = (instruments.filter (offered request)).length := by
  unfold coverageCount
  have same : (instruments.filter fun row =>
      sameContractFamily row request.normalized && hasToken row) =
        instruments.filter (offered request) :=
    List.filter_congr fun row _ => offered_normalized row
  rw [List.countP_eq_length_filter, same]

theorem resolutionFound_eq_of_perm (distinct : DistinctStrikes request instruments)
    (untied : Untied request settings instruments) (perm : instruments.Perm others) :
    resolutionFound settings request instruments = resolutionFound settings request others := by
  unfold resolutionFound
  rw [findExact_eq_of_perm distinct perm, findSafeFallback_eq_of_perm distinct untied perm]

end Resolution

/-- The resolution of a valid request: it fails exactly if too few rows are offered, it takes the
row at the strike first and the nearest row within reach otherwise, and where no two rows of the
family have one strike and no two are the nearest, the order of the rows does not show. -/
theorem resolves_exact_then_nearest (request : OptionContractRequest)
    (settings : ResolverSettings) (instruments : List PyDict)
    (valid : validRequest request = true) :
    ((∃ raised, resolveOptionContract settings request instruments = .error raised) ↔
      ((instruments.filter (offered request)).length : ℤ) < settings.minTokenCoverage) ∧
    (∀ resolution, resolveOptionContract settings request instruments = .ok resolution →
      ResolutionMeets request settings instruments resolution) ∧
    (∀ others, instruments.Perm others → DistinctStrikes request instruments →
      Untied request settings instruments →
        resolveOptionContract settings request others =
          resolveOptionContract settings request instruments) := by
  refine ⟨?_, ?_, ?_⟩
  · rw [resolveOptionContract_of_valid valid, coverageCount_normalized]
    split
    · next few => exact iff_of_true ⟨_, rfl⟩ few
    · next enough => exact iff_of_false (by rintro ⟨raised, impossible⟩; cases impossible) enough
  · intro resolution ran
    rw [resolveOptionContract_of_valid valid] at ran
    split at ran
    · cases ran
    · rw [← Except.ok.inj ran]
      exact resolutionMeets_of_normalized resolutionFound_meets
  · intro others perm distinct untied
    have distinct' : DistinctStrikes request.normalized instruments := by
      unfold DistinctStrikes
      simp only [sameContractFamily_normalized]
      exact distinct
    have untied' : Untied request.normalized settings instruments := by
      intro first second ofFirst ofSecond
      exact untied first second (nearest_normalized.mp ofFirst) (nearest_normalized.mp ofSecond)
    have covered : coverageCount others request.normalized =
        coverageCount instruments request.normalized := (perm.countP_eq _).symm
    rw [resolveOptionContract_of_valid valid, resolveOptionContract_of_valid valid, covered,
      resolutionFound_eq_of_perm distinct' untied' perm]

def niftyRequest : OptionContractRequest :=
  { symbol := "nifty", expiry := "2026-05-28", strike := .finite 22500, optionType := "ce" }

def niftyRow (strike token : ℤ) : PyDict :=
  [("symbol", .str "NIFTY"), ("expiry", .str "2026-05-28"), ("strike", .int strike),
    ("instrument_type", .str "CE"), ("exchange", .str "NFO"), ("instrument_token", .int token)]

theorem distinctStrikes_nifty {first second token other : ℤ} (apart : first ≠ second) :
    DistinctStrikes niftyRequest [niftyRow first token, niftyRow second other] := by
  have differ : ¬SameStrike (niftyRow first token) (niftyRow second other) := by
    rintro ⟨strike, _, ofFirst, ofSecond⟩
    have own : instrumentStrike (niftyRow first token) = some (.finite first) := rfl
    have others : instrumentStrike (niftyRow second other) = some (.finite second) := rfl
    rw [own] at ofFirst
    rw [others, ← Option.some.inj ofFirst] at ofSecond
    exact apart (Rat.intCast_inj.mp (PyFloat.finite.inj (Option.some.inj ofSecond))).symm
  have both : [niftyRow first token, niftyRow second other].Pairwise
      fun first second => ¬SameStrike first second := by
    simpa using differ
  exact both.sublist List.filter_sublist

theorem resolves_nifty :
    resolveOptionContract {} niftyRequest [niftyRow 22600 2, niftyRow 22500 1] =
      resolveOptionContract {} niftyRequest [niftyRow 22500 1, niftyRow 22600 2] := by
  apply (resolves_exact_then_nearest niftyRequest {} [niftyRow 22500 1, niftyRow 22600 2]
    (by decide +kernel)).2.2
  · exact List.Perm.swap _ _ []
  · exact distinctStrikes_nifty (by decide)
  · have isFirst : ∀ {row}, Nearest niftyRequest {} [niftyRow 22500 1, niftyRow 22600 2] row →
        row = niftyRow 22500 1 := by
      intro row nearest
      rcases List.mem_cons.mp nearest.member with first | second
      · exact first
      · rw [List.mem_singleton.mp second] at nearest
        have least := nearest.least (niftyRow 22500 1) List.mem_cons_self (by decide +kernel)
          (.finite 100) (.finite 0) (by decide +kernel) (by decide +kernel)
        exact absurd least (by decide +kernel)
    intro first second ofFirst ofSecond
    rw [isFirst ofFirst, isFirst ofSecond]
    exact ⟨.finite 22500, PyFloat.noConfusion, by decide +kernel, by decide +kernel⟩

/-- Of two rows that are equally near, the first one is taken. -/
theorem equally_near_by_order :
    ¬ ∀ (request : OptionContractRequest) (settings : ResolverSettings)
      (instruments others : List PyDict), validRequest request = true →
        instruments.Perm others → DistinctStrikes request instruments →
          ∀ first second, resolveOptionContract settings request instruments = .ok first →
            resolveOptionContract settings request others = .ok second →
              first.instrumentToken = second.instrumentToken := by
  intro claimed
  have shown : ∀ rows text, (resolveOptionContract {} niftyRequest rows).toOption.map
      (fun resolution => printValue resolution.instrumentToken) = some text →
        ∃ resolution, resolveOptionContract {} niftyRequest rows = .ok resolution ∧
          printValue resolution.instrumentToken = text := by
    intro rows text found
    obtain ⟨resolution, ran, printed⟩ := Option.map_eq_some_iff.mp found
    exact ⟨resolution, eq_ok_of_toOption ran, printed⟩
  obtain ⟨first, ranFirst, ofFirst⟩ :=
    shown [niftyRow 22450 1, niftyRow 22550 2] "1" (by decide +kernel)
  obtain ⟨second, ranSecond, ofSecond⟩ :=
    shown [niftyRow 22550 2, niftyRow 22450 1] "2" (by decide +kernel)
  have same := claimed niftyRequest {} [niftyRow 22450 1, niftyRow 22550 2]
    [niftyRow 22550 2, niftyRow 22450 1] (by decide +kernel) (List.Perm.swap _ _ [])
    (distinctStrikes_nifty (by decide)) first second ranFirst ranSecond
  rw [same, ofSecond] at ofFirst
  exact absurd ofFirst (by decide)

end Algotradify.Broker
