/-
The audit log of one writer: every append that finds the last line whole links its event to
the one before it, and the chain of all of them verifies.
-/

import Algotradify.Core.AuditChain
import Algotradify.Json.ObjectTrees
import Algotradify.Transition.Run

namespace Algotradify.Core.AuditLog

open Py Json Chain Transition

variable {value : PyObject} {log : Option String} {text : String} {entries : PyDict}

/-! ### The line of an append -/

/-- The values of an event are read back as they were hashed: their trees list their keys in
the order in which they were sorted. The two hashes are written over. -/
structure Survives (event : Event) : Prop where
  distinct : Assoc.Distinct event
  values : ∀ key value tree, event.lookup (.str key) = some value → key ≠ "prev_hash" →
    key ≠ "event_hash" → jsonTree value = .ok tree → wellFormed tree = true ∧ inOrder tree = true

theorem lookup_setDefault {event : Event} {name : String} {default : PyObject} {key : PyKey}
    (found : (setDefault event name default).lookup key = some value) :
    event.lookup key = some value ∨ value = default := by
  unfold setDefault at found
  split at found
  · exact .inl found
  · rw [Assoc.lookup_set] at found
    split at found
    · exact .inr (Option.some.inj found).symm
    · exact .inl found

theorem distinct_setDefault {event : Event} (distinct : Assoc.Distinct event) (name : String)
    (default : PyObject) : Assoc.Distinct (setDefault event name default) := by
  unfold setDefault
  split
  · exact distinct
  · exact distinct.set _ _

theorem filter_set (event : Event) (key : PyKey) (value : PyObject) :
    (Assoc.set event key value).filter (fun entry => entry.1 ≠ key) =
      event.filter fun entry => entry.1 ≠ key := by
  induction event with
  | nil => simp [Assoc.set]
  | cons entry rest ih =>
      obtain ⟨head, old⟩ := entry
      unfold Assoc.set
      split
      · rename_i same
        rw [List.filter_cons_of_neg (by simp [same]), List.filter_cons_of_neg (by simp [same])]
      · rename_i apart
        have other : head ≠ key := fun same => apart same.symm
        rw [List.filter_cons_of_pos (by simp [other]), List.filter_cons_of_pos (by simp [other]),
          ih]

def written (stamp : Stamp) (prev : String) (event : Event) (hash : String) : Event :=
  Assoc.set (stamped stamp (.str prev) event) (.str "event_hash") (.str hash)

section Written

variable {stamp : Stamp} {prev hash : String} {event : Event}

theorem distinct_written (survives : Survives event) :
    Assoc.Distinct (written stamp prev event hash) := by
  have defaults := distinct_setDefault (distinct_setDefault (distinct_setDefault survives.distinct
    "ts_epoch" (.float (.finite stamp.tsEpoch))) "ts_ist" (.str stamp.tsIst)) "desk_id"
    (.str stamp.deskId)
  exact (defaults.set _ _).set _ _

theorem lookup_written_hash :
    (written stamp prev event hash).lookup (.str "event_hash") = some (.str hash) :=
  Assoc.lookup_set_self _ _ _

theorem lookup_written_prev :
    (written stamp prev event hash).lookup (.str "prev_hash") = some (.str prev) := by
  unfold written stamped
  rw [Assoc.lookup_set_of_ne _ _ (by decide), Assoc.lookup_set_self]
  rfl

theorem tree_written (survives : Survives event) {key : String} {tree : PyValue}
    (found : (written stamp prev event hash).lookup (.str key) = some value)
    (made : jsonTree value = .ok tree) : wellFormed tree = true ∧ inOrder tree = true := by
  have text : ∀ text, jsonTree (.str text) = .ok tree → wellFormed tree = true ∧
      inOrder tree = true := by
    intro text written
    cases written
    exact ⟨rfl, rfl⟩
  by_cases own : key = "event_hash"
  · rw [own, lookup_written_hash] at found
    cases found
    exact text hash made
  by_cases before : key = "prev_hash"
  · rw [before, lookup_written_prev] at found
    cases found
    exact text prev made
  unfold written stamped at found
  rw [Assoc.lookup_set_of_ne _ _ (by simp [own]), Assoc.lookup_set_of_ne _ _ (by simp [before])]
    at found
  rcases lookup_setDefault found with found | desk
  · rcases lookup_setDefault found with found | ist
    · rcases lookup_setDefault found with found | epoch
      · exact survives.values key value tree found before own made
      · rw [epoch] at made
        cases made
        exact ⟨stamp.decimal, rfl⟩
    · rw [ist] at made
      exact text _ made
  · rw [desk] at made
    exact text _ made

end Written

theorem mem_keys_of_lookup {event : Event} {key : PyKey} (found : event.lookup key = some value) :
    key ∈ event.map Prod.fst :=
  List.mem_map.mpr ⟨(key, value), Assoc.mem_of_lookup found, rfl⟩

theorem hashOf_sorted (digest : String → String) {trees : PyDict}
    (distinct : Assoc.Distinct trees) (ordered : inOrderEntries trees = true) :
    hashOf digest (trees.insertionSort keyLe) =
      digest (String.ofList (write auditLayout 0 (.dict ((payload trees).insertionSort keyLe)))) := by
  have sorted : Assoc.Distinct (trees.insertionSort keyLe) :=
    ((List.perm_insertionSort keyLe trees).map Prod.fst).nodup_iff.mpr distinct
  have kept : ∀ {entries : PyDict}, Assoc.Distinct entries → Assoc.Distinct (payload entries) :=
    fun own => own.sublist (List.filter_sublist.map Prod.fst)
  have values : inOrderEntries (payload trees) = true := by
    rw [inOrderEntries_iff] at ordered ⊢
    intro entry member
    exact ordered entry (List.mem_of_mem_filter member)
  have lookups : ∀ key, ((payload (trees.insertionSort keyLe)).lookup key).map sortKeys =
      ((payload trees).lookup key).map sortKeys := by
    intro key
    have same := Assoc.lookup_perm (kept sorted)
      ((List.perm_insertionSort keyLe trees).filter _) key
    exact congrArg (Option.map sortKeys) same
  unfold hashOf jsonDumps
  unfold sortKeys
  rw [sortEntries_eq_of_lookup (kept sorted) (kept distinct) lookups, sortEntries_eq,
    mapEntries_inOrder _ values]

theorem row_of_append {digest : String → String} {stamp : Stamp} {event : Event}
    {prev hash : String} (survives : Survives event) (before : readLastHash log = .str prev)
    (appended : appendEvent digest stamp event log = .ok (hash, text)) :
    ∃ entries, text = appendRow (log.getD "") (rowText entries) ∧ Sealed digest entries ∧
      entries.lookup "prev_hash" = some (.str prev) ∧ hash = hashOf digest entries := by
  unfold appendEvent at appended
  rw [before] at appended
  obtain ⟨own, hashed, appended⟩ := bind_eq_ok.mp appended
  obtain ⟨line, lined, same⟩ := bind_eq_ok.mp appended
  cases same
  obtain ⟨tree, made, shape⟩ := bind_eq_ok.mp lined
  cases shape
  change jsonTree (.dict (written stamp prev event hash)) = .ok tree at made
  obtain ⟨trees, values, rfl⟩ := valueTrees_of_written made
    (mem_keys_of_lookup lookup_written_hash) (mem_keys_of_lookup lookup_written_prev) (by decide)
  have distinct := values.distinct (distinct_written survives)
  have formed : ∀ entry ∈ trees, wellFormed entry.2 = true ∧ inOrder entry.2 = true := by
    intro entry member
    obtain ⟨value, found, ofValue⟩ := values.value member
    have stored := (Assoc.lookup_eq_some_iff (distinct_written survives) _ _).mpr found
    exact tree_written survives stored ofValue
  have perm := List.perm_insertionSort keyLe trees
  have sorted : Assoc.Distinct (trees.insertionSort keyLe) :=
    (perm.map Prod.fst).nodup_iff.mpr distinct
  have ordered : inOrderEntries trees = true :=
    (inOrderEntries_iff trees).mpr fun entry member => (formed entry member).2
  have ofHash : hash = hashOf digest (trees.insertionSort keyLe) := by
    obtain ⟨canonical, text, same⟩ := bind_eq_ok.mp hashed
    cases same
    obtain ⟨tree, payloadTree, shape⟩ := bind_eq_ok.mp text
    cases shape
    have filtered := jsonTree_of_valueTrees (values.filter "event_hash")
    unfold written at filtered
    rw [filter_set] at filtered
    rw [payloadTree] at filtered
    rw [hashOf_sorted digest distinct ordered]
    cases filtered
    rfl
  have lookups : ∀ {key tree}, trees.lookup key = some tree →
      (trees.insertionSort keyLe).lookup key = some tree :=
    fun found => (Assoc.lookup_perm sorted perm _).trans found
  refine ⟨trees.insertionSort keyLe, rfl, ⟨?_, ?_⟩, ?_, ofHash⟩
  · exact wellFormed_sorted distinct
      ((wellFormedEntries_iff trees).mpr fun entry member => (formed entry member).1)
  · refine lookups (values.lookup lookup_written_hash ?_)
    rw [mark, ← ofHash]
    rfl
  · exact lookups (values.lookup lookup_written_prev rfl)

/-! ### The hash that is read back -/

theorem unbroken_rowText (entries : PyDict) : Unbroken (rowText entries).toList :=
  unbroken_write rfl (.dict entries)

theorem readLastHash_appendRow {digest : String → String} (own : Sealed digest entries)
    (proper : ∀ text, digest text ≠ "") (ended : Ended text)
    (short : (rowText entries).length < tailSize) :
    readLastHash (some (appendRow text (rowText entries))) = mark digest entries := by
  obtain ⟨formed, hash⟩ := own
  have nothing : ∀ char ∈ ([] : List Char), isJsonSpace char = true :=
    fun _ impossible => absurd impossible List.not_mem_nil
  have loaded := jsonLoads_write auditLayout formed nothing
  rw [List.append_nil] at loaded
  have found : PyDict.get entries "event_hash" = mark digest entries := by
    unfold PyDict.get
    rw [hash]
    rfl
  have truthy : (mark digest entries).truthy = true := by
    unfold mark PyValue.truthy
    simp [hashOf, proper]
  unfold readLastHash
  simp only
  rw [toList_appendRow]
  have whole : (text.toList ++ ((rowText entries).toList ++ ['\n'])).length - tailSize ≤
      text.toList.length := by
    rw [← String.length_toList] at short
    rw [List.length_append, List.length_append, List.length_singleton]
    omega
  rw [List.drop_append_of_le_length whole]
  generalize (text.toList ++ ((rowText entries).toList ++ ['\n'])).length - tailSize = skipped
  have kept : text.toList.drop skipped = [] ∨ (text.toList.drop skipped).getLast? = some '\n' := by
    rcases ended with empty | last
    · left
      rw [empty, List.drop_nil]
    · rw [List.getLast?_drop]
      split
      · left
        exact List.drop_of_length_le (by assumption)
      · exact .inr last
  rw [linesFrom_append_line (unbroken_rowText entries) kept,
    List.reverse_append, List.reverse_singleton, List.singleton_append, lastHashIn]
  have written : (rowText entries).toList ≠ [] := by
    intro empty
    apply (strip_write_dict auditLayout entries).2
    exact String.toList_inj.mp empty
  rw [if_neg written, String.ofList_toList]
  unfold rowText
  rw [loaded]
  simp only
  rw [found, if_pos truthy]

/-! ### The rows of a chain -/

theorem named_of_lookup {prev : String} (found : entries.lookup "prev_hash" = some (.str prev)) :
    named entries = .str prev := by
  unfold named PyDict.get
  rw [found]
  rfl

theorem unbroken_rows (events : List PyDict) :
    ∀ row ∈ events.map rowText, Unbroken row.toList := by
  intro row member
  obtain ⟨entries, -, rfl⟩ := List.mem_map.mp member
  exact unbroken_rowText entries

/-- A call of `append_event`. -/
structure Call where
  stamp : Stamp
  event : Event

structure Writing where
  log : Option String
  appends : ℕ

def Writing.start : Writing :=
  { log := none, appends := 0 }

def Writing.call (digest : String → String) (before : Writing) (call : Call) : Writing :=
  match appendEvent digest call.stamp call.event before.log with
  | .ok (_, text) => { log := some text, appends := before.appends + 1 }
  | .error _ => before

/-- The last line stands whole in the part of the log that is read. -/
def TailWhole (log : Option String) : Prop :=
  ∀ row, (textLines (log.getD "")).getLast? = some row → row.length < tailSize

/-- A call that finds the last line whole, with an event that is read back as it was hashed. -/
structure Fits (before : Writing) (call : Call) : Prop where
  whole : TailWhole before.log
  survives : Survives call.event

def FittingCall (digest : String → String) (before : Writing) (call : Call) (after : Writing) :
    Prop :=
  after = before.call digest call ∧ Fits before call

structure Holds (digest : String → String) (writing : Writing) (events : List PyDict)
    (last : String) : Prop where
  text : writing.log.getD "" = joinRows (events.map rowText)
  missing : writing.log = none → events = []
  linked : Linked named (mark digest) (.str genesis) events (.str last)
  own : ∀ entries ∈ events, Sealed digest entries
  appends : writing.appends = events.length

theorem appendRow_rows (events : List PyDict) (entries : PyDict) :
    appendRow (joinRows (events.map rowText)) (rowText entries) =
      joinRows ((events ++ [entries]).map rowText) := by
  rw [List.map_append, List.map_singleton, joinRows_snoc]
  rfl

theorem ended_rows (events : List PyDict) : Ended (joinRows (events.map rowText)) := by
  induction events using List.reverseRecOn with
  | nil => exact .inl rfl
  | append_singleton events entries ih =>
      rw [← appendRow_rows]
      exact ended_appendRow _ _

section Runs

variable {digest : String → String} {writing before after : Writing} {events : List PyDict}
variable {last : String} {call : Call} {calls : List Call}

theorem Holds.empty : Holds digest .start [] genesis where
  text := rfl
  missing := fun _ => rfl
  linked := .nil
  own := fun _ impossible => absurd impossible List.not_mem_nil
  appends := rfl

theorem Holds.readLastHash (held : Holds digest writing events last)
    (proper : ∀ text, digest text ≠ "") (whole : TailWhole writing.log) :
    AuditLog.readLastHash writing.log = .str last := by
  cases events using List.reverseRecOn with
  | nil =>
      rw [held.linked.eq_root]
      cases log : writing.log with
      | none => rfl
      | some text =>
          have empty := held.text
          rw [log] at empty
          change text = "" at empty
          rw [empty]
          rfl
  | append_singleton earlier entries =>
      have own := held.own entries (by simp)
      have text := held.text
      rw [← appendRow_rows] at text
      cases log : writing.log with
      | none => exact absurd (held.missing log) (by simp)
      | some written =>
          rw [log] at whole text
          change written = _ at text
          rw [held.linked.eq_mark, text]
          apply readLastHash_appendRow own proper (ended_rows earlier)
          apply whole
          change (textLines written).getLast? = _
          rw [text, textLines_appendRow (unbroken_rowText entries) (ended_rows earlier),
            List.getLast?_concat]

theorem Holds.step (held : Holds digest before events last) (proper : ∀ text, digest text ≠ "")
    (stepped : FittingCall digest before call after) :
    ∃ events last, Holds digest after events last := by
  obtain ⟨rfl, fits⟩ := stepped
  unfold Writing.call
  cases appended : appendEvent digest call.stamp call.event before.log with
  | error raised => exact ⟨events, last, held⟩
  | ok made =>
      obtain ⟨hash, text⟩ := made
      obtain ⟨entries, row, own, names, -⟩ :=
        row_of_append fits.survives (held.readLastHash proper fits.whole) appended
      refine ⟨events ++ [entries], hashOf digest entries, ?_⟩
      constructor
      · change text = _
        rw [row, held.text, appendRow_rows]
      · intro missing
        cases missing
      · have linked := held.linked
        rw [← named_of_lookup names] at linked
        exact .snoc linked
      · intro other member
        rcases List.mem_append.mp member with earlier | here
        · exact held.own other earlier
        · rw [List.mem_singleton.mp here]
          exact own
      · change before.appends + 1 = _
        rw [held.appends, List.length_append, List.length_singleton]

end Runs

/-! ### A line longer than the part that is read -/

def warned (text : String) : Event :=
  [(.str "warnings", .str text)]

end Algotradify.Core.AuditLog
