/-
What a VALID answer says about a bundle that anyone may have written: each listed file is
there, and its hash is the recorded one where one is recorded.
-/

import Algotradify.Paper.BundleRuns
import Algotradify.Py.Comprehension

namespace Algotradify.Paper.ExportBundle

open Py Json Persistence

variable {digest : String → String} {root : PyValue} {directory : Directory}
  {manifest checksums : PyDict} {answer : BundleResult}

/-! ### Bundles -/

def listedFiles (manifest : PyDict) : PyDict :=
  (manifest.get "files").asDict

def Recorded (manifest checksums : PyDict) : Prop :=
  ∀ file ∈ listedFiles manifest, ∃ checksum,
    expectedChecksum manifest checksums (printValue file.2) = .ok checksum ∧
      checksum.truthy = true

/-- Every listed file is there and has the checksum that is recorded for it. -/
def Unaltered (digest : String → String) (directory : Directory) (manifest checksums : PyDict) :
    Prop :=
  ∀ file ∈ listedFiles manifest, ∃ text,
    directory.lookup (printValue file.2) = some text ∧
      expectedChecksum manifest checksums (printValue file.2) = .ok (.str (digest text))

/-! ### Valid answers -/

theorem passed_of_fileBlockers {file : String × PyValue}
    (passed : fileBlockers digest directory manifest checksums file = .ok []) :
    ∃ text checksum, directory.lookup (printValue file.2) = some text ∧
      expectedChecksum manifest checksums (printValue file.2) = .ok checksum ∧
      (checksum.truthy = true → checksum = .str (digest text)) := by
  unfold fileBlockers at passed
  cases held : directory.lookup (printValue file.2) with
  | none =>
      rw [held] at passed
      cases passed
  | some text =>
      rw [held] at passed
      obtain ⟨checksum, expected, judged⟩ := bind_eq_ok.mp passed
      have clear := Except.ok.inj judged
      rw [blockerIf_eq_nil] at clear
      refine ⟨text, checksum, rfl, expected, ?_⟩
      intro recorded
      rw [recorded, Bool.true_and, Bool.not_eq_false'] at clear
      exact (PyValue.isStr_eq_true checksum _).mp clear

theorem passed_of_validateFiles
    (ran : validateFiles digest directory manifest checksums = .ok answer)
    (valid : answer.status = .valid) :
    ∀ file ∈ listedFiles manifest,
      fileBlockers digest directory manifest checksums file = .ok [] := by
  unfold validateFiles at ran
  obtain ⟨found, each, ran⟩ := bind_eq_ok.mp ran
  dsimp only at ran
  by_cases clear : found.flatten = []
  · exact each_of_mapM_flatten each clear
  · rw [if_pos clear] at ran
    cases ran
    cases valid

theorem manifest_of_load {text : String} (named : ¬(normalizePath root).isNone = true)
    (held : directory.lookup manifestFileName = some text)
    (loads : (loadPaperExportManifest root directory).status ≠ .blocked) :
    ∃ manifest, jsonLoads text = some (.dict manifest) ∧
      loadPaperExportManifest root directory =
        { status := .valid, manifest := some manifest } := by
  unfold loadPaperExportManifest at loads ⊢
  rw [if_neg named, held] at loads ⊢
  dsimp only at loads ⊢
  cases read : jsonLoads text with
  | none =>
      rw [read] at loads
      exact absurd rfl loads
  | some value =>
      cases value with
      | none | bool | int | float | str | list =>
          rw [read] at loads
          exact absurd rfl loads
      | dict manifest => exact ⟨manifest, rfl, rfl⟩

theorem checksums_of_valid {text : String}
    (ran : validateChecksums digest directory manifest text = .ok answer)
    (valid : answer.status = .valid) :
    ∃ checksums, jsonLoads text = some (.dict checksums) ∧
      validateFiles digest directory manifest checksums = .ok answer := by
  unfold validateChecksums at ran
  cases read : jsonLoads text with
  | none =>
      rw [read] at ran
      cases ran
      cases valid
  | some value =>
      rw [read] at ran
      cases value with
      | none | bool | int | float | str | list =>
          cases ran
          cases valid
      | dict checksums => exact ⟨checksums, rfl, ran⟩

theorem reads_of_valid (ran : validatePaperExportBundle digest root directory = .ok answer)
    (valid : answer.status = .valid) :
    ∃ manifest checksums, Reads directory manifest checksums ∧
      validateFiles digest directory manifest checksums = .ok answer := by
  unfold validatePaperExportBundle at ran
  by_cases named : (normalizePath root).isNone = true
  · rw [if_pos named] at ran
    cases ran
    cases valid
  rw [if_neg named] at ran
  cases manifestHeld : directory.lookup manifestFileName with
  | none =>
      rw [manifestHeld] at ran
      cases ran
      cases valid
  | some manifestText =>
      cases held : directory.lookup checksumsFileName with
      | none =>
          rw [manifestHeld, held] at ran
          cases ran
          cases valid
      | some text =>
          rw [manifestHeld, held] at ran
          dsimp only at ran
          by_cases blocked : (loadPaperExportManifest root directory).status = .blocked
          · rw [if_pos blocked] at ran
            cases ran
            cases valid
          rw [if_neg blocked] at ran
          obtain ⟨manifest, read, loaded⟩ := manifest_of_load named manifestHeld blocked
          rw [loaded] at ran
          dsimp only [Option.getD_some] at ran
          by_cases clear : validateManifest manifest = []
          · rw [if_neg (not_not.mpr clear)] at ran
            obtain ⟨checksums, checksumsRead, loop⟩ := checksums_of_valid ran valid
            exact ⟨manifest, checksums, ⟨⟨manifestText, manifestHeld, read⟩,
              ⟨text, held, checksumsRead⟩⟩, loop⟩
          · rw [if_pos clear] at ran
            cases ran
            cases valid

theorem Reads.unique {otherManifest otherChecksums : PyDict}
    (reads : Reads directory manifest checksums)
    (others : Reads directory otherManifest otherChecksums) :
    otherManifest = manifest ∧ otherChecksums = checksums := by
  obtain ⟨⟨manifestText, manifestHeld, manifestRead⟩, ⟨text, held, read⟩⟩ := reads
  obtain ⟨⟨otherManifestText, otherHeld, otherRead⟩, ⟨otherText, otherText_held, otherText_read⟩⟩ :=
    others
  rw [manifestHeld] at otherHeld
  rw [held] at otherText_held
  cases otherHeld
  cases otherText_held
  rw [manifestRead] at otherRead
  rw [read] at otherText_read
  cases otherRead
  cases otherText_read
  exact ⟨rfl, rfl⟩

theorem Reads.unaltered (reads : Reads directory manifest checksums)
    (ran : validatePaperExportBundle digest root directory = .ok answer)
    (valid : answer.status = .valid) (recorded : Recorded manifest checksums) :
    Unaltered digest directory manifest checksums := by
  intro file member
  obtain ⟨ownManifest, ownChecksums, own, loop⟩ := reads_of_valid ran valid
  obtain ⟨rfl, rfl⟩ := reads.unique own
  obtain ⟨text, checksum, held, expected, same⟩ :=
    passed_of_fileBlockers (passed_of_validateFiles loop valid file member)
  obtain ⟨again, found, truthy⟩ := recorded file member
  cases expected.symm.trans found
  rw [same truthy] at expected
  exact ⟨text, held, expected⟩

/-- In a bundle that validates, every listed file is unaltered exactly when each has a
recorded checksum; another bundle that validates with the same manifest and checksums
then has the same listed files. -/
theorem valid_unaltered_iff (collisionless : Collisionless digest)
    (ran : validatePaperExportBundle digest root directory = .ok answer)
    (valid : answer.status = .valid) :
    ∃ manifest checksums, Reads directory manifest checksums ∧
      (Unaltered digest directory manifest checksums ↔ Recorded manifest checksums) ∧
      (Recorded manifest checksums → ∀ (other : Directory) (second : BundleResult),
        Reads other manifest checksums →
        validatePaperExportBundle digest root other = .ok second → second.status = .valid →
        ∀ file ∈ listedFiles manifest,
          other.lookup (printValue file.2) = directory.lookup (printValue file.2)) := by
  obtain ⟨manifest, checksums, reads, _⟩ := reads_of_valid ran valid
  refine ⟨manifest, checksums, reads, ⟨?_, reads.unaltered ran valid⟩, ?_⟩
  · intro unaltered file member
    obtain ⟨text, _, expected⟩ := unaltered file member
    exact ⟨_, expected, truthy_str (collisionless.written text)⟩
  · intro recorded other second otherReads otherRan otherValid file member
    obtain ⟨text, held, expected⟩ := reads.unaltered ran valid recorded file member
    obtain ⟨changed, there, again⟩ :=
      otherReads.unaltered otherRan otherValid recorded file member
    have hashes := PyValue.str.inj (Except.ok.inj (expected.symm.trans again))
    rw [held, there, collisionless.injective hashes]

/-! ### A bundle of one file -/

def scenarioManifest (checksums : PyDict) : PyDict :=
  (sampleBundle.manifest checksums).set "files" (.dict [("scenarios", .str scenariosFileName)])

def scenarioDirectory (checksums : PyDict) (scenarios : String) : Directory :=
  [(manifestFileName, jsonFile (.dict (scenarioManifest checksums))),
    (checksumsFileName, jsonFile (.dict [])), (scenariosFileName, scenarios)]

def emptyChecksums : PyDict :=
  [(scenariosFileName, .str "37517e5f3dc66819f61f5a7bb8ace1921282415f10551d2defa5c3eb0985b570")]

def emptyHashes : List (String × String) :=
  [("[]\n", "37517e5f3dc66819f61f5a7bb8ace1921282415f10551d2defa5c3eb0985b570")]

theorem emptyHashes_collisionless : Collisionless (knownDigest emptyHashes) := by
  apply knownDigest_collisionless
  · exact List.nodup_singleton _
  · intro entry member
    rw [List.mem_singleton.mp member]
    decide

theorem mentions_lower (chars : List Char) (part : String) :
    mentions (lower (String.ofList chars)) part =
      (chars.map lowerChar).tails.any fun rest => part.toList.isPrefixOf rest := by
  unfold mentions lower
  rw [String.toList_ofList, String.toList_ofList]

theorem scenarioDirectory_reads {checksums : PyDict} (scenarios : String)
    (formed : wellFormed (.dict (scenarioManifest checksums)) = true) :
    Reads (scenarioDirectory checksums scenarios) (sortEntries (scenarioManifest checksums)) [] :=
  ⟨⟨_, rfl, jsonLoads_jsonFile formed⟩, ⟨_, rfl, jsonLoads_jsonFile rfl⟩⟩

theorem exists_valid {scenarios : String} {checksums : PyDict}
    (formed : wellFormed (.dict (scenarioManifest checksums)) = true)
    (clear : validateManifest (sortEntries (scenarioManifest checksums)) = [])
    (passes : (validateFiles (knownDigest emptyHashes) (scenarioDirectory checksums scenarios)
      (sortEntries (scenarioManifest checksums)) []).toOption.map BundleResult.status =
        some .valid) :
    ∃ answer, validatePaperExportBundle (knownDigest emptyHashes) (.str "bundle")
      (scenarioDirectory checksums scenarios) = .ok answer ∧ answer.status = .valid := by
  obtain ⟨answer, found, status⟩ := Option.map_eq_some_iff.mp passes
  have named : (normalizePath (.str "bundle")).isNone = false := by decide
  rw [(scenarioDirectory_reads scenarios formed).validate named, if_neg (not_not.mpr clear)]
  exact ⟨answer, eq_ok_of_toOption found, status⟩

theorem scenarioManifest_clear {checksums : PyDict} (sampled : checksums = emptyChecksums ∨
    checksums = []) :
    wellFormed (.dict (scenarioManifest checksums)) = true ∧
      validateManifest (sortEntries (scenarioManifest checksums)) = [] := by
  unfold validateManifest jsonDumps
  rcases sampled with rfl | rfl
  · simp only [mentions_lower]
    decide +kernel
  · simp only [mentions_lower]
    decide +kernel

example : (validateFiles (knownDigest emptyHashes) (scenarioDirectory emptyChecksums "altered")
    (sortEntries (scenarioManifest emptyChecksums)) []).toOption.map BundleResult.status =
      some .blocked := by decide +kernel

/-- An empty list of scenarios with its checksum. -/
theorem valid_unaltered_recorded : ∃ manifest checksums,
    Reads (scenarioDirectory emptyChecksums "[]\n") manifest checksums ∧
      (Unaltered (knownDigest emptyHashes) (scenarioDirectory emptyChecksums "[]\n") manifest
        checksums ↔ Recorded manifest checksums) := by
  obtain ⟨formed, clear⟩ := scenarioManifest_clear (Or.inl rfl)
  obtain ⟨answer, ran, valid⟩ := @exists_valid "[]\n" emptyChecksums formed clear
    (by decide +kernel)
  obtain ⟨manifest, checksums, reads, same, _⟩ :=
    valid_unaltered_iff emptyHashes_collisionless ran valid
  exact ⟨manifest, checksums, reads, same⟩

/-- A file without a checksum is not looked at. -/
theorem unrecorded_file_passes :
    ¬∀ (digest : String → String), Collisionless digest →
      ∀ (root : PyValue) (directory : Directory) (answer : BundleResult),
        validatePaperExportBundle digest root directory = .ok answer → answer.status = .valid →
        ∀ manifest checksums, Reads directory manifest checksums →
          Unaltered digest directory manifest checksums := by
  intro sound
  obtain ⟨formed, clear⟩ := scenarioManifest_clear (Or.inr rfl)
  obtain ⟨answer, ran, valid⟩ := @exists_valid "altered" [] formed clear (by decide +kernel)
  have unaltered := sound _ emptyHashes_collisionless _ _ _ ran valid _ _
    (scenarioDirectory_reads "altered" formed)
  have listed : ("scenarios", PyValue.str scenariosFileName) ∈
      listedFiles (sortEntries (scenarioManifest [])) :=
    List.mem_singleton_self _
  obtain ⟨_, _, expected⟩ := unaltered _ listed
  cases expected

end Algotradify.Paper.ExportBundle
