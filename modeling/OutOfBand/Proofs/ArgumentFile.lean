import OutOfBand.CommandLine.Run
import OutOfBand.Proofs.Json.Order

/-! # Argument files that have been read

What can be wrong with a document that has been read, and what is known of the arguments of one that is right.
-/
namespace OutOfBand

namespace ArgumentFile

theorem argumentsOf_error {document : Json} {e : SettingsError} (h : argumentsOf document = .error e) :
    ∃ reason, e = .arguments reason := by
  unfold argumentsOf at h
  split at h
  · split at h
    · cases h
    · cases h
      exact ⟨_, rfl⟩
  · cases h
    exact ⟨_, rfl⟩

/-- Whatever is wrong with a document is wrong with its arguments. -/
theorem parse_error {raw : String} {e : SettingsError} (h : parse raw = .error e) : ∃ reason, e = .arguments reason := by
  rcases bind_eq_error h with hread | ⟨document, _, h⟩
  · obtain ⟨reason, _, rfl⟩ := mapError_eq_error hread
    exact ⟨reason, rfl⟩
  rcases bind_eq_error h with harguments | ⟨arguments, _, h⟩
  · exact argumentsOf_error harguments
  rcases bind_eq_error h with hconnection | ⟨c, _, h⟩
  · obtain ⟨mismatch, _, rfl⟩ := mapError_eq_error hconnection
    exact ⟨_, rfl⟩
  · cases h

theorem load_of_text {files : FileTree} {path raw : String} (h : files.readText path = .ok raw) :
    load files path = parse raw := by
  simp only [load, h]

/-- The arguments are kept in key order, so no option stands there twice under one name. -/
theorem parse_sorted {raw : String} {file : ArgumentFile} (h : parse raw = .ok file) : Fields.Sorted file.arguments := by
  obtain ⟨document, hread, h⟩ := bind_eq_ok h
  obtain ⟨arguments, harguments, h⟩ := bind_eq_ok h
  obtain ⟨c, _, h⟩ := bind_eq_ok h
  cases h
  have hdocument : document.IsOrdered := by
    have hchars : Json.readChars raw.toList = .ok document := eq_ok_of_mapError (eq_ok_of_mapError hread)
    exact Json.isOrdered_of_read? (show (Json.readChars raw.toList).toOption = some document by rw [hchars]; rfl)
  unfold argumentsOf at harguments
  split at harguments
  · split at harguments
    · rename_i members _ hfound
      cases harguments
      exact (Json.membersOrdered_iff.mp hdocument.2 _ (Fields.mem_of_get? hfound)).1
    · cases harguments
  · cases harguments

theorem load_sorted {files : FileTree} {path : String} {file : ArgumentFile} (h : load files path = .ok file) :
    Fields.Sorted file.arguments := by
  unfold load at h
  split at h
  · cases h
  · exact parse_sorted h

end ArgumentFile

/-! ## Modules on a file -/

namespace Automation

variable {files : FileTree} {path : String}

/-- What is wrong with a document is told in a report. -/
theorem run_of_parse_error {raw : String} (htext : files.readText path = .ok raw) {e : SettingsError}
    (h : ArgumentFile.parse raw = .error e) (name : String) (env : Environment) (wire : Wire) :
    run name path files env wire = (.ok (refusal e), wire) := by
  obtain ⟨reason, rfl⟩ := ArgumentFile.parse_error h
  have hload : ArgumentFile.load files path = .error (.arguments reason) := by
    rw [ArgumentFile.load_of_text htext, h]
  simp only [run, hload]

theorem run_of_load {file : ArgumentFile} (hload : ArgumentFile.load files path = .ok file) (name : String)
    (env : Environment) (wire : Wire) :
    run name path files env wire =
      match kind? name file with
      | none => (.error (.unknownModule name names), wire)
      | some kind => (.ok (runKind kind file files env wire).1, (runKind kind file files env wire).2) := by
  cases hkind : kind? name file with
  | none => simp only [run, hload, hkind]
  | some kind => simp only [run, hload, hkind]

end Automation

end OutOfBand
