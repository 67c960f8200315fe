import OutOfBand.Proofs.Fields
import OutOfBand.Proofs.Report

/-! # What is attached to a report

A report is made with its verdict and its message, and takes what is attached to it afterwards, answers of the device
among it. The verdict's own keys are passed over, so whatever is attached the report says what it was made to say: its
document names no key twice, and whoever reads a flag or the message there reads the report's own.
-/
namespace OutOfBand

namespace Report

/-! ## The keys of the verdict -/

/-- Nothing is attached under a key of the verdict. -/
def KeepsVerdict (r : Report) : Prop := ∀ entry ∈ r.payload, entry.1 ∉ reservedKeys

theorem keepsVerdict_of_payload {r : Report} (h : r.payload = []) : r.KeepsVerdict := by
  intro entry hentry
  rw [h] at hentry
  cases hentry

theorem KeepsVerdict.withPayload {r : Report} (h : r.KeepsVerdict) (key : String) (value : Json) :
    (r.withPayload key value).KeepsVerdict := by
  unfold Report.withPayload
  split
  case isTrue => exact h
  case isFalse hkey =>
    intro entry hentry
    rcases Fields.mem_insert hentry with rfl | hentry
    · simpa using hkey
    · exact h entry hentry

theorem KeepsVerdict.foldl_withPayload {r : Report} (h : r.KeepsVerdict) (entries : Object) :
    (List.foldl (fun r entry => r.withPayload entry.1 entry.2) r entries).KeepsVerdict := by
  induction entries generalizing r with
  | nil => exact h
  | cons entry rest ih => exact ih (h.withPayload entry.1 entry.2)

theorem keepsVerdict_ofFailure (f : Failure) : (ofFailure f).KeepsVerdict := by
  unfold ofFailure
  split
  · exact keepsVerdict_of_payload rfl
  · exact KeepsVerdict.foldl_withPayload (keepsVerdict_of_payload rfl) f.payload

theorem KeepsVerdict.get?_payload {r : Report} (h : r.KeepsVerdict) {name : String} (hname : name ∈ reservedKeys) :
    r.payload.get? name = none := by
  cases hfound : r.payload.get? name with
  | none => rfl
  | some value => exact absurd hname (h (name, value) (Fields.mem_of_get? hfound))

/-! ## Attachments -/

/-- The report with everything attached, in the order given. -/
def attach (r : Report) (attached : List (String × Json)) : Report :=
  List.foldl (fun r entry => r.withPayload entry.1 entry.2) r attached

/-- What the payload takes is what does not stand under a key of the verdict. -/
theorem payload_attach (r : Report) (attached : List (String × Json)) :
    (r.attach attached).payload = (attached.filter fun entry => !reservedKeys.contains entry.1).foldl
      (fun fields entry => Fields.insert entry.1 entry.2 fields) r.payload := by
  induction attached generalizing r with
  | nil => rfl
  | cons entry rest ih =>
    have hstep : (r.attach (entry :: rest)).payload = ((r.withPayload entry.1 entry.2).attach rest).payload := rfl
    rw [hstep, ih, List.filter_cons, withPayload]
    cases reservedKeys.contains entry.1 with
    | true => rfl
    | false => rfl

/-- The last value that is attached under a name is the one kept, and what is not attached anew stays. -/
theorem get?_attach (r : Report) (attached : List (String × Json)) {name : String} (hname : name ∉ reservedKeys) :
    (r.attach attached).get? name = (List.lookup name attached.reverse).or (r.get? name) := by
  have htaken : List.lookup name (attached.filter fun entry => !reservedKeys.contains entry.1).reverse =
      List.lookup name attached.reverse := by
    rw [← List.filter_reverse]
    refine (Fields.get?_filter (fun key => !reservedKeys.contains key) attached.reverse name).trans (if_pos ?_)
    simpa using hname
  rw [get?, payload_attach, Fields.get?_foldl_insert, htaken]
  rfl

theorem sorted_attach {r : Report} (h : Fields.Sorted r.payload) (attached : List (String × Json)) :
    Fields.Sorted (r.attach attached).payload := by
  rw [payload_attach]
  exact h.foldl_insert _

/-- A report as it is first made, with a verdict of its own or for a failure. -/
inductive IsMade : Report → Prop where
  | ok (message : String) : IsMade (ok message)
  | changed (message : String) : IsMade (changed message)
  | withChanged (isChanged : Bool) (message : String) : IsMade (withChanged isChanged message)
  | failed (message : String) : IsMade (failed message)
  | unreachable (message : String) : IsMade (unreachable message)
  | ofFailure (f : Failure) : IsMade (ofFailure f)

theorem IsMade.sorted {made : Report} (h : made.IsMade) : Fields.Sorted made.payload := by
  cases h with
  | ofFailure f =>
    unfold Report.ofFailure
    split
    · trivial
    · exact sorted_attach (r := Report.failed f.message) trivial f.payload
  | _ => trivial

theorem IsMade.keepsVerdict {made : Report} (h : made.IsMade) : made.KeepsVerdict := by
  cases h with
  | ofFailure f => exact keepsVerdict_ofFailure f
  | _ => exact keepsVerdict_of_payload rfl

theorem IsMade.isSound {made : Report} (h : made.IsMade) : made.verdict.IsSound := by
  cases h with
  | ok _ => exact Verdict.build_isSound (fun h => by cases h)
  | changed _ => exact Verdict.build_isSound (fun h => by cases h)
  | withChanged _ _ => exact Verdict.build_isSound (fun h => by cases h)
  | failed _ => exact Verdict.build_isSound (fun h => by cases h)
  | unreachable _ => exact Verdict.build_isSound (fun _ => rfl)
  | ofFailure f =>
    rw [verdict_ofFailure]
    split
    · exact Verdict.build_isSound (fun _ => rfl)
    · exact Verdict.build_isSound (fun h => by cases h)

/-- A report that was made and has taken some attachments. -/
def IsBuilt (r : Report) : Prop := ∃ made attached, IsMade made ∧ r = made.attach attached

theorem IsMade.isBuilt {made : Report} (h : made.IsMade) : made.IsBuilt := ⟨made, [], h, rfl⟩

theorem IsBuilt.withPayload {r : Report} (h : r.IsBuilt) (key : String) (value : Json) : (r.withPayload key value).IsBuilt := by
  obtain ⟨made, attached, hmade, rfl⟩ := h
  refine ⟨made, attached ++ [(key, value)], hmade, ?_⟩
  simp [attach]

theorem IsBuilt.keepsVerdict {r : Report} (h : r.IsBuilt) : r.KeepsVerdict := by
  obtain ⟨made, attached, hmade, rfl⟩ := h
  exact hmade.keepsVerdict.foldl_withPayload attached

theorem IsBuilt.sorted {r : Report} (h : r.IsBuilt) : Fields.Sorted r.payload := by
  obtain ⟨made, attached, hmade, rfl⟩ := h
  exact sorted_attach hmade.sorted attached

theorem IsBuilt.isSound {r : Report} (h : r.IsBuilt) : r.verdict.IsSound := by
  obtain ⟨made, attached, hmade, rfl⟩ := h
  have hverdict : (made.attach attached).verdict = made.verdict := verdict_foldl_withPayload attached made
  rw [hverdict]
  exact hmade.isSound

/-! ## The document -/

/-- The entries of the verdict and the message. -/
def heading (r : Report) : List (String × Json) :=
  [("changed", .bool r.isChanged), ("failed", .bool r.isFailed), ("msg", .string r.message)] ++
    (if r.isUnreachable then [("unreachable", .bool true)] else [])

theorem keys_heading (r : Report) : (Fields.keys r.heading).Sublist reservedKeys := by
  unfold heading
  cases r.isUnreachable with
  | true => exact .refl _
  | false => exact List.sublist_append_left ["changed", "failed", "msg"] ["unreachable"]

theorem KeepsVerdict.nodup_keys {r : Report} (h : r.KeepsVerdict) (hsorted : Fields.Sorted r.payload) :
    (Fields.keys r.entries).Nodup := by
  have hkeys : Fields.keys r.entries = Fields.keys r.heading ++ Fields.keys r.payload := List.map_append
  rw [hkeys, List.nodup_append]
  refine ⟨(keys_heading r).nodup (by decide), hsorted.nodup_keys, ?_⟩
  rintro key hheading _ hpayload rfl
  obtain ⟨entry, hentry, rfl⟩ := List.mem_map.mp hpayload
  exact h entry hentry ((keys_heading r).subset hheading)

/-- The value that is put together entry by entry is the one that the written entries form. -/
theorem toJson_eq_ofEntries (r : Report) : r.toJson = .ofEntries r.entries := by
  rw [toJson, Json.ofEntries, Fields.ofList, entries, List.foldl_append, List.foldl_append]
  cases r.isUnreachable with
  | true => simp only [↓reduceIte, List.foldl_cons, List.foldl_nil]
  | false => simp only [Bool.false_eq_true, ↓reduceIte, List.foldl_cons, List.foldl_nil]

/-- Read as a value the document has the entries that are written, in the order of their keys. -/
theorem toJson_perm {r : Report} (h : (Fields.keys r.entries).Nodup) :
    ∃ members, r.toJson = .object members ∧ members.Perm r.entries :=
  ⟨_, toJson_eq_ofEntries r, Fields.ofList_perm h⟩

theorem member?_toJson {r : Report} (h : (Fields.keys r.entries).Nodup) (name : String) :
    r.toJson.member? name = Fields.get? r.entries name := by
  obtain ⟨members, hjson, hperm⟩ := toJson_perm h
  rw [hjson]
  exact (Fields.get?_of_perm hperm.symm h name).symm

/-- What one finds under the names of a document is the report's verdict, its message and its payload. -/
structure IsShownBy (r : Report) (look : String → Option Json) : Prop where
  changed : look "changed" = some (.bool r.isChanged)
  failed : look "failed" = some (.bool r.isFailed)
  msg : look "msg" = some (.string r.message)
  unreachable : look "unreachable" = if r.isUnreachable then some (.bool true) else none
  payload : ∀ name ∉ reservedKeys, look name = r.get? name

theorem KeepsVerdict.isShownBy_entries {r : Report} (h : r.KeepsVerdict) : r.IsShownBy (Fields.get? r.entries) := by
  have hlook : ∀ name, Fields.get? r.entries name = (Fields.get? r.heading name).or (r.get? name) :=
    fun name => List.lookup_append
  refine ⟨rfl, rfl, rfl, ?_, fun name hname => ?_⟩
  · have hnone : r.get? "unreachable" = none := h.get?_payload (by decide)
    rw [hlook, hnone, Option.or_none, heading]
    split
    · rfl
    · rfl
  · have hnone : Fields.get? r.heading name = none := by
      cases hfound : Fields.get? r.heading name with
      | none => rfl
      | some value =>
        have hkey : name ∈ Fields.keys r.heading := List.mem_map_of_mem (Fields.mem_of_get? hfound)
        exact absurd ((keys_heading r).subset hkey) hname
    rw [hlook, hnone, Option.none_or]

/-- What a report promises whoever reads its document. -/
structure KeepsContract (r : Report) : Prop where
  not_changed : r.isFailed = true → r.isChanged = false
  failed : r.isUnreachable = true → r.isFailed = true
  keepsVerdict : r.KeepsVerdict
  nodup_keys : (Fields.keys r.entries).Nodup
  document : ∃ members, r.toJson = .object members ∧ members.Perm r.entries
  written : r.IsShownBy (Fields.get? r.entries)
  read : r.IsShownBy r.toJson.member?

theorem IsBuilt.keepsContract {r : Report} (h : r.IsBuilt) : r.KeepsContract := by
  have hnodup := h.keepsVerdict.nodup_keys h.sorted
  have hsame : r.toJson.member? = Fields.get? r.entries := funext (member?_toJson hnodup)
  exact {
    not_changed := h.isSound.not_changed
    failed := h.isSound.failed
    keepsVerdict := h.keepsVerdict
    nodup_keys := hnodup
    document := toJson_perm hnodup
    written := h.keepsVerdict.isShownBy_entries
    read := hsame ▸ h.keepsVerdict.isShownBy_entries }

/-- However a report is made, and whatever is attached to it in whatever order, its document keeps to the contract. The
attachments change neither a flag nor the message, and of what is attached under another name the last value is kept. -/
theorem attach_keepsContract {made : Report} (h : made.IsMade) (attached : List (String × Json)) :
    (made.attach attached).KeepsContract ∧
      (made.attach attached).isChanged = made.isChanged ∧
      (made.attach attached).isFailed = made.isFailed ∧
      (made.attach attached).isUnreachable = made.isUnreachable ∧
      (made.attach attached).message = made.message ∧
      ∀ name ∉ reservedKeys,
        (made.attach attached).get? name = (List.lookup name attached.reverse).or (made.get? name) := by
  have hverdict : (made.attach attached).verdict = made.verdict := verdict_foldl_withPayload attached made
  have hbuilt : (made.attach attached).IsBuilt := ⟨made, attached, h, rfl⟩
  refine ⟨hbuilt.keepsContract, ?_, ?_, ?_, message_foldl_withPayload attached made,
    fun name hname => get?_attach made attached hname⟩
  · rw [isChanged, isChanged, hverdict]
  · rw [isFailed, isFailed, hverdict]
  · rw [isUnreachable, isUnreachable, hverdict]

/-- A device that answers a refused request with flags of its own, and an operation that hands them on. -/
theorem attach_keepsContract_refused :
    let refused : Failure := .remote "Job refused" [("changed", .bool true), ("error_info", .string "E1")]
    let attached : List (String × Json) := [("failed", .bool false), ("job", .string "JID_1"), ("job", .string "JID_2")]
    (ofFailure refused).IsMade ∧
      ((ofFailure refused).attach attached).KeepsContract ∧
      ((ofFailure refused).attach attached).entries =
        [("changed", .bool false), ("failed", .bool true), ("msg", .string "Job refused"),
          ("error_info", .string "E1"), ("job", .string "JID_2")] :=
  ⟨.ofFailure _, (attach_keepsContract (.ofFailure _) _).1, rfl⟩

end Report

end OutOfBand
