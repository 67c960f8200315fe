import OutOfBand.Connection
import OutOfBand.Proofs.Json.Spelling

/-! # Spellings of options

An option of a connection that has several spellings may stand under any one of them, and under one only. What else stands
among the options does not matter.
-/
namespace OutOfBand.Connection

/-- The options, each with all its spellings. -/
def spellings : List (List String) := [
  ["hostname", "idrac_ip", "baseuri"],
  ["port", "idrac_port"],
  ["username", "idrac_user", "vcenter_username"],
  ["password", "idrac_password", "idrac_pwd", "vcenter_password"],
  ["auth_token", "x_auth_token"],
  ["validate_certs"],
  ["ca_path"],
  ["timeout"],
  ["check_mode", "_ansible_check_mode"],
  ["vcenter_uuid"]]

/-- Both spell the same option. -/
def SpellAlike (key other : String) : Prop := ∃ names ∈ spellings, key ∈ names ∧ other ∈ names

def isRecognised (key : String) : Bool := spellings.any (·.contains key)

theorem spellings_eq : spellings = shape.fields.map FieldRule.spellings := rfl

theorem shape_hasDistinctSpellings : shape.HasDistinctSpellings := by decide +kernel

theorem SpellAlike.rule? {key other : String} (h : SpellAlike key other) :
    ∃ rule, shape.rule? key = some rule ∧ shape.rule? other = some rule := by
  obtain ⟨names, hnames, hkey, hother⟩ := h
  rw [spellings_eq] at hnames
  obtain ⟨rule, hrule, rfl⟩ := List.mem_map.mp hnames
  exact ⟨rule, shape_hasDistinctSpellings.rule? hrule hkey, shape_hasDistinctSpellings.rule? hrule hother⟩

theorem isRecognised_eq (key : String) : isRecognised key = (shape.rule? key).isSome := by
  rw [Bool.eq_iff_iff, RecordShape.rule?_isSome_iff, isRecognised, spellings_eq]
  simp

/-- The options are taken from the fields that have been read, one look-up for each. -/
theorem decode_congr {value value' : Json} {seen seen' : Object} (hread : shape.decode value = .ok seen)
    (hread' : shape.decode value' = .ok seen') (h : ∀ name, Fields.get? seen name = Fields.get? seen' name) :
    decode value = decode value' := by
  rw [decode, decode, hread, hread']
  simp only [bind, Except.bind, fieldOr, h]

theorem decode_of_error {value : Json} {mismatch : Mismatch} (h : shape.decode value = .error mismatch) :
    decode value = .error mismatch := by
  rw [decode, h]
  rfl

theorem decode_respelled {arguments : Object} {rename : String → String}
    (hrename : ∀ key, rename key = key ∨ SpellAlike key (rename key))
    (hdistinct : ((Fields.keys arguments).map rename).Nodup) :
    (decode (.object (RecordShape.respelled rename arguments))).toOption = (decode (.object arguments)).toOption := by
  have hrules : ∀ key, shape.rule? (rename key) = shape.rule? key := by
    intro key
    rcases hrename key with hsame | halike
    · rw [hsame]
    · obtain ⟨rule, hkey, hother⟩ := halike.rule?
      rw [hkey, hother]
  have hread := RecordShape.decode_respelled hrules hdistinct
  cases hnew : shape.decode (.object (RecordShape.respelled rename arguments)) with
  | ok seen =>
    cases hold : shape.decode (.object arguments) with
    | ok seen' =>
      rw [hnew, hold] at hread
      cases hread with
      | some hsame => rw [decode_congr hnew hold hsame]
    | error mismatch =>
      rw [hnew, hold] at hread
      cases hread
  | error mismatch =>
    cases hold : shape.decode (.object arguments) with
    | ok seen' =>
      rw [hnew, hold] at hread
      cases hread
    | error mismatch' =>
      rw [decode_of_error hnew, decode_of_error hold]
      rfl

/-- Whatever the arguments are, other spellings of the same options under keys that stay distinct make the same connection
of them or none as before. An option in two spellings makes none, whatever stands under the two. Arguments that differ in
keys that spell no option read alike, and where they make no connection it is for the same reason. -/
theorem decode_ignores_spelling (arguments : Object) :
    (∀ rename : String → String, (∀ key, rename key = key ∨ SpellAlike key (rename key)) →
      ((Fields.keys arguments).map rename).Nodup →
      (decode (.object (RecordShape.respelled rename arguments))).toOption = (decode (.object arguments)).toOption) ∧
    (∀ key ∈ Fields.keys arguments, ∀ other ∈ Fields.keys arguments, key ≠ other → SpellAlike key other →
      ∃ mismatch, decode (.object arguments) = .error mismatch) ∧
    (∀ others : Object, others.filter (fun member => isRecognised member.1) =
        arguments.filter (fun member => isRecognised member.1) →
      decode (.object others) = decode (.object arguments)) := by
  refine ⟨fun rename hrename hdistinct => decode_respelled hrename hdistinct, ?_, ?_⟩
  · intro key hkey other hother hne halike
    obtain ⟨member, hmember, rfl⟩ := List.mem_map.mp hkey
    obtain ⟨member', hmember', rfl⟩ := List.mem_map.mp hother
    obtain ⟨rule, hrule, hrule'⟩ := halike.rule?
    have hapart : member ≠ member' := fun heq => hne (congrArg Prod.fst heq)
    obtain ⟨mismatch, hrefused⟩ := RecordShape.decode_error_of_spelled_twice hmember hmember' hapart hrule hrule'
    exact ⟨mismatch, decode_of_error hrefused⟩
  · intro others hsame
    simp only [isRecognised_eq] at hsame
    rw [decode, decode, RecordShape.decode_congr_recognised hsame]

/-- Options in older spellings: under newer ones, which come in another order, with one of them spelled twice, and with an
option of an operation beside them. -/
theorem decode_ignores_spelling_older :
    let older : Object := [("_ansible_check_mode", .bool true), ("idrac_ip", .string "10.0.0.5"),
      ("idrac_password", .string "calvin"), ("idrac_user", .string "root")]
    let rename (key : String) : String :=
      if key = "idrac_ip" then "hostname" else if key = "idrac_user" then "username" else key
    (∀ key, rename key = key ∨ SpellAlike key (rename key)) ∧ ((Fields.keys older).map rename).Nodup ∧
      Fields.keys (RecordShape.respelled rename older) = ["_ansible_check_mode", "hostname", "idrac_password", "username"] ∧
      (decode (.object (RecordShape.respelled rename older))).toOption =
        some { new "10.0.0.5" with username := some "root", password := some "calvin", checkMode := true } ∧
      (∃ mismatch, decode (.object (("baseuri", .string "10.0.0.6") :: older)) = .error mismatch) ∧
      decode (.object (older ++ [("job_id", .string "JID_1")])) = decode (.object older) := by
  intro older rename
  have hrename : ∀ key, rename key = key ∨ SpellAlike key (rename key) := by
    intro key
    by_cases hip : key = "idrac_ip"
    · subst hip
      exact Or.inr ⟨["hostname", "idrac_ip", "baseuri"], by decide, by decide, by decide⟩
    by_cases huser : key = "idrac_user"
    · subst huser
      exact Or.inr ⟨["username", "idrac_user", "vcenter_username"], by decide, by decide, by decide⟩
    · exact Or.inl (by simp only [rename, if_neg hip, if_neg huser])
  have hdistinct : ((Fields.keys older).map rename).Nodup := by decide +kernel
  have hread : (decode (.object older)).toOption =
      some { new "10.0.0.5" with username := some "root", password := some "calvin", checkMode := true } := by
    decide +kernel
  have htwice : SpellAlike "baseuri" "idrac_ip" := ⟨["hostname", "idrac_ip", "baseuri"], by decide, by decide, by decide⟩
  refine ⟨hrename, hdistinct, by decide +kernel, ?_, ?_, ?_⟩
  · exact ((decode_ignores_spelling older).1 rename hrename hdistinct).trans hread
  · exact (decode_ignores_spelling (("baseuri", .string "10.0.0.6") :: older)).2.1 "baseuri" (by decide +kernel) "idrac_ip"
      (by decide +kernel) (by decide) htwice
  · exact (decode_ignores_spelling older).2.2 (older ++ [("job_id", .string "JID_1")]) rfl

end OutOfBand.Connection
