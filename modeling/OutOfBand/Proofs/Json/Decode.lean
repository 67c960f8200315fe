import OutOfBand.Json.Decode
import OutOfBand.Proofs.Fields

/-! # Reading records

A record that has been read holds the value of every member whose key spells a field, under the field's
own name.
-/
namespace OutOfBand

theorem bind_eq_ok {ε α β : Type} {result : Except ε α} {next : α → Except ε β} {b : β}
    (h : result >>= next = .ok b) : ∃ a, result = .ok a ∧ next a = .ok b := by
  cases result with
  | error e => cases h
  | ok a => exact ⟨a, rfl, h⟩

theorem bind_eq_error {ε α β : Type} {result : Except ε α} {next : α → Except ε β} {e : ε}
    (h : result >>= next = .error e) : result = .error e ∨ ∃ a, result = .ok a ∧ next a = .error e := by
  cases result with
  | error e' =>
    cases h
    exact Or.inl rfl
  | ok a => exact Or.inr ⟨a, rfl, h⟩

theorem map_eq_ok {ε α β : Type} {result : Except ε α} {f : α → β} {b : β} (h : result.map f = .ok b) :
    ∃ a, result = .ok a ∧ f a = b := by
  cases result with
  | error e => cases h
  | ok a =>
    cases h
    exact ⟨a, rfl, rfl⟩

theorem eq_error_of_map {ε α β : Type} {result : Except ε α} {f : α → β} {e : ε} (h : result.map f = .error e) :
    result = .error e := by
  cases result with
  | error e =>
    cases h
    rfl
  | ok a => cases h

theorem mapError_eq_error {ε δ α : Type} {result : Except ε α} {f : ε → δ} {d : δ} (h : result.mapError f = .error d) :
    ∃ e, result = .error e ∧ f e = d := by
  cases result with
  | error e =>
    cases h
    exact ⟨e, rfl, rfl⟩
  | ok a => cases h

theorem eq_ok_of_toOption {ε α : Type} {result : Except ε α} {a : α} (h : result.toOption = some a) : result = .ok a := by
  cases result with
  | error e => cases h
  | ok b =>
    cases h
    rfl

theorem eq_ok_of_mapError {ε δ α : Type} {result : Except ε α} {f : ε → δ} {a : α} (h : result.mapError f = .ok a) :
    result = .ok a := by
  cases result with
  | error e => cases h
  | ok b =>
    cases h
    rfl

namespace RecordShape

variable {shape : RecordShape} {seen result members : List (String × Json)} {key name : String} {value : Json}

theorem mem_of_rule? {rule : FieldRule} (h : shape.rule? key = some rule) :
    rule ∈ shape.fields ∧ rule.isSpelled key = true := by
  unfold rule? at h
  have hspelled := List.find?_some h
  exact ⟨List.mem_of_find?_eq_some h, hspelled⟩

theorem visit_cons_ok (h : shape.visit seen ((key, value) :: members) = .ok result) :
    (shape.rule? key = none ∧ shape.visit seen members = .ok result) ∨
      ∃ rule, shape.rule? key = some rule ∧ Fields.get? seen rule.name = none ∧ rule.check value = .ok () ∧
        shape.visit (seen ++ [(rule.name, value)]) members = .ok result := by
  rw [visit] at h
  cases hr : shape.rule? key with
  | none =>
    rw [hr] at h
    exact Or.inl ⟨rfl, h⟩
  | some rule =>
    rw [hr] at h
    dsimp only at h
    split at h
    case isTrue => cases h
    case isFalse hnew =>
      obtain ⟨_, hcheck, hrest⟩ := bind_eq_ok h
      exact Or.inr ⟨rule, rfl, by simpa [Fields.contains] using hnew, hcheck, hrest⟩

theorem visit_keeps (h : shape.visit seen members = .ok result) (hseen : Fields.get? seen name = some value) :
    Fields.get? result name = some value := by
  induction members generalizing seen with
  | nil =>
    cases h
    exact hseen
  | cons member rest ih =>
    rcases visit_cons_ok h with ⟨_, hrest⟩ | ⟨rule, _, _, _, hrest⟩
    · exact ih hrest hseen
    · exact ih hrest (by rw [Fields.get?_concat, hseen, Option.some_or])

theorem visit_get? (h : shape.visit seen members = .ok result) (hmember : Fields.get? members key = some value)
    {rule : FieldRule} (hrule : shape.rule? key = some rule) : Fields.get? result rule.name = some value := by
  induction members generalizing seen with
  | nil => cases hmember
  | cons member rest ih =>
    obtain ⟨k, v⟩ := member
    rw [Fields.get?_cons] at hmember
    by_cases hk : key = k
    · subst hk
      rw [if_pos rfl] at hmember
      cases hmember
      rcases visit_cons_ok h with ⟨hnone, _⟩ | ⟨other, hother, hnew, _, hrest⟩
      · rw [hrule] at hnone
        cases hnone
      · rw [hrule] at hother
        cases hother
        exact visit_keeps hrest (by rw [Fields.get?_concat, hnew, Option.none_or, if_pos rfl])
    · rw [if_neg hk] at hmember
      rcases visit_cons_ok h with ⟨_, hrest⟩ | ⟨_, _, _, _, hrest⟩
      · exact ih hrest hmember
      · exact ih hrest hmember

/-- Every value that is taken in has been checked. -/
theorem visit_check (h : shape.visit seen members = .ok result) (hmember : Fields.get? members key = some value)
    {rule : FieldRule} (hrule : shape.rule? key = some rule) : rule.check value = .ok () := by
  induction members generalizing seen with
  | nil => cases hmember
  | cons member rest ih =>
    obtain ⟨k, v⟩ := member
    rw [Fields.get?_cons] at hmember
    rcases visit_cons_ok h with ⟨hnone, hrest⟩ | ⟨other, hother, _, hcheck, hrest⟩
    · split at hmember
      case isTrue hk =>
        rw [← hk, hrule] at hnone
        cases hnone
      case isFalse => exact ih hrest hmember
    · split at hmember
      case isTrue hk =>
        cases hmember
        rw [← hk, hrule] at hother
        cases hother
        exact hcheck
      case isFalse => exact ih hrest hmember

/-- What has been taken in was there, or it is the value of a member whose key spells its field. -/
theorem visit_source (h : shape.visit seen members = .ok result) (hresult : Fields.get? result name = some value) :
    Fields.get? seen name = some value ∨
      ∃ key rule, Fields.get? members key = some value ∧ shape.rule? key = some rule ∧ rule.name = name := by
  induction members generalizing seen with
  | nil =>
    cases h
    exact Or.inl hresult
  | cons member rest ih =>
    obtain ⟨k, v⟩ := member
    rcases visit_cons_ok h with ⟨hnone, hrest⟩ | ⟨rule, hrule, hnew, _, hrest⟩
    · rcases ih hrest with hseen | ⟨key, other, hkey, hother, hname⟩
      · exact Or.inl hseen
      · have hne : key ≠ k := by
          rintro rfl
          rw [hnone] at hother
          cases hother
        exact Or.inr ⟨key, other, by rw [Fields.get?_cons, if_neg hne, hkey], hother, hname⟩
    · rcases ih hrest with hseen | ⟨key, other, hkey, hother, hname⟩
      · rw [Fields.get?_concat] at hseen
        by_cases hn : name = rule.name
        · subst hn
          rw [hnew, Option.none_or, if_pos rfl] at hseen
          exact Or.inr ⟨k, rule, by rw [Fields.get?_cons, if_pos rfl, hseen], hrule, rfl⟩
        · rw [if_neg hn, Option.or_none] at hseen
          exact Or.inl hseen
      · right
        refine ⟨key, other, ?_, hother, hname⟩
        rw [Fields.get?_cons]
        split
        case isTrue hk =>
          -- A second member of the same field would have been refused, so the two values are one.
          subst hk
          rw [hrule] at hother
          cases hother
          subst hname
          have hkept : Fields.get? result rule.name = some v :=
            visit_keeps hrest (by rw [Fields.get?_concat, hnew, Option.none_or, if_pos rfl])
          rw [← hkept, hresult]
        case isFalse => exact hkey

theorem decode_object_ok (h : shape.decode (.object members) = .ok result) :
    shape.visit [] members = .ok result ∧ shape.missing? result = none := by
  obtain ⟨seen, hseen, hmissing⟩ := bind_eq_ok (show shape.ofMembers members = .ok result from h)
  split at hmissing
  · cases hmissing
  · cases hmissing
    exact ⟨hseen, ‹_›⟩

/-- The value of a field in an object, under whichever of its names it stands. -/
theorem decode_get? (h : shape.decode (.object members) = .ok result) (hmember : Fields.get? members key = some value)
    {rule : FieldRule} (hrule : shape.rule? key = some rule) : Fields.get? result rule.name = some value :=
  visit_get? (decode_object_ok h).1 hmember hrule

/-- An object that makes a record has for every field a value that the field takes. -/
theorem decode_check (h : shape.decode (.object members) = .ok result) (hmember : Fields.get? members key = some value)
    {rule : FieldRule} (hrule : shape.rule? key = some rule) : rule.check value = .ok () :=
  visit_check (decode_object_ok h).1 hmember hrule

/-- A field that was read from an object stands there under one of its names. -/
theorem decode_source (h : shape.decode (.object members) = .ok result) (hresult : Fields.get? result name = some value) :
    ∃ key rule, Fields.get? members key = some value ∧ shape.rule? key = some rule ∧ rule.name = name := by
  rcases visit_source (decode_object_ok h).1 hresult with hnone | hsource
  · cases hnone
  · exact hsource

/-! ## Lists of fields -/

theorem pair_cons {rule : FieldRule} {rules : List FieldRule} {index : Nat} {item : Json} {items : List Json}
    (hcheck : rule.check item = .ok ()) (h : shape.pair (index + 1) rules items = .ok result) :
    shape.pair index (rule :: rules) (item :: items) = .ok ((rule.name, item) :: result) := by
  rw [pair, hcheck]
  change (shape.pair (index + 1) rules items >>= fun rest => _) = _
  rw [h]
  rfl

theorem pair_cons_ok {rule : FieldRule} {rules : List FieldRule} {index : Nat} {items : List Json}
    (hneeded : rule.presence ≠ .optional) (h : shape.pair index (rule :: rules) items = .ok result) :
    ∃ item rest behind, items = item :: rest ∧ rule.check item = .ok () ∧
      shape.pair (index + 1) rules rest = .ok behind := by
  cases items with
  | nil =>
    rw [pair, if_neg hneeded] at h
    cases h
  | cons item rest =>
    rw [pair] at h
    obtain ⟨_, hcheck, h⟩ := bind_eq_ok h
    obtain ⟨behind, hbehind, _⟩ := bind_eq_ok h
    exact ⟨item, rest, behind, rfl, hcheck, hbehind⟩

end RecordShape

end OutOfBand
