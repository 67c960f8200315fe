import OutOfBand.Proofs.Json.Decode

/-! # Objects that make records

An object makes a record if every value in it that belongs to a field is one that the field takes, if no field stands
there under two names, and if none is missing that has to be there. Keys of other records beside them do not matter.
-/
namespace OutOfBand

/-- The object gives the field a value that it takes, or leaves it out where it may be. -/
structure FieldRule.IsGivenIn (members : Object) (rule : FieldRule) : Prop where
  check : ∀ value, Fields.get? members rule.name = some value → rule.check value = .ok ()
  present : rule.presence = .required → ∃ value, Fields.get? members rule.name = some value

namespace RecordShape

variable {shape : RecordShape} {members seen : Object}

structure Admits (shape : RecordShape) (members : Object) : Prop where
  sorted : Fields.Sorted members
  checks : ∀ {key value rule}, Fields.get? members key = some value → shape.rule? key = some rule →
    rule.check value = .ok ()
  once : ∀ {key key' value value' rule rule'}, Fields.get? members key = some value →
    Fields.get? members key' = some value' → shape.rule? key = some rule → shape.rule? key' = some rule' →
    rule.name = rule'.name → key = key'
  complete : ∀ rule ∈ shape.fields, rule.presence = .required →
    ∃ key value found, Fields.get? members key = some value ∧ shape.rule? key = some found ∧ found.name = rule.name

theorem get?_cons_of_sorted {key other : String} {value given : Json} {rest : Object}
    (h : Fields.Sorted ((key, value) :: rest)) (hrest : Fields.get? rest other = some given) :
    other ≠ key ∧ Fields.get? ((key, value) :: rest) other = some given := by
  have hne : other ≠ key := by
    rintro rfl
    rw [Fields.get?_eq_none_of_lt h.1] at hrest
    cases hrest
  exact ⟨hne, by rw [Fields.get?_cons, if_neg hne, hrest]⟩

theorem visit_ok (hsorted : Fields.Sorted members)
    (hchecks : ∀ {key value rule}, Fields.get? members key = some value → shape.rule? key = some rule →
      rule.check value = .ok ())
    (honce : ∀ {key key' value value' rule rule'}, Fields.get? members key = some value →
      Fields.get? members key' = some value' → shape.rule? key = some rule → shape.rule? key' = some rule' →
      rule.name = rule'.name → key = key')
    (hseen : ∀ {key value rule}, Fields.get? members key = some value → shape.rule? key = some rule →
      Fields.get? seen rule.name = none) :
    ∃ result, shape.visit seen members = .ok result := by
  -- nothing has been seen of the fields that are still to come, whatever has been seen of others
  induction members generalizing seen with
  | nil => exact ⟨seen, rfl⟩
  | cons member rest ih =>
    obtain ⟨key, value⟩ := member
    have hfirst : Fields.get? ((key, value) :: rest) key = some value := by rw [Fields.get?_cons, if_pos rfl]
    have hbehind : ∀ {other given}, Fields.get? rest other = some given →
        other ≠ key ∧ Fields.get? ((key, value) :: rest) other = some given := get?_cons_of_sorted hsorted
    have hgo : ∀ seen', (∀ {other given rule}, Fields.get? rest other = some given → shape.rule? other = some rule →
        Fields.get? seen' rule.name = none) → ∃ result, shape.visit seen' rest = .ok result := by
      intro seen' hseen'
      exact ih hsorted.2 (fun hget => hchecks (hbehind hget).2)
        (fun hget hget' => honce (hbehind hget).2 (hbehind hget').2) hseen'
    cases hrule : shape.rule? key with
    | none =>
      have hvisit : shape.visit seen ((key, value) :: rest) = shape.visit seen rest := by rw [visit, hrule]
      rw [hvisit]
      exact hgo seen (fun hget => hseen (hbehind hget).2)
    | some rule =>
      have hnew : Fields.get? seen rule.name = none := hseen hfirst hrule
      have hvisit : shape.visit seen ((key, value) :: rest) = shape.visit (seen ++ [(rule.name, value)]) rest := by
        rw [visit, hrule]
        simp only [Fields.contains, hnew, hchecks hfirst hrule, Option.isSome_none, Bool.false_eq_true, ↓reduceIte]
        rfl
      rw [hvisit]
      refine hgo _ (fun {other given found} hget hfound => ?_)
      obtain ⟨hne, hmember⟩ := hbehind hget
      have hname : found.name ≠ rule.name := fun hsame => hne (honce hmember hfirst hfound hrule hsame)
      rw [Fields.get?_concat, hseen hmember hfound, if_neg hname, Option.none_or]

theorem Admits.decode_ok (h : shape.Admits members) : ∃ seen, shape.decode (.object members) = .ok seen := by
  have hvisit : ∃ seen, shape.visit [] members = .ok seen := visit_ok h.sorted h.checks h.once (fun _ _ => rfl)
  obtain ⟨seen, hseen⟩ := hvisit
  refine ⟨seen, ?_⟩
  have hmissing : shape.missing? seen = none := by
    rw [missing?, Option.map_eq_none_iff, List.find?_eq_none]
    intro rule hrule hlacks
    simp only [Bool.and_eq_true, decide_eq_true_eq, Bool.not_eq_true'] at hlacks
    obtain ⟨key, value, found, hmember, hfound, hname⟩ := h.complete rule hrule hlacks.1
    have hget := visit_get? hseen hmember hfound
    rw [Fields.contains, ← hname, hget] at hlacks
    cases hlacks.2
  show shape.ofMembers members = .ok seen
  simp only [ofMembers, hseen, bind, Except.bind, hmissing]

/-! ## A single field -/

/-- An object makes a record of one field if one member, and no other, spells it. -/
theorem decode_ok_of_single {rule : FieldRule} (hfields : shape.fields = [rule]) (hsorted : Fields.Sorted members)
    {key : String} {value : Json} (hvalue : Fields.get? members key = some value) (hspelled : rule.isSpelled key = true)
    (hcheck : rule.check value = .ok ())
    (honly : ∀ other, rule.isSpelled other = true → other ≠ key → Fields.get? members other = none) :
    ∃ seen, shape.decode (.object members) = .ok seen ∧ Fields.get? seen rule.name = some value := by
  have hrule : shape.rule? key = some rule := by
    rw [rule?, hfields]
    simp [hspelled]
  have hfound : ∀ {other given found}, Fields.get? members other = some given → shape.rule? other = some found →
      found = rule ∧ other = key := by
    intro other given found hget hother
    obtain ⟨hmem, hspells⟩ := mem_of_rule? hother
    rw [hfields, List.mem_singleton] at hmem
    subst hmem
    refine ⟨rfl, ?_⟩
    by_cases hkey : other = key
    · exact hkey
    · rw [honly other hspells hkey] at hget
      cases hget
  have hadmits : shape.Admits members := by
    refine ⟨hsorted, ?_, ?_, ?_⟩
    · intro other given found hget hother
      obtain ⟨rfl, rfl⟩ := hfound hget hother
      rw [hvalue] at hget
      cases hget
      exact hcheck
    · intro other other' _ _ found found' hget hget' hother hother' _
      rw [(hfound hget hother).2, (hfound hget' hother').2]
    · intro found hmem _
      rw [hfields, List.mem_singleton] at hmem
      subst hmem
      exact ⟨key, value, found, hvalue, hrule, rfl⟩
  obtain ⟨seen, hseen⟩ := hadmits.decode_ok
  exact ⟨seen, hseen, decode_get? hseen hvalue hrule⟩

/-! ## Fields of one name -/

def HasOneNameEach (shape : RecordShape) : Prop := ∀ rule ∈ shape.fields, rule.aliases = []

instance (shape : RecordShape) : Decidable shape.HasOneNameEach :=
  inferInstanceAs (Decidable (∀ rule ∈ shape.fields, rule.aliases = []))

theorem HasOneNameEach.name_eq (hone : shape.HasOneNameEach) {key : String} {rule : FieldRule}
    (h : shape.rule? key = some rule) : rule.name = key := by
  obtain ⟨hmem, hspelled⟩ := mem_of_rule? h
  simp only [FieldRule.isSpelled, hone rule hmem, List.contains_nil, Bool.or_false, beq_iff_eq] at hspelled
  exact hspelled.symm

theorem HasOneNameEach.rule?_name (hone : shape.HasOneNameEach) {rule : FieldRule} (hrule : rule ∈ shape.fields) :
    ∃ found, shape.rule? rule.name = some found ∧ found.name = rule.name := by
  have hsome : (shape.rule? rule.name).isSome = true := by
    rw [rule?, List.find?_isSome]
    exact ⟨rule, hrule, by simp [FieldRule.isSpelled]⟩
  obtain ⟨found, hfound⟩ := Option.isSome_iff_exists.mp hsome
  exact ⟨found, hfound, hone.name_eq hfound⟩

/-- A record of such fields holds what the object says. -/
theorem HasOneNameEach.get?_eq (hone : shape.HasOneNameEach) (hseen : shape.decode (.object members) = .ok seen)
    {rule : FieldRule} (hrule : rule ∈ shape.fields) : Fields.get? seen rule.name = Fields.get? members rule.name := by
  obtain ⟨found, hfound, hname⟩ := hone.rule?_name hrule
  cases hget : Fields.get? members rule.name with
  | some value =>
    rw [← hname]
    exact decode_get? hseen hget hfound
  | none =>
    cases hresult : Fields.get? seen rule.name with
    | none => rfl
    | some value =>
      obtain ⟨key, other, hkey, hother, hsame⟩ := decode_source hseen hresult
      rw [hone.name_eq hother] at hsame
      rw [hsame, hget] at hkey
      cases hkey

/-- An object makes a record of such fields if it gives every one of them, and the record holds what the object says. -/
theorem HasOneNameEach.decode_ok (hone : shape.HasOneNameEach) (hsorted : Fields.Sorted members)
    (hgiven : ∀ rule ∈ shape.fields, rule.IsGivenIn members) :
    ∃ seen, shape.decode (.object members) = .ok seen ∧
      ∀ rule ∈ shape.fields, Fields.get? seen rule.name = Fields.get? members rule.name := by
  have hadmits : shape.Admits members := by
    refine ⟨hsorted, ?_, ?_, ?_⟩
    · intro key value rule hget hrule
      rw [← hone.name_eq hrule] at hget
      exact (hgiven rule (mem_of_rule? hrule).1).check value hget
    · intro key key' _ _ rule rule' _ _ hrule hrule' hsame
      rw [← hone.name_eq hrule, ← hone.name_eq hrule', hsame]
    · intro rule hmem hpresence
      obtain ⟨value, hget⟩ := (hgiven rule hmem).present hpresence
      obtain ⟨found, hfound, hname⟩ := hone.rule?_name hmem
      exact ⟨rule.name, value, found, hget, hfound, hname⟩
  obtain ⟨seen, hseen⟩ := hadmits.decode_ok
  exact ⟨seen, hseen, fun rule hmem => hone.get?_eq hseen hmem⟩

end RecordShape

end OutOfBand
