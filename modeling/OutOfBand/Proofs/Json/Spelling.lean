import Mathlib.Data.List.Nodup
import Mathlib.Data.List.Pairwise
import OutOfBand.Proofs.Json.Decode

/-! # Spellings of fields

The members of an object are visited one after the other, and the first that is wrong ends the reading. Whether the
reading ends well does not depend on the order: it does if every recognised value is one that its field takes and no
field is spelled twice, and what has been read are then the recognised values under the names of their fields. So a field
may go by any of its spellings.
-/
namespace OutOfBand

/-- What is taken from each of some elements, and never twice, is taken from one of them. -/
theorem eq_of_nodup_filterMap {α β : Type} {f : α → Option β} {xs : List α} (h : (xs.filterMap f).Nodup) {a b : α} {c : β}
    (ha : a ∈ xs) (hb : b ∈ xs) (hfa : f a = some c) (hfb : f b = some c) : a = b := by
  have hapart := List.pairwise_filterMap.mp h
  have hsymm : Std.Symm (fun a b => ∀ c, f a = some c → ∀ d, f b = some d → c ≠ d) :=
    ⟨fun _ _ h c hc d hd => (h d hd c hc).symm⟩
  by_contra hne
  exact hapart.forall ha hb hne c hfa c hfb rfl

theorem Fields.contains_iff {α : Type} {fields : Fields α} {name : String} :
    Fields.contains fields name = true ↔ name ∈ keys fields := by
  induction fields with
  | nil => exact iff_of_false Bool.false_ne_true List.not_mem_nil
  | cons entry rest ih =>
    obtain ⟨key, value⟩ := entry
    have hkeys : keys ((key, value) :: rest) = key :: keys rest := rfl
    rw [contains, get?_cons, hkeys, List.mem_cons, ← ih]
    by_cases hname : name = key
    · simp [hname]
    · simp [hname, contains]

namespace FieldRule

/-- The keys under which a field may stand. -/
def spellings (rule : FieldRule) : List String := rule.name :: rule.aliases

theorem isSpelled_iff {rule : FieldRule} {key : String} : rule.isSpelled key = true ↔ key ∈ rule.spellings := by
  simp [isSpelled, spellings]

end FieldRule

namespace RecordShape

variable {shape : RecordShape} {seen result members others : Object}

/-- The recognised values, each under the name of its field. -/
def recognised (shape : RecordShape) (members : Object) : Object :=
  members.filterMap (fun member => (shape.rule? member.1).map (fun rule => (rule.name, member.2)))

/-- Every recognised value is one that its field takes. -/
def Takes (shape : RecordShape) (members : Object) : Prop :=
  ∀ member ∈ members, ∀ rule, shape.rule? member.1 = some rule → rule.check member.2 = .ok ()

theorem recognised_cons_none {key : String} (hrule : shape.rule? key = none) (value : Json) (rest : Object) :
    shape.recognised ((key, value) :: rest) = shape.recognised rest := by
  simp [recognised, hrule]

theorem recognised_cons_some {key : String} {rule : FieldRule} (hrule : shape.rule? key = some rule) (value : Json)
    (rest : Object) : shape.recognised ((key, value) :: rest) = (rule.name, value) :: shape.recognised rest := by
  simp [recognised, hrule]

theorem takes_cons {key : String} {value : Json} {rest : Object} :
    shape.Takes ((key, value) :: rest) ↔
      (∀ rule, shape.rule? key = some rule → rule.check value = .ok ()) ∧ shape.Takes rest := List.forall_mem_cons

/-- A visit succeeds no matter in which order the members come, and passes on the recognised values. -/
theorem visit_eq_ok_iff (hseen : (Fields.keys seen).Nodup) :
    shape.visit seen members = .ok result ↔
      result = seen ++ shape.recognised members ∧ shape.Takes members ∧
        (Fields.keys (seen ++ shape.recognised members)).Nodup := by
  induction members generalizing seen with
  | nil =>
    have hnone : seen ++ shape.recognised [] = seen := List.append_nil seen
    rw [hnone, visit, Except.ok.injEq]
    exact ⟨fun h => ⟨h.symm, fun _ hmember => absurd hmember List.not_mem_nil, hseen⟩, fun h => h.1.symm⟩
  | cons member rest ih =>
    obtain ⟨key, value⟩ := member
    rw [visit, takes_cons]
    cases hrule : shape.rule? key with
    | none =>
      rw [recognised_cons_none hrule]
      simpa using ih hseen
    | some rule =>
      rw [recognised_cons_some hrule]
      have hmoved : seen ++ (rule.name, value) :: shape.recognised rest =
          (seen ++ [(rule.name, value)]) ++ shape.recognised rest := by simp
      rw [hmoved]
      dsimp only
      split
      case isTrue htwice =>
        refine iff_of_false (fun h => by cases h) (fun h => ?_)
        have hdistinct : (Fields.keys (seen ++ [(rule.name, value)])).Nodup := by
          have hall := h.2.2
          rw [Fields.keys, List.map_append] at hall
          exact (List.nodup_append.mp hall).1
        rw [Fields.keys, List.map_append] at hdistinct
        exact (List.nodup_append.mp hdistinct).2.2 _ (Fields.contains_iff.mp htwice) _ (by simp) rfl
      case isFalse hnew =>
        have hnext : (Fields.keys (seen ++ [(rule.name, value)])).Nodup := by
          rw [Fields.keys, List.map_append]
          refine List.nodup_append.mpr ⟨hseen, by simp, ?_⟩
          rintro name hname _ hlast rfl
          obtain rfl : name = rule.name := by simpa using hlast
          exact hnew (Fields.contains_iff.mpr hname)
        cases hcheck : rule.check value with
        | error mismatch =>
          refine iff_of_false (fun h => by cases h) (fun h => ?_)
          have htaken := h.2.1.1 rule rfl
          rw [hcheck] at htaken
          cases htaken
        | ok taken =>
          have hfirst : ∀ found, some rule = some found → found.check value = .ok () := by
            rintro _ ⟨rfl⟩
            exact hcheck
          change shape.visit (seen ++ [(rule.name, value)]) rest = .ok result ↔ _
          rw [ih hnext]
          exact ⟨fun h => ⟨h.1, ⟨hfirst, h.2.1⟩, h.2.2⟩, fun h => ⟨h.1, h.2.1.2, h.2.2⟩⟩

/-- An object makes a record exactly if its recognised values are taken, are of different fields, and leave out no field
that has to be there. -/
theorem decode_eq_ok_iff :
    shape.decode (.object members) = .ok result ↔
      result = shape.recognised members ∧ shape.Takes members ∧ (Fields.keys (shape.recognised members)).Nodup ∧
        shape.missing? (shape.recognised members) = none := by
  have hvisit : ∀ found, shape.visit [] members = .ok found ↔
      found = shape.recognised members ∧ shape.Takes members ∧ (Fields.keys (shape.recognised members)).Nodup :=
    fun found => visit_eq_ok_iff List.nodup_nil
  constructor
  · intro h
    obtain ⟨hvisited, hmissing⟩ := decode_object_ok h
    obtain ⟨rfl, htakes, hdistinct⟩ := (hvisit result).mp hvisited
    exact ⟨rfl, htakes, hdistinct, hmissing⟩
  · rintro ⟨rfl, htakes, hdistinct, hmissing⟩
    have hvisited := (hvisit (shape.recognised members)).mpr ⟨rfl, htakes, hdistinct⟩
    change shape.ofMembers members = _
    simp only [ofMembers, hvisited, bind, Except.bind, hmissing]

/-! ## Keys that spell no field -/

theorem visit_filter (seen members : Object) :
    shape.visit seen (members.filter (fun member => (shape.rule? member.1).isSome)) = shape.visit seen members := by
  induction members generalizing seen with
  | nil => rfl
  | cons member rest ih =>
    obtain ⟨key, value⟩ := member
    cases hrule : shape.rule? key with
    | none => simp [visit, hrule, ih]
    | some rule => simp [visit, hrule, ih]

/-- Keys that spell no field make no difference, not even to what is said of an object that makes no record. -/
theorem decode_congr_recognised
    (h : members.filter (fun member => (shape.rule? member.1).isSome) =
      others.filter (fun member => (shape.rule? member.1).isSome)) :
    shape.decode (.object members) = shape.decode (.object others) := by
  have hvisit : shape.visit [] members = shape.visit [] others := by
    rw [← visit_filter [] members, h, visit_filter]
  change shape.ofMembers members = shape.ofMembers others
  rw [ofMembers, hvisit, ofMembers]

/-! ## One field in two spellings -/

theorem keys_recognised (members : Object) :
    Fields.keys (shape.recognised members) =
      members.filterMap (fun member => (shape.rule? member.1).map FieldRule.name) := by
  simp only [Fields.keys, recognised, List.map_filterMap, Option.map_map, Function.comp_def]

/-- Two members of one field, whatever they hold, are refused. -/
theorem decode_error_of_spelled_twice {member other : String × Json} {rule : FieldRule} (hmember : member ∈ members)
    (hother : other ∈ members) (hne : member ≠ other) (hrule : shape.rule? member.1 = some rule)
    (hrule' : shape.rule? other.1 = some rule) : ∃ mismatch, shape.decode (.object members) = .error mismatch := by
  cases hread : shape.decode (.object members) with
  | error mismatch => exact ⟨mismatch, rfl⟩
  | ok seen =>
    obtain ⟨_, _, hdistinct, _⟩ := decode_eq_ok_iff.mp hread
    rw [keys_recognised] at hdistinct
    exact absurd (eq_of_nodup_filterMap hdistinct hmember hother (Option.map_eq_some_iff.mpr ⟨rule, hrule, rfl⟩)
      (Option.map_eq_some_iff.mpr ⟨rule, hrule', rfl⟩)) hne

/-! ## Other spellings -/

/-- The same values under other keys. -/
def respelled (rename : String → String) (members : Object) : Object :=
  Fields.ofList (members.map (fun member => (rename member.1, member.2)))

theorem missing?_congr {seen seen' : Object} (h : ∀ name, Fields.get? seen name = Fields.get? seen' name) :
    shape.missing? seen = shape.missing? seen' := by
  simp only [missing?, Fields.contains, h]

/-- The order in which the recognised values come makes no difference to what is read. -/
theorem decode_ok_of_perm (hperm : (shape.recognised members).Perm (shape.recognised others))
    (htakes : shape.Takes members → shape.Takes others) (h : shape.decode (.object members) = .ok result) :
    ∃ seen, shape.decode (.object others) = .ok seen ∧ ∀ name, Fields.get? result name = Fields.get? seen name := by
  obtain ⟨rfl, htaken, hdistinct, hmissing⟩ := decode_eq_ok_iff.mp h
  have hsame : ∀ name, Fields.get? (shape.recognised members) name = Fields.get? (shape.recognised others) name :=
    Fields.get?_of_perm hperm hdistinct
  have hkeys : (Fields.keys (shape.recognised others)).Nodup := (hperm.map Prod.fst).nodup_iff.mp hdistinct
  rw [missing?_congr hsame] at hmissing
  exact ⟨_, decode_eq_ok_iff.mpr ⟨rfl, htakes htaken, hkeys, hmissing⟩, hsame⟩

variable {rename : String → String}

theorem recognised_respelled (hrename : ∀ key, shape.rule? (rename key) = shape.rule? key)
    (hdistinct : ((Fields.keys members).map rename).Nodup) :
    (shape.recognised (respelled rename members)).Perm (shape.recognised members) := by
  have hkeys : (Fields.keys (members.map (fun member => (rename member.1, member.2)))).Nodup := by
    simpa [Fields.keys, Function.comp_def] using hdistinct
  have hput := (Fields.ofList_perm hkeys).filterMap
    (fun member => (shape.rule? member.1).map (fun rule => (rule.name, member.2)))
  have hsame : shape.recognised (members.map (fun member => (rename member.1, member.2))) = shape.recognised members := by
    simp only [recognised, List.filterMap_map, Function.comp_def, hrename]
  exact hsame ▸ hput

theorem takes_respelled (hrename : ∀ key, shape.rule? (rename key) = shape.rule? key)
    (hdistinct : ((Fields.keys members).map rename).Nodup) :
    shape.Takes (respelled rename members) ↔ shape.Takes members := by
  have hkeys : (Fields.keys (members.map (fun member => (rename member.1, member.2)))).Nodup := by
    simpa [Fields.keys, Function.comp_def] using hdistinct
  have hmem : ∀ member, member ∈ respelled rename members ↔
      member ∈ members.map (fun member => (rename member.1, member.2)) := fun _ => (Fields.ofList_perm hkeys).mem_iff
  simp only [Takes, hmem, List.forall_mem_map, hrename]

/-- An object makes a record under the new keys exactly if it does under the old ones, and the records are the same. -/
theorem decode_respelled (hrename : ∀ key, shape.rule? (rename key) = shape.rule? key)
    (hdistinct : ((Fields.keys members).map rename).Nodup) :
    Option.Rel (fun seen seen' => ∀ name, Fields.get? seen name = Fields.get? seen' name)
      (shape.decode (.object (respelled rename members))).toOption (shape.decode (.object members)).toOption := by
  have hperm := recognised_respelled hrename hdistinct
  have htakes := takes_respelled hrename hdistinct
  cases hold : shape.decode (.object members) with
  | ok seen =>
    obtain ⟨seen', hnew, hsame⟩ := decode_ok_of_perm hperm.symm htakes.mpr hold
    rw [hnew]
    exact .some (fun name => (hsame name).symm)
  | error mismatch =>
    cases hnew : shape.decode (.object (respelled rename members)) with
    | error mismatch' => exact .none
    | ok seen' =>
      obtain ⟨_, hread, _⟩ := decode_ok_of_perm hperm htakes.mp hnew
      rw [hold] at hread
      cases hread

/-! ## Spellings of different fields -/

/-- No two fields share a spelling. -/
def HasDistinctSpellings (shape : RecordShape) : Prop := (shape.fields.flatMap FieldRule.spellings).Nodup

instance (shape : RecordShape) : Decidable shape.HasDistinctSpellings :=
  inferInstanceAs (Decidable (shape.fields.flatMap FieldRule.spellings).Nodup)

/-- Where no two fields share a spelling each is found under all of its own. -/
theorem HasDistinctSpellings.rule? (h : shape.HasDistinctSpellings) {rule : FieldRule} (hrule : rule ∈ shape.fields)
    {key : String} (hkey : key ∈ rule.spellings) : shape.rule? key = some rule := by
  have hsome : (shape.rule? key).isSome = true := by
    rw [RecordShape.rule?, List.find?_isSome]
    exact ⟨rule, hrule, FieldRule.isSpelled_iff.mpr hkey⟩
  obtain ⟨found, hfound⟩ := Option.isSome_iff_exists.mp hsome
  obtain ⟨hmem, hspelled⟩ := mem_of_rule? hfound
  obtain rfl : found = rule := by
    have hsymm : Std.Symm (Function.onFun List.Disjoint FieldRule.spellings) := ⟨fun _ _ h => List.disjoint_symm h⟩
    by_contra hne
    exact (List.nodup_flatMap.mp h).2.forall hmem hrule hne (FieldRule.isSpelled_iff.mp hspelled) hkey
  exact hfound

theorem rule?_isSome_iff {key : String} : (shape.rule? key).isSome = true ↔ ∃ rule ∈ shape.fields, key ∈ rule.spellings := by
  rw [RecordShape.rule?, List.find?_isSome]
  simp only [FieldRule.isSpelled_iff]

end RecordShape

end OutOfBand
