import OutOfBand.Proofs.Plan.Convergence

/-! # What differs

A desired state differs from an observed one at the end of a path. The path leads from key to key through objects on
both sides, and at its end something is wanted that is missing or does not match. So what is observed beside the paths
of the desired state makes no difference, and neither does a null in it, however deep in its objects.
-/
namespace OutOfBand

namespace Json

/-! ## Paths -/

/-- The value at the end of a path of keys. Each step leads into an object. -/
def at? : Json → List String → Option Json
  | value, [] => some value
  | value, key :: path => (value.member? key).bind (fun member => at? member path)

/-- Up to its end the path leads through objects. -/
def LeadsThrough (value : Json) (path : List String) : Prop :=
  ∀ front rest, path = front ++ rest → rest ≠ [] → ∃ members, value.at? front = some (.object members)

def AreObjects (want given : Json) : Prop := ∃ wanted found, want = .object wanted ∧ given = .object found

/-- Equal values match, and so do a number and the text that spells it, blanks around it left aside. -/
def Matches (want given : Json) : Prop :=
  (want == given) = true ∨
    ∃ s n, (want = .string s ∧ given = .number n ∨ want = .number n ∧ given = .string s) ∧ Text.trim s = n.render

/-- Something is wanted at the end of the path, and what is given there, if anything, is something else. -/
structure ClashAt (want given : Json) (path : List String) : Prop where
  wantThrough : want.LeadsThrough path
  givenThrough : given.LeadsThrough path
  clash : ∃ v, want.at? path = some v ∧ v.isNull = false ∧
    ∀ w, given.at? path = some w → ¬ AreObjects v w ∧ ¬ Matches v w

theorem at?_nil (value : Json) : value.at? [] = some value := by
  rw [at?]

theorem at?_object (members : Object) (key : String) (path : List String) :
    (Json.object members).at? (key :: path) = (members.get? key).bind (·.at? path) := by
  rw [at?]
  rfl

theorem leadsThrough_nil (value : Json) : value.LeadsThrough [] := by
  intro front rest hsplit hrest
  exact absurd (List.append_eq_nil_iff.mp hsplit.symm).2 hrest

theorem LeadsThrough.object {value : Json} {key : String} {path : List String} (h : value.LeadsThrough (key :: path)) :
    ∃ members, value = .object members := by
  obtain ⟨members, hmembers⟩ := h [] (key :: path) rfl (List.cons_ne_nil key path)
  rw [at?_nil] at hmembers
  exact ⟨members, Option.some.inj hmembers⟩

theorem LeadsThrough.of_cons {members : Object} {key : String} {path : List String} {member : Json}
    (h : (Json.object members).LeadsThrough (key :: path)) (hmember : members.get? key = some member) :
    member.LeadsThrough path := by
  intro front rest hsplit hrest
  obtain ⟨found, hfound⟩ := h (key :: front) rest (by rw [hsplit, List.cons_append]) hrest
  rw [at?_object, hmember, Option.bind_some] at hfound
  exact ⟨found, hfound⟩

theorem LeadsThrough.cons {members : Object} {key : String} {path : List String} {member : Json}
    (h : member.LeadsThrough path) (hmember : members.get? key = some member) :
    (Json.object members).LeadsThrough (key :: path) := by
  intro front rest hsplit hrest
  rcases List.cons_eq_append_iff.mp hsplit with ⟨rfl, _⟩ | ⟨front, rfl, hpath⟩
  · exact ⟨members, at?_nil _⟩
  · obtain ⟨found, hfound⟩ := h front rest hpath hrest
    refine ⟨found, ?_⟩
    rw [at?_object, hmember, Option.bind_some, hfound]

/-- The last step leads into an object, whether or not there is anything under its key. -/
theorem leadsThrough_singleton (members : Object) (key : String) : (Json.object members).LeadsThrough [key] := by
  intro front rest hsplit hrest
  rcases List.cons_eq_append_iff.mp hsplit with ⟨rfl, _⟩ | ⟨front, rfl, hpath⟩
  · exact ⟨members, at?_nil _⟩
  · exact absurd (List.append_eq_nil_iff.mp hpath.symm).2 hrest

/-! ## Clashes -/

theorem clashAt_nil {want given : Json} :
    ClashAt want given [] ↔ want.isNull = false ∧ ¬ AreObjects want given ∧ ¬ Matches want given := by
  constructor
  · rintro ⟨_, _, v, hv, hnull, hclash⟩
    rw [at?_nil] at hv
    cases hv
    exact ⟨hnull, hclash given (at?_nil given)⟩
  · rintro ⟨hnull, hclash⟩
    refine ⟨leadsThrough_nil want, leadsThrough_nil given, want, at?_nil want, hnull, fun w hw => ?_⟩
    rw [at?_nil] at hw
    cases hw
    exact hclash

/-- What is wanted clashes with what is given in its place, or with nothing. -/
def ClashesWith (want : Json) (given : Option Json) (path : List String) : Prop :=
  match given with
  | some given => ClashAt want given path
  | none => path = [] ∧ want.isNull = false

/-- A clash that begins with a key is one of what stands under that key. -/
theorem clashAt_cons {wanted found : Object} {key : String} {path : List String} :
    ClashAt (.object wanted) (.object found) (key :: path) ↔
      ∃ want, wanted.get? key = some want ∧ want.ClashesWith (found.get? key) path := by
  have hstep : ∀ members : Object, ∀ member, members.get? key = some member →
      (Json.object members).at? (key :: path) = member.at? path := by
    intro members member hmember
    rw [at?_object, hmember, Option.bind_some]
  constructor
  · rintro ⟨hwant, hgiven, v, hv, hnull, hclash⟩
    cases hwanted : wanted.get? key with
    | none =>
      rw [at?_object, hwanted] at hv
      cases hv
    | some want =>
      refine ⟨want, rfl, ?_⟩
      rw [hstep wanted want hwanted] at hv
      cases hfound : found.get? key with
      | some given =>
        rw [hstep found given hfound] at hclash
        exact ⟨hwant.of_cons hwanted, hgiven.of_cons hfound, v, hv, hnull, hclash⟩
      | none =>
        cases path with
        | nil =>
          rw [at?_nil] at hv
          cases hv
          exact ⟨rfl, hnull⟩
        | cons next rest =>
          -- The path goes on, so there would have to be an object under the key.
          obtain ⟨members, hmembers⟩ := hgiven [key] (next :: rest) rfl (List.cons_ne_nil next rest)
          rw [at?_object, hfound] at hmembers
          cases hmembers
  · rintro ⟨want, hwanted, h⟩
    cases hfound : found.get? key with
    | some given =>
      rw [hfound] at h
      obtain ⟨hwant, hgiven, v, hv, hnull, hclash⟩ := h
      refine ⟨hwant.cons hwanted, hgiven.cons hfound, v, ?_, hnull, ?_⟩
      · rw [hstep wanted want hwanted, hv]
      · rw [hstep found given hfound]
        exact hclash
    | none =>
      rw [hfound] at h
      obtain ⟨rfl, hnull⟩ := h
      refine ⟨leadsThrough_singleton wanted key, leadsThrough_singleton found key, want, ?_, hnull, fun w hw => ?_⟩
      · rw [hstep wanted want hwanted, at?_nil]
      · rw [at?_object, hfound] at hw
        cases hw

/-- Unless both are objects, two values can clash only as they are. -/
theorem exists_clashAt_of_not_areObjects {want given : Json} (h : ¬ AreObjects want given) :
    (∃ path, ClashAt want given path) ↔ want.isNull = false ∧ ¬ Matches want given := by
  constructor
  · rintro ⟨path, hclash⟩
    cases path with
    | nil =>
      obtain ⟨hnull, _, hmatches⟩ := clashAt_nil.mp hclash
      exact ⟨hnull, hmatches⟩
    | cons key rest =>
      obtain ⟨wanted, rfl⟩ := hclash.wantThrough.object
      obtain ⟨found, rfl⟩ := hclash.givenThrough.object
      exact absurd ⟨wanted, found, rfl, rfl⟩ h
  · rintro ⟨hnull, hmatches⟩
    exact ⟨[], clashAt_nil.mpr ⟨hnull, h, hmatches⟩⟩

theorem exists_clashAt_object {wanted found : Object} :
    (∃ path, ClashAt (.object wanted) (.object found) path) ↔
      ∃ key path, ClashAt (.object wanted) (.object found) (key :: path) := by
  constructor
  · rintro ⟨path, hclash⟩
    cases path with
    | nil => exact absurd ⟨wanted, found, rfl, rfl⟩ (clashAt_nil.mp hclash).2.1
    | cons key rest => exact ⟨key, rest, hclash⟩
  · rintro ⟨key, path, hclash⟩
    exact ⟨key :: path, hclash⟩

end Json

open Json

/-! ## Comparing -/

theorem valuesMatch_iff {want given : Json} : valuesMatch want given = true ↔ Matches want given := by
  unfold valuesMatch Matches
  rw [Bool.or_eq_true]
  refine or_congr Iff.rfl ?_
  cases want with
  | string s =>
    cases given with
    | number n => simp [and_assoc]
    | _ => simp
  | number n =>
    cases given with
    | string s => simp [and_assoc]
    | _ => simp
  | _ => simp

theorem differs_of_not_areObjects {want given : Json} (h : ¬ AreObjects want given) :
    differs want (some given) = true ↔ want.isNull = false ∧ ¬ Matches want given := by
  rw [← valuesMatch_iff]
  cases want with
  | null => simp [differs, isNull]
  | object wanted =>
    cases given with
    | object found => exact absurd ⟨wanted, found, rfl, rfl⟩ h
    | _ => simp [differs, isNull]
  | _ => simp [differs, isNull]

theorem differs_none_iff {want : Json} : differs want none = true ↔ want.isNull = false := by
  constructor
  · intro h
    cases want with
    | null =>
      rw [differs] at h
      cases h
    | _ => rfl
  · exact differs_none

theorem someDiffers_iff {wanted : List (String × Json)} {found : Object} :
    someDiffers wanted found = true ↔ ∃ entry ∈ wanted, differs entry.2 (found.get? entry.1) = true := by
  induction wanted with
  | nil => simp [someDiffers]
  | cons entry rest ih => simp [someDiffers, ih]

-- By induction on the desired value, its members along with it: what a value says of its members holds of each of them.
mutual

theorem differs_iff_clashAt {want : Json} (h : want.IsOrdered) (given : Json) :
    differs want (some given) = true ↔ ∃ path, ClashAt want given path := by
  by_cases hobjects : AreObjects want given
  case neg => rw [differs_of_not_areObjects hobjects, exists_clashAt_of_not_areObjects hobjects]
  case pos =>
    cases want with
    | object wanted =>
      obtain ⟨_, found, _, rfl⟩ := hobjects
      have hmembers := members_differ_iff h.2
      rw [differs, someDiffers_iff, exists_clashAt_object]
      constructor
      · rintro ⟨⟨key, want⟩, hentry, hdiffers⟩
        obtain ⟨path, hpath⟩ := (hmembers key want hentry _).mp hdiffers
        exact ⟨key, path, clashAt_cons.mpr ⟨want, h.1.get?_of_mem hentry, hpath⟩⟩
      · rintro ⟨key, path, hclash⟩
        obtain ⟨want, hwanted, hpath⟩ := clashAt_cons.mp hclash
        have hentry := Fields.mem_of_get? hwanted
        exact ⟨(key, want), hentry, (hmembers key want hentry _).mpr ⟨path, hpath⟩⟩
    | _ =>
      obtain ⟨_, _, hwant, _⟩ := hobjects
      cases hwant

theorem members_differ_iff {wanted : List (String × Json)} (h : MembersOrdered wanted) :
    ∀ key want, (key, want) ∈ wanted → ∀ given, differs want given = true ↔ ∃ path, want.ClashesWith given path := by
  cases wanted with
  | nil => exact fun _ _ hentry => absurd hentry List.not_mem_nil
  | cons first rest =>
    obtain ⟨firstKey, firstWant⟩ := first
    intro key want hentry given
    rcases List.mem_cons.mp hentry with heq | hentry
    · cases heq
      cases given with
      | some given => exact differs_iff_clashAt h.1 given
      | none =>
        rw [differs_none_iff]
        exact ⟨fun hnull => ⟨[], rfl, hnull⟩, fun ⟨_, _, hnull⟩ => hnull⟩
    · exact members_differ_iff h.2 key want hentry given

end

theorem mem_deltaKeys_iff_clashAt {desired : Object} (h : (Json.object desired).IsOrdered) (observed : Object)
    (key : String) : key ∈ deltaKeys desired observed ↔ ∃ path, ClashAt (.object desired) (.object observed) (key :: path) := by
  have hmembers := members_differ_iff h.2
  rw [mem_deltaKeys h.1]
  constructor
  · rintro ⟨want, hwanted, hdiffers⟩
    obtain ⟨path, hpath⟩ := (hmembers key want (Fields.mem_of_get? hwanted) _).mp hdiffers
    exact ⟨path, clashAt_cons.mpr ⟨want, hwanted, hpath⟩⟩
  · rintro ⟨path, hclash⟩
    obtain ⟨want, hwanted, hpath⟩ := clashAt_cons.mp hclash
    exact ⟨want, hwanted, (hmembers key want (Fields.mem_of_get? hwanted) _).mpr ⟨path, hpath⟩⟩

/-! ## Changes that make no difference -/

/-- At every place of the first value that is not null the two others hold the same, or objects where it has one. -/
def Json.AgreeAlong (want given other : Json) : Prop :=
  ∀ path v, want.at? path = some v → v.isNull = false →
    given.at? path = other.at? path ∨
      ∃ wanted found others, v = .object wanted ∧ given.at? path = some (.object found) ∧ other.at? path = some (.object others)

theorem Json.AgreeAlong.symm {want given other : Json} (h : AgreeAlong want given other) :
    AgreeAlong want other given := by
  intro path v hv hnull
  rcases h path v hv hnull with hsame | ⟨wanted, found, others, hobject, hgiven, hother⟩
  · exact Or.inl hsame.symm
  · exact Or.inr ⟨wanted, others, found, hobject, hother, hgiven⟩

theorem Json.AgreeAlong.clashAt {want given other : Json} (h : AgreeAlong want given other) {path : List String}
    (hclash : ClashAt want given path) : ClashAt want other path := by
  obtain ⟨hwant, hgiven, v, hv, hnull, hends⟩ := hclash
  refine ⟨hwant, fun front rest hsplit hrest => ?_, v, hv, hnull, fun w hw => ?_⟩
  · obtain ⟨wanted, hwanted⟩ := hwant front rest hsplit hrest
    rcases h front _ hwanted rfl with hsame | ⟨_, _, others, _, _, hother⟩
    · rw [← hsame]
      exact hgiven front rest hsplit hrest
    · exact ⟨others, hother⟩
  · rcases h path v hv hnull with hsame | ⟨wanted, found, others, rfl, hfound, hother⟩
    · exact hends w (hsame.trans hw)
    · -- Objects on both sides are no clash, so there was none here either.
      exact absurd ⟨wanted, found, rfl, rfl⟩ (hends _ hfound).1

/-- Which keys differ is told by the keys alone, as they keep the order of the desired state. -/
theorem deltaKeys_congr {desired observed other : Object} (h : Fields.Sorted desired)
    (hkeys : ∀ key, key ∈ deltaKeys desired observed ↔ key ∈ deltaKeys desired other) :
    deltaKeys desired observed = deltaKeys desired other := by
  unfold deltaKeys
  congr 1
  refine List.filter_congr (fun entry hentry => ?_)
  have hwanted : desired.get? entry.1 = some entry.2 := h.get?_of_mem hentry
  have hdiffers := hkeys entry.1
  rw [mem_deltaKeys h, mem_deltaKeys h, hwanted] at hdiffers
  simpa using hdiffers

mutual

/-- The value without the null members of its objects. Arrays are left as they are. -/
def Json.withoutNulls : Json → Json
  | .object members => .object (membersWithoutNulls members)
  | value => value

def Json.membersWithoutNulls : List (String × Json) → List (String × Json)
  | [] => []
  | (key, value) :: rest =>
    if value.isNull then membersWithoutNulls rest else (key, value.withoutNulls) :: membersWithoutNulls rest

end

mutual

theorem differs_withoutNulls (want : Json) (given : Option Json) : differs want.withoutNulls given = differs want given := by
  cases want with
  | object wanted =>
    rw [withoutNulls]
    cases given with
    | none => simp [differs]
    | some given =>
      cases given with
      | object found =>
        rw [differs, differs]
        exact someDiffers_withoutNulls wanted found
      | _ => rfl
  | _ => simp [withoutNulls]

theorem someDiffers_withoutNulls (wanted : List (String × Json)) (found : Object) :
    someDiffers (membersWithoutNulls wanted) found = someDiffers wanted found := by
  cases wanted with
  | nil => rw [membersWithoutNulls]
  | cons entry rest =>
    obtain ⟨key, want⟩ := entry
    rw [membersWithoutNulls, someDiffers]
    split
    case isTrue hnull =>
      cases want with
      | null =>
        rw [differs, Bool.false_or]
        exact someDiffers_withoutNulls rest found
      | _ => cases hnull
    case isFalse =>
      rw [someDiffers, differs_withoutNulls want, someDiffers_withoutNulls rest found]

end

theorem deltaKeys_withoutNulls (desired observed : Object) :
    deltaKeys (membersWithoutNulls desired) observed = deltaKeys desired observed := by
  induction desired with
  | nil => rw [membersWithoutNulls]
  | cons entry rest ih =>
    obtain ⟨key, want⟩ := entry
    simp only [deltaKeys] at ih ⊢
    rw [membersWithoutNulls, List.filter_cons]
    cases hnull : want.isNull with
    | true =>
      cases want with
      | null =>
        have hsame : differs .null (observed.get? key) = false := by rw [differs]
        rw [if_pos rfl, hsame, if_neg Bool.false_ne_true]
        exact ih
      | _ => cases hnull
    | false =>
      rw [if_neg Bool.false_ne_true, List.filter_cons, differs_withoutNulls]
      cases differs want (observed.get? key) with
      | true => rw [if_pos rfl, if_pos rfl, List.map_cons, List.map_cons, ih]
      | false => rw [if_neg Bool.false_ne_true, if_neg Bool.false_ne_true, ih]

/-- A key is to be changed exactly if a path that begins with it leads through objects on both sides to a value that is
wanted, is not null, and finds nothing in its place or a value that is not an object like itself and does not match. What is
observed beside such paths makes no difference, and neither do nulls in the desired state, in whatever object of it
they stand. -/
theorem deltaKeys_follow_paths {desired : Object} (h : (Json.object desired).IsOrdered) (observed : Object) :
    (∀ key, key ∈ deltaKeys desired observed ↔ ∃ path, ClashAt (.object desired) (.object observed) (key :: path)) ∧
      (∀ other, AgreeAlong (.object desired) (.object observed) (.object other) →
        deltaKeys desired observed = deltaKeys desired other) ∧
      ∀ other, (Json.object other).withoutNulls = (Json.object desired).withoutNulls →
        deltaKeys other observed = deltaKeys desired observed := by
  refine ⟨mem_deltaKeys_iff_clashAt h observed, fun other hagree => ?_, fun other hnulls => ?_⟩
  · refine deltaKeys_congr h.1 (fun key => ?_)
    rw [mem_deltaKeys_iff_clashAt h, mem_deltaKeys_iff_clashAt h]
    exact exists_congr (fun path => ⟨hagree.clashAt, hagree.symm.clashAt⟩)
  · rw [withoutNulls, withoutNulls, Json.object.injEq] at hnulls
    rw [← deltaKeys_withoutNulls other, hnulls, deltaKeys_withoutNulls]

/-- A text that spells a number, a null inside an array, and a state two objects deep beside a null. -/
theorem deltaKeys_follow_paths_nested :
    let desired : Object := [("limit", .string " 5 "), ("modes", .array [.null]),
      ("power", .object [("cap", .null), ("mode", .object [("state", .string "On")])])]
    let observed : Object := [("fans", .bool true), ("limit", .number (.int 5)), ("modes", .array []),
      ("power", .object [("mode", .object [("state", .string "Off")])])]
    (Json.object desired).IsOrdered ∧ deltaKeys desired observed = ["modes", "power"] ∧
      (∃ path, ClashAt (.object desired) (.object observed) ("power" :: path)) ∧
      ¬ ∃ path, ClashAt (.object desired) (.object observed) ("limit" :: path) := by
  intro desired observed
  have hordered : (Json.object desired).IsOrdered := by
    simp only [desired, IsOrdered, AreOrdered, MembersOrdered, Fields.Sorted]
    decide
  have hkeys : deltaKeys desired observed = ["modes", "power"] := by decide +kernel
  obtain ⟨hpaths, _, _⟩ := deltaKeys_follow_paths hordered observed
  refine ⟨hordered, hkeys, (hpaths "power").mp ?_, fun hlimit => ?_⟩
  · rw [hkeys]
    decide
  · have hmem := (hpaths "limit").mpr hlimit
    rw [hkeys] at hmem
    exact absurd hmem (by decide)

end OutOfBand
