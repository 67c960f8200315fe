import OutOfBand.Json.Basic

/-! # Looking up fields

A field that is put in is found again, and every other field is as it was. A list of entries is read
from its end, as a later entry of the same key takes the place of an earlier one.
-/
namespace OutOfBand

namespace Fields

variable {α : Type}

theorem get?_cons (name key : String) (value : α) (rest : Fields α) :
    get? ((key, value) :: rest) name = if name = key then some value else get? rest name := by
  by_cases h : name = key
  · subst h
    simp [get?]
  · simp [get?, List.lookup_cons, beq_eq_false_iff_ne.mpr h, h]

theorem get?_concat (fields : Fields α) (name key : String) (value : α) :
    get? (fields ++ [(key, value)]) name = (get? fields name).or (if name = key then some value else none) := by
  have hlast : get? [(key, value)] name = if name = key then some value else none := get?_cons name key value []
  rw [← hlast]
  exact List.lookup_append

theorem get?_insert (name key : String) (value : α) (fields : Fields α) :
    get? (fields.insert key value) name = if name = key then some value else get? fields name := by
  fun_induction insert key value fields with
  | case1 => exact get?_cons name key value []
  | case2 k v rest hlt => exact get?_cons name key value _
  | case3 v rest hlt =>
    rw [get?_cons, get?_cons]
    split
    · rfl
    · rfl
  | case4 k v rest hlt hne ih =>
    rw [get?_cons, get?_cons, ih]
    by_cases hk : name = k
    · subst hk
      rw [if_pos rfl, if_pos rfl, if_neg (Ne.symm hne)]
    · rw [if_neg hk, if_neg hk]

theorem get?_foldl_insert (entries : List (String × α)) (fields : Fields α) (name : String) :
    get? (entries.foldl (fun fields entry => insert entry.1 entry.2 fields) fields) name =
      (List.lookup name entries.reverse).or (get? fields name) := by
  induction entries generalizing fields with
  | nil => rfl
  | cons entry rest ih =>
    have hlast : List.lookup name (rest.reverse ++ [entry]) =
        (List.lookup name rest.reverse).or (if name = entry.1 then some entry.2 else none) := get?_concat _ name _ _
    rw [List.foldl_cons, ih, get?_insert, List.reverse_cons, hlast, Option.or_assoc]
    split
    · rfl
    · rfl

theorem get?_ofList (entries : List (String × α)) (name : String) :
    get? (ofList entries) name = List.lookup name entries.reverse := by
  rw [ofList, get?_foldl_insert]
  exact Option.or_none

/-! ## Order -/

theorem mem_insert {entry : String × α} {key : String} {value : α} {fields : Fields α}
    (h : entry ∈ fields.insert key value) : entry = (key, value) ∨ entry ∈ fields := by
  fun_induction insert key value fields with
  | case1 => exact Or.inl (List.mem_singleton.mp h)
  | case2 k v rest hlt => exact List.mem_cons.mp h
  | case3 v rest hlt =>
    rcases List.mem_cons.mp h with h | h
    · exact Or.inl h
    · exact Or.inr (List.mem_cons_of_mem _ h)
  | case4 k v rest hlt hne ih =>
    rcases List.mem_cons.mp h with rfl | h
    · exact Or.inr List.mem_cons_self
    · rcases ih h with h | h
      · exact Or.inl h
      · exact Or.inr (List.mem_cons_of_mem _ h)

theorem sorted_singleton (key : String) (value : α) : Sorted [(key, value)] :=
  ⟨fun _ hentry => absurd hentry List.not_mem_nil, trivial⟩

theorem Sorted.insert {fields : Fields α} (h : Sorted fields) (key : String) (value : α) :
    Sorted (fields.insert key value) := by
  fun_induction Fields.insert key value fields with
  | case1 => exact sorted_singleton key value
  | case2 k v rest hlt =>
    refine ⟨fun entry hentry => ?_, h⟩
    rcases List.mem_cons.mp hentry with rfl | hentry
    · exact hlt
    · exact String.lt_trans hlt (h.1 entry hentry)
  | case3 v rest hlt => exact h
  | case4 k v rest hlt hne ih =>
    have hk : k < key := by
      by_cases hk : k < key
      · exact hk
      · exact absurd (String.le_antisymm (String.not_lt.mp hk) (String.not_lt.mp hlt)) hne
    refine ⟨fun entry hentry => ?_, ih h.2⟩
    rcases mem_insert hentry with rfl | hentry
    · exact hk
    · exact h.1 entry hentry

theorem Sorted.foldl_insert {fields : Fields α} (h : Sorted fields) (entries : List (String × α)) :
    Sorted (entries.foldl (fun fields entry => Fields.insert entry.1 entry.2 fields) fields) := by
  induction entries generalizing fields with
  | nil => exact h
  | cons entry rest ih => exact ih (h.insert entry.1 entry.2)

/-- In fields with increasing keys every entry is the one that is found. -/
theorem Sorted.get?_of_mem {fields : Fields α} (h : Sorted fields) {key : String} {value : α}
    (hmem : (key, value) ∈ fields) : get? fields key = some value := by
  induction fields with
  | nil => exact absurd hmem List.not_mem_nil
  | cons entry rest ih =>
    obtain ⟨k, v⟩ := entry
    rw [get?_cons]
    rcases List.mem_cons.mp hmem with heq | hrest
    · cases heq
      rw [if_pos rfl]
    · have hne : key ≠ k := by
        rintro rfl
        exact String.lt_irrefl key (h.1 (key, value) hrest)
      rw [if_neg hne]
      exact ih h.2 hrest

theorem mem_of_get? {fields : Fields α} {key : String} {value : α} (h : get? fields key = some value) :
    (key, value) ∈ fields := by
  induction fields with
  | nil => cases h
  | cons entry rest ih =>
    obtain ⟨k, v⟩ := entry
    rw [get?_cons] at h
    split at h
    case isTrue hk =>
      cases h
      rw [hk]
      exact List.mem_cons_self
    case isFalse => exact List.mem_cons_of_mem _ (ih h)

theorem get?_eq_none_of_lt {fields : Fields α} {key : String} (h : ∀ entry ∈ fields, key < entry.1) :
    get? fields key = none := by
  cases hfound : get? fields key with
  | none => rfl
  | some value => exact absurd (h (key, value) (mem_of_get? hfound)) (String.lt_irrefl key)

theorem Sorted.lookup_reverse {fields : Fields α} (h : Sorted fields) (name : String) :
    List.lookup name (List.reverse fields) = get? fields name := by
  induction fields with
  | nil => rfl
  | cons entry rest ih =>
    obtain ⟨key, value⟩ := entry
    have hlast : List.lookup name (List.reverse rest ++ [(key, value)]) =
        (List.lookup name (List.reverse rest)).or (if name = key then some value else none) := get?_concat _ name _ _
    rw [List.reverse_cons, hlast, ih h.2, get?_cons]
    by_cases hk : name = key
    · subst hk
      rw [get?_eq_none_of_lt h.1, Option.none_or]
    · rw [if_neg hk, if_neg hk, Option.or_none]

theorem Sorted.filter {fields : Fields α} (h : Sorted fields) (p : String × α → Bool) : Sorted (List.filter p fields) := by
  induction fields with
  | nil => exact h
  | cons entry rest ih =>
    rw [List.filter_cons]
    split
    · exact ⟨fun other hother => h.1 other (List.mem_filter.mp hother).1, ih h.2⟩
    · exact ih h.2

theorem get?_filter (p : String → Bool) (fields : Fields α) (name : String) :
    get? (List.filter (fun entry => p entry.1) fields) name = if p name then get? fields name else none := by
  induction fields with
  | nil => exact (ite_self none).symm
  | cons entry rest ih =>
    obtain ⟨key, value⟩ := entry
    rw [List.filter_cons, get?_cons]
    by_cases hk : name = key
    · subst hk
      cases hp : p name with
      | true => simp [get?_cons]
      | false => simpa [hp] using ih
    · cases hp : p key with
      | true => simp [get?_cons, hk, ih]
      | false => simp [hk, ih]

theorem Sorted.lt_of_mem {front rest : Fields α} {key : String} {value : α} (h : Sorted (front ++ (key, value) :: rest)) :
    ∀ entry ∈ front, entry.1 < key := by
  induction front with
  | nil => exact fun _ hentry => absurd hentry List.not_mem_nil
  | cons first front ih =>
    intro entry hentry
    rcases List.mem_cons.mp hentry with rfl | hentry
    · exact h.1 (key, value) (List.mem_append_right _ List.mem_cons_self)
    · exact ih h.2 entry hentry

theorem insert_of_forall_lt {fields : Fields α} {key : String} (h : ∀ entry ∈ fields, entry.1 < key) (value : α) :
    fields.insert key value = fields ++ [(key, value)] := by
  fun_induction insert key value fields with
  | case1 => rfl
  | case2 k v rest hlt => exact absurd (h (k, v) List.mem_cons_self) (String.lt_asymm hlt)
  | case3 v rest hlt => exact absurd (h (key, v) List.mem_cons_self) hlt
  | case4 k v rest hlt hne ih =>
    rw [ih fun entry hentry => h entry (List.mem_cons_of_mem _ hentry)]
    rfl

/-- Fields in order are put in as they are. -/
theorem Sorted.ofList_eq {fields : Fields α} (h : Sorted fields) : Fields.ofList fields = fields := by
  have hput : ∀ entries front : Fields α, Sorted (front ++ entries) →
      entries.foldl (fun fields entry => Fields.insert entry.1 entry.2 fields) front = front ++ entries := by
    intro entries
    induction entries with
    | nil => exact fun front _ => (List.append_nil front).symm
    | cons entry rest ih =>
      intro front hsorted
      rw [List.foldl_cons, insert_of_forall_lt hsorted.lt_of_mem]
      have hmoved : front ++ entry :: rest = (front ++ [(entry.1, entry.2)]) ++ rest :=
        (List.append_assoc front [entry] rest).symm
      rw [hmoved] at hsorted ⊢
      exact ih _ hsorted
  exact hput fields [] h

/-! ## Entries with distinct keys -/

theorem Sorted.nodup_keys {fields : Fields α} (h : Sorted fields) : (keys fields).Nodup := by
  induction fields with
  | nil => exact List.nodup_nil
  | cons entry rest ih =>
    obtain ⟨key, value⟩ := entry
    refine List.nodup_cons.mpr ⟨fun hkey => ?_, ih h.2⟩
    obtain ⟨other, hother, hsame⟩ := List.mem_map.mp hkey
    have hlt := h.1 other hother
    rw [hsame] at hlt
    exact String.lt_irrefl key hlt

/-- Where no key occurs twice every entry is the one that is found. -/
theorem get?_eq_some_iff {fields : Fields α} (h : (keys fields).Nodup) (key : String) (value : α) :
    get? fields key = some value ↔ (key, value) ∈ fields := by
  refine ⟨mem_of_get?, fun hmem => ?_⟩
  induction fields with
  | nil => exact absurd hmem List.not_mem_nil
  | cons entry rest ih =>
    obtain ⟨k, v⟩ := entry
    obtain ⟨hnew, hrest⟩ := List.nodup_cons.mp h
    rw [get?_cons]
    rcases List.mem_cons.mp hmem with heq | htail
    · cases heq
      exact if_pos rfl
    · have hne : key ≠ k := by
        rintro rfl
        exact hnew (List.mem_map.mpr ⟨(key, value), htail, rfl⟩)
      rw [if_neg hne]
      exact ih hrest htail

theorem get?_of_perm {fields others : Fields α} (hperm : fields.Perm others) (h : (keys fields).Nodup) (name : String) :
    get? fields name = get? others name := by
  have hothers : (keys others).Nodup := (hperm.map Prod.fst).nodup_iff.mp h
  refine Option.ext fun value => ?_
  rw [get?_eq_some_iff h, get?_eq_some_iff hothers]
  exact hperm.mem_iff

theorem insert_perm {key : String} {fields : Fields α} (h : key ∉ keys fields) (value : α) :
    (fields.insert key value).Perm ((key, value) :: fields) := by
  fun_induction insert key value fields with
  | case1 => exact .refl _
  | case2 k v rest hlt => exact .refl _
  | case3 v rest hlt => exact absurd List.mem_cons_self h
  | case4 k v rest hlt hne ih =>
    have hrest : key ∉ keys rest := fun hkey => h (List.mem_cons_of_mem k hkey)
    exact ((ih hrest).cons (k, v)).trans (.swap (key, value) (k, v) rest)

theorem foldl_insert_perm {entries : List (String × α)} {fields : Fields α} (h : (keys (entries ++ fields)).Nodup) :
    (entries.foldl (fun fields entry => insert entry.1 entry.2 fields) fields).Perm (entries ++ fields) := by
  induction entries generalizing fields with
  | nil => exact .refl _
  | cons entry rest ih =>
    obtain ⟨key, value⟩ := entry
    have hmoved : ((key, value) :: rest ++ fields).Perm (rest ++ (key, value) :: fields) := List.perm_middle.symm
    have hkeys : key ∉ keys fields := by
      have hnew := (List.nodup_cons.mp h).1
      exact fun hkey => hnew (List.map_append ▸ List.mem_append_right _ hkey)
    have hput : (rest ++ fields.insert key value).Perm (rest ++ (key, value) :: fields) :=
      (insert_perm hkeys value).append_left rest
    have hdistinct : (keys (rest ++ fields.insert key value)).Nodup :=
      ((hmoved.trans hput.symm).map Prod.fst).nodup_iff.mp h
    exact ((ih hdistinct).trans hput).trans hmoved.symm

/-- Entries with distinct keys are put in order, and nothing else happens to them. -/
theorem ofList_perm {entries : List (String × α)} (h : (keys entries).Nodup) : (ofList entries).Perm entries := by
  have hnil : entries ++ [] = entries := List.append_nil entries
  rw [← hnil] at h
  have hperm := foldl_insert_perm h
  rwa [hnil] at hperm

end Fields

/-! ## Members -/

theorem Json.member?_ofEntries (entries : List (String × Json)) (name : String) :
    (ofEntries entries).member? name = List.lookup name entries.reverse := Fields.get?_ofList entries name

theorem Json.textMember?_eq_some_iff {value : Json} {key text : String} :
    value.textMember? key = some text ↔ value.member? key = some (.string text) := by
  cases hfound : value.member? key with
  | none => simp [textMember?, hfound]
  | some member =>
    cases member with
    | string s => simp [textMember?, hfound, text?]
    | _ => simp [textMember?, hfound, text?]

theorem Json.itemsMember?_eq_some_iff {value : Json} {key : String} {items : List Json} :
    value.itemsMember? key = some items ↔ value.member? key = some (.array items) := by
  cases hfound : value.member? key with
  | none => simp [itemsMember?, hfound]
  | some member =>
    cases member with
    | array items => simp [itemsMember?, hfound, items?]
    | _ => simp [itemsMember?, hfound, items?]

end OutOfBand
