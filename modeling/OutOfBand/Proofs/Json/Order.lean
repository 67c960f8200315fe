import OutOfBand.Json.Reader
import OutOfBand.Proofs.Json.Decode

/-! # Values in key order

Objects are kept in strictly increasing key order, in a value and in everything inside it, so no object
names a key twice. What the reader reads is in order, whatever the text. A value in order is the same as
itself, member by member.
-/
namespace OutOfBand

theorem Numeral.same_refl (n : Numeral) : n.same n = true := by
  cases n with
  | int n => simp [Numeral.same]
  | float x => simp [Numeral.same, Binary64.sameValue]

namespace Json

mutual

/-- Every object in the value has its keys in strictly increasing order. -/
def IsOrdered : Json → Prop
  | .array items => AreOrdered items
  | .object members => Fields.Sorted members ∧ MembersOrdered members
  | _ => True

def AreOrdered : List Json → Prop
  | [] => True
  | item :: rest => IsOrdered item ∧ AreOrdered rest

def MembersOrdered : List (String × Json) → Prop
  | [] => True
  | (_, value) :: rest => IsOrdered value ∧ MembersOrdered rest

end

theorem membersOrdered_iff {members : List (String × Json)} :
    MembersOrdered members ↔ ∀ entry ∈ members, entry.2.IsOrdered := by
  induction members with
  | nil => simp [MembersOrdered]
  | cons entry rest ih => simp [MembersOrdered, ih]

theorem isOrdered_of_get? {members : Object} {key : String} {value : Json} (hordered : (Json.object members).IsOrdered)
    (h : Fields.get? members key = some value) : value.IsOrdered :=
  membersOrdered_iff.mp hordered.2 (key, value) (Fields.mem_of_get? h)

theorem areOrdered_iff {items : List Json} : AreOrdered items ↔ ∀ item ∈ items, item.IsOrdered := by
  induction items with
  | nil => simp [AreOrdered]
  | cons item rest ih => simp [AreOrdered, ih]

theorem isOrdered_foldl_insert {entries : List (String × Json)} (h : ∀ entry ∈ entries, entry.2.IsOrdered)
    {fields : Object} (hfields : (Json.object fields).IsOrdered) :
    (Json.object (entries.foldl (fun fields entry => Fields.insert entry.1 entry.2 fields) fields)).IsOrdered := by
  induction entries generalizing fields with
  | nil => exact hfields
  | cons entry rest ih =>
    refine ih (fun other hother => h other (List.mem_cons_of_mem _ hother)) ⟨hfields.1.insert _ _, ?_⟩
    rw [membersOrdered_iff]
    intro other hother
    rcases Fields.mem_insert hother with rfl | hother
    · exact h entry List.mem_cons_self
    · exact membersOrdered_iff.mp hfields.2 other hother

theorem isOrdered_ofEntries {entries : List (String × Json)} (h : ∀ entry ∈ entries, entry.2.IsOrdered) :
    (ofEntries entries).IsOrdered := isOrdered_foldl_insert h ⟨trivial, trivial⟩

/-! ## Reading -/

theorem readWord_value {α : Type} {value result : α} {word s rest : List Char}
    (h : readWord value word s = .ok (result, rest)) : result = value := by
  fun_induction readWord value word s with
  | case1 s =>
    cases h
    rfl
  | case2 => cases h
  | case3 w word rest' ih => exact ih h
  | case4 => cases h

theorem read_isOrdered (fuel : Nat) :
    (∀ depth s value rest, readValue depth fuel s = .ok (value, rest) → value.IsOrdered) ∧
    (∀ depth first seen s value rest, (∀ item ∈ seen, item.IsOrdered) →
      readItems depth first seen fuel s = .ok (value, rest) → value.IsOrdered) ∧
    (∀ depth first seen s value rest, (∀ entry ∈ seen, entry.2.IsOrdered) →
      readMembers depth first seen fuel s = .ok (value, rest) → value.IsOrdered) := by
  -- The three readers call each other with less fuel, so they are taken together. What is seen is in order throughout.
  induction fuel with
  | zero =>
    refine ⟨fun depth s value rest h => ?_, fun depth first seen s value rest _ h => ?_,
      fun depth first seen s value rest _ h => ?_⟩
    · cases h
    · cases h
    · cases h
  | succ fuel ih =>
    obtain ⟨ihvalue, ihitems, ihmembers⟩ := ih
    refine ⟨fun depth s value rest h => ?_, fun depth first seen s value rest hseen h => ?_,
      fun depth first seen s value rest hseen h => ?_⟩
    · rw [readValue] at h
      split at h
      · cases h
      · rename_i c tail hc
        split at h
        · rw [readWord_value h]
          trivial
        split at h
        · rw [readWord_value h]
          trivial
        split at h
        · rw [readWord_value h]
          trivial
        split at h
        · obtain ⟨_, _, h⟩ := bind_eq_ok h
          cases h
          trivial
        split at h
        · obtain ⟨_, _, h⟩ := bind_eq_ok h
          cases h
          trivial
        split at h
        · obtain ⟨_, _, h⟩ := bind_eq_ok h
          cases h
          trivial
        split at h
        · cases depth with
          | zero => cases h
          | succ depth => exact ihitems depth true [] _ _ _ (fun item hitem => absurd hitem List.not_mem_nil) h
        split at h
        · cases depth with
          | zero => cases h
          | succ depth => exact ihmembers depth true [] _ _ _ (fun entry hentry => absurd hentry List.not_mem_nil) h
        · cases h
    · rw [readItems] at h
      obtain ⟨⟨more, tail⟩, _, h⟩ := bind_eq_ok h
      dsimp only at h
      split at h
      · obtain ⟨⟨item, tail⟩, hitem, h⟩ := bind_eq_ok h
        refine ihitems depth false (item :: seen) _ _ _ (fun other hother => ?_) h
        rcases List.mem_cons.mp hother with rfl | hother
        · exact ihvalue _ _ _ _ hitem
        · exact hseen other hother
      · cases h
        rw [IsOrdered, areOrdered_iff]
        exact fun item hitem => hseen item (List.mem_reverse.mp hitem)
    · rw [readMembers] at h
      obtain ⟨⟨more, tail⟩, _, h⟩ := bind_eq_ok h
      dsimp only at h
      split at h
      · obtain ⟨⟨key, tail⟩, _, h⟩ := bind_eq_ok h
        obtain ⟨⟨_, tail⟩, _, h⟩ := bind_eq_ok h
        obtain ⟨⟨member, tail⟩, hmember, h⟩ := bind_eq_ok h
        refine ihmembers depth false ((key, member) :: seen) _ _ _ (fun other hother => ?_) h
        rcases List.mem_cons.mp hother with rfl | hother
        · exact ihvalue _ _ _ _ hmember
        · exact hseen other hother
      · cases h
        exact isOrdered_ofEntries (fun entry hentry => hseen entry (List.mem_reverse.mp hentry))

/-- Whatever is read is in order. -/
theorem isOrdered_of_read? {text : String} {value : Json} (h : read? text = some value) : value.IsOrdered := by
  obtain ⟨⟨v, rest⟩, hvalue, hrest⟩ := bind_eq_ok (eq_ok_of_toOption h)
  dsimp only at hrest
  split at hrest
  · cases hrest
    exact (read_isOrdered _).1 _ _ _ _ hvalue
  · cases hrest

/-! ## Sameness -/

mutual

theorem same_refl (value : Json) : same value value = true := by
  cases value with
  | null => simp [same]
  | bool b => simp [same]
  | number n => simp [same, Numeral.same_refl]
  | string s => simp [same]
  | array items => simp [same, sameItems_refl items]
  | object members => simp [same, sameMembers_refl members]

theorem sameItems_refl (items : List Json) : sameItems items items = true := by
  cases items with
  | nil => simp [sameItems]
  | cons item rest => simp [sameItems, same_refl item, sameItems_refl rest]

theorem sameMembers_refl (members : List (String × Json)) : sameMembers members members = true := by
  cases members with
  | nil => simp [sameMembers]
  | cons entry rest =>
    obtain ⟨key, value⟩ := entry
    simp [sameMembers, same_refl value, sameMembers_refl rest]

end

end Json

end OutOfBand
