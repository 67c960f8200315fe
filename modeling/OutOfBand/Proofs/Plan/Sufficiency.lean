import OutOfBand.Proofs.Plan.Difference

/-! # The least change that suffices

A device is sent a part of the desired state and writes it into what it holds: value by value, each in place of the one
before it, or member by member, as a merge patch is applied. Either way the keys that still differ afterwards are those
that differed before and were not in the part. So what a plan sends is enough, and nothing less is.
-/
namespace OutOfBand

namespace Fields

variable {α : Type}

/-- Take a key away. -/
def erase (key : String) (fields : Fields α) : Fields α := List.filter (fun entry => entry.1 != key) fields

theorem get?_erase (name key : String) (fields : Fields α) :
    get? (erase key fields) name = if name = key then none else get? fields name := by
  rw [erase, get?_filter (· != key)]
  by_cases h : name = key
  · simp [h]
  · simp [h]

/-- Some of the entries of a whole. -/
structure IsPartOf (part whole : Fields α) : Prop where
  sorted : Sorted part
  subset : ∀ entry ∈ part, entry ∈ whole

theorem IsPartOf.get?_eq {part whole : Fields α} (h : part.IsPartOf whole) (hwhole : Sorted whole) {key : String} {value : α}
    (hvalue : part.get? key = some value) : whole.get? key = some value :=
  hwhole.get?_of_mem (h.subset _ (mem_of_get? hvalue))

theorem contains_eq_false_iff {fields : Fields α} {key : String} : fields.contains key = false ↔ fields.get? key = none := by
  rw [contains, Option.isSome_eq_false_iff, Option.isNone_iff_eq_none]

end Fields

/-! ## Merging -/

namespace Json

mutual

/-- The value after it has been merged into what is held, if anything is. An object goes into an object member by member,
and a null takes its member away. Every other value takes the place of what is held. -/
def mergedInto : Json → Option Json → Json
  | .object members, held => .object (mergedMembers members ((held.bind members?).getD []))
  | value, _ => value

def mergedMembers : List (String × Json) → Object → Object
  | [], held => held
  | (key, value) :: rest, held =>
    mergedMembers rest (if value.isNull then held.erase key else held.insert key (value.mergedInto (held.get? key)))

end

/-- After a merge a key holds what it held before, unless a member of that name was merged into it. -/
theorem get?_mergedMembers {members : Object} (h : Fields.Sorted members) (held : Object) (name : String) :
    Fields.get? (mergedMembers members held) name =
      match members.get? name with
      | none => held.get? name
      | some value => if value.isNull then none else some (value.mergedInto (held.get? name)) := by
  induction members generalizing held with
  | nil =>
    rw [mergedMembers]
    rfl
  | cons entry rest ih =>
    obtain ⟨key, value⟩ := entry
    have hput : (if value.isNull then held.erase key else held.insert key (value.mergedInto (held.get? key))).get? name =
        if name = key then (if value.isNull then none else some (value.mergedInto (held.get? key)))
        else held.get? name := by
      cases value.isNull with
      | true => exact Fields.get?_erase name key held
      | false => exact Fields.get?_insert name key _ held
    rw [mergedMembers, ih h.2, hput, Fields.get?_cons]
    by_cases hname : name = key
    · -- The key is not named again, so what was put in stays.
      have hlast : Fields.get? rest name = none := Fields.get?_eq_none_of_lt (hname ▸ h.1)
      rw [hlast, if_pos hname, if_pos hname, hname]
    · rw [if_neg hname, if_neg hname]

end Json

open Json

-- By induction on the desired value, its members along with it. Null apart, each member is found where it was merged in.
mutual

/-- A desired value holds wherever it has been merged in. -/
theorem differs_mergedInto {want : Json} (h : want.IsOrdered) (held : Option Json) :
    differs want (some (want.mergedInto held)) = false := by
  cases want with
  | object wanted =>
    have hmembers := members_hold_merged h.2
    rw [mergedInto, differs, ← Bool.not_eq_true, someDiffers_iff]
    rintro ⟨⟨key, want⟩, hentry, hdiffers⟩
    rw [get?_mergedMembers h.1, h.1.get?_of_mem hentry] at hdiffers
    cases want with
    | null =>
      rw [differs] at hdiffers
      cases hdiffers
    | _ => exact absurd hdiffers (Bool.eq_false_iff.mp (hmembers (key, _) hentry _))
  | _ => exact differs_self h

theorem members_hold_merged {wanted : List (String × Json)} (h : MembersOrdered wanted) :
    ∀ entry ∈ wanted, ∀ held, differs entry.2 (some (entry.2.mergedInto held)) = false := by
  cases wanted with
  | nil => exact fun _ hentry => absurd hentry List.not_mem_nil
  | cons first rest =>
    obtain ⟨firstKey, firstWant⟩ := first
    intro entry hentry held
    rcases List.mem_cons.mp hentry with heq | hentry
    · rw [heq]
      exact differs_mergedInto h.1 held
    · exact members_hold_merged h.2 entry hentry held

end

/-! ## Writing -/

/-- The ways in which a device writes what it is sent. -/
inductive Writing where
  /-- A value takes the place of the one that its key held. -/
  | replacing
  /-- A value is merged into the one that its key held, and a null takes the key away. -/
  | merging
deriving DecidableEq, Repr

namespace Writing

/-- What is held once a part of a desired state has been written. -/
def write (writing : Writing) (part held : Object) : Object :=
  match writing with
  | replacing => List.foldl (fun state entry => Fields.insert entry.1 entry.2 state) held part
  | merging => mergedMembers part held

variable {part : Object} {key : String}

theorem get?_write_of_none (writing : Writing) (hpart : Fields.Sorted part) (h : part.get? key = none) (held : Object) :
    (writing.write part held).get? key = held.get? key := by
  cases writing with
  | replacing => rw [write, Fields.get?_foldl_insert, hpart.lookup_reverse, h, Option.none_or]
  | merging => rw [write, get?_mergedMembers hpart, h]

theorem not_differs_write (writing : Writing) (hpart : (Json.object part).IsOrdered) {want : Json}
    (h : part.get? key = some want) (held : Object) : differs want ((writing.write part held).get? key) = false := by
  have hwant : want.IsOrdered := membersOrdered_iff.mp hpart.2 (key, want) (Fields.mem_of_get? h)
  cases writing with
  | replacing =>
    rw [write, Fields.get?_foldl_insert, hpart.1.lookup_reverse, h, Option.some_or]
    exact differs_self hwant
  | merging =>
    rw [write, get?_mergedMembers hpart.1, h]
    cases want with
    | null => rw [differs]
    | _ => exact differs_mergedInto hwant _

end Writing

theorem isOrdered_of_isPartOf {part whole : Object} (h : part.IsPartOf whole) (hwhole : (Json.object whole).IsOrdered) :
    (Json.object part).IsOrdered :=
  ⟨h.sorted, membersOrdered_iff.mpr fun entry hentry => membersOrdered_iff.mp hwhole.2 entry (h.subset entry hentry)⟩

/-- The keys that still differ after a part has been written are those that differed and were not in it. -/
theorem mem_deltaKeys_write {desired part : Object} (h : (Json.object desired).IsOrdered) (hpart : part.IsPartOf desired)
    (writing : Writing) (observed : Object) (key : String) :
    key ∈ deltaKeys desired (writing.write part observed) ↔
      key ∈ deltaKeys desired observed ∧ part.contains key = false := by
  rw [mem_deltaKeys h.1, mem_deltaKeys h.1, Fields.contains_eq_false_iff]
  cases hheld : part.get? key with
  | none =>
    rw [writing.get?_write_of_none hpart.sorted hheld]
    exact (and_iff_left rfl).symm
  | some want =>
    have hholds := writing.not_differs_write (isOrdered_of_isPartOf hpart h) hheld observed
    have hwant := hpart.get?_eq h.1 hheld
    constructor
    · rintro ⟨other, hother, hdiffers⟩
      rw [hwant, Option.some.injEq] at hother
      rw [← hother, hholds] at hdiffers
      cases hdiffers
    · rintro ⟨_, hnone⟩
      cases hnone

theorem deltaKeys_write_eq_nil_iff {desired part : Object} (h : (Json.object desired).IsOrdered)
    (hpart : part.IsPartOf desired) (writing : Writing) (observed : Object) :
    deltaKeys desired (writing.write part observed) = [] ↔ ∀ key ∈ deltaKeys desired observed, part.contains key = true := by
  rw [List.eq_nil_iff_forall_not_mem]
  refine forall_congr' fun key => ?_
  rw [mem_deltaKeys_write h hpart, not_and, Bool.not_eq_false]

/-! ## What a plan sends -/

namespace Plan

theorem make_some (desired observed : Object) (dryRun : Bool) :
    ∃ plan, make desired (some observed) dryRun = .ok plan ∧ plan.deltaKeys = OutOfBand.deltaKeys desired observed := by
  simp only [make]
  cases OutOfBand.deltaKeys desired observed with
  | nil => exact ⟨_, rfl, rfl⟩
  | cons key keys => exact ⟨_, rfl, rfl⟩

variable {plan : Plan} {desired : Object}

theorem deltaPayload_isPartOf (h : Fields.Sorted desired) : (plan.deltaPayload desired).IsPartOf desired :=
  ⟨h.filter _, fun _ hentry => (List.mem_filter.mp hentry).1⟩

theorem contains_deltaPayload {observed : Object} (h : Fields.Sorted desired)
    (hplan : plan.deltaKeys = OutOfBand.deltaKeys desired observed) {key : String}
    (hkey : key ∈ OutOfBand.deltaKeys desired observed) : (plan.deltaPayload desired).contains key = true := by
  obtain ⟨want, hwant, _⟩ := (mem_deltaKeys h).mp hkey
  have hfound : (plan.deltaPayload desired).get? key = some want := by
    rw [deltaPayload, hplan, Fields.get?_filter (fun key => (OutOfBand.deltaKeys desired observed).contains key),
      if_pos (List.contains_iff_mem.mpr hkey), hwant]
  rw [Fields.contains, hfound, Option.isSome_some]

/-- What is sent lies in every part that names all the keys that differ. -/
theorem deltaPayload_isPartOf_of_contains {observed part : Object} (h : Fields.Sorted desired)
    (hplan : plan.deltaKeys = OutOfBand.deltaKeys desired observed) (hpart : part.IsPartOf desired)
    (hall : ∀ key ∈ OutOfBand.deltaKeys desired observed, part.contains key = true) :
    (plan.deltaPayload desired).IsPartOf part := by
  refine ⟨h.filter _, fun entry hentry => ?_⟩
  obtain ⟨hmem, hkey⟩ := List.mem_filter.mp hentry
  rw [hplan, List.contains_iff_mem] at hkey
  obtain ⟨value, hvalue⟩ := Option.isSome_iff_exists.mp (hall entry.1 hkey)
  -- The part holds the key with the value of the desired state, and that has only one.
  have hsame := (hpart.get?_eq h hvalue).symm.trans (h.get?_of_mem hmem)
  rw [Option.some.injEq] at hsame
  rw [hsame] at hvalue
  exact Fields.mem_of_get? hvalue

/-- What a plan sends is the least that suffices. A part of the desired state, written in either way, leaves nothing to do
exactly if it names every key that differs. So the part that a plan sends leaves nothing to do, and it lies in every part
that does so. -/
theorem deltaPayload_suffices_least {desired : Object} (h : (Json.object desired).IsOrdered) (observed : Object) :
    (∀ part : Object, part.IsPartOf desired → ∀ writing : Writing,
      (OutOfBand.deltaKeys desired (writing.write part observed) = [] ↔
        ∀ key ∈ OutOfBand.deltaKeys desired observed, part.contains key = true)) ∧
      ∀ dryRun, ∃ plan, make desired (some observed) dryRun = .ok plan ∧
        (plan.deltaPayload desired).IsPartOf desired ∧
        (∀ writing : Writing, OutOfBand.deltaKeys desired (writing.write (plan.deltaPayload desired) observed) = []) ∧
        ∀ part : Object, part.IsPartOf desired → ∀ writing : Writing,
          OutOfBand.deltaKeys desired (writing.write part observed) = [] → (plan.deltaPayload desired).IsPartOf part := by
  refine ⟨fun part hpart writing => deltaKeys_write_eq_nil_iff h hpart writing observed, fun dryRun => ?_⟩
  obtain ⟨plan, hmake, hplan⟩ := make_some desired observed dryRun
  have hsent : (plan.deltaPayload desired).IsPartOf desired := deltaPayload_isPartOf h.1
  refine ⟨plan, hmake, hsent, fun writing => ?_, fun part hpart writing hdone => ?_⟩
  · exact (deltaKeys_write_eq_nil_iff h hsent writing observed).mpr fun key hkey => contains_deltaPayload h.1 hplan hkey
  · exact deltaPayload_isPartOf_of_contains h.1 hplan hpart ((deltaKeys_write_eq_nil_iff h hpart writing observed).mp hdone)

/-- Of a text where an object is wanted, a member that is to be left alone and a limit that holds already, the object
alone has to be sent, and it is enough in either way. The limit alone is not. -/
theorem deltaPayload_suffices_least_nested :
    let desired : Object := [("limit", .string "5"), ("power", .object [("cap", .null), ("mode", .string "On")])]
    let observed : Object := [("fans", .bool true), ("limit", .number (.int 5)), ("power", .string "On")]
    let part : Object := [("limit", .string "5")]
    (Json.object desired).IsOrdered ∧ part.IsPartOf desired ∧
      OutOfBand.deltaKeys desired (Writing.merging.write part observed) ≠ [] ∧
      ∃ plan, make desired (some observed) false = .ok plan ∧
        ∀ writing : Writing, OutOfBand.deltaKeys desired (writing.write (plan.deltaPayload desired) observed) = [] := by
  intro desired observed part
  have hordered : (Json.object desired).IsOrdered := by
    simp only [desired, IsOrdered, MembersOrdered, Fields.Sorted]
    decide
  have hpart : part.IsPartOf desired := ⟨by simp [part, Fields.Sorted], by simp [part, desired]⟩
  obtain ⟨hiff, hplan⟩ := deltaPayload_suffices_least hordered observed
  obtain ⟨plan, hmake, _, henough, _⟩ := hplan false
  refine ⟨hordered, hpart, fun hnone => ?_, plan, hmake, henough⟩
  have hpower := (hiff part hpart .merging).mp hnone "power" (by decide +kernel)
  exact absurd hpower (by decide)

end Plan

end OutOfBand
