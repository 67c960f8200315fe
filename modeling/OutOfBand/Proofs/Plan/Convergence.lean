import OutOfBand.Plan
import OutOfBand.Proofs.Json.Order

/-! # Converging plans

What is observed after desired states have been planned and carried out one after the other. A value in
order does not differ from itself, so a key that was set stays as desired until another step names it, a
step that is planned again has nothing left to do, and a key that no step names stays as it was.
-/
namespace OutOfBand

/-! ## Comparing a value with itself -/

theorem valuesMatch_self (value : Json) : valuesMatch value value = true := by
  have hsame : (value == value) = true := value.same_refl
  unfold valuesMatch
  rw [hsame, Bool.true_or]

mutual

theorem differs_self {value : Json} (h : value.IsOrdered) : differs value (some value) = false := by
  cases value with
  | null => rw [differs]
  | bool b => simp [differs, valuesMatch_self]
  | number n => simp [differs, valuesMatch_self]
  | string s => simp [differs, valuesMatch_self]
  | array items => simp [differs, valuesMatch_self]
  | object members =>
    rw [differs]
    have hvalues := Json.membersOrdered_iff.mp h.2
    exact someDiffers_eq_false (fun entry hentry => ⟨h.1.get?_of_mem hentry, hvalues entry hentry⟩)

theorem someDiffers_eq_false {wanted : List (String × Json)} {given : Object}
    (h : ∀ entry ∈ wanted, given.get? entry.1 = some entry.2 ∧ entry.2.IsOrdered) :
    someDiffers wanted given = false := by
  cases wanted with
  | nil => rw [someDiffers]
  | cons entry rest =>
    obtain ⟨key, want⟩ := entry
    obtain ⟨hfound, hordered⟩ := h (key, want) List.mem_cons_self
    have hrest := someDiffers_eq_false (fun other hother => h other (List.mem_cons_of_mem _ hother))
    rw [someDiffers, hfound, differs_self hordered, hrest, Bool.or_false]

end

theorem differs_none {want : Json} (h : want.isNull = false) : differs want none = true := by
  cases want with
  | null => cases h
  | bool b => simp [differs]
  | number n => simp [differs]
  | string s => simp [differs]
  | array items => simp [differs]
  | object members => simp [differs]

/-! ## One step -/

/-- What is to be changed of a key is exactly what is wanted of it and differs. -/
theorem mem_deltaKeys {desired observed : Object} {key : String} (h : Fields.Sorted desired) :
    key ∈ deltaKeys desired observed ↔
      ∃ want, desired.get? key = some want ∧ differs want (observed.get? key) = true := by
  simp only [deltaKeys, List.mem_map, List.mem_filter]
  constructor
  · rintro ⟨⟨k, want⟩, ⟨hmem, hdiffers⟩, rfl⟩
    exact ⟨want, h.get?_of_mem hmem, hdiffers⟩
  · rintro ⟨want, hwant, hdiffers⟩
    exact ⟨(key, want), ⟨Fields.mem_of_get? hwant, hdiffers⟩, rfl⟩

namespace Plan

/-- A desired state, and whether it is only planned for or carried out as well. -/
structure Step where
  desired : Object
  dryRun : Bool

/-- The state after one step. Something is observed, so there always is a plan. -/
def step (observed : Object) (s : Step) : Object :=
  match make s.desired (some observed) s.dryRun with
  | .ok plan => plan.carryOut s.desired observed
  | .error _ => observed

/-- The state after some steps, each of them planned for against the state before it. -/
def after (observed : Object) (steps : List Step) : Object := steps.foldl step observed

/-- The step is carried out and wants something of the key. -/
def Step.Wants (s : Step) (key : String) : Prop :=
  s.dryRun = false ∧ ∃ want, s.desired.get? key = some want ∧ want.isNull = false

def Step.IsOrdered (s : Step) : Prop := (Json.object s.desired).IsOrdered

variable {observed : Object} {s : Step} {key : String}

theorem step_of_dryRun (h : s.dryRun = true) (observed : Object) : step observed s = observed := by
  simp only [step, make, h]
  cases OutOfBand.deltaKeys s.desired observed with
  | nil => rfl
  | cons key keys => rfl

theorem step_eq_foldl (h : s.dryRun = false) (observed : Object) :
    step observed s = (List.filter (fun entry => (OutOfBand.deltaKeys s.desired observed).contains entry.1) s.desired).foldl
      (fun state entry => Fields.insert entry.1 entry.2 state) observed := by
  simp only [step, make, h]
  cases OutOfBand.deltaKeys s.desired observed with
  | nil =>
    have hnone : List.filter (fun entry => ([] : List String).contains entry.1) s.desired = [] :=
      List.filter_eq_nil_iff.mpr (fun entry _ => by simp)
    rw [hnone]
    rfl
  | cons key keys => rfl

/-- After a step a key holds what is wanted of it if that differed, and otherwise what it held before. -/
theorem get?_step (hs : s.IsOrdered) (h : s.dryRun = false) (observed : Object) (key : String) :
    (step observed s).get? key =
      ((s.desired.get? key).filter (fun want => differs want (observed.get? key))).or (observed.get? key) := by
  -- No key is put in twice, so it makes no difference that the last entry of a key is the one that stays.
  rw [step_eq_foldl h, Fields.get?_foldl_insert, (hs.1.filter _).lookup_reverse,
    Fields.get?_filter (fun key => (OutOfBand.deltaKeys s.desired observed).contains key)]
  have hcontains : (OutOfBand.deltaKeys s.desired observed).contains key = true ↔
      ∃ want, s.desired.get? key = some want ∧ differs want (observed.get? key) = true := by
    rw [List.contains_iff_mem, mem_deltaKeys hs.1]
  congr 1
  cases hwant : s.desired.get? key with
  | none =>
    rw [ite_self]
    rfl
  | some want =>
    rw [hwant] at hcontains
    cases hdiffers : differs want (observed.get? key) with
    | true =>
      rw [if_pos (hcontains.mpr ⟨want, rfl, hdiffers⟩), Option.filter_some, if_pos hdiffers]
    | false =>
      rw [if_neg, Option.filter_some, if_neg (Bool.eq_false_iff.mp hdiffers)]
      · rw [hcontains]
        rintro ⟨other, hother, hyes⟩
        cases hother
        rw [hdiffers] at hyes
        cases hyes

theorem not_differs_step (hs : s.IsOrdered) (h : s.dryRun = false) (observed : Object) {want : Json}
    (hwant : s.desired.get? key = some want) : differs want ((step observed s).get? key) = false := by
  rw [get?_step hs h, hwant]
  have hordered : want.IsOrdered := Json.membersOrdered_iff.mp hs.2 (key, want) (Fields.mem_of_get? hwant)
  cases hdiffers : differs want (observed.get? key) with
  | true =>
    rw [Option.filter_some, if_pos hdiffers, Option.some_or]
    exact differs_self hordered
  | false =>
    rw [Option.filter_some, if_neg (Bool.eq_false_iff.mp hdiffers), Option.none_or]
    exact hdiffers

theorem get?_step_of_not_wants (hs : s.IsOrdered) (h : ¬ s.Wants key) (observed : Object) :
    (step observed s).get? key = observed.get? key := by
  cases hreal : s.dryRun with
  | true => rw [step_of_dryRun hreal]
  | false =>
    rw [get?_step hs hreal]
    cases hwant : s.desired.get? key with
    | none => rfl
    | some want =>
      cases want with
      | null =>
        have hnull : differs .null (observed.get? key) = false := by rw [differs]
        rw [Option.filter_some, if_neg (Bool.eq_false_iff.mp hnull), Option.none_or]
      | _ => exact absurd ⟨hreal, _, hwant, rfl⟩ h

theorem make_step (hs : s.IsOrdered) (h : s.dryRun = false) (observed : Object) (dryRun : Bool) :
    make s.desired (some (step observed s)) dryRun = .ok ⟨.noop, []⟩ := by
  have hnone : OutOfBand.deltaKeys s.desired (step observed s) = [] := by
    rw [List.eq_nil_iff_forall_not_mem]
    intro key hkey
    obtain ⟨want, hwant, hdiffers⟩ := (mem_deltaKeys hs.1).mp hkey
    rw [not_differs_step hs h observed hwant] at hdiffers
    cases hdiffers
  rw [make, hnone]

/-! ## Many steps -/

theorem get?_after_of_not_wants {steps : List Step} (hsteps : ∀ s ∈ steps, s.IsOrdered)
    (h : ∀ s ∈ steps, ¬ s.Wants key) (observed : Object) : (after observed steps).get? key = observed.get? key := by
  induction steps generalizing observed with
  | nil => rfl
  | cons s rest ih =>
    have hrest := ih (fun other hother => hsteps other (List.mem_cons_of_mem _ hother))
      (fun other hother => h other (List.mem_cons_of_mem _ hother)) (step observed s)
    have hstep := get?_step_of_not_wants (hsteps s List.mem_cons_self) (h s List.mem_cons_self) observed
    rw [← hstep, ← hrest]
    rfl

theorem after_append (observed : Object) (front rest : List Step) :
    after observed (front ++ rest) = after (after observed front) rest := List.foldl_append

/-- Steps converge. In the end a key holds a value that does not differ from what the last step that wanted
something of it wanted, and a key of which no step wanted anything is as it was at first. A step that is planned
for again right behind itself has nothing left to do, in either mode. -/
theorem after_converges {steps : List Step} (hsteps : ∀ s ∈ steps, s.IsOrdered) (observed : Object) :
    (∀ front s rest key want, steps = front ++ s :: rest → s.dryRun = false → s.desired.get? key = some want →
        want.isNull = false → (∀ later ∈ rest, ¬ later.Wants key) →
        ∃ given, (after observed steps).get? key = some given ∧ differs want (some given) = false) ∧
      (∀ key, (∀ s ∈ steps, ¬ s.Wants key) → (after observed steps).get? key = observed.get? key) ∧
      (∀ front s rest, steps = front ++ s :: rest → s.dryRun = false →
        ∀ dryRun, make s.desired (some (after observed (front ++ [s]))) dryRun = .ok ⟨.noop, []⟩) := by
  have hmid : ∀ {front s rest}, steps = front ++ s :: rest → s.IsOrdered ∧ ∀ later ∈ rest, later.IsOrdered := by
    intro front s rest hsplit
    subst hsplit
    exact ⟨hsteps s (by simp), fun later hlater => hsteps later (by simp [hlater])⟩
  refine ⟨?_, fun key hkey => get?_after_of_not_wants hsteps hkey observed, ?_⟩
  · intro front s rest key want hsplit hreal hwant hnull hlast
    obtain ⟨hs, hrest⟩ := hmid hsplit
    -- The value that the last step leaves is not touched again.
    have hstays := get?_after_of_not_wants hrest hlast (step (after observed front) s)
    have hheld := not_differs_step hs hreal (after observed front) hwant
    rw [hsplit, after_append]
    change ∃ given, (after (step (after observed front) s) rest).get? key = some given ∧ _
    rw [hstays]
    cases hgiven : (step (after observed front) s).get? key with
    | none =>
      rw [hgiven, differs_none hnull] at hheld
      cases hheld
    | some given =>
      rw [hgiven] at hheld
      exact ⟨given, rfl, hheld⟩
  · intro front s rest hsplit hreal dryRun
    rw [after_append]
    exact make_step (hmid hsplit).1 hreal _ dryRun

/-- The limit stays at the text that spells it, the mode is set and then only planned for, and the fans are left
alone. -/
theorem after_converges_three :
    let observed : Object := [("fans", .bool true), ("limit", .number (.int 5))]
    let first : Step := ⟨[("fans", .null), ("limit", .string " 5 "), ("mode", .object [("power", .string "On")])], false⟩
    let second : Step := ⟨[("mode", .object [("power", .string "Off")])], true⟩
    let third : Step := ⟨[("limit", .null)], false⟩
    (∀ s ∈ [first, second, third], s.IsOrdered) ∧
      (∃ given, (after observed [first, second, third]).get? "mode" = some given ∧
        differs (.object [("power", .string "On")]) (some given) = false) ∧
      (after observed [first, second, third]).get? "fans" = some (.bool true) ∧
      make first.desired (some (after observed [first])) false = .ok ⟨.noop, []⟩ := by
  intro observed first second third
  have hsteps : ∀ s ∈ [first, second, third], s.IsOrdered := by
    intro s hs
    simp only [List.mem_cons, List.not_mem_nil, or_false] at hs
    rcases hs with rfl | rfl | rfl
    · simp only [first, Step.IsOrdered, Json.IsOrdered, Json.MembersOrdered, Fields.Sorted]
      decide
    · simp only [second, Step.IsOrdered, Json.IsOrdered, Json.MembersOrdered, Fields.Sorted]
      decide
    · simp only [third, Step.IsOrdered, Json.IsOrdered, Json.MembersOrdered, Fields.Sorted]
      decide
  obtain ⟨hlast, hkept, hagain⟩ := after_converges hsteps observed
  refine ⟨hsteps, hlast [] first [second, third] "mode" _ rfl rfl rfl rfl ?_, hkept "fans" ?_, hagain [] first _ rfl rfl false⟩
  · intro later hlater
    simp only [List.mem_cons, List.not_mem_nil, or_false] at hlater
    rcases hlater with rfl | rfl
    · rintro ⟨hreal, _⟩
      cases hreal
    · rintro ⟨_, want, hwant, _⟩
      cases hwant
  · intro s hs
    simp only [List.mem_cons, List.not_mem_nil, or_false] at hs
    rcases hs with rfl | rfl | rfl
    · rintro ⟨_, want, hwant, hnull⟩
      cases hwant
      cases hnull
    · rintro ⟨hreal, _⟩
      cases hreal
    · rintro ⟨_, want, hwant, _⟩
      cases hwant

end Plan

end OutOfBand
