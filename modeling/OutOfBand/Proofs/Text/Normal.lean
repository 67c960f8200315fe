import OutOfBand.Text.Normal

/-! # Characters that stand alone

Normal forms take characters apart, put marks in order and compose what is left. A character that has no parts and is part
of no other one goes through all three unchanged, whatever stands around it.
-/
namespace OutOfBand.Text

/-- The character has no parts and is part of no other. -/
structure StandsAlone (c : Char) : Prop where
  hasNoParts : c.toNat < 0xC0
  isNoBase : ∀ entry ∈ compositions, entry.base ≠ c
  isNoMark : ∀ entry ∈ compositions, entry.mark ≠ c

theorem mem_putMark {c d : Char} {cs : List Char} : c ∈ putMark d cs ↔ c = d ∨ c ∈ cs := by
  fun_induction putMark d cs with
  | case1 => simp
  | case2 e rest _ ih => rw [List.mem_cons, ih, List.mem_cons, or_left_comm]
  | case3 e rest _ => rw [List.mem_cons]

theorem mem_orderMarks {c : Char} {cs : List Char} : c ∈ orderMarks cs ↔ c ∈ cs := by
  induction cs with
  | nil => rfl
  | cons d rest ih => rw [orderMarks, mem_putMark, ih, List.mem_cons]

namespace StandsAlone

variable {c : Char}

theorem partsOf_eq (h : StandsAlone c) (fuel : Nat) : partsOf fuel c = [c] := by
  cases fuel with
  | zero => rfl
  | succ fuel =>
    change (if c.toNat < 0xC0 then [c] else _) = [c]
    exact if_pos h.hasNoParts

theorem ne_of_pair? (h : StandsAlone c) {a b whole : Char} (hpair : pair? a b = some whole) : c ≠ a ∧ c ≠ b := by
  have hlow := h.hasNoParts
  rw [pair?, Option.or_eq_some_iff] at hpair
  rcases hpair with hhangul | ⟨_, hfind⟩
  · -- The letters of Hangul lie far above.
    have hrange : 0xC0 ≤ a.toNat ∧ 0xC0 ≤ b.toNat := by
      unfold hangulPair? syllableBase at hhangul
      split at hhangul
      · omega
      · split at hhangul
        · omega
        · cases hhangul
    constructor
    · rintro rfl
      omega
    · rintro rfl
      omega
  · obtain ⟨entry, hentry, _⟩ := Option.map_eq_some_iff.mp hfind
    have hparts := List.find?_some hentry
    have hmem := List.mem_of_find?_eq_some hentry
    simp only [Bool.and_eq_true, beq_iff_eq] at hparts
    constructor
    · rintro rfl
      exact h.isNoBase entry hmem hparts.1
    · rintro rfl
      exact h.isNoMark entry hmem hparts.2

theorem mem_composeOnto (h : StandsAlone c) {base : Char} {kept cs : List Char} (hmem : c = base ∨ c ∈ kept ∨ c ∈ cs) :
    c ∈ composeOnto base kept cs := by
  fun_induction composeOnto base kept cs with
  | case1 base kept => simpa using hmem
  | case2 base kept d rest whole hpair ih =>
    have hne : c ≠ base ∧ c ≠ d := by
      split at hpair
      · cases hpair
      · exact h.ne_of_pair? hpair
    rcases hmem with hbase | hkept | hrest
    · exact absurd hbase hne.1
    · exact ih (Or.inr (Or.inl hkept))
    · exact ih (Or.inr (Or.inr (List.mem_of_ne_of_mem hne.2 hrest)))
  | case3 base kept d rest _ _ ih =>
    rw [List.mem_cons, List.mem_append, List.mem_reverse]
    rcases hmem with hbase | hkept | hrest
    · exact Or.inl hbase
    · exact Or.inr (Or.inl hkept)
    · rcases List.mem_cons.mp hrest with hd | hrest
      · exact Or.inr (Or.inr (ih (Or.inl hd)))
      · exact Or.inr (Or.inr (ih (Or.inr (Or.inr hrest))))
  | case4 base kept d rest _ _ ih =>
    refine ih ?_
    rw [List.mem_cons, or_assoc, or_left_comm]
    rcases hmem with hbase | hkept | hrest
    · exact Or.inr (Or.inl hbase)
    · exact Or.inr (Or.inr (Or.inl hkept))
    · rcases List.mem_cons.mp hrest with hd | hrest
      · exact Or.inl hd
      · exact Or.inr (Or.inr (Or.inr hrest))

theorem mem_compose (h : StandsAlone c) {cs : List Char} (hmem : c ∈ cs) : c ∈ compose cs := by
  induction cs with
  | nil => exact hmem
  | cons d rest ih =>
    rw [compose]
    split
    · refine h.mem_composeOnto ?_
      rcases List.mem_cons.mp hmem with hd | hrest
      · exact Or.inl hd
      · exact Or.inr (Or.inr hrest)
    · rcases List.mem_cons.mp hmem with hd | hrest
      · exact List.mem_cons.mpr (Or.inl hd)
      · exact List.mem_cons_of_mem d (ih hrest)

theorem mem_normalForm (h : StandsAlone c) {cs : List Char} (hmem : c ∈ cs) : c ∈ normalForm cs := by
  refine h.mem_compose (mem_orderMarks.mpr (List.mem_flatMap.mpr ⟨c, hmem, ?_⟩))
  rw [h.partsOf_eq]
  exact List.mem_singleton_self c

end StandsAlone

end OutOfBand.Text
