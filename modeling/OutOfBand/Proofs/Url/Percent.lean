import OutOfBand.Proofs.Text.Utf8
import OutOfBand.Url.Percent

/-! # Percent encoding and back

What is written with percent signs is read as the bytes it was written from, as long as the text's own percent signs are
escaped too. Nothing comes into the text but percent signs and hexadecimal digits.
-/
namespace OutOfBand.Url

/-- What holds of each of some characters, checked one after the other and not for every character there is. -/
theorem forall_mem_of_all {p : Char → Prop} [DecidablePred p] {cs : List Char} (h : cs.all (fun c => decide (p c)) = true) :
    ∀ c ∈ cs, p c := by
  intro c hc
  exact of_decide_eq_true (List.all_eq_true.mp h c hc)

/-! ## The bytes of a text -/

theorem charBytes_eq (c : Char) : charBytes c = String.utf8EncodeChar c := by
  rw [charBytes, Text.encodeUtf8_eq_flatMap, String.toList_singleton, List.flatMap_singleton]

/-- The bytes of a text are those of its characters, one character after the other. -/
theorem flatMap_charBytes (cs : List Char) : cs.flatMap charBytes = Text.encodeUtf8 (String.ofList cs) := by
  rw [funext charBytes_eq, Text.encodeUtf8_eq_flatMap, String.toList_ofList]

theorem charBytes_ne_nil (c : Char) : charBytes c ≠ [] := by
  rw [charBytes_eq]
  exact String.utf8EncodeChar_ne_nil

/-! ## Reading what was written -/

theorem digitOf?_upperDigit {n : Nat} (h : n < 16) : digitOf? 16 (upperDigit n) = some n := by
  revert n
  decide

theorem percentDecode_cons {c : Char} (h : c ≠ '%') (rest : List Char) :
    percentDecode (c :: rest) = charBytes c ++ percentDecode rest := by
  rw [percentDecode]
  rintro a b more rfl
  exact absurd rfl h

theorem percentDecode_percentByte (b : UInt8) (rest : List Char) :
    percentDecode (percentByte b ++ rest) = b :: percentDecode rest := by
  have hhigh : b.toNat / 16 < 16 := by
    have := b.toNat_lt
    omega
  have hlow : b.toNat % 16 < 16 := Nat.mod_lt _ (by decide)
  have hbyte : b.toNat / 16 * 16 + b.toNat % 16 = b.toNat := Nat.div_add_mod' b.toNat 16
  have hread : percentDecode (percentByte b ++ rest) =
      UInt8.ofNat (b.toNat / 16 * 16 + b.toNat % 16) :: percentDecode rest := by
    simp only [percentByte, List.cons_append, List.nil_append, percentDecode, digitOf?_upperDigit hhigh,
      digitOf?_upperDigit hlow]
  rw [hread, hbyte, UInt8.ofNat_toNat]

theorem percentDecode_flatMap_percentByte (bytes : List UInt8) (rest : List Char) :
    percentDecode (bytes.flatMap percentByte ++ rest) = bytes ++ percentDecode rest := by
  induction bytes with
  | nil => rfl
  | cons b more ih =>
    rw [List.flatMap_cons, List.append_assoc, percentDecode_percentByte, ih, List.cons_append]

theorem percentDecode_percentChar {escaped : Char → Bool} {c : Char} (h : c = '%' → escaped c = true)
    (rest : List Char) : percentDecode (percentChar escaped c ++ rest) = charBytes c ++ percentDecode rest := by
  unfold percentChar
  split
  case isTrue => exact percentDecode_flatMap_percentByte (charBytes c) rest
  case isFalse hplain =>
    refine percentDecode_cons ?_ rest
    rintro rfl
    simp [h rfl] at hplain

/-- A text is read back from its escaped form unless a percent sign of its own stands there unescaped. -/
theorem percentDecode_percentEncode {escaped : Char → Bool} {cs : List Char} (h : '%' ∈ cs → escaped '%' = true) :
    percentDecode (percentEncode escaped cs) = Text.encodeUtf8 (String.ofList cs) := by
  rw [← flatMap_charBytes]
  induction cs with
  | nil => rfl
  | cons c rest ih =>
    have hc : c = '%' → escaped c = true := by
      rintro rfl
      exact h List.mem_cons_self
    have hrest : '%' ∈ rest → escaped '%' = true := fun hmem => h (List.mem_cons_of_mem c hmem)
    rw [percentEncode, List.flatMap_cons, percentDecode_percentChar hc, List.flatMap_cons]
    exact congrArg (charBytes c ++ ·) (ih hrest)

/-! ## What is written -/

/-- A percent sign or one of the digits behind it. -/
def IsEscape (c : Char) : Prop := c = '%' ∨ ∃ n < 16, c = upperDigit n

theorem isEscape_of_mem_percentByte {b : UInt8} {c : Char} (h : c ∈ percentByte b) : IsEscape c := by
  have hb := b.toNat_lt
  simp only [percentByte, List.mem_cons, List.not_mem_nil, or_false] at h
  rcases h with rfl | rfl | rfl
  · exact Or.inl rfl
  · exact Or.inr ⟨_, by omega, rfl⟩
  · exact Or.inr ⟨_, Nat.mod_lt _ (by decide), rfl⟩

theorem mem_percentEncode {escaped : Char → Bool} {cs : List Char} {c : Char} (h : c ∈ percentEncode escaped cs) :
    c ∈ cs ∨ IsEscape c := by
  obtain ⟨d, hd, hc⟩ := List.mem_flatMap.mp h
  unfold percentChar at hc
  split at hc
  · obtain ⟨b, _, hb⟩ := List.mem_flatMap.mp hc
    exact Or.inr (isEscape_of_mem_percentByte hb)
  · rw [List.mem_singleton.mp hc]
    exact Or.inl hd

theorem percentChar_ne_nil (escaped : Char → Bool) (c : Char) : percentChar escaped c ≠ [] := by
  unfold percentChar
  split
  · obtain ⟨b, more, hbytes⟩ := List.exists_cons_of_ne_nil (charBytes_ne_nil c)
    rw [hbytes, List.flatMap_cons]
    exact List.append_ne_nil_of_left_ne_nil (List.cons_ne_nil _ _) _
  · exact List.cons_ne_nil _ _

theorem percentEncode_ne_nil {escaped : Char → Bool} {cs : List Char} (h : cs ≠ []) : percentEncode escaped cs ≠ [] := by
  obtain ⟨c, rest, rfl⟩ := List.exists_cons_of_ne_nil h
  exact List.append_ne_nil_of_left_ne_nil (percentChar_ne_nil escaped c) _

end OutOfBand.Url
