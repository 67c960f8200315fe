import OutOfBand.Text.Utf8

/-! # UTF-8 and back

A text is read back from its UTF-8 form. The reader takes a character in one step for each of its bytes: the first byte
says how many follow and in which range the second lies, and the range leaves out just the values that no character has.
-/
namespace OutOfBand.Text

/-! ## The bytes of a text -/

theorem toList_loop_eq (bytes : ByteArray) (i : Nat) (read : List UInt8) :
    ByteArray.toList.loop bytes i read = read.reverse ++ bytes.data.toList.drop i := by
  fun_induction ByteArray.toList.loop bytes i read with
  | case1 i read hi ih =>
    have hbyte : bytes.get! i = bytes.data.toList[i] := getElem!_pos bytes.data i hi
    rw [ih, hbyte, List.reverse_cons, List.append_assoc, List.singleton_append, ← List.drop_eq_getElem_cons hi]
  | case2 i read hi =>
    rw [List.drop_eq_nil_of_le (Nat.not_lt.mp hi), List.append_nil]

theorem encodeUtf8_eq_data (s : String) : encodeUtf8 s = s.toByteArray.data.toList := toList_loop_eq s.toByteArray 0 []

theorem encodeUtf8_eq_flatMap (s : String) : encodeUtf8 s = s.toList.flatMap String.utf8EncodeChar := by
  have hs : s.toByteArray = s.toList.utf8Encode := by
    rw [← String.toByteArray_ofList, String.ofList_toList]
  rw [encodeUtf8_eq_data, hs, List.utf8Encode, List.toList_data_toByteArray]

/-! ## One byte more -/

section

variable {bits m low high b : Nat} {rest : List UInt8}

theorem toNat_ofNat_of_lt (hb : b < 256) : (UInt8.ofNat b).toNat = b := UInt8.toNat_ofNat_of_lt' hb

theorem decodeFrom_single (hb : b < 0x80) :
    decodeFrom .start (UInt8.ofNat b :: rest) = Char.ofNat b :: decodeFrom .start rest := by
  rw [decodeFrom, toNat_ofNat_of_lt (by omega), Utf8State.step, Utf8State.first, if_pos hb]
  rfl

theorem decodeFrom_first {state : Utf8State} (hb : b < 256) (h : Utf8State.first b = ([], state)) :
    decodeFrom .start (UInt8.ofNat b :: rest) = decodeFrom state rest := by
  rw [decodeFrom, toNat_ofNat_of_lt hb, Utf8State.step, h]
  rfl

theorem decodeFrom_more (hb : b < 256) (h : low ≤ b ∧ b ≤ high) :
    decodeFrom (.within bits (m + 2) low high) (UInt8.ofNat b :: rest) =
      decodeFrom (.within (bits * 64 + b % 64) (m + 1) 0x80 0xBF) rest := by
  rw [decodeFrom, toNat_ofNat_of_lt hb, Utf8State.step, if_pos h, if_neg (by omega)]
  rfl

theorem decodeFrom_last (hb : b < 256) (h : low ≤ b ∧ b ≤ high) :
    decodeFrom (.within bits 1 low high) (UInt8.ofNat b :: rest) = Char.ofNat (bits * 64 + b % 64) :: decodeFrom .start rest := by
  rw [decodeFrom, toNat_ofNat_of_lt hb, Utf8State.step, if_pos h, if_pos (Nat.le_refl 1)]
  rfl

end

/-! ## One character -/

section

variable {n : Nat} (rest : List UInt8)

theorem decodeFrom_two (h : 0x7F < n ∧ n ≤ 0x7FF) :
    decodeFrom .start (UInt8.ofNat (n / 64 % 32 + 192) :: UInt8.ofNat (n % 64 + 128) :: rest) =
      Char.ofNat n :: decodeFrom .start rest := by
  have hfirst : Utf8State.first (n / 64 % 32 + 192) = ([], .within (n / 64) 1 0x80 0xBF) := by
    rw [Utf8State.first, if_neg (by omega), if_pos (by omega), show n / 64 % 32 + 192 - 0xC0 = n / 64 by omega]
  rw [decodeFrom_first (by omega) hfirst, decodeFrom_last (by omega) (by omega),
    show n / 64 * 64 + (n % 64 + 128) % 64 = n by omega]

theorem decodeFrom_three (h : 0x7FF < n ∧ n ≤ 0xFFFF) (hvalid : n < 0xD800 ∨ 0xDFFF < n) :
    decodeFrom .start (UInt8.ofNat (n / 4096 % 16 + 224) :: UInt8.ofNat (n / 64 % 64 + 128) :: UInt8.ofNat (n % 64 + 128) :: rest) =
      Char.ofNat n :: decodeFrom .start rest := by
  -- The range of the second byte leaves out what two bytes spell and the surrogates.
  obtain ⟨low, high, hfirst, hrange⟩ : ∃ low high,
      Utf8State.first (n / 4096 % 16 + 224) = ([], .within (n / 4096) 2 low high) ∧
        low ≤ n / 64 % 64 + 128 ∧ n / 64 % 64 + 128 ≤ high := by
    unfold Utf8State.first
    rw [if_neg (by omega), if_neg (by omega)]
    by_cases hzero : n / 4096 = 0
    · rw [if_pos (by omega), hzero]
      exact ⟨0xA0, 0xBF, rfl, by omega, by omega⟩
    rw [if_neg (by omega)]
    by_cases hsurrogate : n / 4096 = 0xD
    · rw [if_pos (by omega), hsurrogate]
      exact ⟨0x80, 0x9F, rfl, by omega, by omega⟩
    rw [if_neg (by omega), if_pos (by omega), show n / 4096 % 16 + 224 - 0xE0 = n / 4096 by omega]
    exact ⟨0x80, 0xBF, rfl, by omega, by omega⟩
  rw [decodeFrom_first (by omega) hfirst, decodeFrom_more (m := 0) (by omega) hrange,
    decodeFrom_last (by omega) (by omega),
    show (n / 4096 * 64 + (n / 64 % 64 + 128) % 64) * 64 + (n % 64 + 128) % 64 = n by omega]

theorem decodeFrom_four (h : 0xFFFF < n ∧ n < 0x110000) :
    decodeFrom .start (UInt8.ofNat (n / 262144 % 8 + 240) :: UInt8.ofNat (n / 4096 % 64 + 128) ::
        UInt8.ofNat (n / 64 % 64 + 128) :: UInt8.ofNat (n % 64 + 128) :: rest) =
      Char.ofNat n :: decodeFrom .start rest := by
  obtain ⟨low, high, hfirst, hrange⟩ : ∃ low high,
      Utf8State.first (n / 262144 % 8 + 240) = ([], .within (n / 262144) 3 low high) ∧
        low ≤ n / 4096 % 64 + 128 ∧ n / 4096 % 64 + 128 ≤ high := by
    unfold Utf8State.first
    rw [if_neg (by omega), if_neg (by omega), if_neg (by omega), if_neg (by omega), if_neg (by omega)]
    by_cases hzero : n / 262144 = 0
    · rw [if_pos (by omega), hzero]
      exact ⟨0x90, 0xBF, rfl, by omega, by omega⟩
    rw [if_neg (by omega)]
    by_cases hlast : n / 262144 = 4
    · rw [if_neg (by omega), if_pos (by omega), hlast]
      exact ⟨0x80, 0x8F, rfl, by omega, by omega⟩
    rw [if_pos (by omega), show n / 262144 % 8 + 240 - 0xF0 = n / 262144 by omega]
    exact ⟨0x80, 0xBF, rfl, by omega, by omega⟩
  rw [decodeFrom_first (by omega) hfirst, decodeFrom_more (m := 1) (by omega) hrange,
    decodeFrom_more (m := 0) (by omega) (by omega), decodeFrom_last (by omega) (by omega),
    show ((n / 262144 * 64 + (n / 4096 % 64 + 128) % 64) * 64 + (n / 64 % 64 + 128) % 64) * 64 + (n % 64 + 128) % 64 = n
      by omega]

end

theorem decodeFrom_utf8EncodeChar (c : Char) (rest : List UInt8) :
    decodeFrom .start (String.utf8EncodeChar c ++ rest) = c :: decodeFrom .start rest := by
  have hvalid : c.toNat < 0xD800 ∨ 0xDFFF < c.toNat ∧ c.toNat < 0x110000 := c.valid
  have hself : Char.ofNat c.val.toNat = c := Char.ofNat_toNat c
  rw [← Char.toNat_val] at hvalid
  conv => rhs; rw [← hself]
  unfold String.utf8EncodeChar
  dsimp only
  split
  case isTrue hone => exact decodeFrom_single (by omega)
  case isFalse hone =>
  split
  case isTrue htwo => exact decodeFrom_two rest (by omega)
  case isFalse htwo =>
  split
  case isTrue hthree => exact decodeFrom_three rest (by omega) (by omega)
  case isFalse hthree => exact decodeFrom_four rest (by omega)

/-- Every text is read back from its UTF-8 form. -/
theorem decodeUtf8_encodeUtf8 (s : String) : decodeUtf8 (encodeUtf8 s) = s := by
  have hchars : ∀ cs : List Char, decodeFrom .start (cs.flatMap String.utf8EncodeChar) = cs := by
    intro cs
    induction cs with
    | nil => rfl
    | cons c rest ih => rw [List.flatMap_cons, decodeFrom_utf8EncodeChar, ih]
  rw [decodeUtf8, encodeUtf8_eq_flatMap, hchars, String.ofList_toList]

end OutOfBand.Text
