import Mathlib.Tactic.IntervalCases
import OutOfBand.Json.Reader
import OutOfBand.Json.Writer

/-! # Numbers and strings read back

What is written for a whole number or for a text is read as that number or that text, whatever comes behind it. A number
ends where neither a digit nor a point nor an exponent goes on; a text ends at its closing quote.
-/
namespace OutOfBand.Json

/-! ## Digits -/

theorem le_ofDigitChars (cs : List Char) (n : Nat) : n ≤ Nat.ofDigitChars 10 cs n := by
  induction cs generalizing n with
  | nil => exact Nat.le_refl n
  | cons c rest ih =>
    have hrest := ih (10 * n + (c.toNat - '0'.toNat))
    rw [Nat.ofDigitChars_cons]
    omega

/-- Digits are taken as long as the number fits, so all of them if it does as a whole. -/
theorem takeDigits_append {digits rest : List Char} {n : Nat} (count : Nat) (hdigits : ∀ c ∈ digits, c.isDigit = true)
    (hrest : startsWithDigit rest = false) (hfits : Nat.ofDigitChars 10 digits n < Nat.pow 2 64) :
    takeDigits n count (digits ++ rest) = (Nat.ofDigitChars 10 digits n, count + digits.length, rest) := by
  induction digits generalizing n count with
  | nil =>
    cases rest with
    | nil => rfl
    | cons c rest =>
      have hc : c.isDigit = false := hrest
      rw [List.nil_append, takeDigits, hc]
      rfl
  | cons c digits ih =>
    have hc := hdigits c List.mem_cons_self
    have hstep : n * 10 + digitValue c = 10 * n + (c.toNat - '0'.toNat) := by rw [Nat.mul_comm]; rfl
    rw [Nat.ofDigitChars_cons, ← hstep] at hfits
    have hnext := Nat.lt_of_le_of_lt (le_ofDigitChars digits _) hfits
    rw [List.cons_append, takeDigits, if_pos (by rw [hc, Bool.true_and, decide_eq_true hnext]),
      ih (count + 1) (fun d hd => hdigits d (List.mem_cons_of_mem c hd)) hfits, Nat.ofDigitChars_cons, ← hstep,
      List.length_cons, Nat.add_right_comm, Nat.add_assoc]

theorem toDigits_cons (n : Nat) :
    ∃ c digits, Nat.toDigits 10 n = c :: digits ∧ ∀ d ∈ c :: digits, d.isDigit = true := by
  have hdigits : ∀ d ∈ Nat.toDigits 10 n, d.isDigit = true := fun d => Nat.isDigit_of_mem_toDigits (by decide) (by decide)
  cases hwritten : Nat.toDigits 10 n with
  | nil => exact absurd hwritten Nat.toDigits_ne_nil
  | cons c digits => exact ⟨c, digits, rfl, hwritten ▸ hdigits⟩

theorem ne_of_isDigit {c d : Char} (hc : c.isDigit = true) (hd : d.isDigit = false) : c ≠ d := by
  rintro rfl
  rw [hc] at hd
  cases hd

/-- Only zero is written with a zero in front. -/
theorem head?_toDigits {n : Nat} (h : 0 < n) : (Nat.toDigits 10 n).head? ≠ some '0' := by
  induction n using Nat.strongRecOn with
  | ind n ih =>
    by_cases hn : n < 10
    · rw [Nat.toDigits_of_lt_base hn]
      interval_cases n <;> decide
    · have hlast := Nat.toDigits_of_base_le (by decide : 1 < 10) (Nat.le_of_not_lt hn)
      have hne : Nat.toDigits 10 (n / 10) ≠ [] := Nat.toDigits_ne_nil
      obtain ⟨c, hc⟩ := Option.isSome_iff_exists.mp (List.isSome_head?.mpr hne)
      rw [hlast, List.head?_append, hc, Option.some_or, ← hc]
      exact ih (n / 10) (by omega) (by omega)

/-! ## Whole numbers -/

/-- No number that stands in front of this text goes on in it. -/
def EndsNumber (rest : List Char) : Prop :=
  ∀ c ∈ rest.head?, c.isDigit = false ∧ c ≠ '.' ∧ c ≠ 'e' ∧ c ≠ 'E'

theorem EndsNumber.startsWithDigit {rest : List Char} (h : EndsNumber rest) : startsWithDigit rest = false := by
  cases rest with
  | nil => rfl
  | cons c rest => exact (h c rfl).1

theorem readAfterWhole_of_ends {rest : List Char} (h : EndsNumber rest) (positive : Bool) (n : Nat) :
    readAfterWhole positive n rest = .ok (wholeNumeral positive n, rest) := by
  unfold readAfterWhole
  split
  · exact absurd rfl (h _ rfl).2.1
  · exact absurd rfl (h _ rfl).2.2.1
  · exact absurd rfl (h _ rfl).2.2.2
  · rfl

/-- The digits of a number below `2 ^ 64` are read as that number. -/
theorem readNumber_toDigits {n : Nat} {rest : List Char} (positive : Bool) (hn : n < Nat.pow 2 64) (hrest : EndsNumber rest) :
    readNumber positive (Nat.toDigits 10 n ++ rest) = .ok (wholeNumeral positive n, rest) := by
  have hvalue : Nat.ofDigitChars 10 (Nat.toDigits 10 n) 0 = n := Nat.ofDigitChars_ten_toDigits
  cases n with
  | zero =>
    have hzero : Nat.toDigits 10 0 = ['0'] := rfl
    rw [hzero, List.singleton_append, readNumber, if_pos rfl, hrest.startsWithDigit, if_neg Bool.false_ne_true,
      readAfterWhole_of_ends hrest]
  | succ n =>
    have hhead := head?_toDigits (Nat.succ_pos n)
    obtain ⟨c, digits, hwritten, hdigits⟩ := toDigits_cons (n + 1)
    rw [hwritten] at hvalue hhead ⊢
    have hc : c ≠ '0' := fun hc => hhead (congrArg some hc)
    have hfirst : 10 * 0 + (c.toNat - '0'.toNat) = digitValue c := Nat.zero_add _
    rw [Nat.ofDigitChars_cons, hfirst] at hvalue
    have htaken := takeDigits_append 1 (fun d hd => hdigits d (List.mem_cons_of_mem c hd)) hrest.startsWithDigit
      (hvalue.symm ▸ hn)
    rw [List.cons_append, readNumber, if_neg hc, if_pos (hdigits c List.mem_cons_self)]
    simp only [htaken, hrest.startsWithDigit, hvalue, readAfterWhole_of_ends hrest]
    rfl

/-! ## Texts -/

theorem fourHex?_control {n : Nat} (h : n < 0x20) (rest : List Char) :
    fourHex? ('0' :: '0' :: Text.hexDigit (n / 16) :: Text.hexDigit (n % 16) :: rest) = some (n, rest) := by
  interval_cases n <;> rfl

theorem readEscape_control {c : Char} (h : c.toNat < 0x20) (rest : List Char) :
    readEscape ('u' :: '0' :: '0' :: Text.hexDigit (c.toNat / 16) :: Text.hexDigit (c.toNat % 16) :: rest) =
      .ok (c, rest) := by
  have hread : readFourHex ('0' :: '0' :: Text.hexDigit (c.toNat / 16) :: Text.hexDigit (c.toNat % 16) :: rest) =
      .ok (c.toNat, rest) := by
    rw [readFourHex, fourHex?_control h]
  have hletter : readEscape ('u' :: '0' :: '0' :: Text.hexDigit (c.toNat / 16) :: Text.hexDigit (c.toNat % 16) :: rest) =
      readUnicodeEscape ('0' :: '0' :: Text.hexDigit (c.toNat / 16) :: Text.hexDigit (c.toNat % 16) :: rest) := rfl
  have hlow : ¬ (0xDC00 ≤ c.toNat ∧ c.toNat ≤ 0xDFFF) := by omega
  have hplain : c.toNat < 0xD800 ∨ 0xDBFF < c.toNat := by omega
  rw [hletter, readUnicodeEscape, hread]
  change (if 0xDC00 ≤ c.toNat ∧ c.toNat ≤ 0xDFFF then faultAt .loneSurrogate rest else _) = _
  rw [if_neg hlow, if_pos hplain, Char.ofNat_toNat]

/-- What is written for one character of a text is read as that character. -/
theorem readString_escapeChar (c : Char) (fuel : Nat) (seen rest : List Char) :
    readString (fuel + 1) seen (escapeChar c ++ rest) = readString fuel (c :: seen) rest := by
  unfold escapeChar
  split_ifs with hquote hslash hline hreturn htab hback hfeed hcontrol
  · subst hquote
    rfl
  · subst hslash
    rfl
  · subst hline
    rfl
  · subst hreturn
    rfl
  · subst htab
    rfl
  · subst hback
    rfl
  · subst hfeed
    rfl
  · have hescape : readString (fuel + 1) seen
        ('\\' :: 'u' :: '0' :: '0' :: Text.hexDigit (c.toNat / 16) :: Text.hexDigit (c.toNat % 16) :: rest) =
        (readEscape ('u' :: '0' :: '0' :: Text.hexDigit (c.toNat / 16) :: Text.hexDigit (c.toNat % 16) :: rest) >>=
          fun read => readString fuel (read.1 :: seen) read.2) := rfl
    exact hescape.trans (by rw [readEscape_control hcontrol]; rfl)
  · rw [List.singleton_append, readString, if_neg hquote, if_neg hslash, if_neg hcontrol]

theorem length_le_escaped (cs : List Char) : cs.length ≤ (cs.flatMap escapeChar).length := by
  induction cs with
  | nil => exact Nat.le_refl 0
  | cons c cs ih =>
    have hne : 0 < (escapeChar c).length := by
      rw [List.length_pos_iff]
      unfold escapeChar
      split_ifs <;> exact List.cons_ne_nil _ _
    rw [List.flatMap_cons, List.length_append, List.length_cons]
    omega

theorem readString_escaped (cs : List Char) {fuel : Nat} (seen rest : List Char) (h : cs.length < fuel) :
    readString fuel seen (cs.flatMap escapeChar ++ '"' :: rest) = .ok (String.ofList (seen.reverse ++ cs), rest) := by
  induction cs generalizing fuel seen with
  | nil =>
    cases fuel with
    | zero => cases h
    | succ fuel =>
      rw [List.append_nil]
      rfl
  | cons c cs ih =>
    cases fuel with
    | zero => cases h
    | succ fuel =>
      rw [List.flatMap_cons, List.append_assoc, readString_escapeChar, ih (c :: seen) (Nat.lt_of_succ_lt_succ h),
        List.reverse_cons, List.append_assoc, List.singleton_append]

/-- A text behind its opening quote. -/
def behindQuote (s : String) (rest : List Char) : List Char := s.toList.flatMap escapeChar ++ '"' :: rest

theorem renderString_append (s : String) (rest : List Char) : renderString s ++ rest = '"' :: behindQuote s rest := by
  rw [renderString, List.cons_append, List.append_assoc, List.singleton_append]
  rfl

/-- A text is read back. -/
theorem readString_behindQuote (s : String) (rest : List Char) :
    readString ((behindQuote s rest).length + 1) [] (behindQuote s rest) = .ok (s, rest) := by
  have hlength := length_le_escaped s.toList
  have hfuel : s.toList.length < (behindQuote s rest).length + 1 := by
    rw [behindQuote, List.length_append]
    omega
  rw [behindQuote] at hfuel ⊢
  rw [readString_escaped s.toList [] rest hfuel, List.reverse_nil, List.nil_append, String.ofList_toList]

/-- Nothing below the space is written for a character. -/
theorem not_control_escapeChar (c : Char) : ∀ d ∈ escapeChar c, 0x20 ≤ d.toNat := by
  unfold escapeChar
  split_ifs with hquote hslash hline hreturn htab hback hfeed hcontrol
  · simp
  · simp
  · simp
  · simp
  · simp
  · simp
  · simp
  · have hdigit : ∀ n < 16, 0x20 ≤ (Text.hexDigit n).toNat := by decide
    have hhigh := hdigit (c.toNat / 16) (by omega)
    have hlow := hdigit (c.toNat % 16) (by omega)
    simp [hhigh, hlow]
  · intro d hd
    rw [List.mem_singleton.mp hd]
    exact Nat.le_of_not_lt hcontrol

end OutOfBand.Json
