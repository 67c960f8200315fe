import OutOfBand.Proofs.Json.Decode
import OutOfBand.Proofs.Url.HostName
import OutOfBand.Proofs.Url.Root

/-! # Hosts with ports

A host with a colon and a port behind it is read as that host and that port if it is no authority of another kind: no at
sign parts it, and what would move the colon, another colon or a bracket left open, is in no host.
-/
namespace OutOfBand

/-! ## Ports -/

theorem digitsFrom?_eq {n : Nat} {cs : List Char} (h : ∀ c ∈ cs, c.isDigit = true) :
    digitsFrom? 10 n cs = some (Nat.ofDigitChars 10 cs n) := by
  induction cs generalizing n with
  | nil => rfl
  | cons c rest ih =>
    have hc := h c List.mem_cons_self
    have hdigit : digitOf? 10 c = some (c.toNat - 0x30) := by
      have hrange : 48 ≤ c.toNat ∧ c.toNat ≤ 57 := by simpa [Char.isDigit, UInt32.le_iff_toNat_le] using hc
      rw [digitOf?]
      simp only [hc, ↓reduceIte, Option.filter_some]
      rw [if_pos]
      simp only [decide_eq_true_eq]
      omega
    rw [digitsFrom?, hdigit]
    change digitsFrom? 10 (n * 10 + (c.toNat - 0x30)) rest = _
    rw [ih fun d hd => h d (List.mem_cons_of_mem c hd), Nat.mul_comm]
    rfl

theorem notMem_toDigits {c : Char} (hc : c.isDigit = false) (n : Nat) : c ∉ Nat.toDigits 10 n := by
  intro h
  rw [Nat.isDigit_of_mem_toDigits (by decide) (by decide) h] at hc
  cases hc

/-- A number is read back from its digits. -/
theorem whole?_toDigits (n : Nat) : whole? 10 (Nat.toDigits 10 n) = some n := by
  have hdigits : ∀ c ∈ Nat.toDigits 10 n, c.isDigit = true := fun c => Nat.isDigit_of_mem_toDigits (by decide) (by decide)
  rw [whole?, if_neg (by simp [Nat.toDigits_ne_nil]), digitsFrom?_eq hdigits, Nat.ofDigitChars_ten_toDigits]

namespace Url

/-- No colon, so no port behind it. -/
theorem splitPort_eq_self (inside : Bool) {cs : List Char} (h : ':' ∉ cs) : splitPort inside cs = (cs, none) := by
  induction cs generalizing inside with
  | nil => rfl
  | cons c rest ih =>
    have hc : ¬ (c = ':' ∧ (!inside) = true) := by
      rintro ⟨rfl, _⟩
      exact h List.mem_cons_self
    rw [splitPort, if_neg hc, ih _ fun hmem => h (List.mem_cons_of_mem c hmem)]

/-- The last colon parts host and port, unless an earlier one does or an open bracket keeps any from it. -/
theorem splitPort_append (inside : Bool) (host : List Char) {digits : List Char} (h : ':' ∉ digits) :
    splitPort inside (host ++ ':' :: digits) = (host, some digits) ∨
      (∃ front port, splitPort inside (host ++ ':' :: digits) = (front, some port) ∧ ':' ∈ port) ∨
      splitPort inside (host ++ ':' :: digits) = (host ++ ':' :: digits, none) := by
  induction host generalizing inside with
  | nil =>
    rw [List.nil_append, splitPort]
    split
    case isTrue => exact Or.inl rfl
    case isFalse =>
      rw [splitPort_eq_self _ h]
      exact Or.inr (Or.inr rfl)
  | cons c rest ih =>
    rw [List.cons_append, splitPort]
    split
    case isTrue => exact Or.inr (Or.inl ⟨[], _, rfl, by simp⟩)
    case isFalse =>
      rcases ih (if c = '[' then true else if c = ']' then false else inside) with
        hlast | ⟨front, port, hfirst, hcolon⟩ | hnone
      · rw [hlast]
        exact Or.inl rfl
      · rw [hfirst]
        exact Or.inr (Or.inl ⟨c :: front, port, rfl, hcolon⟩)
      · rw [hnone]
        exact Or.inr (Or.inr rfl)

theorem port?_eq_ok {scheme digits : List Char} {port : Option Nat} (hne : digits ≠ []) (h : port? scheme digits = .ok port) :
    ∃ n, whole? 10 digits = some n ∧ port.or (defaultPort? scheme) = some n := by
  unfold port? at h
  split at h
  case h_1 => exact absurd rfl hne
  case h_2 =>
    split at h
    case h_1 n hn =>
      split at h
      · cases h
      · cases h
        refine ⟨n, hn, ?_⟩
        split
        case isTrue hdefault => exact hdefault
        case isFalse => rfl
    case h_2 => cases h

/-! ## Authorities -/

/-- Without an at sign an authority is a host and a port. -/
theorem authorityOf_eq_ok {scheme text : List Char} {authority : Authority} (hscheme : (defaultPort? scheme).isSome = true)
    (hat : '@' ∉ text) (h : authorityOf scheme text = .ok authority) :
    ∃ host port, Host.ofChars (splitPort false text).1 = .ok host ∧
      port? scheme ((splitPort false text).2.getD []) = .ok port ∧ authority = ⟨[], none, host, port⟩ := by
  have hinfo : splitUserInfo text = (none, text) := by
    rw [splitUserInfo, if_neg (by simpa using hat)]
  have hparts : userInfoParts ((none : Option (List Char)).getD []) = ([], none) := rfl
  simp only [authorityOf, hinfo, hparts, hscheme, ↓reduceIte] at h
  obtain ⟨host, hhost, h⟩ := bind_eq_ok h
  split at hhost
  case isTrue => cases hhost
  case isFalse hne =>
    rw [if_neg (by simp [hne])] at h
    obtain ⟨port, hport, h⟩ := bind_eq_ok h
    cases h
    exact ⟨host, port, hhost, hport, rfl⟩

/-- A host with a port behind it. -/
def hostWithPort (host : List Char) (port : Nat) : List Char := host ++ ':' :: Nat.toDigits 10 port

theorem notMem_hostWithPort {c : Char} {host : List Char} (h : c ∉ host) (hdigit : c.isDigit = false) (hcolon : c ≠ ':')
    (port : Nat) : c ∉ hostWithPort host port := by
  rw [hostWithPort, List.mem_append, List.mem_cons, not_or, not_or]
  exact ⟨h, hcolon, notMem_toDigits hdigit port⟩

/-- Host and port are read as they were written. -/
theorem authorityOf_hostWithPort {scheme host : List Char} {port : Nat} {authority : Authority}
    (hscheme : (defaultPort? scheme).isSome = true) (hat : '@' ∉ host)
    (h : authorityOf scheme (hostWithPort host port) = .ok authority) :
    ∃ form shown, Host.ofChars host = .ok form ∧ shown.or (defaultPort? scheme) = some port ∧
      authority = ⟨[], none, form, shown⟩ := by
  obtain ⟨form, shown, hform, hport, rfl⟩ :=
    authorityOf_eq_ok hscheme (notMem_hostWithPort hat (by decide) (by decide) port) h
  have hne : Nat.toDigits 10 port ≠ [] := Nat.toDigits_ne_nil
  rcases splitPort_append false host (notMem_toDigits (by decide) port) with
    hlast | ⟨front, behind, hfirst, hmore⟩ | hopen
  · rw [hostWithPort, hlast] at hform hport
    obtain ⟨n, hn, hshown⟩ := port?_eq_ok hne hport
    have hsame : some port = some n := (whole?_toDigits port).symm.trans hn
    cases hsame
    exact ⟨form, shown, hform, hshown, rfl⟩
  · -- What is behind an earlier colon holds the last one, which is no digit.
    rw [hostWithPort, hfirst] at hport
    obtain ⟨n, hn, _⟩ := port?_eq_ok (List.ne_nil_of_mem hmore) hport
    exact absurd (digitOf?_of_whole? hn ':' hmore) (by decide)
  · -- A host that takes in the port has a colon in it and a digit at its end.
    rw [hostWithPort, hopen] at hform
    rcases Host.ofChars_eq_ok hform with ⟨inner, _, hbracket, _, _⟩ | hplain
    · have hend : [']'] <:+ host ++ ':' :: Nat.toDigits 10 port := ⟨'[' :: inner, hbracket.symm⟩
      have hdigits : Nat.toDigits 10 port <:+ host ++ ':' :: Nat.toDigits 10 port :=
        (List.suffix_cons ':' _).trans (List.suffix_append host _)
      have hsuffix := List.suffix_of_suffix_length_le hend hdigits (List.length_pos_iff.mpr hne)
      exact absurd (hsuffix.subset List.mem_cons_self) (notMem_toDigits (by decide) port)
    · exact absurd (List.mem_append_right host List.mem_cons_self) (hplain ':' (by decide))

/-! ## The whole -/

theorem isSolid_of_isDigit {c : Char} (h : c.isDigit = true) : isSolid c = true := by
  have hlow : 48 ≤ c.toNat := by
    simp only [Char.isDigit, Bool.and_eq_true, decide_eq_true_eq, UInt32.le_iff_toNat_le] at h
    exact h.1
  have hblank : isOuterBlank c = false := by
    simp only [isOuterBlank, decide_eq_false_iff_not]
    omega
  rw [isSolid, hblank]
  have hsign : c ∉ ['#', '?'] := by
    have hnone : ∀ d ∈ ['#', '?'], d.isDigit = false := forall_mem_of_all (by decide)
    intro hmem
    rw [hnone c hmem] at h
    cases h
  simpa using hsign

/-- Tabs and line breaks in the host do not count. -/
theorem significant_hostWithPort (host : List Char) (port : Nat) :
    (Text.dropEndWhile isOuterBlank (hostWithPort host port)).filter (!isInnerBlank ·) =
      hostWithPort (host.filter (!isInnerBlank ·)) port := by
  have hsolid : ∀ c ∈ Nat.toDigits 10 port, isSolid c = true :=
    fun c hc => isSolid_of_isDigit (Nat.isDigit_of_mem_toDigits (by decide) (by decide) hc)
  have hdigits : (Nat.toDigits 10 port).filter (!isInnerBlank ·) = Nat.toDigits 10 port := by
    rw [List.filter_eq_self]
    intro c hc
    rw [not_isInnerBlank (hsolid c hc), Bool.not_false]
  rw [hostWithPort, dropEndWhile_append_cons (by decide),
    Text.dropEndWhile_eq_self fun c hc => not_isOuterBlank (hsolid c hc), List.filter_append,
    List.filter_cons_of_pos (by decide), hdigits]
  rfl

/-- A text without slashes is all authority. -/
theorem behindSlashes_eq_ok {scheme text : List Char} {query fragment : Option (List Char)} {url : Url}
    (hscheme : isSpecial scheme = true) (htext : ∀ c ∈ text, isSlash true c = false)
    (h : behindSlashes scheme text query fragment = .ok url) :
    ∃ authority, authorityOf scheme text = .ok authority ∧
      url = ⟨scheme, some authority, .segments [[]], query, fragment⟩ := by
  have hall : ∀ c ∈ text, (!isSlash true c) = true := fun c hc => by rw [htext c hc, Bool.not_false]
  simp only [behindSlashes, hscheme, Text.takeWhile_eq_self hall, Text.dropWhile_eq_nil hall] at h
  obtain ⟨authority, hauthority, h⟩ := bind_eq_ok h
  cases h
  exact ⟨authority, hauthority, rfl⟩

end Url

end OutOfBand
