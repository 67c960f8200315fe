import OutOfBand.Proofs.Text.Normal
import OutOfBand.Proofs.Url.Percent
import OutOfBand.Url.Host

/-! # What no host name holds

The characters that delimit the parts of a URL are in no host that is read, neither plainly nor behind a coded label: the
plain form of a name keeps them, and no label may hold one. Only an address of version 6 has colons, and the brackets
around it.
-/
namespace OutOfBand

/-! ## Parts of a text -/

theorem Text.mem_splitOn {p : Char → Bool} {c : Char} {cs : List Char} (h : c ∈ cs) (hc : p c = false) :
    ∃ part ∈ splitOn p cs, c ∈ part := by
  induction cs with
  | nil => cases h
  | cons d rest ih =>
    rcases List.mem_cons.mp h with rfl | hrest
    · unfold splitOn
      rw [hc, if_neg Bool.false_ne_true]
      split
      · exact ⟨[c], List.mem_cons_self, List.mem_cons_self⟩
      · exact ⟨_, List.mem_cons_self, List.mem_cons_self⟩
    obtain ⟨part, hpart, hmem⟩ := ih hrest
    unfold splitOn
    split
    · exact ⟨part, List.mem_cons_of_mem [] hpart, hmem⟩
    split
    case h_1 hnil => rw [hnil] at hpart; cases hpart
    case h_2 first parts hsplit =>
      rw [hsplit] at hpart
      rcases List.mem_cons.mp hpart with rfl | hparts
      · exact ⟨d :: part, List.mem_cons_self, List.mem_cons_of_mem d hmem⟩
      · exact ⟨part, List.mem_cons_of_mem _ hparts, hmem⟩

/-- A byte of the first half stands for one character only. -/
theorem Text.toNat_eq_of_mem_utf8EncodeChar {b : UInt8} {c : Char} (h : b ∈ String.utf8EncodeChar c) (hb : b.toNat < 0x80) :
    b.toNat = c.toNat := by
  have hlong : ∀ n, 0x80 ≤ n → n < 256 → b ≠ UInt8.ofNat n := by
    rintro n hn hn' rfl
    rw [Text.toNat_ofNat_of_lt hn'] at hb
    omega
  unfold String.utf8EncodeChar at h
  dsimp only at h
  split at h
  case isTrue hone =>
    rw [List.mem_singleton.mp h, Text.toNat_ofNat_of_lt (by omega)]
    rfl
  case isFalse =>
  split at h
  case isTrue =>
    simp only [List.mem_cons, List.not_mem_nil, or_false] at h
    rcases h with h | h <;> exact absurd h (hlong _ (by omega) (by omega))
  case isFalse =>
  split at h
  case isTrue =>
    simp only [List.mem_cons, List.not_mem_nil, or_false] at h
    rcases h with h | h | h <;> exact absurd h (hlong _ (by omega) (by omega))
  case isFalse =>
    simp only [List.mem_cons, List.not_mem_nil, or_false] at h
    rcases h with h | h | h | h <;> exact absurd h (hlong _ (by omega) (by omega))

namespace Url

/-- What ends a part of a URL or is left out when it is read. -/
def delimiters : List Char := ['\t', '\n', '\r', '#', '/', ':', '?', '@', '[', '\\', ']']

variable {c : Char}

/-! ## The plain form keeps delimiters -/

/-- No word of the line composes a delimiter. -/
def composesNone (line : List Char) : Bool :=
  (Text.splitOn (· == ' ') line).all (fun word =>
    (Text.Run.ofChars word).values.all (fun value => !delimiters.contains (Char.ofNat value)))

theorem composesNone_of_mem_pairLines : ∀ line ∈ Text.pairLines, composesNone line.toList = true := by
  simp only [Text.pairLines, List.forall_mem_cons, List.not_mem_nil, false_implies, implies_true, and_true]
  and_intros
  -- Line by line, with the characters of each written out: the kernel takes long over a string literal.
  all_goals
    rw [String.toList_ofList]
    decide +kernel

theorem ofNat_notMem_delimiters {run : Text.Run} (h : run ∈ Text.Run.ofLines Text.pairLines) {value : Nat}
    (hvalue : value ∈ run.values) : Char.ofNat value ∉ delimiters := by
  obtain ⟨line, hline, hrun⟩ := List.mem_flatMap.mp h
  obtain ⟨word, hword, rfl⟩ := List.mem_map.mp hrun
  have hnone := List.all_eq_true.mp (composesNone_of_mem_pairLines line hline) word hword
  simpa using List.all_eq_true.mp hnone value hvalue

theorem standsAlone_of_mem_delimiters (hc : c ∈ delimiters) : Text.StandsAlone c := by
  have hlow : ∀ d ∈ delimiters, d.toNat < 0xC0 := forall_mem_of_all (by decide)
  have hparts : ∀ entry ∈ Text.compositions, entry.base ∉ delimiters ∧ entry.mark ∉ delimiters := by
    intro entry hentry
    obtain ⟨run, hrun, hof⟩ := List.mem_filterMap.mp hentry
    unfold Text.Composition.ofRun at hof
    split at hof
    case h_1 base mark hvalues =>
      cases hof
      exact ⟨ofNat_notMem_delimiters hrun (by simp [hvalues]), ofNat_notMem_delimiters hrun (by simp [hvalues])⟩
    case h_2 => cases hof
  refine ⟨hlow c hc, fun entry hentry => ?_, fun entry hentry => ?_⟩
  · rintro rfl
    exact (hparts entry hentry).1 hc
  · rintro rfl
    exact (hparts entry hentry).2 hc

theorem mem_plainName (hc : c ∈ delimiters) {name : List Char} (h : c ∈ name) : c ∈ plainName name := by
  have hsame : ∀ d ∈ delimiters, Text.isAscii d = true ∧ Text.asciiLower d = d := forall_mem_of_all (by decide)
  obtain ⟨hascii, hlower⟩ := hsame c hc
  unfold plainName
  split
  · exact List.mem_map.mpr ⟨c, h, hlower⟩
  · refine (standsAlone_of_mem_delimiters hc).mem_normalForm (List.mem_flatMap.mpr ⟨c, h, ?_⟩)
    rw [plainChar, if_pos hascii, hlower]
    exact List.mem_singleton_self c

/-! ## No label holds one -/

namespace Punycode

/-- What a decoder puts in comes beside what is there. -/
theorem Decoder.mem_of_put {d next : Decoder} {distance : Nat} (h : d.put distance = some next) (hc : c ∈ d.label) :
    c ∈ next.label := by
  simp only [Decoder.put] at h
  split at h
  · cases h
    rw [← List.take_append_drop ((d.place + distance) % (d.label.length + 1)) d.label, List.mem_append] at hc
    simp only [insertAt, List.mem_append, List.mem_cons]
    rcases hc with hfront | hback
    · exact Or.inl hfront
    · exact Or.inr (Or.inr hback)
  · cases h

/-- A decoder that comes to an end has read digits only and has kept what it began with. -/
theorem Decoder.run_some {d last : Decoder} {position weight distance : Nat} {cs : List Char}
    (h : d.run position weight distance cs = some last) :
    (∀ c ∈ cs, digitOf? c ≠ none) ∧ ∀ c ∈ d.label, c ∈ last.label := by
  induction cs generalizing d position weight distance with
  | nil =>
    unfold Decoder.run at h
    split at h
    · cases h
      exact ⟨fun c hc => (by cases hc), fun c hc => hc⟩
    · cases h
  | cons c rest ih =>
    obtain ⟨digit, hdigit, h⟩ := Option.bind_eq_some_iff.mp h
    have hfirst : digitOf? c ≠ none := by simp [hdigit]
    obtain ⟨hrest, hkept⟩ : (∀ c ∈ rest, digitOf? c ≠ none) ∧ ∀ c ∈ d.label, c ∈ last.label := by
      dsimp only at h
      split at h
      · obtain ⟨next, hput, h⟩ := Option.bind_eq_some_iff.mp h
        exact ⟨(ih h).1, fun c hc => (ih h).2 c (Decoder.mem_of_put hput hc)⟩
      · exact ih h
    exact ⟨List.forall_mem_cons.mpr ⟨hfirst, hrest⟩, hkept⟩

/-- A character that is no digit and no hyphen is in what is decoded if it is in the code. -/
theorem mem_of_decode {code label : List Char} (h : decode code = some label) (hc : c ∈ code) (hdigit : digitOf? c = none)
    (hhyphen : c ≠ '-') : c ∈ label := by
  simp only [decode] at h
  split at h
  case isTrue =>
    obtain ⟨last, hrun, rfl⟩ := Option.map_eq_some_iff.mp h
    obtain ⟨hdigits, hkept⟩ := Decoder.run_some hrun
    refine hkept c ?_
    -- The code is the digits behind the last hyphen, and what stands in front of it.
    have hsplit : code = (code.reverse.dropWhile (· != '-')).reverse ++ (code.reverse.takeWhile (· != '-')).reverse := by
      rw [← List.reverse_append, List.takeWhile_append_dropWhile, List.reverse_reverse]
    have htail : c ∉ (code.reverse.takeWhile (· != '-')).reverse := fun hmem => hdigits c hmem hdigit
    generalize (code.reverse.takeWhile (· != '-')).reverse = tail at *
    cases hfront : code.reverse.dropWhile (· != '-') with
    | nil =>
      rw [hfront, List.reverse_nil, List.nil_append] at hsplit
      exact absurd (hsplit ▸ hc) htail
    | cons d front =>
      have hd : d = '-' := by
        have hhead := List.head?_dropWhile_not (· != '-') code.reverse
        rw [hfront] at hhead
        simpa using hhead
      rw [hfront, hd, List.reverse_cons, List.append_assoc, List.singleton_append] at hsplit
      have hlength : code.length - tail.length - 1 = front.reverse.length := by
        rw [hsplit, List.length_append, List.length_cons]
        omega
      rw [hlength, hsplit, List.take_left]
      rw [hsplit, List.mem_append, List.mem_cons] at hc
      exact hc.resolve_right (not_or.mpr ⟨hhyphen, htail⟩)
  case isFalse => cases h

end Punycode

theorem isValidLabel_eq_false (hc : c ∈ delimiters) {label : List Char} (h : c ∈ label) : isValidLabel label = false := by
  have hforbidden : ∀ d ∈ delimiters, (Text.isAscii d && isForbiddenInDomain d) = true := forall_mem_of_all (by decide)
  obtain ⟨hascii, hnot⟩ := Bool.and_eq_true_iff.mp (hforbidden c hc)
  rw [Bool.eq_false_iff]
  intro hvalid
  simp only [isValidLabel, Bool.and_eq_true] at hvalid
  have hallowed := List.all_eq_true.mp hvalid.1.1 c h
  rw [if_pos hascii, hnot] at hallowed
  cases hallowed

theorem shown?_eq_none (hc : c ∈ delimiters) {label : List Char} (h : c ∈ label) : shown? label = none := by
  unfold shown?
  split
  case isTrue hcoded =>
    split
    case isTrue =>
      have hsigns : ∀ d ∈ delimiters, d ∉ codeMark ∧ Punycode.digitOf? d = none ∧ d ≠ '-' :=
        forall_mem_of_all (by decide)
      obtain ⟨hmark, hdigit, hhyphen⟩ := hsigns c hc
      rw [Option.filter_eq_none_iff]
      intro shown hshown
      have hcode : c ∈ label.drop codeMark.length := by
        obtain ⟨code, rfl⟩ := List.isPrefixOf_iff_prefix.mp hcoded
        rw [List.drop_left]
        exact (List.mem_append.mp h).resolve_left hmark
      obtain ⟨decoded, hdecode, hsome⟩ := Option.bind_eq_some_iff.mp hshown
      split at hsome
      · cases hsome
      · cases hsome
        rw [isValidLabel_eq_false hc (Punycode.mem_of_decode hdecode hcode hdigit hhyphen)]
        exact Bool.false_ne_true
    case isFalse => rfl
  case isFalse => rw [isValidLabel_eq_false hc h, if_neg Bool.false_ne_true]

theorem mapM_eq_none {α β : Type} {f : α → Option β} {a : α} {l : List α} (h : a ∈ l) (ha : f a = none) :
    l.mapM f = none := by
  induction l with
  | nil => cases h
  | cons b rest ih =>
    rw [List.mapM_cons]
    rcases List.mem_cons.mp h with rfl | hrest
    · rw [ha]
      rfl
    · rw [ih hrest]
      cases f b <;> rfl

theorem asciiDomain?_eq_none (hc : c ∈ delimiters) {name : List Char} (h : c ∈ name) : asciiDomain? name = none := by
  have hdot : ∀ d ∈ delimiters, (d == '.') = false := forall_mem_of_all (by decide)
  obtain ⟨label, hlabel, hmem⟩ := Text.mem_splitOn (p := (· == '.')) (mem_plainName hc h) (hdot c hc)
  have hlabels := mapM_eq_none hlabel (shown?_eq_none hc hmem)
  simp only [asciiDomain?, hlabels]
  rfl

/-! ## The bytes of a name keep them -/

theorem mem_percentDecode (hc : c ∈ delimiters) {cs : List Char} (h : c ∈ cs) : UInt8.ofNat c.toNat ∈ percentDecode cs := by
  have hsigns : ∀ d ∈ delimiters, d ≠ '%' ∧ digitOf? 16 d = none ∧ UInt8.ofNat d.toNat ∈ charBytes d :=
    forall_mem_of_all (by decide +kernel)
  obtain ⟨hpercent, hdigit, hbyte⟩ := hsigns c hc
  fun_induction percentDecode cs with
  | case1 => cases h
  | case2 a b rest x y hx hy ih =>
    rcases List.mem_cons.mp h with rfl | h
    · exact absurd rfl hpercent
    rcases List.mem_cons.mp h with rfl | h
    · exact absurd hdigit (by simp [hy])
    rcases List.mem_cons.mp h with rfl | h
    · exact absurd hdigit (by simp [hx])
    · exact List.mem_cons_of_mem _ (ih h)
  | case3 a b rest _ ih =>
    rcases List.mem_cons.mp h with rfl | h
    · exact absurd rfl hpercent
    · exact List.mem_append_right _ (ih h)
  | case4 d rest _ ih =>
    rcases List.mem_cons.mp h with rfl | h
    · exact List.mem_append_left _ hbyte
    · exact List.mem_append_right _ (ih h)

theorem mem_decodeUtf8 (hc : c ∈ delimiters) {bytes : List UInt8} (h : UInt8.ofNat c.toNat ∈ bytes)
    (hvalid : Text.isUtf8 bytes = true) : c ∈ (Text.decodeUtf8 bytes).toList := by
  have hlow : ∀ d ∈ delimiters, d.toNat < 0x80 := forall_mem_of_all (by decide)
  have hbyte : (UInt8.ofNat c.toNat).toNat = c.toNat := Text.toNat_ofNat_of_lt (by have := hlow c hc; omega)
  rw [Text.isUtf8, beq_iff_eq, Text.encodeUtf8_eq_flatMap] at hvalid
  rw [← hvalid] at h
  obtain ⟨d, hd, hmem⟩ := List.mem_flatMap.mp h
  have hsame := Text.toNat_eq_of_mem_utf8EncodeChar hmem (by rw [hbyte]; exact hlow c hc)
  rw [hbyte, Char.toNat_inj] at hsame
  rw [hsame, hvalid] at *
  exact hd

/-! ## Addresses -/

/-- What an address of version 6 is written with. -/
def InAddress (c : Char) : Prop := (digitOf? 16 c).isSome = true ∨ c = ':' ∨ c = '.'

theorem digitOf?_of_whole? {base n : Nat} {cs : List Char} (h : whole? base cs = some n) :
    ∀ c ∈ cs, (digitOf? base c).isSome = true := by
  have hfrom : ∀ (start : Nat), digitsFrom? base start cs = some n → ∀ c ∈ cs, (digitOf? base c).isSome = true := by
    clear h
    induction cs with
    | nil => exact fun _ _ c hc => by cases hc
    | cons d rest ih =>
      intro start h
      obtain ⟨digit, hdigit, h⟩ := Option.bind_eq_some_iff.mp h
      exact List.forall_mem_cons.mpr ⟨by rw [hdigit]; rfl, ih _ h⟩
  unfold whole? at h
  split at h
  · cases h
  · exact hfrom 0 h

theorem inAddress_of_byte? {cs : List Char} {n : Nat} (h : byte? cs = some n) : ∀ c ∈ cs, InAddress c := by
  unfold byte? at h
  split at h
  case isTrue =>
    intro c hc
    have hdecimal := digitOf?_of_whole? (Option.filter_eq_some_iff.mp h).1 c hc
    obtain ⟨digit, hdigit⟩ := Option.isSome_iff_exists.mp hdecimal
    obtain ⟨hvalue, hsmall⟩ := Option.filter_eq_some_iff.mp hdigit
    refine Or.inl (Option.isSome_iff_exists.mpr ⟨digit, Option.filter_eq_some_iff.mpr ⟨hvalue, ?_⟩⟩)
    simp only [decide_eq_true_eq] at hsmall ⊢
    omega
  case isFalse => cases h

theorem inAddress_of_hexPiece? {cs : List Char} {n : Nat} (h : hexPiece? cs = some n) : ∀ c ∈ cs, InAddress c := by
  unfold hexPiece? at h
  split at h
  · exact fun c hc => Or.inl (digitOf?_of_whole? h c hc)
  · cases h

theorem inAddress_of_dottedPieces? {cs : List Char} {pieces : List Nat} (h : dottedPieces? cs = some pieces) :
    ∀ c ∈ cs, InAddress c := by
  intro c hc
  by_cases hdot : c = '.'
  · exact Or.inr (Or.inr hdot)
  obtain ⟨part, hpart, hmem⟩ := Text.mem_splitOn (p := (· == '.')) hc (by simpa using hdot)
  unfold dottedPieces? at h
  split at h
  case h_1 first second third fourth hsplit =>
    rw [hsplit] at hpart
    obtain ⟨a, ha, h⟩ := Option.bind_eq_some_iff.mp h
    obtain ⟨b, hb, h⟩ := Option.bind_eq_some_iff.mp h
    obtain ⟨d, hd, h⟩ := Option.bind_eq_some_iff.mp h
    obtain ⟨e, he, h⟩ := Option.bind_eq_some_iff.mp h
    simp only [List.mem_cons, List.not_mem_nil, or_false] at hpart
    rcases hpart with rfl | rfl | rfl | rfl
    · exact inAddress_of_byte? ha c hmem
    · exact inAddress_of_byte? hb c hmem
    · exact inAddress_of_byte? hd c hmem
    · exact inAddress_of_byte? he c hmem
  case h_2 => cases h

theorem inAddress_of_piecesOf? {dotted : Bool} {parts : List (List Char)} {pieces : List Nat}
    (h : piecesOf? dotted parts = some pieces) : ∀ part ∈ parts, ∀ c ∈ part, InAddress c := by
  fun_induction piecesOf? dotted parts generalizing pieces with
  | case1 => exact fun part hpart => by cases hpart
  | case2 last _ => exact List.forall_mem_singleton.mpr (inAddress_of_dottedPieces? h)
  | case3 last _ =>
    obtain ⟨n, hn, _⟩ := Option.map_eq_some_iff.mp h
    exact List.forall_mem_singleton.mpr (inAddress_of_hexPiece? hn)
  | case4 piece rest _ ih =>
    obtain ⟨n, hn, h⟩ := Option.bind_eq_some_iff.mp h
    obtain ⟨more, hmore, _⟩ := Option.bind_eq_some_iff.mp h
    exact List.forall_mem_cons.mpr ⟨inAddress_of_hexPiece? hn, ih hmore⟩

theorem inAddress_of_pieces? {dotted : Bool} {cs : List Char} {pieces : List Nat} (h : pieces? dotted cs = some pieces) :
    ∀ c ∈ cs, InAddress c := by
  intro c hc
  by_cases hcolon : c = ':'
  · exact Or.inr (Or.inl hcolon)
  obtain ⟨part, hpart, hmem⟩ := Text.mem_splitOn (p := (· == ':')) hc (by simpa using hcolon)
  unfold pieces? at h
  split at h
  case isTrue hnil =>
    rw [List.isEmpty_iff.mp hnil] at hc
    cases hc
  case isFalse => exact inAddress_of_piecesOf? h part hpart c hmem

theorem mem_of_splitGap? {cs : List Char} {parts : List Char × List Char} (h : splitGap? cs = some parts) :
    ∀ c ∈ cs, c = ':' ∨ c ∈ parts.1 ∨ c ∈ parts.2 := by
  fun_induction splitGap? cs generalizing parts with
  | case1 rest =>
    cases h
    intro c hc
    simp only [List.mem_cons] at hc
    rcases hc with rfl | rfl | hrest
    · exact Or.inl rfl
    · exact Or.inl rfl
    · exact Or.inr (Or.inr hrest)
  | case2 d rest _ ih =>
    obtain ⟨parts, hparts, rfl⟩ := Option.map_eq_some_iff.mp h
    intro c hc
    rcases List.mem_cons.mp hc with rfl | hrest
    · exact Or.inr (Or.inl List.mem_cons_self)
    · exact (ih hparts c hrest).imp_right (Or.imp_left (List.mem_cons_of_mem d))
  | case3 => cases h

theorem inAddress_of_ipv6? {cs : List Char} {pieces : List Nat} (h : ipv6? cs = some pieces) : ∀ c ∈ cs, InAddress c := by
  unfold ipv6? at h
  split at h
  case h_1 head tail hgap =>
    obtain ⟨before, hbefore, h⟩ := Option.bind_eq_some_iff.mp h
    obtain ⟨after, hafter, _⟩ := Option.bind_eq_some_iff.mp h
    intro c hc
    rcases mem_of_splitGap? hgap c hc with hcolon | hhead | htail
    · exact Or.inr (Or.inl hcolon)
    · exact inAddress_of_pieces? hbefore c hhead
    · exact inAddress_of_pieces? hafter c htail
  case h_2 => exact inAddress_of_pieces? (Option.filter_eq_some_iff.mp h).1

/-! ## Hosts -/

theorem Host.bracketed_eq_ok {cs : List Char} {host : Host} (h : bracketed cs = .ok host) :
    ∃ inner pieces, cs = inner ++ [']'] ∧ ipv6? inner = some pieces ∧ host = .ipv6 pieces := by
  unfold bracketed at h
  split at h
  case h_1 inner hreverse =>
    split at h
    case h_1 pieces hpieces =>
      cases h
      refine ⟨inner.reverse, pieces, ?_, hpieces, rfl⟩
      rw [← List.reverse_reverse cs, hreverse, List.reverse_cons]
    case h_2 => cases h
  case h_2 => cases h

theorem Host.bracketed_of_ipv6? {inner : List Char} {pieces : List Nat} (h : ipv6? inner = some pieces) :
    Host.ofChars ('[' :: (inner ++ [']'])) = .ok (.ipv6 pieces) := by
  rw [ofChars, bracketed, List.reverse_append, List.reverse_singleton, List.singleton_append]
  simp only [List.reverse_reverse, h]

/-- A host is an address between brackets, or a name without delimiters. -/
theorem Host.ofChars_eq_ok {cs : List Char} {host : Host} (h : ofChars cs = .ok host) :
    (∃ inner pieces, cs = '[' :: (inner ++ [']']) ∧ ipv6? inner = some pieces ∧ host = .ipv6 pieces) ∨
      ∀ c ∈ delimiters, c ∉ cs := by
  unfold ofChars at h
  split at h
  case h_1 rest =>
    obtain ⟨inner, pieces, rfl, hpieces, hhost⟩ := bracketed_eq_ok h
    exact Or.inl ⟨inner, pieces, rfl, hpieces, hhost⟩
  case h_2 =>
    refine Or.inr fun c hc hmem => ?_
    dsimp only at h
    split at h
    · cases h
    case isFalse hvalid =>
      rw [Bool.not_eq_true', Bool.not_eq_false] at hvalid
      rw [asciiDomain?_eq_none hc (mem_decodeUtf8 hc (mem_percentDecode hc hmem) hvalid)] at h
      cases h

/-- What ends the host of a URL or begins it anew, beside the slash. -/
def hostEnds : List Char := ['@', '\\', '?', '#']

/-- What does not count when a URL is read. -/
def innerBlanks : List Char := ['\t', '\n', '\r']

theorem Host.notMem_of_ofChars {cs : List Char} {host : Host} (h : ofChars cs = .ok host) :
    ∀ c ∈ hostEnds ++ innerBlanks, c ∉ cs := by
  have hsigns : ∀ c ∈ hostEnds ++ innerBlanks, c ∈ delimiters ∧ c ∉ ['[', ']'] ∧ ¬ InAddress c := by
    unfold InAddress
    exact forall_mem_of_all (by decide)
  intro c hc
  obtain ⟨hdelimiter, hbracket, haddress⟩ := hsigns c hc
  rcases ofChars_eq_ok h with ⟨inner, pieces, rfl, hpieces, _⟩ | hnone
  · intro hmem
    rw [List.mem_cons, List.mem_append] at hmem
    rcases hmem with rfl | hinner | hlast
    · exact hbracket List.mem_cons_self
    · exact haddress (inAddress_of_ipv6? hpieces c hinner)
    · exact hbracket (List.mem_cons_of_mem _ hlast)
  · exact hnone c hdelimiter

end Url

end OutOfBand
