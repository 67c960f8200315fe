import OutOfBand.Proofs.Url.Percent
import OutOfBand.Yaml.Writer

/-! # The lines of a document

What stands at the start of a line tells a reader of YAML where a document ends and where an entry of the outermost
mapping begins. Whatever the values are, no line of the text that is written for entries starts with a mark that none
of their keys is written with: further lines of a value are indented, and those of a sequence start with a dash and a
space.
-/
namespace OutOfBand.Yaml

/-! ## Marks -/

/-- The text has no line break. -/
def IsUnbroken (text : List Char) : Prop := ∀ c ∈ text, isBreak c = false

instance (text : List Char) : Decidable (IsUnbroken text) :=
  decidable_of_iff (text.all (fun c => !isBreak c) = true) (by simp [IsUnbroken])

/-- No line of the text starts with the mark. `fresh` tells whether the text itself starts a line. -/
def Avoids (mark : List Char) : Bool → List Char → Prop
  | _, [] => True
  | fresh, c :: rest => (fresh = true → ¬ mark <+: c :: rest) ∧ Avoids mark (isBreak c) rest

/-- A mark that differs from what lines other than those of a key start with. -/
structure IsLineMark (mark : List Char) : Prop where
  isUnbroken : IsUnbroken mark
  /-- It is neither a space, nor a quote, nor an indicator with a space behind it. -/
  starts : ∃ a b tail, mark = a :: b :: tail ∧ a ∉ [' ', '\'', '"', '|'] ∧ (a ∈ ['-', '?', ':'] → b ≠ ' ')

variable {mark : List Char} {fresh : Bool} {text rest : List Char}

theorem isUnbroken_append {front : List Char} (hfront : IsUnbroken front) (hrest : IsUnbroken rest) :
    IsUnbroken (front ++ rest) := List.forall_mem_append.mpr ⟨hfront, hrest⟩

theorem isUnbroken_cons {c : Char} (hc : isBreak c = false) (h : IsUnbroken text) : IsUnbroken (c :: text) :=
  List.forall_mem_cons.mpr ⟨hc, h⟩

/-- What a mark starts with stands in front of any character that the mark does not have. -/
theorem prefix_of_prefix_append_cons {α : Type} {xs front back : List α} {b : α} (hb : b ∉ xs)
    (h : xs <+: front ++ b :: back) : xs <+: front := by
  have hsplit : front ++ [b] <+: front ++ b :: back := ⟨back, by simp⟩
  rcases Nat.lt_or_ge front.length xs.length with hlong | hshort
  · have hmem : front ++ [b] <+: xs := List.prefix_of_prefix_length_le hsplit h (by rw [List.length_append]; exact hlong)
    exact absurd (hmem.subset (by simp)) hb
  · exact List.prefix_of_prefix_length_le h (List.prefix_append front (b :: back)) hshort

theorem IsLineMark.not_prefix_cons (hmark : IsLineMark mark) {c : Char} (hc : c ∈ [' ', '\'', '"', '|']) :
    ¬ mark <+: c :: text := by
  obtain ⟨a, b, tail, rfl, ha, _⟩ := hmark.starts
  intro hopens
  obtain rfl := (List.cons_prefix_cons.mp hopens).1
  exact ha hc

theorem IsLineMark.not_prefix_indicator (hmark : IsLineMark mark) {c : Char} (hc : c ∈ ['-', '?', ':']) :
    ¬ mark <+: c :: ' ' :: text := by
  obtain ⟨a, b, tail, rfl, _, hb⟩ := hmark.starts
  intro hopens
  obtain ⟨rfl, htail⟩ := List.cons_prefix_cons.mp hopens
  exact hb hc (List.cons_prefix_cons.mp htail).1

theorem IsLineMark.not_prefix_break (hmark : IsLineMark mark) {c : Char} (hc : isBreak c = true) : ¬ mark <+: c :: text := by
  obtain ⟨a, b, tail, hstarts, _⟩ := hmark.starts
  intro hopens
  rw [hstarts] at hopens
  obtain rfl := (List.cons_prefix_cons.mp hopens).1
  rw [hmark.isUnbroken a (hstarts ▸ List.mem_cons_self)] at hc
  cases hc

/-- In the middle of a line no mark can start. -/
theorem avoids_cons {c : Char} (h : Avoids mark (isBreak c) rest) : Avoids mark false (c :: rest) := by
  refine ⟨fun hfresh => ?_, h⟩
  cases hfresh

theorem Avoids.freshly (h : Avoids mark false text) (hstart : ¬ mark <+: text) : Avoids mark fresh text := by
  cases text with
  | nil => exact h
  | cons c rest => exact ⟨fun _ => hstart, h.2⟩

/-- A text with no break in it continues the line. -/
theorem avoids_unbroken_append (htext : IsUnbroken text) (h : Avoids mark false rest) : Avoids mark false (text ++ rest) := by
  induction text with
  | nil => exact h
  | cons c text ih =>
    obtain ⟨hc, htext⟩ := List.forall_mem_cons.mp htext
    refine avoids_cons ?_
    rw [hc]
    exact ih htext

theorem avoids_unbroken (htext : IsUnbroken text) : Avoids mark false text := by
  have hnil : Avoids mark false [] := trivial
  have h := avoids_unbroken_append htext hnil
  rwa [List.append_nil] at h

/-- Behind a break a new line starts. -/
theorem Avoids.append_break (hmark : IsLineMark mark) {b : Char} (hb : isBreak b = true) (h : Avoids mark fresh text)
    (hrest : Avoids mark true rest) : Avoids mark fresh (text ++ b :: rest) := by
  have hmem : b ∉ mark := by
    intro hmem
    rw [hmark.isUnbroken b hmem] at hb
    cases hb
  induction text generalizing fresh with
  | nil =>
    refine ⟨fun _ => hmark.not_prefix_break hb, ?_⟩
    rw [hb]
    exact hrest
  | cons c text ih => exact ⟨fun hfresh hopens => h.1 hfresh (prefix_of_prefix_append_cons hmem hopens), ih h.2⟩

theorem Avoids.of_start {front : List Char} (h : Avoids mark fresh text) (hopens : front <+: text) :
    Avoids mark fresh front := by
  induction front generalizing fresh text with
  | nil => trivial
  | cons c front ih =>
    obtain ⟨more, rfl⟩ := hopens
    exact ⟨fun hfresh hmark => h.1 hfresh (hmark.trans ⟨more, rfl⟩), ih h.2 ⟨more, rfl⟩⟩

/-! ## Scalars -/

theorem isBreak_of_isDigit {c : Char} (h : c.isDigit = true) : isBreak c = false := by
  have hrange : 48 ≤ c.toNat ∧ c.toNat ≤ 57 := Char.isDigit_iff_toNat.mp h
  have hne : ∀ d : Char, d.toNat < 48 ∨ 57 < d.toNat → c ≠ d := by
    rintro d hd rfl
    omega
  simp only [isBreak, Bool.or_eq_false_iff, beq_eq_false_iff_ne]
  exact ⟨⟨⟨⟨hne _ (by decide), hne _ (by decide)⟩, hne _ (by decide)⟩, hne _ (by decide)⟩, hne _ (by decide)⟩

theorem isUnbroken_toDigits (n : Nat) : IsUnbroken (Nat.toDigits 10 n) := fun _ hc =>
  isBreak_of_isDigit (Nat.isDigit_of_mem_toDigits (by decide) (by decide) hc)

theorem isUnbroken_zeros (n : Nat) : IsUnbroken (FloatFormat.zeros n) := by
  intro c hc
  rw [List.eq_of_mem_replicate hc]
  rfl

theorem isUnbroken_if {p : Prop} [Decidable p] {front : List Char} (hfront : IsUnbroken front) (hrest : IsUnbroken rest) :
    IsUnbroken (if p then front else rest) := by
  split
  · exact hfront
  · exact hrest

theorem isUnbroken_positional (format : FloatFormat) {digits : List Char} (h : IsUnbroken digits) (first : Int) :
    IsUnbroken (format.positional digits first) := by
  cases first with
  | ofNat f =>
    refine isUnbroken_if ?_ ?_
    · exact isUnbroken_append (isUnbroken_append h (isUnbroken_zeros _)) (isUnbroken_if (by decide) (by decide))
    · exact isUnbroken_append (fun c hc => h c (List.mem_of_mem_take hc))
        (isUnbroken_cons rfl fun c hc => h c (List.mem_of_mem_drop hc))
  | negSucc f => exact isUnbroken_cons rfl (isUnbroken_cons rfl (isUnbroken_append (isUnbroken_zeros f) h))

theorem isUnbroken_scientific (format : FloatFormat) {digits : List Char} (h : IsUnbroken digits) (first : Int) :
    IsUnbroken (format.scientific digits first) := by
  refine isUnbroken_append ?_ (isUnbroken_cons rfl ?_)
  · split
    · obtain ⟨hd, hmore⟩ := List.forall_mem_cons.mp h
      exact isUnbroken_cons hd (isUnbroken_cons rfl hmore)
    · exact h
  · split
    · exact isUnbroken_append (isUnbroken_if (by decide) (by decide)) (isUnbroken_toDigits _)
    · exact isUnbroken_cons rfl (isUnbroken_toDigits _)

theorem isUnbroken_numeral (n : Numeral) : IsUnbroken (numeral n).toList := by
  cases n with
  | int n =>
    cases n with
    | ofNat n =>
      have htext : (numeral (.int (.ofNat n))).toList = Nat.toDigits 10 n := Nat.toList_repr
      rw [htext]
      exact isUnbroken_toDigits n
    | negSucc n =>
      have htext : (numeral (.int (.negSucc n))).toList = '-' :: Nat.toDigits 10 (n + 1) := by
        change ("-" ++ Nat.repr (n + 1)).toList = _
        rw [String.toList_append, Nat.toList_repr]
        rfl
      rw [htext]
      exact isUnbroken_cons rfl (isUnbroken_toDigits (n + 1))
  | float x =>
    have hdigits : IsUnbroken x.shortest.digitChars := isUnbroken_toDigits _
    rw [numeral, FloatFormat.render, String.toList_ofList]
    generalize (x.shortest.power + (x.shortest.digitChars.length - 1 : Nat) : Int) = first
    have hbody : IsUnbroken (if FloatFormat.yaml.least ≤ first ∧ first ≤ FloatFormat.yaml.most then
        FloatFormat.yaml.positional x.shortest.digitChars first
        else FloatFormat.yaml.scientific x.shortest.digitChars first) :=
      isUnbroken_if (isUnbroken_positional .yaml hdigits first) (isUnbroken_scientific .yaml hdigits first)
    exact isUnbroken_if (isUnbroken_cons rfl hbody) hbody

theorem isBreak_digitChar : ∀ n < 16, isBreak (Text.asciiUpper (Nat.digitChar n)) = false := by decide

theorem isUnbroken_upperHex (width n : Nat) : IsUnbroken (upperHex width n) := by
  have hdigits : IsUnbroken ((Text.hexDigits n).map Text.asciiUpper) := by
    induction n using Nat.strongRecOn with
    | _ n ih =>
      rw [Text.hexDigits, Nat.toDigits_eq_if (by decide)]
      split
      case isTrue hsmall => exact List.forall_mem_singleton.mpr (isBreak_digitChar n hsmall)
      case isFalse hlarge =>
        rw [List.map_append]
        exact isUnbroken_append (ih (n / 16) (by omega))
          (List.forall_mem_singleton.mpr (isBreak_digitChar (n % 16) (by omega)))
  refine isUnbroken_append (fun c hc => ?_) hdigits
  rw [List.eq_of_mem_replicate hc]
  rfl

/-- Breaks are escaped between double quotes. -/
theorem isUnbroken_doubleChar (c : Char) : IsUnbroken (doubleChar c) := by
  unfold doubleChar
  split
  case isTrue h =>
    simp only [Bool.and_eq_true, Bool.not_eq_true'] at h
    exact List.forall_mem_singleton.mpr h.1.1.2
  case isFalse =>
    split
    case h_1 name hname =>
      have hnames : ∀ entry ∈ escapeNames, isBreak entry.2 = false := by decide
      obtain ⟨front, back, hsplit, _⟩ := List.lookup_eq_some_iff.mp hname
      have hmem : (c, name) ∈ escapeNames := hsplit ▸ List.mem_append_right front List.mem_cons_self
      exact isUnbroken_cons rfl (List.forall_mem_singleton.mpr (hnames _ hmem))
    case h_2 =>
      exact isUnbroken_if (isUnbroken_cons rfl (isUnbroken_cons rfl (isUnbroken_upperHex 2 _)))
        (isUnbroken_if (isUnbroken_cons rfl (isUnbroken_cons rfl (isUnbroken_upperHex 4 _)))
          (isUnbroken_cons rfl (isUnbroken_cons rfl (isUnbroken_upperHex 8 _))))

theorem isUnbroken_double (cs : List Char) : IsUnbroken ('"' :: (cs.flatMap doubleChar ++ ['"'])) := by
  refine isUnbroken_cons rfl (isUnbroken_append (fun c hc => ?_) (by decide))
  obtain ⟨d, _, hc⟩ := List.mem_flatMap.mp hc
  exact isUnbroken_doubleChar d c hc

theorem avoids_indentation (hmark : IsLineMark mark) {indent : Nat} (hindent : 0 < indent) (h : Avoids mark false rest) :
    Avoids mark fresh (indentation indent ++ rest) := by
  obtain ⟨indent, rfl⟩ := Nat.exists_eq_add_one_of_ne_zero (Nat.ne_of_gt hindent)
  refine ⟨fun _ => hmark.not_prefix_cons (by decide), avoids_unbroken_append (fun c hc => ?_) h⟩
  rw [List.eq_of_mem_replicate hc]
  rfl

/-- The indentation that a line needs behind a break, and no other. -/
theorem avoids_broken (hmark : IsLineMark mark) {indent : Nat} (hindent : 0 < indent) (h : Avoids mark false rest) :
    Avoids mark fresh ((if fresh then indentation indent else []) ++ rest) := by
  cases fresh with
  | false => exact h
  | true => exact avoids_indentation hmark hindent h

theorem avoids_singleBody (hmark : IsLineMark mark) {indent : Nat} (hindent : 0 < indent) (cs : List Char)
    (h : Avoids mark false rest) : Avoids mark fresh (singleBody indent fresh cs ++ rest) := by
  induction cs generalizing fresh with
  | nil => exact avoids_broken hmark hindent h
  | cons c cs ih =>
    rw [singleBody]
    split
    case isTrue hc =>
      refine ⟨fun _ => hmark.not_prefix_break hc, ?_⟩
      rw [hc]
      exact ih
    case isFalse hc =>
      rw [Bool.not_eq_true] at hc
      rw [List.append_assoc, List.append_assoc]
      exact avoids_broken hmark hindent (avoids_unbroken_append
        (isUnbroken_if (by decide) (List.forall_mem_singleton.mpr hc)) ih)

theorem avoids_literalBody (hmark : IsLineMark mark) {indent : Nat} (hindent : 0 < indent) (cs : List Char) :
    Avoids mark fresh (literalBody indent fresh cs) := by
  induction cs generalizing fresh with
  | nil => trivial
  | cons c cs ih =>
    rw [literalBody]
    split
    case isTrue hc =>
      refine ⟨fun _ => hmark.not_prefix_break hc, ?_⟩
      rw [hc]
      exact ih
    case isFalse hc =>
      rw [Bool.not_eq_true] at hc
      refine avoids_broken hmark hindent (avoids_cons ?_)
      rw [hc]
      exact ih

theorem isUnbroken_of_allowsPlain {cs : List Char} (h : allowsPlain cs = true) : IsUnbroken cs := by
  simp only [allowsPlain, Bool.not_eq_true', Bool.or_eq_false_iff, List.any_eq_false] at h
  exact fun c hc => Bool.not_eq_true _ ▸ h.1.1.2 c hc

theorem allowsPlain_of_style {s : String} (h : styleOf s = .plain) : allowsPlain s.toList = true := by
  unfold styleOf at h
  grind

/-- A line break in a text is written in a literal block or escaped. -/
theorem contains_of_style {s : String} (h : styleOf s = .literal) : '\n' ∈ s.toList := by
  unfold styleOf at h
  grind

theorem isUnbroken_literalHints (cs : List Char) : IsUnbroken (literalHints cs) := by
  refine isUnbroken_append (isUnbroken_if (by decide) (by decide)) ?_
  split
  · refine isUnbroken_if (by decide) ?_
    split
    · decide
    · exact isUnbroken_if (by decide) (by decide)
  · decide

theorem avoids_scalar (hmark : IsLineMark mark) {indent : Nat} (hindent : 0 < indent) (s : String) :
    Avoids mark false (scalar indent s) := by
  unfold scalar
  cases hstyle : styleOf s with
  | plain => exact avoids_unbroken (isUnbroken_of_allowsPlain (allowsPlain_of_style hstyle))
  | single => exact avoids_cons (avoids_singleBody hmark hindent s.toList (avoids_unbroken (by decide)))
  | double => exact avoids_unbroken (isUnbroken_double s.toList)
  | literal =>
    have hhints : IsUnbroken ('|' :: literalHints s.toList) := isUnbroken_cons rfl (isUnbroken_literalHints s.toList)
    exact avoids_unbroken_append hhints (avoids_cons (avoids_literalBody hmark hindent s.toList))

/-! ## Keys -/

theorem isUnbroken_singleBody {indent : Nat} {cs : List Char} (h : IsUnbroken cs) : IsUnbroken (singleBody indent false cs) := by
  induction cs with
  | nil => exact fun c hc => absurd hc List.not_mem_nil
  | cons c cs ih =>
    obtain ⟨hc, hcs⟩ := List.forall_mem_cons.mp h
    rw [singleBody, if_neg (by rw [hc]; exact Bool.false_ne_true)]
    exact isUnbroken_append (isUnbroken_if (by decide) (List.forall_mem_singleton.mpr hc)) (ih hcs)

theorem isUnbroken_of_isSimpleKey {key : String} (h : isSimpleKey key = true) : IsUnbroken key.toList := by
  simp only [isSimpleKey, Bool.and_eq_true, Bool.not_eq_true', List.any_eq_false] at h
  exact fun c hc => Bool.not_eq_true _ ▸ h.1 c hc

/-- A simple key is written on one line. -/
theorem isUnbroken_scalar {key : String} (h : isSimpleKey key = true) (indent : Nat) : IsUnbroken (scalar indent key) := by
  have hkey := isUnbroken_of_isSimpleKey h
  unfold scalar
  cases hstyle : styleOf key with
  | plain => exact hkey
  | single => exact isUnbroken_cons rfl (isUnbroken_append (isUnbroken_singleBody hkey) (by decide))
  | double => exact isUnbroken_double key.toList
  | literal => exact absurd (hkey _ (contains_of_style hstyle)) (by decide)

/-! ## Values -/

theorem avoids_endLine (hmark : IsLineMark mark) (h : Avoids mark fresh text) (hrest : Avoids mark true rest) :
    Avoids mark fresh (endLine text ++ rest) := by
  unfold endLine
  split
  case isTrue hlast =>
    rcases List.eq_nil_or_concat text with rfl | ⟨front, b, rfl⟩
    · cases hlast
    · have hb : isBreak b = true := by simpa using hlast
      rw [List.concat_eq_append] at h ⊢
      rw [List.append_assoc]
      exact (h.of_start (List.prefix_append front [b])).append_break hmark hb hrest
  case isFalse =>
    rw [List.append_assoc]
    exact h.append_break hmark rfl hrest

/-- A line of a value that says all of it. -/
theorem avoids_line (hmark : IsLineMark mark) (text : List Char) (htext : IsUnbroken text) (hrest : Avoids mark true rest) :
    Avoids mark false ((text ++ ['\n']) ++ rest) := by
  rw [List.append_assoc]
  exact (avoids_unbroken htext).append_break hmark rfl hrest

/-- Behind the mark of an item stands a space. -/
theorem afterMark_cons (indent : Nat) (value : Json) : ∃ more, afterMark indent value = ' ' :: more := by
  cases value with
  | null => exact ⟨_, rfl⟩
  | bool b => cases b <;> exact ⟨_, rfl⟩
  | number n => exact ⟨_, rfl⟩
  | string s => exact ⟨_, rfl⟩
  | array items => cases items <;> exact ⟨_, rfl⟩
  | object members => cases members <;> exact ⟨_, rfl⟩

/-- The mark is none of those with which a line of a simple key starts. -/
def SparesKeys (mark : List Char) (entries : List (String × Json)) : Prop :=
  ∀ entry ∈ entries, isSimpleKey entry.1 = true → ∀ more, ¬ mark <+: scalar 2 entry.1 ++ ':' :: more

theorem not_prefix_afterMark (hmark : IsLineMark mark) {c : Char} (hc : c ∈ ['-', '?', ':']) (indent : Nat) (value : Json)
    (rest : List Char) : ¬ mark <+: c :: (afterMark indent value ++ rest) := by
  obtain ⟨more, hmore⟩ := afterMark_cons indent value
  rw [hmore]
  exact hmark.not_prefix_indicator hc

theorem avoids_indicator {c : Char} (hc : c ∈ ['-', '?', ':']) {indent : Nat} {value : Json}
    (h : Avoids mark false (afterMark indent value ++ rest)) : Avoids mark false (c :: (afterMark indent value ++ rest)) := by
  have hbreak : IsUnbroken ['-', '?', ':'] := by decide
  refine avoids_cons ?_
  rw [hbreak c hc]
  exact h

/-- A line that may be indented. -/
theorem avoids_atIndent (hmark : IsLineMark mark) (indent : Nat) (h : Avoids mark false text)
    (hstart : indent = 0 → ¬ mark <+: text) : Avoids mark true (indentation indent ++ text) := by
  cases indent with
  | zero => exact h.freshly (hstart rfl)
  | succ indent => exact avoids_indentation hmark (Nat.succ_pos indent) h

/-- What is written for an entry of a mapping at `indent`; further lines of its key start at `inner`. -/
def entryChars (indent inner : Nat) (key : String) (value : Json) : List Char :=
  if isSimpleKey key then scalar inner key ++ ':' :: afterKey indent value
  else '?' :: ' ' :: endLine (scalar inner key) ++ indentation indent ++ ':' :: afterMark indent value

theorem members_cons (indent : Nat) (key : String) (value : Json) (entries : List (String × Json)) :
    members indent ((key, value) :: entries) =
      indentation indent ++ entryChars indent (indent + 2) key value ++ members indent entries := by
  rw [members]
  rfl

theorem afterMark_members (indent : Nat) (key : String) (value : Json) (entries : List (String × Json)) :
    afterMark indent (.object ((key, value) :: entries)) =
      ' ' :: (entryChars (indent + 2) (indent + 4) key value ++ members (indent + 2) entries) := rfl

theorem afterMark_items (indent : Nat) (value : Json) (values : List Json) :
    afterMark indent (.array (value :: values)) =
      ' ' :: '-' :: (afterMark (indent + 2) value ++ items (indent + 2) values) := rfl

theorem avoids_entryChars (hmark : IsLineMark mark) {indent inner : Nat} (hinner : 0 < inner) (key : String) {value : Json}
    (hsimple : Avoids mark false (afterKey indent value ++ rest))
    (hcomplex : Avoids mark false (afterMark indent value ++ rest)) :
    Avoids mark false (entryChars indent inner key value ++ rest) := by
  unfold entryChars
  split
  case isTrue hkey =>
    rw [List.append_assoc]
    exact avoids_unbroken_append (isUnbroken_scalar hkey inner) (avoids_cons hsimple)
  case isFalse =>
    have hcolon : Avoids mark true (indentation indent ++ (':' :: (afterMark indent value ++ rest))) :=
      avoids_atIndent hmark indent (avoids_indicator (by decide) hcomplex) fun _ =>
        not_prefix_afterMark hmark (by decide) indent value rest
    have hkey := avoids_endLine hmark (avoids_scalar hmark hinner key) hcolon
    simp only [List.cons_append, List.append_assoc] at hkey ⊢
    exact avoids_cons (avoids_cons hkey)

/-- The entry of a complex key starts with an indicator, that of a simple one with the key. -/
theorem not_prefix_entryChars (hmark : IsLineMark mark) {key : String} {value : Json} {entries : List (String × Json)}
    (hkeys : SparesKeys mark ((key, value) :: entries)) : ¬ mark <+: entryChars 0 2 key value ++ rest := by
  unfold entryChars
  split
  case isTrue hkey =>
    rw [List.append_assoc]
    exact hkeys (key, value) List.mem_cons_self hkey _
  case isFalse => exact hmark.not_prefix_indicator (by decide)

/-- A value that is written in the line of what stands before it, or in a scalar. -/
def isLeaf : Json → Bool
  | .array (_ :: _) => false
  | .object (_ :: _) => false
  | _ => true

/-- Only collections are written in another way behind a dash than behind a key. -/
theorem afterMark_eq_afterKey {value : Json} (h : isLeaf value = true) (indent : Nat) :
    afterMark indent value = afterKey indent value := by
  cases value with
  | bool b =>
    cases b with
    | true => rfl
    | false => rfl
  | array values =>
    cases values with
    | nil => rfl
    | cons value more => cases h
  | object entries =>
    cases entries with
    | nil => rfl
    | cons entry more => cases h
  | _ => rfl

theorem avoids_leaf (hmark : IsLineMark mark) {value : Json} (h : isLeaf value = true) (indent : Nat)
    (hrest : Avoids mark true rest) : Avoids mark false (afterKey indent value ++ rest) := by
  cases value with
  | null => exact avoids_line hmark [' ', 'n', 'u', 'l', 'l'] (by decide) hrest
  | bool b =>
    cases b with
    | true => exact avoids_line hmark [' ', 't', 'r', 'u', 'e'] (by decide) hrest
    | false => exact avoids_line hmark [' ', 'f', 'a', 'l', 's', 'e'] (by decide) hrest
  | number n =>
    exact avoids_cons (avoids_endLine hmark (avoids_unbroken (isUnbroken_numeral n)) hrest)
  | string s =>
    exact avoids_cons (avoids_endLine hmark (avoids_scalar hmark (Nat.succ_pos _) s) hrest)
  | array values =>
    cases values with
    | nil => exact avoids_line hmark [' ', '[', ']'] (by decide) hrest
    | cons value more => cases h
  | object entries =>
    cases entries with
    | nil => exact avoids_line hmark [' ', '\x7b', '\x7d'] (by decide) hrest
    | cons entry more => cases h

mutual

theorem avoids_afterKey (hmark : IsLineMark mark) {rest : List Char} (indent : Nat) (value : Json) (hrest : Avoids mark true rest) :
    Avoids mark false (afterKey indent value ++ rest) := by
  cases hleaf : isLeaf value with
  | true => exact avoids_leaf hmark hleaf indent hrest
  | false =>
    cases value with
    | array values =>
      cases values with
      | nil => cases hleaf
      | cons value more => exact avoids_cons (avoids_items hmark indent (value :: more) hrest)
    | object entries =>
      cases entries with
      | nil => cases hleaf
      | cons entry more =>
        exact avoids_cons
          (avoids_members hmark (indent + 2) (entry :: more) (fun hzero => absurd hzero (Nat.succ_ne_zero _)) hrest)
    | _ => cases hleaf

theorem avoids_afterMark (hmark : IsLineMark mark) {rest : List Char} (indent : Nat) (value : Json) (hrest : Avoids mark true rest) :
    Avoids mark false (afterMark indent value ++ rest) := by
  cases hleaf : isLeaf value with
  | true =>
    rw [afterMark_eq_afterKey hleaf]
    exact avoids_leaf hmark hleaf indent hrest
  | false =>
    cases value with
    | array values =>
      cases values with
      | nil => cases hleaf
      | cons value more =>
        have hvalue := avoids_afterMark hmark (indent + 2) value (avoids_items hmark (indent + 2) more hrest)
        rw [afterMark_items, List.cons_append, List.cons_append, List.append_assoc]
        exact avoids_cons (avoids_cons hvalue)
    | object entries =>
      cases entries with
      | nil => cases hleaf
      | cons entry more =>
        have hmore := avoids_members hmark (indent + 2) more (fun hzero => absurd hzero (Nat.succ_ne_zero _)) hrest
        rw [afterMark_members, List.cons_append, List.append_assoc]
        exact avoids_cons (avoids_entryChars hmark (Nat.succ_pos _) entry.1
          (avoids_afterKey hmark (indent + 2) entry.2 hmore) (avoids_afterMark hmark (indent + 2) entry.2 hmore))
    | _ => cases hleaf

theorem avoids_items (hmark : IsLineMark mark) {rest : List Char} (indent : Nat) (values : List Json) (hrest : Avoids mark true rest) :
    Avoids mark true (items indent values ++ rest) := by
  cases values with
  | nil => exact hrest
  | cons value more =>
    have hvalue := avoids_afterMark hmark indent value (avoids_items hmark indent more hrest)
    rw [items, List.append_assoc, List.cons_append, List.append_assoc]
    exact avoids_atIndent hmark indent (avoids_indicator (by decide) hvalue) fun _ =>
      not_prefix_afterMark hmark (by decide) indent value _

theorem avoids_members (hmark : IsLineMark mark) {rest : List Char} (indent : Nat) (entries : List (String × Json))
    (hkeys : indent = 0 → SparesKeys mark entries) (hrest : Avoids mark true rest) :
    Avoids mark true (members indent entries ++ rest) := by
  cases entries with
  | nil => exact hrest
  | cons entry more =>
    have hmore := avoids_members hmark indent more
      (fun hzero other hother => hkeys hzero other (List.mem_cons_of_mem entry hother)) hrest
    rw [members_cons, List.append_assoc, List.append_assoc]
    refine avoids_atIndent hmark indent (avoids_entryChars hmark (Nat.succ_pos _) entry.1
      (avoids_afterKey hmark indent entry.2 hmore) (avoids_afterMark hmark indent entry.2 hmore)) fun hzero => ?_
    subst hzero
    exact not_prefix_entryChars hmark (hkeys rfl)

end

/-! ## Marks that no key is written with -/

end OutOfBand.Yaml
