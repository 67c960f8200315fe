import OutOfBand.Proofs.Json.Order
import OutOfBand.Proofs.Json.Scalars

/-! # Values read back

What is written for a value is read as that value, whatever white space the layout puts between its parts. The compact
and the indented writer are two layouts of one text, so both are read back. It takes a value whose numbers are whole and
which nests no deeper than the reader goes.
-/
namespace OutOfBand

/-- A whole number that the reader keeps as one. -/
def Numeral.IsWhole : Numeral → Prop
  | .int n => -2 ^ 63 ≤ n ∧ n < 2 ^ 64
  | .float _ => False

namespace Json

/-! ## Values within limits -/

mutual

/-- Every number in the value is whole. -/
def IsWhole : Json → Prop
  | .number n => n.IsWhole
  | .array items => AreWhole items
  | .object members => MembersWhole members
  | _ => True

def AreWhole : List Json → Prop
  | [] => True
  | item :: rest => IsWhole item ∧ AreWhole rest

def MembersWhole : List (String × Json) → Prop
  | [] => True
  | (_, value) :: rest => IsWhole value ∧ MembersWhole rest

end

mutual

/-- The levels of arrays and objects one inside the other. -/
def nesting : Json → Nat
  | .array items => nestingOfItems items + 1
  | .object members => nestingOfMembers members + 1
  | _ => 0

def nestingOfItems : List Json → Nat
  | [] => 0
  | item :: rest => max (nesting item) (nestingOfItems rest)

def nestingOfMembers : List (String × Json) → Nat
  | [] => 0
  | (_, value) :: rest => max (nesting value) (nestingOfMembers rest)

end

theorem membersWhole_iff {members : List (String × Json)} : MembersWhole members ↔ ∀ entry ∈ members, entry.2.IsWhole := by
  induction members with
  | nil => simp [MembersWhole]
  | cons entry rest ih => simp [MembersWhole, ih]

theorem nestingOfMembers_le_iff {members : List (String × Json)} {n : Nat} :
    nestingOfMembers members ≤ n ↔ ∀ entry ∈ members, entry.2.nesting ≤ n := by
  induction members with
  | nil => simp [nestingOfMembers]
  | cons entry rest ih => simp [nestingOfMembers, ih]

/-- What the reader can be expected to read. -/
structure IsWithinLimits (value : Json) : Prop where
  whole : value.IsWhole
  nesting : value.nesting ≤ depthLimit

/-! ## Layouts -/

/-- The white space between the parts of a value. -/
structure Layout where
  /-- In front of what stands on a level of its own, and in front of a closing bracket. -/
  line : Nat → List Char
  /-- Behind a colon. -/
  gap : List Char
  line_isSpace : ∀ depth, ∀ c ∈ line depth, isSpace c = true
  gap_isSpace : ∀ c ∈ gap, isSpace c = true

namespace Layout

def oneLine : Layout := ⟨fun _ => [], [], fun _ _ hc => absurd hc List.not_mem_nil, fun _ hc => absurd hc List.not_mem_nil⟩

theorem isSpace_newline (depth : Nat) : ∀ c ∈ newline depth, isSpace c = true := by
  intro c hc
  rcases List.mem_cons.mp hc with rfl | hc
  · rfl
  · rw [List.eq_of_mem_replicate hc]
    rfl

def indented : Layout := ⟨newline, [' '], isSpace_newline, List.forall_mem_singleton.mpr rfl⟩

@[simp] theorem line_oneLine (depth : Nat) : oneLine.line depth = [] := rfl

@[simp] theorem gap_oneLine : oneLine.gap = [] := rfl

@[simp] theorem line_indented (depth : Nat) : indented.line depth = newline depth := rfl

@[simp] theorem gap_indented : indented.gap = [' '] := rfl

variable (l : Layout)

mutual

/-- The text of a value in a layout. Empty brackets have nothing between them. -/
def write (depth : Nat) : Json → List Char
  | .array [] => ['[', ']']
  | .array (item :: rest) => '[' :: (writeItems (depth + 1) true (item :: rest) ++ (l.line depth ++ [']']))
  | .object [] => ['\x7b', '\x7d']
  | .object (entry :: rest) =>
    '\x7b' :: (writeMembers (depth + 1) true (entry :: rest) ++ (l.line depth ++ ['\x7d']))
  | .null => ['n', 'u', 'l', 'l']
  | .bool true => ['t', 'r', 'u', 'e']
  | .bool false => ['f', 'a', 'l', 's', 'e']
  | .number n => n.render.toList
  | .string s => renderString s

def writeItems (depth : Nat) (first : Bool) : List Json → List Char
  | [] => []
  | item :: rest =>
    (if first then [] else [',']) ++ (l.line depth ++ (write depth item ++ writeItems depth false rest))

def writeMembers (depth : Nat) (first : Bool) : List (String × Json) → List Char
  | [] => []
  | (key, value) :: rest =>
    (if first then [] else [',']) ++ (l.line depth ++ (renderString key ++
      (':' :: (l.gap ++ (write depth value ++ writeMembers depth false rest)))))

end

mutual

theorem write_oneLine (depth : Nat) (value : Json) : oneLine.write depth value = value.compactChars := by
  cases value with
  | array items =>
    cases items with
    | nil => rfl
    | cons item rest => simp [write, compactChars, writeItems_oneLine (depth + 1) true (item :: rest)]
  | object members =>
    cases members with
    | nil => rfl
    | cons entry rest => simp [write, compactChars, writeMembers_oneLine (depth + 1) true (entry :: rest)]
  | bool b => cases b <;> rfl
  | _ => rfl

theorem writeItems_oneLine (depth : Nat) (first : Bool) (items : List Json) :
    oneLine.writeItems depth first items = compactItems first items := by
  cases items with
  | nil => rfl
  | cons item rest =>
    simp [writeItems, compactItems, write_oneLine depth item, writeItems_oneLine depth false rest]

theorem writeMembers_oneLine (depth : Nat) (first : Bool) (members : List (String × Json)) :
    oneLine.writeMembers depth first members = compactMembers first members := by
  cases members with
  | nil => rfl
  | cons entry rest =>
    simp [writeMembers, compactMembers, write_oneLine depth entry.2, writeMembers_oneLine depth false rest]

end

mutual

theorem write_indented (depth : Nat) (value : Json) : indented.write depth value = value.prettyChars depth := by
  cases value with
  | array items =>
    cases items with
    | nil => rfl
    | cons item rest => simp [write, prettyChars, writeItems_indented (depth + 1) true (item :: rest)]
  | object members =>
    cases members with
    | nil => rfl
    | cons entry rest => simp [write, prettyChars, writeMembers_indented (depth + 1) true (entry :: rest)]
  | bool b => cases b <;> rfl
  | _ => rfl

theorem writeItems_indented (depth : Nat) (first : Bool) (items : List Json) :
    indented.writeItems depth first items = prettyItems depth first items := by
  cases items with
  | nil => rfl
  | cons item rest =>
    simp [writeItems, prettyItems, write_indented depth item, writeItems_indented depth false rest]

theorem writeMembers_indented (depth : Nat) (first : Bool) (members : List (String × Json)) :
    indented.writeMembers depth first members = prettyMembers depth first members := by
  cases members with
  | nil => rfl
  | cons entry rest =>
    simp [writeMembers, prettyMembers, write_indented depth entry.2, writeMembers_indented depth false rest]

end

end Layout

/-! ## Spaces -/

theorem isBlank_of_isSpace {c : Char} (h : isSpace c = true) : Text.isBlank c = true := by
  simp only [isSpace, Bool.or_eq_true, beq_iff_eq] at h
  rcases h with ((rfl | rfl) | rfl) | rfl <;> rfl

theorem isBlank_digit {c : Char} (h : c.isDigit = true) : Text.isBlank c = false := by
  have hrange : 48 ≤ c.toNat ∧ c.toNat ≤ 57 := Char.isDigit_iff_toNat.mp h
  simp only [Text.isBlank, Bool.or_eq_false_iff, Bool.and_eq_false_iff, decide_eq_false_iff_not, beq_eq_false_iff_ne]
  omega

theorem skipSpace_append {space : List Char} (h : ∀ c ∈ space, isSpace c = true) (s : List Char) :
    skipSpace (space ++ s) = skipSpace s := List.dropWhile_append_of_pos h

theorem skipSpace_cons {c : Char} (h : isSpace c = false) (s : List Char) : skipSpace (c :: s) = c :: s :=
  List.dropWhile_cons_of_neg (Bool.eq_false_iff.mp h)

theorem endsNumber_nil : EndsNumber [] := fun _ hc => by cases hc

theorem endsNumber_cons {c : Char} (h : c.isDigit = false ∧ c ≠ '.' ∧ c ≠ 'e' ∧ c ≠ 'E') (rest : List Char) :
    EndsNumber (c :: rest) := by
  intro d hd
  obtain rfl : c = d := Option.some.inj hd
  exact h

theorem endsNumber_append {space : List Char} (h : ∀ c ∈ space, isSpace c = true) {rest : List Char}
    (hrest : EndsNumber rest) : EndsNumber (space ++ rest) := by
  cases space with
  | nil => exact hrest
  | cons c space =>
    have hc := h c List.mem_cons_self
    refine endsNumber_cons ?_ _
    simp only [isSpace, Bool.or_eq_true, beq_iff_eq] at hc
    rcases hc with ((rfl | rfl) | rfl) | rfl <;> decide

/-! ## The parts of arrays and objects -/

section

variable {s more rest : List Char} {c : Char}

theorem nextItem_close (h : skipSpace s = ']' :: rest) (first : Bool) : nextItem first s = .ok (false, rest) := by
  rw [nextItem, h]
  rfl

theorem nextItem_first (h : skipSpace s = c :: rest) (hc : c ≠ ']') : nextItem true s = .ok (true, c :: rest) := by
  unfold nextItem
  rw [h]
  split
  · cases ‹c :: rest = []›
  · cases ‹c :: rest = _›
    exact absurd rfl hc
  · cases ‹c :: rest = _›
    rfl

theorem nextItem_further (h : skipSpace s = ',' :: more) (hmore : skipSpace more = c :: rest) (hc : c ≠ ']') :
    nextItem false s = .ok (true, c :: rest) := by
  unfold nextItem
  rw [h]
  split
  · cases ‹_ :: more = []›
  · exact absurd (List.cons.inj ‹_ :: more = _›).1 (by decide)
  · cases ‹_ :: more = _›
    rw [if_neg Bool.false_ne_true, if_pos rfl, hmore]
    split
    · cases ‹c :: rest = []›
    · cases ‹c :: rest = _›
      exact absurd rfl hc
    · rfl

theorem nextMember_close (h : skipSpace s = '\x7d' :: rest) (first : Bool) : nextMember first s = .ok (false, rest) := by
  rw [nextMember, h]
  rfl

theorem nextMember_first (h : skipSpace s = '"' :: rest) : nextMember true s = .ok (true, rest) := by
  rw [nextMember, h]
  rfl

theorem nextMember_further (h : skipSpace s = ',' :: more) (hmore : skipSpace more = '"' :: rest) :
    nextMember false s = .ok (true, rest) := by
  rw [nextMember, h]
  simp [hmore]

variable {levels fuel : Nat}

theorem readValue_array (h : skipSpace s = '[' :: rest) :
    readValue (levels + 1) (fuel + 1) s = readItems levels true [] fuel rest := by
  rw [readValue, h]
  rfl

theorem readValue_object (h : skipSpace s = '\x7b' :: rest) :
    readValue (levels + 1) (fuel + 1) s = readMembers levels true [] fuel rest := by
  rw [readValue, h]
  rfl

theorem readValue_string {text : String} (h : skipSpace s = '"' :: behindQuote text rest) :
    readValue levels (fuel + 1) s = .ok (.string text, rest) := by
  rw [readValue, h]
  change (readString _ [] _ >>= fun read => _) = _
  rw [readString_behindQuote]
  rfl

theorem render_ofNat (n : Nat) : (Numeral.int (Int.ofNat n)).render.toList = Nat.toDigits 10 n := Nat.toList_repr

theorem render_negSucc (n : Nat) : (Numeral.int (Int.negSucc n)).render.toList = '-' :: Nat.toDigits 10 (n + 1) := by
  change ("-" ++ Nat.repr (n + 1)).toList = _
  rw [String.toList_append, Nat.toList_repr]
  rfl

theorem readValue_digit (h : skipSpace s = c :: rest) (hc : c.isDigit = true) :
    readValue levels (fuel + 1) s = (readNumber true (c :: rest)).map (fun read => (.number read.1, read.2)) := by
  have hne : ∀ {d : Char}, d.isDigit = false → c ≠ d := ne_of_isDigit hc
  rw [readValue, h]
  simp only [if_neg (hne (d := 'n') rfl), if_neg (hne (d := 't') rfl), if_neg (hne (d := 'f') rfl),
    if_neg (hne (d := '-') rfl), if_pos hc]
  cases readNumber true (c :: rest) with
  | ok read => rfl
  | error fault => rfl

theorem readValue_minus (h : skipSpace s = '-' :: rest) :
    readValue levels (fuel + 1) s = (readNumber false rest).map (fun read => (.number read.1, read.2)) := by
  rw [readValue, h]
  change (readNumber false rest >>= fun read => _) = _
  cases readNumber false rest with
  | ok read => rfl
  | error fault => rfl

/-- A whole number is read back. -/
theorem readValue_int {n : Int} (h : skipSpace s = (Numeral.int n).render.toList ++ rest) (hn : (Numeral.int n).IsWhole)
    (hrest : EndsNumber rest) : readValue levels (fuel + 1) s = .ok (.number (.int n), rest) := by
  obtain ⟨hlow, hhigh⟩ := hn
  cases n with
  | ofNat n =>
    obtain ⟨c, digits, hwritten, hdigits⟩ := toDigits_cons n
    have hfits : n < Nat.pow 2 64 := by
      change (n : Int) < 2 ^ 64 at hhigh
      change n < 2 ^ 64
      omega
    have hread := readNumber_toDigits true hfits hrest
    rw [render_ofNat, hwritten] at h
    rw [hwritten] at hread
    rw [readValue_digit h (hdigits c List.mem_cons_self)]
    exact congrArg (Except.map _) hread
  | negSucc n =>
    rw [render_negSucc] at h
    have hfits : n + 1 ≤ 2 ^ 63 := by
      rw [Int.negSucc_eq] at hlow
      omega
    have hbelow : n + 1 < Nat.pow 2 64 := by
      change n + 1 < 2 ^ 64
      omega
    have hnumeral : wholeNumeral false (n + 1) = .int (Int.negSucc n) := by
      have hnot : ¬ (n + 1 = 0 ∨ Nat.pow 2 63 < n + 1) := by
        change ¬ (n + 1 = 0 ∨ 2 ^ 63 < n + 1)
        omega
      rw [wholeNumeral, if_neg Bool.false_ne_true, if_neg hnot]
      rfl
    have hread := readNumber_toDigits false hbelow hrest
    rw [hnumeral] at hread
    rw [readValue_minus h]
    exact congrArg (Except.map _) hread

end

/-! ## Values -/

namespace Layout

variable (l : Layout)

theorem write_cons (depth : Nat) {value : Json} (h : value.IsWhole) :
    ∃ c tail, l.write depth value = c :: tail ∧ Text.isBlank c = false ∧ c ≠ ']' := by
  cases value with
  | null => exact ⟨_, _, rfl, by decide⟩
  | bool b => cases b <;> exact ⟨_, _, rfl, by decide⟩
  | string s => exact ⟨_, _, rfl, by decide⟩
  | array items => cases items <;> exact ⟨_, _, rfl, by decide⟩
  | object members => cases members <;> exact ⟨_, _, rfl, by decide⟩
  | number n =>
    cases n with
    | float x => cases h
    | int n =>
      cases n with
      | negSucc n => exact ⟨_, _, render_negSucc n, by decide⟩
      | ofNat n =>
        obtain ⟨c, digits, hwritten, hdigits⟩ := toDigits_cons n
        have hc := hdigits c List.mem_cons_self
        exact ⟨c, digits, (render_ofNat n).trans hwritten, isBlank_digit hc, ne_of_isDigit hc rfl⟩

theorem skipSpace_write (depth : Nat) {value : Json} (h : value.IsWhole) (rest : List Char) :
    skipSpace (l.write depth value ++ rest) = l.write depth value ++ rest := by
  obtain ⟨c, tail, hwritten, hsolid, _⟩ := l.write_cons depth h
  have hspace : isSpace c = false := Bool.eq_false_iff.mpr fun hspace => by
    rw [isBlank_of_isSpace hspace] at hsolid
    cases hsolid
  rw [hwritten]
  exact skipSpace_cons hspace _

theorem skipSpace_spaced {space : List Char} (hspace : ∀ c ∈ space, isSpace c = true) (depth : Nat) {value : Json}
    (h : value.IsWhole) (rest : List Char) :
    skipSpace (space ++ (l.write depth value ++ rest)) = l.write depth value ++ rest :=
  (skipSpace_append hspace _).trans (l.skipSpace_write depth h rest)

theorem length_write_pos (depth : Nat) {value : Json} (h : value.IsWhole) : 0 < (l.write depth value).length := by
  obtain ⟨c, tail, hwritten, _, _⟩ := l.write_cons depth h
  rw [hwritten]
  exact Nat.succ_pos _

/-- Brackets around items, with nothing but space in front of the closing one. -/
theorem write_array (depth : Nat) (items : List Json) :
    ∃ space : List Char, (∀ c ∈ space, isSpace c = true) ∧
      l.write depth (.array items) = '[' :: (l.writeItems (depth + 1) true items ++ (space ++ [']'])) := by
  cases items with
  | nil => exact ⟨[], fun c hc => absurd hc List.not_mem_nil, rfl⟩
  | cons item rest => exact ⟨l.line depth, l.line_isSpace depth, rfl⟩

theorem write_object (depth : Nat) (members : List (String × Json)) :
    ∃ space : List Char, (∀ c ∈ space, isSpace c = true) ∧
      l.write depth (.object members) = '\x7b' :: (l.writeMembers (depth + 1) true members ++ (space ++ ['\x7d'])) := by
  cases members with
  | nil => exact ⟨[], fun c hc => absurd hc List.not_mem_nil, rfl⟩
  | cons entry rest => exact ⟨l.line depth, l.line_isSpace depth, rfl⟩

theorem endsNumber_writeItems (depth : Nat) (items : List Json) {rest : List Char} (h : EndsNumber rest) :
    EndsNumber (l.writeItems depth false items ++ rest) := by
  cases items with
  | nil => exact h
  | cons item more => exact endsNumber_cons (by decide) _

theorem endsNumber_writeMembers (depth : Nat) (members : List (String × Json)) {rest : List Char} (h : EndsNumber rest) :
    EndsNumber (l.writeMembers depth false members ++ rest) := by
  cases members with
  | nil => exact h
  | cons entry more => exact endsNumber_cons (by decide) _

/-- In front of an item the reader passes over the comma, if one is due, and over space. -/
theorem nextItem_write (depth : Nat) (first : Bool) {item : Json} (h : item.IsWhole) (rest : List Char) :
    nextItem first ((if first then [] else [',']) ++ (l.line depth ++ (l.write depth item ++ rest))) =
      .ok (true, l.write depth item ++ rest) := by
  have hspaced := l.skipSpace_spaced (l.line_isSpace depth) depth h rest
  obtain ⟨c, tail, hwritten, _, hopen⟩ := l.write_cons depth h
  rw [hwritten] at hspaced ⊢
  cases first with
  | true => exact nextItem_first hspaced hopen
  | false => exact nextItem_further (skipSpace_cons rfl _) hspaced hopen

theorem nextMember_write (depth : Nat) (first : Bool) (key : String) (rest : List Char) :
    nextMember first ((if first then [] else [',']) ++ (l.line depth ++ (renderString key ++ rest))) =
      .ok (true, behindQuote key rest) := by
  have hspaced : skipSpace (l.line depth ++ (renderString key ++ rest)) = '"' :: behindQuote key rest := by
    rw [skipSpace_append (l.line_isSpace depth), renderString_append]
    exact skipSpace_cons rfl _
  cases first with
  | true => exact nextMember_first hspaced
  | false => exact nextMember_further (skipSpace_cons rfl _) hspaced

/-- The braces of an object are read with what its members give. -/
theorem readValue_members (depth : Nat) (members : List (String × Json)) {levels fuel : Nat} {s rest : List Char}
    (hs : skipSpace s = l.write depth (.object members) ++ rest)
    (hmembers : (l.writeMembers (depth + 1) true members).length < fuel → ∀ space : List Char,
      (∀ c ∈ space, isSpace c = true) →
        readMembers levels true [] fuel (l.writeMembers (depth + 1) true members ++ (space ++ '\x7d' :: rest)) =
          .ok (.ofEntries members, rest))
    (hfuel : (l.write depth (.object members)).length ≤ fuel + 1) :
    readValue (levels + 1) (fuel + 1) s = .ok (.ofEntries members, rest) := by
  obtain ⟨space, hspace, hwritten⟩ := l.write_object depth members
  rw [hwritten] at hs hfuel
  have hbrace : skipSpace s = '\x7b' :: (l.writeMembers (depth + 1) true members ++ (space ++ '\x7d' :: rest)) := by
    rw [hs]
    simp
  rw [readValue_object hbrace]
  refine hmembers ?_ space hspace
  simp only [List.length_cons, List.length_append] at hfuel
  omega

mutual

/-- A value is read back from its text in any layout, if as many levels may open as it has. -/
theorem readValue_write (depth : Nat) (value : Json) {levels fuel : Nat} {s rest : List Char}
    (hs : skipSpace s = l.write depth value ++ rest) (hrest : EndsNumber rest) (hordered : value.IsOrdered)
    (hwhole : value.IsWhole) (hlevels : value.nesting ≤ levels) (hfuel : (l.write depth value).length ≤ fuel) :
    readValue levels fuel s = .ok (value, rest) := by
  obtain ⟨fuel, rfl⟩ : ∃ n, fuel = n + 1 :=
    Nat.exists_eq_add_one_of_ne_zero (Nat.ne_of_gt (Nat.lt_of_lt_of_le (l.length_write_pos depth hwhole) hfuel))
  cases value with
  | null =>
    rw [readValue, hs]
    rfl
  | bool b =>
    cases b with
    | true =>
      rw [readValue, hs]
      rfl
    | false =>
      rw [readValue, hs]
      rfl
  | number n =>
    cases n with
    | float x => cases hwhole
    | int n => exact readValue_int hs hwhole hrest
  | string text => exact readValue_string (hs.trans (renderString_append text rest))
  | array items =>
    obtain ⟨levels, rfl⟩ : ∃ n, levels = n + 1 := Nat.exists_eq_add_one_of_ne_zero (by rw [nesting] at hlevels; omega)
    obtain ⟨space, hspace, hwritten⟩ := l.write_array depth items
    rw [hwritten] at hs hfuel
    have hbracket : skipSpace s = '[' :: (l.writeItems (depth + 1) true items ++ (space ++ ']' :: rest)) := by
      rw [hs]
      simp
    have hitems : (l.writeItems (depth + 1) true items).length < fuel := by
      simp only [List.length_cons, List.length_append] at hfuel
      omega
    rw [readValue_array hbracket,
      readItems_write (depth + 1) items hspace hordered hwhole (Nat.le_of_succ_le_succ hlevels) hitems]
    rfl
  | object members =>
    obtain ⟨levels, rfl⟩ : ∃ n, levels = n + 1 := Nat.exists_eq_add_one_of_ne_zero (by rw [nesting] at hlevels; omega)
    have hmembers : (l.writeMembers (depth + 1) true members).length < fuel → ∀ space : List Char,
        (∀ c ∈ space, isSpace c = true) →
          readMembers levels true [] fuel (l.writeMembers (depth + 1) true members ++ (space ++ '\x7d' :: rest)) =
            .ok (.ofEntries members, rest) := fun hlength space hspace =>
      readMembers_write (depth + 1) members hspace hordered.2 hwhole (Nat.le_of_succ_le_succ hlevels) hlength
    rw [l.readValue_members depth members hs hmembers hfuel, ofEntries, hordered.1.ofList_eq]

theorem readItems_write (depth : Nat) (items : List Json) {levels fuel : Nat} {first : Bool} {seen : List Json}
    {space rest : List Char} (hspace : ∀ c ∈ space, isSpace c = true) (hordered : AreOrdered items)
    (hwhole : AreWhole items) (hlevels : nestingOfItems items ≤ levels)
    (hfuel : (l.writeItems depth first items).length < fuel) :
    readItems levels first seen fuel (l.writeItems depth first items ++ (space ++ ']' :: rest)) =
      .ok (.array (seen.reverse ++ items), rest) := by
  obtain ⟨fuel, rfl⟩ : ∃ n, fuel = n + 1 := Nat.exists_eq_add_one_of_ne_zero (by omega)
  cases items with
  | nil =>
    have hclose : skipSpace (space ++ ']' :: rest) = ']' :: rest := by
      rw [skipSpace_append hspace]
      exact skipSpace_cons rfl _
    rw [writeItems, List.nil_append, readItems, nextItem_close hclose, List.append_nil]
    rfl
  | cons item more =>
    have hends : EndsNumber (l.writeItems depth false more ++ (space ++ ']' :: rest)) :=
      l.endsNumber_writeItems depth more (endsNumber_append hspace (endsNumber_cons (by decide) rest))
    have hpositive := l.length_write_pos depth hwhole.1
    rw [nestingOfItems, Nat.max_le] at hlevels
    simp only [writeItems, List.length_append] at hfuel
    have hitem : readValue levels fuel (l.write depth item ++ (l.writeItems depth false more ++ (space ++ ']' :: rest))) =
        .ok (item, l.writeItems depth false more ++ (space ++ ']' :: rest)) :=
      readValue_write depth item (l.skipSpace_write depth hwhole.1 _) hends hordered.1 hwhole.1 hlevels.1 (by omega)
    have hmore : readItems levels false (item :: seen) fuel (l.writeItems depth false more ++ (space ++ ']' :: rest)) =
        .ok (.array ((item :: seen).reverse ++ more), rest) :=
      readItems_write depth more hspace hordered.2 hwhole.2 hlevels.2 (by omega)
    rw [writeItems, List.append_assoc, List.append_assoc, List.append_assoc, readItems, l.nextItem_write depth first hwhole.1]
    change (readValue levels fuel _ >>= fun read => readItems levels false (read.1 :: seen) fuel read.2) = _
    rw [hitem]
    change readItems levels false (item :: seen) fuel _ = _
    rw [hmore, List.reverse_cons, List.append_assoc, List.singleton_append]

theorem readMembers_write (depth : Nat) (members : List (String × Json)) {levels fuel : Nat} {first : Bool}
    {seen : List (String × Json)} {space rest : List Char} (hspace : ∀ c ∈ space, isSpace c = true)
    (hordered : MembersOrdered members) (hwhole : MembersWhole members) (hlevels : nestingOfMembers members ≤ levels)
    (hfuel : (l.writeMembers depth first members).length < fuel) :
    readMembers levels first seen fuel (l.writeMembers depth first members ++ (space ++ '\x7d' :: rest)) =
      .ok (.ofEntries (seen.reverse ++ members), rest) := by
  obtain ⟨fuel, rfl⟩ : ∃ n, fuel = n + 1 := Nat.exists_eq_add_one_of_ne_zero (by omega)
  cases members with
  | nil =>
    have hclose : skipSpace (space ++ '\x7d' :: rest) = '\x7d' :: rest := by
      rw [skipSpace_append hspace]
      exact skipSpace_cons rfl _
    rw [writeMembers, List.nil_append, readMembers, nextMember_close hclose, List.append_nil]
    rfl
  | cons entry more =>
    obtain ⟨key, value⟩ := entry
    have hends : EndsNumber (l.writeMembers depth false more ++ (space ++ '\x7d' :: rest)) :=
      l.endsNumber_writeMembers depth more (endsNumber_append hspace (endsNumber_cons (by decide) rest))
    have hpositive := l.length_write_pos depth hwhole.1
    rw [nestingOfMembers, Nat.max_le] at hlevels
    simp only [writeMembers, List.length_append, List.length_cons] at hfuel
    have hvalue : readValue levels fuel
        (l.gap ++ (l.write depth value ++ (l.writeMembers depth false more ++ (space ++ '\x7d' :: rest)))) =
          .ok (value, l.writeMembers depth false more ++ (space ++ '\x7d' :: rest)) :=
      readValue_write depth value (l.skipSpace_spaced l.gap_isSpace depth hwhole.1 _) hends hordered.1 hwhole.1 hlevels.1
        (by omega)
    have hmore : readMembers levels false ((key, value) :: seen) fuel
        (l.writeMembers depth false more ++ (space ++ '\x7d' :: rest)) =
          .ok (.ofEntries (((key, value) :: seen).reverse ++ more), rest) :=
      readMembers_write depth more hspace hordered.2 hwhole.2 hlevels.2 (by omega)
    simp only [writeMembers, List.append_assoc, List.cons_append]
    rw [readMembers, l.nextMember_write depth first key]
    change (readString _ [] (behindQuote key _) >>= fun read => readColon read.2 >>= fun colon =>
      readValue levels fuel colon.2 >>= fun inner => readMembers levels false ((read.1, inner.1) :: seen) fuel inner.2) = _
    rw [readString_behindQuote]
    change (readValue levels fuel _ >>= fun inner => readMembers levels false ((key, inner.1) :: seen) fuel inner.2) = _
    rw [hvalue]
    change readMembers levels false ((key, value) :: seen) fuel _ = _
    rw [hmore, List.reverse_cons, List.append_assoc, List.singleton_append]

end

/-! ## Whole texts -/

theorem readChars_of_readValue {s space : List Char} {value : Json} (hspace : ∀ c ∈ space, isSpace c = true)
    (h : readValue depthLimit (2 * s.length + 2) s = .ok (value, space)) : readChars s = .ok value := by
  have hskip : skipSpace space = [] := by
    rw [← List.append_nil space, skipSpace_append hspace]
    rfl
  rw [readChars, h]
  simp only [bind, Except.bind, hskip]

/-- A text that holds nothing but a value, in any layout, is read as that value. -/
theorem readChars_write (depth : Nat) {value : Json} (hordered : value.IsOrdered) (h : value.IsWithinLimits) :
    readChars (l.write depth value) = .ok value := by
  have hs := l.skipSpace_write depth h.whole []
  rw [List.append_nil] at hs
  refine readChars_of_readValue (List.forall_mem_nil _)
    (l.readValue_write depth value ?_ endsNumber_nil hordered h.whole h.nesting (by omega))
  rw [hs, List.append_nil]

/-- Entries in any order are read as the object that has them, whatever space stands behind it. -/
theorem readChars_entries (depth : Nat) {entries : List (String × Json)} (hordered : MembersOrdered entries)
    (h : (Json.object entries).IsWithinLimits) {space : List Char} (hspace : ∀ c ∈ space, isSpace c = true) :
    readChars (l.write depth (.object entries) ++ space) = .ok (.ofEntries entries) := by
  -- The object itself takes one of the 127 levels.
  have hmembers : ∀ fuel, (l.writeMembers (depth + 1) true entries).length < fuel → ∀ inner : List Char,
      (∀ c ∈ inner, isSpace c = true) →
        readMembers 126 true [] fuel (l.writeMembers (depth + 1) true entries ++ (inner ++ '\x7d' :: space)) =
          .ok (.ofEntries entries, space) := fun fuel hlength inner hinner =>
    l.readMembers_write (depth + 1) entries hinner hordered h.whole (Nat.le_of_succ_le_succ h.nesting) hlength
  refine readChars_of_readValue hspace
    (l.readValue_members depth entries (l.skipSpace_write depth h.whole space) (hmembers _) ?_)
  rw [List.length_append]
  omega

end Layout

end Json

end OutOfBand
