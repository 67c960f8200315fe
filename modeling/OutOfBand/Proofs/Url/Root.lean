import OutOfBand.Proofs.Url.Resolution

/-! # Paths below a root

Where a path leads that begins with the root of a service. As long as it does not climb with a double dot, the
reader leaves the segments of the root in place, so it ends at the root or below it. A request completes every
path to one that begins with the root, and behind the root nothing comes but a slash or the end of the path.
-/
namespace OutOfBand

namespace Text

theorem dropWhile_eq_self {p : Char → Bool} {cs : List Char} (h : ∀ c ∈ cs, p c = false) : cs.dropWhile p = cs := by
  cases cs with
  | nil => rfl
  | cons c rest => rw [List.dropWhile_cons, h c List.mem_cons_self, if_neg Bool.false_ne_true]

theorem dropEndWhile_eq_self {p : Char → Bool} {cs : List Char} (h : ∀ c ∈ cs, p c = false) : dropEndWhile p cs = cs := by
  have hback : cs.reverse.dropWhile p = cs.reverse := dropWhile_eq_self fun c hc => h c (List.mem_reverse.mp hc)
  rw [dropEndWhile, hback, List.reverse_reverse]

theorem splitOn_cons_of_pos {p : Char → Bool} {c : Char} (hc : p c = true) (rest : List Char) :
    splitOn p (c :: rest) = [] :: splitOn p rest := by
  simp only [splitOn, hc, ↓reduceIte]

theorem splitOn_ne_nil (p : Char → Bool) (cs : List Char) : splitOn p cs ≠ [] := by
  cases cs with
  | nil => simp [splitOn]
  | cons c rest =>
    unfold splitOn
    split
    · simp
    · split
      · simp
      · simp

theorem splitOn_append_cons {p : Char → Bool} {c : Char} (hc : p c = true) (front back : List Char) :
    splitOn p (front ++ c :: back) = splitOn p front ++ splitOn p back := by
  induction front with
  | nil => rw [List.nil_append, splitOn_cons_of_pos hc]; rfl
  | cons d rest ih =>
    rw [List.cons_append]
    cases hd : p d with
    | true => rw [splitOn_cons_of_pos hd, splitOn_cons_of_pos hd, ih, List.cons_append]
    | false =>
      obtain ⟨part, parts, hparts⟩ := List.exists_cons_of_ne_nil (splitOn_ne_nil p rest)
      have hsplit : splitOn p (rest ++ c :: back) = part :: (parts ++ splitOn p back) := by
        rw [ih, hparts, List.cons_append]
      simp only [splitOn, hd, hsplit, hparts, Bool.false_eq_true, ↓reduceIte, List.cons_append]

theorem splitOn_eq_singleton {p : Char → Bool} {cs : List Char} (h : ∀ c ∈ cs, p c = false) : splitOn p cs = [cs] := by
  induction cs with
  | nil => rfl
  | cons c rest ih =>
    have hc : p c = false := h c List.mem_cons_self
    have hrest : splitOn p rest = [rest] := ih (fun d hd => h d (List.mem_cons_of_mem c hd))
    simp only [splitOn, hc, hrest, Bool.false_eq_true, ↓reduceIte]

end Text

namespace Url

/-! ## Segments -/

/-- The segments of the path of a text, the one before the first slash included. -/
def readSegments (special : Bool) (cs : List Char) : List (List Char) := Text.splitOn (isSlash special) (pathText cs)

/-- A segment that stays as it is when it is placed on a path. -/
structure IsPlainSegment (segment : List Char) : Prop where
  notDot : isDot segment = false
  notDoubleDot : isDoubleDot segment = false
  escaped : percentEncode inPath segment = segment

theorem placeSegments_plain {segments : List (List Char)} (h : ∀ segment ∈ segments, IsPlainSegment segment)
    {rest : List (List Char)} (hrest : rest ≠ []) (path : List (List Char)) :
    placeSegments path (segments ++ rest) = placeSegments (segments.reverse ++ path) rest := by
  induction segments generalizing path with
  | nil => rfl
  | cons segment segments ih =>
    have hfirst := h segment List.mem_cons_self
    have hmore : segments ++ rest ≠ [] := by
      intro hnil
      exact hrest (List.append_eq_nil_iff.mp hnil).2
    obtain ⟨next, more, hnext⟩ := List.exists_cons_of_ne_nil hmore
    have hstep : placeSegments path (segment :: (segments ++ rest)) = placeSegments (segment :: path) (segments ++ rest) := by
      rw [hnext]
      simp only [placeSegments, hfirst.notDot, hfirst.notDoubleDot, hfirst.escaped, Bool.false_eq_true, ↓reduceIte]
    rw [List.cons_append, hstep, ih (fun s hs => h s (List.mem_cons_of_mem _ hs)), List.reverse_cons, List.append_assoc,
      List.singleton_append]

/-- Without a double dot segments are only added. -/
theorem placeSegments_descends {segments : List (List Char)} (hne : segments ≠ [])
    (h : ∀ segment ∈ segments, isDoubleDot segment = false) (path : List (List Char)) :
    ∃ added, added ≠ [] ∧ placeSegments path segments = added ++ path := by
  fun_induction placeSegments path segments with
  | case1 path => exact absurd rfl hne
  | case2 path last hdots => rw [h last List.mem_cons_self] at hdots; cases hdots
  | case3 path last _ _ => exact ⟨[[]], by simp, rfl⟩
  | case4 path last _ _ => exact ⟨[percentEncode inPath last], by simp, rfl⟩
  | case5 path segment rest _ hdots ih => rw [h segment List.mem_cons_self] at hdots; cases hdots
  | case6 path segment rest hmore _ _ ih => exact ih hmore (fun s hs => h s (List.mem_cons_of_mem _ hs))
  | case7 path segment rest hmore _ _ ih =>
    obtain ⟨added, _, hadded⟩ := ih hmore (fun s hs => h s (List.mem_cons_of_mem _ hs))
    exact ⟨added ++ [percentEncode inPath segment], by simp, by rw [hadded, List.append_assoc, List.singleton_append]⟩

/-! ## The path of a rooted text -/

theorem cut_cons_of_ne {c d : Char} (h : d ≠ c) (ys : List Char) : (cut c (d :: ys)).1 = d :: (cut c ys).1 := by
  have hnot : c ∉ [d] := by simpa using h.symm
  exact cut_append hnot ys

/-- A path that goes on from a text goes on with a slash, a query or nothing at all. -/
def GoesOn (rest : List Char) : Prop := rest = [] ∨ ∃ c more, rest = c :: more ∧ (c = '/' ∨ c = '?')

/-- What goes on from a text is read as nothing or as something behind a slash. -/
theorem pathText_goesOn {c : Char} {p : List Char} (hp : (c :: p).all isSolid = true) {rest : List Char}
    (h : GoesOn rest) : pathText (c :: p ++ rest) = c :: p ∨ ∃ more, pathText (c :: p ++ rest) = c :: p ++ '/' :: more := by
  rw [pathText_append hp]
  rcases h with rfl | ⟨d, more, rfl, hd⟩
  · left
    exact List.append_nil _
  have hback : Text.dropEndWhile isOuterBlank (d :: more) = d :: Text.dropEndWhile isOuterBlank more := by
    have hblank : isOuterBlank d = false := by rcases hd with rfl | rfl <;> decide
    exact dropEndWhile_append_cons hblank [] more
  have hinner : isInnerBlank d = false := by rcases hd with rfl | rfl <;> decide
  rw [hback, List.filter_cons, hinner, Bool.not_false, if_pos rfl]
  rcases hd with rfl | rfl
  · right
    rw [cut_cons_of_ne (by decide), cut_cons_of_ne (by decide)]
    exact ⟨_, rfl⟩
  · left
    rw [cut_cons_of_ne (by decide)]
    simp [cut]

/-! ## Roots -/

/-- A root: plain segments, each behind a slash, and no character that a reader leaves out. -/
structure IsRootPath (root : List Char) : Prop where
  rooted : IsRooted root
  solid : root.all isSolid = true
  plain : ∀ special, ∃ first more, Text.splitOn (isSlash special) root.tail = first :: more ∧
    (∀ segment ∈ first :: more, IsPlainSegment segment) ∧ Path.chars (.segments (first :: more)) = root

/-- The path stays at a root or below it. -/
def IsWithin (root : List Char) (path : Path) : Prop := path.chars = root ∨ ∃ below, path.chars = root ++ '/' :: below

theorem Path.chars_append (front back : List (List Char)) :
    Path.chars (.segments (front ++ back)) = Path.chars (.segments front) ++ Path.chars (.segments back) := by
  simp only [Path.chars, List.flatMap_append]

theorem IsRootPath.pathFrom_self {root : List Char} (h : IsRootPath root) (special : Bool) :
    IsWithin root (pathFrom special [] root.tail) := by
  obtain ⟨first, more, hsplit, hplain, hchars⟩ := h.plain special
  left
  -- The last segment is what remains when the ones before it have been placed.
  obtain ⟨front, last, hlast⟩ : ∃ front last, first :: more = front ++ [last] :=
    ⟨(first :: more).dropLast, (first :: more).getLast (by simp), (List.dropLast_concat_getLast (by simp)).symm⟩
  have hend := hplain last (by rw [hlast]; simp)
  have hplaced : placeSegments front.reverse [last] = last :: front.reverse := by
    simp only [placeSegments, hend.notDot, hend.notDoubleDot, hend.escaped, Bool.false_eq_true, ↓reduceIte]
  rw [pathFrom, hsplit, hlast, List.reverse_nil, placeSegments_plain (fun s hs => hplain s (by rw [hlast]; simp [hs])) (by simp),
    List.append_nil, hplaced, List.reverse_cons, List.reverse_reverse, ← hlast, hchars]

theorem IsRootPath.pathFrom_below {root : List Char} (h : IsRootPath root) (special : Bool) {more : List Char}
    (hdots : ∀ segment ∈ Text.splitOn (isSlash special) more, isDoubleDot segment = false) :
    IsWithin root (pathFrom special [] (root.tail ++ '/' :: more)) := by
  obtain ⟨first, segments, hsplit, hplain, hchars⟩ := h.plain special
  obtain ⟨added, hadded, hplaced⟩ :=
    placeSegments_descends (Text.splitOn_ne_nil (isSlash special) more) hdots (first :: segments).reverse
  right
  have hslash : isSlash special '/' = true := by simp [isSlash]
  obtain ⟨below, others, hbelow⟩ := List.exists_cons_of_ne_nil (List.reverse_ne_nil_iff.mpr hadded)
  refine ⟨below ++ Path.chars (.segments others), ?_⟩
  rw [pathFrom, Text.splitOn_append_cons hslash, hsplit, List.reverse_nil,
    placeSegments_plain hplain (Text.splitOn_ne_nil _ more), List.append_nil, hplaced, List.reverse_append,
    List.reverse_reverse, Path.chars_append, hchars, hbelow]
  simp [Path.chars]

/-- A text that goes on from a root leads to the root or below it, unless it climbs. -/
theorem readChars_within {base url : Url} (hb : base.IsHierarchical) {root rest : List Char} (hroot : IsRootPath root)
    (hrest : GoesOn rest) (hurl : readChars (some base) (root ++ rest) = .ok url)
    (hdots : ∀ segment ∈ readSegments (isSpecial base.scheme) (root ++ rest), isDoubleDot segment = false) :
    IsWithin root url.path := by
  rw [readChars_rooted_eq hb (hroot.rooted.append rest)] at hurl
  cases hurl
  dsimp only
  obtain ⟨c, tail, hcons⟩ : ∃ c tail, root = c :: tail := by
    obtain ⟨c, tail, hcons, _⟩ := hroot.rooted
    exact ⟨'/', c :: tail, hcons⟩
  have hsolid := hroot.solid
  rw [hcons] at hsolid
  rcases pathText_goesOn hsolid hrest with hself | ⟨more, hbelow⟩
  · rw [← hcons] at hself
    rw [hself]
    exact hroot.pathFrom_self _
  · rw [← hcons] at hbelow
    have hslash : isSlash (isSpecial base.scheme) '/' = true := by simp [isSlash]
    have htail : (root ++ '/' :: more).tail = root.tail ++ '/' :: more := by rw [hcons]; rfl
    rw [readSegments, hbelow, Text.splitOn_append_cons hslash] at hdots
    rw [hbelow, htail]
    exact hroot.pathFrom_below _ (fun segment hsegment => hdots segment (List.mem_append_right _ hsegment))

end Url

/-! ## Requests -/

open Url

theorem Family.root_isRootPath (family : Family) : IsRootPath family.root.toList := by
  have hplain : ∀ segment ∈ ["redfish", "v1", "api", "omevv", "GatewayService"].map String.toList,
      isDot segment = false ∧ isDoubleDot segment = false ∧ percentEncode inPath segment = segment := by decide +kernel
  have hsegments : ∀ segments : List String, segments ⊆ ["redfish", "v1", "api", "omevv", "GatewayService"] →
      ∀ segment ∈ segments.map String.toList, IsPlainSegment segment := by
    intro segments hsub segment hsegment
    obtain ⟨hdot, hdots, hescaped⟩ := hplain segment (List.map_subset _ hsub hsegment)
    exact ⟨hdot, hdots, hescaped⟩
  refine ⟨family.root_isRooted, by cases family <;> decide, fun special => ?_⟩
  cases family with
  | redfish =>
    exact ⟨"redfish".toList, ["v1".toList], by cases special <;> decide, hsegments ["redfish", "v1"] (by decide), by decide⟩
  | ome => exact ⟨"api".toList, [], by cases special <;> decide, hsegments ["api"] (by decide), by decide⟩
  | omevv =>
    exact ⟨"omevv".toList, ["GatewayService".toList, "v1".toList], by cases special <;> decide,
      hsegments ["omevv", "GatewayService", "v1"] (by decide), by decide⟩

theorem Http.fullPath_goesOn (root path : List Char) : ∃ rest, fullPath root path = root ++ rest ∧ GoesOn rest := by
  simp only [fullPath]
  split
  case isTrue h =>
    simp only [isUnderRoot, Bool.and_eq_true] at h
    obtain ⟨rest, hrest⟩ := List.isPrefixOf_iff_prefix.mp h.1
    refine ⟨rest, hrest.symm, ?_⟩
    have hnext := h.2
    rw [← hrest, List.drop_left] at hnext
    cases rest with
    | nil => exact Or.inl rfl
    | cons c more =>
      simp only [Bool.or_eq_true, beq_iff_eq] at hnext
      exact Or.inr ⟨c, more, rfl, hnext⟩
  case isFalse =>
    split
    · exact ⟨[], (List.append_nil root).symm, Or.inl rfl⟩
    · exact ⟨_, rfl, Or.inr ⟨'/', _, rfl, Or.inl rfl⟩⟩

end OutOfBand
