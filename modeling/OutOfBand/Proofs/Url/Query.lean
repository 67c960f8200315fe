import OutOfBand.Proofs.Json.Decode
import OutOfBand.Proofs.Url.Percent
import OutOfBand.Proofs.Url.Root

/-! # Queries

The query of a request: what its path brings along, and behind it the parameters. No escaping undoes another. A parameter
is written with characters that stand in every query and never with an ampersand, an equals sign or a plus, so whoever
takes the added part apart reads just the parameters; and what a path brings along is escaped when the path is read, so it
stays as it is when the parameters are put in.
-/
namespace OutOfBand

/-! ## Parts between separators -/

theorem Text.splitOn_joinWith {c : Char} {parts : List (List Char)} (hne : parts ≠ []) (h : ∀ part ∈ parts, c ∉ part) :
    splitOn (· == c) (Url.joinWith c parts) = parts := by
  have hwhole : ∀ part ∈ parts, splitOn (· == c) part = [part] := by
    intro part hpart
    refine splitOn_eq_singleton fun d hd => ?_
    rw [beq_eq_false_iff_ne]
    rintro rfl
    exact h part hpart hd
  induction parts with
  | nil => exact absurd rfl hne
  | cons part rest ih =>
    cases rest with
    | nil => exact hwhole part List.mem_cons_self
    | cons next more =>
      have hrest := ih (List.cons_ne_nil next more) (fun p hp => h p (List.mem_cons_of_mem _ hp))
        (fun p hp => hwhole p (List.mem_cons_of_mem _ hp))
      rw [Url.joinWith, splitOn_append_cons (p := (· == c)) (beq_self_eq_true c), hwhole part List.mem_cons_self, hrest]
      · rfl
      · exact List.cons_ne_nil next more

namespace Url

theorem mem_joinWith {c d : Char} {parts : List (List Char)} (h : d ∈ joinWith c parts) :
    d = c ∨ ∃ part ∈ parts, d ∈ part := by
  fun_induction joinWith c parts with
  | case1 => cases h
  | case2 part => exact Or.inr ⟨part, List.mem_singleton.mpr rfl, h⟩
  | case3 part rest _ ih =>
    rcases List.mem_append.mp h with hpart | hrest
    · exact Or.inr ⟨part, List.mem_cons_self, hpart⟩
    rcases List.mem_cons.mp hrest with rfl | hrest
    · exact Or.inl rfl
    · rcases ih hrest with rfl | ⟨other, hother, hd⟩
      · exact Or.inl rfl
      · exact Or.inr ⟨other, List.mem_cons_of_mem _ hother, hd⟩

/-! ## What stands unescaped -/

/-- The character is left as it is where these are escaped. -/
def Stands (escaped : Char → Bool) (c : Char) : Prop := 0x20 ≤ c.toNat ∧ c.toNat ≤ 0x7E ∧ escaped c = false

theorem percentEncode_eq_self {escaped : Char → Bool} {cs : List Char} (h : ∀ c ∈ cs, Stands escaped c) :
    percentEncode escaped cs = cs := by
  induction cs with
  | nil => rfl
  | cons c rest ih =>
    obtain ⟨hlow, hhigh, hescaped⟩ := h c List.mem_cons_self
    have hc : percentChar escaped c = [c] := by
      rw [percentChar, hescaped, if_neg]
      simp
      omega
    have hrest : percentEncode escaped rest = rest := ih fun d hd => h d (List.mem_cons_of_mem _ hd)
    rw [percentEncode, List.flatMap_cons, hc]
    exact congrArg (c :: ·) hrest

/-- What is written is an escape, or a character of the text that may stand. -/
theorem isEscape_or_stands_of_mem {escaped : Char → Bool} {cs : List Char} {c : Char} (h : c ∈ percentEncode escaped cs) :
    IsEscape c ∨ Stands escaped c := by
  obtain ⟨d, _, hd⟩ := List.mem_flatMap.mp h
  unfold percentChar at hd
  split at hd
  case isTrue =>
    obtain ⟨b, _, hb⟩ := List.mem_flatMap.mp hd
    exact Or.inl (isEscape_of_mem_percentByte hb)
  case isFalse hstands =>
    rw [List.mem_singleton.mp hd]
    simp only [Bool.or_eq_true, decide_eq_true_eq, not_or, Bool.not_eq_true] at hstands
    exact Or.inr ⟨by omega, by omega, hstands.2⟩

theorem stands_of_isEscape {c : Char} (h : IsEscape c) : Stands inSpecialQuery c := by
  rcases h with rfl | ⟨n, hn, rfl⟩
  · unfold Stands
    decide
  · revert n
    unfold Stands
    decide

theorem not_isInnerBlank_of_stands {escaped : Char → Bool} {c : Char} (h : Stands escaped c) : isInnerBlank c = false := by
  rw [Bool.eq_false_iff]
  intro hblank
  simp only [isInnerBlank, Bool.or_eq_true, beq_iff_eq] at hblank
  have hlow := h.1
  rcases hblank with (rfl | rfl) | rfl <;> exact absurd hlow (by decide)

/-- A space stands in no query. -/
theorem lt_toNat_of_stands {c : Char} (h : Stands inSpecialQuery c) : ' '.toNat < c.toNat := by
  refine Nat.lt_of_le_of_ne h.1 fun hspace => ?_
  rw [Char.toNat_inj] at hspace
  rw [← hspace] at h
  exact absurd h.2.2 (by decide)

/-! ## Parameters -/

/-- What the form encoding and the plus behind it come to. -/
theorem encodeComponent_eq (s : String) : encodeComponent s = percentEncode (!isUnreserved ·) s.toList := by
  rw [encodeComponent, formEncode, List.flatMap_assoc, percentEncode]
  congr 1
  funext c
  by_cases hspace : c = ' '
  · rw [hspace]
    decide +kernel
  · -- A plus is in no escape and is escaped itself, so there is none to be replaced.
    have hplus : ∀ d ∈ percentChar (!isUnreserved ·) c, (if d = '+' then ['%', '2', '0'] else [d]) = [d] := by
      intro d hd
      rw [if_neg]
      rintro rfl
      have hmem : '+' ∈ percentEncode (!isUnreserved ·) [c] := by simpa [percentEncode] using hd
      rcases isEscape_or_stands_of_mem hmem with hescape | hstands
      · exact absurd hescape (by unfold IsEscape; decide)
      · exact absurd hstands.2.2 (by decide)
    rw [if_neg hspace, List.flatMap_def, List.map_congr_left hplus, ← List.flatMap_def, List.flatMap_singleton']

theorem isEscape_or_isUnreserved_of_mem {s : String} {c : Char} (h : c ∈ encodeComponent s) :
    IsEscape c ∨ isUnreserved c = true ∧ Stands inSpecialQuery c := by
  rw [encodeComponent_eq] at h
  rcases isEscape_or_stands_of_mem h with hescape | ⟨hlow, hhigh, hunreserved⟩
  · exact Or.inl hescape
  rw [Bool.not_eq_false'] at hunreserved
  refine Or.inr ⟨hunreserved, hlow, hhigh, ?_⟩
  rw [Bool.eq_false_iff]
  intro hspecial
  have hnone : ∀ d ∈ [' ', '"', '#', '<', '>', '\''], isUnreserved d = false := forall_mem_of_all (by decide)
  have hmem : c ∈ [' ', '"', '#', '<', '>', '\''] := by simpa [inSpecialQuery, inQuery, or_assoc] using hspecial
  rw [hnone c hmem] at hunreserved
  cases hunreserved

theorem notMem_encodeComponent {c : Char} (hc : c ∈ ['+', '&', '=']) (s : String) : c ∉ encodeComponent s := by
  intro h
  rcases isEscape_or_isUnreserved_of_mem h with hescape | ⟨hunreserved, _⟩
  · have hnone : ∀ d ∈ ['+', '&', '='], ¬ IsEscape d := by
      unfold IsEscape
      exact forall_mem_of_all (by decide)
    exact hnone c hc hescape
  · have hnone : ∀ d ∈ ['+', '&', '='], isUnreserved d = false := forall_mem_of_all (by decide)
    rw [hnone c hc] at hunreserved
    cases hunreserved

theorem notMem_encodePair {c : Char} (hc : c ∈ ['+', '&']) (entry : String × String) : c ∉ encodePair entry := by
  have hne : c ≠ '=' := by
    rintro rfl
    exact absurd hc (by decide)
  have hreserved : c ∈ ['+', '&', '='] := List.mem_append_left ['='] hc
  rw [encodePair, List.mem_append, List.mem_cons, not_or, not_or]
  exact ⟨notMem_encodeComponent hreserved entry.1, hne, notMem_encodeComponent hreserved entry.2⟩

theorem plus_notMem_encodePairs (entries : Fields String) : '+' ∉ encodePairs entries := by
  intro h
  rcases mem_joinWith h with hamp | ⟨pair, hpair, hmem⟩
  · exact absurd hamp (by decide)
  · obtain ⟨entry, _, rfl⟩ := List.mem_map.mp hpair
    exact notMem_encodePair (by decide) entry hmem

theorem stands_of_mem_encodePairs {entries : Fields String} {c : Char} (h : c ∈ encodePairs entries) :
    Stands inSpecialQuery c := by
  have hcomponent : ∀ s, c ∈ encodeComponent s → Stands inSpecialQuery c := by
    intro s hs
    rcases isEscape_or_isUnreserved_of_mem hs with hescape | ⟨_, hstands⟩
    · exact stands_of_isEscape hescape
    · exact hstands
  rcases mem_joinWith h with rfl | ⟨pair, hpair, hmem⟩
  · unfold Stands
    decide
  obtain ⟨entry, _, rfl⟩ := List.mem_map.mp hpair
  rcases List.mem_append.mp hmem with hkey | hvalue
  · exact hcomponent entry.1 hkey
  rcases List.mem_cons.mp hvalue with rfl | hvalue
  · unfold Stands
    decide
  · exact hcomponent entry.2 hvalue

/-- The pairs that a query spells: what stands between ampersands, parted at its first equals sign and unescaped. -/
def queryPairs (query : List Char) : List (String × String) :=
  (Text.splitOn (· == '&') query).map (fun pair =>
    let (key, value) := cut '=' pair
    (Text.decodeUtf8 (percentDecode key), Text.decodeUtf8 (percentDecode (value.getD []))))

theorem decode_encodeComponent (s : String) : Text.decodeUtf8 (percentDecode (encodeComponent s)) = s := by
  rw [encodeComponent_eq, percentDecode_percentEncode fun _ => by decide, String.ofList_toList, Text.decodeUtf8_encodeUtf8]

/-- Parameters are read back as they were, in their order. -/
theorem queryPairs_encodePairs {entries : Fields String} (h : entries ≠ []) : queryPairs (encodePairs entries) = entries := by
  have hparts : Text.splitOn (· == '&') (encodePairs entries) = List.map encodePair entries := by
    refine Text.splitOn_joinWith (by simpa using h) fun part hpart => ?_
    obtain ⟨entry, _, rfl⟩ := List.mem_map.mp hpart
    exact notMem_encodePair (by decide) entry
  have hpair : ∀ entry ∈ entries, (fun pair => (Text.decodeUtf8 (percentDecode (cut '=' pair).1),
      Text.decodeUtf8 (percentDecode ((cut '=' pair).2.getD [])))) (encodePair entry) = entry := by
    intro entry _
    have hcut : cut '=' (encodePair entry) = (encodeComponent entry.1, some (encodeComponent entry.2)) :=
      cut_of_notMem (notMem_encodeComponent (by decide) entry.1) _
    simp only [hcut, Option.getD_some, decode_encodeComponent]
  rw [queryPairs, hparts, List.map_map]
  exact (List.map_congr_left hpair).trans (List.map_id _)

/-- Parameters go behind a query that may stand, and the query stays as it is. -/
theorem addParameters_query {url : Url} (hs : isSpecial url.scheme = true) {own : Option (List Char)} (hquery : url.query = own)
    (hown : ∀ c ∈ own.getD [], Stands inSpecialQuery c) {entries : Fields String} (h : entries ≠ []) :
    (url.addParameters entries).query =
      some (if own.getD [] = [] then encodePairs entries else own.getD [] ++ '&' :: encodePairs entries) := by
  have hset : ∀ cs : List Char, (∀ c ∈ cs, Stands inSpecialQuery c) → (url.setQuery cs).query = some cs := by
    intro cs hcs
    have hfilter : cs.filter (!isInnerBlank ·) = cs := by
      rw [List.filter_eq_self]
      intro c hc
      rw [not_isInnerBlank_of_stands (hcs c hc), Bool.not_false]
    simp only [setQuery, queryEscape, hs, hfilter, if_pos, percentEncode_eq_self hcs]
  have hempty : entries.isEmpty = false := by simpa using h
  rw [addParameters, hempty, if_neg Bool.false_ne_true, hquery]
  cases own with
  | none => exact hset _ fun c hc => stands_of_mem_encodePairs hc
  | some cs =>
    cases cs with
    | nil => exact hset _ fun c hc => stands_of_mem_encodePairs hc
    | cons first more =>
      refine hset _ fun c hc => ?_
      rcases List.mem_append.mp hc with hfront | hback
      · exact hown c hfront
      rcases List.mem_cons.mp hback with rfl | hpairs
      · unfold Stands
        decide
      · exact stands_of_mem_encodePairs hpairs

/-! ## The query of a text -/

/-- What follows the first question mark of a text, up to a number sign. Blanks at the end of the text, and tabs and line
breaks in it, do not count. -/
def queryText? (cs : List Char) : Option (List Char) :=
  (cut '?' (cut '#' ((Text.dropEndWhile isOuterBlank cs).filter (!isInnerBlank ·))).1).2

/-- The text holds nothing that begins a query or a fragment. -/
def IsBeforeQuery (cs : List Char) : Prop := ∀ c ∈ cs, c ≠ '?' ∧ c ≠ '#'

theorem queryText?_append {front : List Char} (h : IsBeforeQuery front) (rest : List Char) :
    queryText? (front ++ rest) = queryText? rest := by
  obtain ⟨kept, hkept, hback⟩ : ∃ kept, kept ⊆ front ∧
      Text.dropEndWhile isOuterBlank (front ++ rest) = kept ++ Text.dropEndWhile isOuterBlank rest := by
    simp only [Text.dropEndWhile, List.reverse_append, List.dropWhile_append]
    cases hrest : rest.reverse.dropWhile isOuterBlank with
    | nil =>
      exact ⟨_, fun c hc => mem_of_mem_dropEndWhile hc, by rw [if_pos (by rfl)]; exact (List.append_nil _).symm⟩
    | cons c more => exact ⟨front, List.Subset.refl front, by simp⟩
  have hnot : '#' ∉ kept.filter (!isInnerBlank ·) ∧ '?' ∉ kept.filter (!isInnerBlank ·) :=
    ⟨fun hmem => (h _ (hkept (List.mem_filter.mp hmem).1)).2 rfl, fun hmem => (h _ (hkept (List.mem_filter.mp hmem).1)).1 rfl⟩
  have hsecond : ∀ zs : List Char, (cut '?' (kept.filter (!isInnerBlank ·) ++ zs)).2 = (cut '?' zs).2 := by
    intro zs
    have hne : ∀ d ∈ kept.filter (!isInnerBlank ·), (d != '?') = true := by
      intro d hd
      rw [bne_iff_ne]
      rintro rfl
      exact hnot.2 hd
    simp only [cut, List.dropWhile_append_of_pos hne]
  rw [queryText?, hback, List.filter_append, cut_append hnot.1, hsecond]
  rfl

theorem isBeforeQuery_of_isOuterBlank {cs : List Char} (h : ∀ c ∈ cs, isOuterBlank c = true) : IsBeforeQuery cs := by
  intro c hc
  have hblank := h c hc
  constructor
  · rintro rfl
    exact absurd hblank (by decide)
  · rintro rfl
    exact absurd hblank (by decide)

/-- A reader of URLs takes this for the query. -/
theorem cut_significant (cs : List Char) : (cut '?' (cut '#' (significant cs)).1).2 = queryText? cs := by
  have hfront : IsBeforeQuery (cs.takeWhile isOuterBlank) :=
    isBeforeQuery_of_isOuterBlank fun c hc => List.all_eq_true.mp List.all_takeWhile c hc
  have hdropped : queryText? (cs.dropWhile isOuterBlank) = queryText? cs := by
    rw [← queryText?_append hfront, List.takeWhile_append_dropWhile]
  rw [← hdropped]
  rfl

/-- Behind a question mark what may stand in a query is taken as it is. -/
theorem queryText?_mark {text : List Char} (h : ∀ c ∈ text, Stands inSpecialQuery c) : queryText? ('?' :: text) = some text := by
  have hsolid : ∀ c ∈ '?' :: text, isOuterBlank c = false ∧ isInnerBlank c = false ∧ c ≠ '#' := by
    intro c hc
    rcases List.mem_cons.mp hc with rfl | hc
    · decide
    have hstands := h c hc
    refine ⟨decide_eq_false (Nat.not_le.mpr (lt_toNat_of_stands hstands)), not_isInnerBlank_of_stands hstands, ?_⟩
    · rintro rfl
      exact absurd hstands.2.2 (by decide)
  have hfilter : ('?' :: text).filter (!isInnerBlank ·) = '?' :: text := by
    rw [List.filter_eq_self]
    intro c hc
    rw [(hsolid c hc).2.1, Bool.not_false]
  have hnumber : cut '#' ('?' :: text) = ('?' :: text, none) := cut_eq_self fun hmem => (hsolid _ hmem).2.2 rfl
  have hmark : cut '?' ('?' :: text) = ([], some text) := cut_of_notMem List.not_mem_nil text
  rw [queryText?, Text.dropEndWhile_eq_self fun c hc => (hsolid c hc).1, hfilter, hnumber, hmark]

end Url

/-! ## The query of a request -/

theorem Family.root_isBeforeQuery (family : Family) : Url.IsBeforeQuery family.root.toList := by
  cases family with
  | redfish => exact Url.forall_mem_of_all (by decide)
  | ome => exact Url.forall_mem_of_all (by decide)
  | omevv => exact Url.forall_mem_of_all (by decide)

namespace Http

open Url

theorem queryText?_fullPath {root : List Char} (hroot : IsBeforeQuery root) (path : List Char) :
    queryText? (fullPath root path) = queryText? (Text.trimChars path) := by
  have hslashes : IsBeforeQuery ((Text.trimChars path).takeWhile (· == '/')) := by
    intro c hc
    have hslash : c = '/' := by simpa using List.all_eq_true.mp List.all_takeWhile c hc
    rw [hslash]
    decide
  have hrelative : queryText? ((Text.trimChars path).dropWhile (· == '/')) = queryText? (Text.trimChars path) := by
    rw [← queryText?_append hslashes, List.takeWhile_append_dropWhile]
  simp only [fullPath]
  split
  · rfl
  rw [← hrelative]
  split
  case isTrue hempty =>
    rw [List.isEmpty_iff.mp hempty]
    have hnone := queryText?_append hroot []
    rwa [List.append_nil] at hnone
  case isFalse =>
    have hslash : IsBeforeQuery ['/'] := by
      intro c hc
      rw [List.mem_singleton.mp hc]
      decide
    rw [queryText?_append hroot]
    exact queryText?_append hslash _

/-- The query that the path of a request brings along. -/
def RequestSpec.ownQuery? (spec : RequestSpec) : Option (List Char) := queryText? (Text.trimChars spec.path.toList)

theorem RequestSpec.ownQuery?_eq_some {spec : RequestSpec} {front text : List Char} (hpath : spec.path.toList = front ++ '?' :: text)
    (hfront : IsBeforeQuery front) (htext : ∀ c ∈ text, Stands inSpecialQuery c) : spec.ownQuery? = some text := by
  have hblank : ∀ c ∈ text, Text.isBlank c = false := by
    intro c hc
    have hlow := lt_toNat_of_stands (htext c hc)
    have hhigh := (htext c hc).2.1
    simp only [Text.isBlank, show ' '.toNat = 0x20 from rfl] at hlow ⊢
    simp
    omega
  have hstart : (front ++ '?' :: text).dropWhile Text.isBlank = front.dropWhile Text.isBlank ++ '?' :: text := by
    rw [List.dropWhile_append]
    cases hfirst : front.dropWhile Text.isBlank with
    | nil => rfl
    | cons c more => rfl
  have hkept : IsBeforeQuery (front.dropWhile Text.isBlank) := fun c hc => hfront c ((List.dropWhile_suffix _).subset hc)
  rw [ownQuery?, hpath, Text.trimChars, hstart, dropEndWhile_append_cons (by decide), Text.dropEndWhile_eq_self hblank,
    queryText?_append hkept, queryText?_mark htext]

/-- Every request has a query, or none, as its path and its parameters say. What its path brings along comes first, escaped
as in every URL, and so as it stands there if all of it may stand in a query. Without parameters that is all. Parameters
come behind it and behind an ampersand, which is left out if there is nothing before them. No plus is in the part that is
added, and taken apart at its ampersands and equals signs and unescaped it gives the parameters in their order. -/
theorem resolve_query {e : Endpoint} {base : Url} (hbase : e.baseUrl = .ok base) (family : Family) (spec : RequestSpec) :
    ∃ url own, spec.resolve base family.root = .ok url ∧ own = spec.ownQuery?.map (percentEncode inSpecialQuery) ∧
      (∀ front text, spec.path.toList = front ++ '?' :: text → IsBeforeQuery front →
        (∀ c ∈ text, Stands inSpecialQuery c) → own = some text) ∧
      (spec.query = [] → url.query = own) ∧
      (spec.query ≠ [] → ∃ part,
        url.query = some (if own.getD [] = [] then part else own.getD [] ++ '&' :: part) ∧
        '+' ∉ part ∧ queryPairs part = spec.query) := by
  generalize hown : spec.ownQuery?.map (percentEncode inSpecialQuery) = own
  obtain ⟨url, hread, hspecial, hquery⟩ : ∃ url, readChars (some base) (fullPath family.root.toList spec.path.toList) = .ok url ∧
      isSpecial url.scheme = true ∧ url.query = own := by
    have hspecial := Endpoint.baseUrl_isSpecial hbase
    obtain ⟨rest, hfull⟩ := fullPath_eq_append family.root.toList spec.path.toList
    have hread := readChars_rooted_eq (Endpoint.baseUrl_isHierarchical hbase) (family.root_isRooted.append rest)
    rw [← hfull, cut_significant, queryText?_fullPath family.root_isBeforeQuery] at hread
    refine ⟨_, hread, hspecial, ?_⟩
    rw [← hown, queryEscape, hspecial, if_pos rfl, RequestSpec.ownQuery?]
  have hstands : ∀ c ∈ own.getD [], Stands inSpecialQuery c := by
    intro c hc
    rw [← hown] at hc
    cases htext : spec.ownQuery? with
    | none =>
      rw [htext] at hc
      cases hc
    | some text =>
      rw [htext] at hc
      rcases isEscape_or_stands_of_mem hc with hescape | hstands
      · exact stands_of_isEscape hescape
      · exact hstands
  have hresolve : spec.resolve base family.root = .ok (url.addParameters spec.query) := by
    rw [RequestSpec.resolve, hread]
    rfl
  refine ⟨_, own, hresolve, rfl, fun front text hpath hfront htext => ?_, fun hnone => ?_,
    fun hsome => ⟨encodePairs spec.query, ?_, plus_notMem_encodePairs spec.query, queryPairs_encodePairs hsome⟩⟩
  · rw [← hown, RequestSpec.ownQuery?_eq_some hpath hfront htext, Option.map_some, percentEncode_eq_self htext]
  · rw [addParameters, hnone]
    exact hquery
  · exact addParameters_query hspecial hquery hstands hsome

/-- A page that a link names, with a fragment behind it, and parameters that hold every kind of separator. -/
theorem resolve_query_separators :
    let e : Endpoint := ⟨"192.168.0.1", 443, .https, .system, 30000⟩
    let base : Url := ⟨"https".toList, some ⟨[], none, .ipv4 0xC0A80001, none⟩, .segments [[]], none, none⟩
    let parameters : Fields String := [("", "a&b=c+d#%2"), ("$filter", "Name eq 'é'")]
    let spec : RequestSpec := { RequestSpec.get " /api/JobService/Jobs?$skip=20#top" with query := parameters }
    e.baseUrl = .ok base ∧ ∃ url part, spec.resolve base Family.ome.root = .ok url ∧
      url.query = some ("$skip=20&".toList ++ part) ∧ '+' ∉ part ∧ queryPairs part = parameters := by
  intro e base parameters spec
  have hbase : e.baseUrl = .ok base := eq_ok_of_toOption (by decide +kernel)
  obtain ⟨url, own, hurl, hown, _, _, hadded⟩ := resolve_query hbase .ome spec
  obtain ⟨part, hquery, hplus, hpairs⟩ := hadded (List.cons_ne_nil _ _)
  have hskip : own = some "$skip=20".toList := hown.trans (by decide +kernel)
  rw [hskip] at hquery
  exact ⟨hbase, url, part, hurl, hquery, hplus, hpairs⟩

/-- An apostrophe in what a path brings along does not stay as it is. -/
theorem resolve_escapes_apostrophe :
    let base : Url := ⟨"https".toList, some ⟨[], none, .ipv4 0xC0A80001, none⟩, .segments [[]], none, none⟩
    let spec := (RequestSpec.get "JobService/Jobs?$filter=contains(Name,'a')").withQuery "$top" "2"
    (∃ url, spec.resolve base Family.ome.root = .ok url) ∧
      ∀ url part, spec.resolve base Family.ome.root = .ok url →
        url.query ≠ some ("$filter=contains(Name,'a')".toList ++ '&' :: part) := by
  intro base spec
  have hquery : (spec.resolve base Family.ome.root).toOption.map Url.query =
      some (some "$filter=contains(Name,%27a%27)&%24top=2".toList) := by decide +kernel
  cases hurl : spec.resolve base Family.ome.root with
  | error fault =>
    rw [hurl] at hquery
    cases hquery
  | ok url =>
    rw [hurl] at hquery
    refine ⟨⟨url, rfl⟩, fun other part hsame => ?_⟩
    cases hsame
    rw [Option.some.inj hquery]
    intro hclaim
    have hfront := congrArg (List.take 24) (Option.some.inj hclaim)
    rw [List.take_append_of_le_length (by decide +kernel)] at hfront
    exact absurd hfront (by decide +kernel)

end Http

end OutOfBand
