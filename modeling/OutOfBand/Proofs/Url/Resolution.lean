import OutOfBand.Endpoint
import OutOfBand.Family
import OutOfBand.Http.Request

/-! # Resolution against a base

What a text that begins at the root of a host leads to. The base URL of an endpoint has a path of
segments, and against such a base every rooted text is read without a fault and keeps scheme and
authority. The paths of a request and of a session are all rooted, so they stay on the base's site.
-/
namespace OutOfBand

theorem Text.takeWhile_eq_self {p : Char → Bool} {cs : List Char} (h : ∀ c ∈ cs, p c = true) : cs.takeWhile p = cs := by
  have htake : (cs ++ []).takeWhile p = cs ++ [] := List.takeWhile_append_of_pos h
  rwa [List.append_nil] at htake

theorem Text.dropWhile_eq_nil {p : Char → Bool} {cs : List Char} (h : ∀ c ∈ cs, p c = true) : cs.dropWhile p = [] := by
  have hdrop : (cs ++ []).dropWhile p = [] := List.dropWhile_append_of_pos h
  rwa [List.append_nil] at hdrop

namespace Url

/-- The path is one of segments. -/
def IsHierarchical (url : Url) : Prop := ∃ parts, url.path = .segments parts

/-- The same scheme and the same authority, so the same host, port and user. -/
def IsOnSiteOf (url base : Url) : Prop := url.scheme = base.scheme ∧ url.authority = base.authority

theorem IsOnSiteOf.host?_eq {url base : Url} (h : url.IsOnSiteOf base) : url.host? = base.host? := by
  simp only [host?, h.2]

theorem IsOnSiteOf.effectivePort?_eq {url base : Url} (h : url.IsOnSiteOf base) :
    url.effectivePort? = base.effectivePort? := by
  simp only [effectivePort?, h.1, h.2]

theorem IsOnSiteOf.userInfo?_eq {url base : Url} (h : url.IsOnSiteOf base) : url.userInfo? = base.userInfo? := by
  simp only [userInfo?, h.2]

/-! ## The text that is read -/

/-- A character that no step before the scheme takes away. -/
def isSolid (c : Char) : Bool := !isOuterBlank c && c != '#' && c != '?'

theorem not_isOuterBlank {c : Char} (h : isSolid c = true) : isOuterBlank c = false := by
  simp only [isSolid, Bool.and_eq_true, Bool.not_eq_true'] at h
  exact h.1.1

theorem not_isInnerBlank {c : Char} (h : isSolid c = true) : isInnerBlank c = false := by
  have hc := not_isOuterBlank h
  rw [Bool.eq_false_iff]
  intro hi
  simp only [isInnerBlank, Bool.or_eq_true, beq_iff_eq] at hi
  rcases hi with (rfl | rfl) | rfl <;> exact absurd hc (by decide)

theorem dropEndWhile_append_cons {p : Char → Bool} {c : Char} (hc : p c = false) (xs ys : List Char) :
    Text.dropEndWhile p (xs ++ c :: ys) = xs ++ c :: Text.dropEndWhile p ys := by
  have hrev : (xs ++ c :: ys).reverse = ys.reverse ++ c :: xs.reverse := by simp
  simp only [Text.dropEndWhile, hrev, List.dropWhile_append]
  cases h : ys.reverse.dropWhile p with
  | nil => simp [hc]
  | cons d rest => simp

theorem significant_append {c : Char} {p : List Char} (hp : (c :: p).all isSolid = true) (ys : List Char) :
    significant (c :: p ++ ys) = c :: p ++ (Text.dropEndWhile isOuterBlank ys).filter (!isInnerBlank ·) := by
  have hall := List.all_eq_true.mp hp
  have hc := not_isOuterBlank (hall c List.mem_cons_self)
  have hfilter : (c :: p).filter (!isInnerBlank ·) = c :: p := by
    rw [List.filter_eq_self]
    intro d hd
    rw [not_isInnerBlank (hall d hd), Bool.not_false]
  obtain ⟨front, last, hlast⟩ : ∃ front last, c :: p = front ++ [last] :=
    ⟨(c :: p).dropLast, (c :: p).getLast (by simp), (List.dropLast_concat_getLast (by simp)).symm⟩
  have hl := not_isOuterBlank (hall last (by rw [hlast]; simp))
  have hdrop : (c :: p ++ ys).dropWhile isOuterBlank = front ++ last :: ys := by
    rw [List.cons_append, List.dropWhile_cons, hc, ← List.cons_append, hlast]
    simp
  rw [significant, hdrop, dropEndWhile_append_cons hl, List.append_cons, ← hlast, List.filter_append, hfilter]

theorem cut_append {c : Char} {p : List Char} (hp : c ∉ p) (ys : List Char) :
    (cut c (p ++ ys)).1 = p ++ (cut c ys).1 := by
  have hall : ∀ d ∈ p, (d != c) = true := by
    intro d hd
    simp only [bne_iff_ne, ne_eq]
    rintro rfl
    exact hp hd
  simp only [cut, List.takeWhile_append_of_pos hall]

theorem cut_eq_self {c : Char} {cs : List Char} (h : c ∉ cs) : cut c cs = (cs, none) := by
  have hall : ∀ d ∈ cs, (d != c) = true := by
    intro d hd
    simp only [bne_iff_ne, ne_eq]
    rintro rfl
    exact h hd
  rw [cut, Text.takeWhile_eq_self hall, Text.dropWhile_eq_nil hall]

theorem cut_of_notMem {c : Char} {front : List Char} (h : c ∉ front) (rest : List Char) :
    cut c (front ++ c :: rest) = (front, some rest) := by
  have hne : ∀ d ∈ front, (d != c) = true := by
    intro d hd
    rw [bne_iff_ne]
    rintro rfl
    exact h hd
  simp only [cut, List.takeWhile_append_of_pos hne, List.dropWhile_append_of_pos hne]
  simp

/-- The path of a text as a URL reader sees it: without blanks, query and fragment. -/
def pathText (cs : List Char) : List Char := (cut '?' (cut '#' (significant cs)).1).1

theorem pathText_append {c : Char} {p : List Char} (hp : (c :: p).all isSolid = true) (ys : List Char) :
    pathText (c :: p ++ ys) =
      c :: p ++ (cut '?' (cut '#' ((Text.dropEndWhile isOuterBlank ys).filter (!isInnerBlank ·))).1).1 := by
  have hmem : ∀ d ∈ c :: p, d ≠ '#' ∧ d ≠ '?' := by
    intro d hd
    have h := List.all_eq_true.mp hp d hd
    simp only [isSolid, Bool.and_eq_true, bne_iff_ne, ne_eq] at h
    exact ⟨h.1.2, h.2⟩
  have hnumber : '#' ∉ c :: p := fun h => (hmem _ h).1 rfl
  have hmark : '?' ∉ c :: p := fun h => (hmem _ h).2 rfl
  rw [pathText, significant_append hp, cut_append hnumber, cut_append hmark]

/-! ## Rooted texts -/

/-- A text that begins with one slash and then something that belongs to a path. -/
def IsRooted (cs : List Char) : Prop :=
  ∃ c rest, cs = '/' :: c :: rest ∧ isSolid c = true ∧ isSlash true c = false

theorem IsRooted.append {cs : List Char} (h : IsRooted cs) (rest : List Char) : IsRooted (cs ++ rest) := by
  obtain ⟨c, tail, rfl, hc, hs⟩ := h
  exact ⟨c, tail ++ rest, rfl, hc, hs⟩

theorem IsRooted.appendText {front : String} (h : IsRooted front.toList) (rest : String) :
    IsRooted (front ++ rest).toList := by
  rw [String.toList_append]
  exact h.append rest.toList

theorem relative_rooted (base : Url) (parts : List (List Char)) {c : Char} (hs : isSlash true c = false)
    (rest : List Char) (query fragment : Option (List Char)) :
    relative base parts ('/' :: c :: rest) query fragment =
      .ok { base with path := pathFrom (isSpecial base.scheme) [] (c :: rest), query := query, fragment := fragment } := by
  have hslash : isSlash (isSpecial base.scheme) '/' = true := by simp [isSlash]
  have hc : isSlash (isSpecial base.scheme) c = false := by
    cases hspecial : isSpecial base.scheme with
    | true => exact hs
    | false =>
      simp only [isSlash, Bool.or_eq_false_iff] at hs ⊢
      simp [hs.1]
  simp only [relative, hslash, hc, Bool.and_false, Bool.false_eq_true, ↓reduceIte]

/-- A rooted text is read against a base with segments without a fault. Its path takes the place of the base's. -/
theorem readChars_rooted_eq {base : Url} (hb : base.IsHierarchical) {cs : List Char} (h : IsRooted cs) :
    readChars (some base) cs = .ok { base with
      path := pathFrom (isSpecial base.scheme) [] (pathText cs).tail
      query := (cut '?' (cut '#' (significant cs)).1).2.map (queryEscape base.scheme)
      fragment := (cut '#' (significant cs)).2.map (percentEncode inFragment) } := by
  obtain ⟨parts, hparts⟩ := hb
  obtain ⟨c, rest, rfl, hc, hs⟩ := h
  have hsolid : ['/', c].all isSolid = true := by simp [hc, show isSolid '/' = true by decide]
  obtain ⟨zs, hz⟩ : ∃ zs, pathText ('/' :: c :: rest) = '/' :: c :: zs := ⟨_, pathText_append hsolid rest⟩
  have hscheme : scheme? ('/' :: c :: zs) = none := by simp [scheme?, show '/'.isAlpha = false by decide]
  have htext : (cut '?' (cut '#' (significant ('/' :: c :: rest))).1).1 = '/' :: c :: zs := hz
  simp only [readChars, htext, hz, hscheme, hparts, relative_rooted base parts hs, List.tail_cons]

/-- So the site stays. -/
theorem readChars_rooted {base : Url} (hb : base.IsHierarchical) {cs : List Char} (h : IsRooted cs) :
    ∃ url, readChars (some base) cs = .ok url ∧ url.IsOnSiteOf base :=
  ⟨_, readChars_rooted_eq hb h, rfl, rfl⟩

theorem join_rooted {base : Url} (hb : base.IsHierarchical) {input : String} (h : IsRooted input.toList) :
    ∃ url, base.join input = .ok url ∧ url.IsOnSiteOf base := readChars_rooted hb h

theorem IsOnSiteOf.addParameters {url base : Url} (h : url.IsOnSiteOf base) (entries : Fields String) :
    (url.addParameters entries).IsOnSiteOf base := by
  unfold Url.addParameters
  split
  · exact h
  · exact h

end Url

/-! ## Requests and sessions -/

open Url

theorem Family.root_isRooted (family : Family) : IsRooted family.root.toList := by
  cases family with
  | redfish => exact ⟨'r', "edfish/v1".toList, by decide, by decide, by decide⟩
  | ome => exact ⟨'a', "pi".toList, by decide, by decide, by decide⟩
  | omevv => exact ⟨'o', "mevv/GatewayService/v1".toList, by decide, by decide, by decide⟩

theorem Family.sessionPath_isRooted {family : Family} {path : String} (h : family.sessionPath? = some path) :
    IsRooted path.toList := by
  cases family with
  | redfish => cases h; exact ⟨'r', "edfish/v1/SessionService/Sessions".toList, by decide, by decide, by decide⟩
  | ome => cases h; exact ⟨'a', "pi/SessionService/Sessions".toList, by decide, by decide, by decide⟩
  | omevv => cases h

theorem Family.sessionDeletePath_isRooted {family : Family} {id path : String}
    (h : family.sessionDeletePath? id = some path) : IsRooted path.toList := by
  cases family with
  | redfish =>
    cases h
    have hfront : IsRooted "/redfish/v1/SessionService/Sessions/".toList :=
      ⟨'r', "edfish/v1/SessionService/Sessions/".toList, by decide, by decide, by decide⟩
    exact hfront.appendText id
  | ome =>
    cases h
    have hfront : IsRooted "/api/SessionService/Sessions('".toList :=
      ⟨'a', "pi/SessionService/Sessions('".toList, by decide, by decide, by decide⟩
    exact (hfront.appendText id).appendText "')"
  | omevv => cases h

/-! ## Base URLs -/

theorem behindSlashes_isHierarchical {scheme text : List Char} {query fragment : Option (List Char)} {url : Url}
    (hs : isSpecial scheme = true) (h : behindSlashes scheme text query fragment = .ok url) : url.IsHierarchical := by
  simp only [behindSlashes, hs] at h
  cases ha : authorityOf scheme (text.takeWhile (!isSlash true ·)) with
  | error fault => rw [ha] at h; cases h
  | ok authority =>
    rw [ha] at h
    cases h
    cases hp : text.dropWhile (!isSlash true ·) with
    | nil => exact ⟨[[]], rfl⟩
    | cons c rest => exact ⟨_, rfl⟩

theorem scheme?_append {c : Char} {scheme : List Char} (hc : c.isAlpha = true)
    (hs : (c :: scheme).all isSchemeChar = true) (rest : List Char) :
    scheme? (c :: scheme ++ ':' :: rest) = some ((c :: scheme).map Text.asciiLower, rest) := by
  have hcolon : ':' ∉ c :: scheme := fun h => absurd (List.all_eq_true.mp hs ':' h) (by decide)
  have hcut := cut_of_notMem hcolon rest
  rw [List.cons_append] at hcut ⊢
  simp only [scheme?, hc, hcut, hs, ↓reduceIte]

theorem Protocol.scheme_toList (protocol : Protocol) :
    ∃ scheme, protocol.scheme.toList = 'h' :: scheme ∧ ('h' :: scheme).all isSchemeChar = true ∧
      ('h' :: scheme).all isSolid = true ∧ isSpecial (('h' :: scheme).map Text.asciiLower) = true ∧
      isFile (('h' :: scheme).map Text.asciiLower) = false := by
  cases protocol with
  | http => exact ⟨"ttp".toList, by decide, by decide, by decide, by decide, by decide⟩
  | https => exact ⟨"ttps".toList, by decide, by decide, by decide, by decide, by decide⟩

theorem mem_of_mem_cut {c d : Char} {cs : List Char} (h : d ∈ (cut c cs).1) : d ∈ cs :=
  (List.takeWhile_prefix _).subset h

theorem mem_of_mem_dropEndWhile {p : Char → Bool} {d : Char} {cs : List Char} (h : d ∈ Text.dropEndWhile p cs) :
    d ∈ cs := by
  rw [Text.dropEndWhile, List.mem_reverse] at h
  exact List.mem_reverse.mp ((List.dropWhile_suffix _).subset h)

theorem Endpoint.readChars_of_baseUrl {e : Endpoint} {base : Url} (h : e.baseUrl = .ok base) :
    readChars none (e.protocol.scheme.toList ++ "://".toList ++ (e.host.toList ++ ':' :: Nat.toDigits 10 e.port)) = .ok base := by
  have hinput : (s!"{e.protocol.scheme}://{e.host}:{e.port}").toList =
      e.protocol.scheme.toList ++ "://".toList ++ (e.host.toList ++ ':' :: Nat.toDigits 10 e.port) := by
    change (e.protocol.scheme ++ "://" ++ e.host ++ ":" ++ toString e.port).toList = _
    simp
  unfold baseUrl at h
  split at h
  case h_1 url hread =>
    cases h
    rw [← hinput]
    exact hread
  case h_2 => cases h

/-- What is read behind the scheme of a base URL: slashes, host and port, without what a reader leaves out. -/
theorem Endpoint.baseUrl_ok {e : Endpoint} {base : Url} (h : e.baseUrl = .ok base) :
    ∃ scheme text query fragment, isSpecial scheme = true ∧
      (∀ c ∈ text, c ∈ "//".toList ++ (e.host.toList ++ (":".toList ++ (toString e.port).toList))) ∧
      behindSlashes scheme text query fragment = .ok base := by
  obtain ⟨scheme, htext, hchars, hsolid, hspecial, hfile⟩ := e.protocol.scheme_toList
  -- the colon belongs to the solid beginning, so that it is still there when the scheme is looked for
  have hcolon : ('h' :: (scheme ++ [':'])).all isSolid = true := by
    rw [← List.cons_append, List.all_append, hsolid]
    decide
  have hu := readChars_of_baseUrl h
  obtain ⟨ys, hys, hinput⟩ : ∃ ys, ys = "//".toList ++ (e.host.toList ++ (":".toList ++ (toString e.port).toList)) ∧
      e.protocol.scheme.toList ++ "://".toList ++ (e.host.toList ++ ':' :: Nat.toDigits 10 e.port) =
        'h' :: (scheme ++ [':']) ++ ys := ⟨_, rfl, by simp [htext]⟩
  have hz := pathText_append hcolon ys
  have hread := scheme?_append (by decide) hchars
    (cut '?' (cut '#' ((Text.dropEndWhile isOuterBlank ys).filter (!isInnerBlank ·))).1).1
  simp only [pathText, List.cons_append, List.append_assoc, List.nil_append] at hz hread hinput
  simp only [readChars, List.append_assoc, hinput, hz, hread, withScheme, hspecial, hfile, Bool.false_eq_true, ↓reduceIte] at hu
  refine ⟨_, _, _, _, hspecial, fun c hc => ?_, hu⟩
  have hcut := mem_of_mem_cut (mem_of_mem_cut ((List.dropWhile_suffix _).subset hc))
  rw [← hys]
  exact mem_of_mem_dropEndWhile (List.mem_filter.mp hcut).1

theorem Endpoint.baseUrl_isHierarchical {e : Endpoint} {base : Url} (h : e.baseUrl = .ok base) :
    base.IsHierarchical := by
  obtain ⟨_, _, _, _, hspecial, _, hread⟩ := Endpoint.baseUrl_ok h
  exact behindSlashes_isHierarchical hspecial hread

theorem behindSlashes_scheme {scheme text : List Char} {query fragment : Option (List Char)} {url : Url}
    (hs : isSpecial scheme = true) (h : behindSlashes scheme text query fragment = .ok url) : url.scheme = scheme := by
  simp only [behindSlashes, hs] at h
  cases ha : authorityOf scheme (text.takeWhile (!isSlash true ·)) with
  | error fault => rw [ha] at h; cases h
  | ok authority =>
    rw [ha] at h
    cases h
    rfl

theorem Endpoint.baseUrl_isSpecial {e : Endpoint} {base : Url} (h : e.baseUrl = .ok base) :
    isSpecial base.scheme = true := by
  obtain ⟨_, _, _, _, hspecial, _, hread⟩ := Endpoint.baseUrl_ok h
  rw [behindSlashes_scheme hspecial hread]
  exact hspecial

namespace Http

theorem fullPath_eq_append (root path : List Char) : ∃ rest, fullPath root path = root ++ rest := by
  simp only [fullPath]
  split
  case isTrue h =>
    simp only [isUnderRoot, Bool.and_eq_true] at h
    obtain ⟨rest, hr⟩ := List.isPrefixOf_iff_prefix.mp h.1
    exact ⟨rest, hr.symm⟩
  case isFalse =>
    split
    · exact ⟨[], (List.append_nil root).symm⟩
    · exact ⟨_, rfl⟩

/-- A request resolves against every base with segments, whatever its path, and stays on the base's site. -/
theorem RequestSpec.resolve_ok (spec : RequestSpec) {base : Url} (hb : base.IsHierarchical) (family : Family) :
    ∃ url, spec.resolve base family.root = .ok url ∧ url.IsOnSiteOf base := by
  obtain ⟨rest, hrest⟩ := fullPath_eq_append family.root.toList spec.path.toList
  obtain ⟨url, hread, hsite⟩ := readChars_rooted hb (family.root_isRooted.append rest)
  refine ⟨url.addParameters spec.query, ?_, hsite.addParameters spec.query⟩
  simp only [resolve, hrest, hread]
  rfl

end Http

end OutOfBand
