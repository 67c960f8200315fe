import OutOfBand.Proofs.Operation.Observation
import OutOfBand.Proofs.Session.Confinement
import OutOfBand.Proofs.Url.Percent
import OutOfBand.Proofs.Url.Root

/-! # The address of a job

The id of a job is any text, and it becomes the last segment of a path. What would end the segment, escape something in
it or be left out by a reader of URLs is refused before anything is sent, so the one request for an accepted id goes to
the collection of jobs with one segment behind it, and the segment is the id. Two ids alone slip through: a dot and a
double dot are no segments of their own.
-/
namespace OutOfBand

open Http Url

/-! ## Texts that are read as they stand -/

namespace Text

theorem trimChars_eq_self {cs : List Char} (h : ∀ c ∈ cs, isBlank c = false) : trimChars cs = cs := by
  rw [trimChars, dropWhile_eq_self h, dropEndWhile_eq_self h]

theorem le_asciiLower {c : Char} (h : 'A' ≤ c ∧ c ≤ 'Z') : 'a' ≤ asciiLower c := by
  have hall : ∀ n < 91, 65 ≤ n → 'a' ≤ asciiLower (Char.ofNat n) := by decide
  have hc := hall c.toNat (Nat.lt_succ_of_le h.2) h.1
  rwa [Char.ofNat_toNat] at hc

/-- What becomes a sign before the letters has been that sign. -/
theorem asciiLower_eq_self {c : Char} (h : asciiLower c < 'A') : asciiLower c = c := by
  by_cases hupper : 'A' ≤ c ∧ c ≤ 'Z'
  · exact absurd (Char.lt_trans h (by decide)) (Char.not_lt.mpr (le_asciiLower hupper))
  · rw [asciiLower, if_neg hupper]

theorem asciiLower_of_lt {c : Char} (h : c < 'A') : asciiLower c = c := by
  rw [asciiLower, if_neg fun hupper => absurd h (Char.not_lt.mpr hupper.1)]

/-- Of a sign and its escaped forms a text without a percent sign can be the sign alone. -/
theorem contains_lowerAscii_iff {sign : String} {coded : List String} {cs : List Char}
    (hsign : sign.toList.all (· < 'A') = true) (hcoded : ∀ word ∈ coded, '%' ∈ word.toList) (h : '%' ∉ cs) :
    (sign :: coded).contains (lowerAscii (String.ofList cs)) = true ↔ cs = sign.toList := by
  have hbefore : ∀ d ∈ sign.toList, d < 'A' := fun d hd => of_decide_eq_true (List.all_eq_true.mp hsign d hd)
  have hlower : (lowerAscii (String.ofList cs)).toList = cs.map asciiLower := by
    rw [lowerAscii, String.toList_ofList, String.toList_ofList]
  rw [List.contains_iff_mem, List.mem_cons, ← String.toList_inj, hlower]
  constructor
  · rintro (hmap | hword)
    · have hself : ∀ c ∈ cs, asciiLower c = c :=
        fun c hc => asciiLower_eq_self (hbefore _ (hmap ▸ List.mem_map_of_mem hc))
      rw [← hmap, List.map_congr_left hself, List.map_id']
    · have hpercent := hcoded _ hword
      rw [hlower] at hpercent
      obtain ⟨c, hc, hescape⟩ := List.mem_map.mp hpercent
      have hself : asciiLower c = c := asciiLower_eq_self (by rw [hescape]; decide)
      rw [hself] at hescape
      exact absurd (hescape ▸ hc) h
  · rintro rfl
    left
    rw [List.map_congr_left fun d hd => asciiLower_of_lt (hbefore d hd), List.map_id']

end Text

namespace Url

/-- A rooted text without blanks, query and fragment is a path, all of it. -/
theorem readChars_solid {base : Url} (hb : base.IsHierarchical) {cs : List Char} (h : IsRooted cs)
    (hsolid : cs.all isSolid = true) : readChars (some base) cs =
      .ok { base with path := pathFrom (isSpecial base.scheme) [] cs.tail, query := none, fragment := none } := by
  have hall := List.all_eq_true.mp hsolid
  have hsignificant : significant cs = cs := by
    obtain ⟨c, rest, rfl, _, _⟩ := h
    have happend := significant_append hsolid []
    rw [List.append_nil] at happend
    exact happend.trans (List.append_nil _)
  have hnumber : cut '#' cs = (cs, none) := cut_eq_self fun hmem => absurd (hall _ hmem) (by decide)
  have hmark : cut '?' cs = (cs, none) := cut_eq_self fun hmem => absurd (hall _ hmem) (by decide)
  rw [readChars_rooted_eq hb h, pathText, hsignificant, hnumber, hmark]
  rfl

/-- Among the segments without a percent sign only the two dots themselves are taken for dots. -/
theorem isDot_iff {segment : List Char} (h : '%' ∉ segment) : isDot segment = true ↔ segment = ['.'] :=
  Text.contains_lowerAscii_iff (by decide) (by decide) h

theorem isDoubleDot_iff {segment : List Char} (h : '%' ∉ segment) : isDoubleDot segment = true ↔ segment = ['.', '.'] :=
  Text.contains_lowerAscii_iff (by decide) (by decide) h

end Url

theorem Http.isUnderRoot_append (root more : List Char) : isUnderRoot root (root ++ '/' :: more) = true := by
  simp [isUnderRoot]

namespace Jobs

/-! ## The path of an id -/

/-- An id that is sent: there is something in it, and nothing that is refused. -/
structure IsAccepted (id : String) : Prop where
  nonempty : id.toList ≠ []
  unreserved : ∀ c ∈ id.toList, isReserved c = false

theorem checkedId_of_isAccepted {id : String} (h : IsAccepted (Text.trim id)) : checkedId id = .ok (Text.trim id) := by
  have hempty : (Text.trim id).isEmpty = false := by
    rw [Bool.eq_false_iff]
    intro hempty
    rw [String.isEmpty_iff.mp hempty] at h
    exact h.nonempty rfl
  have hreserved : (Text.trim id).toList.any isReserved = false := List.any_eq_false.mpr fun c hc => by
    rw [h.unreserved c hc]
    exact Bool.false_ne_true
  simp only [checkedId, hempty, hreserved, Bool.false_eq_true, ↓reduceIte]

theorem checkedId_of_not_isAccepted {id : String} (h : ¬ IsAccepted (Text.trim id)) :
    ∃ message, checkedId id = .error (.configuration message) := by
  unfold checkedId
  dsimp only
  split
  case isTrue => exact ⟨_, rfl⟩
  case isFalse hempty =>
    split
    case isTrue => exact ⟨_, rfl⟩
    case isFalse hreserved =>
      refine absurd ⟨fun hnil => hempty ?_, fun c hc => ?_⟩ h
      · rw [String.isEmpty_iff, ← String.toList_inj, hnil, String.toList_empty]
      · rw [Bool.eq_false_iff]
        exact fun hc' => hreserved (List.any_eq_true.mpr ⟨c, hc, hc'⟩)

theorem ne_of_unreserved {c d : Char} (h : isReserved c = false) (hd : isReserved d = true) : c ≠ d := by
  rintro rfl
  rw [h] at hd
  cases hd

theorem isBlank_of_unreserved {c : Char} (h : isReserved c = false) : Text.isBlank c = false := by
  simp only [isReserved, Bool.or_eq_false_iff] at h
  exact h.1.2

/-- A reader of URLs takes every character that is not refused for what it is. -/
theorem isSolid_of_unreserved {c : Char} (h : isReserved c = false) : isSolid c = true := by
  have houter : isOuterBlank c = false := by
    rw [Bool.eq_false_iff]
    intro hle
    have hle : c.toNat ≤ 0x20 := of_decide_eq_true hle
    have hreserved : isReserved c = true := by
      rcases Nat.lt_or_eq_of_le hle with hlt | heq
      · simp [isReserved, Text.isControl, hlt]
      · simp [isReserved, Text.isBlank, heq]
    rw [h] at hreserved
    cases hreserved
  have hnumber : c ≠ '#' := ne_of_unreserved h (by decide)
  have hmark : c ≠ '?' := ne_of_unreserved h (by decide)
  simp [isSolid, houter, hnumber, hmark]

/-- The segments of the path of the collection of jobs. -/
def collectionSegments : List (List Char) := ["redfish", "v1", "Managers", "iDRAC.Embedded.1", "Jobs"].map String.toList

theorem collectionSegments_isPlain : ∀ segment ∈ collectionSegments, IsPlainSegment segment := by
  have hall : ∀ segment ∈ collectionSegments,
      isDot segment = false ∧ isDoubleDot segment = false ∧ percentEncode inPath segment = segment := by decide +kernel
  exact fun segment hsegment => ⟨(hall segment hsegment).1, (hall segment hsegment).2.1, (hall segment hsegment).2.2⟩

/-- The segments to which the path of an id leads. -/
def memberSegments (id : List Char) : List (List Char) :=
  if id = ['.', '.'] then collectionSegments.dropLast ++ [[]]
  else if id = ['.'] then collectionSegments ++ [[]]
  else collectionSegments ++ [percentEncode inPath id]

theorem pathFrom_member (special : Bool) {id : String} (h : IsAccepted id) :
    pathFrom special [] (collectionPath.toList.tail ++ '/' :: id.toList) = .segments (memberSegments id.toList) := by
  have hslash : isSlash special '/' = true := by simp [isSlash]
  have hcollection : Text.splitOn (isSlash special) collectionPath.toList.tail = collectionSegments := by
    cases special <;> decide
  have hid : Text.splitOn (isSlash special) id.toList = [id.toList] := by
    refine Text.splitOn_eq_singleton fun c hc => ?_
    have hslash : c ≠ '/' := ne_of_unreserved (h.unreserved c hc) (by decide)
    have hback : c ≠ '\\' := ne_of_unreserved (h.unreserved c hc) (by decide)
    simp [isSlash, hslash, hback]
  have hpercent : '%' ∉ id.toList := fun hmem => absurd (h.unreserved _ hmem) (by decide)
  rw [pathFrom, Text.splitOn_append_cons hslash, hcollection, hid, List.reverse_nil,
    placeSegments_plain collectionSegments_isPlain (List.cons_ne_nil _ _), List.append_nil, memberSegments]
  simp only [placeSegments, isDoubleDot_iff hpercent, isDot_iff hpercent]
  -- A dot and a double dot are accepted, but neither stays as a segment: both leave an empty one at the end.
  by_cases hdots : id.toList = ['.', '.']
  · rw [if_pos hdots, if_pos hdots]
    decide
  rw [if_neg hdots, if_neg hdots]
  by_cases hdot : id.toList = ['.']
  · rw [if_pos hdot, if_pos hdot]
    decide
  rw [if_neg hdot, if_neg hdot, List.reverse_cons, List.reverse_reverse]

theorem IsAccepted.pathText {id : String} (h : IsAccepted id) :
    ∀ c ∈ collectionPath.toList ++ '/' :: id.toList, isSolid c = true ∧ Text.isBlank c = false := by
  intro c hc
  rcases List.mem_append.mp hc with hc | hc
  · have hcollection : collectionPath.toList.all (fun c => isSolid c && !Text.isBlank c) = true := by decide
    simpa using List.all_eq_true.mp hcollection c hc
  rcases List.mem_cons.mp hc with rfl | hc
  · decide
  · exact ⟨isSolid_of_unreserved (h.unreserved c hc), isBlank_of_unreserved (h.unreserved c hc)⟩

theorem collectionPath_eq_append :
    collectionPath.toList = Family.redfish.root.toList ++ '/' :: "Managers/iDRAC.Embedded.1/Jobs".toList := by decide

theorem IsAccepted.fullPath {id : String} (h : IsAccepted id) :
    fullPath Family.redfish.root.toList (collectionPath.toList ++ '/' :: id.toList) =
      collectionPath.toList ++ '/' :: id.toList := by
  have htrim := Text.trimChars_eq_self fun c hc => (h.pathText c hc).2
  have hunder : isUnderRoot Family.redfish.root.toList (collectionPath.toList ++ '/' :: id.toList) = true := by
    rw [collectionPath_eq_append, List.append_assoc, List.cons_append]
    exact isUnderRoot_append _ _
  simp only [Http.fullPath, htrim, hunder, ↓reduceIte]

/-- Where the path of an accepted id leads: to a place on the site of the base that no other text names. -/
theorem resolve_member {base : Url} (hb : base.IsHierarchical) {id : String} (h : IsAccepted id) :
    (RequestSpec.get s!"{collectionPath}/{id}").resolve base Family.redfish.root =
      .ok { base with path := .segments (memberSegments id.toList), query := none, fragment := none } := by
  have hpath : s!"{collectionPath}/{id}".toList = collectionPath.toList ++ '/' :: id.toList := by
    rw [show s!"{collectionPath}/{id}" = collectionPath ++ "/" ++ id from rfl, String.toList_append, String.toList_append,
      List.append_assoc]
    rfl
  have hrooted : IsRooted (collectionPath.toList ++ '/' :: id.toList) :=
    IsRooted.append ⟨'r', collectionPath.toList.drop 2, by decide, by decide, by decide⟩ _
  have htail : (collectionPath.toList ++ '/' :: id.toList).tail = collectionPath.toList.tail ++ '/' :: id.toList := by
    rw [collectionPath_eq_append]
    rfl
  have hread := readChars_solid hb hrooted (List.all_eq_true.mpr fun c hc => (h.pathText c hc).1)
  rw [htail, pathFrom_member _ h] at hread
  rw [RequestSpec.resolve, show (RequestSpec.get s!"{collectionPath}/{id}").path.toList = _ from hpath, h.fullPath, hread]
  rfl

/-! ## What is sent -/

/-- A request that reads what stands at some segments on the site of the base. -/
structure Reads (base : Url) (segments : List (List Char)) (request : Request) : Prop where
  method : request.method = "GET"
  body : request.body = none
  site : Session.IsSentTo base request
  path : request.url.path = .segments segments
  target : request.url.target.toList = Path.chars (.segments segments)

/-- One segment that stands for an id, letter by letter. -/
structure Names (segment : List Char) (id : String) : Prop where
  nonempty : segment ≠ []
  single : ∀ c ∈ ['/', '\\', '?', '#'], c ∉ segment
  decoded : percentDecode segment = Text.encodeUtf8 id

theorem not_isEscape_of_mem {c : Char} (h : c ∈ ['/', '\\', '?', '#']) : ¬ IsEscape c := by
  rintro (rfl | ⟨n, hn, rfl⟩)
  · exact absurd h (by decide)
  · have hdigits : ∀ n < 16, upperDigit n ∉ ['/', '\\', '?', '#'] := by decide
    exact hdigits n hn h

theorem IsAccepted.names {id : String} (h : IsAccepted id) : Names (percentEncode inPath id.toList) id := by
  refine ⟨percentEncode_ne_nil h.nonempty, fun c hc hmem => ?_, ?_⟩
  · have hreserved : ['/', '\\', '?', '#'].all isReserved = true := by decide
    rcases mem_percentEncode hmem with hid | hescape
    · exact ne_of_unreserved (h.unreserved c hid) (List.all_eq_true.mp hreserved c hc) rfl
    · exact not_isEscape_of_mem hc hescape
  · have hpercent : '%' ∉ id.toList := fun hmem => absurd (h.unreserved _ hmem) (by decide)
    rw [percentDecode_percentEncode fun hmem => absurd hmem hpercent, String.ofList_toList]

theorem status_of_not_isAccepted {jobId : String} (h : ¬ IsAccepted (Text.trim jobId)) (s : Session) (wire : Wire) :
    ∃ message, (status jobId).run s wire = (.error (.configuration message), s, wire) := by
  obtain ⟨message, hrefused⟩ := checkedId_of_not_isAccepted h
  refine ⟨message, ?_⟩
  simp only [status, hrefused]
  rfl

/-- The request with which the status is read, and what comes of it: one attempt, or nothing where the client does not take
its URL. -/
theorem status_of_isAccepted {jobId : String} (h : IsAccepted (Text.trim jobId)) {s : Session} (hs : s.IsReady)
    (hheaders : s.HasSendableHeaders (.get "")) (hfamily : s.family = .redfish) (wire : Wire) :
    ∃ request, Reads s.base (memberSegments (Text.trim jobId).toList) request ∧
      if wire.client.takes request.url then
        ((status jobId).run s wire).2.1 = s ∧
          ∃ a : Attempt, ((status jobId).run s wire).2.2.attempts = wire.attempts ++ [a] ∧ a.request = request
      else (status jobId).run s wire = (.error .unsendable, s, wire) := by
  have hspec : (RequestSpec.get s!"{collectionPath}/{Text.trim jobId}").headers = [] := rfl
  obtain ⟨request, hrequest, hexecute⟩ := hs.execute_eq_exchange ((Session.hasSendableHeaders_iff hspec s).mpr hheaders) wire
  have hrun : (status jobId).run s wire =
      (((s.execute (.get s!"{collectionPath}/{Text.trim jobId}") wire).1.map (statusResult (Text.trim jobId))), s,
        (s.execute (.get s!"{collectionPath}/{Text.trim jobId}") wire).2) := by
    simp only [status, checkedId_of_isAccepted h]
    rfl
  obtain ⟨url, hurl, haddress⟩ := hrequest.url
  rw [hfamily, resolve_member hs.base h] at hurl
  cases hurl
  refine ⟨request, ⟨hrequest.method, hrequest.body, ⟨?_, ?_, ?_⟩, ?_, ?_⟩, ?_⟩
  · rw [haddress]
    rfl
  · rw [haddress, withoutUserInfo_host?]
    rfl
  · rw [haddress, withoutUserInfo_effectivePort?]
    rfl
  · rw [haddress]
    rfl
  · rw [haddress, target, String.toList_ofList]
    exact List.append_nil _
  · rw [hrun, hexecute]
    split
    case isTrue htaken =>
      obtain ⟨⟨a, hlog, hcarries, _⟩, _⟩ := Session.exchange_attempts htaken s.trust _
      exact ⟨rfl, a, hlog, hcarries⟩
    case isFalse hrefused =>
      rw [Session.exchange_of_refused (Bool.not_eq_true _ ▸ hrefused)]
      rfl

/-- On an open session the status of a job is refused before anything is sent, or it is read with one request, in one
attempt unless the client does not take its URL. The request goes to the collection of jobs with one segment behind it, and
the segment is the id without the blanks around it, unless the id is a dot or a double dot: a dot reads the collection
itself, a double dot the manager above it. -/
theorem status_reads_member {files : FileTree} {config : SessionConfig} {before opened : Wire} {s : Session}
    (h : Session.open files config before = (.ok s, opened)) (hfamily : config.family = .redfish) (jobId : String)
    (wire : Wire) :
    (¬ IsAccepted (Text.trim jobId) ∧
      ∃ message, (status jobId).run s wire = (.error (.configuration message), s, wire)) ∨
    (IsAccepted (Text.trim jobId) ∧ ∃ (request : Request) (segments : List (List Char)),
      Reads s.base segments request ∧
      (Text.trim jobId = "." → segments = collectionSegments ++ [[]]) ∧
      (Text.trim jobId = ".." → segments = collectionSegments.dropLast ++ [[]]) ∧
      (Text.trim jobId ≠ "." → Text.trim jobId ≠ ".." →
        ∃ segment, segments = collectionSegments ++ [segment] ∧ Names segment (Text.trim jobId)) ∧
      if wire.client.takes request.url then
        ((status jobId).run s wire).2.1 = s ∧
          ∃ a : Attempt, ((status jobId).run s wire).2.2.attempts = wire.attempts ++ [a] ∧ a.request = request
      else (status jobId).run s wire = (.error .unsendable, s, wire)) := by
  by_cases haccepted : IsAccepted (Text.trim jobId)
  case neg => exact Or.inl ⟨haccepted, status_of_not_isAccepted haccepted s wire⟩
  right
  have hopened : Session.IsOpened config s := by
    have hresult := Session.open_result files config before
    rw [h] at hresult
    exact hresult.1
  have hheaders : s.HasSendableHeaders (.get "") :=
    (Session.open_hasSendableHeaders_iff h).mpr (Session.hasSendableIdentifier_of_ne (by rw [hfamily]; decide))
  have hred : s.family = .redfish := hopened.family.trans hfamily
  obtain ⟨request, hreads, hsent⟩ := status_of_isAccepted haccepted hopened.isReady hheaders hred wire
  refine ⟨haccepted, request, _, hreads, fun hdot => ?_, fun hdots => ?_, fun hdot hdots => ?_, hsent⟩
  · rw [hdot]
    decide
  · rw [hdots]
    decide
  · refine ⟨percentEncode inPath (Text.trim jobId).toList, ?_, haccepted.names⟩
    have hne : ∀ text : String, Text.trim jobId ≠ text → (Text.trim jobId).toList ≠ text.toList :=
      fun text hne heq => hne (String.toList_inj.mp heq)
    have htwo : (Text.trim jobId).toList ≠ ['.', '.'] := hne ".." hdots
    have hone : (Text.trim jobId).toList ≠ ['.'] := hne "." hdot
    rw [memberSegments, if_neg htwo, if_neg hone]

/-- An id with a letter beyond ASCII and blanks around it. -/
theorem status_reads_member_escaped :
    let config : SessionConfig := ⟨⟨"127.0.0.1", 443, .http, .system, 30000⟩, .token "t", .redfish, none⟩
    let wire : Wire := ⟨⟨.ipv4 0x7F000001, 443, true, none, []⟩, []⟩
    ∃ s opened, Session.open FileTree.empty config wire = (.ok s, opened) ∧ config.family = .redfish ∧
      ∃ (a : Attempt) (segment : List Char), ((status " JID_é\n").run s opened).2.2.attempts = opened.attempts ++ [a] ∧
        Reads s.base (collectionSegments ++ [segment]) a.request ∧ Names segment "JID_é" := by
  intro config wire
  have hok : (Session.open FileTree.empty config wire).1.toOption.isSome = true := by decide +kernel
  have hsent : (Session.open FileTree.empty config wire).1.toOption.any (fun s =>
      !isUnsent ((status " JID_é\n").run s (Session.open FileTree.empty config wire).2).1) = true := by decide +kernel
  have htrim : Text.trim " JID_é\n" = "JID_é" := by decide
  rcases ho : Session.open FileTree.empty config wire with ⟨result, opened⟩
  rw [ho] at hok hsent
  cases result with
  | error e => cases hok
  | ok s =>
    refine ⟨s, opened, rfl, rfl, ?_⟩
    rcases status_reads_member ho rfl " JID_é\n" opened with ⟨hrefused, _⟩ | ⟨_, request, _, hreads, _, _, hnames, hrun⟩
    · obtain ⟨message, herror⟩ := checkedId_of_not_isAccepted hrefused
      have hchecked : (checkedId " JID_é\n").toOption.isSome = true := by decide
      rw [herror] at hchecked
      cases hchecked
    · rw [htrim] at hnames
      obtain ⟨segment, rfl, hnamed⟩ := hnames (by decide) (by decide)
      split at hrun
      case isTrue =>
        obtain ⟨_, a, hlog, rfl⟩ := hrun
        exact ⟨a, segment, hlog, hreads, hnamed⟩
      case isFalse =>
        simp only [Except.toOption, Option.any_some, hrun] at hsent
        cases hsent

/-- A dot and a double dot are sent, and neither is read as a job. -/
theorem status_reads_elsewhere :
    let config : SessionConfig := ⟨⟨"127.0.0.1", 443, .http, .system, 30000⟩, .token "t", .redfish, none⟩
    let device : Device := ⟨.ipv4 0x7F000001, 443, true, none, [.answer 200 [] (Text.encodeUtf8 "\x7b\x7d")]⟩
    let sent (jobId : String) : List (String × String) :=
      (withSession FileTree.empty config (status jobId) ⟨device, []⟩).2.attempts.map
        (fun a => (a.request.method, a.request.url.target))
    sent ".." = [("GET", "/redfish/v1/Managers/iDRAC.Embedded.1/")] ∧
      sent "." = [("GET", "/redfish/v1/Managers/iDRAC.Embedded.1/Jobs/")] := by
  decide +kernel

end Jobs

end OutOfBand
