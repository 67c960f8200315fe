import OutOfBand.Proofs.Json.Decode
import OutOfBand.Proofs.Session.Opening
import OutOfBand.Proofs.Url.Root
import OutOfBand.Session.Program

/-! # Confinement

Requests stay with their device. Whatever path a request names, its URL keeps scheme, host and port of the base,
and unless the path climbs it lies within the root of its service. So nothing that a session sends goes to another host
of the session's own accord: not the login, not the requests in use, not the deletion. It takes a reply that leads
elsewhere, for the client follows it wherever it leads, with the token that the request shows.
-/
namespace OutOfBand

open Http Url

theorem Url.addParameters_path (url : Url) (entries : Fields String) : (url.addParameters entries).path = url.path := by
  unfold addParameters
  split
  · rfl
  · rfl

theorem Url.withoutUserInfo_host? (url : Url) : url.withoutUserInfo.host? = url.host? := by
  cases h : url.authority with
  | none => simp [withoutUserInfo, host?, h]
  | some authority => simp [withoutUserInfo, host?, h]

theorem Url.withoutUserInfo_effectivePort? (url : Url) : url.withoutUserInfo.effectivePort? = url.effectivePort? := by
  cases h : url.authority with
  | none => simp [withoutUserInfo, effectivePort?, h]
  | some authority => simp [withoutUserInfo, effectivePort?, h]

namespace Wire

/-- All attempts that were made from one wire to the other are for requests of some kind. -/
def Only (kind : Request → Prop) (before after : Wire) : Prop :=
  ∃ sent : List Attempt, after.attempts = before.attempts ++ sent ∧ ∀ a ∈ sent, kind a.request

variable {kind : Request → Prop} {before between after : Wire}

theorem AtMostOne.only (h : AtMostOne kind before after) : Only kind before after := by
  obtain ⟨sent, hlog, _, hsent⟩ := h
  exact ⟨sent, hlog, hsent⟩

theorem Only.refl (wire : Wire) : Only kind wire wire := (AtMostOne.none wire).only

theorem Only.trans (hfirst : Only kind before between) (hsecond : Only kind between after) : Only kind before after := by
  obtain ⟨front, hfront, hkind⟩ := hfirst
  obtain ⟨back, hback, hkind'⟩ := hsecond
  refine ⟨front ++ back, by rw [hback, hfront, List.append_assoc], fun a ha => ?_⟩
  rcases List.mem_append.mp ha with ha | ha
  · exact hkind a ha
  · exact hkind' a ha

/-- None of the replies to come leads elsewhere. -/
def LeadsNowhere (wire : Wire) : Prop := ∀ reply ∈ wire.device.replies, ∀ url, reply.lead? wire.client url = none

theorem LeadsNowhere.take (h : before.LeadsNowhere) :
    before.take.2.LeadsNowhere ∧ ∀ url, before.take.1.lead? before.take.2.client url = none := by
  have hclient : before.take.2.client = before.client := rfl
  cases hreplies : before.device.replies with
  | nil =>
    have htake : before.take = (.answer 404 [] [], before) := by simp only [Wire.take, Device.next, hreplies]
    rw [htake]
    exact ⟨h, fun url => rfl⟩
  | cons reply rest =>
    have htake : before.take = (reply, { before with device := { before.device with replies := rest } }) := by
      simp only [Wire.take, Device.next, hreplies]
    rw [LeadsNowhere, hreplies] at h
    obtain ⟨hreply, hrest⟩ := List.forall_mem_cons.mp h
    rw [htake]
    exact ⟨hrest, hreply⟩

theorem LeadsNowhere.pursue (h : before.LeadsNowhere) (trust : Trust) (hopLimit : Nat) (request : Request) :
    (pursue trust hopLimit request before).2.LeadsNowhere ∧ (pursue trust hopLimit request before).1.hops = [] := by
  cases hobstacle : before.obstacle? trust request.url with
  | some loss =>
    rw [pursue_of_obstacle hobstacle]
    exact ⟨h, rfl⟩
  | none =>
    obtain ⟨hrest, hlead⟩ := h.take
    rw [pursue_of_settled hobstacle (hlead request.url)]
    exact ⟨hrest, rfl⟩

/-- Where no reply leads elsewhere, none that came from one wire to the other did, and nothing was redirected. -/
def Stays (before after : Wire) : Prop :=
  before.LeadsNowhere → after.LeadsNowhere ∧
    ∃ sent : List Attempt, after.attempts = before.attempts ++ sent ∧ ∀ a ∈ sent, a.hops = []

theorem Stays.refl (wire : Wire) : Stays wire wire := fun h =>
  ⟨h, [], (List.append_nil _).symm, fun _ ha => absurd ha List.not_mem_nil⟩

theorem Stays.trans (hfirst : Stays before between) (hsecond : Stays between after) : Stays before after := by
  intro h
  obtain ⟨hbetween, front, hfront, hnone⟩ := hfirst h
  obtain ⟨hafter, back, hback, hnone'⟩ := hsecond hbetween
  refine ⟨hafter, front ++ back, by rw [hback, hfront, List.append_assoc], fun a ha => ?_⟩
  rcases List.mem_append.mp ha with ha | ha
  · exact hnone a ha
  · exact hnone' a ha

theorem send_stays (wire : Wire) (trust : Trust) (request : Request) : Stays wire (wire.send trust request).2 := by
  intro h
  obtain ⟨hafter, hhops⟩ := h.pursue trust wire.client.hopLimit request
  obtain ⟨haround, _⟩ := pursue_around trust wire.client.hopLimit request wire
  unfold send
  split
  case isTrue => exact ⟨hafter, _, congrArg (· ++ _) haround.attempts, List.forall_mem_singleton.mpr hhops⟩
  case isFalse => exact Stays.refl wire h

end Wire

namespace Session

theorem exchange_stays (trust : Trust) (timeout : Nat) (composed : Except Loss Request) (wire : Wire) :
    wire.Stays (exchange trust timeout composed wire).2 := by
  cases composed with
  | error loss => exact .refl wire
  | ok request =>
    have hstays := wire.send_stays trust request
    rcases hsend : wire.send trust request with ⟨response, sent⟩
    rw [hsend] at hstays
    simp only [exchange, hsend]
    cases response with
    | error loss => exact hstays
    | ok response => exact hstays

theorem execute_stays (s : Session) (spec : RequestSpec) (wire : Wire) : wire.Stays (s.execute spec wire).2 := by
  unfold execute
  split
  · split
    · exact .refl wire
    · exact exchange_stays _ _ _ wire
  · exact .refl wire

theorem close_stays (s : Session) (wire : Wire) : wire.Stays (s.close wire).2 := by
  unfold close
  dsimp only
  split
  · split
    · exact exchange_stays _ _ _ wire
    · exact .refl wire
  · exact .refl wire

theorem login_stays (trust : Trust) (timeout : Nat) (base : Url) (family : Family) (path username password : String)
    (wire : Wire) : wire.Stays (login trust timeout base family path username password wire).2 := by
  unfold login
  split
  · exact .refl wire
  · rename_i url _
    have hstays := exchange_stays trust timeout (compose "POST" url [("accept", jsonType)]
      (some (loginBody family username password))) wire
    dsimp only
    split
    · rename_i hexchange
      rwa [hexchange] at hstays
    · rename_i hexchange
      rwa [hexchange] at hstays

theorem open_stays (files : FileTree) (config : SessionConfig) (wire : Wire) :
    wire.Stays (Session.open files config wire).2 := by
  have hauthorize : ∀ trust base, wire.Stays (authorize trust base config wire).2 := by
    intro trust base
    unfold authorize
    split
    · exact .refl wire
    · exact .refl wire
    · rename_i username password path _ _
      have hstays := login_stays trust config.endpoint.timeout base config.family path username password wire
      split
      · rename_i hlogin
        rwa [hlogin] at hstays
      · rename_i hlogin
        rwa [hlogin] at hstays
  unfold Session.open
  split
  · exact .refl wire
  · exact .refl wire
  · rename_i trust base _ _
    have hstays := hauthorize trust base
    split
    · rename_i ha
      rwa [ha] at hstays
    · rename_i ha
      rwa [ha] at hstays

/-- The request goes to the host of the base. -/
structure IsSentTo (base : Url) (request : Request) : Prop where
  scheme : request.url.scheme = base.scheme
  host : request.url.host? = base.host?
  port : request.url.effectivePort? = base.effectivePort?

theorem isSentTo_of_compose {base url : Url} (hsite : url.IsOnSiteOf base) {method : String}
    {headers : List (String × String)} {body : Option Json} {request : Request}
    (h : compose method url headers body = .ok request) : IsSentTo base request := by
  obtain ⟨_, _, hurl, _, _⟩ := compose_ok h
  refine ⟨?_, ?_, ?_⟩
  · rw [hurl]
    exact hsite.1
  · rw [hurl, withoutUserInfo_host?, hsite.host?_eq]
  · rw [hurl, withoutUserInfo_effectivePort?, hsite.effectivePort?_eq]

/-! ## Steps -/

variable {s : Session}

theorem execute_isSentTo (hb : s.base.IsHierarchical) (spec : RequestSpec) (wire : Wire) :
    wire.Only (IsSentTo s.base) (s.execute spec wire).2 := by
  obtain ⟨url, hurl, hsite⟩ := spec.resolve_ok hb s.family
  unfold execute
  split
  case isFalse => exact .refl wire
  case isTrue =>
    rw [hurl]
    exact ((exchange_sent _ _ _ wire).mono (fun request h => isSentTo_of_compose hsite h)).only

theorem deleteRequest?_isSentTo (hb : s.base.IsHierarchical) {request : Request}
    (h : s.deleteRequest? = some (.ok request)) : IsSentTo s.base request := by
  simp only [deleteRequest?, Option.bind_eq_bind, Option.bind_eq_some_iff] at h
  obtain ⟨id, _, path, hpath, url, hurl, hrequest⟩ := h
  obtain ⟨joined, hjoined, hsite⟩ := join_rooted hb (Family.sessionDeletePath_isRooted hpath)
  rw [hjoined] at hurl
  cases hurl
  exact isSentTo_of_compose hsite (Option.some.inj hrequest)

theorem close_isSentTo (hb : s.base.IsHierarchical) (wire : Wire) :
    wire.Only (IsSentTo s.base) (s.close wire).2 ∧ (s.close wire).1.base = s.base := by
  unfold close
  dsimp only
  split
  case isFalse => exact ⟨.refl wire, rfl⟩
  case isTrue =>
    split
    case h_1 composed hdelete =>
      refine ⟨((exchange_sent _ _ composed wire).mono (fun request h => ?_)).only, rfl⟩
      rw [h] at hdelete
      exact deleteRequest?_isSentTo hb hdelete
    case h_2 => exact ⟨.refl wire, rfl⟩

theorem open_isSentTo (files : FileTree) (config : SessionConfig) {base : Url} (hbase : config.endpoint.baseUrl = .ok base)
    (wire : Wire) : wire.Only (IsSentTo base) (Session.open files config wire).2 := by
  refine ((open_sent files config wire).mono (fun request hlogin => ?_)).only
  obtain ⟨loginBase, _, _, path, url, hlogin, _, hpath, hurl, hrequest⟩ := hlogin
  rw [hbase] at hlogin
  cases hlogin
  obtain ⟨joined, hjoined, hsite⟩ := join_rooted (Endpoint.baseUrl_isHierarchical hbase) (Family.sessionPath_isRooted hpath)
  rw [hjoined] at hurl
  cases hurl
  exact isSentTo_of_compose hsite hrequest

end Session

open Session

/-! ## Runs -/

variable {α : Type}

theorem Program.run_isSentTo (p : Program α) {s : Session} (hb : s.base.IsHierarchical) (wire : Wire) :
    wire.Only (IsSentTo s.base) (p.run s wire).2.2 ∧ (p.run s wire).2.1.base = s.base := by
  induction p generalizing s wire with
  | done value => exact ⟨.refl wire, rfl⟩
  | execute spec next ih =>
    have hstep := execute_isSentTo hb spec wire
    rcases hx : s.execute spec wire with ⟨reply, later⟩
    rw [hx] at hstep
    obtain ⟨hrest, hbase⟩ := ih reply hb later
    simp only [run, hx]
    exact ⟨hstep.trans hrest, hbase⟩
  | close next ih =>
    obtain ⟨hstep, hkept⟩ := close_isSentTo hb wire
    rcases hc : s.close wire with ⟨closed, later⟩
    rw [hc] at hstep hkept
    obtain ⟨hrest, hbase⟩ := ih (hkept ▸ hb) later
    simp only [run, hc]
    refine ⟨hstep.trans ?_, hbase.trans hkept⟩
    rw [show closed.base = s.base from hkept] at hrest
    exact hrest

theorem withSession_isSentTo (files : FileTree) (config : SessionConfig) {base : Url}
    (hbase : config.endpoint.baseUrl = .ok base) (body : Program α) (wire : Wire) :
    wire.Only (IsSentTo base) (withSession files config body wire).2 := by
  have hopening := open_isSentTo files config hbase wire
  have hresult := open_result files config wire
  rcases ho : Session.open files config wire with ⟨shown, opened⟩
  rw [ho] at hopening hresult
  cases shown with
  | error e => simpa only [withSession, ho] using hopening
  | ok s =>
    obtain ⟨hs, _⟩ := hresult
    obtain rfl : s.base = base := Except.ok.inj (hs.base.symm.trans hbase)
    obtain ⟨hrun, hkept⟩ := body.run_isSentTo hs.isHierarchical opened
    rcases hr : body.run s opened with ⟨value, left, worked⟩
    rw [hr] at hrun hkept
    have hleft : left.base = s.base := hkept
    have hclosing := (close_isSentTo (hleft ▸ hs.isHierarchical) worked).1
    rw [hleft] at hclosing
    simp only [withSession, ho, hr]
    exact (hopening.trans hrun).trans hclosing

theorem Program.run_stays (p : Program α) (s : Session) (wire : Wire) : wire.Stays (p.run s wire).2.2 := by
  induction p generalizing s wire with
  | done value => exact .refl wire
  | execute spec next ih =>
    have hstep := execute_stays s spec wire
    rcases hx : s.execute spec wire with ⟨reply, later⟩
    rw [hx] at hstep
    simp only [run, hx]
    exact hstep.trans (ih reply s later)
  | close next ih =>
    have hstep := close_stays s wire
    rcases hc : s.close wire with ⟨closed, later⟩
    rw [hc] at hstep
    simp only [run, hc]
    exact hstep.trans (ih closed later)

theorem withSession_stays (files : FileTree) (config : SessionConfig) (body : Program α) (wire : Wire) :
    wire.Stays (withSession files config body wire).2 := by
  have hopening := open_stays files config wire
  rcases ho : Session.open files config wire with ⟨shown, opened⟩
  rw [ho] at hopening
  cases shown with
  | error e => simpa only [withSession, ho] using hopening
  | ok s =>
    have hrun := body.run_stays s opened
    rcases hr : body.run s opened with ⟨value, left, worked⟩
    rw [hr] at hrun
    simp only [withSession, ho, hr]
    exact (hopening.trans hrun).trans (close_stays left worked)

/-- Every path resolves against the base of a device, to a URL of the same scheme, host and port, and with any
parameters. Unless a segment of the path is a double dot, plain or escaped, the URL's path is the root of the
service or lies below it. So a session of whatever configuration sends all its requests to the host of its
endpoint, and to no other host unless a reply leads there: then it is the client that goes on, with headers of the
request that it follows, and where no reply leads elsewhere it never does. -/
theorem resolve_confined (config : SessionConfig) {base : Url} (hbase : config.endpoint.baseUrl = .ok base)
    (family : Family) (spec : RequestSpec) :
    (∃ url, spec.resolve base family.root = .ok url ∧
      url.scheme = base.scheme ∧ url.host? = base.host? ∧ url.effectivePort? = base.effectivePort? ∧
      ((∀ segment ∈ readSegments (isSpecial base.scheme) (fullPath family.root.toList spec.path.toList),
          isDoubleDot segment = false) →
        url.path.chars = family.root.toList ∨ ∃ below, url.path.chars = family.root.toList ++ '/' :: below)) ∧
      ∀ (α : Type) (files : FileTree) (body : Program α) (wire : Wire),
        ∃ sent : List Attempt, (withSession files config body wire).2.attempts = wire.attempts ++ sent ∧
          (∀ a ∈ sent, IsSentTo base a.request ∧ ∀ hop ∈ a.hops, hop.request.Follows a.request) ∧
          (wire.LeadsNowhere → ∀ a ∈ sent, a.hops = [] ∧ ∀ request ∈ a.requests, IsSentTo base request) := by
  have hb := Endpoint.baseUrl_isHierarchical hbase
  refine ⟨?_, fun α files body wire => ?_⟩
  swap
  · obtain ⟨sent, hlog, hsent⟩ := withSession_isSentTo files config hbase body wire
    refine ⟨sent, hlog, fun a ha => ⟨hsent a ha, a.follows⟩, fun hleads a ha => ?_⟩
    obtain ⟨_, same, hsame, hnone⟩ := withSession_stays files config body wire hleads
    obtain rfl : sent = same := List.append_cancel_left (hlog.symm.trans hsame)
    refine ⟨hnone a ha, fun request hrequest => ?_⟩
    rw [Attempt.requests, hnone a ha, List.filter_nil, List.map_nil, List.append_nil] at hrequest
    split at hrequest
    · rw [List.mem_singleton.mp hrequest]
      exact hsent a ha
    · cases hrequest
  obtain ⟨rest, hfull, hrest⟩ := fullPath_goesOn family.root.toList spec.path.toList
  obtain ⟨url, hread, hsite⟩ := readChars_rooted hb (family.root_isRooted.append rest)
  have hresolve : spec.resolve base family.root = .ok (url.addParameters spec.query) := by
    simp only [RequestSpec.resolve, hfull, hread]
    rfl
  have hparameters := hsite.addParameters spec.query
  refine ⟨_, hresolve, hparameters.1, hparameters.host?_eq, hparameters.effectivePort?_eq, fun hdots => ?_⟩
  rw [addParameters_path]
  rw [hfull] at hdots
  exact readChars_within hb family.root_isRootPath hrest hread hdots

/-- A path made up to look like another host, with blanks that a reader leaves out. -/
theorem resolve_confined_lookalike :
    let config : SessionConfig := ⟨⟨"192.168.0.1", 8443, .https, .system, 30000⟩, .token "t", .ome, none⟩
    let base : Url := ⟨"https".toList, some ⟨[], none, .ipv4 0xC0A80001, some 8443⟩, .segments [[]], none, none⟩
    let spec : RequestSpec := .get "//evil.example\\a\t\tb/api?x=/../y"
    config.endpoint.baseUrl = .ok base ∧
      (∀ segment ∈ readSegments (isSpecial base.scheme) (fullPath Family.ome.root.toList spec.path.toList),
        isDoubleDot segment = false) ∧
      ∃ url, spec.resolve base Family.ome.root = .ok url ∧ url.host? = base.host? ∧
        (url.path.chars = Family.ome.root.toList ∨ ∃ below, url.path.chars = Family.ome.root.toList ++ '/' :: below) := by
  intro config base spec
  have hbase : config.endpoint.baseUrl = .ok base := eq_ok_of_toOption (by decide +kernel)
  have hdots : ∀ segment ∈ readSegments (isSpecial base.scheme) (fullPath Family.ome.root.toList spec.path.toList),
      isDoubleDot segment = false := by decide +kernel
  obtain ⟨⟨url, hurl, _, hhost, _, hwithin⟩, _⟩ := resolve_confined config hbase .ome spec
  exact ⟨hbase, hdots, url, hurl, hhost, hwithin hdots⟩

/-- A reply that leads to another host takes the token there, and a login that is led on takes the password. -/
theorem resolve_confined_redirected :
    let endpoint : Endpoint := ⟨"127.0.0.1", 443, .http, .system, 30000⟩
    let wire (status : Nat) : Wire := {
      device := ⟨.ipv4 0x7F000001, 443, true, none,
        [.answer status [("location", "http://other.example/")] [], .answer 200 [] []]⟩
      attempts := []
      network := ⟨fun _ _ => some none⟩ }
    let login := "\x7b\"Password\":\"calvin\",\"UserName\":\"root\"\x7d"
    let requested (credentials : Credentials) (status : Nat) :=
      (withSession FileTree.empty ⟨endpoint, credentials, .redfish, none⟩ (Program.request (.get "Systems"))
        (wire status)).2.requests.map (fun request =>
          (request.url.text, List.lookup "x-auth-token" request.headers, request.body.map Json.compact))
    requested (.token "t") 302 =
        [("http://127.0.0.1:443/redfish/v1/Systems", some "t", none), ("http://other.example/", some "t", none)] ∧
      (requested (.basic "root" "calvin") 307).take 2 =
        [("http://127.0.0.1:443/redfish/v1/SessionService/Sessions", none, some login), ("http://other.example/", none, some login)] := by
  decide +kernel

end OutOfBand
