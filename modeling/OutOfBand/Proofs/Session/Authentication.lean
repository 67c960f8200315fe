import OutOfBand.Proofs.Session.Confinement
import OutOfBand.Proofs.Session.Lifecycle
import OutOfBand.Proofs.Session.Reachability

/-! # What a session shows

A session shows one credential for as long as it is open. It is settled when the session opens, and no reply that
comes later changes it. The login comes first and shows none. A user name in the host of the endpoint is shown as
well, with every request and also with the login.
-/
namespace OutOfBand

open Http Session Url

/-! ## Headers by name -/

namespace Http.Headers

/-- The headers of some names, in order. -/
def named (names : List String) (headers : Headers) : Headers := headers.filter (fun header => names.contains header.1)

variable {names : List String}

theorem named_append (a b : Headers) : named names (a ++ b) = named names a ++ named names b := List.filter_append _ _

theorem named_singleton_of_mem {name : String} (h : name ∈ names) (value : String) :
    named names [(name, value)] = [(name, value)] := by
  simp [named, h]

theorem named_singleton_of_notMem {name : String} (h : name ∉ names) (value : String) :
    named names [(name, value)] = [] := by
  simp [named, h]

theorem named_default {name : String} (h : Text.lowerAscii name ∉ names) (headers : Headers) (value : String) :
    named names (headers.default name value) = named names headers := by
  unfold Headers.default
  split
  case isTrue => rfl
  case isFalse => rw [append, named_append, named_singleton_of_notMem h, List.append_nil]

theorem lowered_singleton {name : String} (h : Text.lowerAscii name = name) (value : String) :
    lowered [(name, value)] = [(name, value)] := by
  rw [lowered, List.map_singleton, h]

end Http.Headers

open Http.Headers (named named_append named_singleton_of_mem named_singleton_of_notMem named_default lowered_singleton
  lowered_append lowered)

def authenticationNames : List String := ["authorization", tokenHeader]

/-- What a request shows of credentials. -/
def credentialsShown (request : Request) : Headers := named authenticationNames request.headers

/-- The vCenters that a request is said to be for. -/
def vcentersNamed (request : Request) : Headers := named [vcenterHeader] request.headers

/-- The second request shows no credential and names no vCenter that the first one does not. -/
structure Http.Request.ShowsWithin (next first : Request) : Prop where
  credentials : List.Sublist (credentialsShown next) (credentialsShown first)
  vcenters : List.Sublist (vcentersNamed next) (vcentersNamed first)

theorem Http.Request.Follows.named_sublist {next first : Request} (h : next.Follows first) {names : List String}
    (hnames : refererHeader ∉ names) : List.Sublist (named names next.headers) (named names first.headers) := by
  have hkept : named names (next.headers.filter (fun header => header.1 != refererHeader)) = named names next.headers := by
    rw [named, List.filter_filter]
    refine List.filter_congr fun header _ => ?_
    cases hname : names.contains header.1 with
    | false => rfl
    | true =>
      have hother : header.1 ≠ refererHeader := fun hsame => hnames (hsame ▸ List.contains_iff_mem.mp hname)
      simpa using hother
  rw [← hkept]
  exact h.headers.filter _

/-- A request that redirects have made of another one shows no more than that one. -/
theorem Http.Request.Follows.showsWithin {next first : Request} (h : next.Follows first) : next.ShowsWithin first :=
  ⟨h.named_sublist (by decide), h.named_sublist (by decide)⟩

namespace Http.RequestSpec

/-- The headers of its own that name a vCenter. -/
def ownVcenters (spec : RequestSpec) : Headers := named [vcenterHeader] (lowered spec.headers)

def ShowsNothing (spec : RequestSpec) : Prop := named authenticationNames (lowered spec.headers) = []

end Http.RequestSpec

namespace Session

theorem lowered_urlHeaders (url : Url) : lowered (urlHeaders url) = urlHeaders url := by
  unfold urlHeaders
  split
  · exact lowered_singleton (by decide) _
  · rfl

theorem named_urlHeaders (url : Url) :
    named authenticationNames (urlHeaders url) = urlHeaders url ∧ named [vcenterHeader] (urlHeaders url) = [] := by
  unfold urlHeaders
  split
  · exact ⟨named_singleton_of_mem (by decide) _, named_singleton_of_notMem (by decide) _⟩
  · exact ⟨rfl, rfl⟩

theorem named_authorizationHeader (shown : Authorization) :
    named authenticationNames (lowered [authorizationHeader shown]) = [authorizationHeader shown] ∧
      named [vcenterHeader] (lowered [authorizationHeader shown]) = [] := by
  cases shown with
  | token token =>
    rw [authorizationHeader, lowered_singleton (by decide)]
    exact ⟨named_singleton_of_mem (by decide) _, named_singleton_of_notMem (by decide) _⟩
  | basic username password =>
    rw [authorizationHeader, lowered_singleton (by decide)]
    exact ⟨named_singleton_of_mem (by decide) _, named_singleton_of_notMem (by decide) _⟩

theorem named_accept :
    named authenticationNames (lowered [("accept", jsonType)]) = [] ∧
      named [vcenterHeader] (lowered [("accept", jsonType)]) = [] := by
  rw [lowered_singleton (by decide)]
  exact ⟨named_singleton_of_notMem (by decide) _, named_singleton_of_notMem (by decide) _⟩

/-- Nothing that every request has is an authentication header or names a vCenter. -/
theorem compose_shows {method : String} {url : Url} {headers : List (String × String)} {body : Option Json}
    {request : Request} (h : compose method url headers body = .ok request) :
    credentialsShown request = urlHeaders url ++ named authenticationNames (lowered headers) ∧
      vcentersNamed request = named [vcenterHeader] (lowered headers) := by
  have hnamed : ∀ names : List String, (∀ name ∈ ["content-type", "user-agent", "accept"], Text.lowerAscii name ∉ names) →
      named names request.headers = named names (urlHeaders url) ++ named names (lowered headers) := by
    intro names hnames
    have htype := hnames "content-type" (by decide)
    have hagent := hnames "user-agent" (by decide)
    have haccept := hnames "accept" (by decide)
    rw [compose_headers h, named_default haccept, named_default hagent]
    split
    · rw [named_default htype, lowered_append, named_append, lowered_urlHeaders]
    · rw [lowered_append, named_append, lowered_urlHeaders]
  obtain ⟨hcredentials, hvcenters⟩ := named_urlHeaders url
  constructor
  · rw [credentialsShown, hnamed authenticationNames (by decide), hcredentials]
  · rw [vcentersNamed, hnamed [vcenterHeader] (by decide), hvcenters, List.nil_append]

/-! ## Steps -/

/-- What the session adds to every request to name its vCenter. -/
def vcenterOf (s : Session) : Headers :=
  match s.vcenterUuid with
  | some uuid => [(vcenterHeader, uuid)]
  | none => []

/-- A request in use, made for some spec. -/
structure IsUse (s : Session) (spec : RequestSpec) (request : Request) : Prop where
  method : request.method = spec.method
  asksForJson : AsksForJson request
  credentials : credentialsShown request = urlHeaders s.base ++ [authorizationHeader s.authorization]
  vcenters : vcentersNamed request = s.vcenterOf ++ spec.ownVcenters

structure IsRelease (config : SessionConfig) (s : Session) (request : Request) : Prop where
  deletion : ∃ id, IsDeletion config id request
  credentials : credentialsShown request = urlHeaders s.base ++ [authorizationHeader s.authorization]

theorem headersFor_named (s : Session) (spec : RequestSpec) (names : List String) :
    named names (lowered (s.headersFor spec)) = named names (lowered [authorizationHeader s.authorization]) ++
      (named names (lowered [("accept", jsonType)]) ++ (named names (lowered s.vcenterOf) ++ named names (lowered spec.headers))) := by
  have hheaders : s.headersFor spec = [authorizationHeader s.authorization] ++ ([("accept", jsonType)] ++
      (s.vcenterOf ++ spec.headers)) := rfl
  simp only [hheaders, lowered_append, named_append]

theorem vcenterOf_named (s : Session) :
    named authenticationNames (lowered s.vcenterOf) = [] ∧ named [vcenterHeader] (lowered s.vcenterOf) = s.vcenterOf := by
  unfold vcenterOf
  split
  · rw [lowered_singleton (by decide)]
    exact ⟨named_singleton_of_notMem (by decide) _, named_singleton_of_mem (by decide) _⟩
  · exact ⟨rfl, rfl⟩

variable {config : SessionConfig} {s : Session}

theorem execute_isUse (hb : s.base.IsHierarchical) {spec : RequestSpec} (hspec : spec.ShowsNothing) (wire : Wire) :
    wire.Only (s.IsUse spec) (s.execute spec wire).2 := by
  obtain ⟨url, hurl, hsite⟩ := spec.resolve_ok hb s.family
  unfold execute
  split
  case isFalse => exact .refl wire
  case isTrue =>
    rw [hurl]
    refine ((exchange_sent _ _ _ wire).mono (fun request h => ?_)).only
    obtain ⟨hcredentials, hvcenters⟩ := compose_shows h
    obtain ⟨hauthorization, hnone⟩ := named_authorizationHeader s.authorization
    refine ⟨(compose_ok h).2.1, headersFor_asksForJson h, ?_, ?_⟩
    · rw [hcredentials, headersFor_named, hauthorization, named_accept.1, s.vcenterOf_named.1, hspec, urlHeaders_eq hsite]
      simp only [List.append_nil]
    · rw [hvcenters, headersFor_named, hnone, named_accept.2, s.vcenterOf_named.2]
      simp only [List.nil_append, RequestSpec.ownVcenters]

theorem IsOpened.isRelease_of_deleteRequest? (hs : IsOpened config s) {request : Request}
    (h : s.deleteRequest? = some (.ok request)) : IsRelease config s request := by
  have hcomposed := h
  simp only [deleteRequest?, Option.bind_eq_bind, Option.bind_eq_some_iff] at hcomposed
  obtain ⟨id, hid, path, hpath, url, hurl, hrequest⟩ := hcomposed
  obtain ⟨joined, hjoined, hsite⟩ := join_rooted hs.isHierarchical (Family.sessionDeletePath_isRooted hpath)
  rw [hjoined] at hurl
  cases hurl
  obtain ⟨made, hmade, hdeletion⟩ := hs.deleteRequest hid
  rw [h] at hmade
  cases hmade
  obtain ⟨hcredentials, _⟩ := compose_shows (Option.some.inj hrequest)
  refine ⟨⟨id, hdeletion⟩, ?_⟩
  rw [hcredentials, (named_authorizationHeader s.authorization).1, urlHeaders_eq hsite]

theorem IsOpened.close_isRelease (hs : IsOpened config s) (wire : Wire) :
    wire.AtMostOne (IsRelease config s) (s.close wire).2 := by
  unfold close
  dsimp only
  split
  case isFalse => exact .none wire
  case isTrue =>
    split
    case h_1 composed hdelete =>
      refine (exchange_sent _ _ composed wire).mono (fun request h => ?_)
      rw [h] at hdelete
      exact hs.isRelease_of_deleteRequest? hdelete
    case h_2 => exact .none wire

end Session

/-! ## Runs -/

namespace Program

variable {α : Type}

/-- The program may come to make this request, for some replies of the device. -/
def Mentions (spec : RequestSpec) : Program α → Prop
  | done _ => False
  | execute first next => first = spec ∨ ∃ reply, (next reply).Mentions spec
  | close next => next.Mentions spec

/-- Requests in use, and behind them at most one request that ends the session. -/
theorem run_shows (p : Program α) (hp : ∀ spec, p.Mentions spec → spec.ShowsNothing) {config : SessionConfig} {s : Session}
    (hs : IsOpened config s) (wire : Wire) :
    ∃ used closing : List Attempt, (p.run s wire).2.2.attempts = wire.attempts ++ used ++ closing ∧
      (∀ a ∈ used, ∃ spec, p.Mentions spec ∧ s.IsUse spec a.request) ∧
      closing.length ≤ 1 ∧ ∀ a ∈ closing, IsRelease config s a.request := by
  induction p generalizing wire with
  | done value => exact ⟨[], [], by simp [run], by simp, by simp, by simp⟩
  | execute spec next ih =>
    -- the session itself stays as it is, so the invariant is about the log only
    obtain ⟨sent, hlog, hsent⟩ := execute_isUse hs.isHierarchical (hp spec (Or.inl rfl)) wire
    rcases hx : s.execute spec wire with ⟨reply, later⟩
    rw [hx] at hlog
    obtain ⟨used, closing, hrest, hused, hlength, hclosing⟩ :=
      ih reply (fun other hother => hp other (Or.inr ⟨reply, hother⟩)) later
    refine ⟨sent ++ used, closing, ?_, ?_, hlength, hclosing⟩
    · simp only [run, hx]
      rw [hrest, show later.attempts = wire.attempts ++ sent from hlog, List.append_assoc wire.attempts]
    · intro a ha
      rcases List.mem_append.mp ha with ha | ha
      · exact ⟨spec, Or.inl rfl, hsent a ha⟩
      · obtain ⟨other, hother, huse⟩ := hused a ha
        exact ⟨other, Or.inr ⟨reply, hother⟩, huse⟩
  | close next _ =>
    -- no request of the rest is sent, as the session is closed
    obtain ⟨closing, hlog, hlength, hclosing⟩ := hs.close_isRelease wire
    refine ⟨[], closing, ?_, by simp, hlength, hclosing⟩
    simp only [run, run_of_closed (close_isOpen s wire), hlog, List.append_nil]

end Program

/-! ## Opening -/

namespace Session

/-- The credential that a session shows: the token that is given, user name and password where the family has no
sessions, and otherwise the first token of the login reply. -/
def credentialOf? (files : FileTree) (config : SessionConfig) (wire : Wire) : Option Authorization :=
  match config.credentials, config.family with
  | .token token, _ => some (.token token)
  | .basic username password, .omevv => some (.basic username password)
  | .basic _ _, _ =>
    (loginReply? files config wire).bind (fun reply => (List.lookup tokenHeader reply.headers).map Authorization.token)

/-- The user that the host of the endpoint names. -/
def userInUrl (config : SessionConfig) : Headers :=
  match config.endpoint.baseUrl with
  | .ok base => urlHeaders base
  | .error _ => []

/-- The vCenter to be named: that of the configuration, if it is not empty and the family is that of the vCenter
integration. -/
def vcenterFor (config : SessionConfig) : Headers :=
  match config.family, config.vcenterUuid with
  | .omevv, some uuid => if uuid = "" then [] else [(vcenterHeader, uuid)]
  | _, _ => []

variable {config : SessionConfig} {files : FileTree}

theorem IsLogin.credentials {request : Request} (h : IsLogin config request) :
    credentialsShown request = userInUrl config := by
  obtain ⟨base, _, _, path, url, hbase, _, hpath, hurl, hrequest⟩ := h
  obtain ⟨joined, hjoined, hsite⟩ := join_rooted (Endpoint.baseUrl_isHierarchical hbase) (Family.sessionPath_isRooted hpath)
  rw [hjoined] at hurl
  cases hurl
  obtain ⟨hcredentials, _⟩ := compose_shows hrequest
  rw [hcredentials, named_accept.1, List.append_nil, urlHeaders_eq hsite]
  simp only [userInUrl, hbase]

theorem lookup_of_text? {headers : Headers} {token : String} (h : headers.text? tokenHeader = some token) :
    List.lookup tokenHeader headers = some token := by
  have hlower : Text.lowerAscii tokenHeader = tokenHeader := by decide
  have hlookup := (Option.filter_eq_some_iff.mp h).1
  rwa [hlower] at hlookup

theorem login_credential {trust : Trust} {base : Url} {username password path : String}
    (htrust : config.endpoint.trust files = .ok trust) (hbase : config.endpoint.baseUrl = .ok base)
    (hcredentials : config.credentials = .basic username password) (hpath : config.family.sessionPath? = some path)
    {wire : Wire} {token : String} {id : Option String}
    (h : (login trust config.endpoint.timeout base config.family path username password wire).1 = .ok (token, id)) :
    credentialOf? files config wire = some (.token token) := by
  obtain ⟨url, hurl, _⟩ := Url.join_rooted (Endpoint.baseUrl_isHierarchical hbase) (Family.sessionPath_isRooted hpath)
  have hreply : ∃ reply, loginReply? files config wire = some reply ∧ reply.headers.text? tokenHeader = some token := by
    simp only [login, hurl] at h
    simp only [loginReply?, htrust, hbase, hcredentials, hpath, hurl]
    rcases hx : exchange trust config.endpoint.timeout (compose "POST" url [("accept", jsonType)]
      (some (loginBody config.family username password))) wire with ⟨reply, later⟩
    rw [hx] at h
    cases reply with
    | error e => cases h
    | ok reply => exact ⟨reply, rfl, (loginResult_ok h).2.1⟩
  obtain ⟨reply, hreply, htoken⟩ := hreply
  have hfamily : config.family ≠ .omevv := by
    intro homevv
    rw [homevv] at hpath
    cases hpath
  have hgranted : (loginReply? files config wire).bind
      (fun reply => (List.lookup tokenHeader reply.headers).map Authorization.token) = some (.token token) := by
    rw [hreply, Option.bind_some, lookup_of_text? htoken, Option.map_some]
  unfold credentialOf?
  rw [hcredentials]
  cases hf : config.family with
  | redfish => exact hgranted
  | ome => exact hgranted
  | omevv => exact absurd hf hfamily

theorem eq_token_of_checkedToken {token : String} {shown : Authorization} (h : checkedToken token = .ok shown) :
    shown = .token token := by
  unfold checkedToken at h
  split at h
  · cases h
    rfl
  · cases h

theorem authorize_credential {trust : Trust} {base : Url} (htrust : config.endpoint.trust files = .ok trust)
    (hbase : config.endpoint.baseUrl = .ok base) {wire : Wire} {granted : Authorization × Option String}
    (h : (authorize trust base config wire).1 = .ok granted) : credentialOf? files config wire = some granted.1 := by
  unfold authorize at h
  split at h
  · rename_i token hcredentials
    obtain ⟨shown, hshown, rfl⟩ := map_eq_ok h
    rw [eq_token_of_checkedToken hshown]
    simp only [credentialOf?, hcredentials]
  · rename_i username password hcredentials hpath
    cases h
    have hfamily : config.family = .omevv := by
      cases hf : config.family with
      | redfish => rw [hf] at hpath; cases hpath
      | ome => rw [hf] at hpath; cases hpath
      | omevv => rfl
    simp only [credentialOf?, hcredentials, hfamily]
  · rename_i username password path hcredentials hpath
    split at h
    · cases h
    · rename_i token id later hlogin
      obtain ⟨shown, hshown, rfl⟩ := map_eq_ok h
      rw [eq_token_of_checkedToken hshown]
      exact login_credential htrust hbase hcredentials hpath (congrArg Prod.fst hlogin)

theorem open_credential {wire : Wire} {s : Session} (h : (Session.open files config wire).1 = .ok s) :
    credentialOf? files config wire = some s.authorization := by
  unfold Session.open at h
  split at h
  · cases h
  · cases h
  · rename_i trust base htrust hbase
    have hcredential : ∀ granted, (authorize trust base config wire).1 = .ok granted →
        credentialOf? files config wire = some granted.1 := fun granted h => authorize_credential htrust hbase h
    rcases ha : authorize trust base config wire with ⟨shown, later⟩
    rw [ha] at h hcredential
    cases shown with
    | error e => cases h
    | ok shown =>
      cases h
      exact hcredential shown rfl

theorem open_vcenter {wire : Wire} {s : Session} (h : (Session.open files config wire).1 = .ok s) :
    s.vcenterOf = vcenterFor config := by
  rw [vcenterOf, (open_shows h).2, identifier, vcenterFor]
  cases config.family with
  | redfish => rfl
  | ome => rfl
  | omevv =>
    cases config.vcenterUuid with
    | none => rfl
    | some uuid =>
      by_cases hempty : uuid = ""
      · subst hempty
        rfl
      · have hkept : Option.filter (!·.isEmpty) (some uuid) = some uuid := by
          rw [Option.filter_some, if_pos (by simpa [String.isEmpty_iff] using hempty)]
        simp only [hkept, hempty, ↓reduceIte]

/-! ## Hosts that name a user -/

theorem authorityOf_userInfo {scheme text : List Char} {authority : Authority} (htext : '@' ∉ text)
    (h : authorityOf scheme text = .ok authority) : authority.username = [] ∧ authority.password = none := by
  have hinfo : splitUserInfo text = (none, text) := by
    simp only [splitUserInfo, List.contains_iff_mem, htext, ↓reduceIte]
  have hparts : userInfoParts (Option.getD none []) = ([], none) := rfl
  have hknown : ∀ {known : Bool} {host : Host} {port : Except Fault (Option Nat)},
      (if known = true then .error .emptyHost else port >>= fun port => .ok ⟨[], none, host, port⟩) = Except.ok authority →
        authority.username = [] ∧ authority.password = none := by
    intro known host port hread
    cases known with
    | true => cases hread
    | false =>
      obtain ⟨_, _, hauthority⟩ := bind_eq_ok hread
      cases hauthority
      exact ⟨rfl, rfl⟩
  -- whichever way the host is read, what goes on from it is the same
  simp only [authorityOf, hinfo, hparts] at h
  split at h
  · obtain ⟨host, _, hrest⟩ := bind_eq_ok h
    exact hknown hrest
  split at h
  · obtain ⟨host, _, hrest⟩ := bind_eq_ok h
    exact hknown hrest
  · obtain ⟨host, _, hrest⟩ := bind_eq_ok h
    exact hknown hrest

theorem userInUrl_eq_nil (hhost : '@' ∉ config.endpoint.host.toList) : userInUrl config = [] := by
  cases hbase : config.endpoint.baseUrl with
  | error e => simp only [userInUrl, hbase]
  | ok base =>
    obtain ⟨scheme, text, query, fragment, hspecial, htext, hread⟩ := Endpoint.baseUrl_ok hbase
    have hport : '@' ∉ (toString config.endpoint.port).toList := by
      intro hmem
      rw [Nat.toString_eq_ofList_toDigits, String.toList_ofList] at hmem
      exact absurd (Nat.isDigit_of_mem_toDigits (by decide) (by decide) hmem) (by decide)
    have hat : '@' ∉ text.takeWhile (!isSlash true ·) := by
      intro hmem
      have hall := htext _ ((List.takeWhile_prefix _).subset hmem)
      simp only [List.mem_append, hhost, hport, or_false, false_or] at hall
      exact absurd hall (by decide)
    simp only [behindSlashes, hspecial] at hread
    obtain ⟨authority, hauthority, hurl⟩ := bind_eq_ok hread
    cases hurl
    obtain ⟨husername, hpassword⟩ := authorityOf_userInfo hat hauthority
    simp [userInUrl, hbase, urlHeaders, userInfo?, husername, hpassword]

end Session

/-- One session, one credential. Whatever a program sends and however the device answers, a login comes before all
else and at most once, requests in use follow, and the request that ends the session comes last and at most once.
All but the login show the same credential once: the token that was given, user name and password where the family
has no sessions, and otherwise the first token of the login reply. The login shows none. What a host with an at sign
names is shown besides, with every request. Requests in use name the vCenter of the configuration besides those that
they name themselves. What the client makes of a request that is redirected shows no more than the request does, and
where no reply leads elsewhere the client makes nothing of its own. -/
theorem run_showsOneCredential {α : Type} (files : FileTree) (config : SessionConfig) (program : Program α)
    (hprogram : ∀ spec, program.Mentions spec → spec.ShowsNothing) (wire : Wire) :
    ('@' ∉ config.endpoint.host.toList → userInUrl config = []) ∧
    (∀ (a : Attempt), ∀ hop ∈ a.hops, hop.request.ShowsWithin a.request) ∧
    ∃ login : List Attempt, login.length ≤ 1 ∧
      (∀ a ∈ login, IsLogin config a.request ∧ credentialsShown a.request = userInUrl config) ∧
      match Session.open files config wire with
      | (.error _, opened) => opened.attempts = wire.attempts ++ login ∧ (wire.LeadsNowhere → ∀ a ∈ login, a.hops = [])
      | (.ok session, opened) => ∃ (shown : Authorization) (used closing : List Attempt),
        credentialOf? files config wire = some shown ∧
        (program.run session opened).2.2.attempts = wire.attempts ++ login ++ used ++ closing ∧
        (∀ a ∈ used, credentialsShown a.request = userInUrl config ++ [authorizationHeader shown] ∧
          AsksForJson a.request ∧ ∃ spec, program.Mentions spec ∧ a.request.method = spec.method ∧
            vcentersNamed a.request = vcenterFor config ++ spec.ownVcenters) ∧
        closing.length ≤ 1 ∧
        (∀ a ∈ closing, credentialsShown a.request = userInUrl config ++ [authorizationHeader shown] ∧
          ∃ id, IsDeletion config id a.request) ∧
        (wire.LeadsNowhere → ∀ a ∈ login ++ used ++ closing, a.hops = []) := by
  refine ⟨userInUrl_eq_nil, fun a hop hhop => (a.follows hop hhop).showsWithin, ?_⟩
  obtain ⟨login, hlogin, hlength, hsent⟩ := open_sent files config wire
  refine ⟨login, hlength, fun a ha => ⟨hsent a ha, (hsent a ha).credentials⟩, ?_⟩
  have hresult := open_result files config wire
  have hstays := open_stays files config wire
  rcases ho : Session.open files config wire with ⟨result, opened⟩
  rw [ho] at hlogin hresult hstays
  cases result with
  | error e =>
    refine ⟨hlogin, fun hleads => ?_⟩
    obtain ⟨_, same, hsame, hnone⟩ := hstays hleads
    rwa [List.append_cancel_left (hlogin.symm.trans hsame)]
  | ok session =>
    obtain ⟨hopened, _⟩ := hresult
    have hfirst : (Session.open files config wire).1 = .ok session := by rw [ho]
    have hurl : userInUrl config = urlHeaders session.base := by simp only [userInUrl, hopened.base]
    obtain ⟨used, closing, hlog, hused, hclosing, hrelease⟩ := program.run_shows hprogram hopened opened
    have hwhole : (program.run session opened).2.2.attempts = wire.attempts ++ login ++ used ++ closing := by
      rw [hlog, show opened.attempts = wire.attempts ++ login from hlogin]
    refine ⟨session.authorization, used, closing, open_credential hfirst, hwhole, ?_, hclosing, ?_, fun hleads => ?_⟩
    · intro a ha
      obtain ⟨spec, hmentions, huse⟩ := hused a ha
      refine ⟨by rw [hurl, huse.credentials], huse.asksForJson, spec, hmentions, huse.method, ?_⟩
      rw [huse.vcenters, open_vcenter hfirst]
    · intro a ha
      exact ⟨by rw [hurl, (hrelease a ha).credentials], (hrelease a ha).deletion⟩
    · obtain ⟨_, same, hsame, hnone⟩ := (hstays.trans (program.run_stays session opened)) hleads
      rw [List.append_assoc, List.append_assoc] at hwhole
      rw [List.append_assoc]
      rwa [List.append_cancel_left (hwhole.symm.trans hsame)]

/-- Two tokens in the login reply and another one in a later reply: the first is the one that is shown. -/
theorem run_showsOneCredential_tokens :
    let config : SessionConfig := ⟨⟨"127.0.0.1", 443, .http, .system, 30000⟩, .basic "root" "calvin", .ome, none⟩
    let program : Program Unit := .execute (.get "a") (fun _ => .execute (.get "b") (fun _ => .close (.done ())))
    let wire : Wire := ⟨⟨.ipv4 0x7F000001, 443, true, none,
      [.answer 201 [("x-auth-token", "s"), ("x-auth-token", "t")] (Text.encodeUtf8 "\x7b\"Id\": \"7\"\x7d"),
        .answer 200 [("x-auth-token", "u")] [], .dropped, .answer 204 [] []]⟩, []⟩
    (∀ spec, program.Mentions spec → spec.ShowsNothing) ∧
      credentialOf? FileTree.empty config wire = some (.token "s") ∧
      ∀ session opened, Session.open FileTree.empty config wire = (.ok session, opened) →
        ∃ login used closing, (program.run session opened).2.2.attempts = login ++ used ++ closing ∧
          (∀ a ∈ login, credentialsShown a.request = []) ∧
          ∀ a ∈ used ++ closing, credentialsShown a.request = [(tokenHeader, "s")] := by
  intro config program wire
  have hplain : ∀ spec, program.Mentions spec → spec.ShowsNothing := by
    rintro spec (rfl | ⟨_, rfl | ⟨_, hnone⟩⟩)
    · rfl
    · rfl
    · cases hnone
  have htoken : credentialOf? FileTree.empty config wire = some (.token "s") := by decide +kernel
  refine ⟨hplain, htoken, fun session opened ho => ?_⟩
  have hshows := run_showsOneCredential FileTree.empty config program hplain wire
  rw [ho] at hshows
  obtain ⟨hurl, _, login, _, hlogin, shown, used, closing, hshown, hlog, hused, _, hclosing, _⟩ := hshows
  have hnone : userInUrl config = [] := hurl (by decide)
  rw [htoken] at hshown
  cases hshown
  refine ⟨login, used, closing, hlog, fun a ha => ?_, fun a ha => ?_⟩
  · rw [(hlogin a ha).2, hnone]
  · rcases List.mem_append.mp ha with ha | ha
    · rw [(hused a ha).1, hnone]
      rfl
    · rw [(hclosing a ha).1, hnone]
      rfl

/-- An endpoint accepts a host that names a user, and then a request shows that user beside the token. -/
theorem run_shows_user_of_host :
    ∃ endpoint, Endpoint.new "root:calvin@127.0.0.1" 443 .acceptInvalid 30000 = .ok endpoint ∧
      let config : SessionConfig := ⟨endpoint, .token "t", .redfish, none⟩
      let wire : Wire := ⟨⟨.ipv4 0x7F000001, 443, true, some [], [.answer 200 [] []]⟩, []⟩
      ((withSession FileTree.empty config (Program.request (.get "Systems")) wire).2.attempts.map
          (fun a => credentialsShown a.request)) =
        [[("authorization", "Basic cm9vdDpjYWx2aW4="), (tokenHeader, "t")]] := by
  refine ⟨⟨"root:calvin@127.0.0.1", 443, .https, .acceptInvalid, 30000⟩, eq_ok_of_toOption (by decide +kernel), ?_⟩
  decide +kernel

end OutOfBand
