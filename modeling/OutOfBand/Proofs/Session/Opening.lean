import OutOfBand.Proofs.Session.Exchange
import OutOfBand.Proofs.Text.Segments

/-! # Opening and closing

Opening a session sends a login or nothing. Whether it leaves a session on the device that can be
deleted is read off the reply to the login alone, and the session that is opened knows exactly the id of
that one. Closing sends the deletion of it, unless the client does not take its URL, and nothing where
there is none.
-/
namespace OutOfBand.Session

open Http

/-! ## Logins -/

/-- The reply to the login of a configuration, where there is a login and its reply is complete. -/
def loginReply? (files : FileTree) (config : SessionConfig) (wire : Wire) : Option Envelope :=
  match config.endpoint.trust files, config.endpoint.baseUrl with
  | .ok trust, .ok base =>
    match config.credentials, config.family.sessionPath? with
    | .basic username password, some path =>
      match base.join path with
      | .ok url =>
        (exchange trust config.endpoint.timeout (compose "POST" url [("accept", jsonType)]
          (some (loginBody config.family username password))) wire).1.toOption
      | .error _ => none
    | _, _ => none
  | _, _ => none

/-- Whether a login reply grants a token: a success with a token that can be read and is not empty. -/
def grantsToken (reply : Envelope) : Bool :=
  reply.isSuccess && ((reply.headers.text? tokenHeader).filter (!·.isEmpty)).isSome

/-- The id of the session that opening creates on the device, as far as the login reply tells it. -/
def createdSession? (files : FileTree) (config : SessionConfig) (wire : Wire) : Option String :=
  ((loginReply? files config wire).filter grantsToken).bind createdId?

/-- The id that a login reply gives the session: the text or the number under `Id`, and where neither is there the
last segment of a location that can be read, unless that is empty. -/
inductive GivesId (reply : Envelope) : String → Prop
  | text {id : String} (h : reply.body.member? "Id" = some (.string id)) : GivesId reply id
  | number {n : Numeral} (h : reply.body.member? "Id" = some (.number n)) : GivesId reply n.render
  | location {location id : String} (htext : ∀ text, reply.body.member? "Id" ≠ some (.string text))
      (hnumber : ∀ n, reply.body.member? "Id" ≠ some (.number n))
      (hlocation : reply.headers.text? "location" = some location) (hid : Text.IsLastSegment location id) (hne : id ≠ "") :
      GivesId reply id

theorem createdId?_of_no_member {reply : Envelope} (htext : ∀ text, reply.body.member? "Id" ≠ some (.string text))
    (hnumber : ∀ n, reply.body.member? "Id" ≠ some (.number n)) :
    createdId? reply = ((reply.headers.text? "location").map Text.lastSegment).filter (!·.isEmpty) := by
  unfold createdId?
  split
  · rename_i id h
    exact absurd h (htext id)
  · rename_i n h
    exact absurd h (hnumber n)
  · rfl

theorem createdId?_eq_some_iff {reply : Envelope} {id : String} : createdId? reply = some id ↔ GivesId reply id := by
  constructor
  · intro h
    unfold createdId? at h
    split at h
    · rename_i text hid
      cases h
      exact .text hid
    · rename_i n hid
      cases h
      exact .number hid
    · rename_i htext hnumber
      obtain ⟨hsegment, hne⟩ := Option.filter_eq_some_iff.mp h
      obtain ⟨location, hlocation, rfl⟩ := Option.map_eq_some_iff.mp hsegment
      refine .location htext hnumber hlocation (Text.lastSegment_isLastSegment location) ?_
      rintro hempty
      rw [hempty] at hne
      cases hne
  · intro h
    cases h with
    | text hid => simp only [createdId?, hid]
    | number hid => simp only [createdId?, hid]
    | @location location _ htext hnumber hlocation hid hne =>
      rw [createdId?_of_no_member htext hnumber, hlocation, Option.map_some, hid.lastSegment_eq hne, Option.filter_some,
        if_pos (by simpa using hne)]

/-- A session is created on the device, and its id is known, exactly if the login is answered with a success, a token that
can be read and is not empty, and an id. -/
theorem createdSession?_eq_some_iff {files : FileTree} {config : SessionConfig} {wire : Wire} {id : String} :
    createdSession? files config wire = some id ↔ ∃ reply token, loginReply? files config wire = some reply ∧
      200 ≤ reply.status ∧ reply.status < 300 ∧ reply.headers.text? tokenHeader = some token ∧ token ≠ "" ∧
      GivesId reply id := by
  have hgrants : ∀ reply, grantsToken reply = true ↔ (200 ≤ reply.status ∧ reply.status < 300) ∧
      ∃ token, reply.headers.text? tokenHeader = some token ∧ token ≠ "" := by
    intro reply
    simp [grantsToken, Envelope.isSuccess, Http.isSuccess, Option.any_eq_true]
  simp only [createdSession?, Option.bind_eq_some_iff, Option.filter_eq_some_iff, hgrants, createdId?_eq_some_iff]
  constructor
  · rintro ⟨reply, ⟨hreply, hstatus, token, htoken, hne⟩, hid⟩
    exact ⟨reply, token, hreply, hstatus.1, hstatus.2, htoken, hne, hid⟩
  · rintro ⟨reply, token, hreply, hlow, hhigh, htoken, hne, hid⟩
    exact ⟨reply, ⟨hreply, ⟨hlow, hhigh⟩, token, htoken, hne⟩, hid⟩

theorem loginResult_ok {reply : Envelope} {token : String} {id : Option String}
    (h : loginResult reply = .ok (token, id)) :
    grantsToken reply = true ∧ reply.headers.text? tokenHeader = some token ∧ id = createdId? reply := by
  unfold loginResult at h
  split at h
  case isTrue => cases h
  case isFalse =>
    split at h
    case isTrue => cases h
    case isFalse hsuccess =>
      split at h
      case h_1 => cases h
      case h_2 given hgiven =>
        cases h
        have hs : reply.isSuccess = true := by simpa using hsuccess
        exact ⟨by rw [grantsToken, hs, hgiven]; rfl, (Option.filter_eq_some_iff.mp hgiven).1, rfl⟩

theorem loginResult_error {reply : Envelope} {e : SessionError} (h : loginResult reply = .error e) :
    grantsToken reply = false := by
  have hstatus : ∀ status, Http.isSuccess status = true → ¬(status = 401 ∨ status = 403) := by
    intro status hs
    simp only [Http.isSuccess, Bool.and_eq_true, decide_eq_true_eq] at hs
    omega
  cases hg : grantsToken reply with
  | false => rfl
  | true =>
    simp only [grantsToken, Bool.and_eq_true] at hg
    obtain ⟨token, htoken⟩ := Option.isSome_iff_exists.mp hg.2
    rw [loginResult, if_neg (hstatus _ hg.1), hg.1, htoken] at h
    cases h

theorem checkedToken_of_text {headers : Headers} {token : String} (h : headers.text? tokenHeader = some token) :
    checkedToken token = .ok (.token token) := by
  have hv : isValue token = true := isValue_of_isVisible (Option.filter_eq_some_iff.mp h).2
  rw [checkedToken, if_pos hv]

/-! ## Opening -/

theorem login_sent {config : SessionConfig} {base : Url} {username password path : String}
    (hbase : config.endpoint.baseUrl = .ok base) (hcredentials : config.credentials = .basic username password)
    (hpath : config.family.sessionPath? = some path) (trust : Trust) (timeout : Nat) (wire : Wire) :
    wire.AtMostOne (IsLogin config) (login trust timeout base config.family path username password wire).2 := by
  obtain ⟨url, hurl, _⟩ := Url.join_rooted (Endpoint.baseUrl_isHierarchical hbase) (Family.sessionPath_isRooted hpath)
  have hlogin : ∀ request, compose "POST" url [("accept", jsonType)]
      (some (loginBody config.family username password)) = .ok request → IsLogin config request :=
    fun request h => ⟨base, username, password, path, url, hbase, hcredentials, hpath, hurl, h⟩
  have hsent := (exchange_sent trust timeout (compose "POST" url [("accept", jsonType)]
    (some (loginBody config.family username password))) wire).mono hlogin
  simp only [login, hurl]
  rcases hx : exchange trust timeout (compose "POST" url [("accept", jsonType)]
    (some (loginBody config.family username password))) wire with ⟨reply, later⟩
  rw [hx] at hsent
  cases reply with
  | error e => exact hsent
  | ok reply => exact hsent

/-- The login gives what its reply grants, and nothing where there is no token. -/
theorem login_result {files : FileTree} {config : SessionConfig} {trust : Trust} {base : Url}
    {username password path : String} (htrust : config.endpoint.trust files = .ok trust)
    (hbase : config.endpoint.baseUrl = .ok base) (hcredentials : config.credentials = .basic username password)
    (hpath : config.family.sessionPath? = some path) (wire : Wire) :
    match (login trust config.endpoint.timeout base config.family path username password wire).1 with
    | .error _ => createdSession? files config wire = none
    | .ok (token, id) => id = createdSession? files config wire ∧ checkedToken token = .ok (.token token) ∧
        isValue token = true := by
  obtain ⟨url, hurl, _⟩ := Url.join_rooted (Endpoint.baseUrl_isHierarchical hbase) (Family.sessionPath_isRooted hpath)
  simp only [login, createdSession?, loginReply?, htrust, hbase, hcredentials, hpath, hurl]
  rcases exchange trust config.endpoint.timeout (compose "POST" url [("accept", jsonType)]
    (some (loginBody config.family username password))) wire with ⟨reply, later⟩
  cases reply with
  | error e => rfl
  | ok reply =>
    cases hr : loginResult reply with
    | error e =>
      simp only [Except.toOption, Option.filter_some, loginResult_error hr, Bool.false_eq_true, ↓reduceIte,
        Option.bind_none, hr]
    | ok granted =>
      obtain ⟨token, id⟩ := granted
      obtain ⟨hgrants, htoken, hid⟩ := loginResult_ok hr
      simp only [Except.toOption, Option.filter_some, hgrants, ↓reduceIte, Option.bind_some, hr]
      exact ⟨hid, checkedToken_of_text htoken, isValue_of_isVisible (Option.filter_eq_some_iff.mp htoken).2⟩

/-- What the later steps need of a session that was opened. -/
structure IsOpened (config : SessionConfig) (s : Session) : Prop where
  isOpen : s.isOpen = true
  base : config.endpoint.baseUrl = .ok s.base
  family : s.family = config.family
  /-- A session on the device is held with a token that can be sent. -/
  held : ∀ id, s.remoteId = some id →
    config.family.sessionPath?.isSome = true ∧ ∃ token, s.authorization = .token token ∧ isValue token = true

theorem IsOpened.isHierarchical {config : SessionConfig} {s : Session} (h : IsOpened config s) :
    s.base.IsHierarchical := Endpoint.baseUrl_isHierarchical h.base

theorem IsOpened.isReady {config : SessionConfig} {s : Session} (h : IsOpened config s) : s.IsReady :=
  ⟨h.isOpen, h.isHierarchical⟩

theorem authorize_sent {config : SessionConfig} {base : Url} (hbase : config.endpoint.baseUrl = .ok base)
    (trust : Trust) (wire : Wire) : wire.AtMostOne (IsLogin config) (authorize trust base config wire).2 := by
  unfold authorize
  split
  · exact .none wire
  · exact .none wire
  · rename_i username password path hcredentials hpath
    have hsent := login_sent hbase hcredentials hpath trust config.endpoint.timeout wire
    rcases hl : login trust config.endpoint.timeout base config.family path username password wire with ⟨granted, later⟩
    rw [hl] at hsent
    cases granted with
    | error e => exact hsent
    | ok granted => exact hsent

/-- The id that goes with the authorization is that of the session created on the device. -/
theorem authorize_result {files : FileTree} {config : SessionConfig} {trust : Trust} {base : Url}
    (htrust : config.endpoint.trust files = .ok trust) (hbase : config.endpoint.baseUrl = .ok base) (wire : Wire) :
    match (authorize trust base config wire).1 with
    | .error _ => createdSession? files config wire = none
    | .ok (authorization, id) => id = createdSession? files config wire ∧ ∀ held, id = some held →
        config.family.sessionPath?.isSome = true ∧ ∃ token, authorization = .token token ∧ isValue token = true := by
  cases hcredentials : config.credentials with
  | token token =>
    have hnone : createdSession? files config wire = none := by
      simp only [createdSession?, loginReply?, htrust, hbase, hcredentials]
      rfl
    simp only [authorize, hcredentials]
    cases hc : checkedToken token with
    | error e => exact hnone
    | ok authorization => exact ⟨hnone.symm, fun held h => by cases h⟩
  | basic username password =>
    cases hpath : config.family.sessionPath? with
    | none =>
      have hnone : createdSession? files config wire = none := by
        simp only [createdSession?, loginReply?, htrust, hbase, hcredentials, hpath]
        rfl
      simp only [authorize, hcredentials, hpath]
      exact ⟨hnone.symm, fun held h => by cases h⟩
    | some path =>
      have hresult := login_result htrust hbase hcredentials hpath wire
      simp only [authorize, hcredentials, hpath]
      rcases hl : login trust config.endpoint.timeout base config.family path username password wire with ⟨granted, later⟩
      rw [hl] at hresult
      cases granted with
      | error e => exact hresult
      | ok granted =>
        obtain ⟨hid, hchecked, hvalue⟩ := hresult
        simp only [hchecked]
        exact ⟨hid, fun held _ => ⟨rfl, granted.1, rfl, hvalue⟩⟩

theorem login_client (trust : Trust) (timeout : Nat) (base : Url) (family : Family) (path username password : String)
    (wire : Wire) : (login trust timeout base family path username password wire).2.client = wire.client := by
  cases hurl : base.join path with
  | error fault => simp only [login, hurl]
  | ok url =>
    have hclient := exchange_client trust timeout (compose "POST" url [("accept", jsonType)]
      (some (loginBody family username password))) wire
    rcases hx : exchange trust timeout (compose "POST" url [("accept", jsonType)]
      (some (loginBody family username password))) wire with ⟨reply, later⟩
    rw [hx] at hclient
    simp only [login, hurl, hx]
    cases reply with
    | error e => exact hclient
    | ok reply => exact hclient

theorem open_client (files : FileTree) (config : SessionConfig) (wire : Wire) :
    (Session.open files config wire).2.client = wire.client := by
  have hauthorize : ∀ trust base, (authorize trust base config wire).2.client = wire.client := by
    intro trust base
    unfold authorize
    split
    · rfl
    · rfl
    · rename_i username password path _ _
      have hclient := login_client trust config.endpoint.timeout base config.family path username password wire
      split
      · rename_i hl
        rwa [hl] at hclient
      · rename_i hl
        rwa [hl] at hclient
  unfold Session.open
  split
  · rfl
  · rfl
  · rename_i trust base _ _
    have hclient := hauthorize trust base
    split
    · rename_i ha
      rwa [ha] at hclient
    · rename_i ha
      rwa [ha] at hclient

theorem open_sent (files : FileTree) (config : SessionConfig) (wire : Wire) :
    wire.AtMostOne (IsLogin config) (Session.open files config wire).2 := by
  unfold Session.open
  split
  · exact .none wire
  · exact .none wire
  · rename_i trust base htrust hbase
    have hsent := authorize_sent hbase trust wire
    rcases ha : authorize trust base config wire with ⟨shown, later⟩
    rw [ha] at hsent
    cases shown with
    | error e => exact hsent
    | ok shown => exact hsent

/-- A session that was opened knows the session on the device exactly if one was created. -/
theorem open_result (files : FileTree) (config : SessionConfig) (wire : Wire) :
    match (Session.open files config wire).1 with
    | .error _ => createdSession? files config wire = none
    | .ok s => IsOpened config s ∧ s.remoteId = createdSession? files config wire := by
  cases htrust : config.endpoint.trust files with
  | error e =>
    simp only [Session.open, htrust, createdSession?, loginReply?]
    rfl
  | ok trust =>
    cases hbase : config.endpoint.baseUrl with
    | error e =>
      simp only [Session.open, htrust, hbase, createdSession?, loginReply?]
      rfl
    | ok base =>
      have hresult := authorize_result htrust hbase wire
      simp only [Session.open, htrust, hbase]
      rcases ha : authorize trust base config wire with ⟨shown, later⟩
      rw [ha] at hresult
      cases shown with
      | error e => exact hresult
      | ok shown => exact ⟨⟨rfl, hbase, rfl, hresult.2⟩, hresult.1⟩

/-! ## Closing -/

theorem sessionDeletePath_of_sessionPath {family : Family} (h : family.sessionPath?.isSome = true) (id : String) :
    ∃ path, family.sessionDeletePath? id = some path := by
  cases family with
  | redfish => exact ⟨_, rfl⟩
  | ome => exact ⟨_, rfl⟩
  | omevv => cases h

theorem IsOpened.deleteRequest {config : SessionConfig} {s : Session} (h : IsOpened config s) {id : String}
    (hid : s.remoteId = some id) : ∃ request, s.deleteRequest? = some (.ok request) ∧ IsDeletion config id request := by
  obtain ⟨hsession, token, htoken, hvalue⟩ := h.held id hid
  obtain ⟨path, hpath⟩ := sessionDeletePath_of_sessionPath hsession id
  obtain ⟨url, hurl, _⟩ := Url.join_rooted h.isHierarchical (Family.sessionDeletePath_isRooted hpath)
  have hheaders : AreSendable (urlHeaders url ++ [(tokenHeader, token)]) :=
    areSendable_append (urlHeaders_areSendable url) (areSendable_singleton (by decide) hvalue)
  obtain ⟨request, hrequest⟩ := compose_of_areSendable hheaders "DELETE" none
  refine ⟨request, ?_, s.base, token, path, url, h.base, hpath, hurl, hrequest⟩
  simp only [deleteRequest?, hid, h.family, hpath, hurl, htoken, authorizationHeader, hrequest, Option.bind_eq_bind,
    Option.bind_some, Except.toOption]

/-- The attempts are the deletion of the session with an id, and nothing else. Where the client does not take its URL
they are none. -/
def Releases (config : SessionConfig) (client : Client) (id : String) (sent : List Attempt) : Prop :=
  ∃ request, IsDeletion config id request ∧
    sent.map Attempt.request = if client.takes request.url then [request] else []

theorem Releases.isDeletion {config : SessionConfig} {client : Client} {id : String} {sent : List Attempt}
    (h : Releases config client id sent) : sent.length ≤ 1 ∧ ∀ a ∈ sent, IsDeletion config id a.request := by
  obtain ⟨request, hdeletion, hsent⟩ := h
  split at hsent
  · obtain ⟨a, rest, rfl, rfl, hrest⟩ := List.map_eq_cons_iff.mp hsent
    obtain rfl := List.map_eq_nil_iff.mp hrest
    refine ⟨Nat.le_refl 1, fun b hb => ?_⟩
    rw [List.mem_singleton.mp hb]
    exact hdeletion
  · obtain rfl := List.map_eq_nil_iff.mp hsent
    exact ⟨Nat.zero_le 1, fun a ha => absurd ha List.not_mem_nil⟩

/-- Closing sends the deletion of the session on the device, and nothing else. -/
theorem IsOpened.close_sent {config : SessionConfig} {s : Session} (h : IsOpened config s) (wire : Wire) :
    ∃ sent : List Attempt, (s.close wire).2.attempts = wire.attempts ++ sent ∧
      match s.remoteId with
      | some id => Releases config wire.client id sent
      | none => sent = [] := by
  cases hid : s.remoteId with
  | none =>
    refine ⟨[], ?_, rfl⟩
    simp only [close, h.isOpen, deleteRequest?, hid, ↓reduceIte]
    exact (List.append_nil _).symm
  | some id =>
    obtain ⟨request, hdelete, hdeletion⟩ := h.deleteRequest hid
    simp only [close, h.isOpen, hdelete, ↓reduceIte]
    cases htaken : wire.client.takes request.url with
    | false =>
      refine ⟨[], ?_, request, hdeletion, by rw [htaken]; rfl⟩
      rw [exchange_of_refused htaken, List.append_nil]
    | true =>
      obtain ⟨⟨a, hlog, hrequest, _⟩, _⟩ := exchange_attempts htaken s.trust s.timeout
      refine ⟨[a], hlog, request, hdeletion, ?_⟩
      rw [htaken, ← hrequest]
      rfl

theorem close_isOpen (s : Session) (wire : Wire) : (s.close wire).1.isOpen = false := by
  unfold close
  dsimp only
  split
  · split
    · rfl
    · rfl
  · rename_i ho
    simpa using ho

theorem close_of_closed {s : Session} (h : s.isOpen = false) (wire : Wire) : s.close wire = (s, wire) := by
  simp only [close, h, Bool.false_eq_true, ↓reduceIte]

theorem execute_of_closed {s : Session} (h : s.isOpen = false) (spec : RequestSpec) (wire : Wire) :
    s.execute spec wire = (.error .closed, wire) := by
  simp only [execute, h, Bool.false_eq_true, ↓reduceIte]

end OutOfBand.Session
