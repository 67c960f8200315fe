import OutOfBand.Proofs.Json.Decode
import OutOfBand.Proofs.Session.Opening
import OutOfBand.Proofs.Session.Transcript

/-! # Reaching the device

What the opening of a session tells of the device: it fails as unreachable exactly if the login got no
complete response, or if the client did not take its URL. What a session that has opened shows can be sent,
unless the identifier of its vCenter cannot stand in a header; then it can send nothing at all.
-/
namespace OutOfBand.Session

open Http

/-! ## Failures without a loss -/

theorem trust_reachable {endpoint : Endpoint} {files : FileTree} {e : SessionError} (h : endpoint.trust files = .error e) :
    (Failure.ofSessionError e).isUnreachable = false := by
  unfold Endpoint.trust at h
  split at h
  · cases h
  · cases h
  · split at h
    · cases h
    · cases h
      rfl

theorem baseUrl_reachable {endpoint : Endpoint} {e : SessionError} (h : endpoint.baseUrl = .error e) :
    (Failure.ofSessionError e).isUnreachable = false := by
  unfold Endpoint.baseUrl at h
  split at h
  · cases h
  · cases h
    rfl

theorem loginResult_reachable {reply : Envelope} {e : SessionError} (h : loginResult reply = .error e) :
    (Failure.ofSessionError e).isUnreachable = false := by
  unfold loginResult at h
  split at h
  · cases h
    rfl
  split at h
  · cases h
    rfl
  split at h
  · cases h
    rfl
  · cases h

theorem checkedToken_reachable {token : String} {e : SessionError} (h : checkedToken token = .error e) :
    (Failure.ofSessionError e).isUnreachable = false := by
  unfold checkedToken at h
  split at h
  · cases h
  · cases h
    rfl

/-! ## The attempts of opening -/

/-- The outcome tells how the attempts behind it went: all of them well if there is a value, and one of them lost exactly
if the error says so. What cannot be sent is told like a loss, and then there is no attempt. -/
def IsTold {β : Type} (before : Wire) (outcome : Except SessionError β × Wire) : Prop :=
  ∃ sent : List Attempt, outcome.2.attempts = before.attempts ++ sent ∧
    match outcome.1 with
    | .ok _ => ∀ a ∈ sent, a.succeeded = true
    | .error e => ((Failure.ofSessionError e).isUnreachable = true ↔ (∃ a ∈ sent, a.isLost = true) ∨ e = .unsendable) ∧
        (e = .unsendable → sent = [])

variable {α β : Type}

theorem ne_unsendable {e : SessionError} (h : (Failure.ofSessionError e).isUnreachable = false) : e ≠ .unsendable := by
  rintro rfl
  cases h

theorem IsTold.silent (wire : Wire) {result : Except SessionError β}
    (h : ∀ e, result = .error e → (Failure.ofSessionError e).isUnreachable = false) : IsTold wire (result, wire) := by
  refine ⟨[], (List.append_nil _).symm, ?_⟩
  cases result with
  | ok value => exact fun a ha => absurd ha List.not_mem_nil
  | error e => simp [h e rfl, ne_unsendable (h e rfl)]

theorem IsTold.settle {before later : Wire} {value : α} (h : IsTold before (.ok value, later))
    {result : Except SessionError β} (hresult : ∀ e, result = .error e → (Failure.ofSessionError e).isUnreachable = false) :
    IsTold before (result, later) := by
  obtain ⟨sent, hlog, hall⟩ := h
  refine ⟨sent, hlog, ?_⟩
  cases result with
  | ok value => exact hall
  | error e =>
    simp only [hresult e rfl, ne_unsendable (hresult e rfl), Bool.false_eq_true, or_false, false_iff, not_exists, not_and,
      Bool.not_eq_true, IsEmpty.forall_iff, and_true]
    exact fun a ha => a.isLost_of_succeeded (hall a ha)

/-- A login has no header but those that can be sent, so it is a request that the client takes or refuses. -/
theorem login_composed {base : Url} (hbase : base.IsHierarchical) {family : Family} {path : String}
    (hpath : family.sessionPath? = some path) (username password : String) :
    ∃ url request, base.join path = .ok url ∧
      compose "POST" url [("accept", jsonType)] (some (loginBody family username password)) = .ok request := by
  obtain ⟨url, hurl, _⟩ := Url.join_rooted hbase (Family.sessionPath_isRooted hpath)
  have hheaders : AreSendable (urlHeaders url ++ [("accept", jsonType)]) :=
    areSendable_append (urlHeaders_areSendable url) (areSendable_singleton (by decide) (by decide))
  obtain ⟨request, hrequest⟩ := compose_of_areSendable hheaders "POST" (some (loginBody family username password))
  exact ⟨url, request, hurl, hrequest⟩

theorem login_told {base : Url} (hbase : base.IsHierarchical) {family : Family} {path : String}
    (hpath : family.sessionPath? = some path) (trust : Trust) (timeout : Nat) (username password : String) (wire : Wire) :
    IsTold wire (login trust timeout base family path username password wire) := by
  obtain ⟨url, request, hurl, hrequest⟩ := login_composed hbase hpath username password
  simp only [login, hurl, hrequest]
  cases htaken : wire.client.takes request.url with
  | false =>
    rw [exchange_of_refused htaken]
    exact ⟨[], (List.append_nil _).symm, iff_of_true rfl (Or.inr rfl), fun _ => rfl⟩
  | true =>
    obtain ⟨⟨a, hlog, _, hreply⟩, hsent⟩ := exchange_attempts htaken trust timeout
    rcases hx : exchange trust timeout (.ok request) wire with ⟨reply, later⟩
    rw [hx] at hlog hreply hsent
    cases reply with
    | error e =>
      have hlost : a.isLost = true := by
        rw [Attempt.isLost, hreply]
        rfl
      have he : (Failure.ofSessionError e).isUnreachable = true := exchange_error (by rw [hx])
      have hne : e ≠ .unsendable := by
        rintro rfl
        cases hsent
      exact ⟨[a], hlog, by simp [he, hlost, hne]⟩
    | ok reply =>
      have hkept : a.isLost = false := by
        rw [Attempt.isLost, hreply]
        rfl
      change IsTold wire (loginResult reply, later)
      refine ⟨[a], hlog, ?_⟩
      cases hresult : loginResult reply with
      | error e => simp [loginResult_reachable hresult, ne_unsendable (loginResult_reachable hresult), hkept]
      | ok granted =>
        have hgrants := (loginResult_ok hresult).1
        simp only [grantsToken, Bool.and_eq_true] at hgrants
        intro b hb
        rw [List.mem_singleton.mp hb, hreply.succeeded_eq]
        exact hgrants.1

theorem authorize_told {config : SessionConfig} {base : Url} (hbase : base.IsHierarchical) (trust : Trust) (wire : Wire) :
    IsTold wire (authorize trust base config wire) := by
  unfold authorize
  split
  · exact .silent wire (fun e h => checkedToken_reachable (eq_error_of_map h))
  · exact .silent wire (fun e h => by cases h)
  · rename_i username password path _ hpath
    have htold := login_told hbase hpath trust config.endpoint.timeout username password wire
    rcases hl : login trust config.endpoint.timeout base config.family path username password wire with ⟨granted, later⟩
    rw [hl] at htold
    cases granted with
    | error e => exact htold
    | ok granted => exact htold.settle (fun e h => checkedToken_reachable (eq_error_of_map h))

/-- Opening fails as unreachable exactly if the login got no complete response or could not be sent. -/
theorem open_told (files : FileTree) (config : SessionConfig) (wire : Wire) :
    IsTold wire (Session.open files config wire) := by
  unfold Session.open
  split
  · rename_i e htrust
    refine .silent wire (fun e' h => ?_)
    cases h
    exact trust_reachable htrust
  · rename_i e _ hbase
    refine .silent wire (fun e' h => ?_)
    cases h
    exact baseUrl_reachable hbase
  · rename_i trust base _ hbase
    have htold : IsTold wire (authorize trust base config wire) :=
      authorize_told (Endpoint.baseUrl_isHierarchical hbase) trust wire
    rcases ha : authorize trust base config wire with ⟨shown, later⟩
    rw [ha] at htold
    cases shown with
    | error e => exact htold
    | ok shown => exact htold.settle (fun e h => by cases h)

/-- The client does not take the URL of the login. -/
def RefusesLogin (files : FileTree) (config : SessionConfig) (client : Client) : Prop :=
  (∃ trust, config.endpoint.trust files = .ok trust) ∧ ∃ request, IsLogin config request ∧ client.takes request.url = false

theorem login_unsendable_iff {base : Url} {username password path : String} {config : SessionConfig}
    (hbase : config.endpoint.baseUrl = .ok base) (hcredentials : config.credentials = .basic username password)
    (hpath : config.family.sessionPath? = some path) (trust : Trust) (wire : Wire) :
    (login trust config.endpoint.timeout base config.family path username password wire).1 = .error .unsendable ↔
      ∃ request, IsLogin config request ∧ wire.client.takes request.url = false := by
  obtain ⟨url, request, hurl, hrequest⟩ := login_composed (Endpoint.baseUrl_isHierarchical hbase) hpath username password
  have hlogin : ∀ other, IsLogin config other ↔ other = request := by
    intro other
    constructor
    · rintro ⟨base', username', password', path', url', hbase', hcredentials', hpath', hurl', hrequest'⟩
      rw [hbase] at hbase'
      rw [hcredentials] at hcredentials'
      rw [hpath] at hpath'
      cases hbase'
      cases hcredentials'
      cases hpath'
      rw [hurl] at hurl'
      cases hurl'
      rw [hrequest] at hrequest'
      exact (Except.ok.inj hrequest').symm
    · rintro rfl
      exact ⟨base, username, password, path, url, hbase, hcredentials, hpath, hurl, hrequest⟩
  simp only [hlogin, exists_eq_left, login, hurl, hrequest]
  cases htaken : wire.client.takes request.url with
  | false => simp only [exchange_of_refused htaken]
  | true =>
    obtain ⟨_, hsent⟩ := exchange_attempts htaken trust config.endpoint.timeout
    rcases hx : exchange trust config.endpoint.timeout (.ok request) wire with ⟨reply, later⟩
    rw [hx] at hsent
    simp only [Bool.true_eq_false, iff_false]
    cases reply with
    | error e =>
      intro h
      obtain rfl : e = .unsendable := Except.error.inj h
      cases hsent
    | ok reply => exact fun h => ne_unsendable (loginResult_reachable h) rfl

/-- Nothing else that is done for a credential fails so. -/
theorem authorize_unsendable_iff {base : Url} {config : SessionConfig} (hbase : config.endpoint.baseUrl = .ok base)
    (trust : Trust) (wire : Wire) :
    (authorize trust base config wire).1 = .error .unsendable ↔
      ∃ request, IsLogin config request ∧ wire.client.takes request.url = false := by
  cases hcredentials : config.credentials with
  | token token =>
    refine iff_of_false (fun h => ?_) ?_
    · simp only [authorize, hcredentials] at h
      exact ne_unsendable (checkedToken_reachable (eq_error_of_map h)) rfl
    · rintro ⟨_, ⟨_, _, _, _, _, _, hlogin, _⟩, _⟩
      rw [hcredentials] at hlogin
      cases hlogin
  | basic username password =>
    cases hpath : config.family.sessionPath? with
    | none =>
      refine iff_of_false (fun h => ?_) ?_
      · simp only [authorize, hcredentials, hpath] at h
        cases h
      · rintro ⟨_, ⟨_, _, _, _, _, _, _, hlogin, _⟩, _⟩
        rw [hpath] at hlogin
        cases hlogin
    | some path =>
      rw [← login_unsendable_iff hbase hcredentials hpath trust wire]
      simp only [authorize, hcredentials, hpath]
      rcases login trust config.endpoint.timeout base config.family path username password wire with ⟨granted, later⟩
      cases granted with
      | error e => simp only [Except.error.injEq]
      | ok granted =>
        refine iff_of_false (fun h => ?_) (fun h => by cases h)
        exact ne_unsendable (checkedToken_reachable (eq_error_of_map h)) rfl

/-- Opening fails for want of a request that can be sent exactly if the client does not take the login. -/
theorem open_unsendable_iff (files : FileTree) (config : SessionConfig) (wire : Wire) :
    (Session.open files config wire).1 = .error .unsendable ↔ RefusesLogin files config wire.client := by
  cases htrust : config.endpoint.trust files with
  | error e =>
    simp only [Session.open, htrust, RefusesLogin, reduceCtorEq, exists_false, false_and, iff_false, Except.error.injEq]
    exact ne_unsendable (trust_reachable htrust)
  | ok trust =>
    cases hbase : config.endpoint.baseUrl with
    | error e =>
      refine iff_of_false (fun h => ?_) ?_
      · simp only [Session.open, htrust, hbase] at h
        exact ne_unsendable (baseUrl_reachable hbase) (Except.error.inj h)
      · rintro ⟨_, _, ⟨_, _, _, _, _, hlogin, _⟩, _⟩
        rw [hbase] at hlogin
        cases hlogin
    | ok base =>
      simp only [RefusesLogin, htrust, Except.ok.injEq, exists_eq', true_and]
      rw [← authorize_unsendable_iff hbase trust wire]
      simp only [Session.open, htrust, hbase]
      rcases authorize trust base config wire with ⟨shown, later⟩
      cases shown with
      | error e => simp only [Except.error.injEq]
      | ok shown => exact iff_of_false (fun h => by cases h) (fun h => by cases h)

/-! ## What an opened session can send -/

/-- The identifier of the vCenter, if one is sent, can stand in a header. -/
def HasSendableIdentifier (config : SessionConfig) : Prop := ∀ uuid, identifier config = some uuid → isValue uuid = true

/-- Only a session of the vCenter integration has an identifier at all. -/
theorem hasSendableIdentifier_of_ne {config : SessionConfig} (h : config.family ≠ .omevv) : HasSendableIdentifier config := by
  intro uuid huuid
  unfold identifier at huuid
  split at huuid
  · rename_i hfamily
    exact absurd hfamily h
  · cases huuid

theorem checkedToken_areSendable {token : String} {shown : Authorization} (h : checkedToken token = .ok shown) :
    AreSendable [authorizationHeader shown] := by
  unfold checkedToken at h
  split at h
  · rename_i hvalue
    cases h
    exact areSendable_singleton (by decide) hvalue
  · cases h

theorem authorize_areSendable {config : SessionConfig} {base : Url} {trust : Trust} {wire : Wire}
    {granted : Authorization × Option String} (h : (authorize trust base config wire).1 = .ok granted) :
    AreSendable [authorizationHeader granted.1] := by
  unfold authorize at h
  split at h
  · obtain ⟨shown, hshown, rfl⟩ := map_eq_ok h
    exact checkedToken_areSendable hshown
  · cases h
    exact areSendable_singleton (by decide) (isValue_basicValue _ _)
  · split at h
    · cases h
    · obtain ⟨shown, hshown, rfl⟩ := map_eq_ok h
      exact checkedToken_areSendable hshown

/-- What an opened session shows with every request can be sent, but for the identifier of its vCenter. -/
theorem open_shows {files : FileTree} {config : SessionConfig} {wire : Wire} {s : Session}
    (h : (Session.open files config wire).1 = .ok s) :
    AreSendable [authorizationHeader s.authorization] ∧ s.vcenterUuid = identifier config := by
  unfold Session.open at h
  split at h
  · cases h
  · cases h
  · rename_i trust base _ _
    have hsendable : ∀ granted, (authorize trust base config wire).1 = .ok granted →
        AreSendable [authorizationHeader granted.1] := fun granted h => authorize_areSendable h
    rcases ha : authorize trust base config wire with ⟨shown, later⟩
    rw [ha] at h hsendable
    cases shown with
    | error e => cases h
    | ok shown =>
      cases h
      exact ⟨hsendable shown rfl, rfl⟩

/-- HTTP allows what an opened session shows with every request exactly if it allows the identifier. -/
theorem open_hasSendableHeaders_iff {files : FileTree} {config : SessionConfig} {wire opened : Wire} {s : Session}
    (h : Session.open files config wire = (.ok s, opened)) :
    s.HasSendableHeaders (.get "") ↔ HasSendableIdentifier config := by
  obtain ⟨hauthorization, huuid⟩ := open_shows (congrArg Prod.fst h)
  have hfront : AreSendable [authorizationHeader s.authorization, ("accept", jsonType)] :=
    areSendable_append hauthorization (areSendable_singleton (by decide) (by decide))
  unfold HasSendableIdentifier HasSendableHeaders
  rw [← huuid]
  cases hid : s.vcenterUuid with
  | none =>
    refine ⟨fun _ uuid hnone => absurd hnone (Option.some_ne_none uuid).symm, fun _ => ?_⟩
    simp only [headersFor, hid]
    exact areSendable_append (urlHeaders_areSendable s.base) hfront
  | some uuid =>
    simp only [headersFor, hid]
    constructor
    · intro hall other hother
      cases hother
      exact (hall (vcenterHeader, uuid) (by simp)).2
    · intro hvalue
      have hlast : AreSendable [(vcenterHeader, uuid)] := areSendable_singleton (by decide) (hvalue uuid rfl)
      exact areSendable_append (urlHeaders_areSendable s.base) (areSendable_append hfront hlast)

/-- The client does not take the URL to which a request leads on a session of this configuration. -/
def RefusesUrl (config : SessionConfig) (client : Client) (spec : RequestSpec) : Prop :=
  ∃ base url, config.endpoint.baseUrl = .ok base ∧ spec.resolve base config.family.root = .ok url ∧
    client.takes url.withoutUserInfo = false

/-- A request with no headers of its own is one that the client can send on a session of this configuration: the
identifier can stand in a header, and the client takes the URL. -/
structure IsSendable (config : SessionConfig) (client : Client) (spec : RequestSpec) : Prop where
  identifier : HasSendableIdentifier config
  url : ¬ RefusesUrl config client spec

theorem IsOpened.refusesUrl_iff {config : SessionConfig} {s : Session} (hs : IsOpened config s) {spec : RequestSpec}
    (hheaders : s.HasSendableHeaders spec) (client : Client) : RefusesUrl config client spec ↔ ¬ s.CanSend client spec := by
  obtain ⟨url, hurl, _⟩ := spec.resolve_ok hs.isHierarchical s.family
  have hcan : s.CanSend client spec ↔ client.takes url.withoutUserInfo = true := by
    constructor
    · rintro ⟨_, other, hother, htaken⟩
      rw [hurl] at hother
      cases hother
      exact htaken
    · exact fun htaken => ⟨hheaders, url, hurl, htaken⟩
  rw [hcan, Bool.not_eq_true]
  rw [hs.family] at hurl
  constructor
  · rintro ⟨base, other, hbase, hother, hrefused⟩
    rw [hs.base] at hbase
    cases hbase
    rw [hurl] at hother
    cases hother
    exact hrefused
  · exact fun hrefused => ⟨s.base, url, hs.base, hurl, hrefused⟩

theorem open_canSend_iff {files : FileTree} {config : SessionConfig} {wire opened : Wire} {s : Session}
    (h : Session.open files config wire = (.ok s, opened)) {spec : RequestSpec} (hspec : spec.headers = []) (client : Client) :
    s.CanSend client spec ↔ IsSendable config client spec := by
  have hresult := open_result files config wire
  rw [h] at hresult
  obtain ⟨hs, _⟩ := hresult
  have hheaders := (hasSendableHeaders_iff hspec s).trans (open_hasSendableHeaders_iff h)
  constructor
  · intro hcan
    exact ⟨hheaders.mp hcan.headers, fun hrefused => (hs.refusesUrl_iff hcan.headers client).mp hrefused hcan⟩
  · rintro ⟨hid, htaken⟩
    by_contra hcannot
    exact htaken ((hs.refusesUrl_iff (hheaders.mpr hid) client).mpr hcannot)

end OutOfBand.Session
