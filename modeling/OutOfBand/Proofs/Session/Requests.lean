import OutOfBand.Proofs.Fields
import OutOfBand.Proofs.Url.Resolution
import OutOfBand.Session.Basic

/-! # The requests of a session

Which requests can be sent, and how they differ. What a session composes on its own account has no
header that HTTP refuses. A login posts user name and password, every request of the session's use asks
for JSON, and the request that deletes the session takes any kind of reply: so no request of one kind
passes for one of another.
-/
namespace OutOfBand

/-! ## Values of headers -/

namespace Text

theorem base64Encode_all {p : Char → Bool} (hp : ∀ n, p (base64Char n) = true) (hpad : p '=' = true)
    (bytes : List UInt8) : (base64Encode bytes).all p = true := by
  fun_induction base64Encode bytes with
  | case1 => rfl
  | case2 a n => simp [hp, hpad]
  | case3 a b n => simp [hp, hpad]
  | case4 a b c rest n ih => simp only [List.all_cons, hp, ih, Bool.and_self]

end Text

namespace Http

theorem isValue_base64 (bytes : List UInt8) : isValue (String.ofList (Text.base64Encode bytes)) = true := by
  simp only [isValue, String.toList_ofList]
  refine Text.base64Encode_all (fun n => ?_) (by decide) bytes
  by_cases hn : n < 63
  · have hall : ∀ n < 63, (Text.base64Char n == '\t' ||
        (decide ((Text.base64Char n).toNat ≥ 0x20) && decide ((Text.base64Char n).toNat ≠ 0x7F))) = true := by
      decide
    exact hall n hn
  · have hc : Text.base64Char n = '/' := by
      simp only [Text.base64Char]
      rw [if_neg (by omega), if_neg (by omega), if_neg (by omega), if_neg (by omega)]
    rw [hc]
    decide

theorem isValue_append (a b : String) : isValue (a ++ b) = (isValue a && isValue b) := by
  simp only [isValue, String.toList_append, List.all_append]

theorem isValue_of_isVisible {value : String} (h : isVisible value = true) : isValue value = true := by
  simp only [isVisible, isValue, List.all_eq_true, Bool.or_eq_true, Bool.and_eq_true, decide_eq_true_eq,
    beq_iff_eq] at h ⊢
  intro c hc
  rcases h c hc with ht | ⟨hlow, hhigh⟩
  · exact Or.inl ht
  · exact Or.inr ⟨hlow, by omega⟩

namespace Headers

/-- Headers with their names in lower case, as they are kept. -/
def lowered (headers : List (String × String)) : Headers :=
  headers.map (fun header => (Text.lowerAscii header.1, header.2))

theorem foldl_append (headers : List (String × String)) (sent : Headers) :
    headers.foldl (fun sent header => append sent header.1 header.2) sent = sent ++ lowered headers := by
  induction headers generalizing sent with
  | nil => simp [lowered]
  | cons header rest ih =>
    rw [List.foldl_cons, ih]
    simp [append, lowered]

theorem lookup_default_of_ne {name key : String} (h : key ≠ Text.lowerAscii name) (headers : Headers) (value : String) :
    List.lookup key (headers.default name value) = List.lookup key headers := by
  unfold Headers.default
  split
  · rfl
  · rw [append, List.lookup_append]
    simp [List.lookup_cons, beq_eq_false_iff_ne.mpr h]

theorem lookup_default_self {name key : String} (h : key = Text.lowerAscii name) (headers : Headers) (value : String) :
    List.lookup key (headers.default name value) = (List.lookup key headers).or (some value) := by
  subst h
  unfold Headers.default
  split
  case isTrue h =>
    obtain ⟨given, hg⟩ := Option.isSome_iff_exists.mp h
    rw [hg, Option.some_or]
  case isFalse =>
    rw [append, List.lookup_append]
    simp

theorem lookup_lowered_singleton_of_ne {name key : String} (h : key ≠ Text.lowerAscii name) (value : String) :
    List.lookup key (lowered [(name, value)]) = none := by
  simp [lowered, List.lookup_cons, beq_eq_false_iff_ne.mpr h]

theorem lowered_append (a b : List (String × String)) : lowered (a ++ b) = lowered a ++ lowered b :=
  List.map_append

end Headers

end Http

namespace Session

open Http

/-! ## Composing -/

/-- Every header is one that HTTP allows. -/
def AreSendable (headers : List (String × String)) : Prop :=
  ∀ header ∈ headers, isName header.1 = true ∧ isValue header.2 = true

theorem isValue_basicValue (username password : String) : isValue (basicValue username password) = true := by
  rw [basicValue, isValue_append, isValue_base64, Bool.and_true]
  decide

theorem areSendable_append_iff {a b : List (String × String)} : AreSendable (a ++ b) ↔ AreSendable a ∧ AreSendable b :=
  List.forall_mem_append

theorem areSendable_append {a b : List (String × String)} (ha : AreSendable a) (hb : AreSendable b) :
    AreSendable (a ++ b) :=
  areSendable_append_iff.mpr ⟨ha, hb⟩

theorem areSendable_singleton_iff {header : String × String} :
    AreSendable [header] ↔ isName header.1 = true ∧ isValue header.2 = true :=
  List.forall_mem_singleton

theorem areSendable_singleton {name value : String} (hn : isName name = true) (hv : isValue value = true) :
    AreSendable [(name, value)] :=
  areSendable_singleton_iff.mpr ⟨hn, hv⟩

theorem urlHeaders_areSendable (url : Url) : AreSendable (urlHeaders url) := by
  unfold urlHeaders
  split
  · exact areSendable_singleton (by decide) (isValue_basicValue _ _)
  · intro header hh
    cases hh

theorem all_isTrue_iff_areSendable (headers : List (String × String)) :
    headers.all (fun header => isName header.1 && isValue header.2) = true ↔ AreSendable headers := by
  simp only [AreSendable, List.all_eq_true, Bool.and_eq_true]

theorem compose_headers {method : String} {url : Url} {headers : List (String × String)} {body : Option Json}
    {request : Request} (h : compose method url headers body = .ok request) :
    request.headers = ((if body.isSome then (Headers.lowered (urlHeaders url ++ headers)).default "content-type" jsonType
      else Headers.lowered (urlHeaders url ++ headers)).default "user-agent" userAgent).default "accept" "*/*" := by
  simp only [compose] at h
  split at h
  case isFalse => cases h
  case isTrue =>
    cases h
    simp only [Headers.foldl_append, List.nil_append]

theorem compose_ok {method : String} {url : Url} {headers : List (String × String)} {body : Option Json}
    {request : Request} (h : compose method url headers body = .ok request) :
    AreSendable (urlHeaders url ++ headers) ∧ request.method = method ∧ request.url = url.withoutUserInfo ∧
      request.body = body ∧ List.lookup "accept" request.headers =
        (List.lookup "accept" (Headers.lowered (urlHeaders url ++ headers))).or (some "*/*") := by
  have hheaders := compose_headers h
  simp only [compose] at h
  split at h
  case isFalse => cases h
  case isTrue hall =>
    cases h
    refine ⟨(all_isTrue_iff_areSendable _).mp hall, rfl, rfl, rfl, ?_⟩
    rw [hheaders, Headers.lookup_default_self (by decide), Headers.lookup_default_of_ne (by decide)]
    split
    · rw [Headers.lookup_default_of_ne (by decide)]
    · rfl

theorem compose_of_areSendable {url : Url} {headers : List (String × String)}
    (h : AreSendable (urlHeaders url ++ headers)) (method : String) (body : Option Json) :
    ∃ request, compose method url headers body = .ok request := by
  simp only [compose, (all_isTrue_iff_areSendable _).mpr h, ↓reduceIte]
  exact ⟨_, rfl⟩

theorem compose_of_not_areSendable {url : Url} {headers : List (String × String)}
    (h : ¬ AreSendable (urlHeaders url ++ headers)) (method : String) (body : Option Json) :
    compose method url headers body = .error .unsendable := by
  rw [← all_isTrue_iff_areSendable] at h
  simp only [compose, h, Bool.false_eq_true, ↓reduceIte]

theorem lookup_accept_urlHeaders (url : Url) : List.lookup "accept" (Headers.lowered (urlHeaders url)) = none := by
  unfold urlHeaders
  split
  · exact Headers.lookup_lowered_singleton_of_ne (by decide) _
  · rfl

theorem lookup_accept_authorizationHeader (a : Authorization) :
    List.lookup "accept" (Headers.lowered [authorizationHeader a]) = none := by
  cases a with
  | token value => exact Headers.lookup_lowered_singleton_of_ne (by decide) _
  | basic username password => exact Headers.lookup_lowered_singleton_of_ne (by decide) _

/-! ## The kinds of request -/

/-- A request that asks for JSON, as all but the last one of a session do. -/
def AsksForJson (request : Request) : Prop := List.lookup "accept" request.headers = some jsonType

theorem headersFor_asksForJson {s : Session} {spec : RequestSpec} {method : String} {url : Url} {body : Option Json}
    {request : Request} (h : compose method url (s.headersFor spec) body = .ok request) : AsksForJson request := by
  obtain ⟨_, _, _, _, haccept⟩ := compose_ok h
  rw [AsksForJson, haccept, headersFor, ← List.singleton_append, Headers.lowered_append, Headers.lowered_append,
    List.lookup_append, List.lookup_append, lookup_accept_urlHeaders, lookup_accept_authorizationHeader]
  rfl

/-- The request that exchanges user name and password for a token. -/
def IsLogin (config : SessionConfig) (request : Request) : Prop :=
  ∃ base username password path url, config.endpoint.baseUrl = .ok base ∧
    config.credentials = .basic username password ∧ config.family.sessionPath? = some path ∧
    base.join path = .ok url ∧
    compose "POST" url [("accept", jsonType)] (some (loginBody config.family username password)) = .ok request

theorem IsLogin.method_eq {config : SessionConfig} {request : Request} (h : IsLogin config request) :
    request.method = "POST" := by
  obtain ⟨_, _, _, _, _, _, _, _, _, hrequest⟩ := h
  exact (compose_ok hrequest).2.1

theorem IsLogin.body_password {config : SessionConfig} {request : Request} (h : IsLogin config request) :
    ∃ password, request.body.bind (·.member? "Password") = some (.string password) := by
  obtain ⟨_, username, password, _, _, _, _, _, _, hrequest⟩ := h
  refine ⟨password, ?_⟩
  rw [(compose_ok hrequest).2.2.2.1, Option.bind_some, loginBody, Json.member?_ofEntries]
  cases config.family with
  | redfish => simp [Family.sessionType?]
  | ome => simp [Family.sessionType?, List.lookup_cons]
  | omevv => simp [Family.sessionType?]

/-- The request that deletes the session with an id. -/
def IsDeletion (config : SessionConfig) (id : String) (request : Request) : Prop :=
  ∃ base token path url, config.endpoint.baseUrl = .ok base ∧ config.family.sessionDeletePath? id = some path ∧
    base.join path = .ok url ∧ compose "DELETE" url [(tokenHeader, token)] none = .ok request

theorem IsDeletion.method_eq {config : SessionConfig} {id : String} {request : Request}
    (h : IsDeletion config id request) : request.method = "DELETE" := by
  obtain ⟨_, _, _, _, _, _, _, hrequest⟩ := h
  exact (compose_ok hrequest).2.1

/-- The deletion of a session takes any kind of reply, so nothing else passes for it. -/
theorem IsDeletion.not_asksForJson {config : SessionConfig} {id : String} {request : Request}
    (h : IsDeletion config id request) : ¬ AsksForJson request := by
  obtain ⟨_, token, _, url, _, _, _, hrequest⟩ := h
  obtain ⟨_, _, _, _, haccept⟩ := compose_ok hrequest
  have htoken : List.lookup "accept" (Headers.lowered [(tokenHeader, token)]) = none :=
    Headers.lookup_lowered_singleton_of_ne (by decide) token
  rw [Headers.lowered_append, List.lookup_append, lookup_accept_urlHeaders, htoken] at haccept
  rw [AsksForJson, haccept]
  decide

theorem IsLogin.not_isDeletion {config : SessionConfig} {request : Request} (h : IsLogin config request) (id : String) :
    ¬ IsDeletion config id request := by
  intro hdeletion
  have hmethod := h.method_eq
  rw [hdeletion.method_eq] at hmethod
  exact absurd hmethod (by decide)

/-- A request that changes nothing on the device but its sessions. -/
def IsHarmless (config : SessionConfig) (request : Request) : Prop :=
  request.method = "GET" ∨ IsLogin config request ∨ ∃ id, IsDeletion config id request

/-- A posting without a password is no login. -/
theorem not_isHarmless_of_post {request : Request} (hmethod : request.method = "POST")
    (hbody : request.body.bind (·.member? "Password") = none) (config : SessionConfig) : ¬ IsHarmless config request := by
  rintro (hget | hlogin | ⟨id, hdeletion⟩)
  · rw [hmethod] at hget
    exact absurd hget (by decide)
  · obtain ⟨password, hpassword⟩ := hlogin.body_password
    rw [hbody] at hpassword
    cases hpassword
  · have hdelete := hdeletion.method_eq
    rw [hmethod] at hdelete
    exact absurd hdelete (by decide)

/-- A request that changes something else. It passes for no login and no deletion, whatever the session. -/
structure Mutates (request : Request) : Prop where
  method : request.method ≠ "GET"
  not_login : ∀ config, ¬ IsLogin config request
  not_deletion : ∀ config id, ¬ IsDeletion config id request

end Session

end OutOfBand
