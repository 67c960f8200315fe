import Mathlib.Data.List.Forall2
import OutOfBand.Operation
import OutOfBand.Proofs.Session.Exchange
import OutOfBand.Session.Program

/-! # Secrets

Two runs against one device, with configurations that differ in nothing but a password or a token, come to the same
report and send the same requests, but for the places that carry the secret. Side by side the runs stay in step: a
request is composed for one if it is for the other, the device treats both alike, redirects lead both to the same
places with the same headers, and what a program does next depends on the reply alone. A token that a login is granted comes from the device, so behind a login nothing differs.
-/
namespace OutOfBand

open Http Session

variable {α β γ ε : Type}

/-! ## Lists that agree -/

/-- Entries of the same names in the same order, and of the same values but under the names of secrets. -/
def AgreeBut (secret : String → Prop) (front back : List (String × β)) : Prop :=
  List.Forall₂ (fun x y => x.1 = y.1 ∧ (¬ secret x.1 → x.2 = y.2)) front back

namespace AgreeBut

variable {secret : String → Prop} {front back : List (String × β)}

theorem refl (entries : List (String × β)) : AgreeBut secret entries entries :=
  List.forall₂_same.mpr (fun _ _ => ⟨rfl, fun _ => rfl⟩)

theorem singleton {name : String} (h : secret name) (x y : β) : AgreeBut secret [(name, x)] [(name, y)] :=
  .cons ⟨rfl, fun hnot => absurd h hnot⟩ .nil

theorem append (h : AgreeBut secret front back) {front' back' : List (String × β)} (h' : AgreeBut secret front' back') :
    AgreeBut secret (front ++ front') (back ++ back') :=
  List.rel_append h h'

theorem lookup_isSome (h : AgreeBut secret front back) (name : String) :
    (List.lookup name front).isSome = (List.lookup name back).isSome := by
  induction h with
  | nil => rfl
  | @cons x y _ _ hxy _ ih =>
    obtain ⟨k, v⟩ := x
    obtain ⟨l, w⟩ := y
    obtain rfl : k = l := hxy.1
    by_cases hname : name = k
    · subst hname
      simp
    · rw [List.lookup_cons, List.lookup_cons, beq_eq_false_iff_ne.mpr hname]
      exact ih

/-- What is left out for its name is left out of both. -/
theorem filter (h : AgreeBut secret front back) (keeps : String → Bool) :
    AgreeBut secret (front.filter (fun entry => keeps entry.1)) (back.filter (fun entry => keeps entry.1)) := by
  induction h with
  | nil => exact .nil
  | @cons x y _ _ hxy _ ih =>
    rw [List.filter_cons, List.filter_cons, ← hxy.1]
    split
    · exact .cons hxy ih
    · exact ih

theorem default {front back : Headers} (h : AgreeBut secret front back) (name value : String) :
    AgreeBut secret (front.default name value) (back.default name value) := by
  have hsame : front.contains name = back.contains name := h.lookup_isSome _
  simp only [Headers.default, hsame]
  split
  · exact h
  · exact h.append (refl _)

/-- Fields are put in by their names alone. -/
theorem insert (h : AgreeBut secret front back) (name : String) {x y : β} (hxy : ¬ secret name → x = y) :
    AgreeBut secret (Fields.insert name x front) (Fields.insert name y back) := by
  induction h with
  | nil => exact .cons ⟨rfl, hxy⟩ .nil
  | @cons first first' rest rest' hfirst hrest ih =>
    obtain ⟨k, v⟩ := first
    obtain ⟨l, w⟩ := first'
    obtain rfl : k = l := hfirst.1
    simp only [Fields.insert]
    split
    · exact .cons ⟨rfl, hxy⟩ (.cons hfirst hrest)
    · split
      · exact .cons ⟨rfl, hxy⟩ hrest
      · exact .cons hfirst ih

theorem ofList (h : AgreeBut secret front back) : AgreeBut secret (Fields.ofList front) (Fields.ofList back) := by
  have hfold : ∀ start start' : Fields β, AgreeBut secret start start' →
      AgreeBut secret (front.foldl (fun fields entry => Fields.insert entry.1 entry.2 fields) start)
        (back.foldl (fun fields entry => Fields.insert entry.1 entry.2 fields) start') := by
    induction h with
    | nil => exact fun _ _ hstart => hstart
    | @cons x y _ _ hxy _ ih =>
      intro start start' hstart
      rw [List.foldl_cons, List.foldl_cons, ← hxy.1]
      exact ih _ _ (hstart.insert x.1 hxy.2)
  exact hfold [] [] .nil

end AgreeBut

/-- Both fail in the same way, or neither fails and the values are related. -/
inductive SameOutcome (R : β → γ → Prop) : Except ε β → Except ε γ → Prop
  | ok {b : β} {c : γ} (h : R b c) : SameOutcome R (.ok b) (.ok c)
  | error (e : ε) : SameOutcome R (.error e) (.error e)

/-! ## Configurations and requests -/

/-- Credentials that differ in nothing but the secret. A token is one that a header can hold. -/
inductive Credentials.DifferInSecret : Credentials → Credentials → Prop
  | password (username p p' : String) : DifferInSecret (.basic username p) (.basic username p')
  | token {t t' : String} (h : isValue t = true) (h' : isValue t' = true) : DifferInSecret (.token t) (.token t')

structure SessionConfig.DifferInSecret (config config' : SessionConfig) : Prop where
  endpoint : config.endpoint = config'.endpoint
  family : config.family = config'.family
  vcenterUuid : config.vcenterUuid = config'.vcenterUuid
  credentials : config.credentials.DifferInSecret config'.credentials

namespace Session

def IsSecretHeader (name : String) : Prop := name = "authorization" ∨ name = tokenHeader

/-- The same body, or logins whose bodies differ in the password alone. -/
def BodiesAlike (config config' : SessionConfig) (request request' : Request) : Prop :=
  request.body = request'.body ∨
    IsLogin config request ∧ IsLogin config' request' ∧ ∃ members members' : Object,
      request.body = some (.object members) ∧ request'.body = some (.object members') ∧
        AgreeBut (· = "Password") members members'

/-- Requests that differ in nothing but secrets. -/
structure RequestsAlike (config config' : SessionConfig) (request request' : Request) : Prop where
  method : request.method = request'.method
  url : request.url = request'.url
  headers : AgreeBut IsSecretHeader request.headers request'.headers
  body : BodiesAlike config config' request request'

/-- Requests that come of two others, and differ in nothing but secrets. A body that is not the same in both is that of
the request that each comes of. -/
structure ComeAlike (first first' request request' : Request) : Prop where
  method : request.method = request'.method
  url : request.url = request'.url
  headers : AgreeBut IsSecretHeader request.headers request'.headers
  body : request.body = request'.body ∨ request.body = first.body ∧ request'.body = first'.body

/-- The redirects of two requests, one by one. -/
def HopsAlike (first first' : Request) (hops hops' : List Hop) : Prop :=
  List.Forall₂ (fun hop hop' => hop.received = hop'.received ∧ ComeAlike first first' hop.request hop'.request) hops hops'

/-- Attempts of alike requests that the device has treated alike. -/
structure AttemptsAlike (config config' : SessionConfig) (a a' : Attempt) : Prop where
  request : RequestsAlike config config' a.request a'.request
  received : a.received = a'.received
  fate : a.fate = a'.fate
  hops : HopsAlike a.request a'.request a.hops a'.hops

/-- The device is in the same state, what is around it is the same, and all that has been attempted is alike, one by
one. -/
structure WiresAlike (config config' : SessionConfig) (wire wire' : Wire) : Prop where
  device : wire.device = wire'.device
  client : wire.client = wire'.client
  network : wire.network = wire'.network
  attempts : List.Forall₂ (AttemptsAlike config config') wire.attempts wire'.attempts

variable {config config' : SessionConfig} {wire wire' : Wire}

theorem WiresAlike.refl (wire : Wire) : WiresAlike config config' wire wire := by
  refine ⟨rfl, rfl, rfl, List.forall₂_same.mpr (fun a _ => ⟨⟨rfl, rfl, .refl _, Or.inl rfl⟩, rfl, rfl, ?_⟩)⟩
  exact List.forall₂_same.mpr (fun hop _ => ⟨rfl, rfl, rfl, .refl _, Or.inl rfl⟩)

theorem WiresAlike.log (h : WiresAlike config config' wire wire') {a a' : Attempt}
    (ha : AttemptsAlike config config' a a') : WiresAlike config config' (wire.log a) (wire'.log a') :=
  ⟨h.device, h.client, h.network, List.rel_append h.attempts (.cons ha .nil)⟩

theorem loginBody_alike (family : Family) (username p p' : String) : ∃ members members' : Object,
    loginBody family username p = .object members ∧ loginBody family username p' = .object members' ∧
      AgreeBut (· = "Password") members members' := by
  have hpassword : AgreeBut (· = "Password") [("Password", Json.string p)] [("Password", Json.string p')] :=
    .cons ⟨rfl, fun hnot => absurd rfl hnot⟩ .nil
  have hnames : AgreeBut (· = "Password") [("UserName", Json.string username), ("Password", .string p)]
      [("UserName", .string username), ("Password", .string p')] := .cons ⟨rfl, fun _ => rfl⟩ hpassword
  exact ⟨_, _, rfl, rfl, AgreeBut.ofList (hnames.append (.refl _))⟩

/-! ## Composing -/

theorem compose_alike {method : String} {url : Url} {headers headers' : List (String × String)} {body body' : Option Json}
    (hheaders : AgreeBut IsSecretHeader (Headers.lowered headers) (Headers.lowered headers'))
    (hsendable : AreSendable headers ↔ AreSendable headers') (hsome : body.isSome = body'.isSome)
    (hbody : ∀ request request', compose method url headers body = .ok request →
      compose method url headers' body' = .ok request' → BodiesAlike config config' request request') :
    SameOutcome (RequestsAlike config config') (compose method url headers body) (compose method url headers' body') := by
  have hall : AgreeBut IsSecretHeader (Headers.lowered (urlHeaders url ++ headers))
      (Headers.lowered (urlHeaders url ++ headers')) := by
    rw [Headers.lowered_append, Headers.lowered_append]
    exact AgreeBut.append (.refl _) hheaders
  have hsame : AreSendable (urlHeaders url ++ headers) ↔ AreSendable (urlHeaders url ++ headers') := by
    rw [areSendable_append_iff, areSendable_append_iff, hsendable]
  by_cases hsend : AreSendable (urlHeaders url ++ headers)
  · obtain ⟨request, hrequest⟩ := compose_of_areSendable hsend method body
    obtain ⟨request', hrequest'⟩ := compose_of_areSendable (hsame.mp hsend) method body'
    have hbodies := hbody request request' hrequest hrequest'
    obtain ⟨_, hmethod, hurl, _, _⟩ := compose_ok hrequest
    obtain ⟨_, hmethod', hurl', _, _⟩ := compose_ok hrequest'
    have hagree : AgreeBut IsSecretHeader request.headers request'.headers := by
      rw [compose_headers hrequest, compose_headers hrequest', hsome]
      split
      · exact ((hall.default _ _).default _ _).default _ _
      · exact (hall.default _ _).default _ _
    rw [hrequest, hrequest']
    exact .ok ⟨hmethod.trans hmethod'.symm, hurl.trans hurl'.symm, hagree, hbodies⟩
  · rw [compose_of_not_areSendable hsend, compose_of_not_areSendable (fun h => hsend (hsame.mpr h))]
    exact .error Loss.unsendable

/-! ## Redirects -/

variable {first first' request request' : Request}

/-- Which headers go along depends on their names alone. -/
theorem ComeAlike.onward (h : ComeAlike first first' request request') (client : Client) (status : Nat) (target : Url) :
    ComeAlike first first' (request.onward client status target) (request'.onward client status target) := by
  have hkept : AgreeBut IsSecretHeader (request.keptHeaders client (client.onward request.method status) target)
      (request'.keptHeaders client (client.onward request'.method status) target) := by
    rw [Request.keptHeaders, Request.keptHeaders, ← h.method, ← h.url]
    exact h.headers.filter (fun name => !client.leavesOut request.url target name &&
      (client.onward request.method status == .whole || !payloadHeaders.contains name))
  refine ⟨?_, rfl, ?_, ?_⟩
  · simp only [Request.onward, h.method]
  · simp only [Request.onward, ← h.url]
    cases refererOf request.url target with
    | none => exact hkept
    | some referer => exact (hkept.filter (· != refererHeader)).append (.refl _)
  · simp only [Request.onward, ← h.method]
    split
    · exact h.body
    · exact Or.inl rfl

theorem obstacle?_alike (hwires : WiresAlike config config' wire wire') (trust : Trust) (url : Url) :
    wire.obstacle? trust url = wire'.obstacle? trust url := by
  obtain ⟨device, attempts⟩ := wire
  obtain ⟨device', attempts'⟩ := wire'
  obtain ⟨rfl, rfl, rfl, _⟩ := hwires
  rfl

theorem take_alike (hwires : WiresAlike config config' wire wire') :
    wire.take.1 = wire'.take.1 ∧ WiresAlike config config' wire.take.2 wire'.take.2 := by
  simp only [Wire.take, hwires.device, true_and]
  exact ⟨rfl, hwires.client, hwires.network, hwires.attempts⟩

/-- The first reply stops both, settles both or leads both to the same place. -/
theorem lead?_alike (hwires : WiresAlike config config' wire wire') (h : ComeAlike first first' request request') :
    wire'.take.1.lead? wire'.take.2.client request'.url = wire.take.1.lead? wire.take.2.client request.url := by
  obtain ⟨hreply, hlater⟩ := take_alike hwires
  rw [hreply, hlater.client, h.url]

theorem pursue_alike {request request' : Request} {wire wire' : Wire} (hwires : WiresAlike config config' wire wire')
    (trust : Trust) (hopLimit : Nat) (h : ComeAlike first first' request request') :
    (Wire.pursue trust hopLimit request wire).1.response = (Wire.pursue trust hopLimit request' wire').1.response ∧
      (Wire.pursue trust hopLimit request wire).1.received = (Wire.pursue trust hopLimit request' wire').1.received ∧
      HopsAlike first first' (Wire.pursue trust hopLimit request wire).1.hops (Wire.pursue trust hopLimit request' wire').1.hops ∧
      WiresAlike config config' (Wire.pursue trust hopLimit request wire).2 (Wire.pursue trust hopLimit request' wire').2 := by
  obtain ⟨hreply, hlater⟩ := take_alike hwires
  have hobstacles : wire'.obstacle? trust request'.url = wire.obstacle? trust request.url := by
    rw [obstacle?_alike hwires, h.url]
  have hleads := lead?_alike hwires h
  cases hobstacle : wire.obstacle? trust request.url with
  | some loss =>
    rw [Wire.pursue_of_obstacle hobstacle, Wire.pursue_of_obstacle (hobstacles.trans hobstacle)]
    exact ⟨rfl, rfl, .nil, hwires⟩
  | none =>
    rw [hobstacle] at hobstacles
    cases hlead : wire.take.1.lead? wire.take.2.client request.url with
    | none =>
      rw [hlead] at hleads
      rw [Wire.pursue_of_settled hobstacle hlead, Wire.pursue_of_settled hobstacles hleads, hreply, h.method]
      exact ⟨rfl, rfl, .nil, hlater⟩
    | some lead =>
      rw [hlead] at hleads
      cases hopLimit with
      | zero =>
        rw [Wire.pursue_zero_of_lead hobstacle hlead, Wire.pursue_zero_of_lead hobstacles hleads]
        exact ⟨rfl, rfl, .nil, hlater⟩
      | succ hopLimit =>
        rw [Wire.pursue_succ_of_lead hobstacle hlead, Wire.pursue_succ_of_lead hobstacles hleads, ← hlater.client]
        have honward := h.onward wire.take.2.client lead.1 lead.2
        obtain ⟨hresponse, hreceived, hhops, hafter⟩ := pursue_alike hlater trust hopLimit honward
        exact ⟨hresponse, rfl, .cons ⟨hreceived, honward⟩ hhops, hafter⟩

/-! ## One exchange -/

theorem send_alike (hwires : WiresAlike config config' wire wire') (trust : Trust)
    (h : RequestsAlike config config' request request') :
    (wire.send trust request).1 = (wire'.send trust request').1 ∧
      WiresAlike config config' (wire.send trust request).2 (wire'.send trust request').2 := by
  have hsame : ComeAlike request request' request request' := ⟨h.method, h.url, h.headers, Or.inr ⟨rfl, rfl⟩⟩
  obtain ⟨hresponse, hreceived, hhops, hlater⟩ := pursue_alike hwires trust wire.client.hopLimit hsame
  unfold Wire.send
  rw [← hwires.client, ← h.url]
  split
  · exact ⟨hresponse, hlater.log ⟨h, hreceived, congrArg (Except.map Response.status) hresponse, hhops⟩⟩
  · exact ⟨rfl, hwires⟩

theorem exchange_alike (hwires : WiresAlike config config' wire wire') (trust : Trust) (timeout : Nat)
    {composed composed' : Except Loss Request} (h : SameOutcome (RequestsAlike config config') composed composed') :
    (exchange trust timeout composed wire).1 = (exchange trust timeout composed' wire').1 ∧
      WiresAlike config config' (exchange trust timeout composed wire).2 (exchange trust timeout composed' wire').2 := by
  cases h with
  | error loss => exact ⟨rfl, hwires⟩
  | @ok request request' h =>
    obtain ⟨hresponse, hlater⟩ := send_alike hwires trust h
    rcases hx : wire.send trust request with ⟨response, later⟩
    rcases hx' : wire'.send trust request' with ⟨response', later'⟩
    rw [hx, hx'] at hresponse hlater
    obtain rfl : response = response' := hresponse
    simp only [exchange, hx, hx']
    cases response with
    | error loss => exact ⟨rfl, hlater⟩
    | ok response => exact ⟨rfl, hlater⟩

/-! ## Sessions in use -/

/-- What a session shows, up to the secret in it. -/
inductive AuthorizationsAlike : Authorization → Authorization → Prop
  | token {t t' : String} (h : isValue t = isValue t') : AuthorizationsAlike (.token t) (.token t')
  | basic (username p p' : String) : AuthorizationsAlike (.basic username p) (.basic username p')

theorem AuthorizationsAlike.refl (shown : Authorization) : AuthorizationsAlike shown shown := by
  cases shown with
  | token t => exact .token rfl
  | basic username p => exact .basic username p p

theorem AuthorizationsAlike.headers {shown shown' : Authorization} (h : AuthorizationsAlike shown shown') :
    AgreeBut IsSecretHeader (Headers.lowered [authorizationHeader shown]) (Headers.lowered [authorizationHeader shown']) ∧
      (AreSendable [authorizationHeader shown] ↔ AreSendable [authorizationHeader shown']) := by
  cases h with
  | token h =>
    refine ⟨.singleton (Or.inr (show Text.lowerAscii tokenHeader = tokenHeader by decide)) _ _, ?_⟩
    simp only [areSendable_singleton_iff, authorizationHeader, h]
  | basic username p p' =>
    refine ⟨.singleton (Or.inl (show Text.lowerAscii "authorization" = "authorization" by decide)) _ _, ?_⟩
    simp only [areSendable_singleton_iff, authorizationHeader, isValue_basicValue]

/-- Sessions that differ in nothing but the secret that they show. -/
def SessionsAlike (s s' : Session) : Prop :=
  ∃ shown', s' = { s with authorization := shown' } ∧ AuthorizationsAlike s.authorization shown'

/-- Behind what a session shows, the headers of its requests do not depend on it. -/
theorem headersFor_eq_append (s : Session) (spec : RequestSpec) :
    ∃ rest, ∀ shown, headersFor { s with authorization := shown } spec = [authorizationHeader shown] ++ rest :=
  ⟨(s.headersFor spec).tail, fun _ => rfl⟩

variable {s s' : Session}

theorem execute_alike (hwires : WiresAlike config config' wire wire') (h : SessionsAlike s s') (spec : RequestSpec) :
    (s.execute spec wire).1 = (s'.execute spec wire').1 ∧
      WiresAlike config config' (s.execute spec wire).2 (s'.execute spec wire').2 := by
  obtain ⟨shown', rfl, hshown⟩ := h
  obtain ⟨hheaders, hsendable⟩ := hshown.headers
  obtain ⟨rest, hrest⟩ := s.headersFor_eq_append spec
  unfold execute
  dsimp only
  split
  · split
    · exact ⟨rfl, hwires⟩
    · refine exchange_alike hwires _ _ (compose_alike ?_ ?_ rfl (fun request request' hrequest hrequest' => Or.inl ?_))
      · rw [hrest s.authorization, hrest shown', Headers.lowered_append, Headers.lowered_append]
        exact hheaders.append (.refl _)
      · rw [hrest s.authorization, hrest shown', areSendable_append_iff, areSendable_append_iff, hsendable]
      · rw [(compose_ok hrequest).2.2.2.1, (compose_ok hrequest').2.2.2.1]
  · exact ⟨rfl, hwires⟩

theorem deleteRequest?_alike (config config' : SessionConfig) (h : SessionsAlike s s') :
    Option.Rel (SameOutcome (RequestsAlike config config')) s.deleteRequest? s'.deleteRequest? := by
  obtain ⟨shown', rfl, hshown⟩ := h
  obtain ⟨hheaders, hsendable⟩ := hshown.headers
  unfold deleteRequest?
  dsimp only
  cases s.remoteId with
  | none => exact .none
  | some id =>
    cases hpath : s.family.sessionDeletePath? id with
    | none =>
      simp only [Option.bind_eq_bind, Option.bind_some, hpath, Option.bind_none]
      exact .none
    | some path =>
      cases hurl : (s.base.join path).toOption with
      | none =>
        simp only [Option.bind_eq_bind, Option.bind_some, hpath, hurl, Option.bind_none]
        exact .none
      | some url =>
        simp only [Option.bind_eq_bind, Option.bind_some, hpath, hurl]
        refine .some (compose_alike hheaders hsendable rfl (fun request request' hrequest hrequest' => Or.inl ?_))
        rw [(compose_ok hrequest).2.2.2.1, (compose_ok hrequest').2.2.2.1]

theorem close_alike (hwires : WiresAlike config config' wire wire') (h : SessionsAlike s s') :
    SessionsAlike (s.close wire).1 (s'.close wire').1 ∧ WiresAlike config config' (s.close wire).2 (s'.close wire').2 := by
  have hdelete := deleteRequest?_alike config config' h
  obtain ⟨shown', rfl, hshown⟩ := h
  unfold close
  dsimp only
  split
  · have hclosed : SessionsAlike { s with isOpen := false, remoteId := none }
        { s with authorization := shown', isOpen := false, remoteId := none } := ⟨shown', rfl, hshown⟩
    revert hdelete
    generalize s.deleteRequest? = request
    generalize Session.deleteRequest? { s with authorization := shown' } = request'
    intro hdelete
    cases hdelete with
    | none => exact ⟨hclosed, hwires⟩
    | some hrequest => exact ⟨hclosed, (exchange_alike hwires _ _ hrequest).2⟩
  · exact ⟨⟨shown', rfl, hshown⟩, hwires⟩

/-! ## Opening -/

variable {username p p' : String}

theorem login_alike (h : config.DifferInSecret config') {base : Url} {path : String}
    (hbase : config.endpoint.baseUrl = .ok base) (hpath : config.family.sessionPath? = some path)
    (hbasic : config.credentials = .basic username p) (hbasic' : config'.credentials = .basic username p')
    (hwires : WiresAlike config config' wire wire') (trust : Trust) (timeout : Nat) :
    (login trust timeout base config.family path username p wire).1 =
        (login trust timeout base config.family path username p' wire').1 ∧
      WiresAlike config config' (login trust timeout base config.family path username p wire).2
        (login trust timeout base config.family path username p' wire').2 := by
  cases hurl : base.join path with
  | error fault =>
    simp only [login, hurl]
    exact ⟨trivial, hwires⟩
  | ok url =>
    obtain ⟨members, members', hmembers, hmembers', hagree⟩ := loginBody_alike config.family username p p'
    have hbodies : ∀ request request',
        compose "POST" url [("accept", jsonType)] (some (loginBody config.family username p)) = .ok request →
        compose "POST" url [("accept", jsonType)] (some (loginBody config.family username p')) = .ok request' →
        BodiesAlike config config' request request' := by
      intro request request' hrequest hrequest'
      have hlogin : IsLogin config request := ⟨base, username, p, path, url, hbase, hbasic, hpath, hurl, hrequest⟩
      have hlogin' : IsLogin config' request' := by
        refine ⟨base, username, p', path, url, ?_, hbasic', ?_, hurl, ?_⟩
        · rw [← h.endpoint, hbase]
        · rw [← h.family, hpath]
        · rw [← h.family, hrequest']
      refine Or.inr ⟨hlogin, hlogin', members, members', ?_, ?_, hagree⟩
      · rw [(compose_ok hrequest).2.2.2.1, hmembers]
      · rw [(compose_ok hrequest').2.2.2.1, hmembers']
    have hcomposed : SameOutcome (RequestsAlike config config')
        (compose "POST" url [("accept", jsonType)] (some (loginBody config.family username p)))
        (compose "POST" url [("accept", jsonType)] (some (loginBody config.family username p'))) :=
      compose_alike (.refl _) Iff.rfl rfl hbodies
    obtain ⟨hreply, hlater⟩ := exchange_alike hwires trust timeout hcomposed
    simp only [login, hurl]
    rcases hx : exchange trust timeout (compose "POST" url [("accept", jsonType)]
      (some (loginBody config.family username p))) wire with ⟨reply, later⟩
    rcases hx' : exchange trust timeout (compose "POST" url [("accept", jsonType)]
      (some (loginBody config.family username p'))) wire' with ⟨reply', later'⟩
    rw [hx, hx'] at hreply hlater
    obtain rfl : reply = reply' := hreply
    cases reply with
    | error e => exact ⟨rfl, hlater⟩
    | ok reply => exact ⟨rfl, hlater⟩

theorem authorize_alike (h : config.DifferInSecret config') {base : Url} (hbase : config.endpoint.baseUrl = .ok base)
    (hwires : WiresAlike config config' wire wire') (trust : Trust) :
    SameOutcome (fun given given' => AuthorizationsAlike given.1 given'.1 ∧ given.2 = given'.2)
        (authorize trust base config wire).1 (authorize trust base config' wire').1 ∧
      WiresAlike config config' (authorize trust base config wire).2 (authorize trust base config' wire').2 := by
  have hcredentials := h.credentials
  generalize hc : config.credentials = credentials at hcredentials
  generalize hc' : config'.credentials = credentials' at hcredentials
  cases hcredentials with
  | @token t t' ht ht' =>
    have hshown : AuthorizationsAlike (.token t) (.token t') := .token (ht.trans ht'.symm)
    simp only [authorize, hc, hc', checkedToken, ht, ht', ↓reduceIte]
    exact ⟨.ok ⟨hshown, rfl⟩, hwires⟩
  | password username p p' =>
    cases hpath : config.family.sessionPath? with
    | none =>
      simp only [authorize, hc, hc', ← h.family, hpath]
      exact ⟨.ok ⟨.basic username p p', rfl⟩, hwires⟩
    | some path =>
      obtain ⟨hgranted, hlater⟩ := login_alike h hbase hpath hc hc' hwires trust config.endpoint.timeout
      simp only [authorize, hc, hc', ← h.family, ← h.endpoint, hpath]
      rcases hx : login trust config.endpoint.timeout base config.family path username p wire with ⟨granted, later⟩
      rcases hx' : login trust config.endpoint.timeout base config.family path username p' wire' with ⟨granted', later'⟩
      rw [hx, hx'] at hgranted hlater
      obtain rfl : granted = granted' := hgranted
      cases granted with
      | error e => exact ⟨.error e, hlater⟩
      | ok granted =>
        -- From here on both show the token that the device has granted.
        cases hchecked : checkedToken granted.1 with
        | error e =>
          simp only [hchecked]
          exact ⟨.error e, hlater⟩
        | ok shown =>
          simp only [hchecked]
          exact ⟨.ok ⟨.refl shown, rfl⟩, hlater⟩

theorem open_alike (h : config.DifferInSecret config') (files : FileTree) (hwires : WiresAlike config config' wire wire') :
    SameOutcome SessionsAlike (Session.open files config wire).1 (Session.open files config' wire').1 ∧
      WiresAlike config config' (Session.open files config wire).2 (Session.open files config' wire').2 := by
  have hidentifier : identifier config' = identifier config := by
    simp only [identifier, h.family, h.vcenterUuid]
  simp only [Session.open, ← h.endpoint, ← h.family, hidentifier]
  cases htrust : config.endpoint.trust files with
  | error e => exact ⟨.error e, hwires⟩
  | ok trust =>
    cases hbase : config.endpoint.baseUrl with
    | error e => exact ⟨.error e, hwires⟩
    | ok base =>
      obtain ⟨hgiven, hlater⟩ := authorize_alike h hbase hwires trust
      rcases hx : authorize trust base config wire with ⟨given, later⟩
      rcases hx' : authorize trust base config' wire' with ⟨given', later'⟩
      rw [hx, hx'] at hgiven hlater
      simp only [hx, hx']
      cases hgiven with
      | error e => exact ⟨.error e, hlater⟩
      | @ok shown shown' hshown =>
        obtain ⟨hshown, hid⟩ := hshown
        refine ⟨.ok ⟨shown'.1, ?_, hshown⟩, hlater⟩
        simp only [hid]

end Session

/-! ## Runs -/

variable {config config' : SessionConfig}

theorem Program.run_alike (program : Program α) {s s' : Session} (h : SessionsAlike s s') {wire wire' : Wire}
    (hwires : WiresAlike config config' wire wire') :
    (program.run s wire).1 = (program.run s' wire').1 ∧
      SessionsAlike (program.run s wire).2.1 (program.run s' wire').2.1 ∧
      WiresAlike config config' (program.run s wire).2.2 (program.run s' wire').2.2 := by
  induction program generalizing s s' wire wire' with
  | done value => exact ⟨rfl, h, hwires⟩
  | execute spec next ih =>
    obtain ⟨hreply, hlater⟩ := execute_alike hwires h spec
    rcases hx : s.execute spec wire with ⟨reply, later⟩
    rcases hx' : s'.execute spec wire' with ⟨reply', later'⟩
    rw [hx, hx'] at hreply hlater
    obtain rfl : reply = reply' := hreply
    simp only [run, hx, hx']
    exact ih reply h hlater
  | close next ih =>
    obtain ⟨hsessions, hlater⟩ := close_alike hwires h
    exact ih hsessions hlater

theorem withSession_alike (h : config.DifferInSecret config') (files : FileTree) (body : Program α) (wire : Wire) :
    (withSession files config body wire).1 = (withSession files config' body wire).1 ∧
      WiresAlike config config' (withSession files config body wire).2 (withSession files config' body wire).2 := by
  obtain ⟨hopened, hlater⟩ := open_alike h files (.refl wire)
  rcases hx : Session.open files config wire with ⟨opened, later⟩
  rcases hx' : Session.open files config' wire with ⟨opened', later'⟩
  rw [hx, hx'] at hopened hlater
  simp only [withSession, hx, hx']
  cases hopened with
  | error e => exact ⟨rfl, hlater⟩
  | ok hsessions =>
    obtain ⟨hvalue, hafter, hwires⟩ := body.run_alike hsessions hlater
    exact ⟨by simp only [hvalue], (close_alike hwires hafter).2⟩

namespace Operation

/-- A password or a token has no influence on the report of a run, nor on what is sent, but for the member of the
login that holds the password and for the values of the two headers that hold secrets. -/
theorem run_hides_secrets (op : Operation) (check : Bool) (files : FileTree) (h : config.DifferInSecret config')
    (wire : Wire) :
    (op.run check files config wire).1 = (op.run check files config' wire).1 ∧
      WiresAlike config config' (op.run check files config wire).2 (op.run check files config' wire).2 := by
  obtain ⟨hended, hwires⟩ := withSession_alike h files (op.task check (linkBudget wire)).program wire
  unfold run
  rcases hx : withSession files config (op.task check (linkBudget wire)).program wire with ⟨ended, later⟩
  rcases hx' : withSession files config' (op.task check (linkBudget wire)).program wire with ⟨ended', later'⟩
  rw [hx, hx'] at hended hwires
  obtain rfl : ended = ended' := hended
  cases ended with
  | error e => exact ⟨rfl, hwires⟩
  | ok ended =>
    cases ended with
    | error f => exact ⟨rfl, hwires⟩
    | ok report => exact ⟨rfl, hwires⟩

/-- Two passwords that are shown with every request, and a device that refuses them. -/
theorem run_hides_secrets_passwords :
    let config : SessionConfig := ⟨⟨"127.0.0.1", 443, .http, .system, 30000⟩, .basic "root" "calvin", .omevv, none⟩
    let config' : SessionConfig := { config with credentials := .basic "root" "hobbes" }
    let wire : Wire := ⟨⟨.ipv4 0x7F000001, 443, true, none, [.answer 401 [] (Text.encodeUtf8 "calvin")]⟩, []⟩
    config.DifferInSecret config' ∧
      ((Operation.consoles none).run false FileTree.empty config wire).2.attempts.map (fun a => a.request.headers) ≠
        ((Operation.consoles none).run false FileTree.empty config' wire).2.attempts.map (fun a => a.request.headers) ∧
      ((Operation.consoles none).run false FileTree.empty config wire).1 =
        ((Operation.consoles none).run false FileTree.empty config' wire).1 ∧
      WiresAlike config config' ((Operation.consoles none).run false FileTree.empty config wire).2
        ((Operation.consoles none).run false FileTree.empty config' wire).2 := by
  intro config config' wire
  have hdiffer : config.DifferInSecret config' := ⟨rfl, rfl, rfl, .password "root" "calvin" "hobbes"⟩
  obtain ⟨hreport, hwires⟩ := run_hides_secrets (.consoles none) false FileTree.empty hdiffer wire
  exact ⟨hdiffer, by decide +kernel, hreport, hwires⟩

end Operation

end OutOfBand
