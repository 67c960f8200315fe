import OutOfBand.Proofs.Session.Requests

/-! # Exchanges on the wire

What each step of a session adds to the log of attempts, and how the reply that comes back tells the
fate of the attempt. What is sent is one attempt, with all its redirects, and what cannot be sent is none:
then the reply says so. A session that has been opened keeps the facts from which the later steps follow:
its base has a path of segments, and a session on the device is held with a token that can be sent.
-/
namespace OutOfBand

open Http

/-- The reply is what came back on this attempt: both have the same status, or both are lost. -/
def Attempt.HasReply (a : Attempt) (reply : Except SessionError Envelope) : Prop :=
  a.fate.toOption = reply.toOption.map Envelope.status

/-- A complete response came back, with a successful status. -/
def Attempt.succeeded (a : Attempt) : Bool := (a.fate.toOption.map Http.isSuccess).getD false

/-- The reply is complete and has a successful status. -/
def isAnsweredWell (reply : Except SessionError Envelope) : Bool := (reply.toOption.map Envelope.isSuccess).getD false

theorem Attempt.HasReply.succeeded_eq {a : Attempt} {reply : Except SessionError Envelope} (h : a.HasReply reply) :
    a.succeeded = isAnsweredWell reply := by
  rw [Attempt.succeeded, h, isAnsweredWell, Option.map_map]
  rfl

/-- The error of a request that was not attempted, as no client could send it. -/
def SessionError.unsendable : SessionError := .transport .unsendable

/-- The request was not attempted, as no client could send it. -/
def isUnsent (reply : Except SessionError Envelope) : Bool :=
  match reply with
  | .ok _ => false
  | .error e => e == .unsendable

theorem isUnsent_iff {reply : Except SessionError Envelope} : isUnsent reply = true ↔ reply = .error .unsendable := by
  cases reply with
  | ok reply => simp [isUnsent]
  | error e => simp [isUnsent]

/-! ## Redirects -/

theorem Reply.response_ne_unsendable (reply : Reply) (method : String) : reply.response method ≠ .error .unsendable := by
  intro h
  cases reply with
  | answer status headers body => cases h
  | cut status headers =>
    simp only [response] at h
    split at h
    · cases h
    · cases h
  | stalled status headers =>
    simp only [response] at h
    split at h
    · cases h
    · cases h
  | _ => cases h

namespace Wire

theorem obstacle?_ne_unsendable (wire : Wire) (trust : Trust) (url : Url) : wire.obstacle? trust url ≠ some .unsendable := by
  intro h
  unfold obstacle? at h
  dsimp only at h
  split at h
  · cases h
  split at h
  · cases h
  · split at h
    · cases h
    · cases h
  · cases h
  · cases h
  · cases h

section

variable {wire : Wire} {trust : Trust} {request : Request}

theorem pursue_of_obstacle {loss : Loss} (h : wire.obstacle? trust request.url = some loss) (hopLimit : Nat) :
    pursue trust hopLimit request wire = (.direct (.error loss) false, wire) := by
  unfold pursue
  rw [h]

variable (h : wire.obstacle? trust request.url = none)

include h

theorem pursue_of_settled (hlead : wire.take.1.lead? wire.take.2.client request.url = none) (hopLimit : Nat) :
    pursue trust hopLimit request wire =
      (.direct (wire.take.1.response request.method) wire.take.1.isReached, wire.take.2) := by
  unfold pursue
  rw [h]
  dsimp only
  rw [hlead]

theorem pursue_zero_of_lead {lead : Nat × Url} (hlead : wire.take.1.lead? wire.take.2.client request.url = some lead) :
    pursue trust 0 request wire = (.direct (.error .misdirected) true, wire.take.2) := by
  unfold pursue
  rw [h]
  dsimp only
  rw [hlead]

theorem pursue_succ_of_lead {status : Nat} {target : Url}
    (hlead : wire.take.1.lead? wire.take.2.client request.url = some (status, target)) (hopLimit : Nat) :
    pursue trust (hopLimit + 1) request wire =
      ((pursue trust hopLimit (request.onward wire.take.2.client status target) wire.take.2).1.redirected
          (request.onward_follows _ status target),
        (pursue trust hopLimit (request.onward wire.take.2.client status target) wire.take.2).2) := by
  rw [pursue, h]
  dsimp only
  rw [hlead]

end

/-- What holds of a request that is stopped, of one that is answered for good or led on once too often, and of one that
is led on if it holds of the request made of it, holds whatever comes of a request. -/
theorem pursue_induct {trust : Trust} {P : (request : Request) → Wire → Outcome request × Wire → Prop}
    (obstacle : ∀ request wire loss, wire.obstacle? trust request.url = some loss →
      P request wire (.direct (.error loss) false, wire))
    (settled : ∀ request wire,
      P request wire (.direct (wire.take.1.response request.method) wire.take.1.isReached, wire.take.2))
    (exhausted : ∀ request wire, P request wire (.direct (.error .misdirected) true, wire.take.2))
    (redirected : ∀ request wire status target result, P (request.onward wire.take.2.client status target) wire.take.2 result →
      P request wire (result.1.redirected (request.onward_follows _ status target), result.2))
    (hopLimit : Nat) (request : Request) (wire : Wire) : P request wire (pursue trust hopLimit request wire) := by
  cases hobstacle : wire.obstacle? trust request.url with
  | some loss => exact pursue_of_obstacle hobstacle _ ▸ obstacle request wire loss hobstacle
  | none =>
    cases hlead : wire.take.1.lead? wire.take.2.client request.url with
    | none => exact pursue_of_settled hobstacle hlead _ ▸ settled request wire
    | some lead =>
      cases hopLimit with
      | zero => exact pursue_zero_of_lead hobstacle hlead ▸ exhausted request wire
      | succ hopLimit =>
        have hnext := pursue_induct obstacle settled exhausted redirected hopLimit
          (request.onward wire.take.2.client lead.1 lead.2) wire.take.2
        exact pursue_succ_of_lead hobstacle hlead hopLimit ▸ redirected request wire _ _ _ hnext

/-- Two wires with the same client, the same network and the same log. -/
structure SameAround (before after : Wire) : Prop where
  client : after.client = before.client
  network : after.network = before.network
  attempts : after.attempts = before.attempts

/-- Following the redirects of a request takes replies, and nothing else changes. Whatever comes of it, something was
sent. -/
theorem pursue_around (trust : Trust) (hopLimit : Nat) (request : Request) (wire : Wire) :
    wire.SameAround (pursue trust hopLimit request wire).2 ∧
      (pursue trust hopLimit request wire).1.response ≠ .error .unsendable := by
  refine pursue_induct (P := fun _ wire result => wire.SameAround result.2 ∧ result.1.response ≠ .error .unsendable)
    ?_ ?_ ?_ ?_ hopLimit request wire
  · intro request wire loss hobstacle
    refine ⟨⟨rfl, rfl, rfl⟩, fun h => ?_⟩
    cases h
    exact wire.obstacle?_ne_unsendable trust request.url hobstacle
  · exact fun request wire => ⟨⟨rfl, rfl, rfl⟩, Reply.response_ne_unsendable _ _⟩
  · exact fun request wire => ⟨⟨rfl, rfl, rfl⟩, fun h => by cases h⟩
  · rintro request wire status target result ⟨haround, hresponse⟩
    exact ⟨⟨haround.client, haround.network, haround.attempts⟩, hresponse⟩

theorem send_of_refused {wire : Wire} {request : Request} (h : wire.client.takes request.url = false) (trust : Trust) :
    wire.send trust request = (.error .unsendable, wire) := by
  rw [send, h]
  rfl

/-- A request whose URL the client takes is one attempt. -/
theorem send_of_taken {wire : Wire} {request : Request} (h : wire.client.takes request.url = true) (trust : Trust) :
    (∃ a : Attempt, (wire.send trust request).2.attempts = wire.attempts ++ [a] ∧ a.request = request ∧
      a.fate = (wire.send trust request).1.map Response.status) ∧ (wire.send trust request).1 ≠ .error .unsendable := by
  obtain ⟨haround, hresponse⟩ := pursue_around trust wire.client.hopLimit request wire
  rw [send, h]
  exact ⟨⟨_, congrArg (· ++ _) haround.attempts, rfl, rfl⟩, hresponse⟩

theorem send_client (wire : Wire) (trust : Trust) (request : Request) :
    (wire.send trust request).2.client = wire.client := by
  obtain ⟨haround, _⟩ := pursue_around trust wire.client.hopLimit request wire
  unfold send
  split
  · exact haround.client
  · rfl

/-- At most one attempt was made from one wire to the other, for a request of some kind. -/
def AtMostOne (kind : Request → Prop) (before after : Wire) : Prop :=
  ∃ sent : List Attempt, after.attempts = before.attempts ++ sent ∧ sent.length ≤ 1 ∧ ∀ a ∈ sent, kind a.request

theorem AtMostOne.none {kind : Request → Prop} (wire : Wire) : AtMostOne kind wire wire :=
  ⟨[], (List.append_nil _).symm, Nat.zero_le 1, fun _ ha => absurd ha List.not_mem_nil⟩

theorem AtMostOne.one {kind : Request → Prop} {before after : Wire} {a : Attempt}
    (hlog : after.attempts = before.attempts ++ [a]) (ha : kind a.request) : AtMostOne kind before after := by
  refine ⟨[a], hlog, Nat.le_refl 1, ?_⟩
  intro b hb
  rw [List.mem_singleton.mp hb]
  exact ha

theorem AtMostOne.mono {kind other : Request → Prop} {before after : Wire} (h : AtMostOne kind before after)
    (hkind : ∀ request, kind request → other request) : AtMostOne other before after := by
  obtain ⟨sent, hlog, hlength, hsent⟩ := h
  exact ⟨sent, hlog, hlength, fun a ha => hkind _ (hsent a ha)⟩

end Wire

namespace Session

/-! ## One exchange -/

theorem exchange_client (trust : Trust) (timeout : Nat) (composed : Except Loss Request) (wire : Wire) :
    (exchange trust timeout composed wire).2.client = wire.client := by
  cases composed with
  | error loss => rfl
  | ok request =>
    have hclient := wire.send_client trust request
    rcases hsend : wire.send trust request with ⟨response, sent⟩
    rw [hsend] at hclient
    simp only [exchange, hsend]
    cases response with
    | error loss => exact hclient
    | ok response => exact hclient

theorem exchange_of_refused {wire : Wire} {request : Request} (h : wire.client.takes request.url = false) (trust : Trust)
    (timeout : Nat) : exchange trust timeout (.ok request) wire = (.error .unsendable, wire) := by
  simp only [exchange, Wire.send_of_refused h]
  rfl

theorem exchange_attempts {wire : Wire} {request : Request} (h : wire.client.takes request.url = true) (trust : Trust)
    (timeout : Nat) :
    (∃ a : Attempt, (exchange trust timeout (.ok request) wire).2.attempts = wire.attempts ++ [a] ∧
      a.request = request ∧ a.HasReply (exchange trust timeout (.ok request) wire).1) ∧
      isUnsent (exchange trust timeout (.ok request) wire).1 = false := by
  obtain ⟨⟨a, hlog, hrequest, hfate⟩, hsent⟩ := Wire.send_of_taken h trust
  rcases hsend : wire.send trust request with ⟨response, later⟩
  rw [hsend] at hlog hfate hsent
  cases response with
  | error loss =>
    simp only [exchange, hsend, Attempt.HasReply]
    refine ⟨⟨a, hlog, hrequest, by rw [hfate]; rfl⟩, ?_⟩
    cases loss with
    | unsendable => exact absurd rfl hsent
    | _ => rfl
  | ok response =>
    simp only [exchange, hsend, Attempt.HasReply]
    exact ⟨⟨a, hlog, hrequest, by rw [hfate]; rfl⟩, rfl⟩

theorem exchange_sent (trust : Trust) (timeout : Nat) (composed : Except Loss Request) (wire : Wire) :
    wire.AtMostOne (fun request => composed = .ok request) (exchange trust timeout composed wire).2 := by
  cases composed with
  | error loss => exact .none wire
  | ok request =>
    cases htaken : wire.client.takes request.url with
    | false =>
      rw [exchange_of_refused htaken]
      exact .none wire
    | true =>
      obtain ⟨⟨a, hlog, hrequest, _⟩, _⟩ := exchange_attempts htaken trust timeout
      exact .one hlog (congrArg Except.ok hrequest.symm)

/-! ## Requests in use -/

/-- Everything is in place for a request, but for what the request itself brings. -/
structure IsReady (s : Session) : Prop where
  isOpen : s.isOpen = true
  base : s.base.IsHierarchical

/-- HTTP allows all headers of the request. -/
def HasSendableHeaders (s : Session) (spec : RequestSpec) : Prop := AreSendable (urlHeaders s.base ++ s.headersFor spec)

/-- The client can send the request: HTTP allows its headers, and the client takes its URL. -/
structure CanSend (s : Session) (client : Client) (spec : RequestSpec) : Prop where
  headers : s.HasSendableHeaders spec
  url : ∃ url, spec.resolve s.base s.family.root = .ok url ∧ client.takes url.withoutUserInfo = true

/-- What the session makes of a request. -/
structure IsRequestOf (s : Session) (spec : RequestSpec) (request : Request) : Prop where
  method : request.method = spec.method
  body : request.body = spec.body
  asksForJson : AsksForJson request
  url : ∃ url, spec.resolve s.base s.family.root = .ok url ∧ request.url = url.withoutUserInfo

theorem IsRequestOf.canSend_iff {s : Session} {spec : RequestSpec} {request : Request} (h : s.IsRequestOf spec request)
    (hheaders : s.HasSendableHeaders spec) (client : Client) :
    s.CanSend client spec ↔ client.takes request.url = true := by
  obtain ⟨url, hurl, haddress⟩ := h.url
  constructor
  · rintro ⟨_, other, hother, htaken⟩
    obtain rfl : url = other := Except.ok.inj (hurl.symm.trans hother)
    rwa [haddress]
  · intro htaken
    exact ⟨hheaders, url, hurl, by rwa [← haddress]⟩

theorem headersFor_eq {spec : RequestSpec} (h : spec.headers = []) (s : Session) :
    s.headersFor spec = s.headersFor (.get "") := by
  simp only [headersFor, h]
  rfl

theorem hasSendableHeaders_iff {spec : RequestSpec} (h : spec.headers = []) (s : Session) :
    s.HasSendableHeaders spec ↔ s.HasSendableHeaders (.get "") := by
  rw [HasSendableHeaders, HasSendableHeaders, headersFor_eq h]

theorem urlHeaders_eq {url base : Url} (h : url.IsOnSiteOf base) : urlHeaders url = urlHeaders base := by
  simp only [urlHeaders, h.userInfo?_eq]

theorem execute_client (s : Session) (spec : RequestSpec) (wire : Wire) : (s.execute spec wire).2.client = wire.client := by
  unfold execute
  split
  · split
    · rfl
    · exact exchange_client _ _ _ wire
  · rfl

theorem execute_sent (s : Session) (spec : RequestSpec) (wire : Wire) :
    wire.AtMostOne (fun request => AsksForJson request ∧ request.method = spec.method) (s.execute spec wire).2 := by
  unfold execute
  split
  case isFalse => exact .none wire
  case isTrue =>
    split
    · exact .none wire
    · refine (exchange_sent s.trust (spec.timeout.getD s.timeout) _ wire).mono (fun request h => ?_)
      exact ⟨headersFor_asksForJson h, (compose_ok h).2.1⟩

section

variable {s : Session} (hs : s.IsReady) {spec : RequestSpec}

include hs

/-- Whatever the path is, a request with headers that HTTP allows is made and exchanged. -/
theorem IsReady.execute_eq_exchange (hheaders : s.HasSendableHeaders spec) (wire : Wire) :
    ∃ request, s.IsRequestOf spec request ∧
      s.execute spec wire = exchange s.trust (spec.timeout.getD s.timeout) (.ok request) wire := by
  obtain ⟨url, hurl, hsite⟩ := spec.resolve_ok hs.base s.family
  rw [HasSendableHeaders, ← urlHeaders_eq hsite] at hheaders
  obtain ⟨request, hrequest⟩ := compose_of_areSendable hheaders spec.method spec.body
  obtain ⟨_, hmethod, haddress, hbody, _⟩ := compose_ok hrequest
  refine ⟨request, ⟨hmethod, hbody, headersFor_asksForJson hrequest, url, hurl, haddress⟩, ?_⟩
  simp only [execute, hs.isOpen, hurl, hrequest, ↓reduceIte]

theorem IsReady.execute_of_headers (hheaders : ¬ s.HasSendableHeaders spec) (wire : Wire) :
    s.execute spec wire = (.error .unsendable, wire) := by
  obtain ⟨url, hurl, hsite⟩ := spec.resolve_ok hs.base s.family
  rw [HasSendableHeaders, ← urlHeaders_eq hsite] at hheaders
  simp only [execute, hs.isOpen, hurl, compose_of_not_areSendable hheaders, ↓reduceIte]
  rfl

/-- What can be sent is one attempt. -/
theorem IsReady.execute_attempt {wire : Wire} (h : s.CanSend wire.client spec) :
    ∃ a : Attempt, (s.execute spec wire).2.attempts = wire.attempts ++ [a] ∧ a.HasReply (s.execute spec wire).1 ∧
      s.IsRequestOf spec a.request ∧ isUnsent (s.execute spec wire).1 = false := by
  obtain ⟨request, hrequest, hexecute⟩ := hs.execute_eq_exchange h.headers wire
  obtain ⟨⟨a, hlog, rfl, hreply⟩, hsent⟩ :=
    exchange_attempts ((hrequest.canSend_iff h.headers _).mp h) s.trust (spec.timeout.getD s.timeout)
  rw [hexecute]
  exact ⟨a, hlog, hreply, hrequest, hsent⟩

/-- What cannot be sent leaves everything as it is. -/
theorem IsReady.execute_of_unsendable {wire : Wire} (h : ¬ s.CanSend wire.client spec) :
    s.execute spec wire = (.error .unsendable, wire) := by
  by_cases hheaders : s.HasSendableHeaders spec
  · obtain ⟨request, hrequest, hexecute⟩ := hs.execute_eq_exchange hheaders wire
    rw [hrequest.canSend_iff hheaders, Bool.not_eq_true] at h
    rw [hexecute, exchange_of_refused h]
  · exact hs.execute_of_headers hheaders wire

end

end Session

end OutOfBand
