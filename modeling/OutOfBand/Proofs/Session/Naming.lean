import OutOfBand.Proofs.Session.Lifecycle

/-! # The name of a session

A device names the session that a login has created in the body of its reply or by a location. The name is kept
until the session is closed, and the deletion goes to the path of that name. A name in the body is taken as it is.
From a location the last segment is taken: on Redfish this is the name, on OpenManage Enterprise it is more than
that, so there the deletion misses a session that only a location has named.
-/
namespace OutOfBand

open Http

namespace Session

/-! ## Names -/

/-- The body of the reply names the session. -/
def NamesInBody (reply : Envelope) (id : String) : Prop :=
  reply.body.textMember? "Id" = some id ∨ ∃ n, reply.body.member? "Id" = some (.number n) ∧ n.render = id

/-- The body of the reply names no session, and its location is the session's own path. Scheme and host may stand
before it and slashes behind it. -/
def NamesByLocation (family : Family) (reply : Envelope) (id : String) : Prop :=
  reply.body.member? "Id" = none ∧ ∃ path front slashes : String, family.sessionDeletePath? id = some path ∧
    reply.headers.text? "location" = some (front ++ path ++ slashes) ∧ ∀ c ∈ slashes.toList, c = '/'

/-- What is taken for the name of a session from the path that it has. -/
def locatedName (family : Family) (id : String) : String :=
  match family with
  | .ome => s!"Sessions('{id}')"
  | _ => id

theorem locatedName_ome_toList (id : String) :
    (locatedName .ome id).toList = "Sessions('".toList ++ (id.toList ++ "')".toList) := by
  show ("Sessions('" ++ id ++ "')").toList = _
  rw [String.toList_append, String.toList_append, List.append_assoc]

theorem locatedName_eq_iff (family : Family) (id : String) : locatedName family id = id ↔ family ≠ .ome := by
  cases family with
  | ome =>
    have hlonger : (locatedName .ome id).toList.length = id.toList.length + 12 := by
      rw [locatedName_ome_toList, List.length_append, List.length_append]
      simp
      omega
    constructor
    · intro h
      rw [h] at hlonger
      omega
    · intro h
      exact absurd rfl h
  | _ => simp [locatedName]

/-- The path of a session ends in the segment that is taken for its name. -/
theorem sessionDeletePath?_eq_append {family : Family} {id path : String} (h : family.sessionDeletePath? id = some path) :
    ∃ parent, path = parent ++ "/" ++ locatedName family id := by
  cases family with
  | redfish =>
    cases h
    exact ⟨"/redfish/v1/SessionService/Sessions", rfl⟩
  | ome =>
    cases h
    refine ⟨"/api/SessionService", ?_⟩
    have hpath : ("/api/SessionService/Sessions('" ++ id ++ "')").toList =
        ("/api/SessionService" ++ "/" ++ locatedName .ome id).toList := by
      simp only [String.toList_append, locatedName_ome_toList]
      simp
    exact String.toList_inj.mp hpath
  | omevv => cases h

theorem locatedName_segment (family : Family) {id : String} (hid : id ≠ "") (hslash : '/' ∉ id.toList) :
    locatedName family id ≠ "" ∧ '/' ∉ (locatedName family id).toList := by
  cases family with
  | ome =>
    constructor
    · intro h
      have hnil := locatedName_ome_toList id
      rw [h] at hnil
      simp at hnil
    · rw [locatedName_ome_toList]
      simp [hslash]
  | _ => exact ⟨hid, hslash⟩

theorem NamesInBody.givesId {reply : Envelope} {id : String} (h : NamesInBody reply id) : GivesId reply id := by
  rcases h with htext | ⟨n, hnumber, rfl⟩
  · simp only [Json.textMember?, Option.bind_eq_bind, Option.bind_eq_some_iff] at htext
    obtain ⟨value, hvalue, hid⟩ := htext
    cases value with
    | string s =>
      cases hid
      exact .text hvalue
    | _ => cases hid
  · exact .number hnumber

theorem NamesByLocation.givesId {family : Family} {reply : Envelope} {id : String} (h : NamesByLocation family reply id)
    (hid : id ≠ "") (hslash : '/' ∉ id.toList) : GivesId reply (locatedName family id) := by
  obtain ⟨hnone, path, front, slashes, hpath, hlocation, hslashes⟩ := h
  obtain ⟨parent, rfl⟩ := sessionDeletePath?_eq_append hpath
  obtain ⟨hne, hnot⟩ := locatedName_segment family hid hslash
  refine .location (fun text => by simp [hnone]) (fun n => by simp [hnone]) hlocation ?_ hne
  refine ⟨(front ++ parent).toList ++ ['/'], slashes.toList, ?_, hnot, hslashes, Or.inr ⟨hne, _, rfl⟩⟩
  simp

/-! ## Deletions -/

/-- The attempts are one deletion, of the session that has this id, if the client takes its URL. -/
def DeletesSession (config : SessionConfig) (client : Client) (id : String) (sent : List Attempt) : Prop :=
  ∃ base path url, config.endpoint.baseUrl = .ok base ∧ config.family.sessionDeletePath? id = some path ∧
    base.join path = .ok url ∧
    if client.takes url.withoutUserInfo then
      ∃ a, sent = [a] ∧ a.request.method = "DELETE" ∧ a.request.url = url.withoutUserInfo
    else sent = []

theorem Releases.deletesSession {config : SessionConfig} {client : Client} {id : String} {sent : List Attempt}
    (h : Releases config client id sent) : DeletesSession config client id sent := by
  obtain ⟨request, ⟨base, token, path, url, hbase, hpath, hurl, hrequest⟩, hsent⟩ := h
  obtain ⟨_, hmethod, haddress, _⟩ := compose_ok hrequest
  refine ⟨base, path, url, hbase, hpath, hurl, ?_⟩
  rw [← haddress]
  split at hsent
  case isTrue htaken =>
    rw [if_pos htaken]
    obtain ⟨a, rest, rfl, rfl, hrest⟩ := List.map_eq_cons_iff.mp hsent
    obtain rfl := List.map_eq_nil_iff.mp hrest
    exact ⟨a, rfl, hmethod, rfl⟩
  case isFalse hrefused =>
    rw [if_neg hrefused]
    exact List.map_eq_nil_iff.mp hsent

theorem createdSession?_of_reply {files : FileTree} {config : SessionConfig} {wire : Wire} {reply : Envelope}
    (hreply : loginReply? files config wire = some reply) (hgrants : grantsToken reply = true) :
    createdSession? files config wire = createdId? reply := by
  simp only [createdSession?, hreply, Option.filter_some, hgrants, ↓reduceIte, Option.bind_some]

end Session

open Session

variable {α : Type}

/-- What a run sends last is the deletion of the session that its login has created, if that has a name. -/
theorem withSession_closing (files : FileTree) (config : SessionConfig) (body : Program α) (wire : Wire) :
    ∃ before closing : List Attempt, (withSession files config body wire).2.attempts = wire.attempts ++ before ++ closing ∧
      (∀ a ∈ before, ∀ id, ¬ IsDeletion config id a.request) ∧
      match createdSession? files config wire with
      | some id => Releases config wire.client id closing
      | none => closing = [] := by
  obtain ⟨opening, hopening, _, hlogin⟩ := open_sent files config wire
  have hnotDeletion : ∀ a ∈ opening, ∀ id, ¬ IsDeletion config id a.request :=
    fun a ha id => (hlogin a ha).not_isDeletion id
  have hresult := open_result files config wire
  have hclient := open_client files config wire
  rcases ho : Session.open files config wire with ⟨shown, opened⟩
  rw [ho] at hopening hresult hclient
  cases shown with
  | error e =>
    refine ⟨opening, [], ?_, hnotDeletion, ?_⟩
    · simpa only [withSession, ho, List.append_nil] using hopening
    · rw [hresult]
  | ok s =>
    obtain ⟨hs, hcreated⟩ := hresult
    obtain ⟨work, hwork, hasks⟩ := body.untilClosed_sent s opened
    obtain ⟨closing, hclosing, hrelease⟩ := hs.close_sent (body.untilClosed s opened).2
    rw [(body.untilClosed_client s opened).trans hclient, hcreated] at hrelease
    refine ⟨opening ++ work, closing, ?_, fun a ha => ?_, hrelease⟩
    · simp only [withSession, ho, (body.run_close s opened).2]
      rw [hclosing, hwork, hopening, List.append_assoc wire.attempts]
    · rcases List.mem_append.mp ha with ha | ha
      · exact hnotDeletion a ha
      · exact fun id hdelete => hdelete.not_asksForJson (hasks a ha)

/-- The session that is deleted is the one that the login reply names. Where the body names it, that is the session
itself. Where only its location does, it is the session that has the last segment of the location for its name, which
on OpenManage Enterprise is never the session itself, and otherwise always. Nothing else is deleted. -/
theorem withSession_deletes_named (files : FileTree) (config : SessionConfig) (body : Program α) (wire : Wire)
    {reply : Envelope} (hreply : loginReply? files config wire = some reply) (hgrants : grantsToken reply = true)
    {id : String} (hid : id ≠ "") (hslash : '/' ∉ id.toList) :
    ∃ before closing : List Attempt, (withSession files config body wire).2.attempts = wire.attempts ++ before ++ closing ∧
      (∀ a ∈ before, ∀ other, ¬ IsDeletion config other a.request) ∧
      (NamesInBody reply id → DeletesSession config wire.client id closing) ∧
      (NamesByLocation config.family reply id →
        DeletesSession config wire.client (locatedName config.family id) closing) ∧
      (locatedName config.family id = id ↔ config.family ≠ .ome) := by
  obtain ⟨before, closing, hattempts, hbefore, hclosing⟩ := withSession_closing files config body wire
  have hdeletes : ∀ name, GivesId reply name → DeletesSession config wire.client name closing := by
    intro name hname
    rw [createdSession?_of_reply hreply hgrants, createdId?_eq_some_iff.mpr hname] at hclosing
    exact hclosing.deletesSession
  refine ⟨before, closing, hattempts, hbefore, fun hnames => ?_, fun hnames => ?_, locatedName_eq_iff config.family id⟩
  · exact hdeletes id hnames.givesId
  · exact hdeletes _ (hnames.givesId hid hslash)

/-- A session that the body names. -/
theorem withSession_deletes_named_seven :
    let config : SessionConfig := ⟨⟨"127.0.0.1", 443, .http, .system, 30000⟩, .basic "root" "calvin", .ome, none⟩
    let device : Device := ⟨.ipv4 0x7F000001, 443, true, none,
      [.answer 201 [("x-auth-token", "t")] (Text.encodeUtf8 "\x7b\"Id\": \"7\"\x7d"), .answer 204 [] []]⟩
    (loginReply? FileTree.empty config ⟨device, []⟩).any
        (fun reply => grantsToken reply && reply.body.textMember? "Id" == some "7") = true ∧
      ∃ before closing : List Attempt,
        (withSession FileTree.empty config (Program.done ()) ⟨device, []⟩).2.attempts = [] ++ before ++ closing ∧
        DeletesSession config Client.standard "7" closing := by
  intro config device
  have hany : (loginReply? FileTree.empty config ⟨device, []⟩).any
      (fun reply => grantsToken reply && reply.body.textMember? "Id" == some "7") = true := by
    decide +kernel
  obtain ⟨reply, hreply, hnamed⟩ := Option.any_eq_true _ _ |>.mp hany
  rw [Bool.and_eq_true, beq_iff_eq] at hnamed
  have hseven : "7" ≠ "" := by decide
  obtain ⟨before, closing, hattempts, _, hbody, _⟩ := withSession_deletes_named FileTree.empty config (Program.done ())
    ⟨device, []⟩ hreply hnamed.1 hseven (by decide)
  exact ⟨hany, before, closing, hattempts, hbody (Or.inl hnamed.2)⟩

/-- A session that only its location names, on OpenManage Enterprise: the deletion goes somewhere else. -/
theorem withSession_misses_located :
    let config : SessionConfig := ⟨⟨"127.0.0.1", 443, .http, .system, 30000⟩, .basic "root" "calvin", .ome, none⟩
    let device : Device := ⟨.ipv4 0x7F000001, 443, true, none,
      [.answer 201 [("x-auth-token", "t"), ("location", "/api/SessionService/Sessions('42')")] [], .answer 204 [] []]⟩
    config.family.sessionDeletePath? "42" = some "/api/SessionService/Sessions('42')" ∧
      (withSession FileTree.empty config (Program.done ()) ⟨device, []⟩).2.attempts.map
          (fun a => (a.request.method, a.request.url.target)) =
        [("POST", "/api/SessionService/Sessions"), ("DELETE", "/api/SessionService/Sessions('Sessions('42')')")] := by
  decide +kernel

end OutOfBand
