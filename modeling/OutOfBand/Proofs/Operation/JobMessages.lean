import OutOfBand.Proofs.Diagnostic
import OutOfBand.Proofs.Operation.JobResults
import OutOfBand.Proofs.Operation.Refusals

/-! # Message ids in results of the job service

A message id is what a program can go by when a job has failed. Jobs have it under one of two spellings, replies to
deletions have it in their first info, and error objects in theirs. A result has it under one spelling, and not in every
case: a job is read for that spelling alone, and of an error object in which anything has another type nothing is used.
-/
namespace OutOfBand

open Json Http

/-! ## Infos that have been read -/

namespace Http

theorem ExtendedInfo.eq_of_fieldOr {seen : Object} {name : String} {found : Option String}
    (h : fieldOr seen name (optional text) none = .ok found) : found = (Json.object seen).textMember? name := by
  rw [fieldOr] at h
  rw [textMember?, member?]
  cases hvalue : Fields.get? seen name with
  | none =>
    rw [hvalue] at h
    cases h
    rfl
  | some value =>
    rw [hvalue] at h
    have hread : optional text value = .ok found := h
    rw [optional_text (isTextOrNull_of_ok hread)] at hread
    cases hread
    rfl

/-- The message id of an info is the member of that name. -/
theorem ExtendedInfo.decode_messageId {members : Object} {i : ExtendedInfo} (h : decode (.object members) = .ok i) :
    i.messageId = (Json.object members).textMember? "MessageId" := by
  obtain ⟨seen, hseen, h⟩ := bind_eq_ok h
  obtain ⟨message, _, h⟩ := bind_eq_ok h
  obtain ⟨messageId, hid, h⟩ := bind_eq_ok h
  obtain ⟨resolution, _, h⟩ := bind_eq_ok h
  obtain ⟨severity, _, h⟩ := bind_eq_ok h
  cases h
  have hrule : optionalText "MessageId" ∈ shape.fields := by simp [shape]
  have hsame : Fields.get? seen "MessageId" = Fields.get? members "MessageId" :=
    RecordShape.HasOneNameEach.get?_eq (by decide) hseen hrule
  rw [eq_of_fieldOr hid, textMember?, textMember?, member?, member?, hsame]

/-- The first info that has been read is the first that is given. -/
theorem VendorError.decode_firstInfo {error : Object} {v : VendorError} (h : decode (.object error) = .ok v) {info : Json}
    (hinfo : firstInfo? error = some info) : ∃ i, ExtendedInfo.decode info = .ok i ∧ v.extendedInfo.head? = some i := by
  obtain ⟨items, hitems, hhead⟩ := Option.bind_eq_some_iff.mp hinfo
  obtain ⟨rest, rfl⟩ : ∃ rest, items = info :: rest := by
    cases items with
    | nil => cases hhead
    | cons first rest =>
      cases hhead
      exact ⟨rest, rfl⟩
  obtain ⟨seen, hseen, h⟩ := bind_eq_ok h
  obtain ⟨code, _, h⟩ := bind_eq_ok h
  obtain ⟨message, _, h⟩ := bind_eq_ok h
  obtain ⟨infos, hinfos, h⟩ := bind_eq_ok h
  cases h
  have hrule : infosRule ∈ shape.fields := by simp [shape, infosRule]
  have hsame : Fields.get? seen infosKey = Fields.get? error infosKey :=
    RecordShape.HasOneNameEach.get?_eq (by decide) hseen hrule
  have hgiven : Fields.get? error infosKey = some (.array (info :: rest)) := itemsMember?_eq_some_iff.mp hitems
  rw [fieldOr, hsame, hgiven] at hinfos
  have hread : (info :: rest).mapM ExtendedInfo.decode = .ok infos := hinfos
  rw [List.mapM_cons] at hread
  obtain ⟨i, hi, hread⟩ := bind_eq_ok hread
  obtain ⟨others, _, hread⟩ := bind_eq_ok hread
  cases hread
  exact ⟨i, hi, rfl⟩

theorem Envelope.IsRead.isOrdered {e : Envelope} (h : e.IsRead) : e.body.IsOrdered := by
  rw [h.body_eq]
  cases hread : Json.read? e.raw with
  | none => exact trivial
  | some value => exact isOrdered_of_read? hread

end Http

namespace Jobs

/-! ## Error objects -/

/-- The message id of the first info. -/
def firstMessageId? (value : Json) : Option String :=
  ((value.itemsMember? VendorError.infosKey).bind List.head?).bind (·.textMember? "MessageId")

variable {reply : Envelope} {error : Object} {id : String}

theorem vendorMessageId_of_wellTyped (hordered : reply.body.IsOrdered) (herror : reply.error? = some error)
    (htyped : VendorError.IsWellTyped error) (hid : firstMessageId? (.object error) = some id) :
    vendorMessageId reply = .string id := by
  obtain ⟨v, hv, _⟩ := htyped.decode_ok (Envelope.isOrdered_error hordered herror)
  obtain ⟨info, hinfo, hid⟩ := Option.bind_eq_some_iff.mp hid
  obtain ⟨i, hi, hhead⟩ := VendorError.decode_firstInfo hv hinfo
  -- an info with a member of that name is an object
  cases info with
  | object members =>
    rw [vendorMessageId, Envelope.vendorError?_of_error herror, hv]
    change Json.ofOption .string ((v.extendedInfo.head?).bind ExtendedInfo.messageId) = _
    rw [hhead, Option.bind_some, ExtendedInfo.decode_messageId hi, hid]
    rfl
  | _ => cases hid

theorem vendorMessageId_of_mistyped (herror : reply.error? = some error) (hmistyped : ¬ VendorError.IsWellTyped error) :
    vendorMessageId reply = .null := by
  rw [vendorMessageId, Envelope.vendorError?_of_mistyped herror hmistyped]
  rfl

/-! ## Results -/

namespace Call

def isDeletion : Call → Bool
  | delete _ => true
  | deleteAll => true
  | _ => false

/-- The reply reports a message id: in a job under either spelling, of a deletion in the first info, and of a refusal in
the first info of its error object. -/
inductive Reports : Call → Envelope → String → Prop
  | job {jobId : String} {reply : Envelope} {key id : String} (hsuccess : reply.isSuccess = true)
      (hkey : key = "MessageID" ∨ key = "MessageId") (hid : reply.body.textMember? key = some id) :
      Reports (.status jobId) reply id
  | deletion {call : Call} {reply : Envelope} {id : String} (hcall : call.isDeletion = true)
      (hsuccess : reply.isSuccess = true) (hid : firstMessageId? reply.body = some id) : Reports call reply id
  | refusal {call : Call} {reply : Envelope} {error : Object} {id : String} (hfailed : reply.isSuccess = false)
      (hfound : ¬ (call.isStatus = true ∧ reply.status = 404)) (herror : reply.error? = some error)
      (hid : firstMessageId? (.object error) = some id) : Reports call reply id

/-- The id does not come through: it is that of a job and stands under the other spelling, or something in the error object
that has it is of another type. -/
def Loses (call : Call) (reply : Envelope) (id : String) : Prop :=
  (call.isStatus = true ∧ reply.isSuccess = true ∧ reply.body.textMember? "MessageID" ≠ some id) ∨
    (reply.isSuccess = false ∧ ∃ error, reply.error? = some error ∧ ¬ VendorError.IsWellTyped error)

theorem field?_messageId_job (hsuccess : reply.isSuccess = true) (jobId : String) :
    ((status jobId).result reply).field? "MessageID" = reply.body.textMember? "MessageID" :=
  congrArg (· >>= text?) (member?_statusResult hsuccess (Text.trim jobId) "MessageID")

theorem field?_messageId_deletion {call : Call} (hcall : call.isDeletion = true) (hsuccess : reply.isSuccess = true)
    (hid : firstMessageId? reply.body = some id) : (call.result reply).field? "MessageID" = some id := by
  obtain ⟨info, hinfo, hid⟩ := Option.bind_eq_some_iff.mp hid
  have hmember : info.member? "MessageId" = some (.string id) := textMember?_eq_some_iff.mp hid
  have hresult : (deletionResult reply).field? "MessageID" = some id := by
    simp [deletionResult, hsuccess, infosKey, hinfo, hmember, Envelope.field?_synthesized, List.lookup_cons, text?]
  cases call with
  | status jobId => cases hcall
  | pending => cases hcall
  | delete jobId => exact hresult
  | deleteAll => exact hresult

theorem field?_messageId_error (reply : Envelope) :
    (errorResult reply).field? "MessageID" = (vendorMessageId reply).text? := by
  simp [errorResult, Envelope.field?_synthesized, List.lookup_cons]

theorem result_keeps_messageId {call : Call} (hordered : reply.body.IsOrdered) (h : Reports call reply id) :
    (call.result reply).field? "MessageID" = some id ↔ ¬ Loses call reply id := by
  cases h with
  | job hsuccess hkey hid =>
    rw [field?_messageId_job hsuccess, Loses, hsuccess]
    simp [isStatus]
  | deletion hcall hsuccess hid =>
    refine iff_of_true (field?_messageId_deletion hcall hsuccess hid) ?_
    rintro (⟨hstatus, _⟩ | ⟨hfailed, _⟩)
    · cases call with
      | status jobId => cases hcall
      | _ => cases hstatus
    · rw [hsuccess] at hfailed
      cases hfailed
  | @refusal _ _ error _ hfailed hfound herror hid =>
    rw [result_of_error hfailed hfound, field?_messageId_error]
    by_cases htyped : VendorError.IsWellTyped error
    · rw [vendorMessageId_of_wellTyped hordered herror htyped hid]
      refine iff_of_true rfl ?_
      rintro (⟨_, hsuccess, _⟩ | ⟨_, other, hother, hmistyped⟩)
      · rw [hfailed] at hsuccess
        cases hsuccess
      · rw [herror] at hother
        cases hother
        exact hmistyped htyped
    · rw [vendorMessageId_of_mistyped herror htyped]
      exact iff_of_false (fun h => by cases h) (not_not_intro (Or.inr ⟨hfailed, error, herror, htyped⟩))

/-- A message id that a complete reply reports is in the result, under its one spelling, unless it belongs to a job that
has it under the other or to an error object in which anything has another type. -/
theorem run_keeps_messageId (call : Call) (s : Session) (wire : Wire) :
    ∀ e ∈ call.program.transcript s wire, ∀ reply, e.reply = .ok reply →
      ∃ result, (call.program.run s wire).1 = .ok result ∧
        ∀ id, Reports call reply id → (result.field? "MessageID" = some id ↔ ¬ Loses call reply id) := by
  intro e he reply hreply
  have hordered := (call.program.transcript_isRead s wire e he reply hreply).isOrdered
  exact ⟨call.result reply, run_of_reply call s wire e he reply hreply, fun id => result_keeps_messageId hordered⟩

/-- A refusal to clear the queue. -/
theorem run_keeps_messageId_refusal :
    let config : SessionConfig := ⟨⟨"127.0.0.1", 443, .http, .system, 30000⟩, .token "t", .redfish, none⟩
    let text := "\x7b\"error\":\x7b\"@Message.ExtendedInfo\":[\x7b\"MessageId\":\"SYS403\"\x7d]\x7d\x7d"
    let wire : Wire := ⟨⟨.ipv4 0x7F000001, 443, true, none, [.answer 409 [] (Text.encodeUtf8 text)]⟩, []⟩
    ∃ s opened reply result, Session.open FileTree.empty config wire = (.ok s, opened) ∧
      Call.deleteAll.program.transcript s opened = [⟨deletionRequest everyJob, .ok reply⟩] ∧
      Reports .deleteAll reply "SYS403" ∧ ¬ Loses .deleteAll reply "SYS403" ∧
      (Call.deleteAll.program.run s opened).1 = .ok result ∧ result.field? "MessageID" = some "SYS403" := by
  intro config text wire
  obtain ⟨s, opened, reply, hopened, hreply, hstatus, hraw⟩ :=
    exists_answered config wire (deletionRequest everyJob) 409 text (by decide +kernel)
  have htranscript : Call.deleteAll.program.transcript s opened = [⟨deletionRequest everyJob, .ok reply⟩] := by
    rw [← hreply]
    rfl
  have hbody : reply.body = (Envelope.ofReply 409 [] text).body := by
    rw [Session.execute_isRead hreply, hraw]
    rfl
  have hfailed : reply.isSuccess = false := by
    rw [Envelope.isSuccess, hstatus]
    rfl
  have hfound : (reply.error?.bind fun error => firstMessageId? (.object error)) = some "SYS403" := by
    rw [Envelope.error?, hbody]
    decide +kernel
  obtain ⟨error, herror, hid⟩ := Option.bind_eq_some_iff.mp hfound
  have hread : (reply.error?.bind fun error => (VendorError.decode (.object error)).toOption).isSome = true := by
    rw [Envelope.error?, hbody]
    decide +kernel
  have htyped : VendorError.IsWellTyped error := by
    rw [herror, Option.bind_some] at hread
    obtain ⟨v, hv⟩ := Option.isSome_iff_exists.mp hread
    exact VendorError.isWellTyped_of_decode (eq_ok_of_toOption hv)
  have hreports : Reports .deleteAll reply "SYS403" := .refusal hfailed (fun h => by cases h.1) herror hid
  have hkept : ¬ Loses .deleteAll reply "SYS403" := by
    rintro (⟨hstatus, _⟩ | ⟨_, other, hother, hmistyped⟩)
    · cases hstatus
    · rw [herror] at hother
      cases hother
      exact hmistyped htyped
  obtain ⟨result, hrun, hkeeps⟩ := run_keeps_messageId .deleteAll s opened ⟨deletionRequest everyJob, .ok reply⟩
    (by rw [htranscript]; exact List.mem_singleton_self _) reply rfl
  exact ⟨s, opened, reply, result, hopened, htranscript, hreports, hkept, hrun, (hkeeps "SYS403" hreports).mpr hkept⟩

/-- The id of a job in the other spelling, and that of an error object in which a severity is a number. -/
theorem run_loses_messageId :
    let config : SessionConfig := ⟨⟨"127.0.0.1", 443, .http, .system, 30000⟩, .token "t", .redfish, none⟩
    let told (call : Call) (status : Nat) (text : String) : Option (Option String) :=
      ((withSession FileTree.empty config call.program
        ⟨⟨.ipv4 0x7F000001, 443, true, none, [.answer status [] (Text.encodeUtf8 text)]⟩, []⟩).1.toOption.bind
          Except.toOption).map (·.field? "MessageID")
    let job := "\x7b\"Id\":\"JID_1\",\"MessageId\":\"JCP001\"\x7d"
    let refusal := "\x7b\"error\":\x7b\"@Message.ExtendedInfo\":[\x7b\"MessageId\":\"SYS403\",\"Severity\":3\x7d]\x7d\x7d"
    Reports (.status "JID_1") (.ofReply 200 [] job) "JCP001" ∧ told (.status "JID_1") 200 job = some none ∧
      Reports (.delete "JID_1") (.ofReply 400 [] refusal) "SYS403" ∧ told (.delete "JID_1") 400 refusal = some none := by
  intro config told job refusal
  have hjob : Reports (.status "JID_1") (.ofReply 200 [] job) "JCP001" :=
    .job rfl (Or.inr rfl) (by decide +kernel)
  have hrefusal : Reports (.delete "JID_1") (.ofReply 400 [] refusal) "SYS403" := by
    have herror : ((Envelope.ofReply 400 [] refusal).error?.bind (fun error => firstMessageId? (.object error))) =
        some "SYS403" := by decide +kernel
    obtain ⟨error, herror, hid⟩ := Option.bind_eq_some_iff.mp herror
    exact .refusal rfl (fun h => by cases h.1) herror hid
  exact ⟨hjob, by decide +kernel, hrefusal, by decide +kernel⟩

end Call

end Jobs

end OutOfBand
