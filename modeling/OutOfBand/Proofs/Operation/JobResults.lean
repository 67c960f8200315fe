import OutOfBand.Proofs.Acceptance
import OutOfBand.Proofs.Operation.Observation
import OutOfBand.Proofs.Text.Segments

/-! # Results of the job service

The results that the job service makes of its replies are judged by what they say of themselves. They say it by the status
of the reply alone: nothing in the body of a reply can make a failure look like a success, or a success like a failure.
What is copied from a reply stands beside the verdict, and a failure never goes without a message.
-/
namespace OutOfBand

open Http

namespace Jobs

/-! ## Calls -/

/-- What is asked of the job service. -/
inductive Call where
  | status (jobId : String)
  | pending
  | delete (jobId : String)
  | deleteAll

namespace Call

def program : Call → Program (Except SessionError Envelope)
  | status jobId => Jobs.status jobId
  | pending => Jobs.pending
  | delete jobId => Jobs.delete jobId
  | deleteAll => Jobs.deleteAll

def isStatus : Call → Bool
  | status _ => true
  | _ => false

/-- What is made of a reply. -/
def result : Call → Envelope → Envelope
  | status jobId, reply => statusResult (Text.trim jobId) reply
  | pending, reply => listingResult reply
  | delete _, reply => deletionResult reply
  | deleteAll, reply => deletionResult reply

variable {call : Call} {reply : Envelope}

theorem reshaped_transcript (spec : RequestSpec) (f : Envelope → Envelope) (s : Session) (wire : Wire) :
    (reshaped spec f).transcript s wire = [⟨spec, (s.execute spec wire).1⟩] := rfl

theorem reshaped_run (spec : RequestSpec) (f : Envelope → Envelope) (s : Session) (wire : Wire) :
    ∀ e ∈ (reshaped spec f).transcript s wire, ∀ reply, e.reply = .ok reply →
      ((reshaped spec f).run s wire).1 = .ok (f reply) := by
  intro e he reply hreply
  rw [reshaped_transcript, List.mem_singleton] at he
  subst he
  have hanswer : (s.execute spec wire).1 = .ok reply := hreply
  change (s.execute spec wire).1.map f = _
  rw [hanswer]
  rfl

/-- Whatever the reply is, a call that is answered ends in what is made of it. -/
theorem run_of_reply (call : Call) (s : Session) (wire : Wire) :
    ∀ e ∈ call.program.transcript s wire, ∀ reply, e.reply = .ok reply →
      (call.program.run s wire).1 = .ok (call.result reply) := by
  cases call with
  | pending => exact reshaped_run _ _ s wire
  | deleteAll => exact reshaped_run _ _ s wire
  | status jobId =>
    simp only [program, Jobs.status]
    cases hid : checkedId jobId with
    | error e => exact fun _ he => absurd he List.not_mem_nil
    | ok id =>
      rw [checkedId_ok hid]
      exact reshaped_run _ _ s wire
  | delete jobId =>
    simp only [program, Jobs.delete]
    cases hid : checkedId jobId with
    | error e => exact fun _ he => absurd he List.not_mem_nil
    | ok id => exact reshaped_run _ _ s wire

/-! ## Results -/

theorem result_of_error (hfailed : reply.isSuccess = false) (hfound : ¬ (call.isStatus = true ∧ reply.status = 404)) :
    call.result reply = errorResult reply := by
  cases call with
  | status jobId =>
    have hfound : ¬ reply.status = 404 := fun hmissing => hfound ⟨rfl, hmissing⟩
    simp only [result, statusResult, hfailed, Bool.false_eq_true, hfound, ↓reduceIte]
  | _ => simp only [result, listingResult, deletionResult, hfailed, Bool.false_eq_true, ↓reduceIte]

/-- What is made of a reply that knows no such job. -/
def notFound (jobId : String) (reply : Envelope) : Envelope :=
  .synthesized reply.status (.ofEntries [("Status", .string "Found Fault"),
    ("Message", .string s!"Job {Text.trim jobId} was not found.")])

theorem result_of_missing (hmissing : reply.status = 404) (jobId : String) :
    (status jobId).result reply = notFound jobId reply := by
  have hfailed : reply.isSuccess = false := by
    rw [Envelope.isSuccess, hmissing]
    rfl
  simp only [result, statusResult, hfailed, hmissing, Bool.false_eq_true, ↓reduceIte]
  rw [notFound, hmissing]

theorem field?_errorResult (reply : Envelope) :
    (errorResult reply).field? "Status" = some "Error" ∧ (errorResult reply).field? "Message" = some reply.diagnostic := by
  simp [errorResult, Envelope.field?_synthesized, List.lookup_cons, Json.text?]

theorem field?_notFound (jobId : String) (reply : Envelope) :
    (notFound jobId reply).field? "Status" = some "Found Fault" ∧
      (notFound jobId reply).field? "Message" = some s!"Job {Text.trim jobId} was not found." := by
  simp [notFound, Envelope.field?_synthesized, List.lookup_cons, Json.text?]

theorem field?_result_of_success (h : reply.isSuccess = true) : (call.result reply).field? "Status" = some "Success" := by
  cases call with
  | status jobId => exact field?_statusResult h _
  | _ =>
    simp [result, listingResult, deletionResult, h, Envelope.field?_synthesized, List.lookup_cons, Json.text?]

/-- A result that is no success says something. -/
theorem exists_message (h : reply.isSuccess = false) :
    ∃ message, (call.result reply).field? "Message" = some message ∧ message ≠ "" := by
  by_cases hmissing : call.isStatus = true ∧ reply.status = 404
  case neg =>
    rw [result_of_error h hmissing]
    exact ⟨_, (field?_errorResult reply).2, reply.diagnostic_ne_empty⟩
  cases call with
  | status jobId =>
    rw [result_of_missing hmissing.2]
    refine ⟨_, (field?_notFound jobId reply).2, Acceptance.ne_empty_of_mem (c := 'J') ?_⟩
    change 'J' ∈ ("Job " ++ Text.trim jobId ++ " was not found.").toList
    simp
  | _ => cases hmissing.1

/-! ## Verdicts -/

/-- What a result says of itself. -/
def verdict (call : Call) (status : Nat) : String :=
  if Http.isSuccess status then "Success"
  else if call.isStatus = true ∧ status = 404 then "Found Fault"
  else "Error"

theorem field?_result (call : Call) (reply : Envelope) :
    (call.result reply).field? "Status" = some (call.verdict reply.status) := by
  rw [verdict]
  split
  case isTrue h => exact field?_result_of_success h
  case isFalse h =>
    split
    case isTrue hmissing =>
      cases call with
      | status jobId =>
        rw [result_of_missing hmissing.2]
        exact (field?_notFound jobId reply).1
      | _ => cases hmissing.1
    case isFalse hfound =>
      rw [result_of_error (Bool.eq_false_iff.mpr h) hfound]
      exact (field?_errorResult reply).1

theorem verdict_eq_success {status : Nat} : call.verdict status = "Success" ↔ 200 ≤ status ∧ status < 300 := by
  have hrange : Http.isSuccess status = true ↔ 200 ≤ status ∧ status < 300 := by simp [Http.isSuccess]
  rw [← hrange, verdict]
  split
  case isTrue h => exact iff_of_true rfl h
  case isFalse h =>
    split
    · exact iff_of_false (by decide) h
    · exact iff_of_false (by decide) h

theorem verdict_eq_foundFault {status : Nat} :
    call.verdict status = "Found Fault" ↔ call.isStatus = true ∧ status = 404 := by
  rw [verdict]
  split
  case isTrue h =>
    refine iff_of_false (by decide) ?_
    rintro ⟨_, rfl⟩
    cases h
  case isFalse =>
    split
    case isTrue h => exact iff_of_true rfl h
    case isFalse h => exact iff_of_false (by decide) h

theorem verdict_eq_error {status : Nat} : call.verdict status = "Error" ↔
    ¬ (200 ≤ status ∧ status < 300) ∧ ¬ (call.isStatus = true ∧ status = 404) := by
  rw [← @verdict_eq_success call status, ← verdict_eq_foundFault, verdict]
  split
  · decide
  · split
    · decide
    · decide

end Call

/-! ## What is copied of a job -/

theorem lookup_copied (value? : String → Option Json) (names : List String) (name : String) :
    List.lookup name (names.filterMap (fun field => (value? field).map (fun value => (field, value)))).reverse =
      if name ∈ names then value? name else none := by
  induction names with
  | nil => rfl
  | cons first rest ih =>
    rw [List.filterMap_cons]
    cases hvalue : value? first with
    | none =>
      rw [Option.map_none, ih]
      by_cases hname : name = first
      · subst hname
        simp [hvalue]
      · simp [hname]
    | some value =>
      have hlast := Fields.get?_concat (rest.filterMap (fun field => (value? field).map (fun value => (field, value)))).reverse
        name first value
      rw [Option.map_some, List.reverse_cons]
      refine hlast.trans ?_
      rw [show Fields.get? _ name = _ from ih]
      by_cases hname : name = first
      · subst hname
        by_cases hrest : name ∈ rest
        · simp [hrest, hvalue]
        · simp [hrest, hvalue]
      · simp [hname]

/-- What a success says of a job: the verdict, and the known fields of the job as they are, with its `Id` for a missing
`InstanceID`. -/
def jobMember? (job : Json) (key : String) : Option Json :=
  if key = "Status" then some (.string "Success")
  else if key = "InstanceID" then (job.member? "InstanceID").or (job.member? "Id")
  else if key ∈ fields then job.member? key
  else none

theorem lookup_jobEntries (body : Json) (key : String) :
    List.lookup key (jobEntries body).reverse =
      if key = "InstanceID" then (body.member? "InstanceID").or (body.member? "Id")
      else if key ∈ fields then body.member? key
      else none := by
  have hcopied := lookup_copied body.member? fields key
  rw [jobEntries, List.reverse_append, List.lookup_append, hcopied]
  by_cases hkey : key = "InstanceID"
  · subst hkey
    have hknown : "InstanceID" ∈ fields := by decide
    cases hown : body.member? "InstanceID" with
    | some value => simp [hknown]
    | none =>
      cases hid : body.member? "Id" with
      | some value => simp
      | none => simp
  · have hnone : ∀ id : Option Json, List.lookup key ((id.map (fun value => ("InstanceID", value))).toList).reverse = none := by
      intro id
      cases id with
      | none => rfl
      | some value => exact (Fields.get?_cons key "InstanceID" value []).trans (if_neg hkey)
    rw [hnone, Option.none_or, if_neg hkey]

theorem member?_statusResult {reply : Envelope} (h : reply.isSuccess = true) (id key : String) :
    (statusResult id reply).body.member? key = jobMember? reply.body key := by
  have hlast := Fields.get?_concat (jobEntries reply.body).reverse key "Status" (.string "Success")
  rw [show Fields.get? (jobEntries reply.body).reverse key = _ from lookup_jobEntries reply.body key] at hlast
  have hbody : (statusResult id reply).body = .ofEntries (("Status", .string "Success") :: jobEntries reply.body) := by
    rw [statusResult, if_pos h]
    rfl
  rw [hbody, Json.member?_ofEntries, List.reverse_cons]
  refine hlast.trans ?_
  rw [jobMember?]
  by_cases hkey : key = "Status"
  · subst hkey
    rfl
  · rw [if_neg hkey, if_neg hkey, Option.or_none]

/-! ## What is listed -/

/-- One id for every member with a link, in the order of the members. -/
inductive Lists : List Json → List Json → Prop
  | nil : Lists [] []
  | linked {member : Json} {link id : String} {members ids : List Json}
      (hlink : member.member? "@odata.id" = some (.string link)) (hid : Text.IsLastSegment link id)
      (h : Lists members ids) : Lists (member :: members) (.string id :: ids)
  | unlinked {member : Json} {members ids : List Json} (hnone : ∀ link, member.member? "@odata.id" ≠ some (.string link))
      (h : Lists members ids) : Lists (member :: members) ids

/-- The members of a collection; a body without an array of them has none. -/
def membersOf (body : Json) : List Json := (body.itemsMember? "Members").getD []

theorem lists_memberIds (body : Json) : Lists (membersOf body) (memberIds body) := by
  have hall : ∀ members : List Json, Lists members (members.filterMap
      (fun member => (member.textMember? "@odata.id").map (fun link => .string (Text.lastSegment link)))) := by
    intro members
    induction members with
    | nil => exact .nil
    | cons member rest ih =>
      rw [List.filterMap_cons]
      cases hlink : member.textMember? "@odata.id" with
      | none =>
        refine .unlinked (fun link hmember => ?_) ih
        rw [Json.textMember?, hmember] at hlink
        cases hlink
      | some link => exact .linked (Json.textMember?_eq_some_iff.mp hlink) (Text.lastSegment_isLastSegment link) ih
  exact hall (membersOf body)

/-! ## Replies and results -/

/-- The result tells how the reply came out, and what the reply says of itself has no part in it. -/
structure Mirrors (call : Call) (reply result : Envelope) : Prop where
  status : result.status = reply.status
  isObject : ∃ members, result.body = .object members
  success : result.field? "Status" = some "Success" ↔ 200 ≤ reply.status ∧ reply.status < 300
  foundFault : result.field? "Status" = some "Found Fault" ↔ call.isStatus = true ∧ reply.status = 404
  error : result.field? "Status" = some "Error" ↔
    ¬ (200 ≤ reply.status ∧ reply.status < 300) ∧ ¬ (call.isStatus = true ∧ reply.status = 404)
  accepted : Acceptance.driverResult.accepts result = Acceptance.httpStatus.accepts result
  message : result.field? "Status" ≠ some "Success" →
    ∃ message, result.field? "Message" = some message ∧ message ≠ ""
  job : call.isStatus = true → result.field? "Status" = some "Success" →
    ∀ key, result.body.member? key = jobMember? reply.body key
  listing : call = .pending → result.field? "Status" = some "Success" →
    ∃ ids, result.body.member? "Jobs" = some (.array ids) ∧ Lists (membersOf reply.body) ids

namespace Call

variable {call : Call} {reply : Envelope}

theorem result_shape (call : Call) (reply : Envelope) :
    (call.result reply).status = reply.status ∧ ∃ members, (call.result reply).body = .object members := by
  cases hsuccess : reply.isSuccess with
  | true =>
    cases call with
    | status jobId =>
      simp only [result, statusResult, hsuccess, ↓reduceIte]
      exact ⟨rfl, _, rfl⟩
    | _ =>
      simp only [result, listingResult, deletionResult, hsuccess, ↓reduceIte]
      exact ⟨rfl, _, rfl⟩
  | false =>
    by_cases hmissing : call.isStatus = true ∧ reply.status = 404
    · cases call with
      | status jobId =>
        rw [result_of_missing hmissing.2]
        exact ⟨rfl, _, rfl⟩
      | _ => cases hmissing.1
    · rw [result_of_error hsuccess hmissing]
      exact ⟨rfl, _, rfl⟩

theorem isSuccess_of_field? (h : (call.result reply).field? "Status" = some "Success") : reply.isSuccess = true := by
  rw [field?_result, Option.some.injEq, verdict_eq_success] at h
  simpa [Envelope.isSuccess, Http.isSuccess] using h

theorem accepts_result (call : Call) (reply : Envelope) :
    Acceptance.driverResult.accepts (call.result reply) = Acceptance.httpStatus.accepts (call.result reply) := by
  have hstatus : (call.result reply).isSuccess = reply.isSuccess := congrArg Http.isSuccess (result_shape call reply).1
  have hdriver : Acceptance.driverResult.accepts (call.result reply) = true ↔
      (call.result reply).field? "Status" = some "Success" := beq_iff_eq
  change _ = (call.result reply).isSuccess
  rw [hstatus, Bool.eq_iff_iff, hdriver]
  exact ⟨isSuccess_of_field?, field?_result_of_success⟩

theorem result_mirrors (call : Call) (reply : Envelope) : Mirrors call reply (call.result reply) where
  status := (result_shape call reply).1
  isObject := (result_shape call reply).2
  success := by rw [field?_result, Option.some.injEq, verdict_eq_success]
  foundFault := by rw [field?_result, Option.some.injEq, verdict_eq_foundFault]
  error := by rw [field?_result, Option.some.injEq, verdict_eq_error]
  accepted := accepts_result call reply
  message h := by
    refine exists_message (Bool.eq_false_iff.mpr fun hsuccess => h ?_)
    exact field?_result_of_success hsuccess
  job hcall h := by
    cases call with
    | status jobId => exact member?_statusResult (isSuccess_of_field? h) _
    | _ => cases hcall
  listing hcall h := by
    subst hcall
    have hsuccess := isSuccess_of_field? h
    refine ⟨memberIds reply.body, ?_, lists_memberIds reply.body⟩
    simp [result, listingResult, hsuccess, Envelope.synthesized, Json.member?_ofEntries]

/-- Every call that gets a complete reply ends in a result that mirrors it, under whatever status and with whatever body
the reply came. -/
theorem run_mirrors (call : Call) (s : Session) (wire : Wire) :
    ∀ e ∈ call.program.transcript s wire, ∀ reply, e.reply = .ok reply →
      ∃ result, (call.program.run s wire).1 = .ok result ∧ Mirrors call reply result := by
  intro e he reply hreply
  exact ⟨call.result reply, run_of_reply call s wire e he reply hreply, result_mirrors call reply⟩

theorem exists_answered (config : SessionConfig) (wire : Wire) (spec : RequestSpec) (status : Nat) (text : String)
    (h : ((Session.open FileTree.empty config wire).1.toOption.bind fun s =>
      (s.execute spec (Session.open FileTree.empty config wire).2).1.toOption.map
        fun reply => (reply.status, reply.raw)) = some (status, text)) :
    ∃ s opened reply, Session.open FileTree.empty config wire = (.ok s, opened) ∧
      (s.execute spec opened).1 = .ok reply ∧ reply.status = status ∧ reply.raw = text := by
  obtain ⟨s, hs, hanswer⟩ := Option.bind_eq_some_iff.mp h
  obtain ⟨reply, hreply, hparts⟩ := Option.map_eq_some_iff.mp hanswer
  cases hparts
  refine ⟨s, (Session.open FileTree.empty config wire).2, reply, ?_, eq_ok_of_toOption hreply, rfl, rfl⟩
  exact Prod.ext (eq_ok_of_toOption hs) rfl

/-- A refusal that calls itself a success and has an empty message. -/
theorem run_mirrors_pretender :
    let config : SessionConfig := ⟨⟨"127.0.0.1", 443, .http, .system, 30000⟩, .token "t", .redfish, none⟩
    let text := "\x7b\"Status\":\"Success\",\"Message\":\"\",\"error\":\x7b\x7d\x7d"
    let wire : Wire := ⟨⟨.ipv4 0x7F000001, 443, true, none, [.answer 409 [] (Text.encodeUtf8 text)]⟩, []⟩
    ∃ s opened reply result, Session.open FileTree.empty config wire = (.ok s, opened) ∧
      Call.deleteAll.program.transcript s opened = [⟨deletionRequest everyJob, .ok reply⟩] ∧
      reply.status = 409 ∧ reply.raw = text ∧ (Call.deleteAll.program.run s opened).1 = .ok result ∧
      Mirrors .deleteAll reply result ∧ result.field? "Status" = some "Error" := by
  intro config text wire
  obtain ⟨s, opened, reply, hopened, hreply, hstatus, hraw⟩ :=
    exists_answered config wire (deletionRequest everyJob) 409 text (by decide +kernel)
  have htranscript : Call.deleteAll.program.transcript s opened = [⟨deletionRequest everyJob, .ok reply⟩] := by
    rw [← hreply]
    rfl
  obtain ⟨result, hrun, hmirrors⟩ := run_mirrors .deleteAll s opened ⟨deletionRequest everyJob, .ok reply⟩
    (by rw [htranscript]; exact List.mem_singleton_self _) reply rfl
  refine ⟨s, opened, reply, result, hopened, htranscript, hstatus, hraw, hrun, hmirrors, hmirrors.error.mpr ?_⟩
  rw [hstatus]
  decide

end Call

end Jobs

end OutOfBand
