import OutOfBand.Proofs.Json.Equality
import OutOfBand.Proofs.Json.RoundTrip
import OutOfBand.Proofs.Operation.Trouble

/-! # What a refusal hands back

Resets, the inventory setting and the two listings stop at a reply with an error status and hand back what it says: its
body, or its text if that is no JSON. There are two exceptions. A text that is the JSON null is taken for a text, and of
a system that does not exist only a body is handed back.
-/
namespace OutOfBand

open Http Session

variable {α β : Type}

/-! ## Replies as they are read -/

namespace Json

theorem readValue_of_blank {s : List Char} (h : s.all Text.isBlank = true) (depth fuel : Nat) :
    ∃ fault, readValue depth fuel s = .error fault := by
  cases fuel with
  | zero => exact ⟨_, rfl⟩
  | succ fuel =>
    rw [readValue]
    cases hskip : skipSpace s with
    | nil => exact ⟨_, rfl⟩
    | cons c rest =>
      have hmem : c ∈ s := by
        have hsuffix : skipSpace s <:+ s := List.dropWhile_suffix isSpace
        exact hsuffix.subset (by rw [hskip]; exact List.mem_cons_self)
      have hblank : Text.isBlank c = true := List.all_eq_true.mp h c hmem
      have hne : ∀ {d : Char}, Text.isBlank d = false → c ≠ d := by
        rintro d hd rfl
        rw [hblank] at hd
        cases hd
      have hdigit : ¬ c.isDigit = true := fun hdigit => by
        rw [isBlank_digit hdigit] at hblank
        cases hblank
      simp only [if_neg (hne (d := 'n') rfl), if_neg (hne (d := 't') rfl), if_neg (hne (d := 'f') rfl),
        if_neg (hne (d := '-') rfl), if_neg hdigit, if_neg (hne (d := '"') rfl), if_neg (hne (d := '[') rfl),
        if_neg (hne (d := '\x7b') rfl)]
      exact ⟨_, rfl⟩

theorem read?_of_blank {text : String} (h : Text.isBlankText text = true) : read? text = none := by
  obtain ⟨fault, hfault⟩ := readValue_of_blank h depthLimit (2 * text.toList.length + 2)
  rw [read?, readChars, hfault]
  rfl

end Json

namespace Http.Envelope

/-- The envelope is that of a reply off the wire. -/
def IsRead (e : Envelope) : Prop := e = .ofReply e.status e.headers e.raw

/-- What is to be handed back of a reply: the value of its text, or the text itself if it is none. -/
def handedBack (e : Envelope) : Json :=
  match Json.read? e.raw with
  | some value => value
  | none => if e.raw.isEmpty then .null else .string e.raw

variable {e : Envelope}

theorem IsRead.body_eq (h : e.IsRead) : e.body = (Json.read? e.raw).getD .null := by
  have hbody : e.body = if Text.isBlankText e.raw then .null else (Json.read? e.raw).getD .null := congrArg body h
  rw [hbody]
  split
  case isTrue hblank =>
    rw [Json.read?_of_blank hblank]
    rfl
  case isFalse => rfl

theorem IsRead.failureBody_of_null (h : e.IsRead) (hnull : Json.read? e.raw = some .null) : e.failureBody = .string e.raw := by
  have hraw : e.raw.isEmpty = false := Bool.eq_false_iff.mpr fun hempty => by
    rw [String.isEmpty_iff.mp hempty, Json.read?_of_blank rfl] at hnull
    cases hnull
  rw [failureBody, h.body_eq, hnull, hraw]
  rfl

theorem IsRead.failureBody_eq (h : e.IsRead) (hnull : Json.read? e.raw ≠ some .null) : e.failureBody = e.handedBack := by
  rw [failureBody, handedBack, h.body_eq]
  cases hread : Json.read? e.raw with
  | none =>
    cases e.raw.isEmpty with
    | true => rfl
    | false => rfl
  | some value =>
    cases value with
    | null => exact absurd hread hnull
    | _ => rfl

end Http.Envelope

namespace Session

theorem exchange_isRead {trust : Trust} {timeout : Nat} {composed : Except Loss Request} {wire : Wire} {reply : Envelope}
    (h : (exchange trust timeout composed wire).1 = .ok reply) : reply.IsRead := by
  cases composed with
  | error loss => cases h
  | ok request =>
    simp only [exchange] at h
    rcases hsend : wire.send trust request with ⟨response, later⟩
    rw [hsend] at h
    cases response with
    | error loss => cases h
    | ok response =>
      cases h
      rfl

theorem execute_isRead {s : Session} {spec : RequestSpec} {wire : Wire} {reply : Envelope}
    (h : (s.execute spec wire).1 = .ok reply) : reply.IsRead := by
  unfold execute at h
  split at h
  · split at h
    · cases h
    · exact exchange_isRead h
  · cases h

end Session

theorem Program.transcript_isRead (p : Program α) (s : Session) (wire : Wire) :
    ∀ e ∈ p.transcript s wire, ∀ reply, e.reply = .ok reply → reply.IsRead := by
  induction p generalizing s wire with
  | done value => exact fun e he => absurd he List.not_mem_nil
  | execute spec next ih =>
    intro e he reply hreply
    rw [transcript] at he
    rcases hx : s.execute spec wire with ⟨first, later⟩
    rw [hx] at he
    rcases List.mem_cons.mp he with rfl | he
    · exact execute_isRead ((congrArg Prod.fst hx).trans hreply)
    · exact ih first s later e he reply hreply
  | close next ih =>
    intro e he
    exact ih _ _ e he

namespace Exchange

/-- The reply has an error status, and this is its text. -/
def refusesWith (text : String) (e : Exchange) : Bool :=
  match e.reply with
  | .ok reply => !reply.isSuccess && reply.raw == text
  | .error _ => false

theorem exists_refusal {exchanges : List Exchange} {text : String} (h : exchanges.any (refusesWith text) = true) :
    ∃ e ∈ exchanges, ∃ reply, e.reply = .ok reply ∧ reply.isSuccess = false ∧ reply.raw = text := by
  obtain ⟨e, he, hrefuses⟩ := List.any_eq_true.mp h
  unfold refusesWith at hrefuses
  split at hrefuses
  case h_1 reply hreply =>
    obtain ⟨hstatus, hraw⟩ := Bool.and_eq_true_iff.mp hrefuses
    have hrefused : reply.isSuccess = false := by simpa using hstatus
    exact ⟨e, he, reply, hreply, hrefused, eq_of_beq hraw⟩
  case h_2 => cases hrefuses

end Exchange

namespace Task

/-! ## Tasks that hand refusals back -/

/-- If the last thing that the task hears is a reply without a successful status, it fails with what is due of that reply,
under the key and with nothing beside it. -/
def HandsBack (key : String) (due : List Exchange → Envelope → Json) (t : Task α) : Prop :=
  ∀ front spec reply result, t.Hears (front ++ [⟨spec, .ok reply⟩]) result → reply.isSuccess = false →
    ∃ message, result = .error (.remoteWith message key (due front reply))

variable {key : String} {due : List Exchange → Envelope → Json}

theorem handsBack_done {t : Task α} {given : Except Failure α} (h : t.program = .done given) : HandsBack key due t := by
  intro front spec reply result hears _
  rw [Hears, h] at hears
  obtain ⟨hnil, _⟩ := Program.hears_done hears
  exact absurd hnil (List.append_ne_nil_of_right_ne_nil _ (List.cons_ne_nil _ _))

theorem handsBack_pure (a : α) : HandsBack key due (pure a : Task α) := handsBack_done rfl

theorem handsBack_ofExcept_bind {given : Except Failure α} {k : α → Task β} (hk : ∀ a, HandsBack key due (k a)) :
    HandsBack key due (ofExcept given >>= k) := by
  cases given with
  | ok a => exact hk a
  | error f => exact handsBack_done rfl

/-- Behind a good reply the task goes on, and any other it hands back. -/
theorem handsBack_send_bind {spec : RequestSpec} {k : Envelope → Task β}
    (hgood : ∀ reply, reply.isSuccess = true → HandsBack key (fun front => due (⟨spec, .ok reply⟩ :: front)) (k reply))
    (hbad : ∀ reply, reply.isSuccess = false →
      ∃ message, (k reply).program = .done (.error (.remoteWith message key (due [] reply)))) :
    HandsBack key due (send spec >>= k) := by
  intro front last reply result hears hstatus
  rcases hears_send_bind hears with ⟨e, hlost, rfl⟩ | ⟨first, rest, hsplit, hrest⟩
  · cases front with
    | nil => cases hlost
    | cons x front => simp at hlost
  cases front with
  | nil =>
    cases hsplit
    obtain ⟨message, hdone⟩ := hbad reply hstatus
    rw [Hears, hdone] at hrest
    exact ⟨message, (Program.hears_done hrest).2⟩
  | cons x front =>
    cases hsplit
    have hrestBack : HandsBack key (fun front => due (⟨spec, .ok first⟩ :: front)) (k first) := by
      cases hfirst : first.isSuccess with
      | true => exact hgood first hfirst
      | false =>
        obtain ⟨message, hdone⟩ := hbad first hfirst
        exact handsBack_done hdone
    exact hrestBack front last reply result hrest hstatus

theorem HandsBack.bind {handed : Envelope → Json} {t : Task α} {k : α → Task β} (ht : HandsBack key (fun _ => handed) t)
    (hk : ∀ a, HandsBack key (fun _ => handed) (k a)) : HandsBack key (fun _ => handed) (t >>= k) := by
  intro front last reply result hears hstatus
  rcases hears_bind hears with ⟨f, hfailed, rfl⟩ | ⟨heard, a, rest, hsplit, hheard, hrest⟩
  · obtain ⟨message, hmessage⟩ := ht _ _ _ _ hfailed hstatus
    cases hmessage
    exact ⟨message, rfl⟩
  -- The last reply is heard by the second task, as the first one cannot give a value once it has heard a refusal.
  rcases List.eq_nil_or_concat rest with rfl | ⟨back, final, rfl⟩
  · rw [List.append_nil] at hsplit
    rw [← hsplit] at hheard
    obtain ⟨_, hmessage⟩ := ht _ _ _ _ hheard hstatus
    cases hmessage
  · rw [List.concat_eq_append, ← List.append_assoc] at hsplit
    obtain ⟨_, hfinal⟩ := List.append_inj' hsplit rfl
    cases hfinal
    rw [List.concat_eq_append] at hrest
    exact hk a _ _ _ _ hrest hstatus

theorem Ended.split {good : α → Prop} {exchanges front back : List Exchange} {e : Exchange} {result : Except Failure α}
    (h : Ended good exchanges result) (hsplit : exchanges = front ++ e :: back) (he : e.isAnswered = false) :
    back = [] ∧ ∀ x ∈ front, x.isAnswered = true := by
  have hmem : e ∈ front ++ e :: back := List.mem_append_right _ List.mem_cons_self
  have hnot : ¬ ∀ x ∈ exchanges, x.isAnswered = true := fun hall => by
    rw [hall e (hsplit ▸ hmem)] at he
    cases he
  cases h with
  | value hall _ => exact absurd hall hnot
  | failure hall _ => exact absurd hall hnot
  | @trouble answered last f hall hlast _ =>
    rcases List.eq_nil_or_concat back with rfl | ⟨between, final, rfl⟩
    · obtain ⟨rfl, _⟩ := List.append_inj' hsplit rfl
      exact ⟨rfl, hall⟩
    · rw [List.concat_eq_append, ← List.cons_append, ← List.append_assoc] at hsplit
      obtain ⟨rfl, _⟩ := List.append_inj' hsplit rfl
      rw [hall e (List.mem_append_right _ List.mem_cons_self)] at he
      cases he

/-! ## Steps -/

theorem program_requireStatus_bind {reply : Envelope} (h : reply.isSuccess = false) (key : String) (k : Unit → Task β) :
    (requireStatus key reply >>= k).program = .done (.error (.remoteWith reply.diagnostic key reply.failureBody)) := by
  rw [requireStatus, require_of_refusal h]
  rfl

theorem handsBack_answered {spec : RequestSpec} {k : Envelope → Task β}
    (hdue : ∀ reply, due [] reply = reply.failureBody)
    (hk : ∀ reply, HandsBack key (fun front => due (⟨spec, .ok reply⟩ :: front)) (k reply)) :
    HandsBack key due (send spec >>= fun reply => requireStatus key reply >>= fun _ => k reply) := by
  refine handsBack_send_bind (fun reply _ => handsBack_ofExcept_bind fun _ => hk reply) (fun reply hreply => ?_)
  rw [hdue]
  exact ⟨_, program_requireStatus_bind hreply key _⟩

end Task

namespace Operation

open OutOfBand.Task

/-! ## Operations -/

/-- The key under which an operation hands back what is refused. -/
def refusalKey : Operation → String
  | listing .. => "job_info"
  | _ => "error_info"

/-- The reply says that there is no such system. It is the second one of a reset. -/
def missesSystem (op : Operation) (front : List Exchange) (reply : Envelope) : Bool :=
  match op with
  | power .. => front.length == 1 && (reply.status == 404 || reply.status == 405)
  | _ => false

/-- What an operation hands back of a reply behind the exchanges in front. -/
def due (op : Operation) (front : List Exchange) (reply : Envelope) : Json :=
  if op.missesSystem front reply then reply.body else reply.failureBody

theorem program_requireSystem_bind {system : Envelope} (h : system.isSuccess = false) (k : Unit → Task β) :
    ∃ message, (Task.ofExcept (requireSystem system) >>= fun _ => requireStatus errorKey system >>= k).program =
      .done (.error (.remoteWith message errorKey
        (if system.status == 404 || system.status == 405 then system.body else system.failureBody))) := by
  by_cases hmissing : system.status = 404 ∨ system.status = 405
  · refine ⟨resetUnsupported, ?_⟩
    rw [requireSystem, if_pos hmissing, if_pos (by simpa using hmissing)]
    rfl
  · refine ⟨system.diagnostic, ?_⟩
    rw [requireSystem, if_neg hmissing, if_neg (by simpa using hmissing)]
    exact program_requireStatus_bind h errorKey k

theorem powerTask_handsBack (reset : ResetType) (resource : Option String) (check : Bool) :
    HandsBack "error_info" (power reset resource).due (powerTask reset resource check) := by
  unfold powerTask
  refine handsBack_answered (fun reply => rfl) (fun systems => ?_)
  refine handsBack_ofExcept_bind (fun link => ?_)
  refine handsBack_send_bind (fun system _ => ?_) (fun system hsystem => ?_)
  · -- The reply to the reset itself is the third one, for which no status stands apart.
    refine handsBack_ofExcept_bind (fun _ => handsBack_ofExcept_bind (fun _ => ?_))
    refine handsBack_ofExcept_bind (fun target => handsBack_ofExcept_bind (fun _ => ?_))
    refine handsBack_ofExcept_bind (fun plan => ?_)
    split
    · split
      · exact handsBack_pure _
      · exact handsBack_pure _
    · exact handsBack_pure _
    · exact handsBack_answered (fun reply => rfl) (fun _ => handsBack_pure _)
  · exact program_requireSystem_bind hsystem _

theorem inventoryTask_handsBack (state : InventoryState) (check : Bool) :
    HandsBack "error_info" (fun _ => Envelope.failureBody) (inventoryTask state check) := by
  unfold inventoryTask
  refine handsBack_answered (fun _ => rfl) (fun current => handsBack_ofExcept_bind (fun plan => ?_))
  split
  · exact handsBack_pure _
  · exact handsBack_pure _
  · exact handsBack_answered (fun _ => rfl) (fun _ => handsBack_pure _)

theorem fetch_handsBack (spec : RequestSpec) : HandsBack "job_info" (fun _ => Envelope.failureBody) (fetch spec) :=
  handsBack_answered (fun _ => rfl) (fun _ => handsBack_pure _)

theorem collect_handsBack (jobs : List Json) (seen : List String) (page : Json) (budget : Nat) :
    HandsBack "job_info" (fun _ => Envelope.failureBody) (collect jobs seen page budget) := by
  -- Every further page is fetched like the first.
  induction budget generalizing jobs seen page with
  | zero => exact handsBack_pure _
  | succ budget ih =>
    unfold collect
    split
    · exact handsBack_pure _
    · split
      · exact handsBack_pure _
      · exact (fetch_handsBack _).bind (fun next => ih _ _ next)

theorem listingTask_handsBack (id : Option Nat) (options : Option ListingOptions) (budget : Nat) :
    HandsBack "job_info" (fun _ => Envelope.failureBody) (listingTask id options budget) := by
  unfold listingTask
  split
  · exact (fetch_handsBack _).bind (fun _ => handsBack_pure _)
  · exact (fetch_handsBack _).bind (fun _ => handsBack_pure _)
  · refine HandsBack.bind ?_ (fun _ => handsBack_pure _)
    refine (fetch_handsBack _).bind (fun first => (collect_handsBack _ _ _ _).bind (fun jobs => ?_))
    split
    · exact handsBack_done rfl
    · exact handsBack_pure _

theorem consolesTask_handsBack (address : Option String) :
    HandsBack "error_info" (fun _ => Envelope.failureBody) (consolesTask address) := by
  unfold consolesTask
  refine handsBack_answered (fun _ => rfl) (fun reply => handsBack_ofExcept_bind (fun all => ?_))
  cases address with
  | none => exact handsBack_pure _
  | some address => exact handsBack_pure _

/-- The operations on jobs of the lifecycle controller have results of their own, and are left out. -/
theorem task_handsBack {op : Operation} (hop : op.kind ∈ [.power, .inventory, .listing, .consoles]) (check : Bool)
    (budget : Nat) : HandsBack op.refusalKey op.due (op.task check budget) := by
  cases op with
  | power reset resource => exact powerTask_handsBack reset resource check
  | inventory state => exact inventoryTask_handsBack state check
  | listing id options => exact listingTask_handsBack id options budget
  | consoles address => exact consolesTask_handsBack address
  | deleteJob _ => exact absurd hop (by decide : OperationKind.deleteJob ∉ _)
  | clearQueue => exact absurd hop (by decide : OperationKind.clearQueue ∉ _)
  | jobStatus _ => exact absurd hop (by decide : OperationKind.jobStatus ∉ _)

/-! ## Runs -/

theorem transcript_isRead (op : Operation) (check : Bool) (files : FileTree) (config : SessionConfig) (wire : Wire) :
    ∀ e ∈ op.transcript check files config wire, ∀ reply, e.reply = .ok reply → reply.IsRead := by
  intro e he
  rcases ho : Session.open files config wire with ⟨shown, opened⟩
  cases shown with
  | error err =>
    rw [(unopened_run ho op check).1] at he
    exact absurd he List.not_mem_nil
  | ok s =>
    rw [(opened_run ho op check).1] at he
    exact Program.transcript_isRead _ s opened e he

theorem payload_ofFailure (op : Operation) (message : String) (value : Json) :
    (Report.ofFailure (.remoteWith message op.refusalKey value)).payload = [(op.refusalKey, value)] := by
  cases op with
  | _ => rfl

/-- How an operation ends at a refusal behind the exchanges in front. -/
structure Refused (op : Operation) (front : List Exchange) (reply : Envelope) (report : Report) : Prop where
  isFailed : report.isFailed = true
  isChanged : report.isChanged = false
  isUnreachable : report.isUnreachable = false
  isRead : reply.IsRead
  payload : op.missesSystem front reply = false → Json.read? reply.raw ≠ some .null →
    report.payload = [(op.refusalKey, reply.handedBack)]
  payload_null : op.missesSystem front reply = false → Json.read? reply.raw = some .null →
    report.payload = [(op.refusalKey, .string reply.raw)]
  payload_missing : op.missesSystem front reply = true →
    report.payload = [(op.refusalKey, (Json.read? reply.raw).getD .null)]

theorem refused_of_payload {op : Operation} {front : List Exchange} {reply : Envelope} {message : String}
    (hread : reply.IsRead) :
    op.Refused front reply (.ofFailure (.remoteWith message op.refusalKey (op.due front reply))) where
  isFailed := Report.isFailed_ofFailure _
  isChanged := Report.isChanged_ofFailure _
  isUnreachable := Report.isUnreachable_ofFailure _
  isRead := hread
  payload := by
    intro hthere hnull
    rw [payload_ofFailure, due, hthere, ← hread.failureBody_eq hnull]
    rfl
  payload_null := by
    intro hthere hnull
    rw [payload_ofFailure, due, hthere, ← hread.failureBody_of_null hnull]
    rfl
  payload_missing := by
    intro hmissing
    rw [payload_ofFailure, due, hmissing, ← hread.body_eq]
    rfl

/-- At the first reply with an error status a run stops, and hands back what the reply says. Nothing is asked for behind
it but the deletion of the session. -/
theorem run_handsBack {op : Operation} (hop : op.kind ∈ [.power, .inventory, .listing, .consoles]) (check : Bool)
    (files : FileTree) (config : SessionConfig) (wire : Wire) :
    ∃ opening sent closing, op.Attempts check files config wire opening sent closing ∧
      ∀ front e back reply, op.transcript check files config wire = front ++ e :: back → e.reply = .ok reply →
        reply.isSuccess = false →
        back = [] ∧ (∀ x ∈ front, x.isAnswered = true) ∧ op.Refused front reply (op.run check files config wire).1 := by
  obtain ⟨opening, sent, closing, hattempts⟩ := op.run_attempts check files config wire
  refine ⟨opening, sent, closing, hattempts, fun front e back reply htranscript hreply hrefused => ?_⟩
  rcases hattempts.result with ⟨_, _, hnone, _⟩ | ⟨_, _, hhears⟩
  · rw [hnone] at htranscript
    exact absurd htranscript.symm (List.append_ne_nil_of_right_ne_nil _ (List.cons_ne_nil _ _))
  have hread : reply.IsRead := by
    refine op.transcript_isRead check files config wire e ?_ reply hreply
    rw [htranscript]
    exact List.mem_append_right _ List.mem_cons_self
  have hlost : e.isAnswered = false := by
    rw [Exchange.isAnswered, hreply]
    exact hrefused
  obtain ⟨rfl, hfront⟩ := (op.task_stopsAtTrouble check (linkBudget wire) _ _ hhears).split htranscript hlost
  obtain ⟨spec, _⟩ := e
  cases hreply
  rw [htranscript] at hhears
  obtain ⟨message, hresult⟩ := task_handsBack hop check (linkBudget wire) _ _ _ _ hhears hrefused
  refine ⟨rfl, hfront, ?_⟩
  rw [run_report, hresult]
  exact refused_of_payload hread

/-- The reset itself is refused, behind two readings. -/
theorem run_handsBack_reset :
    let op : Operation := .power .forceOff none
    let config : SessionConfig := ⟨⟨"127.0.0.1", 443, .http, .system, 30000⟩, .token "t", .redfish, none⟩
    let systems := "\x7b\"Members\": [\x7b\"@odata.id\": \"/s/1\"\x7d]\x7d"
    let system := "\x7b\"PowerState\": \"On\", " ++
      "\"Actions\": \x7b\"#ComputerSystem.Reset\": \x7b\"target\": \"/s/1/r\"\x7d\x7d\x7d"
    let refusal := "[\"locked\"]"
    let wire : Wire := ⟨⟨.ipv4 0x7F000001, 443, true, none,
      [.answer 200 [] (Text.encodeUtf8 systems), .answer 200 [] (Text.encodeUtf8 system),
        .answer 404 [] (Text.encodeUtf8 refusal)]⟩, []⟩
    let report := (op.run false FileTree.empty config wire).1
    op.kind ∈ [.power, .inventory, .listing, .consoles] ∧ ∃ front e reply,
      op.transcript false FileTree.empty config wire = front ++ [e] ∧ e.reply = .ok reply ∧ reply.isSuccess = false ∧
        front.length = 2 ∧ op.Refused front reply report ∧
        report.get? "error_info" = some (.array [.string "locked"]) := by
  intro op config systems system refusal wire report
  have hop : op.kind ∈ [.power, .inventory, .listing, .consoles] := by decide
  have hlength : (op.transcript false FileTree.empty config wire).length = 3 := by decide +kernel
  have hheard : (op.transcript false FileTree.empty config wire).any (Exchange.refusesWith refusal) = true := by
    decide +kernel
  obtain ⟨e, he, reply, hreply, hrefused, _⟩ := Exchange.exists_refusal hheard
  obtain ⟨front, back, hsplit⟩ := List.append_of_mem he
  obtain ⟨opening, sent, closing, _, hended⟩ := run_handsBack hop false FileTree.empty config wire
  obtain ⟨rfl, _, hrefusal⟩ := hended front e back reply hsplit hreply hrefused
  rw [hsplit, List.length_append] at hlength
  exact ⟨hop, front, e, reply, hsplit, hreply, hrefused, Nat.succ.inj hlength, hrefusal, by decide +kernel⟩

/-- The text that comes for a system that does not exist is not handed back. -/
theorem run_withholds_text :
    let op : Operation := .power .forceOff none
    let config : SessionConfig := ⟨⟨"127.0.0.1", 443, .http, .system, 30000⟩, .token "t", .redfish, none⟩
    let systems := "\x7b\"Members\": [\x7b\"@odata.id\": \"/s/1\"\x7d]\x7d"
    let text := "<html>not found</html>"
    let wire : Wire := ⟨⟨.ipv4 0x7F000001, 443, true, none,
      [.answer 200 [] (Text.encodeUtf8 systems), .answer 404 [] (Text.encodeUtf8 text)]⟩, []⟩
    (∃ e ∈ op.transcript false FileTree.empty config wire, ∃ reply, e.reply = .ok reply ∧ reply.isSuccess = false ∧
      reply.raw = text) ∧ Json.read? text = none ∧ text.isEmpty = false ∧
      (op.run false FileTree.empty config wire).1.get? "error_info" = some .null := by
  intro op config systems text wire
  have hheard : (op.transcript false FileTree.empty config wire).any (Exchange.refusesWith text) = true := by
    decide +kernel
  exact ⟨Exchange.exists_refusal hheard, by decide +kernel, by decide +kernel, by decide +kernel⟩

end Operation

end OutOfBand
