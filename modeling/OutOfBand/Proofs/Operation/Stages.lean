import OutOfBand.Proofs.Operation.Tasks
import OutOfBand.Proofs.Session.Reachability

/-! # The stages of an operation

A run of an operation logs in, reads, changes something at most once, and logs out, in this order. The
run in check mode goes through the same stages up to the change and leaves that out, and it says what
the other run is going to do. The report of the other run tells how the change went. A change is one
attempt, with the requests that the client makes of it on being redirected; where the client does not
take its URL it is none.
-/
namespace OutOfBand

open Http Session

variable {α : Type}

/-! ## Runs of a preview -/

theorem Program.OnlyReads.transcript_reads {p : Program α} (hp : p.OnlyReads) (s : Session) (wire : Wire) :
    ∀ e ∈ p.transcript s wire, IsReading e.spec := by
  induction hp generalizing wire with
  | done value => exact fun e he => absurd he List.not_mem_nil
  | execute hspec _ ih => exact List.forall_mem_cons.mpr ⟨hspec, ih _ _⟩

namespace Previews

variable {heard : Bool} {p q : Program (Except Failure Report)}

theorem onlyReads (h : Previews heard p q) : p.OnlyReads := by
  induction h with
  | settled _ _ => exact .done _
  | reads hspec _ _ ihok iherror =>
    refine .execute hspec (fun reply => ?_)
    cases reply with
    | ok reply => exact ihok reply
    | error e => exact iherror e
  | changes _ _ _ => exact .done _

theorem isPlain (h : Previews heard p q) : p.IsPlain ∧ q.IsPlain := by
  induction h with
  | settled _ _ => exact ⟨.done _, .done _⟩
  | reads hspec _ _ ihok iherror =>
    refine ⟨.execute hspec.headers (fun reply => ?_), .execute hspec.headers (fun reply => ?_)⟩
    · cases reply with
      | ok reply => exact (ihok reply).1
      | error e => exact (iherror e).1
    · cases reply with
      | ok reply => exact (ihok reply).2
      | error e => exact (iherror e).2
  | changes _ hspec hnext =>
    refine ⟨.done _, .execute hspec.headers (fun reply => ?_)⟩
    obtain ⟨done, hdone, _⟩ := hnext reply
    rw [hdone]
    exact .done done

/-- What a run does behind the point at which its preview ends: nothing, or it asks for one change. The wire is the one
that the preview leaves, and the first report is that of the preview. -/
inductive Adds (s : Session) (wire : Wire) (told : Report) : List Exchange → Wire → Report → Prop
  | nothing {done : Report} (hsame : told.verdict = done.verdict) (hunchanged : done.isChanged = false) :
      Adds s wire told [] wire done
  | change {done : Report} {spec : RequestSpec} (htold : told.verdict = .changed) (hspec : IsChange spec)
      (hheaders : s.HasSendableHeaders spec) (htells : done.Tells (isAnsweredWell (s.execute spec wire).1)) :
      Adds s wire told [⟨spec, (s.execute spec wire).1⟩] (s.execute spec wire).2 done

/-- The run behind a preview asks for the same, and then for at most one change. -/
theorem run (h : Previews heard p q) {s : Session} (hs : s.IsReady)
    (hheard : heard = true → s.HasSendableHeaders (.get "")) (wire : Wire) :
    ∃ asked, q.transcript s wire = p.transcript s wire ++ asked ∧
      Adds s (p.run s wire).2.2 (.ofResult (p.run s wire).1) asked (q.run s wire).2.2 (.ofResult (q.run s wire).1) := by
  induction h generalizing wire with
  | settled hsame hunchanged => exact ⟨[], rfl, .nothing hsame hunchanged⟩
  | @reads heard spec next next' hspec hok herror ihok iherror =>
    rcases hx : s.execute spec wire with ⟨reply, later⟩
    simp only [Program.run, Program.transcript, hx, List.cons_append, List.cons.injEq, true_and]
    cases reply with
    | error e => exact iherror e hheard later
    | ok reply =>
      -- A reply has come, so the headers that every request of the session has can be sent.
      have hheaders : s.HasSendableHeaders (.get "") := by
        by_contra hno
        rw [← hasSendableHeaders_iff hspec.headers] at hno
        rw [hs.execute_of_headers hno] at hx
        cases hx
      exact ihok reply (fun _ => hheaders) later
  | @changes told spec next htold hspec hnext =>
    obtain ⟨done, hdone, htells⟩ := hnext (s.execute spec wire).1
    have hheaders : s.HasSendableHeaders spec := (hasSendableHeaders_iff hspec.headers s).mpr (hheard rfl)
    refine ⟨[⟨spec, (s.execute spec wire).1⟩], ?_, ?_⟩
    · simp only [Program.transcript, hdone, List.nil_append]
    · simp only [Program.run, hdone]
      exact .change htold hspec hheaders htells

end Previews

/-! ## What an operation asks for -/

namespace Operation

theorem task_isPlain (op : Operation) (check : Bool) (budget : Nat) : (op.task check budget).program.IsPlain := by
  cases check with
  | true => exact (op.task_previewed budget).isPlain.1
  | false => exact (op.task_previewed budget).isPlain.2

/-- What a run of an operation asks of the session that opens for it, and what it hears. -/
def transcript (op : Operation) (check : Bool) (files : FileTree) (config : SessionConfig) (wire : Wire) : List Exchange :=
  match Session.open files config wire with
  | (.ok s, opened) => (op.task check (linkBudget wire)).program.transcript s opened
  | (.error _, _) => []

/-- What a run comes to before it is told in a report. -/
def result (op : Operation) (check : Bool) (files : FileTree) (config : SessionConfig) (wire : Wire) :
    Except Failure Report :=
  match withSession files config (op.task check (linkBudget wire)).program wire with
  | (.error e, _) => .error (.ofSessionError e)
  | (.ok result, _) => result

theorem run_of_error {files : FileTree} {config : SessionConfig} {wire opened : Wire} {e : SessionError}
    (h : Session.open files config wire = (.error e, opened)) (op : Operation) (check : Bool) :
    op.run check files config wire = (.ofFailure (.ofSessionError e), opened) := by
  simp only [run, withSession, h]

theorem run_of_ok {files : FileTree} {config : SessionConfig} {wire opened : Wire} {s : Session}
    (h : Session.open files config wire = (.ok s, opened)) (op : Operation) (check : Bool) :
    op.run check files config wire =
      (.ofResult ((op.task check (linkBudget wire)).program.run s opened).1,
        (((op.task check (linkBudget wire)).program.run s opened).2.1.close
          ((op.task check (linkBudget wire)).program.run s opened).2.2).2) := by
  simp only [run, withSession, h]
  rcases (op.task check (linkBudget wire)).program.run s opened with ⟨result, closing, worked⟩
  cases result with
  | ok report => rfl
  | error f => rfl

theorem opened_run {files : FileTree} {config : SessionConfig} {wire opened : Wire} {s : Session}
    (h : Session.open files config wire = (.ok s, opened)) (op : Operation) (check : Bool) :
    op.transcript check files config wire = (op.task check (linkBudget wire)).program.transcript s opened ∧
      op.result check files config wire = ((op.task check (linkBudget wire)).program.run s opened).1 := by
  constructor
  · simp only [transcript, h]
  · simp only [result, withSession, h]

/-- In check mode an operation asks for nothing but readings. -/
theorem transcript_reads (op : Operation) (files : FileTree) (config : SessionConfig) (wire : Wire) :
    ∀ e ∈ op.transcript true files config wire, IsReading e.spec := by
  unfold transcript
  split
  · exact (op.task_previewed _).onlyReads.transcript_reads _ _
  · exact fun e he => absurd he List.not_mem_nil

theorem unopened_run {files : FileTree} {config : SessionConfig} {wire opened : Wire} {e : SessionError}
    (h : Session.open files config wire = (.error e, opened)) (op : Operation) (check : Bool) :
    op.transcript check files config wire = [] ∧ op.result check files config wire = .error (.ofSessionError e) := by
  constructor
  · simp only [transcript, h]
  · simp only [result, withSession, h]

end Operation

/-! ## Stages -/

/-- The attempts of a run of an operation, stage by stage. -/
structure Stages (config : SessionConfig) where
  opening : List Attempt
  reads : List Attempt
  changes : List Attempt
  closing : List Attempt
  opening_length : opening.length ≤ 1
  opening_login : ∀ a ∈ opening, IsLogin config a.request
  reads_get : ∀ a ∈ reads, a.request.method = "GET"
  changes_length : changes.length ≤ 1
  changes_mutate : ∀ a ∈ changes, Mutates a.request
  closing_length : closing.length ≤ 1
  closing_deletion : ∀ a ∈ closing, ∃ id, IsDeletion config id a.request

def Stages.attempts {config : SessionConfig} (stages : Stages config) : List Attempt :=
  stages.opening ++ stages.reads ++ stages.changes ++ stages.closing

theorem Stages.isHarmless {config : SessionConfig} (stages : Stages config) (h : stages.changes = []) {a : Attempt}
    (ha : a ∈ stages.attempts) : IsHarmless config a.request := by
  simp only [Stages.attempts, h, List.append_nil, List.mem_append] at ha
  rcases ha with (ha | ha) | ha
  · exact Or.inr (Or.inl (stages.opening_login a ha))
  · exact Or.inl (stages.reads_get a ha)
  · exact Or.inr (Or.inr (stages.closing_deletion a ha))

/-- The requests of an attempt are the one that was asked for and those that redirects have made of it. -/
theorem Attempt.eq_or_follows {a : Attempt} {request : Request} (h : request ∈ a.requests) :
    request = a.request ∨ request.Follows a.request := by
  rcases List.mem_append.mp h with h | h
  · left
    split at h
    · exact List.mem_singleton.mp h
    · cases h
  · right
    obtain ⟨hop, hhop, rfl⟩ := List.mem_map.mp h
    exact a.follows hop (List.mem_filter.mp hhop).1

/-- The request is a reading, or what redirects have made of a login or of the deletion of a session, if not one of
these itself. -/
def ComesOfHarmless (config : SessionConfig) (request : Request) : Prop :=
  request.method = "GET" ∨ (∃ login, IsLogin config login ∧ (request = login ∨ request.Follows login)) ∨
    ∃ id deletion, IsDeletion config id deletion ∧ (request = deletion ∨ request.Follows deletion)

theorem Attempt.comesOfHarmless {config : SessionConfig} {a : Attempt} (ha : IsHarmless config a.request)
    {request : Request} (h : request ∈ a.requests) : ComesOfHarmless config request := by
  have hcomes := Attempt.eq_or_follows h
  rcases ha with hget | hlogin | ⟨id, hdeletion⟩
  · left
    rcases hcomes with rfl | hfollows
    · exact hget
    · rcases hfollows.payload with ⟨hmethod, _⟩ | ⟨hmethod, _⟩
      · exact hmethod.trans hget
      · exact hmethod
  · exact Or.inr (Or.inl ⟨a.request, hlogin, hcomes⟩)
  · exact Or.inr (Or.inr ⟨id, a.request, hdeletion, hcomes⟩)

theorem IsChange.mutates {e : Exchange} (h : IsChange e.spec) {a : Attempt} (hsent : e.IsSentAs a) : Mutates a.request := by
  refine ⟨?_, ?_, fun config id hdeletion => hdeletion.not_asksForJson hsent.asksForJson⟩
  · rw [hsent.method]
    exact h.method
  · intro config hlogin
    obtain ⟨password, hpassword⟩ := hlogin.body_password
    rw [hsent.body, h.body] at hpassword
    cases hpassword

/-- The two reports about the change for which the run with the second one asks, and the attempt that carries it. -/
inductive Foretold (config : SessionConfig) (client : Client) (told done : Report) : List Exchange → List Attempt → Prop
  | nothing (hsame : told.verdict = done.verdict) (hunchanged : done.isChanged = false) : Foretold config client told done [] []
  | change {e : Exchange} {a : Attempt} (htold : told.verdict = .changed) (hspec : IsChange e.spec)
      (htaken : ¬ RefusesUrl config client e.spec) (hsent : e.IsSentAs a) (htells : done.Tells a.succeeded) :
      Foretold config client told done [e] [a]
  | refused {e : Exchange} (htold : told.verdict = .changed) (hspec : IsChange e.spec)
      (hrefused : RefusesUrl config client e.spec) (hunsent : e.isUnsent = true) (hfailed : done.verdict.IsFailure) :
      Foretold config client told done [e] []

namespace Foretold

variable {config : SessionConfig} {client : Client} {told done : Report} {asked : List Exchange} {changes : List Attempt}

theorem length (h : Foretold config client told done asked changes) : changes.length ≤ 1 := by
  cases h with
  | nothing _ _ => exact Nat.zero_le 1
  | change _ _ _ _ _ => exact Nat.le_refl 1
  | refused _ _ _ _ _ => exact Nat.zero_le 1

theorem changes_eq_nil (h : Foretold config client told done asked changes) (hunchanged : told.isChanged = false) :
    changes = [] := by
  cases h with
  | nothing _ _ => rfl
  | change htold _ _ _ _ =>
    rw [Report.isChanged, htold] at hunchanged
    cases hunchanged
  | refused _ _ _ _ _ => rfl

/-- What check mode tells of is asked for, and it is sent unless the client does not take its URL. -/
theorem exists_change (h : Foretold config client told done asked changes) (hdue : told.isChanged = true) :
    ∃ e ∈ asked, IsChange e.spec ∧ ((¬ RefusesUrl config client e.spec ∧ ∃ a ∈ changes, e.IsSentAs a) ∨
      (RefusesUrl config client e.spec ∧ changes = [])) := by
  cases h with
  | nothing hsame hunchanged =>
    rw [Report.isChanged, hsame] at hdue
    rw [Report.isChanged, hdue] at hunchanged
    cases hunchanged
  | @change e a _ hspec htaken hsent _ =>
    exact ⟨e, List.mem_singleton_self e, hspec, Or.inl ⟨htaken, a, List.mem_singleton_self a, hsent⟩⟩
  | @refused e _ hspec hrefused _ _ => exact ⟨e, List.mem_singleton_self e, hspec, Or.inr ⟨hrefused, rfl⟩⟩

theorem changes_mutate (h : Foretold config client told done asked changes) : ∀ a ∈ changes, Mutates a.request := by
  cases h with
  | nothing _ _ => exact fun a ha => absurd ha List.not_mem_nil
  | change _ hspec _ hsent _ => exact List.forall_mem_singleton.mpr (hspec.mutates hsent)
  | refused _ _ _ _ _ => exact fun a ha => absurd ha List.not_mem_nil

end Foretold

theorem Previews.Adds.foretold {config : SessionConfig} {s : Session} (hs : IsOpened config s) {wire later : Wire}
    {told done : Report} {asked : List Exchange} (h : Previews.Adds s wire told asked later done) :
    ∃ changes, later.attempts = wire.attempts ++ changes ∧ Foretold config wire.client told done asked changes := by
  cases h with
  | nothing hsame hunchanged => exact ⟨[], (List.append_nil _).symm, .nothing hsame hunchanged⟩
  | @change _ spec htold hspec hheaders htells =>
    have hrefuses := hs.refusesUrl_iff hheaders wire.client
    by_cases hcan : s.CanSend wire.client spec
    · obtain ⟨a, hlog, hsent, _, _⟩ := hs.isReady.execute_sentAs hcan
      refine ⟨[a], hlog, .change htold hspec (fun hrefused => hrefuses.mp hrefused hcan) hsent ?_⟩
      rwa [hsent.succeeded]
    · have hx := hs.isReady.execute_of_unsendable hcan
      rw [hx] at htells ⊢
      exact ⟨[], (List.append_nil _).symm, .refused htold hspec (hrefuses.mpr hcan) rfl htells⟩

theorem Session.IsOpened.close_deletion {config : SessionConfig} {s : Session} (h : IsOpened config s) (wire : Wire) :
    wire.AtMostOne (fun request => ∃ id, IsDeletion config id request) (s.close wire).2 := by
  obtain ⟨sent, hlog, hsent⟩ := h.close_sent wire
  cases hid : s.remoteId with
  | none =>
    rw [hid] at hsent
    subst hsent
    exact ⟨[], hlog, Nat.zero_le 1, fun _ ha => absurd ha List.not_mem_nil⟩
  | some id =>
    rw [hid] at hsent
    obtain ⟨hlength, hdeletion⟩ := Releases.isDeletion hsent
    exact ⟨sent, hlog, hlength, fun a ha => ⟨id, hdeletion a ha⟩⟩

namespace Operation

/-- The runs in check mode and otherwise go through the same stages up to the change. -/
theorem run_stages (op : Operation) (files : FileTree) (config : SessionConfig) (wire : Wire) :
    ∃ (told done : Stages config) (asked : List Exchange),
      (op.run true files config wire).2.attempts = wire.attempts ++ told.attempts ∧
      (op.run false files config wire).2.attempts = wire.attempts ++ done.attempts ∧
      told.opening = done.opening ∧ told.reads = done.reads ∧ told.changes = [] ∧
      op.transcript false files config wire = op.transcript true files config wire ++ asked ∧
      Foretold config wire.client (op.run true files config wire).1 (op.run false files config wire).1 asked done.changes := by
  have hnone : ∀ {P : Attempt → Prop}, ∀ a ∈ ([] : List Attempt), P a := fun a ha => absurd ha List.not_mem_nil
  obtain ⟨opening, hopening, hlength, hlogin⟩ := open_sent files config wire
  have hresult := open_result files config wire
  have hclient := open_client files config wire
  rcases ho : Session.open files config wire with ⟨result, opened⟩
  rw [ho] at hopening hresult hclient
  cases result with
  | error e =>
    rw [run_of_error ho, run_of_error ho]
    let stages : Stages config := ⟨opening, [], [], [], hlength, hlogin, hnone, Nat.zero_le 1, hnone, Nat.zero_le 1, hnone⟩
    have hattempts : opened.attempts = wire.attempts ++ stages.attempts := by
      rw [hopening, Stages.attempts, List.append_nil, List.append_nil, List.append_nil]
    refine ⟨stages, stages, [], hattempts, hattempts, rfl, rfl, rfl, ?_, .nothing rfl (Report.isChanged_ofFailure _)⟩
    rw [(unopened_run ho op false).1, (unopened_run ho op true).1, List.append_nil]
  | ok s =>
    obtain ⟨hs, _⟩ := hresult
    have hpreview := op.task_previewed (linkBudget wire)
    obtain ⟨htoldSession, htoldClient, ⟨reads, hreads, hcarried⟩, _⟩ := hpreview.isPlain.1.run_carried hs.isReady opened
    obtain ⟨hdoneSession, _⟩ := hpreview.isPlain.2.run_carried hs.isReady opened
    obtain ⟨asked, hasked, hadds⟩ := hpreview.run hs.isReady (fun h => by cases h) opened
    obtain ⟨changes, hchanges, hforetold⟩ := hadds.foretold hs
    rw [htoldClient, show opened.client = wire.client from hclient] at hforetold
    have hget : ∀ a ∈ reads, a.request.method = "GET" := by
      intro a ha
      obtain ⟨e, he, _, hsent, _⟩ := hcarried.exists_of_mem_sent ha
      rw [hsent.method, (hpreview.onlyReads.transcript_reads s opened e he).method]
    rw [run_of_ok ho, run_of_ok ho, htoldSession, hdoneSession, (opened_run ho op false).1, (opened_run ho op true).1]
    obtain ⟨toldClosing, htold, htoldLength, htoldDeletion⟩ :=
      hs.close_deletion ((op.task true (linkBudget wire)).program.run s opened).2.2
    obtain ⟨doneClosing, hdone, hdoneLength, hdoneDeletion⟩ :=
      hs.close_deletion ((op.task false (linkBudget wire)).program.run s opened).2.2
    refine ⟨⟨opening, reads, [], toldClosing, hlength, hlogin, hget, Nat.zero_le 1, hnone, htoldLength, htoldDeletion⟩,
      ⟨opening, reads, changes, doneClosing, hlength, hlogin, hget, hforetold.length, hforetold.changes_mutate, hdoneLength,
        hdoneDeletion⟩, asked, ?_, ?_, rfl, rfl, rfl, hasked, hforetold⟩
    · rw [htold, hreads, hopening]
      simp only [Stages.attempts, List.append_nil, List.append_assoc]
    · rw [hdone, hchanges, hreads, hopening]
      simp only [Stages.attempts, List.append_assoc]

/-- Check mode says what the run otherwise does. All that is read from it is readings, the login and the deletion of the
session, and what redirects have made of these; up to the deletion the attempts are the same that the other run makes up to
its change. Then either the other run asks for no change and both come to the same verdict, or check mode says that there
would be a change, and the other run asks for exactly one. That one is one attempt, unless the client does not take its URL;
then it is none, and the other run fails. -/
theorem check_foretells_run (op : Operation) (files : FileTree) (config : SessionConfig) (wire : Wire) :
    ∃ (told done : Stages config) (asked : List Exchange),
      (op.run true files config wire).2.attempts = wire.attempts ++ told.attempts ∧
      (op.run false files config wire).2.attempts = wire.attempts ++ done.attempts ∧
      told.opening = done.opening ∧ told.reads = done.reads ∧ told.changes = [] ∧
      (∀ request ∈ told.attempts.flatMap Attempt.requests, ComesOfHarmless config request) ∧
      op.transcript false files config wire = op.transcript true files config wire ++ asked ∧
      let report := (op.run true files config wire).1
      let real := (op.run false files config wire).1
      (asked = [] ∧ done.changes = [] ∧ report.isChanged = real.isChanged ∧ report.isFailed = real.isFailed ∧
          report.isUnreachable = real.isUnreachable) ∨
        (report.isChanged = true ∧ report.isFailed = false ∧ ∃ e, asked = [e] ∧ IsChange e.spec ∧
          ((¬ RefusesUrl config wire.client e.spec ∧ ∃ a, done.changes = [a] ∧ e.IsSentAs a) ∨
            (RefusesUrl config wire.client e.spec ∧ done.changes = [] ∧ real.isFailed = true ∧ real.isChanged = false))) := by
  obtain ⟨told, done, asked, htold, hdone, hopening, hreads, hchanges, hasked, hforetold⟩ := op.run_stages files config wire
  have hcomes : ∀ request ∈ told.attempts.flatMap Attempt.requests, ComesOfHarmless config request := by
    intro request hrequest
    obtain ⟨a, ha, hrequest⟩ := List.mem_flatMap.mp hrequest
    exact Attempt.comesOfHarmless (told.isHarmless hchanges ha) hrequest
  refine ⟨told, done, asked, htold, hdone, hopening, hreads, hchanges, hcomes, hasked, ?_⟩
  generalize done.changes = changes at hforetold
  cases hforetold with
  | nothing hsame _ =>
    left
    simp only [Report.isChanged, Report.isFailed, Report.isUnreachable, hsame, and_self]
  | change htold hspec htaken hsent _ =>
    right
    refine ⟨?_, ?_, _, rfl, hspec, Or.inl ⟨htaken, _, rfl, hsent⟩⟩
    · rw [Report.isChanged, htold]
      rfl
    · rw [Report.isFailed, htold]
      rfl
  | refused htold hspec hrefused _ hfailed =>
    right
    refine ⟨?_, ?_, _, rfl, hspec, Or.inr ⟨hrefused, rfl, hfailed.isFailed, hfailed.isChanged⟩⟩
    · rw [Report.isChanged, htold]
      rfl
    · rw [Report.isFailed, htold]
      rfl

/-- A device whose queue holds a job, and which redirects what comes behind the reading of it. -/
def redirectingQueue (status : Nat) : Wire :=
  ⟨⟨.ipv4 0x7F000001, 443, true, none, [.answer 200 [] (Text.encodeUtf8 "\x7b\"Members\": [\x7b\"@odata.id\": \"/jobs/1\"\x7d]\x7d"),
    .answer status [("location", "/elsewhere")] [], .answer 200 [] []]⟩, []⟩

/-- A redirect may repeat the change that check mode has told of. -/
theorem check_foretells_redirected :
    let config : SessionConfig := ⟨⟨"127.0.0.1", 443, .http, .system, 30000⟩, .token "t", .redfish, none⟩
    let run (check : Bool) := clearQueue.run check FileTree.empty config (redirectingQueue 307)
    (run true).1.isChanged = true ∧ (run false).2.requests.map (fun request => (request.method, request.url.target)) =
      [("GET", "/redfish/v1/Managers/iDRAC.Embedded.1/Jobs"),
        ("POST", "/redfish/v1/Dell/Managers/iDRAC.Embedded.1/DellJobService/Actions/DellJobService.DeleteJobQueue"),
        ("POST", "/elsewhere")] := by
  decide +kernel

/-- The report is true about what was changed. At most one attempt changes something, behind all readings and before nothing
but the deletion of the session, and the report says that something was changed exactly if that attempt ended in a complete
reply with a successful status. Otherwise the operation has failed, and so it has if it asked for a change whose URL the
client does not take. -/
theorem run_isChanged_iff (op : Operation) (files : FileTree) (config : SessionConfig) (wire : Wire) :
    ∃ done : Stages config, (op.run false files config wire).2.attempts = wire.attempts ++ done.attempts ∧
      let report := (op.run false files config wire).1
      (report.isChanged = true ↔ ∃ a ∈ done.changes, a.succeeded = true) ∧
        (∀ a ∈ done.changes, a.succeeded = false → report.isFailed = true ∧ report.isChanged = false) ∧
        ∀ e ∈ op.transcript false files config wire, e.spec.method ≠ "GET" →
          (∃ a, done.changes = [a] ∧ e.IsSentAs a) ∨
            (RefusesUrl config wire.client e.spec ∧ done.changes = [] ∧ report.isFailed = true) := by
  obtain ⟨_, done, asked, _, hdone, _, _, _, hasked, hforetold⟩ := op.run_stages files config wire
  have hlast : ∀ e ∈ op.transcript false files config wire, e.spec.method ≠ "GET" → e ∈ asked := by
    intro e he hmethod
    rw [hasked] at he
    rcases List.mem_append.mp he with he | he
    · exact absurd (op.transcript_reads files config wire e he).method hmethod
    · exact he
  refine ⟨done, hdone, ?_⟩
  generalize done.changes = changes at hforetold
  cases hforetold with
  | nothing _ hunchanged =>
    refine ⟨by simp [hunchanged], fun a ha => absurd ha List.not_mem_nil, fun e he hmethod => ?_⟩
    exact absurd (hlast e he hmethod) List.not_mem_nil
  | @change e a _ _ _ hsent htells =>
    refine ⟨?_, List.forall_mem_singleton.mpr (fun hlost => ?_), fun e' he' hmethod => ?_⟩
    · rw [htells.isChanged_iff]
      simp
    · rw [hlost] at htells
      exact ⟨htells.isFailed, htells.isChanged⟩
    · rw [List.mem_singleton.mp (hlast e' he' hmethod)]
      exact Or.inl ⟨a, rfl, hsent⟩
  | @refused e _ _ hrefused _ hfailed =>
    refine ⟨by simp [Report.isChanged, hfailed.isChanged], fun a ha => absurd ha List.not_mem_nil, fun e' he' hmethod => ?_⟩
    rw [List.mem_singleton.mp (hlast e' he' hmethod)]
    exact Or.inr ⟨hrefused, rfl, hfailed.isFailed⟩

/-- A success behind a redirected change counts as one of the change itself, and a reading follows the change. -/
theorem run_isChanged_redirected :
    let config : SessionConfig := ⟨⟨"127.0.0.1", 443, .http, .system, 30000⟩, .token "t", .redfish, none⟩
    let run := clearQueue.run false FileTree.empty config (redirectingQueue 302)
    run.1.isChanged = true ∧ run.2.requests.map (fun request => (request.method, request.url.target)) =
      [("GET", "/redfish/v1/Managers/iDRAC.Embedded.1/Jobs"),
        ("POST", "/redfish/v1/Dell/Managers/iDRAC.Embedded.1/DellJobService/Actions/DellJobService.DeleteJobQueue"),
        ("GET", "/elsewhere")] := by
  decide +kernel

end Operation

end OutOfBand
