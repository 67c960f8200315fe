import OutOfBand.Proofs.Operation.Stages

/-! # Transcripts of tasks

What a task hears before it ends, for each of the steps of which tasks are made. An operation's requests
bring no headers of their own and leave its session open, so its transcript tells all that it sends: each
exchange is one attempt, unless the client cannot send it.
-/
namespace OutOfBand

open Http Session

variable {α β : Type}

theorem Program.hears_bind {p : Program α} {f : α → Program β} {exchanges : List Exchange} {value : β}
    (h : (p.bind f).Hears exchanges value) :
    ∃ front a rest, exchanges = front ++ rest ∧ p.Hears front a ∧ (f a).Hears rest value := by
  induction p generalizing exchanges with
  | done a => exact ⟨[], a, exchanges, rfl, .done a, h⟩
  | execute spec next ih =>
    cases h with
    | execute h =>
      rename_i reply rest
      obtain ⟨front, a, back, rfl, hfront, hback⟩ := ih reply h
      exact ⟨⟨spec, reply⟩ :: front, a, back, rfl, .execute hfront, hback⟩
  | close next ih =>
    cases h with
    | close h =>
      obtain ⟨front, a, back, hsplit, hfront, hback⟩ := ih h
      exact ⟨front, a, back, hsplit, .close hfront, hback⟩

theorem Program.hears_done {a value : α} {exchanges : List Exchange} (h : (Program.done a).Hears exchanges value) :
    exchanges = [] ∧ value = a := by
  cases h
  exact ⟨rfl, rfl⟩

namespace Task

/-- The task makes these requests and ends in the result when it hears these replies to them. -/
def Hears (t : Task α) (exchanges : List Exchange) (result : Except Failure α) : Prop := t.program.Hears exchanges result

variable {exchanges : List Exchange} {result : Except Failure β}

theorem hears_pure {b : β} (h : Hears (pure b) exchanges result) : exchanges = [] ∧ result = .ok b :=
  Program.hears_done h

theorem hears_bind {t : Task α} {k : α → Task β} (h : Hears (t >>= k) exchanges result) :
    (∃ f, Hears t exchanges (.error f) ∧ result = .error f) ∨
      ∃ front a rest, exchanges = front ++ rest ∧ Hears t front (.ok a) ∧ Hears (k a) rest result := by
  rw [Hears, program_bind] at h
  obtain ⟨front, given, rest, rfl, hfront, hrest⟩ := Program.hears_bind h
  cases given with
  | ok a => exact Or.inr ⟨front, a, rest, rfl, hfront, hrest⟩
  | error f =>
    obtain ⟨rfl, rfl⟩ := Program.hears_done hrest
    exact Or.inl ⟨f, by rwa [List.append_nil], rfl⟩

theorem hears_ofExcept_bind {given : Except Failure α} {k : α → Task β} (h : Hears (ofExcept given >>= k) exchanges result) :
    (∃ f, given = .error f ∧ exchanges = [] ∧ result = .error f) ∨ ∃ a, given = .ok a ∧ Hears (k a) exchanges result := by
  cases given with
  | ok a => exact Or.inr ⟨a, rfl, h⟩
  | error f =>
    obtain ⟨rfl, rfl⟩ := Program.hears_done h
    exact Or.inl ⟨f, rfl, rfl, rfl⟩

theorem hears_send_bind {spec : RequestSpec} {k : Envelope → Task β} (h : Hears (send spec >>= k) exchanges result) :
    (∃ e, exchanges = [⟨spec, .error e⟩] ∧ result = .error (.ofSessionError e)) ∨
      ∃ reply rest, exchanges = ⟨spec, .ok reply⟩ :: rest ∧ Hears (k reply) rest result := by
  rw [Hears, program_bind] at h
  cases h with
  | execute h =>
    rename_i reply rest
    cases reply with
    | error e =>
      obtain ⟨rfl, rfl⟩ := Program.hears_done h
      exact Or.inl ⟨e, rfl, rfl⟩
    | ok reply => exact Or.inr ⟨reply, rest, rfl, h⟩

end Task

/-! ## Operations -/

/-- The attempt goes to where the exchange leads on a session of the configuration. -/
def Exchange.IsAddressedIn (config : SessionConfig) (e : Exchange) (a : Attempt) : Prop :=
  ∃ base, config.endpoint.baseUrl = .ok base ∧ e.IsAddressedAs base config.family.root a

theorem Exchange.IsAddressedIn.isAddressedAs {config : SessionConfig} {e : Exchange} {a : Attempt} (h : e.IsAddressedIn config a)
    {base : Url} (hbase : config.endpoint.baseUrl = .ok base) : e.IsAddressedAs base config.family.root a := by
  obtain ⟨other, hother, haddressed⟩ := h
  rw [hbase] at hother
  cases hother
  exact haddressed

namespace Operation

theorem run_report (op : Operation) (check : Bool) (files : FileTree) (config : SessionConfig) (wire : Wire) :
    (op.run check files config wire).1 = .ofResult (op.result check files config wire) := by
  unfold run result
  rcases withSession files config (op.task check (linkBudget wire)).program wire with ⟨ending, later⟩
  cases ending with
  | error e => rfl
  | ok ending =>
    cases ending with
    | error f => rfl
    | ok report => rfl

theorem run_of_result_error {op : Operation} {check : Bool} {files : FileTree} {config : SessionConfig} {wire : Wire}
    {f : Failure} (h : op.result check files config wire = .error f) :
    (op.run check files config wire).1.isFailed = true ∧ (op.run check files config wire).1.isChanged = false ∧
      (op.run check files config wire).1.isUnreachable = f.isUnreachable := by
  rw [run_report, h]
  exact ⟨Report.isFailed_ofFailure f, Report.isChanged_ofFailure f, Report.isUnreachable_ofFailure f⟩

/-- The attempts of a run: those of opening, those that carry its exchanges, and those of closing. -/
structure Attempts (op : Operation) (check : Bool) (files : FileTree) (config : SessionConfig) (wire : Wire)
    (opening sent closing : List Attempt) : Prop where
  attempts : (op.run check files config wire).2.attempts = wire.attempts ++ opening ++ sent ++ closing
  opening_length : opening.length ≤ 1
  opening_login : ∀ a ∈ opening, IsLogin config a.request
  closing_length : closing.length ≤ 1
  closing_deletion : ∀ a ∈ closing, ∃ id, IsDeletion config id a.request
  carried : AreCarried (fun e a => e.IsSentAs a ∧ e.IsAddressedIn config a) (op.transcript check files config wire) sent
  unsent : ∀ e ∈ op.transcript check files config wire, e.isUnsent = true ↔ ¬ IsSendable config wire.client e.spec
  /-- Where no session opens there is nothing to send, and otherwise the exchanges are those of the task. -/
  opened : match (Session.open files config wire).1 with
    | .error e => sent = [] ∧ op.result check files config wire = .error (.ofSessionError e)
    | .ok s => config.endpoint.baseUrl = .ok s.base ∧
      (op.task check (linkBudget wire)).Hears (op.transcript check files config wire) (op.result check files config wire)
  result : (∃ e, op.result check files config wire = .error (.ofSessionError e) ∧
      op.transcript check files config wire = [] ∧
      ((Failure.ofSessionError e).isUnreachable = true ↔
        (∃ a ∈ opening, a.isLost = true) ∨ RefusesLogin files config wire.client) ∧
      (RefusesLogin files config wire.client → opening = [])) ∨
    ((∀ a ∈ opening, a.succeeded = true) ∧ ¬ RefusesLogin files config wire.client ∧
      (op.task check (linkBudget wire)).Hears (op.transcript check files config wire) (op.result check files config wire))

/-- Behind the opening each exchange that can be sent is one attempt, sent to where its path leads, and then the session is
deleted. -/
theorem opened_attempts {files : FileTree} {config : SessionConfig} {wire opened : Wire} {s : Session}
    (h : Session.open files config wire = (.ok s, opened)) (op : Operation) (check : Bool) :
    ∃ sent closing : List Attempt, (op.run check files config wire).2.attempts = opened.attempts ++ sent ++ closing ∧
      AreCarried (fun e a => e.IsSentAs a ∧ e.IsAddressedAs s.base s.family.root a)
        (op.transcript check files config wire) sent ∧
      (∀ e ∈ op.transcript check files config wire, e.isUnsent = true ↔ ¬ IsSendable config wire.client e.spec) ∧
      closing.length ≤ 1 ∧ ∀ a ∈ closing, ∃ id, IsDeletion config id a.request := by
  have hresult := open_result files config wire
  have hclient := open_client files config wire
  rw [h] at hresult hclient
  obtain ⟨hs, _⟩ := hresult
  obtain ⟨hsession, _, ⟨sent, hlog, hsent⟩, hunsent⟩ :=
    (op.task_isPlain check (linkBudget wire)).run_carried hs.isReady opened
  obtain ⟨closing, hclosing, hlength, hdeletion⟩ :=
    hs.close_deletion ((op.task check (linkBudget wire)).program.run s opened).2.2
  rw [(opened_run h op check).1]
  refine ⟨sent, closing, ?_, hsent, fun e he => ?_, hlength, hdeletion⟩
  · rw [run_of_ok h, hsession, hclosing, hlog]
  · obtain ⟨hheaders, hiff⟩ := hunsent e he
    rw [hiff, open_canSend_iff h hheaders, show opened.client = wire.client from hclient]

theorem run_attempts (op : Operation) (check : Bool) (files : FileTree) (config : SessionConfig) (wire : Wire) :
    ∃ opening sent closing, op.Attempts check files config wire opening sent closing := by
  obtain ⟨opening, hopening, hlength, hlogin⟩ := open_sent files config wire
  obtain ⟨same, hsame, htold⟩ := open_told files config wire
  -- Both describe what opening appends to the log, so they speak of the same attempts.
  obtain rfl : opening = same := List.append_cancel_left (hopening.symm.trans hsame)
  have hresult := open_result files config wire
  have hrefuses := open_unsendable_iff files config wire
  rcases ho : Session.open files config wire with ⟨shown, opened⟩
  rw [ho] at hopening htold hresult hrefuses
  cases shown with
  | error e =>
    obtain ⟨htranscript, hended⟩ := unopened_run ho op check
    obtain ⟨hlost, hnone⟩ := htold
    rw [Except.error.injEq] at hrefuses
    rw [hrefuses] at hlost hnone
    exact ⟨opening, [], [], {
      attempts := by rw [run_of_error ho, hopening, List.append_nil, List.append_nil]
      opening_length := hlength
      opening_login := hlogin
      closing_length := Nat.zero_le 1
      closing_deletion := fun a ha => absurd ha List.not_mem_nil
      carried := by
        rw [htranscript]
        exact .nil
      unsent := by
        rw [htranscript]
        exact fun e he => absurd he List.not_mem_nil
      opened := by
        rw [ho]
        exact ⟨rfl, hended⟩
      result := Or.inl ⟨e, hended, htranscript, hlost, hnone⟩ }⟩
  | ok s =>
    obtain ⟨hs, _⟩ := hresult
    obtain ⟨sent, closing, hattempts, hsent, hunsent, hclosingLength, hdeletion⟩ := opened_attempts ho op check
    obtain ⟨htranscript, hended⟩ := opened_run ho op check
    have hhears : (op.task check (linkBudget wire)).Hears (op.transcript check files config wire)
        (op.result check files config wire) := by
      rw [htranscript, hended]
      exact Program.hears_transcript _ s opened
    have htaken : ¬ RefusesLogin files config wire.client := by
      intro hrefused
      cases hrefuses.mpr hrefused
    rw [hs.family] at hsent
    exact ⟨opening, sent, closing, {
      attempts := by rw [hattempts, hopening]
      opening_length := hlength
      opening_login := hlogin
      closing_length := hclosingLength
      closing_deletion := hdeletion
      carried := hsent.imp (fun e a h => ⟨h.1, s.base, hs.base, h.2⟩)
      unsent := hunsent
      opened := by
        rw [ho]
        exact ⟨hs.base, hhears⟩
      result := Or.inr ⟨htold, htaken, hhears⟩ }⟩

variable {op : Operation} {check : Bool} {files : FileTree} {config : SessionConfig} {wire : Wire}
  {opening sent closing : List Attempt}

theorem Attempts.attempts_append (h : op.Attempts check files config wire opening sent closing) :
    (op.run check files config wire).2.attempts = wire.attempts ++ (opening ++ sent ++ closing) := by
  rw [h.attempts, List.append_assoc, List.append_assoc, List.append_assoc]

theorem Attempts.isHarmless_or_mem (h : op.Attempts check files config wire opening sent closing) {a : Attempt}
    (ha : a ∈ opening ++ sent ++ closing) : IsHarmless config a.request ∨ a ∈ sent := by
  rcases List.mem_append.mp ha with ha | ha
  · rcases List.mem_append.mp ha with ha | ha
    · exact Or.inl (Or.inr (Or.inl (h.opening_login a ha)))
    · exact Or.inr ha
  · exact Or.inl (Or.inr (Or.inr (h.closing_deletion a ha)))

theorem Attempts.exists_exchange (h : op.Attempts check files config wire opening sent closing) {a : Attempt}
    (ha : a ∈ sent) : ∃ e ∈ op.transcript check files config wire, e.isUnsent = false ∧ e.IsSentAs a := by
  obtain ⟨e, he, hsent, hcarried, _⟩ := h.carried.exists_of_mem_sent ha
  exact ⟨e, he, hsent, hcarried⟩

/-- Where the identifier can stand in a header, an exchange is not sent exactly if the client does not take its URL. -/
theorem Attempts.isUnsent_iff_refusesUrl (h : op.Attempts check files config wire opening sent closing)
    (hid : HasSendableIdentifier config) {e : Exchange} (he : e ∈ op.transcript check files config wire) :
    e.isUnsent = true ↔ RefusesUrl config wire.client e.spec := by
  rw [h.unsent e he]
  exact ⟨fun hno => by_contra (fun htaken => hno ⟨hid, htaken⟩), fun hrefused hyes => hyes.url hrefused⟩

end Operation

end OutOfBand
