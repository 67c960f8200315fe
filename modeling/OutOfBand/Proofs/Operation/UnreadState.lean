import OutOfBand.Proofs.Operation.Observation

/-! # States that cannot be read

An operation that changes something decides on what its reading shows. Without an answer it fails, and so it
does with an answer in which the power state or the attribute is missing. The presence of a job is told by
the status of the answer alone, so an answer with any body has the job deleted. The length of the job queue
is read leniently: an answer that lists nothing at all passes for an empty queue, and the operation does not
fail on it as the others do.
-/
namespace OutOfBand.Operation

open OutOfBand.Task Http Session

variable {op : Operation} {check : Bool} {files : FileTree} {config : SessionConfig} {wire : Wire}
  {opening sent closing : List Attempt} {front : List Exchange} {change : RequestSpec}

/-! ## Decisions without a state -/

theorem resetTarget_of_no_state {body : Json} (h : body.textMember? "PowerState" = none) :
    ∃ f, resetTarget body = .error f := by
  unfold resetTarget
  split
  · exact ⟨_, rfl⟩
  split
  · exact ⟨_, rfl⟩
  rw [h]
  exact ⟨_, rfl⟩

theorem observedAttributes_of_no_attribute {body : Json}
    (h : (body.member? "Attributes").bind (·.member? inventoryAttribute) = none) : observedAttributes body = none := by
  unfold observedAttributes
  cases hattributes : body.member? "Attributes" with
  | none => rfl
  | some attributes =>
    rw [hattributes, Option.bind_some] at h
    cases attributes with
    | object members =>
      have hnone : Fields.contains members inventoryAttribute = false := by
        rw [Fields.contains, show Fields.get? members inventoryAttribute = none from h]
        rfl
      simp [Json.members?, Option.filter, hnone]
    | _ => rfl

theorem memberIds_of_no_members {body : Json} (h : body.itemsMember? "Members" = none) : Jobs.memberIds body = [] := by
  rw [Jobs.memberIds, h]
  rfl

theorem deltaKeys_queueLength (n : Nat) : deltaKeys (queueLength 0) (queueLength n) = [] ↔ n = 0 := by
  have hsame : (Json.ofNat 0 == Json.ofNat n) = decide ((0 : Int) = n) := rfl
  have hdiffers : differs (Json.ofNat 0) (some (Json.ofNat n)) = !decide ((0 : Int) = n) := by
    simp only [Json.ofNat, differs, valuesMatch] at hsame ⊢
    rw [hsame, Bool.or_false]
  have hzero : (0 : Int) = n ↔ n = 0 := by omega
  rw [queueLength, queueLength, deltaKeys_singleton, hdiffers, Bool.not_eq_false', decide_eq_true_iff, hzero]

/-! ## Runs -/

/-- Nothing is reported as changed, and nothing was sent that changes more than sessions. -/
def ChangesNothing (config : SessionConfig) (report : Report) (sent : List Attempt) : Prop :=
  report.isChanged = false ∧ ∀ a ∈ sent, IsHarmless config a.request

/-- What was not sent does not matter. -/
theorem Attempts.isHarmless (h : op.Attempts check files config wire opening sent closing)
    (hget : ∀ e ∈ op.transcript check files config wire, e.isUnsent = false → e.spec.method = "GET") :
    ∀ a ∈ opening ++ sent ++ closing, IsHarmless config a.request := by
  intro a ha
  rcases h.isHarmless_or_mem ha with hharmless | ha
  · exact hharmless
  · obtain ⟨e, he, hsent, hcarried⟩ := h.exists_exchange ha
    exact Or.inl (by rw [hcarried.method, hget e he hsent])

/-- Where something was answered, the client does not send another request only if it does not take the URL. -/
theorem Attempts.refusesUrl (h : op.Attempts check files config wire opening sent closing) {answered e : Exchange}
    (hanswered : answered ∈ op.transcript check files config wire) {reply : Envelope} (hreply : answered.reply = .ok reply)
    (he : e ∈ op.transcript check files config wire) (hunsent : e.isUnsent = true) : RefusesUrl config wire.client e.spec := by
  by_contra htaken
  have hsendable : IsSendable config wire.client answered.spec := by
    by_contra hno
    have hnone := (h.unsent answered hanswered).mpr hno
    rw [Exchange.isUnsent, hreply] at hnone
    cases hnone
  exact (h.unsent e he).mp hunsent ⟨hsendable.identifier, htaken⟩

theorem Attempts.fails (h : op.Attempts check files config wire opening sent closing)
    (hget : ∀ e ∈ op.transcript check files config wire, e.spec.method = "GET")
    (hfailed : ∃ f, op.result check files config wire = .error f) :
    (op.run check files config wire).1.isFailed = true ∧
      ChangesNothing config (op.run check files config wire).1 (opening ++ sent ++ closing) := by
  obtain ⟨f, hf⟩ := hfailed
  obtain ⟨hisFailed, hisChanged, _⟩ := run_of_result_error hf
  exact ⟨hisFailed, hisChanged, h.isHarmless (fun e he _ => hget e he)⟩

section

variable (h : op.Attempts check files config wire opening sent closing)
  (hget : ∀ e ∈ front, e.spec.method = "GET") {reply : Envelope} (hstatus : reply.isSuccess = true)
  (hensues : Ensues change front (op.decision? check (.ok reply)) (op.transcript check files config wire)
    (op.result check files config wire))

include h hget hstatus hensues

theorem fails_of_unobserved (hnone : op.observed? reply.body = none) :
    (op.run check files config wire).1.isFailed = true ∧
      ChangesNothing config (op.run check files config wire).1 (opening ++ sent ++ closing) := by
  rw [decision?_of_success op hstatus, hnone] at hensues
  obtain ⟨htranscript, hfailed⟩ := hensues.of_none
  exact h.fails (by rwa [htranscript]) hfailed

theorem changesNothing_of_settled {observed : Object} (hobserved : op.observed? reply.body = some observed)
    (hkeys : deltaKeys op.desired observed = []) :
    ChangesNothing config (op.run check files config wire).1 (opening ++ sent ++ closing) := by
  rw [decision?_of_success op hstatus, hobserved, plannedAction, if_pos hkeys] at hensues
  obtain ⟨htranscript, report, hreport, hverdict⟩ := hensues.of_noop
  rw [← htranscript] at hget
  refine ⟨?_, h.isHarmless (fun e he _ => hget e he)⟩
  rw [run_report, hreport, Report.ofResult, Report.isChanged, hverdict]
  rfl

theorem told_of_due {observed : Object} (hobserved : op.observed? reply.body = some observed)
    (hkeys : deltaKeys op.desired observed ≠ []) (hcheck : check = true) :
    (op.run check files config wire).1.isChanged = true ∧
      ∀ a ∈ opening ++ sent ++ closing, IsHarmless config a.request := by
  rw [decision?_of_success op hstatus, hobserved, plannedAction, if_neg hkeys, if_pos hcheck] at hensues
  obtain ⟨htranscript, hreport⟩ := hensues.of_wouldChange
  rw [← htranscript] at hget
  refine ⟨?_, h.isHarmless (fun e he _ => hget e he)⟩
  rw [run_report, hreport]
  rfl

/-- A change that is due is sent, unless the client does not take its URL. The report tells how it went. -/
theorem sent_of_due {observed : Object} (hobserved : op.observed? reply.body = some observed)
    (hkeys : deltaKeys op.desired observed ≠ []) (hcheck : check = false) {reading : Exchange}
    (hreading : reading ∈ op.transcript check files config wire) (hreply : reading.reply = .ok reply) :
    (∃ a ∈ sent, a.request.method = change.method ∧ a.request.body = change.body ∧
        (op.run check files config wire).1.Tells a.succeeded) ∨
      (RefusesUrl config wire.client change ∧ (op.run check files config wire).1.Tells false ∧
        ∀ a ∈ opening ++ sent ++ closing, IsHarmless config a.request) := by
  have hnot : ¬ check = true := Bool.eq_false_iff.mp hcheck
  rw [decision?_of_success op hstatus, hobserved, plannedAction, if_neg hkeys, if_neg hnot] at hensues
  obtain ⟨last, htranscript, htells⟩ := hensues.of_apply
  rw [← run_report] at htells
  have hlast : (⟨change, last⟩ : Exchange) ∈ op.transcript check files config wire := by
    rw [htranscript]
    exact List.mem_append_right _ List.mem_cons_self
  cases hunsent : Exchange.isUnsent ⟨change, last⟩ with
  | false =>
    obtain ⟨a, ha, hcarried, _⟩ := h.carried.exists_sent_of_mem hlast hunsent
    exact Or.inl ⟨a, ha, hcarried.method, hcarried.body, by rwa [hcarried.succeeded]⟩
  | true =>
    have hrefused := h.refusesUrl hreading hreply hlast hunsent
    have hlost : last = .error .unsendable := isUnsent_iff.mp hunsent
    have hbad : isAnsweredWell last = false := by
      rw [hlost]
      rfl
    rw [hbad] at htells
    refine Or.inr ⟨hrefused, htells, h.isHarmless (fun e he hsent => ?_)⟩
    rw [htranscript] at he
    rcases List.mem_append.mp he with he | he
    · exact hget e he
    · rw [List.mem_singleton.mp he, hunsent] at hsent
      cases hsent

theorem eq_nil_of_unchanged {observed : Object} (hobserved : op.observed? reply.body = some observed) {reading : Exchange}
    (hreading : reading ∈ op.transcript check files config wire) (hreply : reading.reply = .ok reply)
    (hdone : (op.run check files config wire).1.isFailed = false)
    (hunchanged : (op.run check files config wire).1.isChanged = false) : deltaKeys op.desired observed = [] := by
  by_contra hkeys
  cases hcheck : check with
  | true =>
    rw [(told_of_due h hget hstatus hensues hobserved hkeys hcheck).1] at hunchanged
    cases hunchanged
  | false =>
    have htold : ∃ isDone, (op.run check files config wire).1.Tells isDone := by
      rcases sent_of_due h hget hstatus hensues hobserved hkeys hcheck hreading hreply with ⟨a, _, _, _, htells⟩ | ⟨_, htells, _⟩
      · exact ⟨_, htells⟩
      · exact ⟨_, htells⟩
    obtain ⟨isDone, htells⟩ := htold
    -- A change that went well is reported as one, and any other as a failure.
    cases isDone with
    | true =>
      rw [htells.isChanged_iff.mpr rfl] at hunchanged
      cases hunchanged
    | false =>
      rw [htells.isFailed_iff.mpr rfl] at hdone
      cases hdone

end

/-- An operation that changes something fails and changes nothing if its reading is not made or not answered with a
successful status. With such an answer it decides on what the answer shows. -/
theorem run_decides_on_reading (op : Operation) (hop : op.changesState = true) (check : Bool) (files : FileTree)
    (config : SessionConfig) (wire : Wire) :
    ∃ sent : List Attempt, (op.run check files config wire).2.attempts = wire.attempts ++ sent ∧
      let report := (op.run check files config wire).1
      match op.stateReading? (op.transcript check files config wire) with
      | none => report.isFailed = true ∧ ChangesNothing config report sent
      | some reading => reading.spec.method = "GET" ∧
        (reading.isAnswered = false → report.isFailed = true ∧ ChangesNothing config report sent) ∧
        ∀ reply, reading.reply = .ok reply → reply.isSuccess = true →
          match op with
          | deleteJob jobId =>
            if check then report.isChanged = true ∧ ∀ a ∈ sent, IsHarmless config a.request
            else
              (∃ a ∈ sent, a.request.method = "POST" ∧
                a.request.body = some (.ofEntries [("JobID", .string (Text.trim jobId))])) ∨
              (RefusesUrl config wire.client (Jobs.deletionRequest (Text.trim jobId)) ∧ report.isFailed = true ∧
                ChangesNothing config report sent)
          | clearQueue =>
            (reply.body.itemsMember? "Members" = none → ChangesNothing config report sent) ∧
              (report.isFailed = false → report.isChanged = false → Jobs.memberIds reply.body = [])
          | power .. => reply.body.textMember? "PowerState" = none →
            report.isFailed = true ∧ ChangesNothing config report sent
          | inventory _ => (reply.body.member? "Attributes").bind (·.member? inventoryAttribute) = none →
            report.isFailed = true ∧ ChangesNothing config report sent
          | _ => True := by
  obtain ⟨opening, sent, closing, h⟩ := op.run_attempts check files config wire
  refine ⟨opening ++ sent ++ closing, h.attempts_append, ?_⟩
  dsimp only
  rcases h.result with ⟨e, hresult, hnone, _⟩ | ⟨_, _, hhears⟩
  · rw [show op.stateReading? (op.transcript check files config wire) = none by rw [hnone, stateReading?_nil]]
    refine h.fails ?_ ⟨_, hresult⟩
    rw [hnone]
    exact none_unanswered
  rcases task_ensues hop hhears with ⟨hread, hget, hfailed⟩ | ⟨front, reading, change, hread, hmethod, hget, hchanges, hensues⟩
  · rw [hread]
    exact h.fails hget hfailed
  rw [hread]
  refine ⟨hmethod, fun hbad => ?_, fun reply hreply hstatus => ?_⟩
  · rw [decision?_of_unanswered op hbad] at hensues
    obtain ⟨htranscript, hfailed⟩ := hensues.of_none
    exact h.fails (by rwa [htranscript]) hfailed
  rw [hreply] at hensues
  cases op with
  | deleteJob jobId =>
    have hkeys : deltaKeys (presence false) (presence true) ≠ [] := by decide +kernel
    cases check with
    | true => exact told_of_due h hget hstatus hensues rfl hkeys rfl
    | false =>
      have hchange : change = Jobs.deletionRequest (Text.trim jobId) := hchanges
      rcases sent_of_due h hget hstatus hensues rfl hkeys rfl (mem_of_stateReading? hread) hreply with
        ⟨a, ha, hmethod, hbody, _⟩ | ⟨hrefused, htells, hharmless⟩
      · rw [hchange] at hmethod hbody
        exact Or.inl ⟨a, List.mem_append_left _ (List.mem_append_right _ ha), hmethod, hbody⟩
      · rw [hchange] at hrefused
        exact Or.inr ⟨hrefused, htells.isFailed_iff.mpr rfl, Verdict.IsFailure.isChanged htells, hharmless⟩
  | clearQueue =>
    refine ⟨fun hnone => ?_, fun hdone hunchanged => ?_⟩
    · have hids := memberIds_of_no_members hnone
      refine changesNothing_of_settled h hget hstatus hensues rfl ?_
      rw [desired, deltaKeys_queueLength, hids]
      rfl
    · have hkeys := eq_nil_of_unchanged h hget hstatus hensues rfl (mem_of_stateReading? hread) hreply hdone hunchanged
      exact List.eq_nil_of_length_eq_zero ((deltaKeys_queueLength _).mp hkeys)
  | power reset resource =>
    intro hnone
    obtain ⟨f, hf⟩ := resetTarget_of_no_state hnone
    refine fails_of_unobserved h hget hstatus hensues ?_
    rw [observed?, hf]
  | inventory state =>
    intro hnone
    exact fails_of_unobserved h hget hstatus hensues (observedAttributes_of_no_attribute hnone)
  | _ => cases hop

/-- Attributes behind which there is a page of markup. -/
theorem run_decides_on_markup :
    let config : SessionConfig := ⟨⟨"127.0.0.1", 443, .http, .system, 30000⟩, .token "t", .redfish, none⟩
    let device : Device := ⟨.ipv4 0x7F000001, 443, true, none, [.answer 200 [] (Text.encodeUtf8 "<html>")]⟩
    (inventory .enabled).changesState = true ∧
      ((inventory .enabled).run false FileTree.empty config ⟨device, []⟩).1.isFailed = true := by
  intro config device
  refine ⟨rfl, ?_⟩
  have hany : ((inventory .enabled).stateReading? ((inventory .enabled).transcript false FileTree.empty config ⟨device, []⟩)).any
      (fun reading => reading.reply.toOption.any (fun reply => reply.isSuccess && reply.body.isNull)) = true := by
    decide +kernel
  obtain ⟨reading, hreading, hreply⟩ := Option.any_eq_true _ _ |>.mp hany
  obtain ⟨reply, hreply, hbody⟩ := Option.any_eq_true _ _ |>.mp hreply
  rw [Bool.and_eq_true] at hbody
  have hnone : (reply.body.member? "Attributes").bind (·.member? inventoryAttribute) = none := by
    cases hnull : reply.body with
    | null => rfl
    | _ =>
      rw [hnull] at hbody
      cases hbody.2
  obtain ⟨sent, hdecides⟩ := run_decides_on_reading (inventory .enabled) rfl false FileTree.empty config ⟨device, []⟩
  rw [hreading] at hdecides
  exact (hdecides.2.2.2 reply (eq_ok_of_toOption hreply) hbody.1 hnone).1

-- A job whose status stands before a page of markup is deleted.
example :
    let config : SessionConfig := ⟨⟨"127.0.0.1", 443, .http, .system, 30000⟩, .token "t", .redfish, none⟩
    let device : Device :=
      ⟨.ipv4 0x7F000001, 443, true, none, [.answer 200 [] (Text.encodeUtf8 "<html>"), .answer 200 [] []]⟩
    ((deleteJob "JID_1").run false FileTree.empty config ⟨device, []⟩).1.isFailed = false ∧
      ((deleteJob "JID_1").run false FileTree.empty config ⟨device, []⟩).2.attempts.any
        (fun a => a.request.method == "POST" && a.succeeded) = true := by
  decide +kernel

/-- Answers that list nothing pass for an empty queue. -/
theorem run_empties_unread_queue :
    let config : SessionConfig := ⟨⟨"127.0.0.1", 443, .http, .system, 30000⟩, .token "t", .redfish, none⟩
    let run (body : String) :=
      clearQueue.run false FileTree.empty config ⟨⟨.ipv4 0x7F000001, 443, true, none, [.answer 200 [] (Text.encodeUtf8 body)]⟩, []⟩
    (run "\x7b\x7d").1.isFailed = false ∧ (run "\x7b\x7d").1.message = "The job queue is already empty." ∧
      (run "<html>").1.isFailed = false ∧ (run "<html>").1.message = "The job queue is already empty." := by
  decide +kernel

end OutOfBand.Operation
