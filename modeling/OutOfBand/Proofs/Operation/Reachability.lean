import OutOfBand.Proofs.Operation.Entries
import OutOfBand.Proofs.Operation.Trouble

/-! # Unreachable devices

A report says that the device is unreachable exactly if an attempt came to no complete response, or if
something was asked for that the client cannot send. The latter is told like a device that does not
answer, though nothing was attempted: an identifier of a vCenter that cannot stand in a header, or a URL
that the client does not take. A request that is redirected too often comes to no response either.
-/
namespace OutOfBand

open Http Session

namespace Task.Ended

variable {exchanges : List Exchange} {ending : Except Failure Report}

/-- An exchange without a successful status is the one that the task has failed on. -/
theorem of_unanswered (h : Ended Operation.IsReached exchanges ending) {e : Exchange} (he : e ∈ exchanges)
    (hbad : e.isAnswered = false) : ∃ f, ending = .error f ∧ f.isUnreachable = e.isLost := by
  cases h with
  | value hall _ =>
    rw [hall e he] at hbad
    cases hbad
  | failure hall _ =>
    rw [hall e he] at hbad
    cases hbad
  | @trouble front last f hall _ hf =>
    rcases List.mem_append.mp he with he | he
    · rw [hall e he] at hbad
      cases hbad
    · rw [List.mem_singleton.mp he]
      exact ⟨f, rfl, hf⟩

theorem isUnreachable_iff (h : Ended Operation.IsReached exchanges ending) :
    (Report.ofResult ending).isUnreachable = true ↔ ∃ e ∈ exchanges, e.isLost = true := by
  constructor
  · intro hunreachable
    cases h with
    | value _ hreached =>
      rw [Report.ofResult, hreached] at hunreachable
      cases hunreachable
    | failure _ hf =>
      rw [Report.ofResult, Report.isUnreachable_ofFailure, hf] at hunreachable
      cases hunreachable
    | @trouble front last f _ _ hf =>
      rw [Report.ofResult, Report.isUnreachable_ofFailure, hf] at hunreachable
      exact ⟨last, List.mem_append_right _ List.mem_cons_self, hunreachable⟩
  · rintro ⟨e, he, hlost⟩
    have hbad : e.isAnswered = false := by
      refine Bool.eq_false_iff.mpr (fun hgood => ?_)
      rw [Exchange.isLost_of_isAnswered hgood] at hlost
      cases hlost
    obtain ⟨f, rfl, hf⟩ := h.of_unanswered he hbad
    rw [Report.ofResult, Report.isUnreachable_ofFailure, hf, hlost]

end Task.Ended

namespace Operation

variable {op : Operation} {check : Bool} {files : FileTree} {config : SessionConfig} {wire : Wire}
  {opening sent closing : List Attempt}

theorem Attempts.not_isDeletion (h : op.Attempts check files config wire opening sent closing) {a : Attempt}
    (ha : a ∈ opening ++ sent) (id : String) : ¬ IsDeletion config id a.request := by
  rcases List.mem_append.mp ha with ha | ha
  · exact (h.opening_login a ha).not_isDeletion id
  · intro hdeletion
    obtain ⟨e, _, _, hcarried⟩ := h.exists_exchange ha
    exact hdeletion.not_asksForJson hcarried.asksForJson

/-- The exchanges of a run are lost exactly if attempts were, or if they could not be attempted at all. -/
theorem Attempts.exists_isLost_iff (h : op.Attempts check files config wire opening sent closing) :
    (∃ e ∈ op.transcript check files config wire, e.isLost = true) ↔
      (∃ a ∈ sent, a.isLost = true) ∨
        ∃ e ∈ op.transcript check files config wire, ¬ IsSendable config wire.client e.spec := by
  constructor
  · rintro ⟨e, he, hlost⟩
    cases hunsent : e.isUnsent with
    | true => exact Or.inr ⟨e, he, (h.unsent e he).mp hunsent⟩
    | false =>
      obtain ⟨a, ha, hsent, _⟩ := h.carried.exists_sent_of_mem he hunsent
      exact Or.inl ⟨a, ha, by rw [hsent.isLost, hlost]⟩
  · rintro (⟨a, ha, hlost⟩ | ⟨e, he, hunsendable⟩)
    · obtain ⟨e, he, _, hsent⟩ := h.exists_exchange ha
      exact ⟨e, he, by rw [← hsent.isLost, hlost]⟩
    · exact ⟨e, he, Exchange.isLost_of_isUnsent ((h.unsent e he).mpr hunsendable)⟩

theorem Attempts.sent_eq_nil (h : op.Attempts check files config wire opening sent closing)
    (hnone : op.transcript check files config wire = []) : sent = [] := by
  refine List.eq_nil_iff_forall_not_mem.mpr (fun a ha => ?_)
  obtain ⟨e, he, _⟩ := h.exists_exchange ha
  rw [hnone] at he
  cases he

/-- With an identifier that cannot stand in a header nothing is attempted. -/
theorem Attempts.eq_nil_of_identifier (h : op.Attempts check files config wire opening sent closing)
    (hid : ¬ HasSendableIdentifier config) : opening ++ sent = [] := by
  refine List.eq_nil_iff_forall_not_mem.mpr (fun a ha => ?_)
  rcases List.mem_append.mp ha with ha | ha
  · -- Only the vCenter integration has an identifier, and it has no login.
    obtain ⟨_, _, _, path, _, _, _, hpath, _, _⟩ := h.opening_login a ha
    refine hid (hasSendableIdentifier_of_ne (fun hfamily => ?_))
    rw [hfamily] at hpath
    cases hpath
  · obtain ⟨e, he, hsent, _⟩ := h.exists_exchange ha
    have hunsent := (h.unsent e he).mpr (fun hsendable => hid hsendable.identifier)
    rw [hsent] at hunsent
    cases hunsent

theorem Attempts.eq_nil_of_refusesLogin (h : op.Attempts check files config wire opening sent closing)
    (hrefused : RefusesLogin files config wire.client) : opening ++ sent = [] := by
  rcases h.result with ⟨_, _, hnone, _, hnoLogin⟩ | ⟨_, htaken, _⟩
  · rw [hnoLogin hrefused, h.sent_eq_nil hnone, List.append_nil]
  · exact absurd hrefused htaken

theorem Attempts.isUnreachable_iff (h : op.Attempts check files config wire opening sent closing) :
    (op.run check files config wire).1.isUnreachable = true ↔ (∃ a ∈ opening ++ sent, a.isLost = true) ∨
      RefusesLogin files config wire.client ∨
        ∃ e ∈ op.transcript check files config wire, ¬ IsSendable config wire.client e.spec := by
  rcases h.result with ⟨e, hresult, hnone, htold, _⟩ | ⟨hopening, htaken, hhears⟩
  · -- The session did not open, so the login is all that was attempted.
    rw [(run_of_result_error hresult).2.2, htold, h.sent_eq_nil hnone, List.append_nil]
    simp only [hnone, List.not_mem_nil, false_and, exists_false, or_false]
  · have hended := op.task_stopsAtTrouble check (linkBudget wire) _ _ hhears
    have hkept : ¬ ∃ a ∈ opening, a.isLost = true := by
      rintro ⟨a, ha, hlost⟩
      rw [a.isLost_of_succeeded (hopening a ha)] at hlost
      cases hlost
    rw [run_report, hended.isUnreachable_iff, h.exists_isLost_iff]
    simp only [List.mem_append, or_and_right, exists_or, hkept, htaken, false_or]

theorem Attempts.run_of_status (h : op.Attempts check files config wire opening sent closing) {a : Attempt}
    (ha : a ∈ opening ++ sent) (hkept : a.isLost = false) (hbad : a.succeeded = false) :
    (op.run check files config wire).1.isFailed = true ∧ (op.run check files config wire).1.isUnreachable = false := by
  rcases h.result with ⟨e, hresult, hnone, htold, hnoLogin⟩ | ⟨hopening, _, hhears⟩
  · obtain ⟨hisFailed, _, hunreachable⟩ := run_of_result_error hresult
    refine ⟨hisFailed, ?_⟩
    rw [hunreachable, Bool.eq_false_iff, Ne, htold]
    rw [h.sent_eq_nil hnone, List.append_nil] at ha
    rintro (⟨b, hb, hlost⟩ | hrefused)
    · -- There is one login at most, so the attempt with the error status would be the one that is lost.
      obtain ⟨c, hc⟩ := List.length_eq_one_iff.mp (Nat.le_antisymm h.opening_length (List.length_pos_of_mem ha))
      rw [hc, List.mem_singleton] at ha hb
      rw [ha, ← hb, hlost] at hkept
      cases hkept
    · rw [hnoLogin hrefused] at ha
      cases ha
  rcases List.mem_append.mp ha with ha | ha
  · rw [hopening a ha] at hbad
    cases hbad
  · obtain ⟨e, he, _, hcarried⟩ := h.exists_exchange ha
    have hended := op.task_stopsAtTrouble check (linkBudget wire) _ _ hhears
    obtain ⟨f, hf, hunreachable⟩ := hended.of_unanswered he (by rw [← hcarried.succeeded, hbad])
    obtain ⟨hisFailed, _, hreport⟩ := run_of_result_error hf
    refine ⟨hisFailed, ?_⟩
    rw [hreport, hunreachable, ← hcarried.isLost, hkept]

/-- The report says that the device is unreachable exactly if, before closing, an attempt came to no complete response,
or if something was asked for that the client cannot send: a login whose URL it does not take, or a request of the
operation whose URL it does not take or whose identifier cannot stand in a header. None of these is attempted. Such a
report is a failure without a change. A complete response with an error status makes a failure that is not called
unreachable, as do refused input and a state that cannot be told. -/
theorem run_isUnreachable_iff (op : Operation) (check : Bool) (files : FileTree) (config : SessionConfig) (wire : Wire) :
    ∃ opening sent closing : List Attempt,
      (op.run check files config wire).2.attempts = wire.attempts ++ opening ++ sent ++ closing ∧
      (∀ a ∈ opening, IsLogin config a.request) ∧
      closing.length ≤ 1 ∧ (∀ a ∈ closing, ∃ id, IsDeletion config id a.request) ∧
      (∀ a ∈ opening ++ sent, ∀ id, ¬ IsDeletion config id a.request) ∧
      AreCarried Exchange.IsSentAs (op.transcript check files config wire) sent ∧
      (∀ e ∈ op.transcript check files config wire, e.isUnsent = true ↔ ¬ IsSendable config wire.client e.spec) ∧
      (RefusesLogin files config wire.client ∨ ¬ HasSendableIdentifier config → opening ++ sent = []) ∧
      let report := (op.run check files config wire).1
      (report.isUnreachable = true ↔ (∃ a ∈ opening ++ sent, a.isLost = true) ∨
        RefusesLogin files config wire.client ∨
          ∃ e ∈ op.transcript check files config wire, ¬ IsSendable config wire.client e.spec) ∧
      (report.isUnreachable = true → report.isFailed = true ∧ report.isChanged = false) ∧
      (∀ a ∈ opening ++ sent, a.isLost = false → a.succeeded = false →
        report.isFailed = true ∧ report.isUnreachable = false) ∧
      (∀ f, op.result check files config wire = .error f →
        report.isFailed = true ∧ report.isChanged = false ∧ report.isUnreachable = f.isUnreachable) := by
  obtain ⟨opening, sent, closing, h⟩ := op.run_attempts check files config wire
  refine ⟨opening, sent, closing, h.attempts, h.opening_login, h.closing_length, h.closing_deletion,
    fun a ha id => h.not_isDeletion ha id, h.carried.imp (fun e a hcarried => hcarried.1), h.unsent, ?_, h.isUnreachable_iff,
    ?_, fun a ha hkept hbad => h.run_of_status ha hkept hbad, fun f hf => run_of_result_error hf⟩
  · rintro (hrefused | hid)
    · exact h.eq_nil_of_refusesLogin hrefused
    · exact h.eq_nil_of_identifier hid
  · intro hunreachable
    have hsound := (op.run_isBuilt check files config wire).isSound
    exact ⟨hsound.failed hunreachable, hsound.not_changed (hsound.failed hunreachable)⟩

/-- An identifier with a line break: the report calls the device unreachable, and nothing was attempted. -/
theorem run_unreachable_without_attempt :
    let config : SessionConfig := ⟨⟨"127.0.0.1", 443, .http, .system, 30000⟩, .token "t", .omevv, some "a\nb"⟩
    let device : Device := ⟨.ipv4 0x7F000001, 443, true, none, [.answer 200 [] (Text.encodeUtf8 "[]")]⟩
    ((consoles none).run false FileTree.empty config ⟨device, []⟩).1.isUnreachable = true ∧
      ((consoles none).run false FileTree.empty config ⟨device, []⟩).2.attempts.isEmpty = true := by
  decide +kernel

end Operation

end OutOfBand
