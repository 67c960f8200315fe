import Mathlib.Data.List.DropRight
import OutOfBand.Proofs.Operation.Decision

/-! # Observation

What each of the four operations that change something hears before it ends: its readings, and behind them
what ensues from the state that they show.
-/
namespace OutOfBand

open Http

/-! ## Job ids -/

theorem Text.trimChars_trimChars (cs : List Char) : trimChars (trimChars cs) = trimChars cs := by
  have hfront : List.dropWhile isBlank (trimChars cs) = trimChars cs := by
    rw [List.dropWhile_eq_self_iff]
    intro hpos
    have hpre : trimChars cs <+: List.dropWhile isBlank cs := List.rdropWhile_prefix isBlank _
    rw [hpre.getElem hpos]
    exact List.dropWhile_eq_self_iff.mp (List.dropWhile_idempotent isBlank cs) _
  have hback : dropEndWhile isBlank (trimChars cs) = trimChars cs := List.rdropWhile_idempotent isBlank _
  rw [trimChars, hfront, hback]

theorem Text.trim_trim (s : String) : trim (trim s) = trim s := by
  rw [trim, trim, String.toList_ofList, trimChars_trimChars]

namespace Jobs

theorem checkedId_ok {id checked : String} (h : checkedId id = .ok checked) : checked = Text.trim id := by
  unfold checkedId at h
  dsimp only at h
  split at h
  · cases h
  split at h
  · cases h
  · cases h
    rfl

/-- The request that deletes one job, or all of them. -/
def deletionRequest (id : String) : RequestSpec := (RequestSpec.post deletionPath).withBody (.ofEntries [("JobID", .string id)])

theorem status_not_mem_jobEntries (body : Json) : ∀ entry ∈ jobEntries body, entry.1 ≠ "Status" := by
  intro entry hentry
  simp only [jobEntries, List.mem_append, List.mem_filterMap, Option.map_eq_some_iff, Option.mem_toList] at hentry
  rcases hentry with ⟨field, hfield, value, _, rfl⟩ | ⟨value, _, rfl⟩
  · rintro rfl
    exact absurd hfield (by decide)
  · exact (by decide : "InstanceID" ≠ "Status")

theorem field?_statusResult {reply : Envelope} (h : reply.isSuccess = true) (id : String) :
    (statusResult id reply).field? "Status" = some "Success" := by
  have hnone : List.lookup "Status" (jobEntries reply.body).reverse = none := by
    rw [List.lookup_eq_none_iff]
    intro entry hentry
    have hne := status_not_mem_jobEntries reply.body entry (List.mem_reverse.mp hentry)
    simpa using hne.symm
  simp [statusResult, h, Envelope.field?_synthesized, List.lookup_append, hnone, Json.text?]

end Jobs

namespace Operation

open OutOfBand.Task

variable {op : Operation} {exchanges : List Exchange} {ending : Except Failure Report} {check : Bool}

/-- The kind of request by which an operation changes something. Only the two deletions name jobs. -/
def ChangesBy (op : Operation) (change : RequestSpec) : Prop :=
  match op with
  | deleteJob jobId => change = Jobs.deletionRequest (Text.trim jobId)
  | clearQueue => change = Jobs.deletionRequest Jobs.everyJob
  | _ => change.body.bind (·.member? "JobID") = none

theorem method_of_reading {path : String} {reply : Except SessionError Envelope} :
    ∀ e ∈ [(⟨.get path, reply⟩ : Exchange)], e.spec.method = "GET" := by
  intro e he
  rw [List.mem_singleton.mp he]
  rfl

theorem method_of_readings {first second : String} {reply answer : Except SessionError Envelope} :
    ∀ e ∈ [(⟨.get first, reply⟩ : Exchange), ⟨.get second, answer⟩], e.spec.method = "GET" := by
  intro e he
  rcases List.mem_cons.mp he with rfl | he
  · rfl
  · exact method_of_reading e he

/-! ## Jobs -/

theorem hears_deletion {id message : String} {report : Envelope → Report} (hreport : ∀ reply, (report reply).verdict = .changed)
    (h : Hears (ofSession (Jobs.deletion id) >>= fun reply => do
      requireResult message reply
      return report reply) exchanges ending) :
    ∃ reply, exchanges = [⟨Jobs.deletionRequest id, reply⟩] ∧ (Report.ofResult ending).Tells (isAnsweredWell reply) := by
  rw [Hears, Jobs.deletion, program_reshaped_bind] at h
  exact hears_change (fun reply => requireResult_tells message (hreport _) reply) h

theorem deleteJobTask_hears {jobId : String} (h : Hears (deleteJobTask jobId check) exchanges ending) :
    (exchanges = [] ∧ ∃ f, ending = .error f) ∨
      ∃ reply, Ensues (Jobs.deletionRequest (Text.trim jobId)) [⟨.get s!"{Jobs.collectionPath}/{Text.trim jobId}", reply⟩]
        ((deleteJob jobId).decision? check reply) exchanges ending := by
  unfold deleteJobTask at h
  simp only [Jobs.status, Jobs.delete] at h
  cases hid : Jobs.checkedId (Text.trim jobId) with
  | error e =>
    rw [hid] at h
    have hdone : (Program.done (.error (.ofSessionError e) : Except Failure Report)).Hears exchanges ending := h
    obtain ⟨rfl, rfl⟩ := Program.hears_done hdone
    exact Or.inl ⟨rfl, _, rfl⟩
  | ok id =>
    -- The id is trimmed once more when it is checked, which makes no difference.
    obtain rfl : id = Text.trim jobId := by rw [Jobs.checkedId_ok hid, Text.trim_trim]
    right
    rw [hid] at h
    dsimp only at h
    rw [Hears, program_reshaped_bind] at h
    rcases hears_reading (fun reply hreply => rejects_observedJob_bind hreply _ _ _ _ _ _) h with
      ⟨reply, f, rfl, hbad, rfl⟩ | ⟨reply, rest, rfl, hstatus, hrest⟩
    · refine ⟨reply, ?_⟩
      rw [decision?_of_unanswered _ hbad]
      exact .refused f
    · refine ⟨.ok reply, ?_⟩
      rw [decision?_of_success _ hstatus]
      have hobserved : observedJob (Text.trim jobId) (Jobs.statusResult (Text.trim jobId) reply) = .ok (some (presence true)) := by
        simp only [observedJob, Jobs.field?_statusResult hstatus]
      rcases hears_ofExcept_bind hrest with ⟨f, hf, _, _⟩ | ⟨observed, hgiven, hplan⟩
      · rw [hobserved] at hf
        cases hf
      · rw [hobserved] at hgiven
        cases hgiven
        refine ensues_of_plan (fun keys => ⟨_, rfl, rfl⟩) (fun keys => rfl) (fun keys _ _ _ hchange => ?_) hplan
        exact hears_deletion (fun _ => Report.verdict_withPayload _ _ _) hchange

theorem pendingCount?_of_success {reply : Envelope} (h : reply.isSuccess = true) :
    pendingCount? (Jobs.listingResult reply) = some (Jobs.memberIds reply.body).length := by
  simp [Jobs.listingResult, h, pendingCount?, Envelope.synthesized, Envelope.field?, Json.textMember?, Json.itemsMember?,
    Json.member?_ofEntries, List.lookup_cons, Json.text?, Json.items?]

theorem clearQueueTask_hears (h : Hears (clearQueueTask check) exchanges ending) :
    ∃ reply, Ensues (Jobs.deletionRequest Jobs.everyJob) [⟨.get Jobs.collectionPath, reply⟩]
      (clearQueue.decision? check reply) exchanges ending := by
  unfold clearQueueTask at h
  rw [Hears, Jobs.pending, program_reshaped_bind] at h
  have hstops : ∀ reply : Envelope, reply.isSuccess = false → ∀ (desired : Object) (k : Plan → Task Report) (unreadable : String),
      Rejects (Task.plan desired ((pendingCount? (Jobs.listingResult reply)).map queueLength) check unreadable >>= k) := by
    intro reply hreply desired k unreadable
    rw [pendingCount?_of_error hreply]
    exact ⟨.indeterminate _, rfl, rfl⟩
  rcases hears_reading (fun reply hreply => hstops reply hreply _ _ _) h with
    ⟨reply, f, rfl, hbad, rfl⟩ | ⟨reply, rest, rfl, hstatus, hrest⟩
  · refine ⟨reply, ?_⟩
    rw [decision?_of_unanswered _ hbad]
    exact .refused f
  · refine ⟨.ok reply, ?_⟩
    rw [decision?_of_success _ hstatus]
    rw [pendingCount?_of_success hstatus] at hrest
    refine ensues_of_plan (fun keys => ⟨_, rfl, rfl⟩) (fun keys => rfl) (fun keys _ _ _ hchange => ?_) hrest
    exact hears_deletion (fun _ => Report.verdict_withPayload _ _ _) hchange

/-! ## Power and inventory -/

/-- The request that resets a system. -/
def resetRequest (reset : ResetType) (target : String) : RequestSpec :=
  (RequestSpec.post target).withBody (.ofEntries [("ResetType", .string reset.name)])

theorem changesBy_resetRequest (reset : ResetType) (resource : Option String) (target : String) :
    (power reset resource).ChangesBy (resetRequest reset target) := by
  simp [ChangesBy, resetRequest, RequestSpec.withBody, Json.member?_ofEntries, List.lookup_cons]

theorem requireSystem_of_success {system : Envelope} (h : system.isSuccess = true) : requireSystem system = .ok () := by
  rw [requireSystem, if_neg]
  rintro (hstatus | hstatus)
  · rw [Envelope.isSuccess, hstatus] at h
    exact absurd h (by decide)
  · rw [Envelope.isSuccess, hstatus] at h
    exact absurd h (by decide)

theorem hears_power_system {reset : ResetType} {resource : Option String} {system : Envelope} {front rest : List Exchange}
    {k : ResetTarget → Plan → Task Report} (hstatus : system.isSuccess = true)
    (hnoop : ∀ target keys, ∃ report : Report, k target ⟨.noop, keys⟩ = pure report ∧ report.verdict = .unchanged)
    (htold : ∀ target keys, k target ⟨.wouldChange, keys⟩ = pure (.changed changesFound))
    (hchange : ∀ target keys exchanges ending, Hears (k target ⟨.apply, keys⟩) exchanges ending →
      ∃ reply, exchanges = [⟨resetRequest reset target.uri, reply⟩] ∧ (Report.ofResult ending).Tells (isAnsweredWell reply))
    (h : Hears (Task.ofExcept (resetTarget system.body) >>= fun target => Task.ofExcept (requireAllowed reset target) >>= fun _ =>
      Task.plan (powerState reset.name) (some (observedPower reset target.state)) check "" >>= k target) rest ending) :
    ∃ change, (power reset resource).ChangesBy change ∧
      (∀ target, resetTarget system.body = .ok target → change = resetRequest reset target.uri) ∧
      Ensues change front ((power reset resource).decision? check (.ok system)) (front ++ rest) ending := by
  rw [decision?_of_success _ hstatus]
  rcases hears_ofExcept_bind h with ⟨f, hf, rfl, rfl⟩ | ⟨target, htarget, hrest⟩
  · refine ⟨.get "", rfl, fun target htarget => ?_, ?_⟩
    · rw [hf] at htarget
      cases htarget
    · rw [observed?, hf, List.append_nil]
      exact .refused f
  refine ⟨_, changesBy_resetRequest reset resource target.uri, fun other hother => ?_, ?_⟩
  · rw [htarget] at hother
    cases hother
    rfl
  rw [observed?, htarget]
  dsimp only
  rcases hears_ofExcept_bind hrest with ⟨f, hf, rfl, rfl⟩ | ⟨_, hallowed, hrest⟩
  · rw [hf, List.append_nil]
    exact .refused f
  · rw [hallowed]
    exact ensues_of_plan (hnoop target) (htold target) (fun keys _ _ _ hears => hchange target keys _ _ hears) hrest

/-- What a reset does behind the list of systems: it ends where none of them is meant, or reads the one that is, and does
what follows from that reading. -/
def GoesOnFrom (reset : ResetType) (resource : Option String) (check : Bool) (systems : Except SessionError Envelope)
    (exchanges : List Exchange) (ending : Except Failure Report) : Prop :=
  (exchanges = [⟨.get "Systems", systems⟩] ∧ (∃ f, ending = .error f) ∧
    ∀ reply link, systems = .ok reply → reply.isSuccess = true → chooseSystem resource (memberLinks reply.body) ≠ .ok link) ∨
  ∃ listing link reply change, systems = .ok listing ∧ listing.isSuccess = true ∧
    chooseSystem resource (memberLinks listing.body) = .ok link ∧ (power reset resource).ChangesBy change ∧
    (∀ system target, reply = .ok system → system.isSuccess = true → resetTarget system.body = .ok target →
      change = resetRequest reset target.uri) ∧
    Ensues change [⟨.get "Systems", systems⟩, ⟨.get link, reply⟩]
      ((power reset resource).decision? check reply) exchanges ending

/-- A reset reads the list of systems first. -/
theorem powerTask_hears {reset : ResetType} {resource : Option String}
    (h : Hears (powerTask reset resource check) exchanges ending) :
    ∃ systems, GoesOnFrom reset resource check systems exchanges ending := by
  unfold powerTask at h
  rcases hears_reading (fun _ hreply => rejects_requireStatus_bind hreply _) h with
    ⟨systems, f, rfl, hbad, rfl⟩ | ⟨systems, rest, rfl, hsystems, hrest⟩
  · refine ⟨systems, Or.inl ⟨rfl, ⟨f, rfl⟩, fun reply link heq hstatus => ?_⟩⟩
    rw [heq] at hbad
    exact absurd hstatus (Bool.eq_false_iff.mp hbad)
  rcases hears_ofExcept_bind (hears_requireStatus_bind hsystems hrest) with ⟨f, hf, rfl, rfl⟩ | ⟨link, hlink, hrest⟩
  · refine ⟨.ok systems, Or.inl ⟨rfl, ⟨f, rfl⟩, fun reply link heq _ => ?_⟩⟩
    cases heq
    rw [hf]
    exact fun herror => by cases herror
  refine ⟨.ok systems, Or.inr ⟨systems, link, ?_⟩⟩
  rcases hears_reading (fun _ hreply => rejects_requireSystem_bind hreply _) hrest with
    ⟨system, f, rfl, hbad, rfl⟩ | ⟨system, rest, rfl, hstatus, hrest⟩
  · refine ⟨system, .get "", rfl, hsystems, hlink, rfl, fun reply target heq hstatus _ => ?_, ?_⟩
    · rw [heq] at hbad
      exact absurd hstatus (Bool.eq_false_iff.mp hbad)
    · rw [decision?_of_unanswered _ hbad]
      exact .refused f
  · refine ⟨.ok system, ?_⟩
    rw [requireSystem_of_success hstatus] at hrest
    have hread := hears_requireStatus_bind hstatus (show Hears (requireStatus errorKey system >>= _) rest ending from hrest)
    simp only [← Task.plan_some _ _ _ ""] at hread
    have hnoop : ∀ target : ResetTarget, ∃ report : Report,
        (if check then pure (.ok "No Changes found to be applied.")
          else pure (.ok s!"The device is already powered {Text.lower target.state}.") : Task Report) = pure report ∧
        report.verdict = .unchanged := by
      intro target
      cases check with
      | true => exact ⟨_, rfl, rfl⟩
      | false => exact ⟨_, rfl, rfl⟩
    obtain ⟨change, hchanges, hrequest, hensues⟩ := hears_power_system hstatus (fun target _ => hnoop target)
      (fun target keys => rfl) (fun target keys _ _ hears => hears_change (requireStatus_tells _ rfl) hears) hread
    refine ⟨change, rfl, hsystems, hlink, hchanges, fun reply target heq _ htarget => ?_, hensues⟩
    cases heq
    exact hrequest target htarget

theorem inventoryTask_hears {state : InventoryState} (h : Hears (inventoryTask state check) exchanges ending) :
    ∃ reply change, (inventory state).ChangesBy change ∧
      Ensues change [⟨.get attributesPath, reply⟩] ((inventory state).decision? check reply) exchanges ending := by
  unfold inventoryTask at h
  rcases hears_reading (fun _ hreply => rejects_requireStatus_bind hreply _) h with
    ⟨reply, f, rfl, hbad, rfl⟩ | ⟨reply, rest, rfl, hstatus, hrest⟩
  · refine ⟨reply, .get "", rfl, ?_⟩
    rw [decision?_of_unanswered _ hbad]
    exact .refused f
  have hread := hears_requireStatus_bind hstatus hrest
  -- What is sent depends on the keys to change, which the plan settles before `change` is chosen.
  have hkeys : ∃ keys, ∀ other, Plan.make (inventory state).desired (observedAttributes reply.body) check = .ok ⟨.apply, other⟩ →
      other = keys := by
    cases Plan.make (inventory state).desired (observedAttributes reply.body) check with
    | error f => exact ⟨[], fun other hother => by cases hother⟩
    | ok plan => exact ⟨plan.deltaKeys, fun other hother => by cases hother; rfl⟩
  obtain ⟨keys, hkeys⟩ := hkeys
  have hchanges : (inventory state).ChangesBy ((RequestSpec.patch attributesPath).withBody (.ofEntries [("Attributes",
      .object (Plan.deltaPayload ⟨.apply, keys⟩ (inventory state).desired))])) := by
    simp [ChangesBy, RequestSpec.withBody, Json.member?_ofEntries, List.lookup_cons]
  refine ⟨.ok reply, _, hchanges, ?_⟩
  rw [decision?_of_success _ hstatus]
  refine ensues_of_plan (fun keys => ⟨_, rfl, rfl⟩) (fun keys => rfl) (fun other _ _ hmake hears => ?_) hread
  obtain rfl := hkeys other hmake
  exact hears_change (requireStatus_tells _ (Report.verdict_withPayload _ _ _)) hears

/-! ## All operations -/

/-- An operation that changes something fails before its reading or does what ensues from that. -/
theorem task_ensues (hop : op.changesState = true) {budget : Nat} (h : Hears (op.task check budget) exchanges ending) :
    (op.stateReading? exchanges = none ∧ (∀ e ∈ exchanges, e.spec.method = "GET") ∧ ∃ f, ending = .error f) ∨
      ∃ front reading change, op.stateReading? exchanges = some reading ∧ reading.spec.method = "GET" ∧
        (∀ e ∈ front, e.spec.method = "GET") ∧ op.ChangesBy change ∧
        Ensues change front (op.decision? check reading.reply) exchanges ending := by
  cases op with
  | deleteJob jobId =>
    rcases deleteJobTask_hears h with ⟨rfl, hfailed⟩ | ⟨reply, hensues⟩
    · exact Or.inl ⟨rfl, none_unanswered, hfailed⟩
    · obtain ⟨back, rfl⟩ := hensues.eq_append
      exact Or.inr ⟨_, _, _, rfl, rfl, method_of_reading, rfl, hensues⟩
  | clearQueue =>
    obtain ⟨reply, hensues⟩ := clearQueueTask_hears h
    obtain ⟨back, rfl⟩ := hensues.eq_append
    exact Or.inr ⟨_, _, _, rfl, rfl, method_of_reading, rfl, hensues⟩
  | power reset resource =>
    rcases powerTask_hears h with ⟨_, ⟨rfl, hfailed, _⟩ | ⟨_, _, reply, change, _, _, _, hchanges, _, hensues⟩⟩
    · exact Or.inl ⟨rfl, method_of_reading, hfailed⟩
    · obtain ⟨back, rfl⟩ := hensues.eq_append
      exact Or.inr ⟨_, _, _, rfl, rfl, method_of_readings, hchanges, hensues⟩
  | inventory state =>
    obtain ⟨reply, change, hchanges, hensues⟩ := inventoryTask_hears h
    obtain ⟨back, rfl⟩ := hensues.eq_append
    exact Or.inr ⟨_, _, _, rfl, rfl, method_of_reading, hchanges, hensues⟩
  | _ => cases hop

end Operation

end OutOfBand
