import OutOfBand.Operation
import OutOfBand.Proofs.Fields
import OutOfBand.Proofs.Operation.Preview

/-! # The operations as previews

In check mode every operation previews itself. Four of them send one request that changes something, and
their reports tell how it was answered: the two conventions of success come to the same there, as a job
result is a success exactly if it was made from a reply with a successful status. The others only read.
-/
namespace OutOfBand

open Http

/-! ## Acceptance -/

namespace Acceptance

theorem isOk_require (a : Acceptance) (e : Envelope) : (a.require e).isOk = a.accepts e := by
  unfold require
  split
  case isTrue h => exact h.symm
  case isFalse h => exact (Bool.eq_false_iff.mpr h).symm

end Acceptance

/-- A text among the entries of which an envelope is made. -/
theorem Http.Envelope.field?_synthesized (status : Nat) (entries : List (String × Json)) (name : String) :
    (synthesized status (.ofEntries entries)).field? name = List.lookup name entries.reverse >>= Json.text? :=
  congrArg (· >>= Json.text?) (Json.member?_ofEntries entries name)

namespace Jobs

theorem accepts_errorResult (reply : Envelope) : Acceptance.driverResult.accepts (errorResult reply) = false := by
  simp [Acceptance.accepts, errorResult, Envelope.field?_synthesized, List.lookup_cons, Json.text?]

theorem accepts_deletionResult (reply : Envelope) :
    Acceptance.driverResult.accepts (deletionResult reply) = reply.isSuccess := by
  unfold deletionResult
  split
  case isTrue h =>
    rw [h]
    simp [Acceptance.accepts, Envelope.field?_synthesized, List.lookup_cons, Json.text?]
  case isFalse h => rw [accepts_errorResult, Bool.eq_false_iff.mpr h]

end Jobs

namespace Task

variable {α β : Type}

theorem isOk_mapError {result : Except Failure α} (f : Failure → Failure) : (result.mapError f).isOk = result.isOk := by
  cases result with
  | ok a => rfl
  | error e => rfl

theorem require_of_success {reply : Envelope} (h : reply.isSuccess = true) (key : String) :
    (Acceptance.httpStatus.require reply).mapError (rekey key) = .ok () := by
  simp only [Acceptance.require, Acceptance.accepts, h, ↓reduceIte]
  rfl

/-- A reply with an error status is refused with its diagnostic, and handed on under the key. -/
theorem require_of_refusal {reply : Envelope} (h : reply.isSuccess = false) (key : String) :
    (Acceptance.httpStatus.require reply).mapError (rekey key) =
      .error (.remoteWith reply.diagnostic key reply.failureBody) := by
  simp only [Acceptance.require, Acceptance.accepts, h]
  rfl

theorem program_reshaped_bind (spec : RequestSpec) (result : Envelope → Envelope) (k : Envelope → Task β) :
    (ofSession (Jobs.reshaped spec result) >>= k).program = (send spec >>= fun reply => k (result reply)).program := by
  rw [program_bind, program_bind]
  show Program.execute spec _ = Program.execute spec _
  congr 1
  funext reply
  cases reply with
  | ok reply => rfl
  | error e => rfl

/-- A report that is made only if the reply is accepted tells whether it was. -/
theorem tells_of_required (required : Except Failure Unit) {report : Report} (h : report.verdict = .changed) :
    ∃ done, (ofExcept required >>= fun _ => pure report).program = .done done ∧
      (Report.ofResult done).Tells required.isOk := by
  cases required with
  | ok a => exact ⟨.ok report, rfl, h⟩
  | error f => exact ⟨.error f, rfl, Report.isFailure_ofFailure f⟩

end Task

namespace Previews

/-- The one change that a task ends in, foretold by a report of a change. -/
theorem send_of_tells {told : Report} (htold : told.verdict = .changed) {spec : RequestSpec} (hspec : IsChange spec)
    {k : Envelope → Task Report}
    (h : ∀ reply, ∃ done, (k reply).program = .done done ∧ (Report.ofResult done).Tells reply.isSuccess) :
    Previews true (Task.program (pure told)) (Task.send spec >>= k).program := by
  rw [Task.program_bind]
  refine .changes htold hspec (fun reply => ?_)
  cases reply with
  | ok reply => exact h reply
  | error e => exact ⟨.error (.ofSessionError e), rfl, Report.isFailure_ofFailure _⟩

end Previews

namespace Operation

variable {heard : Bool}

theorem isReading_get (path : String) : IsReading (.get path) := ⟨rfl, rfl⟩

theorem isChange_post (path : String) {body : Json} (h : body.member? "Password" = none) :
    IsChange ((RequestSpec.post path).withBody body) := ⟨(by decide : "POST" ≠ "GET"), rfl, h⟩

theorem isChange_patch (path : String) {body : Json} (h : body.member? "Password" = none) :
    IsChange ((RequestSpec.patch path).withBody body) := ⟨(by decide : "PATCH" ≠ "GET"), rfl, h⟩

theorem requireStatus_onlyReads (key : String) (reply : Envelope) : Task.OnlyReads (Task.requireStatus key reply) :=
  Task.onlyReads_ofExcept _

theorem requireStatus_tells (key : String) {report : Report} (h : report.verdict = .changed) (reply : Envelope) :
    ∃ done, (Task.requireStatus key reply >>= fun _ => pure report).program = .done done ∧
      (Report.ofResult done).Tells reply.isSuccess := by
  have htells := Task.tells_of_required ((Acceptance.httpStatus.require reply).mapError (Task.rekey key)) h
  rw [Task.isOk_mapError, Acceptance.isOk_require] at htells
  exact htells

/-! ## Jobs -/

theorem requireResult_tells (message : String) {report : Report} (h : report.verdict = .changed) (reply : Envelope) :
    ∃ done, (Task.requireResult message (Jobs.deletionResult reply) >>= fun _ => pure report).program = .done done ∧
      (Report.ofResult done).Tells reply.isSuccess := by
  have htells := Task.tells_of_required
    ((Acceptance.driverResult.require (Jobs.deletionResult reply)).mapError (Task.remessage message)) h
  rw [Task.isOk_mapError, Acceptance.isOk_require, Jobs.accepts_deletionResult] at htells
  exact htells

theorem deletion_previewed (id message : String) {told : Report} (htold : told.verdict = .changed)
    {report : Envelope → Report} (hreport : ∀ reply, (report reply).verdict = .changed) :
    Previews true (Task.program (pure told))
      (Task.ofSession (Jobs.deletion id) >>= fun reply => do
        Task.requireResult message reply
        return report reply).program := by
  have hbody : (Json.ofEntries [("JobID", .string id)]).member? "Password" = none := by
    simp [Json.member?_ofEntries, List.lookup_cons]
  rw [Jobs.deletion, Task.program_reshaped_bind]
  exact .send_of_tells htold (isChange_post _ hbody) (fun reply => requireResult_tells message (hreport _) reply)

theorem deleteJobTask_previewed (jobId : String) :
    Previews heard (deleteJobTask jobId true).program (deleteJobTask jobId false).program := by
  unfold deleteJobTask
  simp only [Jobs.status, Jobs.delete]
  cases hid : Jobs.checkedId (Text.trim jobId) with
  | error e => exact .failed _
  | ok id =>
    simp only
    rw [Task.program_reshaped_bind, Task.program_reshaped_bind]
    refine .send_bind (isReading_get _) (fun reply => ?_)
    refine .task_bind (Task.onlyReads_ofExcept _) (fun observed => ?_)
    refine .plan_bind _ _ _ ?_ (fun keys => ?_)
    · exact .pure_of_verdict rfl rfl
    · exact deletion_previewed id _ rfl (fun _ => Report.verdict_withPayload _ _ _)

theorem clearQueueTask_previewed : Previews heard (clearQueueTask true).program (clearQueueTask false).program := by
  unfold clearQueueTask
  rw [Jobs.pending, Task.program_reshaped_bind, Task.program_reshaped_bind]
  refine .send_bind (isReading_get _) (fun reply => ?_)
  refine .plan_bind _ _ _ ?_ (fun keys => ?_)
  · exact .pure_of_verdict rfl rfl
  · exact deletion_previewed Jobs.everyJob _ rfl (fun _ => Report.verdict_withPayload _ _ _)

theorem jobStatusTask_previewed (jobId : String) :
    Previews heard (jobStatusTask jobId).program (jobStatusTask jobId).program := by
  unfold jobStatusTask
  simp only [Jobs.status]
  cases hid : Jobs.checkedId (Text.trim jobId) with
  | error e => exact .failed _
  | ok id =>
    simp only
    rw [Task.program_reshaped_bind]
    refine .send_bind (isReading_get _) (fun reply => ?_)
    split
    · exact .failed _
    · refine .task_bind (Task.onlyReads_ofExcept _) (fun _ => ?_)
      exact .unchanged (Report.isChanged_withPayload _ _ _)

/-! ## Power -/

theorem powerTask_previewed (reset : ResetType) (resource : Option String) :
    Previews heard (powerTask reset resource true).program (powerTask reset resource false).program := by
  unfold powerTask
  refine .send_bind (isReading_get _) (fun systems => ?_)
  refine .task_bind (requireStatus_onlyReads _ _) (fun _ => ?_)
  refine .task_bind (Task.onlyReads_ofExcept _) (fun link => ?_)
  refine .send_bind (isReading_get _) (fun system => ?_)
  refine .task_bind (Task.onlyReads_ofExcept _) (fun _ => ?_)
  refine .task_bind (requireStatus_onlyReads _ _) (fun _ => ?_)
  refine .task_bind (Task.onlyReads_ofExcept _) (fun target => ?_)
  refine .task_bind (Task.onlyReads_ofExcept _) (fun _ => ?_)
  rw [← Task.plan_some _ _ _ "", ← Task.plan_some _ _ _ ""]
  refine .plan_bind _ _ _ ?_ (fun keys => ?_)
  · exact .pure_of_verdict rfl rfl
  · have hbody : (Json.ofEntries [("ResetType", .string reset.name)]).member? "Password" = none := by
      simp [Json.member?_ofEntries, List.lookup_cons]
    exact .send_of_tells rfl (isChange_post _ hbody) (requireStatus_tells _ rfl)

/-! ## Inventory -/

theorem inventoryTask_previewed (state : InventoryState) :
    Previews heard (inventoryTask state true).program (inventoryTask state false).program := by
  unfold inventoryTask
  refine .send_bind (isReading_get _) (fun current => ?_)
  refine .task_bind (requireStatus_onlyReads _ _) (fun _ => ?_)
  refine .plan_bind _ _ _ ?_ (fun keys => ?_)
  · exact .pure_of_verdict rfl rfl
  · refine .send_of_tells rfl (isChange_patch _ ?_) (requireStatus_tells _ ?_)
    · simp [Json.member?_ofEntries, List.lookup_cons]
    · exact Report.verdict_withPayload _ _ _

/-! ## Listings and consoles -/

theorem fetch_onlyReads {spec : RequestSpec} (h : IsReading spec) : Task.OnlyReads (fetch spec) := by
  unfold fetch
  refine .bind (Task.onlyReads_send h) (fun reply => ?_)
  exact .bind (requireStatus_onlyReads _ _) (fun _ => Task.onlyReads_pure _)

theorem collect_onlyReads (jobs : List Json) (seen : List String) (page : Json) (budget : Nat) :
    Task.OnlyReads (collect jobs seen page budget) := by
  induction budget generalizing jobs seen page with
  | zero => exact Task.onlyReads_pure _
  | succ budget ih =>
    unfold collect
    split
    · exact Task.onlyReads_pure _
    · split
      · exact Task.onlyReads_pure _
      · exact .bind (fetch_onlyReads (isReading_get _)) (fun next => ih _ _ next)

theorem wholeListing_onlyReads (budget : Nat) : Task.OnlyReads (wholeListing budget) := by
  unfold wholeListing
  refine .bind (fetch_onlyReads (isReading_get _)) (fun first => ?_)
  refine .bind (collect_onlyReads _ _ _ _) (fun jobs => ?_)
  split
  · exact .done _
  · exact Task.onlyReads_pure _

theorem isReading_apply (options : ListingOptions) {spec : RequestSpec} (h : IsReading spec) :
    IsReading (options.apply spec) := by
  unfold ListingOptions.apply
  induction options.parameters generalizing spec with
  | nil => exact h
  | cons entry rest ih => exact ih ⟨h.method, h.headers⟩

theorem listingTask_previewed (id : Option Nat) (options : Option ListingOptions) (budget : Nat) :
    Previews heard (listingTask id options budget).program (listingTask id options budget).program := by
  have hreport : ∀ info, ((Report.ok "Successfully fetched the job info").withPayload "job_info" info).isChanged = false :=
    fun info => Report.isChanged_withPayload _ _ info
  unfold listingTask
  split
  · exact .task_bind (fetch_onlyReads (isReading_get _)) (fun info => .unchanged (hreport info))
  · exact .task_bind (fetch_onlyReads (isReading_apply _ (isReading_get _))) (fun info => .unchanged (hreport info))
  · exact .task_bind (wholeListing_onlyReads budget) (fun info => .unchanged (hreport info))

theorem consolesTask_previewed (address : Option String) :
    Previews heard (consolesTask address).program (consolesTask address).program := by
  unfold consolesTask
  refine .send_bind (isReading_get _) (fun reply => ?_)
  refine .task_bind (requireStatus_onlyReads _ _) (fun _ => ?_)
  refine .task_bind (Task.onlyReads_ofExcept _) (fun all => ?_)
  cases address with
  | none => exact .unchanged (Report.isChanged_withPayload _ _ _)
  | some address => exact .unchanged (Report.isChanged_withPayload _ _ _)

/-! ## All operations -/

/-- In check mode an operation previews what it does otherwise. -/
theorem task_previewed (op : Operation) (budget : Nat) :
    Previews false (op.task true budget).program (op.task false budget).program := by
  cases op with
  | deleteJob jobId => exact deleteJobTask_previewed jobId
  | clearQueue => exact clearQueueTask_previewed
  | jobStatus jobId => exact jobStatusTask_previewed jobId
  | power reset resource => exact powerTask_previewed reset resource
  | inventory state => exact inventoryTask_previewed state
  | listing jobId options => exact listingTask_previewed jobId options budget
  | consoles address => exact consolesTask_previewed address

end Operation

end OutOfBand
