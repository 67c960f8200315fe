import OutOfBand.Proofs.Operation.Transcript

/-! # Trouble in a task

Every operation stops at the first trouble: a request that is not answered with a successful status is its
last one. It then fails, and the failure tells that the device was not reached exactly if the reply was lost.
The rules follow the steps of a task, so an operation keeps to it as soon as each of its steps does.
-/
namespace OutOfBand

open Http

variable {α β : Type}

namespace Task

/-! ## Tasks that stop at the first trouble -/

/-- If this is a failure, it has nothing to do with reaching the device. -/
def Reached (given : Except Failure α) : Prop := ∀ f, given = .error f → f.isUnreachable = false

theorem reached_ok (a : α) : Reached (.ok a) := by
  intro f h
  cases h

theorem reached_error {f : Failure} (h : f.isUnreachable = false) : Reached (.error f : Except Failure α) := by
  intro g hg
  cases hg
  exact h

theorem Reached.mapError {given : Except Failure α} {g : Failure → Failure} (h : Reached given)
    (hg : ∀ f, (g f).isUnreachable = f.isUnreachable) : Reached (given.mapError g) := by
  intro f hf
  obtain ⟨f, hgiven, rfl⟩ := mapError_eq_error hf
  rw [hg, h f hgiven]

/-- The ends of a task that stops at the first reply without a successful status. -/
inductive Ended (good : α → Prop) : List Exchange → Except Failure α → Prop
  | value {exchanges : List Exchange} {a : α} (hall : ∀ e ∈ exchanges, e.isAnswered = true) (ha : good a) :
      Ended good exchanges (.ok a)
  | failure {exchanges : List Exchange} {f : Failure} (hall : ∀ e ∈ exchanges, e.isAnswered = true)
      (hf : f.isUnreachable = false) : Ended good exchanges (.error f)
  | trouble {front : List Exchange} {last : Exchange} {f : Failure} (hall : ∀ e ∈ front, e.isAnswered = true)
      (hlast : last.isAnswered = false) (hf : f.isUnreachable = last.isLost) : Ended good (front ++ [last]) (.error f)

/-- Whatever it hears, the task stops at the first trouble, and without trouble it ends in a good value or in a failure
that has nothing to do with reaching the device. -/
def StopsAtTrouble (good : α → Prop) (t : Task α) : Prop :=
  ∀ exchanges result, t.Hears exchanges result → Ended good exchanges result

/-- The task fails without a request, and not for want of a reply. -/
def Rejects (t : Task α) : Prop := ∃ f, t.program = .done (.error f) ∧ f.isUnreachable = false

theorem none_unanswered {P : Exchange → Prop} : ∀ e ∈ ([] : List Exchange), P e := fun _ he => absurd he List.not_mem_nil

theorem Ended.behind {good : α → Prop} {front rest : List Exchange} {result : Except Failure α}
    (hfront : ∀ e ∈ front, e.isAnswered = true) (h : Ended good rest result) : Ended good (front ++ rest) result := by
  have happend : ∀ back : List Exchange, (∀ e ∈ back, e.isAnswered = true) → ∀ e ∈ front ++ back, e.isAnswered = true := by
    intro back hback e he
    rcases List.mem_append.mp he with he | he
    · exact hfront e he
    · exact hback e he
  cases h with
  | value hall ha => exact .value (happend _ hall) ha
  | failure hall hf => exact .failure (happend _ hall) hf
  | @trouble back last f hall hlast hf =>
    rw [← List.append_assoc]
    exact .trouble (happend back hall) hlast hf

theorem Ended.of_error {good : α → Prop} {other : β → Prop} {exchanges : List Exchange} {f : Failure}
    (h : Ended good exchanges (.error f)) : Ended other exchanges (.error f) := by
  cases h with
  | failure hall hf => exact .failure hall hf
  | trouble hall hlast hf => exact .trouble hall hlast hf

variable {good : β → Prop} {mid : α → Prop}

theorem stopsAtTrouble_pure {b : β} (h : good b) : StopsAtTrouble good (pure b) := by
  intro exchanges result hears
  obtain ⟨rfl, rfl⟩ := hears_pure hears
  exact .value none_unanswered h

theorem Rejects.stopsAtTrouble {t : Task β} (h : Rejects t) : StopsAtTrouble good t := by
  intro exchanges result hears
  obtain ⟨f, hprogram, hf⟩ := h
  rw [Hears, hprogram] at hears
  obtain ⟨rfl, rfl⟩ := Program.hears_done hears
  exact .failure none_unanswered hf

theorem StopsAtTrouble.bind {t : Task α} {k : α → Task β} (ht : StopsAtTrouble mid t)
    (hk : ∀ a, mid a → StopsAtTrouble good (k a)) : StopsAtTrouble good (t >>= k) := by
  intro exchanges result hears
  rcases hears_bind hears with ⟨f, hfailed, rfl⟩ | ⟨front, a, rest, rfl, hfront, hrest⟩
  · exact (ht _ _ hfailed).of_error
  · cases ht _ _ hfront with
    | value hall ha => exact (hk a ha _ _ hrest).behind hall

theorem stopsAtTrouble_ofExcept_bind {given : Except Failure α} {k : α → Task β}
    (h : Reached given) (hk : ∀ a, given = .ok a → StopsAtTrouble good (k a)) : StopsAtTrouble good (ofExcept given >>= k) := by
  intro exchanges result hears
  rcases hears_ofExcept_bind hears with ⟨f, hgiven, rfl, rfl⟩ | ⟨a, hgiven, hrest⟩
  · exact .failure none_unanswered (h f hgiven)
  · exact hk a hgiven _ _ hrest

/-- The one step at which a task can run into trouble: behind a good answer it goes on, and any other ends it. -/
theorem stopsAtTrouble_send_bind {spec : RequestSpec} {k : Envelope → Task β}
    (hgood : ∀ reply, reply.isSuccess = true → StopsAtTrouble good (k reply))
    (hbad : ∀ reply, reply.isSuccess = false → Rejects (k reply)) : StopsAtTrouble good (send spec >>= k) := by
  intro exchanges result hears
  rcases hears_send_bind hears with ⟨e, rfl, rfl⟩ | ⟨reply, rest, rfl, hrest⟩
  · exact .trouble none_unanswered rfl rfl
  cases hstatus : reply.isSuccess with
  | true =>
    have hanswered : ∀ e ∈ [(⟨spec, .ok reply⟩ : Exchange)], e.isAnswered = true := by
      intro e he
      rw [List.mem_singleton.mp he]
      exact hstatus
    exact (hgood reply hstatus _ _ hrest).behind hanswered
  | false =>
    obtain ⟨f, hprogram, hf⟩ := hbad reply hstatus
    rw [Hears, hprogram] at hrest
    obtain ⟨rfl, rfl⟩ := Program.hears_done hrest
    exact .trouble none_unanswered hstatus hf

theorem rejects_ofExcept_bind {given : Except Failure α} {k : α → Task β} (h : Reached given) (herror : given.isOk = false) :
    Rejects (ofExcept given >>= k) := by
  cases given with
  | ok a => cases herror
  | error f => exact ⟨f, rfl, h f rfl⟩

theorem stopsAtTrouble_reshaped_bind {spec : RequestSpec} {result : Envelope → Envelope} {k : Envelope → Task β}
    (h : StopsAtTrouble good (send spec >>= fun reply => k (result reply))) :
    StopsAtTrouble good (ofSession (Jobs.reshaped spec result) >>= k) := by
  intro exchanges ending hears
  rw [Hears, program_reshaped_bind] at hears
  exact h exchanges ending hears

/-! ## Steps -/

theorem require_reached (a : Acceptance) (reply : Envelope) : Reached (a.require reply) := by
  unfold Acceptance.require
  split
  · exact reached_ok ()
  · exact reached_error rfl

theorem requiredStatus_reached (key : String) (reply : Envelope) :
    Reached ((Acceptance.httpStatus.require reply).mapError (rekey key)) := by
  refine (require_reached _ reply).mapError (fun f => ?_)
  cases f with
  | _ => rfl

theorem requiredResult_reached (message : String) (reply : Envelope) :
    Reached ((Acceptance.driverResult.require reply).mapError (remessage message)) := by
  refine (require_reached _ reply).mapError (fun f => ?_)
  cases f with
  | _ => rfl

theorem rejects_requireStatus_bind {key : String} {reply : Envelope} (h : reply.isSuccess = false) (k : Unit → Task β) :
    Rejects (requireStatus key reply >>= k) := by
  refine rejects_ofExcept_bind (requiredStatus_reached key reply) ?_
  rw [isOk_mapError, Acceptance.isOk_require]
  exact h

theorem stopsAtTrouble_answered {spec : RequestSpec} {key : String} {k : Envelope → Task β}
    (hk : ∀ reply, reply.isSuccess = true → StopsAtTrouble good (k reply)) :
    StopsAtTrouble good (send spec >>= fun reply => requireStatus key reply >>= fun _ => k reply) := by
  refine stopsAtTrouble_send_bind (fun reply hreply => ?_) (fun reply hreply => rejects_requireStatus_bind hreply _)
  exact stopsAtTrouble_ofExcept_bind (requiredStatus_reached key reply) (fun _ _ => hk reply hreply)

theorem plan_reached (desired : Object) (observed : Option Object) (check : Bool) (unreadable : String) :
    Reached ((Plan.make desired observed check).mapError (fun _ => .indeterminate unreadable)) := by
  intro f hf
  obtain ⟨_, _, rfl⟩ := mapError_eq_error hf
  rfl

theorem stopsAtTrouble_plan_bind {desired : Object} {observed : Option Object} {check : Bool} {unreadable : String}
    {k : Plan → Task β} (hk : ∀ plan, StopsAtTrouble good (k plan)) :
    StopsAtTrouble good (plan desired observed check unreadable >>= k) :=
  stopsAtTrouble_ofExcept_bind (plan_reached desired observed check unreadable) (fun plan _ => hk plan)

end Task

namespace Operation

open OutOfBand.Task

def IsReached (report : Report) : Prop := report.isUnreachable = false

/-! ## Jobs -/

theorem checkedId_reached {id : String} {e : SessionError} (h : Jobs.checkedId id = .error e) :
    (Failure.ofSessionError e).isUnreachable = false := by
  unfold Jobs.checkedId at h
  dsimp only at h
  split at h
  · cases h
    rfl
  split at h
  · cases h
    rfl
  · cases h

theorem deletion_stopsAtTrouble (id message : String) {report : Envelope → Report} (h : ∀ reply, IsReached (report reply)) :
    StopsAtTrouble IsReached (ofSession (Jobs.deletion id) >>= fun reply => do
      requireResult message reply
      return report reply) := by
  refine stopsAtTrouble_reshaped_bind (stopsAtTrouble_send_bind (fun reply _ => ?_) (fun reply hreply => ?_))
  · exact stopsAtTrouble_ofExcept_bind (requiredResult_reached _ _) (fun _ _ => stopsAtTrouble_pure (h _))
  · refine rejects_ofExcept_bind (requiredResult_reached _ _) ?_
    rw [isOk_mapError, Acceptance.isOk_require, Jobs.accepts_deletionResult, hreply]

theorem observedJob_reached (id : String) (status : Envelope) : Reached (observedJob id status) := by
  unfold observedJob
  split
  · exact reached_error rfl
  · exact reached_ok _
  · exact reached_ok _

/-- From an error status no presence is taken. -/
theorem observedJob_of_error {reply : Envelope} (h : reply.isSuccess = false) (id checked : String) :
    (observedJob id (Jobs.statusResult checked reply)).isOk = false ∨
      observedJob id (Jobs.statusResult checked reply) = .ok none := by
  unfold Jobs.statusResult
  rw [h]
  simp only [Bool.false_eq_true, ↓reduceIte]
  split
  · left
    simp [observedJob, Envelope.field?_synthesized, List.lookup_cons, Json.text?, Except.isOk, Except.toBool]
  · right
    simp [observedJob, Jobs.errorResult, Envelope.field?_synthesized, List.lookup_cons, Json.text?]

theorem rejects_observedJob_bind {reply : Envelope} (h : reply.isSuccess = false) (id checked : String) (desired : Object)
    (check : Bool) (unreadable : String) (k : Plan → Task Report) :
    Rejects (Task.ofExcept (observedJob id (Jobs.statusResult checked reply)) >>= fun observed =>
      plan desired observed check unreadable >>= k) := by
  rcases observedJob_of_error h id checked with herror | hnone
  · exact rejects_ofExcept_bind (observedJob_reached _ _) herror
  · rw [hnone]
    exact ⟨.indeterminate _, rfl, rfl⟩

theorem deleteJobTask_stopsAtTrouble (jobId : String) (check : Bool) :
    StopsAtTrouble IsReached (deleteJobTask jobId check) := by
  unfold deleteJobTask
  simp only [Jobs.status, Jobs.delete]
  cases hid : Jobs.checkedId (Text.trim jobId) with
  | error e => exact Rejects.stopsAtTrouble ⟨.ofSessionError e, rfl, checkedId_reached hid⟩
  | ok id =>
    refine stopsAtTrouble_reshaped_bind (stopsAtTrouble_send_bind (fun reply _ => ?_) (fun reply hreply => ?_))
    · refine stopsAtTrouble_ofExcept_bind (observedJob_reached _ _) (fun observed _ => ?_)
      refine stopsAtTrouble_plan_bind (fun plan => ?_)
      split
      · exact stopsAtTrouble_pure rfl
      · exact stopsAtTrouble_pure rfl
      · exact deletion_stopsAtTrouble id _ (fun _ => Report.isUnreachable_withPayload _ _ _)
    · exact rejects_observedJob_bind hreply _ _ _ _ _ _

theorem pendingCount?_of_error {reply : Envelope} (h : reply.isSuccess = false) :
    pendingCount? (Jobs.listingResult reply) = none := by
  unfold Jobs.listingResult
  rw [h]
  simp [pendingCount?, Jobs.errorResult, Envelope.field?_synthesized, List.lookup_cons, Json.text?]

theorem clearQueueTask_stopsAtTrouble (check : Bool) : StopsAtTrouble IsReached (clearQueueTask check) := by
  unfold clearQueueTask
  refine stopsAtTrouble_reshaped_bind (stopsAtTrouble_send_bind (fun reply _ => ?_) (fun reply hreply => ?_))
  · refine stopsAtTrouble_plan_bind (fun plan => ?_)
    split
    · exact stopsAtTrouble_pure rfl
    · exact stopsAtTrouble_pure rfl
    · exact deletion_stopsAtTrouble _ _ (fun _ => Report.isUnreachable_withPayload _ _ _)
  · rw [pendingCount?_of_error hreply]
    exact ⟨.indeterminate _, rfl, rfl⟩

theorem accepts_statusResult_of_error {reply : Envelope} (h : reply.isSuccess = false) (id : String) :
    Acceptance.driverResult.accepts (Jobs.statusResult id reply) = false := by
  unfold Jobs.statusResult
  rw [h]
  simp only [Bool.false_eq_true, ↓reduceIte]
  split
  · simp [Acceptance.accepts, Envelope.field?_synthesized, List.lookup_cons, Json.text?]
  · exact Jobs.accepts_errorResult reply

theorem jobStatusTask_stopsAtTrouble (jobId : String) : StopsAtTrouble IsReached (jobStatusTask jobId) := by
  unfold jobStatusTask
  simp only [Jobs.status]
  cases hid : Jobs.checkedId (Text.trim jobId) with
  | error e => exact Rejects.stopsAtTrouble ⟨.ofSessionError e, rfl, checkedId_reached hid⟩
  | ok id =>
    refine stopsAtTrouble_reshaped_bind (stopsAtTrouble_send_bind (fun reply _ => ?_) (fun reply hreply => ?_))
    · split
      · exact Rejects.stopsAtTrouble ⟨_, rfl, rfl⟩
      · refine stopsAtTrouble_ofExcept_bind (requiredResult_reached _ _) (fun _ _ => ?_)
        exact stopsAtTrouble_pure (Report.isUnreachable_withPayload _ _ _)
    · split
      · exact ⟨_, rfl, rfl⟩
      · refine rejects_ofExcept_bind (requiredResult_reached _ _) ?_
        rw [isOk_mapError, Acceptance.isOk_require, accepts_statusResult_of_error hreply]

/-! ## Power and inventory -/

theorem chooseSystem_reached (resource : Option String) (links : List String) : Reached (chooseSystem resource links) := by
  unfold chooseSystem
  split
  · exact reached_error rfl
  · exact reached_error rfl
  · exact reached_ok _
  · dsimp only
    split
    · exact reached_ok _
    · exact reached_error rfl

theorem requireSystem_reached (reply : Envelope) : Reached (requireSystem reply) := by
  unfold requireSystem
  split
  · exact reached_error rfl
  · exact reached_ok _

theorem rejects_requireSystem_bind {system : Envelope} (h : system.isSuccess = false) (k : Unit → Task Report) :
    Rejects (Task.ofExcept (requireSystem system) >>= fun _ => requireStatus errorKey system >>= k) := by
  cases hfound : requireSystem system with
  | error f => exact rejects_ofExcept_bind (reached_error (requireSystem_reached system f hfound)) rfl
  | ok _ => exact rejects_requireStatus_bind h _

theorem resetTarget_reached (body : Json) : Reached (resetTarget body) := by
  unfold resetTarget
  split
  · exact reached_error rfl
  split
  · exact reached_error rfl
  split
  · exact reached_error rfl
  · exact reached_ok _

theorem requireAllowed_reached (reset : ResetType) (target : ResetTarget) : Reached (requireAllowed reset target) := by
  unfold requireAllowed
  split
  · exact reached_ok _
  · exact reached_error rfl

theorem powerTask_stopsAtTrouble (reset : ResetType) (resource : Option String) (check : Bool) :
    StopsAtTrouble IsReached (powerTask reset resource check) := by
  unfold powerTask
  refine stopsAtTrouble_answered (fun systems _ => ?_)
  refine stopsAtTrouble_ofExcept_bind (chooseSystem_reached _ _) (fun link _ => ?_)
  refine stopsAtTrouble_send_bind (fun system _ => ?_) (fun system hsystem => ?_)
  · refine stopsAtTrouble_ofExcept_bind (requireSystem_reached _) (fun _ _ => ?_)
    refine stopsAtTrouble_ofExcept_bind (requiredStatus_reached _ _) (fun _ _ => ?_)
    refine stopsAtTrouble_ofExcept_bind (resetTarget_reached _) (fun target _ => ?_)
    refine stopsAtTrouble_ofExcept_bind (requireAllowed_reached _ _) (fun _ _ => ?_)
    rw [← Task.plan_some _ _ _ ""]
    refine stopsAtTrouble_plan_bind (fun plan => ?_)
    split
    · split
      · exact stopsAtTrouble_pure rfl
      · exact stopsAtTrouble_pure rfl
    · exact stopsAtTrouble_pure rfl
    · exact stopsAtTrouble_answered (fun _ _ => stopsAtTrouble_pure rfl)
  · exact rejects_requireSystem_bind hsystem _

theorem inventoryTask_stopsAtTrouble (state : InventoryState) (check : Bool) :
    StopsAtTrouble IsReached (inventoryTask state check) := by
  unfold inventoryTask
  refine stopsAtTrouble_answered (fun current _ => ?_)
  refine stopsAtTrouble_plan_bind (fun plan => ?_)
  split
  · exact stopsAtTrouble_pure rfl
  · exact stopsAtTrouble_pure rfl
  · exact stopsAtTrouble_answered (fun _ _ => stopsAtTrouble_pure (Report.isUnreachable_withPayload _ _ _))

/-! ## Listings and consoles -/

theorem fetch_stopsAtTrouble (spec : RequestSpec) : StopsAtTrouble (fun _ => True) (fetch spec) :=
  stopsAtTrouble_answered (fun _ _ => stopsAtTrouble_pure trivial)

theorem collect_stopsAtTrouble (jobs : List Json) (seen : List String) (page : Json) (budget : Nat) :
    StopsAtTrouble (fun _ => True) (collect jobs seen page budget) := by
  -- Every page but the first is fetched behind one that was answered, however many there are.
  induction budget generalizing jobs seen page with
  | zero => exact stopsAtTrouble_pure trivial
  | succ budget ih =>
    unfold collect
    split
    · exact stopsAtTrouble_pure trivial
    · split
      · exact stopsAtTrouble_pure trivial
      · exact (fetch_stopsAtTrouble _).bind (fun next _ => ih _ _ next)

theorem wholeListing_stopsAtTrouble (budget : Nat) : StopsAtTrouble (fun _ => True) (wholeListing budget) := by
  unfold wholeListing
  refine (fetch_stopsAtTrouble _).bind (fun first _ => ?_)
  refine (collect_stopsAtTrouble _ _ _ _).bind (fun jobs _ => ?_)
  split
  · exact Rejects.stopsAtTrouble ⟨_, rfl, rfl⟩
  · exact stopsAtTrouble_pure trivial

theorem listingTask_stopsAtTrouble (id : Option Nat) (options : Option ListingOptions) (budget : Nat) :
    StopsAtTrouble IsReached (listingTask id options budget) := by
  have hreport : ∀ info, StopsAtTrouble IsReached
      (pure ((Report.ok "Successfully fetched the job info").withPayload "job_info" info)) :=
    fun info => stopsAtTrouble_pure (Report.isUnreachable_withPayload _ _ info)
  unfold listingTask
  split
  · exact (fetch_stopsAtTrouble _).bind (fun info _ => hreport info)
  · exact (fetch_stopsAtTrouble _).bind (fun info _ => hreport info)
  · exact (wholeListing_stopsAtTrouble budget).bind (fun info _ => hreport info)

theorem consolesOf_reached (body : Json) : Reached (consolesOf body) := by
  unfold consolesOf
  split
  · exact reached_ok _
  · exact reached_ok _
  · exact reached_error rfl

theorem consolesTask_stopsAtTrouble (address : Option String) : StopsAtTrouble IsReached (consolesTask address) := by
  unfold consolesTask
  refine stopsAtTrouble_answered (fun reply _ => ?_)
  refine stopsAtTrouble_ofExcept_bind (consolesOf_reached _) (fun all _ => ?_)
  cases address with
  | none => exact stopsAtTrouble_pure (Report.isUnreachable_withPayload _ _ _)
  | some address => exact stopsAtTrouble_pure (Report.isUnreachable_withPayload _ _ _)

/-! ## All operations -/

theorem task_stopsAtTrouble (op : Operation) (check : Bool) (budget : Nat) :
    StopsAtTrouble IsReached (op.task check budget) := by
  cases op with
  | deleteJob jobId => exact deleteJobTask_stopsAtTrouble jobId check
  | clearQueue => exact clearQueueTask_stopsAtTrouble check
  | jobStatus jobId => exact jobStatusTask_stopsAtTrouble jobId
  | power reset resource => exact powerTask_stopsAtTrouble reset resource check
  | inventory state => exact inventoryTask_stopsAtTrouble state check
  | listing jobId options => exact listingTask_stopsAtTrouble jobId options budget
  | consoles address => exact consolesTask_stopsAtTrouble address

end Operation

end OutOfBand
