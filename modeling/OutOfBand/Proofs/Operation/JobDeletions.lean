import OutOfBand.Proofs.Operation.Observation

/-! # Deletions of jobs

Which jobs a run may delete. The deletion of one job names that job, right behind the reading of its status.
Only the id that stands for every job makes it pass for the clearing of the queue.
-/
namespace OutOfBand

open Http Session

/-! ## The request -/

/-- The posting that has one job deleted, or all of them. -/
def NamesJob (id : String) (request : Request) : Prop :=
  request.method = "POST" ∧ request.body = some (.ofEntries [("JobID", .string id)])

theorem NamesJob.member?_jobId {id : String} {request : Request} (h : NamesJob id request) :
    request.body.bind (·.member? "JobID") = some (.string id) := by
  rw [h.2, Option.bind_some, Json.member?_ofEntries]
  rfl

theorem NamesJob.id_eq {id other : String} {request : Request} (h : NamesJob id request) (hother : NamesJob other request) :
    id = other := by
  have hsame := h.member?_jobId.symm.trans hother.member?_jobId
  cases hsame
  rfl

theorem NamesJob.not_isHarmless {id : String} {request : Request} (h : NamesJob id request) (config : SessionConfig) :
    ¬ IsHarmless config request := by
  refine not_isHarmless_of_post h.1 ?_ config
  rw [h.2, Option.bind_some, Json.member?_ofEntries]
  simp [List.lookup_cons]

/-! ## The run -/

namespace Operation

variable {op : Operation} {check : Bool} {files : FileTree} {config : SessionConfig} {wire : Wire}
  {opening sent closing : List Attempt}

/-- How an attempt of a run that changes something may bear on jobs. One job is deleted only by a request that names it,
right behind the reading of its status. -/
def DeletesAsAsked (op : Operation) (transcript : List Exchange) (a : Attempt) : Prop :=
  match op with
  | deleteJob jobId => NamesJob (Text.trim jobId) a.request ∧ ∃ status later,
      transcript = [⟨.get s!"{Jobs.collectionPath}/{Text.trim jobId}", .ok status⟩, later] ∧
        status.isSuccess = true ∧ later.IsSentAs a
  | clearQueue => NamesJob Jobs.everyJob a.request
  | _ => ∀ id, ¬ NamesJob id a.request

theorem eq_ok_of_decision?_eq_some {reply : Except SessionError Envelope} {action : Action}
    (h : op.decision? check reply = some action) : ∃ answer, reply = .ok answer ∧ answer.isSuccess = true := by
  cases reply with
  | error e => cases h
  | ok answer =>
    refine ⟨answer, rfl, ?_⟩
    by_contra hstatus
    rw [decision?, if_neg hstatus] at h
    cases h

theorem Ensues.exists_change {change : RequestSpec} {front exchanges : List Exchange} {ending : Except Failure Report}
    {action : Option Action} (h : Ensues change front action exchanges ending) {e : Exchange} (he : e ∈ exchanges) :
    e ∈ front ∨ ∃ reply, action = some .apply ∧ e = ⟨change, reply⟩ ∧ exchanges = front ++ [e] := by
  cases h with
  | refused f => exact Or.inl he
  | settled _ => exact Or.inl he
  | told => exact Or.inl he
  | changed _ =>
    rcases List.mem_append.mp he with he | he
    · exact Or.inl he
    · rw [List.mem_singleton.mp he]
      exact Or.inr ⟨_, rfl, rfl, rfl⟩

/-- The exchanges that delete one job: behind the reading of its status there is at most its deletion. -/
theorem deleteJob_exchange {jobId : String} {exchanges : List Exchange} {ending : Except Failure Report}
    (h : Task.Hears (deleteJobTask jobId check) exchanges ending) {e : Exchange} (he : e ∈ exchanges) :
    e.spec.method = "GET" ∨ e.spec = Jobs.deletionRequest (Text.trim jobId) ∧ ∃ status,
      exchanges = [⟨.get s!"{Jobs.collectionPath}/{Text.trim jobId}", .ok status⟩, e] ∧ status.isSuccess = true := by
  rcases deleteJobTask_hears h with ⟨rfl, _⟩ | ⟨reply, hensues⟩
  · exact absurd he List.not_mem_nil
  rcases hensues.exists_change he with hfront | ⟨later, haction, rfl, hexchanges⟩
  · rw [List.mem_singleton.mp hfront]
    exact Or.inl rfl
  · obtain ⟨status, rfl, hstatus⟩ := eq_ok_of_decision?_eq_some haction
    exact Or.inr ⟨rfl, status, hexchanges, hstatus⟩

theorem not_namesJob_of_changesBy {change : RequestSpec} (hchange : change.body.bind (·.member? "JobID") = none)
    {reply : Except SessionError Envelope} {a : Attempt} (h : (⟨change, reply⟩ : Exchange).IsSentAs a) (id : String) :
    ¬ NamesJob id a.request := by
  intro hnames
  have hmember := hnames.member?_jobId
  rw [h.body, hchange] at hmember
  cases hmember

theorem Attempts.deletesAsAsked (hop : op.changesState = true) (h : op.Attempts check files config wire opening sent closing)
    {a : Attempt} (ha : a ∈ sent) :
    IsHarmless config a.request ∨ op.DeletesAsAsked (op.transcript check files config wire) a := by
  obtain ⟨e, he, _, hcarried⟩ := h.exists_exchange ha
  rcases h.result with ⟨_, _, hnone, _⟩ | ⟨_, _, hhears⟩
  · rw [hnone] at he
    exact absurd he List.not_mem_nil
  have hharmless : e.spec.method = "GET" → IsHarmless config a.request := by
    intro hget
    exact Or.inl (by rw [hcarried.method, hget])
  rcases task_ensues hop hhears with ⟨_, hget, _⟩ | ⟨front, reading, change, _, _, hget, hchanges, hensues⟩
  · exact Or.inl (hharmless (hget e he))
  rcases hensues.exists_change he with hfront | ⟨reply, _, rfl, _⟩
  · exact Or.inl (hharmless (hget e hfront))
  -- What is left is the change itself, and only the two deletions name a job in it.
  cases op with
  | deleteJob jobId =>
    rcases deleteJob_exchange hhears he with hmethod | ⟨_, status, htranscript, hstatus⟩
    · exact Or.inl (hharmless hmethod)
    · rw [show change = Jobs.deletionRequest (Text.trim jobId) from hchanges] at htranscript hcarried
      exact Or.inr ⟨⟨hcarried.method, hcarried.body⟩, status, _, htranscript, hstatus, hcarried⟩
  | clearQueue =>
    rw [show change = Jobs.deletionRequest Jobs.everyJob from hchanges] at hcarried
    exact Or.inr ⟨hcarried.method, hcarried.body⟩
  | power reset resource => exact Or.inr (fun id => not_namesJob_of_changesBy hchanges hcarried id)
  | inventory state => exact Or.inr (fun id => not_namesJob_of_changesBy hchanges hcarried id)
  | _ => cases hop

theorem run_of_reading (hop : op.changesState = false) (check : Bool) (files : FileTree) (config : SessionConfig)
    (wire : Wire) : op.run check files config wire = op.run true files config wire := by
  cases op with
  | jobStatus jobId => rfl
  | listing jobId options => rfl
  | consoles address => rfl
  | _ => cases hop

/-- Whatever a run sends is harmless or does to jobs what was asked for. -/
theorem run_deletesAsAsked (op : Operation) (check : Bool) (files : FileTree) (config : SessionConfig) (wire : Wire) :
    ∃ sent : List Attempt, (op.run check files config wire).2.attempts = wire.attempts ++ sent ∧
      ∀ a ∈ sent, IsHarmless config a.request ∨ op.DeletesAsAsked (op.transcript check files config wire) a := by
  cases hop : op.changesState with
  | false =>
    obtain ⟨told, _, _, htold, _, _, _, hnone, _⟩ := op.run_stages files config wire
    rw [run_of_reading hop]
    exact ⟨told.attempts, htold, fun a ha => Or.inl (told.isHarmless hnone ha)⟩
  | true =>
    obtain ⟨opening, sent, closing, h⟩ := op.run_attempts check files config wire
    refine ⟨opening ++ sent ++ closing, h.attempts_append, fun a ha => ?_⟩
    rcases h.isHarmless_or_mem ha with hharmless | ha
    · exact Or.inl hharmless
    · exact h.deletesAsAsked hop ha

/-- The id that stands for every job, and a device that knows it: the whole queue is cleared. -/
theorem run_deletes_every_job :
    let config : SessionConfig := ⟨⟨"127.0.0.1", 443, .http, .system, 30000⟩, .token "t", .redfish, none⟩
    let device : Device := ⟨.ipv4 0x7F000001, 443, true, none,
      [.answer 200 [] (Text.encodeUtf8 "\x7b\x7d"), .answer 200 [] (Text.encodeUtf8 "\x7b\x7d")]⟩
    ((deleteJob "JID_CLEARALL").run false FileTree.empty config ⟨device, []⟩).2.attempts.any (fun a =>
      a.request.method == "POST" && a.request.body.bind (·.textMember? "JobID") == some Jobs.everyJob) = true := by
  decide +kernel

end Operation

end OutOfBand
