import OutOfBand.Proofs.CommandLine.CheckMode
import OutOfBand.Proofs.Operation.JobDeletions

/-! # Deletions of jobs on the command line

The job that a run deletes is the one that was named, by the subcommand or in the argument file of a module.
A module that serves both deletions clears the queue only if its file names no job.
-/
namespace OutOfBand

open Session

/-! ## Options of an operation -/

namespace OperationKind

theorem decode_kind {kind : OperationKind} {value : Json} {op : Operation} (h : kind.decode value = .ok op) :
    op.kind = kind := by
  obtain ⟨seen, _, h⟩ := bind_eq_ok h
  cases kind with
  | deleteJob =>
    obtain ⟨jobId, _, rfl⟩ := map_eq_ok h
    rfl
  | clearQueue =>
    cases h
    rfl
  | jobStatus =>
    obtain ⟨jobId, _, rfl⟩ := map_eq_ok h
    rfl
  | power =>
    obtain ⟨reset, _, h⟩ := bind_eq_ok h
    obtain ⟨resource, _, h⟩ := bind_eq_ok h
    cases h
    rfl
  | inventory =>
    obtain ⟨state, _, rfl⟩ := map_eq_ok h
    rfl
  | listing =>
    obtain ⟨jobId, _, h⟩ := bind_eq_ok h
    obtain ⟨options, _, h⟩ := bind_eq_ok h
    cases h
    rfl
  | consoles =>
    obtain ⟨address, _, rfl⟩ := map_eq_ok h
    rfl

theorem decode_deleteJob {members : Object} {jobId : String}
    (h : OperationKind.deleteJob.decode (.object members) = .ok (.deleteJob jobId)) :
    members.get? "job_id" = some (.string jobId) := by
  obtain ⟨seen, hseen, h⟩ := bind_eq_ok h
  obtain ⟨read, hread, hid⟩ := map_eq_ok h
  cases hid
  unfold needed at hread
  split at hread
  · rename_i value hvalue
    obtain ⟨key, rule, hkey, hrule, hname⟩ := RecordShape.decode_source hseen hvalue
    have hspelled : key = "job_id" := by
      obtain ⟨hmem, hspelled⟩ := RecordShape.mem_of_rule? hrule
      simp only [shape, List.mem_singleton] at hmem
      subst hmem
      simpa [FieldRule.isSpelled, FieldRule.of] using hspelled
    rw [hspelled] at hkey
    rw [hkey]
    cases value with
    | string s =>
      cases hread
      rfl
    | _ => cases hread
  · cases hread

end OperationKind

namespace CommandLine

/-! ## Where the operation comes from -/

/-- What a subcommand says about the deletion of jobs. -/
def Level.NamesDeletion (level : Level) (op : Operation) : Prop :=
  match op with
  | .deleteJob jobId => level.path.tail = ["lc-job", "delete"] ∧ level.value? "job-id" = some jobId
  | .clearQueue => level.path.tail = ["lc-job-queue", "delete"]
  | _ => True

/-- What a module and its arguments say about the deletion of jobs. -/
def ArgumentsNameDeletion (name : String) (arguments : Object) (op : Operation) : Prop :=
  match op with
  | .deleteJob jobId => arguments.get? "job_id" = some (.string jobId)
  | .clearQueue => name = "idrac_lifecycle_controller_jobs" → (arguments.get? "job_id").filter (!·.isNull) = none
  | _ => True

/-- The words, and for a module its argument file, name the deletion of jobs that the operation is. -/
def Invocation.NamesDeletion (invocation : Invocation) (words : List String) (files : FileTree) (env : Environment)
    (op : Operation) : Prop :=
  match invocation.command with
  | .completions _ => False
  | .device .. => ∃ levels level, CommandLine.parse env words = .ok levels ∧ levels.getLast? = some level ∧ level.NamesDeletion op
  | .automation name path => ∃ arguments, ArgumentFile.stated? files path = some arguments ∧
      ArgumentsNameDeletion name arguments op

theorem needed_ok {level : Level} {name value : String} (h : needed level name = .ok value) :
    level.value? name = some value := by
  unfold needed at h
  split at h
  · rename_i given hgiven
    cases h
    exact hgiven
  · cases h

theorem ofLevel_namesDeletion {env : Environment} {level : Level} {op : Operation} {uuid : Option String}
    (h : Command.ofLevel env level = .ok (.device op uuid)) : level.NamesDeletion op := by
  unfold Command.ofLevel at h
  dsimp only at h
  split at h
  · rename_i hpath
    obtain ⟨jobId, hneeded, h⟩ := bind_eq_ok h
    cases h
    exact ⟨hpath, needed_ok hneeded⟩
  · obtain ⟨jobId, _, h⟩ := bind_eq_ok h
    cases h
    exact trivial
  · rename_i hpath
    cases h
    exact hpath
  · obtain ⟨name, _, h⟩ := bind_eq_ok h
    obtain ⟨reset, _, h⟩ := bind_eq_ok h
    cases h
    exact trivial
  · obtain ⟨name, _, h⟩ := bind_eq_ok h
    obtain ⟨state, _, h⟩ := bind_eq_ok h
    cases h
    exact trivial
  · cases h
    exact trivial
  · cases h
    exact trivial
  · obtain ⟨name, _, h⟩ := bind_eq_ok h
    obtain ⟨path, _, h⟩ := bind_eq_ok h
    cases h
  · obtain ⟨shell, _, h⟩ := bind_eq_ok h
    cases h
  · cases h

theorem operation_of_performance? {op : Operation} {c : Connection} {p : Performance} (h : op.performance? c = some p) :
    p.operation = op := by
  obtain ⟨config, _, rfl⟩ := Option.map_eq_some_iff.mp h
  rfl

theorem kind?_clearQueue {file : ArgumentFile}
    (h : Automation.kind? "idrac_lifecycle_controller_jobs" file = some .clearQueue) : file.get? "job_id" = none := by
  simp only [Automation.kind?] at h
  split at h
  · cases h
  · rename_i hnone
    simpa using hnone

theorem argumentsNameDeletion_of_operation {name : String} {file : ArgumentFile} {kind : OperationKind} {op : Operation}
    (hkind : Automation.kind? name file = some kind) (hop : file.operation kind = .ok op) :
    ArgumentsNameDeletion name file.arguments op := by
  have hdecoded := eq_ok_of_mapError hop
  have hsame := OperationKind.decode_kind hdecoded
  subst hsame
  cases op with
  | deleteJob jobId => exact OperationKind.decode_deleteJob hdecoded
  | clearQueue =>
    rintro rfl
    exact kind?_clearQueue hkind
  | _ => exact trivial

theorem Invocation.namesDeletion {words : List String} {files : FileTree} {env : Environment} {invocation : Invocation}
    {p : Performance} (hparse : Invocation.parse env words = .ok invocation)
    (h : invocation.performance? files env = some p) : invocation.NamesDeletion words files env p.operation := by
  unfold performance? at h
  unfold NamesDeletion
  cases hcommand : invocation.command with
  | completions shell =>
    rw [hcommand] at h
    cases h
  | device op uuid =>
    rw [hcommand] at h
    obtain ⟨c, _, h⟩ := Option.bind_eq_some_iff.mp h
    rw [operation_of_performance? h]
    obtain ⟨levels, hlevels, hparse⟩ := bind_eq_ok hparse
    split at hparse
    · cases hparse
    · rename_i level hlast
      obtain ⟨command, hofLevel, hparse⟩ := bind_eq_ok hparse
      cases hparse
      subst hcommand
      exact ⟨levels, level, hlevels, hlast, ofLevel_namesDeletion hofLevel⟩
  | automation name path =>
    rw [hcommand] at h
    obtain ⟨file, hfile, h⟩ := Option.bind_eq_some_iff.mp h
    obtain ⟨kind, hkind, h⟩ := Option.bind_eq_some_iff.mp h
    obtain ⟨op, hop, h⟩ := Option.bind_eq_some_iff.mp h
    rw [operation_of_performance? h]
    have hstated := (ArgumentFile.load_ok (eq_ok_of_toOption hfile)).1
    exact ⟨file.arguments, hstated, argumentsNameDeletion_of_operation hkind (eq_ok_of_toOption hop)⟩

/-! ## The run -/

/-- Whatever a run of the program sends is harmless or does to jobs what was asked for. The deletion of a job names
the job that the words or the argument file name, without blanks around it, and comes right behind the reading
of its status. All jobs are deleted only where the words or the file name none, or where they name the id that
stands for all. -/
theorem execute_deletes_named_job (words : List String) (files : FileTree) (env : Environment) (wire : Wire) :
    ∃ sent : List Attempt, (execute words files env wire).2.attempts = wire.attempts ++ sent ∧
      match Invocation.parse env words with
      | .error _ => sent = []
      | .ok invocation =>
        match invocation.performance? files env with
        | none => sent = []
        | some p => invocation.NamesDeletion words files env p.operation ∧
          (∀ a ∈ sent, IsHarmless p.config a.request ∨
            p.operation.DeletesAsAsked (p.operation.transcript p.isCheck files p.config wire) a) ∧
          ∀ a ∈ sent, NamesJob Jobs.everyJob a.request →
            p.operation = .clearQueue ∨ ∃ jobId, p.operation = .deleteJob jobId ∧ Text.trim jobId = Jobs.everyJob := by
  cases hparse : Invocation.parse env words with
  | error stop =>
    refine ⟨[], ?_, rfl⟩
    simp only [execute, hparse, List.append_nil]
  | ok invocation =>
    rw [execute_wire hparse]
    dsimp only
    cases hp : invocation.performance? files env with
    | none => exact ⟨[], (List.append_nil _).symm, rfl⟩
    | some p =>
      obtain ⟨sent, hlog, hsent⟩ := p.operation.run_deletesAsAsked p.isCheck files p.config wire
      refine ⟨sent, hlog, Invocation.namesDeletion hparse hp, hsent, fun a ha hevery => ?_⟩
      rcases hsent a ha with hharmless | hasked
      · exact absurd hharmless (hevery.not_isHarmless p.config)
      cases hop : p.operation with
      | deleteJob jobId =>
        rw [hop] at hasked
        exact Or.inr ⟨jobId, rfl, hasked.1.id_eq hevery⟩
      | clearQueue => exact Or.inl rfl
      | _ =>
        rw [hop] at hasked
        exact absurd hevery (hasked Jobs.everyJob)

end CommandLine

end OutOfBand
