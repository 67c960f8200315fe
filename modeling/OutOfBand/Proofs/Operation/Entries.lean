import OutOfBand.Proofs.Attachment
import OutOfBand.Proofs.Operation.Transcript

/-! # The entries of a report

Every report of an operation is one that was made with a verdict and has taken some attachments. The verdict stands
under keys of its own, and nothing is attached under one of them, so a reader of the document finds one verdict, and it
is the report's.
-/
namespace OutOfBand

namespace Task

variable {α β : Type}

/-- Every value that the task can end in is of some kind. -/
def Yields (kind : β → Prop) (t : Task β) : Prop := ∀ exchanges b, t.Hears exchanges (.ok b) → kind b

theorem yields_pure {kind : β → Prop} {b : β} (h : kind b) : Yields kind (pure b) := by
  intro exchanges c hhears
  obtain ⟨_, hc⟩ := hears_pure hhears
  cases hc
  exact h

/-- What a task ends in is up to its last step. -/
theorem yields_bind {kind : β → Prop} {t : Task α} {k : α → Task β} (h : ∀ a, Yields kind (k a)) :
    Yields kind (t >>= k) := by
  intro exchanges b hhears
  rcases hears_bind hhears with ⟨_, _, herror⟩ | ⟨_, a, rest, _, _, hrest⟩
  · cases herror
  · exact h a rest b hrest

theorem yields_failRemote {kind : β → Prop} (message : String) : Yields kind (failRemote message) := by
  intro exchanges b hhears
  obtain ⟨_, herror⟩ := Program.hears_done hhears
  cases herror

end Task

namespace Operation

open OutOfBand.Task OutOfBand.Report

theorem isBuilt_ok (message : String) : (Report.ok message).IsBuilt := (IsMade.ok message).isBuilt

theorem isBuilt_changed (message : String) : (Report.changed message).IsBuilt := (IsMade.changed message).isBuilt

theorem deleteJobTask_yields (jobId : String) (check : Bool) : Yields IsBuilt (deleteJobTask jobId check) := by
  refine yields_bind (fun current => yields_bind (fun observed => yields_bind (fun plan => ?_)))
  split
  · exact yields_pure (isBuilt_ok _)
  · exact yields_pure (isBuilt_changed _)
  · refine yields_bind (fun reply => yields_bind (fun _ => yields_pure ?_))
    exact (isBuilt_changed _).withPayload _ _

theorem clearQueueTask_yields (check : Bool) : Yields IsBuilt (clearQueueTask check) := by
  refine yields_bind (fun current => yields_bind (fun plan => ?_))
  split
  · exact yields_pure (isBuilt_ok _)
  · exact yields_pure (isBuilt_changed _)
  · refine yields_bind (fun reply => yields_bind (fun _ => yields_pure ?_))
    exact (isBuilt_changed _).withPayload _ _

theorem jobStatusTask_yields (jobId : String) : Yields IsBuilt (jobStatusTask jobId) := by
  refine yields_bind (fun reply => ?_)
  split
  · exact yields_failRemote _
  · exact yields_bind (fun _ => yields_pure ((isBuilt_ok _).withPayload _ _))

theorem powerTask_yields (reset : ResetType) (resource : Option String) (check : Bool) :
    Yields IsBuilt (powerTask reset resource check) := by
  refine yields_bind (fun systems => yields_bind (fun _ => yields_bind (fun link => yields_bind (fun system => ?_))))
  refine yields_bind (fun _ => yields_bind (fun _ => yields_bind (fun target => yields_bind (fun _ => ?_))))
  refine yields_bind (fun plan => ?_)
  split
  · split
    · exact yields_pure (isBuilt_ok _)
    · exact yields_pure (isBuilt_ok _)
  · exact yields_pure (isBuilt_changed _)
  · exact yields_bind (fun reply => yields_bind (fun _ => yields_pure (isBuilt_changed _)))

theorem inventoryTask_yields (state : InventoryState) (check : Bool) :
    Yields IsBuilt (inventoryTask state check) := by
  refine yields_bind (fun current => yields_bind (fun _ => yields_bind (fun plan => ?_)))
  split
  · exact yields_pure (isBuilt_ok _)
  · exact yields_pure (isBuilt_changed _)
  · refine yields_bind (fun reply => yields_bind (fun _ => yields_pure ?_))
    exact (isBuilt_changed _).withPayload _ _

theorem listingTask_yields (id : Option Nat) (options : Option ListingOptions) (budget : Nat) :
    Yields IsBuilt (listingTask id options budget) := by
  have hreport : ∀ info, Yields IsBuilt (pure ((Report.ok "Successfully fetched the job info").withPayload "job_info" info)) :=
    fun info => yields_pure ((isBuilt_ok _).withPayload _ _)
  unfold listingTask
  split
  · exact yields_bind hreport
  · exact yields_bind hreport
  · exact yields_bind hreport

theorem consolesTask_yields (address : Option String) : Yields IsBuilt (consolesTask address) := by
  refine yields_bind (fun reply => yields_bind (fun _ => yields_bind (fun all => ?_)))
  split
  · exact yields_pure ((isBuilt_ok _).withPayload _ _)
  · exact yields_pure ((isBuilt_ok _).withPayload _ _)

theorem task_yields (op : Operation) (check : Bool) (budget : Nat) : Yields IsBuilt (op.task check budget) := by
  cases op with
  | deleteJob jobId => exact deleteJobTask_yields jobId check
  | clearQueue => exact clearQueueTask_yields check
  | jobStatus jobId => exact jobStatusTask_yields jobId
  | power reset resource => exact powerTask_yields reset resource check
  | inventory state => exact inventoryTask_yields state check
  | listing jobId options => exact listingTask_yields jobId options budget
  | consoles address => exact consolesTask_yields address

theorem run_isBuilt (op : Operation) (check : Bool) (files : FileTree) (config : SessionConfig) (wire : Wire) :
    (op.run check files config wire).1.IsBuilt := by
  obtain ⟨_, _, _, hattempts⟩ := op.run_attempts check files config wire
  rw [run_report]
  cases hresult : op.result check files config wire with
  | error f => exact (IsMade.ofFailure f).isBuilt
  | ok report =>
    rcases hattempts.result with ⟨e, herror, _, _⟩ | ⟨_, _, hhears⟩
    · rw [hresult] at herror
      cases herror
    · rw [hresult] at hhears
      exact op.task_yields check _ _ report hhears

end Operation

end OutOfBand
