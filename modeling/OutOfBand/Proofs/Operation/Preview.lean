import OutOfBand.Operation.Basic
import OutOfBand.Proofs.Report
import OutOfBand.Proofs.Session.Exchange

/-! # Previews

A preview is a program that goes as far as another one without changing anything. The two read the same,
and from the same replies they come to the same verdict, or the preview ends where the other sends its
only change. The relation is closed under the steps of which tasks are made, so an operation is a
preview of itself as soon as each of its steps is, and it says what the two do on the wire.
-/
namespace OutOfBand

open Http

variable {α β : Type}

/-- A request that changes something. It has no headers of its own, and its body is not that of a login. -/
structure IsChange (spec : RequestSpec) : Prop where
  method : spec.method ≠ "GET"
  headers : spec.headers = []
  body : spec.body.bind (·.member? "Password") = none

/-- A request that reads. -/
structure IsReading (spec : RequestSpec) : Prop where
  method : spec.method = "GET"
  headers : spec.headers = []

/-- Every request of the program reads. -/
inductive Program.OnlyReads : Program α → Prop
  | done (value : α) : OnlyReads (.done value)
  | execute {spec : RequestSpec} {next : Except SessionError Envelope → Program α} (hspec : IsReading spec)
      (hnext : ∀ reply, OnlyReads (next reply)) : OnlyReads (.execute spec next)

/-- The first program previews the second. The flag says that a reply has come already, without which no
change is sent. -/
inductive Previews : Bool → Program (Except Failure Report) → Program (Except Failure Report) → Prop
  | settled {heard : Bool} {told done : Except Failure Report}
      (hsame : (Report.ofResult told).verdict = (Report.ofResult done).verdict)
      (hunchanged : (Report.ofResult done).isChanged = false) : Previews heard (.done told) (.done done)
  | reads {heard : Bool} {spec : RequestSpec} {next next' : Except SessionError Envelope → Program (Except Failure Report)}
      (hspec : IsReading spec) (hok : ∀ reply, Previews true (next (.ok reply)) (next' (.ok reply)))
      (herror : ∀ e, Previews heard (next (.error e)) (next' (.error e))) :
      Previews heard (.execute spec next) (.execute spec next')
  | changes {told : Except Failure Report} {spec : RequestSpec}
      {next : Except SessionError Envelope → Program (Except Failure Report)}
      (htold : (Report.ofResult told).verdict = .changed) (hspec : IsChange spec)
      (hnext : ∀ reply, ∃ done, next reply = .done done ∧ (Report.ofResult done).Tells (isAnsweredWell reply)) :
      Previews true (.done told) (.execute spec next)

/-! ## Programs -/

theorem Program.OnlyReads.bind {p : Program α} {f : α → Program β} (hp : p.OnlyReads) (hf : ∀ a, (f a).OnlyReads) :
    (p.bind f).OnlyReads := by
  induction hp with
  | done value => exact hf value
  | execute hspec _ ih => exact .execute hspec ih

namespace Previews

variable {heard : Bool} {p q : Program (Except Failure Report)}

theorem of_heard (h : Previews heard p q) : Previews true p q := by
  induction h with
  | settled hsame hunchanged => exact .settled hsame hunchanged
  | reads hspec hok _ _ ih => exact .reads hspec hok ih
  | changes htold hspec hnext => exact .changes htold hspec hnext

theorem bind {r : Program α} (hr : r.OnlyReads) {f g : α → Program (Except Failure Report)}
    (h : ∀ a, Previews heard (f a) (g a)) : Previews heard (r.bind f) (r.bind g) := by
  induction hr generalizing heard with
  | done value => exact h value
  | execute hspec _ ih =>
    exact .reads hspec (fun reply => ih (.ok reply) (fun a => (h a).of_heard)) (fun e => ih (.error e) h)

theorem failed (f : Failure) : Previews heard (.done (.error f)) (.done (.error f)) :=
  .settled rfl (Report.isChanged_ofFailure f)

end Previews

/-! ## Tasks -/

namespace Task

/-- Go on with the value of a result, or fail with its failure. -/
def continued (next : α → Program (Except Failure β)) : Except Failure α → Program (Except Failure β)
  | .ok a => next a
  | .error f => .done (.error f)

theorem program_bind (t : Task α) (k : α → Task β) :
    (t >>= k).program = t.program.bind (continued (fun a => (k a).program)) := by
  show Program.bind t.run _ = _
  congr 1
  funext result
  cases result with
  | ok a => rfl
  | error f => rfl

def OnlyReads (t : Task α) : Prop := t.program.OnlyReads

theorem onlyReads_pure (a : α) : OnlyReads (pure a) := .done _

theorem onlyReads_ofExcept (result : Except Failure α) : OnlyReads (ofExcept result) := by
  cases result with
  | ok a => exact .done _
  | error f => exact .done _

theorem onlyReads_send {spec : RequestSpec} (h : IsReading spec) : OnlyReads (send spec) :=
  .execute h (fun _ => .done _)

theorem OnlyReads.bind {t : Task α} {k : α → Task β} (ht : OnlyReads t) (hk : ∀ a, OnlyReads (k a)) :
    OnlyReads (t >>= k) := by
  rw [OnlyReads, program_bind]
  refine Program.OnlyReads.bind ht (fun result => ?_)
  cases result with
  | ok a => exact hk a
  | error f => exact .done _

theorem plan_some (desired observed : Object) (check : Bool) (unreadable : String) :
    plan desired (some observed) check unreadable = ofExcept (Plan.make desired (some observed) check) := by
  simp only [plan, Plan.make]
  cases deltaKeys desired observed with
  | nil => rfl
  | cons key keys => rfl

end Task

namespace Previews

variable {heard : Bool}

theorem pure_of_verdict {told done : Report} (hsame : told.verdict = done.verdict) (hunchanged : done.isChanged = false) :
    Previews heard (Task.program (pure told)) (Task.program (pure done)) := .settled hsame hunchanged

theorem unchanged {report : Report} (h : report.isChanged = false) :
    Previews heard (Task.program (pure report)) (Task.program (pure report)) := .settled rfl h

theorem task_bind {t : Task α} (ht : Task.OnlyReads t) {k l : α → Task Report}
    (h : ∀ a, Previews heard (k a).program (l a).program) : Previews heard (t >>= k).program (t >>= l).program := by
  rw [Task.program_bind, Task.program_bind]
  refine Previews.bind ht (fun result => ?_)
  cases result with
  | ok a => exact h a
  | error f => exact .failed f

theorem send_bind {spec : RequestSpec} (hspec : IsReading spec) {k l : Envelope → Task Report}
    (h : ∀ reply, Previews true (k reply).program (l reply).program) :
    Previews heard (Task.send spec >>= k).program (Task.send spec >>= l).program := by
  rw [Task.program_bind, Task.program_bind]
  exact .reads hspec h (fun e => .failed _)

/-- The plan of a preview finds the same keys to change as the one that is carried out. -/
theorem plan_bind (desired : Object) (observed : Option Object) (unreadable : String) {k l : Plan → Task Report}
    (hnoop : Previews heard (k ⟨.noop, []⟩).program (l ⟨.noop, []⟩).program)
    (happly : ∀ keys, Previews heard (k ⟨.wouldChange, keys⟩).program (l ⟨.apply, keys⟩).program) :
    Previews heard (Task.plan desired observed true unreadable >>= k).program
      (Task.plan desired observed false unreadable >>= l).program := by
  cases observed with
  | none => exact .failed _
  | some observed =>
    simp only [Task.plan, Plan.make]
    cases deltaKeys desired observed with
    | nil => exact hnoop
    | cons key keys => exact happly (key :: keys)

end Previews

end OutOfBand
