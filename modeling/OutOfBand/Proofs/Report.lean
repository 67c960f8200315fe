import OutOfBand.Report

/-! # The verdict of a report

Nothing that is attached to a report changes its verdict. The verdicts that are ever given are four: a
failure never counts as a change, and a device that could not be reached is a failure.
-/
namespace OutOfBand

/-- What the flags of a verdict promise. -/
structure Verdict.IsSound (v : Verdict) : Prop where
  not_changed : v.isFailed = true → v.isChanged = false
  failed : v.isUnreachable = true → v.isFailed = true

/-- Whatever is asked for, a verdict of a failure is not one of a change. -/
theorem Verdict.build_isSound {changed failed unreachable : Bool} (h : unreachable = true → failed = true) :
    (build changed failed unreachable).IsSound := by
  refine ⟨fun hfailed => ?_, h⟩
  simp only [build, show failed = true from hfailed, Bool.not_true, Bool.and_false]

/-- The verdict is one that failures are given. -/
def Verdict.IsFailure (v : Verdict) : Prop := v = .failed ∨ v = .unreachable

theorem Verdict.IsFailure.isFailed {v : Verdict} (h : v.IsFailure) : v.isFailed = true := by
  rcases h with rfl | rfl
  · rfl
  · rfl

theorem Verdict.IsFailure.isChanged {v : Verdict} (h : v.IsFailure) : v.isChanged = false := by
  rcases h with rfl | rfl
  · rfl
  · rfl

namespace Report

/-- The report in which a result is told. -/
def ofResult : Except Failure Report → Report
  | .ok report => report
  | .error f => .ofFailure f

@[simp] theorem verdict_withPayload (r : Report) (key : String) (value : Json) :
    (r.withPayload key value).verdict = r.verdict := by
  unfold withPayload
  split
  · rfl
  · rfl

@[simp] theorem isChanged_withPayload (r : Report) (key : String) (value : Json) :
    (r.withPayload key value).isChanged = r.isChanged := by
  rw [isChanged, isChanged, verdict_withPayload]

theorem verdict_foldl_withPayload (entries : Object) (r : Report) :
    (List.foldl (fun r entry => r.withPayload entry.1 entry.2) r entries).verdict = r.verdict := by
  induction entries generalizing r with
  | nil => rfl
  | cons entry rest ih => rw [List.foldl_cons, ih, verdict_withPayload]

theorem verdict_ofFailure (f : Failure) :
    (ofFailure f).verdict = if f.isUnreachable then .unreachable else .failed := by
  unfold ofFailure
  split
  · rfl
  · exact verdict_foldl_withPayload _ _

@[simp] theorem isUnreachable_withPayload (r : Report) (key : String) (value : Json) :
    (r.withPayload key value).isUnreachable = r.isUnreachable := by
  rw [isUnreachable, isUnreachable, verdict_withPayload]

theorem isUnreachable_ofFailure (f : Failure) : (ofFailure f).isUnreachable = f.isUnreachable := by
  rw [isUnreachable, verdict_ofFailure]
  cases f.isUnreachable with
  | true => rfl
  | false => rfl

theorem isFailure_ofFailure (f : Failure) : (ofFailure f).verdict.IsFailure := by
  rw [verdict_ofFailure]
  split
  · exact Or.inr rfl
  · exact Or.inl rfl

theorem isFailed_ofFailure (f : Failure) : (ofFailure f).isFailed = true := (isFailure_ofFailure f).isFailed

theorem isChanged_ofFailure (f : Failure) : (ofFailure f).isChanged = false := (isFailure_ofFailure f).isChanged

theorem message_foldl_withPayload (entries : Object) (r : Report) :
    (List.foldl (fun r entry => r.withPayload entry.1 entry.2) r entries).message = r.message := by
  induction entries generalizing r with
  | nil => rfl
  | cons entry rest ih =>
    rw [List.foldl_cons, ih, withPayload]
    split
    · rfl
    · rfl

theorem message_ofFailure (f : Failure) : (ofFailure f).message = f.message := by
  unfold ofFailure
  split
  · rfl
  · exact message_foldl_withPayload _ _

/-- The report tells how the change went that it is about. -/
def Tells (r : Report) (isDone : Bool) : Prop := if isDone then r.verdict = .changed else r.verdict.IsFailure

theorem Tells.isChanged_iff {r : Report} {isDone : Bool} (h : r.Tells isDone) : r.isChanged = true ↔ isDone = true := by
  cases isDone with
  | true =>
    have hverdict : r.verdict = .changed := h
    simp [isChanged, hverdict, Verdict.changed, Verdict.build]
  | false => simp [isChanged, Verdict.IsFailure.isChanged h]

theorem Tells.isFailed_iff {r : Report} {isDone : Bool} (h : r.Tells isDone) : r.isFailed = true ↔ isDone = false := by
  cases isDone with
  | true =>
    have hverdict : r.verdict = .changed := h
    simp [isFailed, hverdict, Verdict.changed, Verdict.build]
  | false => simp [isFailed, Verdict.IsFailure.isFailed h]

end Report

end OutOfBand
