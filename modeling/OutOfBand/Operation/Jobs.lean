import OutOfBand.Operation.Basic
import OutOfBand.Session.Jobs

/-! # Operations on jobs

Delete one job of the lifecycle controller, clear its whole queue, or read the status of one job.
-/
namespace OutOfBand.Operation

def presence (isPresent : Bool) : Object := [("job_present", .bool isPresent)]

/-- What the status of a job says about its presence. An unknown job is a failure. -/
def observedJob (id : String) (status : Http.Envelope) : Except Failure (Option Object) :=
  match status.field? "Status" with
  | some "Found Fault" => .error (.remoteWith s!"Invalid Job ID: {id}" "status" status.body)
  | some "Success" => .ok (some (presence true))
  | _ => .ok none

def reasonOf (reply : Http.Envelope) : String := (reply.field? "Message").getD "unknown error"

/-- Delete one job. The job has to exist. -/
def deleteJobTask (jobId : String) (check : Bool) : Task Report := do
  let id := Text.trim jobId
  let current ← Task.ofSession (Jobs.status id)
  let observed ← Task.ofExcept (observedJob id current)
  let plan ← Task.plan (presence false) observed check s!"unable to read the status of job {id}: {reasonOf current}"
  match plan.action with
  | .noop => return .ok noChanges
  | .wouldChange => return .changed changesFound
  | .apply =>
    let reply ← Task.ofSession (Jobs.delete id)
    Task.requireResult s!"Failed to delete the Job: {id}." reply
    return (Report.changed "Successfully deleted the job.").withPayload "status" reply.body

def queueLength (n : Nat) : Object := [("pending_jobs", .ofNat n)]

/-- The number of jobs in a listing that succeeded. -/
def pendingCount? (listing : Http.Envelope) : Option Nat :=
  match listing.field? "Status" with
  | some "Success" => (listing.body.itemsMember? "Jobs").map List.length
  | _ => none

/-- Clear the whole queue. -/
def clearQueueTask (check : Bool) : Task Report := do
  let current ← Task.ofSession Jobs.pending
  let observed := (pendingCount? current).map queueLength
  let plan ← Task.plan (queueLength 0) observed check s!"unable to read the job queue: {reasonOf current}"
  match plan.action with
  | .noop => return .ok "The job queue is already empty."
  | .wouldChange => return .changed changesFound
  | .apply =>
    let reply ← Task.ofSession Jobs.deleteAll
    Task.requireResult "Failed to delete the job queue." reply
    return (Report.changed "Successfully deleted the job queue.").withPayload "status" reply.body

/-- Read the status of one job. -/
def jobStatusTask (jobId : String) : Task Report := do
  let reply ← Task.ofSession (Jobs.status (Text.trim jobId))
  if reply.field? "Status" = some "Found Fault" then Task.failRemote "Job ID is invalid."
  else
    Task.requireResult s!"Unable to fetch the job info: {reasonOf reply}" reply
    return (Report.ok "Successfully fetched the job info").withPayload "job_info" reply.body

end OutOfBand.Operation
