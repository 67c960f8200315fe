import OutOfBand.Session.Program

/-! # Jobs of the lifecycle controller

The job service of one device. Every reply is reshaped into a result dictionary, which is judged by its
`Status`: `Success`, `Error` or `Found Fault`.
-/
namespace OutOfBand.Jobs

open OutOfBand.Http

def collectionPath : String := "/redfish/v1/Managers/iDRAC.Embedded.1/Jobs"

def deletionPath : String :=
  "/redfish/v1/Dell/Managers/iDRAC.Embedded.1/DellJobService/Actions/DellJobService.DeleteJobQueue"

/-- The id that stands for every job of the queue. -/
def everyJob : String := "JID_CLEARALL"

/-- The fields of a job that are copied into the result. -/
def fields : List String := ["InstanceID", "JobStatus", "JobState", "Message", "MessageID", "Name",
  "PercentComplete", "JobStartTime", "JobUntilTime", "JobType"]

/-- Characters that would address another resource, and blanks. -/
def isReserved (c : Char) : Bool :=
  ['/', '\\', '?', '#', '%'].contains c || Text.isBlank c || Text.isControl c

/-- The id without blanks around it. -/
def checkedId (id : String) : Except SessionError String :=
  let id := Text.trim id
  if id.isEmpty then .error (.configuration "job_id must not be empty")
  else if id.toList.any isReserved then .error (.configuration s!"Invalid Job ID: {id}")
  else .ok id

/-- The message id of a vendor error's first info. -/
def vendorMessageId (reply : Envelope) : Json :=
  .ofOption .string ((reply.vendorError?.bind (·.extendedInfo.head?)).bind ExtendedInfo.messageId)

/-- The result of a reply with an error status. -/
def errorResult (reply : Envelope) : Envelope :=
  .synthesized reply.status (.ofEntries [("Status", .string "Error"), ("Message", .string reply.diagnostic),
    ("MessageID", vendorMessageId reply), ("ReturnValue", .string "2"), ("Data", reply.body)])

/-- The fields of a job, its id under `InstanceID` if need be. -/
def jobEntries (body : Json) : List (String × Json) :=
  let copied := fields.filterMap (fun field => (body.member? field).map (fun value => (field, value)))
  let id := if (body.member? "InstanceID").isSome then none else body.member? "Id"
  copied ++ (id.map (fun value => ("InstanceID", value))).toList

def statusResult (id : String) (reply : Envelope) : Envelope :=
  if reply.isSuccess then
    .synthesized reply.status (.ofEntries (("Status", .string "Success") :: jobEntries reply.body))
  else if reply.status = 404 then
    .synthesized reply.status (.ofEntries [("Status", .string "Found Fault"),
      ("Message", .string s!"Job {id} was not found.")])
  else errorResult reply

/-- The last segments of the links of a collection's members. -/
def memberIds (body : Json) : List Json :=
  ((body.itemsMember? "Members").getD []).filterMap
    (fun member => (member.textMember? "@odata.id").map (fun link => .string (Text.lastSegment link)))

def listingResult (reply : Envelope) : Envelope :=
  if reply.isSuccess then
    .synthesized reply.status (.ofEntries [("Status", .string "Success"), ("Jobs", .array (memberIds reply.body))])
  else errorResult reply

def infosKey : String := VendorError.infosKey

def deletionResult (reply : Envelope) : Envelope :=
  if reply.isSuccess then
    let info := (reply.body.itemsMember? infosKey).bind List.head?
    let message := (info.bind (·.textMember? "Message")).getD "The specified job was deleted"
    let messageId := (info.bind (·.member? "MessageId")).getD .null
    .synthesized reply.status (.ofEntries [("Status", .string "Success"), ("Message", .string message),
      ("MessageID", messageId), ("ReturnValue", .string "0")])
  else errorResult reply

/-- Send a request and reshape its reply. -/
def reshaped (spec : RequestSpec) (result : Envelope → Envelope) : Program (Except SessionError Envelope) :=
  .execute spec (fun reply => .done (reply.map result))

/-- The status of one job. A job that is not there is a `Found Fault`. -/
def status (id : String) : Program (Except SessionError Envelope) :=
  match checkedId id with
  | .error e => .done (.error e)
  | .ok id => reshaped (.get s!"{collectionPath}/{id}") (statusResult id)

/-- The ids of the jobs in the queue. -/
def pending : Program (Except SessionError Envelope) := reshaped (.get collectionPath) listingResult

def deletion (id : String) : Program (Except SessionError Envelope) :=
  reshaped ((RequestSpec.post deletionPath).withBody (.ofEntries [("JobID", .string id)])) deletionResult

def delete (id : String) : Program (Except SessionError Envelope) :=
  match checkedId id with
  | .error e => .done (.error e)
  | .ok id => deletion id

def deleteAll : Program (Except SessionError Envelope) := deletion everyJob

end OutOfBand.Jobs
