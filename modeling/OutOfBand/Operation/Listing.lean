import OutOfBand.Operation.Basic

/-! # Job listings

The jobs of a management console: one of them, a page of them, or all. The whole list comes in pages,
each with a link to the next; a link is followed once only, so a cycle of links ends the list.
-/
namespace OutOfBand

/-- Paging and filtering, handed to the console as they are. -/
structure ListingOptions where
  top : Option Nat
  skip : Option Nat
  filter : Option String
deriving DecidableEq, Repr

namespace ListingOptions

def isEmpty (o : ListingOptions) : Bool := o.top.isNone && o.skip.isNone && o.filter.isNone

def parameters (o : ListingOptions) : List (String × String) :=
  (o.top.map (fun n => ("$top", toString n))).toList ++ (o.skip.map (fun n => ("$skip", toString n))).toList ++
    (o.filter.map (fun s => ("$filter", s))).toList

def apply (o : ListingOptions) (spec : Http.RequestSpec) : Http.RequestSpec :=
  o.parameters.foldl (fun spec entry => spec.withQuery entry.1 entry.2) spec

end ListingOptions

namespace Operation

def jobsPath : String := "JobService/Jobs"

def notFetched : String := "Failed to fetch the job info"

/-- The body of a reply that has to have a successful status. -/
def fetch (spec : Http.RequestSpec) : Task Json := do
  let reply ← Task.send spec
  Task.requireStatus "job_info" reply
  return reply.body

/-- A job without annotations. -/
def stripJob : Json → Json
  | .object members => .object (Http.stripAnnotations members)
  | item => item

def pageJobs (page : Json) : List Json := ((page.itemsMember? "value").getD []).map stripJob

def nextLink? (page : Json) : Option String := page.textMember? "@odata.nextLink"

/-- Collect the jobs of a page and of the pages that it leads to. At most `budget` links are followed;
the caller gives as many as the device can answer. -/
def collect (jobs : List Json) (seen : List String) (page : Json) : Nat → Task (List Json)
  | 0 => return jobs ++ pageJobs page
  | budget + 1 =>
    let jobs := jobs ++ pageJobs page
    match nextLink? page with
    | none => return jobs
    | some link =>
      if seen.contains link then return jobs
      else do
        let next ← fetch (.get link)
        collect jobs (link :: seen) next budget

/-- All jobs as one collection. -/
def wholeListing (budget : Nat) : Task Json := do
  let first ← fetch (.get jobsPath)
  let jobs ← collect [] [] first budget
  if jobs.isEmpty then Task.failRemote notFetched
  else
    return .ofEntries [("@odata.context", (first.member? "@odata.context").getD .null),
      ("@odata.count", .ofNat jobs.length), ("value", .array jobs)]

def listingTask (id : Option Nat) (options : Option ListingOptions) (budget : Nat) : Task Report := do
  let info ← match id, options.filter (!·.isEmpty) with
    | some id, _ => fetch (.get s!"{jobsPath}({id})")
    | none, some options => fetch (options.apply (.get jobsPath))
    | none, none => wholeListing budget
  return (Report.ok "Successfully fetched the job info").withPayload "job_info" info

end Operation

end OutOfBand
