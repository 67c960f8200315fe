import OutOfBand.Failure
import OutOfBand.Json.Writer

/-! # Plans

A desired state names only what it wants: keys that it does not name, and keys whose value is null,
are left alone. Compared with the observed state it gives the keys that differ, and from these follows
what is to be done.
-/
namespace OutOfBand

/-- Whether two values are the same to a device. Devices report numbers as texts and back again, so a
text matches the number that it spells. -/
def valuesMatch (want given : Json) : Bool :=
  want == given ||
    match want, given with
    | .string s, .number n => Text.trim s == n.render
    | .number n, .string s => Text.trim s == n.render
    | _, _ => false

mutual

/-- Whether the observed value, if any, is not as desired. -/
def differs : Json → Option Json → Bool
  | .null, _ => false
  | _, none => true
  | .object want, some (.object given) => someDiffers want given
  | want, some given => !valuesMatch want given

def someDiffers : List (String × Json) → Object → Bool
  | [], _ => false
  | (key, want) :: rest, given => differs want (given.get? key) || someDiffers rest given

end

/-- The top-level keys whose values differ. -/
def deltaKeys (desired observed : Object) : List String :=
  (List.filter (fun entry => differs entry.2 (observed.get? entry.1)) desired).map Prod.fst

inductive Action where
  /-- The desired state holds already. -/
  | noop
  /-- A change is due, and nothing may be changed. -/
  | wouldChange
  /-- A change is due. -/
  | apply
deriving DecidableEq, Repr

structure Plan where
  action : Action
  deltaKeys : List String
deriving DecidableEq, Repr

namespace Plan

/-- The part of the desired state that is to be sent. -/
def deltaPayload (plan : Plan) (desired : Object) : Object :=
  List.filter (fun entry => plan.deltaKeys.contains entry.1) desired

/-- Plan for a desired state. Where nothing could be observed there is no plan. -/
def make (desired : Object) (observed : Option Object) (dryRun : Bool) : Except Failure Plan :=
  match observed with
  | none => .error (.indeterminate "the current state could not be retrieved")
  | some observed =>
    match OutOfBand.deltaKeys desired observed with
    | [] => .ok ⟨.noop, []⟩
    | keys => .ok ⟨if dryRun then .wouldChange else .apply, keys⟩

/-- The state after a plan has been carried out: an applied delta replaces its top-level keys. -/
def carryOut (plan : Plan) (desired observed : Object) : Object :=
  match plan.action with
  | .apply =>
    List.foldl (fun state entry => Fields.insert entry.1 entry.2 state) observed (plan.deltaPayload desired)
  | _ => observed

end Plan

end OutOfBand
