import OutOfBand.Proofs.Operation.Trouble

/-! # Decisions

The four operations that change something take the current state from one reading. What they do behind it
is the plan for what that reading shows: where it shows nothing they fail, and where it shows that nothing
is to be done they are done.
-/
namespace OutOfBand

open Http

namespace Operation

/-! ## Decisions -/

def changesState : Operation → Bool
  | deleteJob _ => true
  | clearQueue => true
  | power .. => true
  | inventory _ => true
  | _ => false

/-- The exchange from which the current state is taken. The power state is found behind the link to the system. -/
def stateReading? (op : Operation) (exchanges : List Exchange) : Option Exchange :=
  match op with
  | power .. => exchanges[1]?
  | _ => exchanges.head?

def desired : Operation → Object
  | deleteJob _ => presence false
  | clearQueue => queueLength 0
  | power reset _ => powerState reset.name
  | inventory state => [(inventoryAttribute, .string state.name)]
  | _ => []

/-- The state that the body of a reading shows. The status of a job shows its presence with any body. -/
def observed? (op : Operation) (body : Json) : Option Object :=
  match op with
  | deleteJob _ => some (presence true)
  | clearQueue => some (queueLength (Jobs.memberIds body).length)
  | power reset _ =>
    match resetTarget body with
    | .ok target => if (requireAllowed reset target).isOk then some (observedPower reset target.state) else none
    | .error _ => none
  | inventory _ => observedAttributes body
  | _ => none

/-- What is decided on the reply to the reading, if it shows the state. -/
def decision? (op : Operation) (check : Bool) : Except SessionError Envelope → Option Action
  | .error _ => none
  | .ok reply =>
    if reply.isSuccess then (Plan.make op.desired (op.observed? reply.body) check).toOption.map Plan.action else none

/-- How a run goes on behind its reading. -/
inductive Ensues (change : RequestSpec) (front : List Exchange) :
    Option Action → List Exchange → Except Failure Report → Prop
  | refused (f : Failure) : Ensues change front none front (.error f)
  | settled {report : Report} (h : report.verdict = .unchanged) : Ensues change front (some .noop) front (.ok report)
  | told : Ensues change front (some .wouldChange) front (.ok (.changed changesFound))
  | changed {reply : Except SessionError Envelope} {ending : Except Failure Report}
      (h : (Report.ofResult ending).Tells (isAnsweredWell reply)) :
      Ensues change front (some .apply) (front ++ [⟨change, reply⟩]) ending

variable {op : Operation} {check : Bool} {exchanges front : List Exchange} {ending : Except Failure Report}
  {change : RequestSpec}

theorem stateReading?_nil (op : Operation) : op.stateReading? [] = none := by
  cases op with
  | _ => rfl

theorem mem_of_stateReading? {reading : Exchange} (h : op.stateReading? exchanges = some reading) : reading ∈ exchanges := by
  cases op with
  | power reset resource => exact List.mem_of_getElem? h
  | _ => exact List.mem_of_head? h

theorem decision?_of_unanswered (op : Operation) {reply : Except SessionError Envelope} (h : isAnsweredWell reply = false) :
    op.decision? check reply = none := by
  cases reply with
  | error e => rfl
  | ok reply =>
    rw [decision?, show reply.isSuccess = false from h]
    rfl

theorem decision?_of_success (op : Operation) {reply : Envelope} (h : reply.isSuccess = true) :
    op.decision? check (.ok reply) = (Plan.make op.desired (op.observed? reply.body) check).toOption.map Plan.action := by
  rw [decision?, if_pos h]

theorem plannedAction {desired observed : Object} (check : Bool) :
    (Plan.make desired (some observed) check).toOption.map Plan.action =
      some (if deltaKeys desired observed = [] then .noop else if check then .wouldChange else .apply) := by
  rw [Plan.make]
  cases deltaKeys desired observed with
  | nil => rfl
  | cons key keys => cases check <;> rfl

theorem decision?_eq_some_iff {reply : Except SessionError Envelope} {action : Action} :
    op.decision? check reply = some action ↔ ∃ system observed, reply = .ok system ∧ system.isSuccess = true ∧
      op.observed? system.body = some observed ∧
      action = if deltaKeys op.desired observed = [] then .noop else if check then .wouldChange else .apply := by
  constructor
  · intro h
    cases reply with
    | error e => cases h
    | ok system =>
      cases hstatus : system.isSuccess with
      | false =>
        rw [decision?, hstatus] at h
        cases h
      | true =>
        rw [decision?_of_success op hstatus] at h
        cases hobserved : op.observed? system.body with
        | none =>
          rw [hobserved] at h
          cases h
        | some observed =>
          rw [hobserved, plannedAction] at h
          exact ⟨system, observed, rfl, hstatus, hobserved, (Option.some.inj h).symm⟩
  · rintro ⟨system, observed, rfl, hstatus, hobserved, rfl⟩
    rw [decision?_of_success op hstatus, hobserved, plannedAction]

theorem deltaKeys_singleton (key : String) (want given : Json) :
    deltaKeys [(key, want)] [(key, given)] = [] ↔ differs want (some given) = false := by
  cases hd : differs want (some given) with
  | true => simp [deltaKeys, Fields.get?, hd]
  | false => simp [deltaKeys, Fields.get?, hd]

/-! ## What ensues -/

theorem Ensues.of_none (h : Ensues change front none exchanges ending) : exchanges = front ∧ ∃ f, ending = .error f := by
  cases h with
  | refused f => exact ⟨rfl, f, rfl⟩

theorem Ensues.of_noop (h : Ensues change front (some .noop) exchanges ending) :
    exchanges = front ∧ ∃ report, ending = .ok report ∧ report.verdict = .unchanged := by
  cases h with
  | settled hverdict => exact ⟨rfl, _, rfl, hverdict⟩

theorem Ensues.of_wouldChange (h : Ensues change front (some .wouldChange) exchanges ending) :
    exchanges = front ∧ ending = .ok (.changed changesFound) := by
  cases h with
  | told => exact ⟨rfl, rfl⟩

theorem Ensues.of_apply (h : Ensues change front (some .apply) exchanges ending) :
    ∃ reply, exchanges = front ++ [⟨change, reply⟩] ∧ (Report.ofResult ending).Tells (isAnsweredWell reply) := by
  cases h with
  | changed htells => exact ⟨_, rfl, htells⟩

theorem Ensues.eq_append {action : Option Action} (h : Ensues change front action exchanges ending) :
    ∃ back, exchanges = front ++ back := by
  cases h with
  | refused f => exact ⟨[], (List.append_nil _).symm⟩
  | settled _ => exact ⟨[], (List.append_nil _).symm⟩
  | told => exact ⟨[], (List.append_nil _).symm⟩
  | changed _ => exact ⟨_, rfl⟩

end Operation

namespace Task

variable {α β : Type} {exchanges : List Exchange}

theorem hears_change {spec : RequestSpec} {k : Envelope → Task Report} {ending : Except Failure Report}
    (hk : ∀ reply, ∃ done, (k reply).program = .done done ∧ (Report.ofResult done).Tells reply.isSuccess)
    (h : Hears (send spec >>= k) exchanges ending) :
    ∃ reply, exchanges = [⟨spec, reply⟩] ∧ (Report.ofResult ending).Tells (isAnsweredWell reply) := by
  rcases hears_send_bind h with ⟨e, rfl, rfl⟩ | ⟨reply, rest, rfl, hrest⟩
  · exact ⟨.error e, rfl, Report.isFailure_ofFailure _⟩
  · obtain ⟨done, hdone, htells⟩ := hk reply
    rw [Hears, hdone] at hrest
    obtain ⟨rfl, rfl⟩ := Program.hears_done hrest
    exact ⟨.ok reply, rfl, htells⟩

/-- Behind its plan an operation does what the plan says. -/
theorem ensues_of_plan {desired : Object} {observed : Option Object} {check : Bool} {unreadable : String}
    {k : Plan → Task Report} {change : RequestSpec} {front rest : List Exchange} {ending : Except Failure Report}
    (hnoop : ∀ keys, ∃ report : Report, k ⟨.noop, keys⟩ = pure report ∧ report.verdict = .unchanged)
    (htold : ∀ keys, k ⟨.wouldChange, keys⟩ = pure (.changed Operation.changesFound))
    (hchange : ∀ keys exchanges ending, Plan.make desired observed check = .ok ⟨.apply, keys⟩ →
      Hears (k ⟨.apply, keys⟩) exchanges ending →
        ∃ reply, exchanges = [⟨change, reply⟩] ∧ (Report.ofResult ending).Tells (isAnsweredWell reply))
    (h : Hears (plan desired observed check unreadable >>= k) rest ending) :
    Operation.Ensues change front ((Plan.make desired observed check).toOption.map Plan.action) (front ++ rest) ending := by
  rcases hears_ofExcept_bind h with ⟨f, hf, rfl, rfl⟩ | ⟨plan, hplan, hrest⟩
  · obtain ⟨_, hmake, _⟩ := mapError_eq_error hf
    rw [hmake, List.append_nil]
    exact .refused f
  have hmake := eq_ok_of_mapError hplan
  rw [hmake]
  obtain ⟨action, keys⟩ := plan
  cases action with
  | noop =>
    obtain ⟨report, hk, hverdict⟩ := hnoop keys
    rw [hk] at hrest
    obtain ⟨rfl, rfl⟩ := hears_pure hrest
    rw [List.append_nil]
    exact .settled hverdict
  | wouldChange =>
    rw [htold keys] at hrest
    obtain ⟨rfl, rfl⟩ := hears_pure hrest
    rw [List.append_nil]
    exact .told
  | apply =>
    obtain ⟨reply, rfl, htells⟩ := hchange keys _ _ hmake hrest
    exact .changed htells

theorem hears_reading {spec : RequestSpec} {k : Envelope → Task Report} {ending : Except Failure Report}
    (hstops : ∀ reply, reply.isSuccess = false → Rejects (k reply)) (h : Hears (send spec >>= k) exchanges ending) :
    (∃ reply f, exchanges = [⟨spec, reply⟩] ∧ isAnsweredWell reply = false ∧ ending = .error f) ∨
      ∃ reply rest, exchanges = ⟨spec, .ok reply⟩ :: rest ∧ reply.isSuccess = true ∧ Hears (k reply) rest ending := by
  rcases hears_send_bind h with ⟨e, rfl, rfl⟩ | ⟨reply, rest, rfl, hrest⟩
  · exact Or.inl ⟨.error e, _, rfl, rfl, rfl⟩
  cases hstatus : reply.isSuccess with
  | true => exact Or.inr ⟨reply, rest, rfl, hstatus, hrest⟩
  | false =>
    obtain ⟨f, hprogram, _⟩ := hstops reply hstatus
    rw [Hears, hprogram] at hrest
    obtain ⟨rfl, rfl⟩ := Program.hears_done hrest
    exact Or.inl ⟨.ok reply, f, rfl, hstatus, rfl⟩

theorem hears_requireStatus_bind {key : String} {reply : Envelope} (hreply : reply.isSuccess = true) {k : Unit → Task β}
    {result : Except Failure β} (h : Hears (requireStatus key reply >>= k) exchanges result) : Hears (k ()) exchanges result := by
  rwa [requireStatus, require_of_success hreply] at h

end Task

end OutOfBand
