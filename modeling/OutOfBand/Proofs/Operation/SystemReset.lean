import OutOfBand.Proofs.Operation.Observation

/-! # The system that is reset

A reset acts on one machine among those that a service lists, so what it sends has to follow from what the service said.
The list of systems settles which one is meant, and the system's own body where and how it is reset. The reset is posted
exactly where both replies bear it out; where anything is missing or the reset does nothing, nothing is posted, and the
report does not claim a change, check mode's prediction apart. A reset is one attempt, unless the client does not take the
URL to which its target leads. What the client makes of a request on being redirected is its own affair, so a reading is
what came back in the end.
-/
namespace OutOfBand

open Http Session

namespace Operation

variable {reset : ResetType} {resource : Option String} {check : Bool} {link target state : String}
  {exchanges : List Exchange} {ending : Except Failure Report}

/-! ## What the replies bear out -/

/-- The link is the text that a member of the listing has under `@odata.id`. -/
def IsListed (listing : Json) (link : String) : Prop :=
  ∃ members, listing.member? "Members" = some (.array members) ∧
    ∃ member ∈ members, member.member? "@odata.id" = some (.string link)

/-- Of the systems in a listing the one that is meant: the one that the resource names, or the only one. -/
def IsMeant (resource : Option String) (listing : Json) (link : String) : Prop :=
  match resource with
  | some id => IsListed listing link ∧ link = s!"/redfish/v1/Systems/{id}"
  | none => memberLinks listing = [link]

theorem mem_memberLinks {listing : Json} : link ∈ memberLinks listing ↔ IsListed listing link := by
  rw [memberLinks, List.mem_filterMap]
  constructor
  · rintro ⟨member, hmember, hlink⟩
    cases hitems : listing.itemsMember? "Members" with
    | none =>
      rw [hitems] at hmember
      cases hmember
    | some items =>
      rw [hitems] at hmember
      exact ⟨items, Json.itemsMember?_eq_some_iff.mp hitems, member, hmember, Json.textMember?_eq_some_iff.mp hlink⟩
  · rintro ⟨members, hmembers, member, hmember, hlink⟩
    refine ⟨member, ?_, Json.textMember?_eq_some_iff.mpr hlink⟩
    rwa [Json.itemsMember?_eq_some_iff.mpr hmembers]

theorem chooseSystem_eq_ok_iff {listing : Json} :
    chooseSystem resource (memberLinks listing) = .ok link ↔ IsMeant resource listing link := by
  simp only [IsMeant, ← mem_memberLinks]
  generalize memberLinks listing = links
  cases resource with
  | none =>
    cases links with
    | nil => simp [chooseSystem]
    | cons first rest =>
      cases rest with
      | nil => simp [chooseSystem]
      | cons second rest => simp [chooseSystem]
  | some id =>
    cases links with
    | nil => simp [chooseSystem]
    | cons first rest =>
      have hwanted : s!"{Family.redfish.root}/Systems/{id}" = s!"/redfish/v1/Systems/{id}" := rfl
      simp only [chooseSystem, hwanted]
      split
      case isTrue h =>
        rw [List.contains_iff_mem] at h
        constructor
        · intro heq
          cases heq
          exact ⟨h, rfl⟩
        · rintro ⟨_, rfl⟩
          rfl
      case isFalse h =>
        rw [List.contains_iff_mem] at h
        constructor
        · intro heq
          cases heq
        · rintro ⟨hmem, rfl⟩
          exact absurd hmem h

/-- The power states from which a reset type does something. -/
def ActsFrom (reset : ResetType) (state : String) : Prop :=
  match reset with
  | .on | .forceOn => state = "Off" ∨ state = "PoweringOff"
  | .forceOff | .forceRestart | .gracefulRestart | .gracefulShutdown | .nmi | .powerCycle =>
    state = "On" ∨ state = "PoweringOn"
  | .pushPowerButton => True

theorem appliesTo_iff : reset.appliesTo state = true ↔ ActsFrom reset state := by
  cases reset with
  | pushPowerButton => exact iff_of_true rfl trivial
  | _ => simp [ResetType.appliesTo, ActsFrom]

/-- The reset types that an action names as allowed. What is no text names none. -/
def allowableTypes (action : Json) : List String := ((action.itemsMember? allowableKey).getD []).filterMap Json.text?

/-- A system that tells where it is reset and in which power state it is, and does not rule the reset type out. -/
def Offers (system : Json) (reset : ResetType) (target state : String) : Prop :=
  ∃ actions action, system.member? "Actions" = some actions ∧ actions.member? "#ComputerSystem.Reset" = some action ∧
    action.member? "target" = some (.string target) ∧ system.member? "PowerState" = some (.string state) ∧
    (allowableTypes action = [] ∨ reset.name ∈ allowableTypes action)

theorem resetTarget_eq_ok_iff {system : Json} {found : ResetTarget} :
    resetTarget system = .ok found ↔ ∃ actions action, system.member? "Actions" = some actions ∧
      actions.member? "#ComputerSystem.Reset" = some action ∧ action.member? "target" = some (.string found.uri) ∧
      system.member? "PowerState" = some (.string found.state) ∧ found.allowable = allowableTypes action := by
  simp only [← Json.textMember?_eq_some_iff]
  constructor
  · intro h
    unfold resetTarget at h
    split at h
    · cases h
    rename_i action haction
    obtain ⟨actions, hactions, haction⟩ := Option.bind_eq_some_iff.mp haction
    split at h
    · cases h
    rename_i uri huri
    split at h
    · cases h
    rename_i state hstate
    cases h
    exact ⟨actions, action, hactions, haction, huri, hstate, rfl⟩
  · rintro ⟨actions, action, hactions, haction, huri, hstate, hallowable⟩
    have hfound : (system.member? "Actions").bind (·.member? resetAction) = some action := by
      rw [hactions]
      exact haction
    simp only [resetTarget, hfound, huri, hstate]
    obtain ⟨state, uri, allowable⟩ := found
    obtain rfl : allowable = allowableTypes action := hallowable
    rfl

theorem isOk_requireAllowed {found : ResetTarget} :
    (requireAllowed reset found).isOk = true ↔ found.allowable = [] ∨ reset.name ∈ found.allowable := by
  unfold requireAllowed
  split
  case isTrue h => simpa [Except.isOk, Except.toBool] using h
  case isFalse h => simpa [Except.isOk, Except.toBool] using h

theorem offers_iff {system : Json} :
    Offers system reset target state ↔ ∃ found, resetTarget system = .ok found ∧
      (requireAllowed reset found).isOk = true ∧ found.uri = target ∧ found.state = state := by
  constructor
  · rintro ⟨actions, action, hactions, haction, htarget, hstate, hallowed⟩
    exact ⟨⟨state, target, allowableTypes action⟩,
      resetTarget_eq_ok_iff.mpr ⟨actions, action, hactions, haction, htarget, hstate, rfl⟩,
      isOk_requireAllowed.mpr hallowed, rfl, rfl⟩
  · rintro ⟨found, hfound, hallowed, rfl, rfl⟩
    obtain ⟨actions, action, hactions, haction, htarget, hstate, hsame⟩ := resetTarget_eq_ok_iff.mp hfound
    rw [isOk_requireAllowed, hsame] at hallowed
    exact ⟨actions, action, hactions, haction, htarget, hstate, hallowed⟩

/-- The two readings of a reset, and all that has to hold in them for the reset to be posted. -/
inductive ShowsDue (reset : ResetType) (resource : Option String) : List Exchange → String → Prop
  | intro {listing system : Envelope} {link target state : String} (listed : listing.isSuccess = true)
      (meant : IsMeant resource listing.body link) (read : system.isSuccess = true)
      (offers : Offers system.body reset target state) (applies : ActsFrom reset state)
      (differs : state ≠ reset.name) :
      ShowsDue reset resource [⟨.get "Systems", .ok listing⟩, ⟨.get link, .ok system⟩] target

theorem ShowsDue.eq_readings {readings : List Exchange} (h : ShowsDue reset resource readings target) :
    ∃ first second, readings = [first, second] ∧ (first.spec.method = "GET" ∧ first.isUnsent = false) ∧
      second.spec.method = "GET" ∧ second.isUnsent = false := by
  cases h with
  | intro => exact ⟨_, _, rfl, ⟨rfl, rfl⟩, rfl, rfl⟩

/-! ## Decisions -/

theorem deltaKeys_powerState (want given : String) :
    deltaKeys (powerState want) (powerState given) = [] ↔ want = given := by
  have hsame : (Json.string want == Json.string given) = (want == given) := rfl
  have hdiffers : differs (.string want) (some (.string given)) = !(want == given) := by
    simp only [differs, valuesMatch] at hsame ⊢
    rw [hsame, Bool.or_false]
  rw [powerState, powerState, deltaKeys_singleton, hdiffers, Bool.not_eq_false', beq_iff_eq]

theorem deltaKeys_observedPower :
    deltaKeys (powerState reset.name) (observedPower reset state) ≠ [] ↔
      reset.appliesTo state = true ∧ state ≠ reset.name := by
  rw [observedPower, Ne, deltaKeys_powerState]
  split
  case isTrue h => simp [h, eq_comm]
  case isFalse h => simp [h]

theorem observed?_power {system : Json} {observed : Object} :
    (power reset resource).observed? system = some observed ↔
      ∃ target state, Offers system reset target state ∧ observed = observedPower reset state := by
  constructor
  · intro h
    unfold observed? at h
    dsimp only at h
    split at h
    · rename_i found hfound
      split at h
      · rename_i hallowed
        cases h
        exact ⟨found.uri, found.state, offers_iff.mpr ⟨found, hfound, hallowed, rfl, rfl⟩, rfl⟩
      · cases h
    · cases h
  · rintro ⟨target, state, hoffers, rfl⟩
    obtain ⟨found, hfound, hallowed, rfl, rfl⟩ := offers_iff.mp hoffers
    simp only [observed?, hfound, hallowed, ↓reduceIte]

theorem check_of_wouldChange {op : Operation} {reply : Except SessionError Envelope}
    (h : op.decision? check reply = some .wouldChange) : check = true := by
  obtain ⟨_, _, _, _, _, haction⟩ := decision?_eq_some_iff.mp h
  split at haction
  · cases haction
  · split at haction
    · assumption
    · cases haction

/-- The system's reply settles the rest: the reset is asked for if the system offers it, and it does something. -/
theorem decision?_power_apply {reply : Except SessionError Envelope} :
    (power reset resource).decision? check reply = some .apply ↔ check = false ∧
      ∃ system target state, reply = .ok system ∧ system.isSuccess = true ∧ Offers system.body reset target state ∧
        reset.appliesTo state = true ∧ state ≠ reset.name := by
  rw [decision?_eq_some_iff]
  constructor
  · rintro ⟨system, observed, rfl, hstatus, hobserved, haction⟩
    obtain ⟨target, state, hoffers, rfl⟩ := observed?_power.mp hobserved
    split at haction
    · cases haction
    rename_i hkeys
    split at haction
    · cases haction
    rename_i hcheck
    obtain ⟨happlies, hdiffers⟩ := deltaKeys_observedPower.mp hkeys
    exact ⟨Bool.eq_false_iff.mpr hcheck, system, target, state, rfl, hstatus, hoffers, happlies, hdiffers⟩
  · rintro ⟨rfl, system, target, state, rfl, hstatus, hoffers, happlies, hdiffers⟩
    have hkeys : deltaKeys (power reset resource).desired (observedPower reset state) ≠ [] :=
      deltaKeys_observedPower.mpr ⟨happlies, hdiffers⟩
    refine ⟨system, _, rfl, hstatus, observed?_power.mpr ⟨target, state, hoffers, rfl⟩, ?_⟩
    rw [if_neg hkeys]
    rfl

/-- Where the meant system has been read, the reset is asked for exactly if the two readings show it to be due. -/
theorem decision?_apply_iff_showsDue {listing : Envelope} (hlisting : listing.isSuccess = true)
    (hmeant : IsMeant resource listing.body link) (reply : Except SessionError Envelope) :
    (power reset resource).decision? check reply = some .apply ↔
      check = false ∧ ∃ target, ShowsDue reset resource [⟨.get "Systems", .ok listing⟩, ⟨.get link, reply⟩] target := by
  rw [decision?_power_apply]
  refine and_congr_right fun _ => ⟨?_, ?_⟩
  · rintro ⟨system, target, state, rfl, hread, hoffers, happlies, hdiffers⟩
    exact ⟨target, .intro hlisting hmeant hread hoffers (appliesTo_iff.mp happlies) hdiffers⟩
  · rintro ⟨target, hdue⟩
    cases hdue with
    | @intro _ system _ _ state _ _ hread hoffers happlies hdiffers =>
      exact ⟨system, target, state, rfl, hread, hoffers, appliesTo_iff.mpr happlies, hdiffers⟩

theorem ShowsDue.change_eq {first : Exchange} {path : String} {reply : Except SessionError Envelope}
    {change : RequestSpec} (h : ShowsDue reset resource [first, ⟨.get path, reply⟩] target)
    (hchange : ∀ system found, reply = .ok system → system.isSuccess = true → resetTarget system.body = .ok found →
      change = resetRequest reset found.uri) : change = resetRequest reset target := by
  cases h with
  | @intro _ system _ _ state _ _ hread hoffers _ _ =>
    obtain ⟨found, hfound, _, rfl, _⟩ := offers_iff.mp hoffers
    exact hchange system found rfl hread hfound

/-! ## Runs of the task -/

theorem Ensues.of_ne_apply {change : RequestSpec} {front : List Exchange} {action : Option Action}
    (h : Ensues change front action exchanges ending) (hne : action ≠ some .apply) :
    exchanges = front ∧ ((Report.ofResult ending).isFailed = true ∨ (Report.ofResult ending).verdict = .unchanged ∨
      action = some .wouldChange ∧ (Report.ofResult ending).isChanged = true) := by
  cases h with
  | refused f => exact ⟨rfl, Or.inl (Report.isFailed_ofFailure f)⟩
  | settled hverdict => exact ⟨rfl, Or.inr (Or.inl hverdict)⟩
  | told => exact ⟨rfl, Or.inr (Or.inr ⟨rfl, rfl⟩)⟩
  | changed _ => exact absurd rfl hne

/-- What a reset asks of a service: the systems first, then the one that is meant, and the reset itself exactly where the
two replies bear it out. Where it asks for nothing it tells of no change, but for what check mode foretells. -/
structure ResetsWhatIsDue (reset : ResetType) (resource : Option String) (check : Bool) (exchanges : List Exchange)
    (report : Report) : Prop where
  listed : ∃ reply rest, exchanges = ⟨.get "Systems", reply⟩ :: rest
  chosen : ∀ listing link, exchanges.head? = some ⟨.get "Systems", .ok listing⟩ → listing.isSuccess = true →
    IsMeant resource listing.body link → ∃ reply, exchanges[1]? = some ⟨.get link, reply⟩
  due : check = false → ∀ target, ShowsDue reset resource (exchanges.take 2) target →
    ∃ reply, exchanges = exchanges.take 2 ++ [⟨resetRequest reset target, reply⟩] ∧ report.Tells (isAnsweredWell reply)
  otherwise : check = true ∨ (∀ target, ¬ ShowsDue reset resource (exchanges.take 2) target) →
    (∀ e ∈ exchanges, e.spec.method = "GET") ∧
      (report.isFailed = true ∨ report.verdict = .unchanged ∨ check = true ∧ report.isChanged = true)

theorem GoesOnFrom.resetsWhatIsDue {systems : Except SessionError Envelope}
    (h : GoesOnFrom reset resource check systems exchanges ending) :
    ResetsWhatIsDue reset resource check exchanges (Report.ofResult ending) := by
  rcases h with ⟨rfl, ⟨f, rfl⟩, hnone⟩ | ⟨listing, link, reply, change, rfl, hlisting, hlink, _, hchange, hensues⟩
  · -- Without a second reading nothing can be due.
    have hshort : ∀ target, ¬ ShowsDue reset resource [⟨.get "Systems", systems⟩] target := by
      intro target hdue
      cases hdue
    refine ⟨⟨systems, [], rfl⟩, fun listing link hhead hlisting hmeant => ?_, fun _ target hdue => ?_,
      fun _ => ⟨?_, ?_⟩⟩
    · cases hhead
      exact absurd (chooseSystem_eq_ok_iff.mpr hmeant) (hnone listing link rfl hlisting)
    · exact absurd hdue (hshort target)
    · exact method_of_reading
    · exact Or.inl (Report.isFailed_ofFailure f)
  have hmeant := chooseSystem_eq_ok_iff.mp hlink
  have hdecision : (power reset resource).decision? check reply = some .apply ↔ check = false ∧
      ∃ target, ShowsDue reset resource [⟨.get "Systems", .ok listing⟩, ⟨.get link, reply⟩] target :=
    decision?_apply_iff_showsDue hlisting hmeant reply
  obtain ⟨back, hback⟩ := hensues.eq_append
  have htake : exchanges.take 2 = [⟨.get "Systems", .ok listing⟩, ⟨.get link, reply⟩] := by
    rw [hback]
    rfl
  refine ⟨⟨.ok listing, _, hback⟩, fun other otherLink hhead _ hother => ?_, fun hcheck target hdue => ?_,
    fun hnot => ?_⟩
  · rw [hback] at hhead
    cases hhead
    have hsame := chooseSystem_eq_ok_iff.mpr hother
    rw [hlink] at hsame
    cases hsame
    exact ⟨reply, by rw [hback]; rfl⟩
  · rw [htake] at hdue
    rw [hdecision.mpr ⟨hcheck, target, hdue⟩] at hensues
    obtain ⟨answer, hexchanges, htells⟩ := hensues.of_apply
    rw [hdue.change_eq hchange] at hexchanges
    exact ⟨answer, by rw [htake]; exact hexchanges, htells⟩
  · rw [htake] at hnot
    -- The decision falls on the second reply, so asking for the reset would mean that it is due.
    have hne : (power reset resource).decision? check reply ≠ some .apply := by
      intro happly
      obtain ⟨hcheck, target, hdue⟩ := hdecision.mp happly
      rcases hnot with hdry | hnone
      · rw [hcheck] at hdry
        cases hdry
      · exact hnone target hdue
    obtain ⟨hexchanges, htold⟩ := hensues.of_ne_apply hne
    refine ⟨by rw [hexchanges]; exact method_of_readings, ?_⟩
    rcases htold with hfailed | hunchanged | ⟨hwould, hchanged⟩
    · exact Or.inl hfailed
    · exact Or.inr (Or.inl hunchanged)
    · exact Or.inr (Or.inr ⟨check_of_wouldChange hwould, hchanged⟩)

/-! ## Runs -/

/-- The attempt asks for the reset where the target leads from the base. -/
structure IsResetAt (base : Url) (reset : ResetType) (target : String) (a : Attempt) : Prop where
  method : a.request.method = "POST"
  body : a.request.body = some (.object [("ResetType", .string reset.name)])
  url : ∃ url, (RequestSpec.post target).resolve base Family.redfish.root = .ok url ∧ a.request.url = url.withoutUserInfo

theorem isResetAt_of_sent {base : Url} {reply : Except SessionError Envelope} {a : Attempt}
    (hsent : Exchange.IsSentAs ⟨resetRequest reset target, reply⟩ a)
    (haddressed : Exchange.IsAddressedAs base Family.redfish.root ⟨resetRequest reset target, reply⟩ a) :
    IsResetAt base reset target a := ⟨hsent.method, hsent.body, haddressed⟩

/-- What a run sends that resets a system, each exchange of it as one attempt. -/
structure ResetsSystem (config : SessionConfig) (client : Client) (base : Url) (reset : ResetType) (resource : Option String)
    (check : Bool) (exchanges : List Exchange) (sent : List Attempt) (report : Report) : Prop
    extends ResetsWhatIsDue reset resource check exchanges report where
  carried : AreCarried (fun e a => e.IsSentAs a ∧ e.IsAddressedAs base Family.redfish.root a) exchanges sent
  /-- Whatever is posted is the reset that the two replies bear out. -/
  posted : ∀ a ∈ sent, a.request.method = "POST" →
    check = false ∧ ∃ target, ShowsDue reset resource (exchanges.take 2) target ∧ IsResetAt base reset target a
  /-- And what they bear out is posted, behind nothing but the two readings. -/
  resets : check = false → ∀ target, ShowsDue reset resource (exchanges.take 2) target →
    ∃ first second, first.request.method = "GET" ∧ second.request.method = "GET" ∧
      ((¬ RefusesUrl config client (resetRequest reset target) ∧ ∃ a, sent = [first, second, a] ∧ IsResetAt base reset target a) ∨
        (RefusesUrl config client (resetRequest reset target) ∧ sent = [first, second] ∧ report.verdict.IsFailure))

/-- A reset that is due is posted behind the two readings, or its URL is one that the client does not take. -/
theorem ResetsWhatIsDue.sent_of_due {config : SessionConfig} {client : Client} {report : Report}
    (h : ResetsWhatIsDue reset resource check exchanges report) {base : Url} {sent : List Attempt}
    (hsent : AreCarried (fun e a => e.IsSentAs a ∧ e.IsAddressedAs base Family.redfish.root a) exchanges sent)
    (hunsent : ∀ e ∈ exchanges, e.isUnsent = true ↔ RefusesUrl config client e.spec) (hcheck : check = false)
    (hdue : ShowsDue reset resource (exchanges.take 2) target) :
    ∃ first second, first.request.method = "GET" ∧ second.request.method = "GET" ∧
      ((¬ RefusesUrl config client (resetRequest reset target) ∧ ∃ a, sent = [first, second, a] ∧ IsResetAt base reset target a) ∨
        (RefusesUrl config client (resetRequest reset target) ∧ sent = [first, second] ∧ report.verdict.IsFailure)) := by
  obtain ⟨reply, hexchanges, htells⟩ := h.due hcheck target hdue
  obtain ⟨reading, reading', htake, ⟨hmethod, hread⟩, hmethod', hread'⟩ := hdue.eq_readings
  rw [htake] at hexchanges
  have hlast := hunsent ⟨resetRequest reset target, reply⟩ (by rw [hexchanges]; simp)
  rw [hexchanges] at hsent
  obtain ⟨first, _, rfl, hfirst, hsent⟩ := hsent.of_cons_sent hread
  obtain ⟨second, _, rfl, hsecond, hsent⟩ := hsent.of_cons_sent hread'
  refine ⟨first, second, hfirst.1.method.trans hmethod, hsecond.1.method.trans hmethod', ?_⟩
  cases hposted : Exchange.isUnsent ⟨resetRequest reset target, reply⟩ with
  | false =>
    obtain ⟨a, _, rfl, ha, hsent⟩ := hsent.of_cons_sent hposted
    obtain rfl := hsent.eq_nil
    rw [hposted] at hlast
    exact Or.inl ⟨fun hrefused => Bool.false_ne_true (hlast.mpr hrefused), a, rfl, isResetAt_of_sent ha.1 ha.2⟩
  | true =>
    obtain rfl := (hsent.of_cons_unsent hposted).eq_nil
    have hlost : reply = .error .unsendable := isUnsent_iff.mp hposted
    rw [hlost] at htells
    exact Or.inr ⟨hlast.mp hposted, rfl, htells⟩

theorem ResetsWhatIsDue.resetsSystem {config : SessionConfig} {client : Client} {report : Report}
    (h : ResetsWhatIsDue reset resource check exchanges report) {base : Url} {sent : List Attempt}
    (hsent : AreCarried (fun e a => e.IsSentAs a ∧ e.IsAddressedAs base Family.redfish.root a) exchanges sent)
    (hunsent : ∀ e ∈ exchanges, e.isUnsent = true ↔ RefusesUrl config client e.spec) :
    ResetsSystem config client base reset resource check exchanges sent report := by
  refine ⟨h, hsent, fun a ha hpost => ?_, fun hcheck target hdue => h.sent_of_due hsent hunsent hcheck hdue⟩
  -- Were nothing due, every exchange would be a reading.
  by_cases hnot : check = true ∨ ∀ target, ¬ ShowsDue reset resource (exchanges.take 2) target
  · obtain ⟨e, he, _, hcarried, _⟩ := hsent.exists_of_mem_sent ha
    rw [hcarried.method, (h.otherwise hnot).1 e he] at hpost
    exact absurd hpost (by decide)
  obtain ⟨hcheck, hsome⟩ := not_or.mp hnot
  obtain ⟨target, hshows⟩ := not_forall_not.mp hsome
  have hcheck : check = false := Bool.eq_false_iff.mpr hcheck
  obtain ⟨first, second, hfirst, hsecond, hreset⟩ := h.sent_of_due hsent hunsent hcheck hshows
  have hreading : a ≠ first ∧ a ≠ second := by
    constructor
    · rintro rfl
      rw [hfirst] at hpost
      exact absurd hpost (by decide)
    · rintro rfl
      rw [hsecond] at hpost
      exact absurd hpost (by decide)
  rcases hreset with ⟨_, last, rfl, hreset⟩ | ⟨_, rfl, _⟩
  · have hlast : a = last := by simpa [hreading] using ha
    rw [hlast]
    exact ⟨hcheck, target, hshows, hreset⟩
  · simp [hreading] at ha

/-- A run resets the system that is meant and no other. It posts a reset of the type asked for, to the target that the
meant system names in its own body, if both replies are successes, the system does not rule the type out, the type does
something from the power state that is reported, check mode is off, and the client takes the URL. In every other case
nothing is posted, and the run fails, leaves everything as it is or, in check mode, foretells a change. -/
theorem run_resets_system (reset : ResetType) (resource : Option String) (check : Bool) (files : FileTree)
    {config : SessionConfig} (hfamily : config.family = .redfish) (wire : Wire) :
    ∃ opening sent closing : List Attempt,
      ((power reset resource).run check files config wire).2.attempts = wire.attempts ++ opening ++ sent ++ closing ∧
      opening.length ≤ 1 ∧ (∀ a ∈ opening, IsLogin config a.request) ∧
      closing.length ≤ 1 ∧ (∀ a ∈ closing, ∃ id, IsDeletion config id a.request) ∧
      match (Session.open files config wire).1 with
      | .error _ => sent = [] ∧ ((power reset resource).run check files config wire).1.isFailed = true
      | .ok s => config.endpoint.baseUrl = .ok s.base ∧ ResetsSystem config wire.client s.base reset resource check
          ((power reset resource).transcript check files config wire) sent
          ((power reset resource).run check files config wire).1 := by
  obtain ⟨opening, sent, closing, h⟩ := (power reset resource).run_attempts check files config wire
  refine ⟨opening, sent, closing, h.attempts, h.opening_length, h.opening_login, h.closing_length, h.closing_deletion, ?_⟩
  have hopened := h.opened
  rw [run_report]
  cases ho : (Session.open files config wire).1 with
  | error e =>
    rw [ho] at hopened
    obtain ⟨hnone, hresult⟩ := hopened
    rw [hresult]
    exact ⟨hnone, Report.isFailed_ofFailure _⟩
  | ok s =>
    rw [ho] at hopened
    obtain ⟨hbase, hhears⟩ := hopened
    obtain ⟨systems, hgoes⟩ := powerTask_hears hhears
    have hid : HasSendableIdentifier config := hasSendableIdentifier_of_ne (by rw [hfamily]; decide)
    refine ⟨hbase, hgoes.resetsWhatIsDue.resetsSystem (h.carried.imp (fun e a hcarried => ?_))
      (fun e he => h.isUnsent_iff_refusesUrl hid he)⟩
    rw [← hfamily]
    exact ⟨hcarried.1, hcarried.2.isAddressedAs hbase⟩

/-- Two systems of which the second is meant, and values that are no texts on the way. -/
theorem run_resets_system_second :
    let config : SessionConfig := ⟨⟨"127.0.0.1", 443, .http, .system, 30000⟩, .token "t", .redfish, none⟩
    let listing := "\x7b\"Members\": [\x7b\"@odata.id\": 7\x7d, \x7b\"@odata.id\": \"/redfish/v1/Systems/b\"\x7d, " ++
      "\x7b\"@odata.id\": \"c\"\x7d]\x7d"
    let system := "\x7b\"PowerState\": \"On\", \"Actions\": \x7b\"#ComputerSystem.Reset\": \x7b\"target\": \"r\", " ++
      "\"ResetType@Redfish.AllowableValues\": [5, \"Nmi\"]\x7d\x7d\x7d"
    let wire : Wire := ⟨⟨.ipv4 0x7F000001, 443, true, none, [.answer 200 [] (Text.encodeUtf8 listing),
      .answer 200 [] (Text.encodeUtf8 system), .answer 204 [] []]⟩, []⟩
    let op := power .nmi (some "b")
    config.family = .redfish ∧
      (op.run false FileTree.empty config wire).2.attempts.map (fun a => (a.request.method, a.request.url.target)) =
        [("GET", "/redfish/v1/Systems"), ("GET", "/redfish/v1/Systems/b"), ("POST", "/redfish/v1/r")] ∧
      ∃ base sent, ResetsSystem config wire.client base .nmi (some "b") false (op.transcript false FileTree.empty config wire) sent
        (op.run false FileTree.empty config wire).1 := by
  intro config listing system wire op
  have hfamily : config.family = .redfish := rfl
  have hopens : (Session.open FileTree.empty config wire).1.toOption.isSome = true := by decide +kernel
  refine ⟨hfamily, by decide +kernel, ?_⟩
  have hrun := run_resets_system .nmi (some "b") false FileTree.empty hfamily wire
  rcases ho : Session.open FileTree.empty config wire with ⟨shown, opened⟩
  rw [ho] at hrun hopens
  cases shown with
  | error e => cases hopens
  | ok s =>
    obtain ⟨_, sent, _, _, _, _, _, _, _, hresets⟩ := hrun
    exact ⟨s.base, sent, hresets⟩

/-- A reset that is redirected is posted once more, where no resource that was read names a target; and a reading that is
redirected shows what another system names. -/
theorem run_resets_redirected :
    let config : SessionConfig := ⟨⟨"127.0.0.1", 443, .http, .system, 30000⟩, .token "t", .redfish, none⟩
    let listing := Text.encodeUtf8 "\x7b\"Members\": [\x7b\"@odata.id\": \"/redfish/v1/Systems/a\"\x7d]\x7d"
    let system := Text.encodeUtf8 ("\x7b\"PowerState\": \"On\", \"Actions\": \x7b\"#ComputerSystem.Reset\": " ++
      "\x7b\"target\": \"/redfish/v1/Systems/b/reset\"\x7d\x7d\x7d")
    let requested (replies : List Reply) := ((power .nmi none).run false FileTree.empty config
      ⟨⟨.ipv4 0x7F000001, 443, true, none, replies⟩, []⟩).2.requests.map (fun request => (request.method, request.url.target))
    requested [.answer 200 [] listing, .answer 200 [] system, .answer 307 [("location", "/elsewhere")] [], .answer 204 [] []] =
        [("GET", "/redfish/v1/Systems"), ("GET", "/redfish/v1/Systems/a"), ("POST", "/redfish/v1/Systems/b/reset"),
          ("POST", "/elsewhere")] ∧
      requested [.answer 200 [] listing, .answer 302 [("location", "/redfish/v1/Systems/b")] [], .answer 200 [] system,
          .answer 204 [] []] =
        [("GET", "/redfish/v1/Systems"), ("GET", "/redfish/v1/Systems/a"), ("GET", "/redfish/v1/Systems/b"),
          ("POST", "/redfish/v1/Systems/b/reset")] := by
  decide +kernel

end Operation

end OutOfBand
