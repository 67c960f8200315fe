import OutOfBand.Operation
import OutOfBand.Proofs.Json.Admission

/-! # Operations that are stated

When some arguments state the options of an operation. Other options may stand beside them, and what need not be given
may be null. Arguments that state an operation are read as one that does the same.
-/
namespace OutOfBand

variable {α : Type} {arguments seen : Object} {name : String}

/-- The value under a name is read as this one. -/
def Says (arguments : Object) (name : String) (reader : Json → Decoded α) (a : α) : Prop :=
  ∃ value, Fields.get? arguments name = some value ∧ reader value = .ok a

/-- The value under a name is read as this one, where null and no value at all stand for none. -/
def SaysOrLacks (arguments : Object) (name : String) (reader : Json → Decoded α) (a : Option α) : Prop :=
  match Fields.get? arguments name with
  | some value => Json.optional reader value = .ok a
  | none => a = none

theorem Says.read {reader : Json → Decoded α} {a : α} (h : Says arguments name reader a) {value : Json}
    (hget : Fields.get? arguments name = some value) : reader value = .ok a := by
  obtain ⟨given, hgiven, hread⟩ := h
  rw [hget] at hgiven
  cases hgiven
  exact hread

theorem Says.needed {reader : Json → Decoded α} {a : α} (h : Says arguments name reader a)
    (hseen : Fields.get? seen name = Fields.get? arguments name) : OperationKind.needed seen name reader = .ok a := by
  obtain ⟨value, hget, hread⟩ := h
  simp only [OperationKind.needed, hseen, hget, hread]

theorem SaysOrLacks.read {reader : Json → Decoded α} {a : Option α} (h : SaysOrLacks arguments name reader a)
    {value : Json} (hget : Fields.get? arguments name = some value) : Json.optional reader value = .ok a := by
  unfold SaysOrLacks at h
  rw [hget] at h
  exact h

theorem SaysOrLacks.fieldOr {reader : Json → Decoded α} {a : Option α} (h : SaysOrLacks arguments name reader a)
    (hseen : Fields.get? seen name = Fields.get? arguments name) :
    fieldOr seen name (Json.optional reader) none = .ok a := by
  unfold SaysOrLacks at h
  unfold OutOfBand.fieldOr
  rw [hseen]
  cases hget : Fields.get? arguments name with
  | some value =>
    rw [hget] at h
    exact h
  | none =>
    rw [hget] at h
    rw [show a = none from h]

theorem FieldRule.check_of {reader : Json → Decoded α} {a : α} {value : Json} (h : reader value = .ok a) (field : String)
    (aliases : List String) (presence : Presence) : (FieldRule.of field aliases presence reader).check value = .ok () := by
  have hcheck : (FieldRule.of field aliases presence reader).check value = (reader value).map (fun _ => ()) := rfl
  rw [hcheck, h]
  rfl

theorem Says.isGiven {reader : Json → Decoded α} {a : α} (h : Says arguments name reader a) (aliases : List String) :
    (FieldRule.of name aliases .required reader).IsGivenIn arguments := by
  refine ⟨fun value hget => FieldRule.check_of (h.read hget) _ _ _, fun _ => ?_⟩
  obtain ⟨value, hget, _⟩ := h
  exact ⟨value, hget⟩

theorem SaysOrLacks.isGiven {reader : Json → Decoded α} {a : Option α} (h : SaysOrLacks arguments name reader a) :
    (FieldRule.of name [] .optional (Json.optional reader)).IsGivenIn arguments := by
  refine ⟨fun value hget => FieldRule.check_of (h.read hget) _ _ _, fun hrequired => ?_⟩
  cases hrequired

namespace Operation

/-- The arguments state the options of an operation. The state of the inventory has two names, and only one of them may
be used. Paging and filtering that name nothing are the same as none. -/
def IsStatedIn (arguments : Object) : Operation → Prop
  | .deleteJob jobId => Says arguments "job_id" Json.text jobId
  | .clearQueue => True
  | .jobStatus jobId => Says arguments "job_id" Json.text jobId
  | .power reset resource => Says arguments "reset_type" ResetType.decode reset ∧
      SaysOrLacks arguments "resource_id" Json.text resource
  | .inventory state => (Says arguments "state" InventoryState.decode state ∧ Fields.get? arguments "csior" = none) ∨
      (Says arguments "csior" InventoryState.decode state ∧ Fields.get? arguments "state" = none)
  | .listing jobId options => SaysOrLacks arguments "job_id" (Json.unsigned 64) jobId ∧
      ∃ stated, SaysOrLacks arguments "system_query_options" ListingOptions.decode stated ∧
        stated.filter (!·.isEmpty) = options.filter (!·.isEmpty)
  | .consoles address => SaysOrLacks arguments "vcenter_hostname" Json.text address

/-- Two operations of one kind that come to the same task. -/
structure DoesSameAs (op op' : Operation) : Prop where
  kind : op.kind = op'.kind
  task : ∀ check budget, op.task check budget = op'.task check budget

theorem DoesSameAs.refl (op : Operation) : DoesSameAs op op := ⟨rfl, fun _ _ => rfl⟩

theorem DoesSameAs.run {op op' : Operation} (h : DoesSameAs op op') (check : Bool) (files : FileTree)
    (config : SessionConfig) (wire : Wire) : op.run check files config wire = op'.run check files config wire := by
  unfold Operation.run
  rw [h.task]

theorem listing_doesSameAs (jobId : Option Nat) {options options' : Option ListingOptions}
    (h : options.filter (!·.isEmpty) = options'.filter (!·.isEmpty)) :
    DoesSameAs (.listing jobId options) (.listing jobId options') := by
  refine ⟨rfl, fun check budget => ?_⟩
  simp only [task, listingTask, h]

end Operation

/-! ## Reading what is stated -/

namespace Operation

open OperationKind

theorem decode_jobId (hsorted : Fields.Sorted arguments) {jobId : String} (h : Says arguments "job_id" Json.text jobId)
    (record : String) : ∃ seen, RecordShape.decode ⟨record, [.of "job_id" [] .required Json.text]⟩ (.object arguments) = .ok seen ∧
      needed seen "job_id" Json.text = .ok jobId := by
  have hone : RecordShape.HasOneNameEach ⟨record, [.of "job_id" [] .required Json.text]⟩ :=
    List.forall_mem_singleton.mpr rfl
  obtain ⟨seen, hseen, hsame⟩ := hone.decode_ok hsorted (List.forall_mem_singleton.mpr (h.isGiven []))
  exact ⟨seen, hseen, h.needed (hsame _ (List.mem_singleton_self _))⟩

theorem decode_deleteJob_of_says (hsorted : Fields.Sorted arguments) {jobId : String}
    (h : Says arguments "job_id" Json.text jobId) :
    OperationKind.deleteJob.decode (.object arguments) = .ok (.deleteJob jobId) := by
  obtain ⟨seen, hseen, hid⟩ := decode_jobId hsorted h "LcJobDelete"
  simp only [decode, shape, hseen, bind, Except.bind, hid]
  rfl

theorem decode_jobStatus_of_says (hsorted : Fields.Sorted arguments) {jobId : String}
    (h : Says arguments "job_id" Json.text jobId) :
    OperationKind.jobStatus.decode (.object arguments) = .ok (.jobStatus jobId) := by
  obtain ⟨seen, hseen, hid⟩ := decode_jobId hsorted h "LcJobStatus"
  simp only [decode, shape, hseen, bind, Except.bind, hid]
  rfl

theorem decode_clearQueue_of_sorted (hsorted : Fields.Sorted arguments) :
    OperationKind.clearQueue.decode (.object arguments) = .ok .clearQueue := by
  have hone : OperationKind.clearQueue.shape.HasOneNameEach := by decide
  obtain ⟨seen, hseen, _⟩ := hone.decode_ok hsorted (fun rule hrule => absurd hrule List.not_mem_nil)
  simp only [decode, hseen, bind, Except.bind]

theorem decode_power_of_says (hsorted : Fields.Sorted arguments) {reset : ResetType} {resource : Option String}
    (hreset : Says arguments "reset_type" ResetType.decode reset)
    (hresource : SaysOrLacks arguments "resource_id" Json.text resource) :
    OperationKind.power.decode (.object arguments) = .ok (.power reset resource) := by
  have hone : OperationKind.power.shape.HasOneNameEach := by decide
  have hgiven : ∀ rule ∈ OperationKind.power.shape.fields, rule.IsGivenIn arguments :=
    List.forall_mem_cons.mpr ⟨hreset.isGiven [], List.forall_mem_singleton.mpr hresource.isGiven⟩
  obtain ⟨seen, hseen, hsame⟩ := hone.decode_ok hsorted hgiven
  have hreset' := hreset.needed (hsame _ List.mem_cons_self)
  have hresource' := hresource.fieldOr (hsame _ (List.mem_cons_of_mem _ List.mem_cons_self))
  simp only [decode, hseen, bind, Except.bind, hreset', hresource']

theorem decode_listing_of_says (hsorted : Fields.Sorted arguments) {jobId : Option Nat} {options : Option ListingOptions}
    (hjob : SaysOrLacks arguments "job_id" (Json.unsigned 64) jobId)
    (hoptions : SaysOrLacks arguments "system_query_options" ListingOptions.decode options) :
    OperationKind.listing.decode (.object arguments) = .ok (.listing jobId options) := by
  have hone : OperationKind.listing.shape.HasOneNameEach := by decide
  have hgiven : ∀ rule ∈ OperationKind.listing.shape.fields, rule.IsGivenIn arguments :=
    List.forall_mem_cons.mpr ⟨hjob.isGiven, List.forall_mem_singleton.mpr hoptions.isGiven⟩
  obtain ⟨seen, hseen, hsame⟩ := hone.decode_ok hsorted hgiven
  have hjob' := hjob.fieldOr (hsame _ List.mem_cons_self)
  have hoptions' := hoptions.fieldOr (hsame _ (List.mem_cons_of_mem _ List.mem_cons_self))
  simp only [decode, hseen, bind, Except.bind, hjob', hoptions']

theorem decode_consoles_of_says (hsorted : Fields.Sorted arguments) {address : Option String}
    (h : SaysOrLacks arguments "vcenter_hostname" Json.text address) :
    OperationKind.consoles.decode (.object arguments) = .ok (.consoles address) := by
  have hone : OperationKind.consoles.shape.HasOneNameEach := by decide
  have hgiven : ∀ rule ∈ OperationKind.consoles.shape.fields, rule.IsGivenIn arguments :=
    List.forall_mem_singleton.mpr h.isGiven
  obtain ⟨seen, hseen, hsame⟩ := hone.decode_ok hsorted hgiven
  have haddress := h.fieldOr (hsame _ (List.mem_singleton_self _))
  simp only [decode, hseen, bind, Except.bind, haddress]
  rfl

theorem decode_inventory_of_says (hsorted : Fields.Sorted arguments) {state : InventoryState} {key other : String}
    (hnames : (key = "state" ∧ other = "csior") ∨ (key = "csior" ∧ other = "state"))
    (h : Says arguments key InventoryState.decode state) (hother : Fields.get? arguments other = none) :
    OperationKind.inventory.decode (.object arguments) = .ok (.inventory state) := by
  obtain ⟨value, hvalue, hread⟩ := h
  have hspelled : (FieldRule.of "state" ["csior"] .required InventoryState.decode).isSpelled key = true := by
    rcases hnames with ⟨rfl, _⟩ | ⟨rfl, _⟩
    · rfl
    · rfl
  -- of the two names only the one that is used stands in the object
  have honly : ∀ k, (FieldRule.of "state" ["csior"] .required InventoryState.decode).isSpelled k = true → k ≠ key →
      Fields.get? arguments k = none := by
    intro k hk hne
    have hname : k = "state" ∨ k = "csior" := by simpa [FieldRule.isSpelled, FieldRule.of] using hk
    rcases hnames with ⟨rfl, rfl⟩ | ⟨rfl, rfl⟩
    · rw [hname.resolve_left hne, hother]
    · rw [hname.resolve_right hne, hother]
  have hfields : OperationKind.inventory.shape.fields = [.of "state" ["csior"] .required InventoryState.decode] := rfl
  obtain ⟨seen, hseen, hstate⟩ :=
    RecordShape.decode_ok_of_single hfields hsorted hvalue hspelled (FieldRule.check_of hread _ _ _) honly
  have hstate : Fields.get? seen "state" = some value := hstate
  simp only [decode, hseen, bind, Except.bind, needed, hstate, hread]
  rfl

/-- Arguments that state an operation are read as one of its kind that does the same. -/
theorem IsStatedIn.decode_ok {op : Operation} (h : op.IsStatedIn arguments) (hsorted : Fields.Sorted arguments) :
    ∃ read, op.kind.decode (.object arguments) = .ok read ∧ read.DoesSameAs op := by
  cases op with
  | deleteJob jobId => exact ⟨_, decode_deleteJob_of_says hsorted h, .refl _⟩
  | clearQueue => exact ⟨_, decode_clearQueue_of_sorted hsorted, .refl _⟩
  | jobStatus jobId => exact ⟨_, decode_jobStatus_of_says hsorted h, .refl _⟩
  | power reset resource => exact ⟨_, decode_power_of_says hsorted h.1 h.2, .refl _⟩
  | inventory state =>
    rcases h with ⟨hstate, hcsior⟩ | ⟨hcsior, hstate⟩
    · exact ⟨_, decode_inventory_of_says hsorted (Or.inl ⟨rfl, rfl⟩) hstate hcsior, .refl _⟩
    · exact ⟨_, decode_inventory_of_says hsorted (Or.inr ⟨rfl, rfl⟩) hcsior hstate, .refl _⟩
  | listing jobId options =>
    obtain ⟨hjob, stated, hstated, hsame⟩ := h
    exact ⟨_, decode_listing_of_says hsorted hjob hstated, listing_doesSameAs jobId hsame⟩
  | consoles address => exact ⟨_, decode_consoles_of_says hsorted h, .refl _⟩

end Operation

end OutOfBand
