import OutOfBand.Http.Envelope
import OutOfBand.Proofs.Json.Admission
import OutOfBand.Proofs.Json.Order

/-! # The most specific message

A management service reports a failure in an error object, whose first extended info has the most specific message. The
object is read as a whole: where it has the types of the vendor structure throughout, the message is the most specific
one, and where anything in it has another type nothing of it is used.
-/
namespace OutOfBand

/-! ## Reading lists -/

section

variable {ε α β : Type} {f : α → Except ε β} {x : α} {xs : List α}

theorem mapM_cons {y : β} {ys : List β} (hx : f x = .ok y) (hxs : xs.mapM f = .ok ys) :
    (x :: xs).mapM f = .ok (y :: ys) := by
  rw [List.mapM_cons, hx, hxs]
  rfl

theorem ok_of_mapM {ys : List β} (h : xs.mapM f = .ok ys) (hx : x ∈ xs) : ∃ y, f x = .ok y := by
  induction xs generalizing ys with
  | nil => cases hx
  | cons first rest ih =>
    rw [List.mapM_cons] at h
    obtain ⟨y, hy, h⟩ := bind_eq_ok h
    obtain ⟨behind, hbehind, _⟩ := bind_eq_ok h
    rcases List.mem_cons.mp hx with rfl | hx
    · exact ⟨y, hy⟩
    · exact ih hbehind hx

end

namespace Json

/-! ## Texts that may be left out -/

/-- A text, or null in its place. -/
def IsTextOrNull : Json → Prop
  | .null => True
  | .string _ => True
  | _ => False

theorem optional_text {value : Json} (h : value.IsTextOrNull) : optional text value = .ok value.text? := by
  cases value with
  | null => rfl
  | string s => rfl
  | _ => cases h

theorem isTextOrNull_of_ok {value : Json} {s : Option String} (h : optional text value = .ok s) : value.IsTextOrNull := by
  cases value with
  | null => trivial
  | string s => trivial
  | _ => cases h

/-- The object has a text under the key, or null, or nothing. -/
def GivesText (members : Object) (key : String) : Prop := ∀ value, Fields.get? members key = some value → value.IsTextOrNull

end Json

open Json

namespace Http

namespace ExtendedInfo

theorem check_optionalText {name : String} {value : Json} :
    (optionalText name).check value = .ok () ↔ value.IsTextOrNull := by
  change (optional text value).map (fun _ => ()) = .ok () ↔ _
  constructor
  · intro h
    obtain ⟨s, hs, _⟩ := map_eq_ok h
    exact isTextOrNull_of_ok hs
  · intro h
    rw [optional_text h]
    rfl

theorem isGivenIn_optionalText {members : Object} {name : String} (h : GivesText members name) :
    (optionalText name).IsGivenIn members :=
  ⟨fun value hvalue => check_optionalText.mpr (h value hvalue), fun hrequired => by cases hrequired⟩

theorem fieldOr_text {seen members : Object} {name : String} (hsame : Fields.get? seen name = Fields.get? members name)
    (h : GivesText members name) :
    fieldOr seen name (optional text) none = .ok ((Json.object members).textMember? name) := by
  rw [fieldOr, hsame, textMember?, member?]
  cases hvalue : Fields.get? members name with
  | none => rfl
  | some value => exact optional_text (h value hvalue)

/-! ## Extended infos -/

def fieldNames : List String := ["Message", "MessageId", "Resolution", "Severity"]

/-- An extended info: an object that names its texts, or an array that lists all of them. -/
inductive IsInfo : Json → Prop where
  | named {members : Object} (h : ∀ name ∈ fieldNames, GivesText members name) : IsInfo (.object members)
  | listed {message messageId resolution severity : Json} (hmessage : message.IsTextOrNull)
      (hid : messageId.IsTextOrNull) (hresolution : resolution.IsTextOrNull) (hseverity : severity.IsTextOrNull) :
      IsInfo (.array [message, messageId, resolution, severity])

/-- The message of an info: the member of that name, or the first item of a list. -/
def messageOf? : Json → Option String
  | .array (message :: _) => message.text?
  | info => info.textMember? "Message"

theorem decode_of_seen {info : Json} {seen : Object} (hseen : shape.decode info = .ok seen)
    (h : ∀ name ∈ fieldNames, GivesText seen name) :
    ∃ i, decode info = .ok i ∧ i.message = (Json.object seen).textMember? "Message" := by
  let look (name : String) : Option String := (Json.object seen).textMember? name
  refine ⟨⟨look "Message", look "MessageId", look "Resolution", look "Severity"⟩, ?_, rfl⟩
  have hlook : ∀ name ∈ fieldNames, fieldOr seen name (optional text) none = .ok (look name) :=
    fun name hname => fieldOr_text rfl (h name hname)
  rw [decode, hseen]
  change (fieldOr seen "Message" (optional text) none >>= fun message =>
    fieldOr seen "MessageId" (optional text) none >>= fun messageId =>
    fieldOr seen "Resolution" (optional text) none >>= fun resolution =>
    fieldOr seen "Severity" (optional text) none >>= fun severity =>
    .ok (ExtendedInfo.mk message messageId resolution severity)) = _
  rw [hlook "Message" (by decide), hlook "MessageId" (by decide), hlook "Resolution" (by decide),
    hlook "Severity" (by decide)]
  rfl

theorem rule?_of_mem {name : String} (h : name ∈ fieldNames) : shape.rule? name = some (optionalText name) := by
  simp only [fieldNames, List.mem_cons, List.not_mem_nil, or_false] at h
  rcases h with rfl | rfl | rfl | rfl <;> rfl

theorem IsInfo.decode_ok {info : Json} (h : IsInfo info) (hordered : info.IsOrdered) :
    ∃ i, decode info = .ok i ∧ i.message = messageOf? info := by
  cases h with
  | @named members h =>
    have hfields : shape.fields = fieldNames.map optionalText := rfl
    have hgiven : ∀ rule ∈ shape.fields, rule.IsGivenIn members := by
      intro rule hrule
      rw [hfields] at hrule
      obtain ⟨name, hname, rfl⟩ := List.mem_map.mp hrule
      exact isGivenIn_optionalText (h name hname)
    obtain ⟨seen, hseen, hsame⟩ := RecordShape.HasOneNameEach.decode_ok (by decide) hordered.1 hgiven
    have hread : ∀ name ∈ fieldNames, Fields.get? seen name = Fields.get? members name := fun name hname =>
      hsame (optionalText name) (hfields ▸ List.mem_map_of_mem hname)
    obtain ⟨i, hi, hmessage⟩ := decode_of_seen hseen fun name hname value hvalue =>
      h name hname value ((hread name hname).symm.trans hvalue)
    have hsource : (Json.object seen).textMember? "Message" = (Json.object members).textMember? "Message" :=
      congrArg (· >>= text?) (hread "Message" (by decide))
    exact ⟨i, hi, hmessage.trans hsource⟩
  | @listed message messageId resolution severity hmessage hid hresolution hseverity =>
    have hend : shape.pair 4 [] [] = .ok [] := rfl
    have hpair : shape.pair 0 shape.fields [message, messageId, resolution, severity] =
        .ok [("Message", message), ("MessageId", messageId), ("Resolution", resolution), ("Severity", severity)] :=
      RecordShape.pair_cons (check_optionalText.mpr hmessage) (RecordShape.pair_cons (check_optionalText.mpr hid)
        (RecordShape.pair_cons (check_optionalText.mpr hresolution)
          (RecordShape.pair_cons (check_optionalText.mpr hseverity) hend)))
    have hseen : shape.decode (.array [message, messageId, resolution, severity]) =
        .ok [("Message", message), ("MessageId", messageId), ("Resolution", resolution), ("Severity", severity)] := by
      change shape.ofItems _ = _
      rw [RecordShape.ofItems, hpair]
      rfl
    have hall : ∀ entry ∈ [("Message", message), ("MessageId", messageId), ("Resolution", resolution), ("Severity", severity)],
        entry.2.IsTextOrNull := by simp [hmessage, hid, hresolution, hseverity]
    exact decode_of_seen hseen fun name _ value hvalue => hall (name, value) (Fields.mem_of_get? hvalue)

theorem isInfo_of_decode {info : Json} {i : ExtendedInfo} (h : decode info = .ok i) : IsInfo info := by
  obtain ⟨seen, hseen, _⟩ := bind_eq_ok h
  cases info with
  | object members =>
    exact .named fun name hname value hvalue =>
      check_optionalText.mp (RecordShape.decode_check hseen hvalue (rule?_of_mem hname))
  | array items =>
    have hneeded : ∀ name, (optionalText name).presence ≠ .optional := fun name => nofun
    obtain ⟨paired, hpaired, hlength⟩ := bind_eq_ok (show shape.ofItems items = .ok seen from hseen)
    obtain ⟨message, items, _, rfl, hmessage, hpaired⟩ := RecordShape.pair_cons_ok (hneeded "Message") hpaired
    obtain ⟨messageId, items, _, rfl, hid, hpaired⟩ := RecordShape.pair_cons_ok (hneeded "MessageId") hpaired
    obtain ⟨resolution, items, _, rfl, hresolution, hpaired⟩ := RecordShape.pair_cons_ok (hneeded "Resolution") hpaired
    obtain ⟨severity, items, _, rfl, hseverity, _⟩ := RecordShape.pair_cons_ok (hneeded "Severity") hpaired
    cases items with
    | nil =>
      exact .listed (check_optionalText.mp hmessage) (check_optionalText.mp hid) (check_optionalText.mp hresolution)
        (check_optionalText.mp hseverity)
    | cons item rest =>
      have htoo : shape.fields.length < (message :: messageId :: resolution :: severity :: item :: rest).length := by
        change 4 < rest.length + 5
        omega
      rw [if_pos htoo] at hlength
      cases hlength
  | _ => cases hseen

end ExtendedInfo

/-! ## Error objects -/

namespace VendorError

open ExtendedInfo

/-- An error object with the types of the vendor structure throughout. -/
structure IsWellTyped (error : Object) : Prop where
  code : GivesText error "code"
  message : GivesText error "message"
  infos : ∀ value, Fields.get? error infosKey = some value →
    ∃ items, value = .array items ∧ ∀ info ∈ items, IsInfo info

/-- The first of the extended infos. -/
def firstInfo? (error : Object) : Option Json := ((Json.object error).itemsMember? infosKey).bind List.head?

/-- The message of the first extended info, else the error's own. -/
def messageBy (infoMessage? : Json → Option String) (error : Object) : Option String :=
  (((firstInfo? error).bind infoMessage?).filter Envelope.nonempty).or
    (((Json.object error).textMember? "message").filter Envelope.nonempty)

/-- Infos are read one by one, so the first that is read is the first that is given. -/
theorem mapM_decode {items : List Json} (h : ∀ info ∈ items, IsInfo info) (hordered : AreOrdered items) :
    ∃ infos, items.mapM ExtendedInfo.decode = .ok infos ∧
      infos.head?.bind ExtendedInfo.message = items.head?.bind messageOf? := by
  induction items with
  | nil => exact ⟨[], rfl, rfl⟩
  | cons info rest ih =>
    obtain ⟨i, hi, hmessage⟩ := (h info List.mem_cons_self).decode_ok hordered.1
    obtain ⟨infos, hinfos, _⟩ := ih (fun other hother => h other (List.mem_cons_of_mem _ hother)) hordered.2
    exact ⟨i :: infos, mapM_cons hi hinfos, hmessage⟩

def infosRule : FieldRule := .of infosKey [] .optional (Json.list ExtendedInfo.decode)

theorem check_infosRule {value : Json} :
    infosRule.check value = .ok () ↔ ∃ infos, list ExtendedInfo.decode value = .ok infos := by
  change (list ExtendedInfo.decode value).map (fun _ => ()) = .ok () ↔ _
  constructor
  · intro h
    obtain ⟨infos, hinfos, _⟩ := map_eq_ok h
    exact ⟨infos, hinfos⟩
  · rintro ⟨infos, hinfos⟩
    rw [hinfos]
    rfl

theorem IsWellTyped.decode_ok {error : Object} (h : IsWellTyped error) (hordered : (Json.object error).IsOrdered) :
    ∃ v, decode (.object error) = .ok v ∧ Envelope.VendorError.bestMessage? v = messageBy messageOf? error := by
  have hinfos : ∀ value, Fields.get? error infosKey = some value →
      ∃ infos, list ExtendedInfo.decode value = .ok infos ∧
        infos.head?.bind ExtendedInfo.message = (value.items?.bind List.head?).bind messageOf? := by
    intro value hvalue
    obtain ⟨items, rfl, hall⟩ := h.infos value hvalue
    exact mapM_decode hall (isOrdered_of_get? hordered hvalue)
  have hgiven : ∀ rule ∈ shape.fields, rule.IsGivenIn error := by
    intro rule hrule
    have hcases : rule = optionalText "code" ∨ rule = optionalText "message" ∨ rule = infosRule := by
      simpa [shape, infosRule] using hrule
    rcases hcases with rfl | rfl | rfl
    · exact isGivenIn_optionalText h.code
    · exact isGivenIn_optionalText h.message
    · refine ⟨fun value hvalue => check_infosRule.mpr ?_, fun hrequired => by cases hrequired⟩
      obtain ⟨infos, hread, _⟩ := hinfos value hvalue
      exact ⟨infos, hread⟩
  obtain ⟨seen, hseen, hsame⟩ := RecordShape.HasOneNameEach.decode_ok (by decide) hordered.1 hgiven
  have hcode : Fields.get? seen "code" = Fields.get? error "code" := hsame (optionalText "code") (by simp [shape])
  have hmessage : Fields.get? seen "message" = Fields.get? error "message" :=
    hsame (optionalText "message") (by simp [shape])
  have hlist : Fields.get? seen infosKey = Fields.get? error infosKey := hsame infosRule (by simp [shape, infosRule])
  obtain ⟨infos, hread, hfirst⟩ : ∃ infos, fieldOr seen infosKey (list ExtendedInfo.decode) [] = .ok infos ∧
      infos.head?.bind ExtendedInfo.message = (firstInfo? error).bind messageOf? := by
    rw [fieldOr, hlist, firstInfo?, itemsMember?, member?]
    cases hvalue : Fields.get? error infosKey with
    | none => exact ⟨[], rfl, rfl⟩
    | some value => exact hinfos value hvalue
  refine ⟨⟨(Json.object error).textMember? "code", (Json.object error).textMember? "message", infos⟩, ?_, ?_⟩
  · rw [decode, hseen]
    change (fieldOr seen "code" (optional text) none >>= fun code =>
      fieldOr seen "message" (optional text) none >>= fun message =>
      fieldOr seen infosKey (list ExtendedInfo.decode) [] >>= fun infos => .ok (VendorError.mk code message infos)) = _
    rw [fieldOr_text hcode h.code, fieldOr_text hmessage h.message, hread]
    rfl
  · rw [Envelope.VendorError.bestMessage?, messageBy, hfirst]

theorem isWellTyped_of_decode {error : Object} {v : VendorError} (h : decode (.object error) = .ok v) :
    IsWellTyped error := by
  obtain ⟨seen, hseen, _⟩ := bind_eq_ok h
  have hchecked : ∀ {key value rule}, shape.rule? key = some rule → Fields.get? error key = some value →
      rule.check value = .ok () := fun hrule hvalue => RecordShape.decode_check hseen hvalue hrule
  refine ⟨fun value hvalue => ?_, fun value hvalue => ?_, fun value hvalue => ?_⟩
  · exact check_optionalText.mp (hchecked (show shape.rule? "code" = some (optionalText "code") from rfl) hvalue)
  · exact check_optionalText.mp (hchecked (show shape.rule? "message" = some (optionalText "message") from rfl) hvalue)
  · obtain ⟨infos, hinfos⟩ := check_infosRule.mp (hchecked (show shape.rule? infosKey = some infosRule from rfl) hvalue)
    cases value with
    | array items =>
      refine ⟨items, rfl, fun info hinfo => ?_⟩
      obtain ⟨i, hi⟩ := ok_of_mapM (show items.mapM ExtendedInfo.decode = .ok infos from hinfos) hinfo
      exact isInfo_of_decode hi
    | _ => cases hinfos

end VendorError

/-! ## Diagnostics -/

namespace Envelope

open Http.ExtendedInfo Http.VendorError

/-- The error object of the body. -/
def error? (e : Envelope) : Option Object := (e.body.member? "error").bind members?

/-- The message of the reply outside its error object. -/
def plainDiagnostic (e : Envelope) : String := ((e.field? "Message").filter nonempty).getD e.statusLine

/-- The most specific message that the body names, whatever stands beside it. -/
def mostSpecific (e : Envelope) : String := (e.error?.bind (messageBy (·.textMember? "Message"))).getD e.plainDiagnostic

variable {e : Envelope} {error : Object}

theorem isOrdered_error (hordered : e.body.IsOrdered) (h : e.error? = some error) : (Json.object error).IsOrdered := by
  obtain ⟨value, hvalue, hmembers⟩ := Option.bind_eq_some_iff.mp h
  cases hbody : e.body with
  | object members =>
    rw [hbody] at hordered hvalue
    cases value with
    | object found =>
      cases hmembers
      exact isOrdered_of_get? hordered hvalue
    | _ => cases hmembers
  | _ =>
    rw [hbody] at hvalue
    cases hvalue

theorem vendorError?_of_none (h : e.error? = none) : e.vendorError? = none := by
  rw [error?] at h
  unfold vendorError?
  split
  case h_1 members hmember =>
    rw [hmember] at h
    cases h
  case h_2 => rfl

theorem vendorError?_of_error (h : e.error? = some error) :
    e.vendorError? = (Http.VendorError.decode (.object error)).toOption := by
  obtain ⟨value, hvalue, hmembers⟩ := Option.bind_eq_some_iff.mp h
  cases value with
  | object members =>
    cases hmembers
    rw [vendorError?, hvalue]
  | _ => cases hmembers

theorem diagnostic_eq (e : Envelope) :
    e.diagnostic = (e.vendorError?.bind VendorError.bestMessage?).getD e.plainDiagnostic := Option.getD_or

theorem diagnostic_of_noError (h : e.error? = none) : e.diagnostic = e.mostSpecific := by
  rw [diagnostic_eq, vendorError?_of_none h, mostSpecific, h]
  rfl

theorem diagnostic_of_wellTyped (hordered : e.body.IsOrdered) (herror : e.error? = some error) (h : IsWellTyped error) :
    e.diagnostic = (messageBy messageOf? error).getD e.plainDiagnostic := by
  obtain ⟨v, hv, hbest⟩ := h.decode_ok (isOrdered_error hordered herror)
  rw [diagnostic_eq, vendorError?_of_error herror, hv, ← hbest]
  rfl

theorem vendorError?_of_mistyped (herror : e.error? = some error) (h : ¬ IsWellTyped error) : e.vendorError? = none := by
  rw [vendorError?_of_error herror]
  cases hread : Http.VendorError.decode (.object error) with
  | error mismatch => rfl
  | ok v => exact absurd (isWellTyped_of_decode hread) h

theorem diagnostic_of_mistyped (herror : e.error? = some error) (h : ¬ IsWellTyped error) :
    e.diagnostic = e.plainDiagnostic := by
  rw [diagnostic_eq, vendorError?_of_mistyped herror h]
  rfl

/-- What an error object contributes to the diagnostic. -/
structure IsDiagnosed (e : Envelope) : Prop where
  noError : e.error? = none → e.diagnostic = e.mostSpecific
  /-- Infos that name their texts. -/
  named : ∀ error, e.error? = some error → IsWellTyped error → (∀ items, firstInfo? error ≠ some (.array items)) →
    e.diagnostic = e.mostSpecific
  /-- An info that lists its texts has its message in front. -/
  listed : ∀ error, e.error? = some error → IsWellTyped error →
    e.diagnostic = (messageBy messageOf? error).getD e.plainDiagnostic
  /-- Nothing is used of an error object in which anything has another type. -/
  mistyped : ∀ error, e.error? = some error → ¬ IsWellTyped error → e.diagnostic = e.plainDiagnostic
  /-- So a message that it has is lost. -/
  lost : ∀ error, e.error? = some error → ¬ IsWellTyped error → (e.diagnostic = e.mostSpecific ↔
    ∀ message, messageBy (·.textMember? "Message") error = some message → message = e.plainDiagnostic)

theorem messageBy_eq (h : ∀ items, firstInfo? error ≠ some (.array items)) :
    messageBy messageOf? error = messageBy (·.textMember? "Message") error := by
  have hsame : (firstInfo? error).bind messageOf? = (firstInfo? error).bind (·.textMember? "Message") := by
    cases hfirst : firstInfo? error with
    | none => rfl
    | some info =>
      cases info with
      | array items => exact absurd hfirst (h items)
      | _ => rfl
  rw [messageBy, messageBy, hsame]

/-- The diagnostic is the most specific message that the body names, if nothing in the error object has a type that the
vendor structure does not have there. -/
theorem diagnostic_isDiagnosed (e : Envelope) (hordered : e.body.IsOrdered) : e.IsDiagnosed where
  noError := diagnostic_of_noError
  named error herror htyped hfirst := by
    rw [diagnostic_of_wellTyped hordered herror htyped, messageBy_eq hfirst, mostSpecific, herror]
    rfl
  listed _ herror htyped := diagnostic_of_wellTyped hordered herror htyped
  mistyped _ herror hmistyped := diagnostic_of_mistyped herror hmistyped
  lost error herror hmistyped := by
    rw [diagnostic_of_mistyped herror hmistyped, mostSpecific, herror, Option.bind_some]
    cases messageBy (·.textMember? "Message") error with
    | none => exact iff_of_true rfl nofun
    | some message => exact ⟨fun h _ hmessage => (Option.some.inj hmessage).symm.trans h.symm, fun h => (h message rfl).symm⟩

/-- A general error whose first info says more. -/
theorem diagnostic_isDiagnosed_info :
    let e : Envelope := synthesized 400 (.object [("error", .object [
      ("@Message.ExtendedInfo", .array [.object [("Message", .string "Resource not found."), ("MessageId", .string "SYS403")]]),
      ("code", .string "Base.1.5.GeneralError"), ("message", .string "A general error has occurred.")])])
    e.body.IsOrdered ∧ e.IsDiagnosed ∧ e.diagnostic = "Resource not found." := by
  intro e
  have hinfo : (Json.object [("Message", .string "Resource not found."), ("MessageId", .string "SYS403")]).IsOrdered :=
    ⟨⟨by decide, Fields.sorted_singleton _ _⟩, trivial, trivial, trivial⟩
  have hordered : e.body.IsOrdered :=
    ⟨Fields.sorted_singleton _ _,
      ⟨⟨by decide, by decide, Fields.sorted_singleton _ _⟩, ⟨hinfo, trivial⟩, trivial, trivial, trivial⟩, trivial⟩
  exact ⟨hordered, diagnostic_isDiagnosed e hordered, by decide +kernel⟩

/-- Null in the place of the infos, and the error's own message is lost. -/
theorem diagnostic_loses_message :
    let e : Envelope := synthesized 500 (.object [("error", .object [
      ("@Message.ExtendedInfo", .null), ("code", .string "X"), ("message", .string "boom")])])
    e.diagnostic = "HTTP 500 Internal Server Error" ∧ e.mostSpecific = "boom" := by
  decide +kernel

end Envelope

end Http

end OutOfBand
