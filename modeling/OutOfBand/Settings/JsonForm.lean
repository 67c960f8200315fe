import OutOfBand.Settings.Config

/-! # JSON forms of profiles and defaults

The records of a configuration can be read from other formats than the one in which the program keeps them.
The program reads them from settings; this is how whoever holds them as JSON reads the same records, with
the same fields, of which the same may be left out.
-/
namespace OutOfBand

/-- What the presence of a field in a record is for a field among settings. -/
def Presence.need : Presence → Setting.Need
  | required => .required
  | byName => .named
  | optional => .optional

namespace Profile

def jsonShape : RecordShape :=
  ⟨"Profile", [
    .of "hostname" [] .required Json.text,
    .of "port" [] .byName (Json.optional (Json.unsigned 16)),
    .of "username" [] .byName (Json.optional Json.text),
    .of "password" [] .byName (Json.optional Json.text),
    .of "auth_token" [] .byName (Json.optional Json.text),
    .of "validate_certs" [] .byName (Json.optional Json.boolean),
    .of "ca_path" [] .byName (Json.optional Json.path),
    .of "timeout" [] .byName (Json.optional (Json.unsigned 64)),
    .of "vcenter_uuid" [] .byName (Json.optional Json.text)]⟩

/-- A profile has the same fields in both forms. -/
theorem jsonShape_fields : jsonShape.fields.map (fun rule => (rule.name, rule.presence.need)) =
    shape.fields.map (fun field => (field.name, field.need)) := rfl

def decode (value : Json) : Decoded Profile := do
  let seen ← jsonShape.decode value
  let text (name : String) := fieldOr seen name (Json.optional Json.text) none
  .ok {
    hostname := ← fieldOr seen "hostname" Json.text ""
    port := ← fieldOr seen "port" (Json.optional (Json.unsigned 16)) none
    username := ← text "username"
    password := ← text "password"
    authToken := ← text "auth_token"
    validateCerts := ← fieldOr seen "validate_certs" (Json.optional Json.boolean) none
    caPath := ← fieldOr seen "ca_path" (Json.optional Json.path) none
    timeout := ← fieldOr seen "timeout" (Json.optional (Json.unsigned 64)) none
    vcenterUuid := ← text "vcenter_uuid" }

end Profile

namespace Defaults

def jsonShape : RecordShape :=
  ⟨"Defaults", [.of "output" [] .optional Json.text, .of "timeout" [] .optional (Json.unsigned 64),
    .of "validate_certs" [] .optional Json.boolean]⟩

/-- So have the defaults. -/
theorem jsonShape_fields : jsonShape.fields.map (fun rule => (rule.name, rule.presence.need)) =
    shape.fields.map (fun field => (field.name, field.need)) := rfl

def decode (value : Json) : Decoded Defaults := do
  let seen ← jsonShape.decode value
  .ok ⟨← fieldOr seen "output" Json.text builtin.output, ← fieldOr seen "timeout" (Json.unsigned 64) builtin.timeout,
    ← fieldOr seen "validate_certs" Json.boolean builtin.validateCerts⟩

end Defaults

end OutOfBand
