import Mathlib.Data.List.Forall2
import OutOfBand.CommandLine.Exit
import OutOfBand.Proofs.ArgumentFile
import OutOfBand.Proofs.Json.Equality

/-! # Secrets in argument files

Two argument files that differ in nothing but passwords and tokens, each of one JSON type in both, fail for the same
reason or not at all. What an error says depends on a secret in one case only: where a number or a truth value stands
for a secret, and then the error quotes it.
-/
namespace OutOfBand

variable {α β γ δ ε ε' : Type}

/-- Both fail, with related errors, or neither does and the values are related. -/
inductive ResultsAlike (E : ε → ε' → Prop) (R : α → β → Prop) : Except ε α → Except ε' β → Prop
  | ok {a : α} {b : β} (h : R a b) : ResultsAlike E R (.ok a) (.ok b)
  | error {e : ε} {e' : ε'} (h : E e e') : ResultsAlike E R (.error e) (.error e')

namespace ResultsAlike

variable {E : ε → ε → Prop} {R : α → β → Prop} {S : γ → δ → Prop}

theorem bind {front : Except ε α} {back : Except ε β} (h : ResultsAlike E R front back) {next : α → Except ε γ}
    {next' : β → Except ε δ} (hnext : ∀ a b, R a b → ResultsAlike E S (next a) (next' b)) :
    ResultsAlike E S (front >>= next) (back >>= next') := by
  cases h with
  | ok hab => exact hnext _ _ hab
  | error he => exact .error he

theorem same (hE : ∀ e, E e e) (result : Except ε α) : ResultsAlike E Eq result result := by
  cases result with
  | ok a => exact .ok rfl
  | error e => exact .error (hE e)

end ResultsAlike

/-- Fields that are related one by one are related under every name. -/
theorem Fields.get?_rel {R : String → Json → Json → Prop} {fields fields' : Object}
    (h : List.Forall₂ (fun x y => x.1 = y.1 ∧ R x.1 x.2 y.2) fields fields') (name : String) :
    Option.Rel (R name) (Fields.get? fields name) (Fields.get? fields' name) := by
  induction h with
  | nil => exact .none
  | @cons x y _ _ hxy _ ih =>
    obtain ⟨k, v⟩ := x
    obtain ⟨l, w⟩ := y
    obtain rfl : k = l := hxy.1
    rw [get?_cons, get?_cons]
    by_cases hk : name = k
    · subst hk
      rw [if_pos rfl, if_pos rfl]
      exact .some hxy.2
    · rw [if_neg hk, if_neg hk]
      exact ih

/-! ## Values of one type -/

namespace Json

/-- The same JSON type. -/
def isOfKindOf : Json → Json → Bool
  | .null, .null => true
  | .bool _, .bool _ => true
  | .number _, .number _ => true
  | .string _, .string _ => true
  | .array _, .array _ => true
  | .object _, .object _ => true
  | _, _ => false

/-- A number or a truth value: the message of a wrong type quotes it. -/
def isQuotable : Json → Bool
  | .bool _ => true
  | .number _ => true
  | _ => false

/-- Two values of one type are both texts, or fail as such in the same way unless they can be quoted. -/
theorem optional_text_alike {value value' : Json} (h : value.isOfKindOf value' = true) :
    ResultsAlike (fun m m' => m = m' ∨ value.isQuotable = true ∧ value'.isQuotable = true ∧
        m = .wrongType value.found "a string" ∧ m' = .wrongType value'.found "a string")
      (fun _ _ => True) (optional text value) (optional text value') := by
  cases value with
  | null => cases value' with
    | null => exact .ok trivial
    | _ => cases h
  | bool b => cases value' with
    | bool b' => exact .error (Or.inr ⟨rfl, rfl, rfl, rfl⟩)
    | _ => cases h
  | number n => cases value' with
    | number n' => exact .error (Or.inr ⟨rfl, rfl, rfl, rfl⟩)
    | _ => cases h
  | string s => cases value' with
    | string s' => exact .ok trivial
    | _ => cases h
  | array items => cases value' with
    | array items' => exact .error (Or.inl rfl)
    | _ => cases h
  | object members => cases value' with
    | object members' => exact .error (Or.inl rfl)
    | _ => cases h

end Json

/-! ## Alike arguments -/

namespace Connection

/-- The options that hold secrets, under all their names. -/
def secretNames : List String :=
  ["password", "idrac_password", "idrac_pwd", "vcenter_password", "auth_token", "x_auth_token"]

/-- The same options, and the same values but of secrets, which are of one type. -/
def ArgumentsAlike (arguments arguments' : Object) : Prop :=
  List.Forall₂ (fun x y => x.1 = y.1 ∧ (x.2 = y.2 ∨ x.1 ∈ secretNames ∧ x.2.isOfKindOf y.2 = true)) arguments arguments'

/-- Both are quotes of what stands under one name of a secret. -/
def QuoteSecrets (arguments arguments' : Object) (m m' : Mismatch) : Prop :=
  ∃ name ∈ secretNames, ∃ value value', (name, value) ∈ arguments ∧ (name, value') ∈ arguments' ∧
    value.isQuotable = true ∧ value'.isQuotable = true ∧
    m = .wrongType value.found "a string" ∧ m' = .wrongType value'.found "a string"

def MismatchesAlike (arguments arguments' : Object) (m m' : Mismatch) : Prop :=
  m = m' ∨ QuoteSecrets arguments arguments' m m'

theorem MismatchesAlike.refl (arguments arguments' : Object) (m : Mismatch) : MismatchesAlike arguments arguments' m m :=
  Or.inl rfl

def secretFields : List String := ["password", "auth_token"]

/-- Every name of a secret spells a field for an optional text. -/
theorem rule?_secret {key : String} (h : key ∈ secretNames) :
    ∃ rule, shape.rule? key = some rule ∧ rule.name ∈ secretFields ∧
      rule.check = fun value => (Json.optional Json.text value).map (fun _ => ()) := by
  have hfound : ∀ key ∈ secretNames, ∃ name ∈ secretFields, (shape.rule? key).map FieldRule.name = some name := by
    decide +kernel
  obtain ⟨name, hname, hspelled⟩ := hfound key h
  obtain ⟨rule, hrule, rfl⟩ := Option.map_eq_some_iff.mp hspelled
  refine ⟨rule, hrule, hname, ?_⟩
  obtain ⟨hmem, _⟩ := RecordShape.mem_of_rule? hrule
  simp only [shape, List.mem_cons, List.not_mem_nil, or_false] at hmem
  rcases hmem with rfl | rfl | rfl | rfl | rfl | rfl | rfl | rfl | rfl | rfl
  all_goals first
    | rfl
    | exact absurd hname (by decide)

def SeenAlike (seen seen' : List (String × Json)) : Prop :=
  List.Forall₂ (fun x y => x.1 = y.1 ∧ (x.2 = y.2 ∨ x.1 ∈ secretFields ∧
    (∃ a, Json.optional Json.text x.2 = .ok a) ∧ ∃ b, Json.optional Json.text y.2 = .ok b)) seen seen'

namespace SeenAlike

variable {seen seen' : List (String × Json)}

theorem get?_rel (h : SeenAlike seen seen') (name : String) :
    Option.Rel (fun v w => v = w ∨ name ∈ secretFields ∧ (∃ a, Json.optional Json.text v = .ok a) ∧
      ∃ b, Json.optional Json.text w = .ok b) (Fields.get? seen name) (Fields.get? seen' name) :=
  Fields.get?_rel (R := fun name v w => v = w ∨ name ∈ secretFields ∧ (∃ a, Json.optional Json.text v = .ok a) ∧
    ∃ b, Json.optional Json.text w = .ok b) h name

theorem contains_eq (h : SeenAlike seen seen') (name : String) : Fields.contains seen name = Fields.contains seen' name := by
  have hfield := h.get?_rel name
  unfold Fields.contains
  generalize Fields.get? seen name = front at hfield ⊢
  generalize Fields.get? seen' name = back at hfield ⊢
  cases hfield with
  | some _ => rfl
  | none => rfl

theorem fieldOr_eq (h : SeenAlike seen seen') {name : String} (hname : name ∉ secretFields) (reader : Json → Decoded α)
    (default : α) : fieldOr seen name reader default = fieldOr seen' name reader default := by
  have hfield := h.get?_rel name
  unfold fieldOr
  generalize Fields.get? seen name = front at hfield ⊢
  generalize Fields.get? seen' name = back at hfield ⊢
  cases hfield with
  | some hvalues =>
    rcases hvalues with rfl | ⟨hsecret, _⟩
    · rfl
    · exact absurd hsecret hname
  | none => rfl

theorem fieldOr_secret (h : SeenAlike seen seen') (name : String) {E : Mismatch → Mismatch → Prop} (hE : ∀ m, E m m) :
    ResultsAlike E (fun _ _ => True) (fieldOr seen name (Json.optional Json.text) none)
      (fieldOr seen' name (Json.optional Json.text) none) := by
  have hfield := h.get?_rel name
  unfold fieldOr
  generalize Fields.get? seen name = front at hfield ⊢
  generalize Fields.get? seen' name = back at hfield ⊢
  cases hfield with
  | @some value value' hvalues =>
    rcases hvalues with rfl | ⟨_, ⟨a, ha⟩, b, hb⟩
    · cases hread : Json.optional Json.text value with
      | ok a => simp only [hread]; exact .ok trivial
      | error m => simp only [hread]; exact .error (hE m)
    · simp only [ha, hb]
      exact .ok trivial
  | none => exact .ok trivial

end SeenAlike

theorem visit_alike {arguments arguments' members members' seen seen' : Object} (h : ArgumentsAlike members members')
    (hmem : ∀ member ∈ members, member ∈ arguments) (hmem' : ∀ member ∈ members', member ∈ arguments')
    (hseen : SeenAlike seen seen') :
    ResultsAlike (MismatchesAlike arguments arguments') SeenAlike (shape.visit seen members) (shape.visit seen' members') := by
  -- as long as no member fails, alike fields have been seen; only secrets can fail in two ways
  induction h generalizing seen seen' with
  | nil => exact .ok hseen
  | @cons x y rest rest' hxy _ ih =>
    obtain ⟨key, value⟩ := x
    obtain ⟨other, value'⟩ := y
    obtain rfl : key = other := hxy.1
    have hrest : ∀ member ∈ rest, member ∈ arguments := fun member hm => hmem member (List.mem_cons_of_mem _ hm)
    have hrest' : ∀ member ∈ rest', member ∈ arguments' := fun member hm => hmem' member (List.mem_cons_of_mem _ hm)
    simp only [RecordShape.visit]
    cases hrule : shape.rule? key with
    | none => exact ih hrest hrest' hseen
    | some rule =>
      simp only [hseen.contains_eq rule.name]
      split
      case isTrue => exact .error (Or.inl rfl)
      case isFalse =>
        have hnext : ∀ {v v' : Json}, (v = v' ∨ rule.name ∈ secretFields ∧
            (∃ a, Json.optional Json.text v = .ok a) ∧ ∃ b, Json.optional Json.text v' = .ok b) →
            SeenAlike (seen ++ [(rule.name, v)]) (seen' ++ [(rule.name, v')]) :=
          fun hvalues => List.rel_append hseen (.cons ⟨rfl, hvalues⟩ .nil)
        rcases hxy.2 with heq | ⟨hsecret, hkind⟩
        · obtain rfl : value = value' := heq
          have hsame : ResultsAlike (MismatchesAlike arguments arguments') Eq (rule.check value) (rule.check value) :=
            .same (MismatchesAlike.refl arguments arguments') _
          refine hsame.bind (fun _ _ _ => ?_)
          exact ih hrest hrest' (hnext (Or.inl rfl))
        · obtain ⟨found, hfound, hname, hcheck⟩ := rule?_secret hsecret
          rw [hrule] at hfound
          cases hfound
          have hread := Json.optional_text_alike hkind
          simp only [hcheck]
          generalize ha : Json.optional Json.text value = read at hread
          generalize hb : Json.optional Json.text value' = read' at hread
          cases hread with
          | ok _ => exact ih hrest hrest' (hnext (Or.inr ⟨hname, ⟨_, ha⟩, _, hb⟩))
          | error hm =>
            rcases hm with rfl | ⟨hquotable, hquotable', hm, hm'⟩
            · exact .error (Or.inl rfl)
            · exact .error (Or.inr ⟨key, hsecret, value, value', hmem _ List.mem_cons_self, hmem' _ List.mem_cons_self,
                hquotable, hquotable', hm, hm'⟩)

theorem missing?_alike {seen seen' : List (String × Json)} (h : SeenAlike seen seen') :
    shape.missing? seen = shape.missing? seen' := by
  simp only [RecordShape.missing?, h.contains_eq]

def DifferInSecrets (c c' : Connection) : Prop :=
  c' = { c with password := c'.password, authToken := c'.authToken }

theorem decode_alike {arguments arguments' : Object} (h : ArgumentsAlike arguments arguments') :
    ResultsAlike (MismatchesAlike arguments arguments') DifferInSecrets (decode (.object arguments))
      (decode (.object arguments')) := by
  have hsame := MismatchesAlike.refl arguments arguments'
  have hseen : ResultsAlike (MismatchesAlike arguments arguments') SeenAlike (shape.decode (.object arguments))
      (shape.decode (.object arguments')) := by
    refine (visit_alike h (fun _ hm => hm) (fun _ hm => hm) .nil).bind (fun seen seen' hseen => ?_)
    rw [missing?_alike hseen]
    split
    · exact .error (hsame _)
    · exact .ok hseen
  refine hseen.bind (fun seen seen' hseen => ?_)
  dsimp only
  rw [hseen.fieldOr_eq (show "hostname" ∉ secretFields by decide), hseen.fieldOr_eq (show "port" ∉ secretFields by decide),
    hseen.fieldOr_eq (show "username" ∉ secretFields by decide),
    hseen.fieldOr_eq (show "validate_certs" ∉ secretFields by decide),
    hseen.fieldOr_eq (show "ca_path" ∉ secretFields by decide), hseen.fieldOr_eq (show "timeout" ∉ secretFields by decide),
    hseen.fieldOr_eq (show "check_mode" ∉ secretFields by decide),
    hseen.fieldOr_eq (show "vcenter_uuid" ∉ secretFields by decide)]
  have hfield : ∀ {α : Type} (result : Decoded α), ResultsAlike (MismatchesAlike arguments arguments') Eq result result :=
    fun result => .same hsame result
  refine (hfield _).bind (fun hostname _ hhostname => ?_)
  refine (hfield _).bind (fun port _ hport => ?_)
  refine (hfield _).bind (fun username _ husername => ?_)
  refine (hseen.fieldOr_secret "password" hsame).bind (fun password password' _ => ?_)
  refine (hseen.fieldOr_secret "auth_token" hsame).bind (fun token token' _ => ?_)
  refine (hfield _).bind (fun validateCerts _ hvalidateCerts => ?_)
  refine (hfield _).bind (fun caPath _ hcaPath => ?_)
  refine (hfield _).bind (fun timeout _ htimeout => ?_)
  refine (hfield _).bind (fun checkMode _ hcheckMode => ?_)
  refine (hfield _).bind (fun uuid _ huuid => ?_)
  subst hhostname hport husername hvalidateCerts hcaPath htimeout hcheckMode huuid
  exact .ok rfl

end Connection

/-! ## Alike documents -/

namespace ArgumentFile

open Connection

/-- The same documents but for the arguments, which are alike. -/
def DocumentsAlike (document document' : Json) : Prop :=
  document = document' ∨ ∃ members members' : Object, document = .object members ∧ document' = .object members' ∧
    List.Forall₂ (fun x y => x.1 = y.1 ∧ (x.2 = y.2 ∨ x.1 = key ∧
      ∃ arguments arguments', x.2 = .object arguments ∧ y.2 = .object arguments' ∧ ArgumentsAlike arguments arguments'))
      members members'

theorem ArgumentsAlike.refl (arguments : Object) : ArgumentsAlike arguments arguments :=
  List.forall₂_same.mpr (fun _ _ => ⟨rfl, Or.inl rfl⟩)

theorem argumentsOf_alike {document document' : Json} (h : DocumentsAlike document document') :
    ResultsAlike Eq ArgumentsAlike (argumentsOf document) (argumentsOf document') := by
  rcases h with rfl | ⟨members, members', rfl, rfl, h⟩
  · cases argumentsOf document with
    | error e => exact .error rfl
    | ok arguments => exact .ok (ArgumentsAlike.refl arguments)
  · have hfield := Fields.get?_rel (R := fun name v w => v = w ∨ name = key ∧
      ∃ arguments arguments', v = .object arguments ∧ w = .object arguments' ∧ ArgumentsAlike arguments arguments') h key
    simp only [argumentsOf]
    generalize Fields.get? members key = front at hfield ⊢
    generalize Fields.get? members' key = back at hfield ⊢
    cases hfield with
    | @some value value' hvalues =>
      rcases hvalues with rfl | ⟨_, arguments, arguments', rfl, rfl, halike⟩
      · cases value with
        | object arguments => exact .ok (ArgumentsAlike.refl arguments)
        | _ => exact .error rfl
      · exact .ok halike
    | none => exact .error rfl

/-- Both errors are the same, or both quote what stands for a secret. -/
def ErrorsAlike (document document' : Json) (e e' : SettingsError) : Prop :=
  e = e' ∨ ∃ arguments arguments' m m', argumentsOf document = .ok arguments ∧ argumentsOf document' = .ok arguments' ∧
    QuoteSecrets arguments arguments' m m' ∧ e = .arguments m.message ∧ e' = .arguments m'.message

theorem execute_of_parse_error {raw : String} {e : SettingsError} (h : parse raw = .error e) {words : List String}
    {env : Environment} {invocation : CommandLine.Invocation} (hparse : CommandLine.Invocation.parse env words = .ok invocation)
    {name path : String} (hcommand : invocation.command = .automation name path) {files : FileTree}
    (hfile : files.readText path = .ok raw) (wire : Wire) :
    CommandLine.execute words files env wire =
      ((CommandLine.Outcome.document (Automation.refusal e)).exit invocation.options.output, wire) := by
  have hrun := Automation.run_of_parse_error hfile h name env wire
  simp only [CommandLine.execute, hparse, CommandLine.Invocation.run, hcommand, hrun]

/-- Two documents that differ in nothing but passwords and tokens, each of one JSON type on both sides, are both right
or both wrong. If they are wrong they are so for the same reason, and then the program prints the same report and
sends nothing; but for one case: a number or a truth value stands for a secret, and each reason quotes its own. -/
theorem parse_alike {raw raw' : String} {document document' : Json} (hread : Json.read raw = .ok document)
    (hread' : Json.read raw' = .ok document') (h : DocumentsAlike document document') :
    ResultsAlike (ErrorsAlike document document') (fun file file' => DifferInSecrets file.connection file'.connection)
        (parse raw) (parse raw') ∧
      ∀ e e', parse raw = .error e → parse raw' = .error e' →
        ∀ (words : List String) (env : Environment) (invocation : CommandLine.Invocation) (name path : String)
          (files files' : FileTree) (wire : Wire), CommandLine.Invocation.parse env words = .ok invocation →
          invocation.command = .automation name path → files.readText path = .ok raw → files'.readText path = .ok raw' →
          (CommandLine.execute words files env wire).2 = wire ∧ (CommandLine.execute words files' env wire).2 = wire ∧
            (e = e' → (CommandLine.execute words files env wire).1 = (CommandLine.execute words files' env wire).1) := by
  constructor
  · have harguments := argumentsOf_alike h
    simp only [parse, hread, hread']
    change ResultsAlike _ _ (argumentsOf document >>= _) (argumentsOf document' >>= _)
    generalize hfront : argumentsOf document = front at harguments
    generalize hback : argumentsOf document' = back at harguments
    cases harguments with
    | error he => exact .error (Or.inl he)
    | @ok arguments arguments' halike =>
      have hdecoded := decode_alike halike
      simp only [bind, Except.bind, ofMismatch]
      generalize decode (.object arguments) = read at hdecoded
      generalize decode (.object arguments') = read' at hdecoded
      cases hdecoded with
      | ok hc => exact .ok hc
      | error hm =>
        rcases hm with rfl | hquotes
        · exact .error (Or.inl rfl)
        · exact .error (Or.inr ⟨arguments, arguments', _, _, hfront, hback, hquotes, rfl, rfl⟩)
  · intro e e' he he' words env invocation name path files files' wire hparse hcommand hfile hfile'
    rw [execute_of_parse_error he hparse hcommand hfile, execute_of_parse_error he' hparse hcommand hfile']
    refine ⟨rfl, rfl, ?_⟩
    rintro rfl
    rfl

def fault? (raw : String) : Option String :=
  match parse raw with
  | .error e => e.message?
  | .ok _ => none

/-- Two passwords in documents that are wrong about a port. -/
theorem parse_alike_passwords :
    let text (password : String) := "\x7b\"ANSIBLE_MODULE_ARGS\": \x7b\"hostname\": \"h\", \"password\": \"" ++ password ++
      "\", \"port\": \"x\"\x7d\x7d"
    ∃ document document', Json.read (text "calvin") = .ok document ∧ Json.read (text "hobbes") = .ok document' ∧
      DocumentsAlike document document' ∧ fault? (text "calvin") =
        some "invalid module args: invalid type: string \"x\", expected u16" ∧
      ResultsAlike (ErrorsAlike document document') (fun file file' => DifferInSecrets file.connection file'.connection)
        (parse (text "calvin")) (parse (text "hobbes")) := by
  intro text
  let document (password : String) : Json := .object [(key, .object [("hostname", .string "h"),
    ("password", .string password), ("port", .string "x")])]
  have hread : Json.read (text "calvin") = .ok (document "calvin") := eq_ok_of_toOption (by decide +kernel)
  have hread' : Json.read (text "hobbes") = .ok (document "hobbes") := eq_ok_of_toOption (by decide +kernel)
  have harguments : ArgumentsAlike [("hostname", .string "h"), ("password", .string "calvin"), ("port", .string "x")]
      [("hostname", .string "h"), ("password", .string "hobbes"), ("port", .string "x")] :=
    .cons ⟨rfl, Or.inl rfl⟩ (.cons ⟨rfl, Or.inr ⟨by decide, rfl⟩⟩ (.cons ⟨rfl, Or.inl rfl⟩ .nil))
  have halike : DocumentsAlike (document "calvin") (document "hobbes") :=
    Or.inr ⟨_, _, rfl, rfl, .cons ⟨rfl, Or.inr ⟨rfl, _, _, rfl, rfl, harguments⟩⟩ .nil⟩
  exact ⟨_, _, hread, hread', halike, by decide +kernel, (parse_alike hread hread' halike).1⟩

/-- Two numbers for a password, and each is told. -/
theorem parse_quotes_numbers :
    let text (password : String) := "\x7b\"ANSIBLE_MODULE_ARGS\": \x7b\"hostname\": \"h\", \"password\": " ++ password ++
      "\x7d\x7d"
    ∃ document document', Json.read (text "1234") = .ok document ∧ Json.read (text "5678") = .ok document' ∧
      DocumentsAlike document document' ∧
      fault? (text "1234") = some "invalid module args: invalid type: integer `1234`, expected a string" ∧
      fault? (text "5678") = some "invalid module args: invalid type: integer `5678`, expected a string" := by
  intro text
  let document (password : Int) : Json := .object [(key, .object [("hostname", .string "h"),
    ("password", .number (.int password))])]
  have hread : Json.read (text "1234") = .ok (document 1234) := eq_ok_of_toOption (by decide +kernel)
  have hread' : Json.read (text "5678") = .ok (document 5678) := eq_ok_of_toOption (by decide +kernel)
  have harguments : ArgumentsAlike [("hostname", .string "h"), ("password", .number (.int 1234))]
      [("hostname", .string "h"), ("password", .number (.int 5678))] :=
    .cons ⟨rfl, Or.inl rfl⟩ (.cons ⟨rfl, Or.inr ⟨by decide, rfl⟩⟩ .nil)
  have halike : DocumentsAlike (document 1234) (document 5678) :=
    Or.inr ⟨_, _, rfl, rfl, .cons ⟨rfl, Or.inr ⟨rfl, _, _, rfl, rfl, harguments⟩⟩ .nil⟩
  exact ⟨_, _, hread, hread', halike, by decide +kernel, by decide +kernel⟩

end ArgumentFile

end OutOfBand
