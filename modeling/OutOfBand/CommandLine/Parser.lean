import OutOfBand.CommandLine.Usage
import OutOfBand.Environment

/-! # Parsing the command line

The words of a command line are taken in order, level by level. A value is checked when the next word
shows that it is complete; where a level ends, its variables are read and its rules are checked, those
of the inner levels first.
-/
namespace OutOfBand.CommandLine

/-- Why a command line is not carried out. -/
inductive Stop where
  | help (usage : String)
  | version (name : String)
  /-- Nothing was given and a command is missing, and help is shown for it. -/
  | helpInstead (usage : String)
  | missingCommand
  | unknownCommand
  | unknownArgument
  | invalidValue
  | refusedValue
  | unneededValue
  | conflict
  | missingArgument
deriving DecidableEq, Repr

abbrev Parsed := Except Stop

/-! ## Values -/

/-- A whole number with an optional sign. -/
def signed? : List Char → Option Int
  | '-' :: digits => (whole? 10 digits).map (fun n => -(n : Int))
  | '+' :: digits => (whole? 10 digits).map Int.ofNat
  | digits => (whole? 10 digits).map Int.ofNat

/-- A whole number with an optional plus. -/
def unsigned? : List Char → Option Nat
  | '+' :: digits => whole? 10 digits
  | digits => whole? 10 digits

def port? (value : String) : Option Nat :=
  (signed? value.toList).bind (fun n => if 0 ≤ n ∧ n < Nat.pow 2 16 then some n.toNat else none)

def whole64? (value : String) : Option Nat := (unsigned? value.toList).filter (· < Nat.pow 2 64)

def ValueKind.check (kind : ValueKind) (value : String) : Parsed Unit :=
  match kind with
  | text => .ok ()
  | path => if value.isEmpty then .error .invalidValue else .ok ()
  | port => if (port? value).isSome then .ok () else .error .refusedValue
  | whole => if (whole64? value).isSome then .ok () else .error .refusedValue
  | choice names => if names.contains value then .ok () else .error .invalidValue

/-! ## One level -/

/-- A value that is still open: whose it is, and the value once it has come. -/
structure Pending where
  name : String
  kind : ValueKind
  value : Option String

/-- What one level of commands has been given. -/
structure Level where
  rule : CommandRule
  /-- The names of the commands down to this one. -/
  path : List String
  /-- Values by option or positional name, in order of appearance. -/
  given : List (String × String)
  counts : List (String × Nat)
  pending : Option Pending
  /-- Only positional arguments follow. -/
  isTrailing : Bool
  position : Nat

namespace Level

def new (path : List String) (rule : CommandRule) : Level := ⟨rule, path, [], [], none, false, 0⟩

def options (level : Level) : List OptionRule := level.rule.options ++ globalOptions

def value? (level : Level) (name : String) : Option String := level.given.lookup name

def count (level : Level) (name : String) : Nat := (level.counts.lookup name).getD 0

def isGiven (level : Level) (name : String) : Bool :=
  (level.value? name).isSome || (level.counts.lookup name).isSome

/-- Take a checked value; none may be given twice. -/
def give (level : Level) (name : String) (kind : ValueKind) (value : String) : Parsed Level := do
  if level.isGiven name then .error .conflict
  else
    kind.check value
    .ok { level with given := level.given ++ [(name, value)] }

/-- Settle the open value. -/
def settle (level : Level) : Parsed Level :=
  match level.pending with
  | none => .ok level
  | some ⟨_, _, none⟩ => .error .invalidValue
  | some ⟨name, kind, some value⟩ => { level with pending := none }.give name kind value

/-- Whether the next word is the value of an option. -/
def expectsValue (level : Level) : Bool :=
  match level.pending with
  | some pending => pending.value.isNone
  | none => false

def takeValue (level : Level) (value : String) : Level :=
  { level with pending := level.pending.map (fun pending => { pending with value := some value }) }

def mark (level : Level) (name : String) (repeats : Bool) : Parsed Level :=
  if repeats then .ok { level with counts := (name, min 255 (level.count name + 1)) :: level.counts }
  else if level.isGiven name then .error .conflict
  else .ok { level with counts := (name, 1) :: level.counts }

/-- An option without a value of its own. -/
def react (level : Level) (option : OptionRule) : Parsed Level := do
  let level ← level.settle
  match option.action with
  | .help => .error (.help (usage level.path level.rule))
  | .version => .error (.version (String.intercalate "-" level.path))
  | .flag => level.mark option.long false
  | .count => level.mark option.long true
  | .value kind => .ok { level with pending := some ⟨option.long, kind, none⟩ }

/-- An option with a value attached. -/
def attach (level : Level) (option : OptionRule) (value : String) : Parsed Level := do
  match option.action with
  | .value kind =>
    let level ← level.settle
    level.give option.long kind value
  | _ => .error .unneededValue

/-- A word behind two dashes. -/
def long (level : Level) (word : List Char) : Parsed Level :=
  let name := String.ofList (word.takeWhile (· != '='))
  match level.options.find? (fun option => option.long == name) with
  | none => .error .unknownArgument
  | some option =>
    match word.dropWhile (· != '=') with
    | [] => level.react option
    | _ :: value => level.attach option (String.ofList value)

/-- Letters behind one dash; what follows an option with a value is its value. -/
def shorts (level : Level) : List Char → Parsed Level
  | [] => .ok level
  | c :: rest =>
    match level.options.find? (fun option => option.short == some c) with
    | none => .error .unknownArgument
    | some option =>
      match option.action, rest with
      | .value _, '=' :: value => level.attach option (String.ofList value)
      | .value _, v :: value => level.attach option (String.ofList (v :: value))
      | _, rest => do
        let level ← level.react option
        level.shorts rest

/-- Why a word that is neither an option nor a command does not fit. -/
def misfit (level : Level) (word : String) : Stop :=
  if level.isTrailing && ((level.rule.find? word).isSome || (word == "help" && !level.rule.commands.isEmpty)) then
    .unknownArgument
  else if level.rule.commands.isEmpty then .unknownArgument
  else .unknownCommand

/-- A word that has to be a positional argument. -/
def positional (level : Level) (word : String) : Parsed Level :=
  match level.rule.positionals[level.position]? with
  | none => .error (level.misfit word)
  | some rule => do
    let level ← level.settle
    .ok { level with pending := some ⟨rule.name, rule.kind, some word⟩, position := level.position + 1 }

/-! ## The end of a level -/

/-- Read the variables of the options that the level has not been given. -/
def readVariables (env : Environment) (level : Level) : List OptionRule → Parsed Level
  | [] => .ok level
  | option :: rest =>
    match option.action, option.envName.bind env.lookup with
    | .value kind, some value =>
      if level.isGiven option.long then level.readVariables env rest
      else do
        let level ← level.give option.long kind value
        level.readVariables env rest
    | _, _ => level.readVariables env rest

def isExplicit (level : Level) : Bool := !level.given.isEmpty || !level.counts.isEmpty

def checkRules (level : Level) : Parsed Unit :=
  if level.rule.conflicts.any (fun pair => level.isGiven pair.1 && level.isGiven pair.2) then .error .conflict
  else if level.rule.required.all level.isGiven then .ok ()
  else .error .missingArgument

/-- Check a level that has got all its words. -/
def finish (env : Environment) (hasCommand : Bool) (level : Level) : Parsed Level := do
  let level ← level.settle
  let full ← level.readVariables env level.options
  if !hasCommand && !level.rule.commands.isEmpty then
    .error (if full.isExplicit then .missingCommand else .helpInstead (usage level.path level.rule))
  else
    full.checkRules
    .ok level

end Level

/-! ## All levels -/

/-- Help on the command that the words name. -/
def helpOn (path : List String) (rule : CommandRule) : List String → Stop
  | [] => .help (usage path rule)
  | word :: rest =>
    match rule.find? word with
    | some command => helpOn (path ++ [word]) command rest
    | none =>
      if word == "help" && !rule.commands.isEmpty then helpOn (path ++ [word]) (.group word []) rest
      else .unknownCommand

/-- Whether a word looks like an option; a dash by itself does not. -/
def isOptionWord (word : String) : Bool :=
  match word.toList with
  | '-' :: _ :: _ => true
  | _ => false

/-- Take the words from a level on. The levels come out from the outermost to the innermost. -/
def levels (env : Environment) (level : Level) : List String → Parsed (List Level)
  | [] => do .ok [← level.finish env false]
  | word :: rest => do
    if level.isTrailing then
      let level ← level.positional word
      levels env level rest
    else if level.expectsValue && !isOptionWord word then levels env (level.takeValue word) rest
    else
      match level.rule.find? word with
      | some command =>
        let inner ← levels env (.new (level.path ++ [command.name]) command) rest
        let level ← level.finish env true
        .ok (level :: inner)
      | none =>
        if word == "help" && !level.rule.commands.isEmpty then .error (helpOn level.path level.rule rest)
        else
          match word.toList with
          | ['-', '-'] => levels env { level with isTrailing := true } rest
          | '-' :: '-' :: name =>
            let level ← level.long name
            levels env level rest
          | '-' :: c :: name =>
            let level ← level.shorts (c :: name)
            levels env level rest
          | _ =>
            let level ← level.positional word
            levels env level rest

/-- Parse the words behind the program's name. -/
def parse (env : Environment) (words : List String) : Parsed (List Level) :=
  levels env (.new [root.name] root) words

end OutOfBand.CommandLine
