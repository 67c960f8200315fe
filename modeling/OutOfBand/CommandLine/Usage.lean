import OutOfBand.CommandLine.Grammar

/-! # Usage texts

A short help for every command, and completion scripts that offer the names of the commands.
-/
namespace OutOfBand.CommandLine

def OptionRule.usage (option : OptionRule) : String :=
  let short := match option.short with
    | some c => s!"-{c}, "
    | none => "    "
  let value := match option.action with
    | .value _ => " <VALUE>"
    | _ => ""
  s!"  {short}--{option.long}{value}"

/-- How a command is called. -/
def callLine (path : List String) (rule : CommandRule) : String :=
  String.intercalate " " (["Usage:"] ++ path ++ ["[OPTIONS]"] ++
    rule.positionals.map (fun positional => s!"<{positional.name}>") ++
    (if rule.commands.isEmpty then [] else ["<COMMAND>"]))

/-- The help of a command. -/
def usage (path : List String) (rule : CommandRule) : String :=
  let commands := if rule.commands.isEmpty then []
    else ["", "Commands:"] ++ rule.commands.map (fun command => s!"  {command.name}")
  String.intercalate "\n" ([callLine path rule] ++ commands ++ ["", "Options:"] ++
    (rule.options ++ globalOptions).map OptionRule.usage) ++ "\n"

/-- A script that completes the name of a command. -/
def completionScript (shell : String) : String :=
  let words := String.intercalate " " (root.commands.map CommandRule.name)
  match shell with
  | "bash" => s!"complete -W '{words}' {root.name}\n"
  | "elvish" => s!"set edit:completion:arg-completer[{root.name}] = \x7b|@_| put {words}\x7d\n"
  | "fish" => s!"complete -c {root.name} -f -a '{words}'\n"
  | "powershell" =>
    s!"Register-ArgumentCompleter -Native -CommandName {root.name} -ScriptBlock \x7b -split '{words}' \x7d\n"
  | _ => s!"compctl -k ({words}) {root.name}\n"

end OutOfBand.CommandLine
