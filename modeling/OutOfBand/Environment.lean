import OutOfBand.Fields

/-! # Environments

The environment of a process, and the places that it names.
-/
namespace OutOfBand

/-- Variables by name. -/
abbrev Environment := Fields String

namespace Environment

def lookup (env : Environment) (name : String) : Option String := env.get? name

/-- A path below another. -/
def below (base name : String) : String :=
  if base.toList.getLast? == some '/' then base ++ name else base ++ "/" ++ name

/-- The directory of the user's configuration. -/
def configHome (env : Environment) : String :=
  match (env.lookup "XDG_CONFIG_HOME").filter (·.toList.head? == some '/') with
  | some directory => directory
  | none => below ((env.lookup "HOME").getD "") ".config"

/-- The file of profiles and defaults. -/
def configPath (env : Environment) : String := below (below env.configHome "openmanage") "config.toml"

end Environment

end OutOfBand
