import OutOfBand.CommandLine.Command
import OutOfBand.CommandLine.Fault

/-! # Layers of connection options

Options of the command line go before those of the profile, and these before the defaults. A profile
that is asked for by name has to exist; without any profile the command line has to name the host.
-/
namespace OutOfBand.CommandLine

namespace GlobalOptions

/-- The connection before the options of the command line. -/
def base (options : GlobalOptions) (config : Config) (env : Environment) : Except Fault Connection :=
  match config.profile options.profile env.configPath with
  | .ok (_, profile) => (profile.connection config.defaults env).mapError Fault.settings
  | .error e =>
    if options.profile.isSome then .error (.settings e)
    else
      match options.hostname with
      | none => .error (.noHost env.configPath)
      | some host =>
        .ok { Connection.new host with
          timeout := config.defaults.timeout
          validateCerts := config.defaults.validateCerts }

/-- Lay the options over a connection. -/
def laidOver (options : GlobalOptions) (c : Connection) : Connection :=
  { c with
    hostname := options.hostname.getD c.hostname
    port := options.port.getD c.port
    username := options.username.or c.username
    password := options.password.or c.password
    authToken := options.authToken.or c.authToken
    validateCerts := c.validateCerts && !options.noValidateCerts
    caPath := options.caPath.or c.caPath
    timeout := options.timeout.getD c.timeout
    checkMode := c.checkMode || options.check }

/-- The connection under a configuration that has been loaded. -/
def connectionIn (options : GlobalOptions) (config : Config) (env : Environment) : Except Fault Connection := do
  .ok ((options.laidOver (← options.base config env)).withBundle env)

/-- The connection of a command. -/
def connection (options : GlobalOptions) (files : FileTree) (env : Environment) : Except Fault Connection := do
  options.connectionIn (← (Config.load files env).mapError Fault.settings) env

end GlobalOptions

end OutOfBand.CommandLine
