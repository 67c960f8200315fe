import OutOfBand.CommandLine.Layers

/-! # Which layer decides

Every option of the connection comes from the first layer that has it: the command line, the selected profile, the
defaults. An option that the command line supplies hides the profile's, but for the host: a profile whose host is blank is
refused before the command line is looked at.
-/
namespace OutOfBand

/-- A variable that is not blank. -/
def Environment.nonblank? (env : Environment) (name : String) : Option String :=
  (env.lookup name).filter (!Text.isBlankText ·)

theorem Environment.bundle?_eq (env : Environment) :
    env.bundle? = (env.nonblank? "REQUESTS_CA_BUNDLE").or
      ((env.nonblank? "CURL_CA_BUNDLE").or (env.nonblank? "OMAM_CA_BUNDLE")) := by
  have hfirst : ∀ (name : String) (names : List String),
      ((name :: names).filterMap env.lookup).find? (!Text.isBlankText ·) =
        (env.nonblank? name).or ((names.filterMap env.lookup).find? (!Text.isBlankText ·)) := by
    intro name names
    rw [List.filterMap_cons, nonblank?]
    cases env.lookup name with
    | none => rfl
    | some value =>
      rw [List.find?_cons, Option.filter_some]
      cases Text.isBlankText value with
      | true => rfl
      | false => rfl
  rw [bundle?, bundleVariables, hfirst, hfirst, hfirst, List.filterMap_nil, List.find?_nil, Option.or_none]

/-- The bundle of the environment is the last layer of its option. -/
theorem Connection.withBundle_eq (c : Connection) (env : Environment) :
    c.withBundle env = { c with caPath := c.caPath.or (if c.validateCerts then env.bundle? else none) } := by
  obtain ⟨hostname, port, username, password, authToken, validateCerts, caPath, timeout, checkMode, vcenterUuid⟩ := c
  cases caPath with
  | some path => exact if_neg (by rw [Option.isNone_some, Bool.and_false]; exact Bool.false_ne_true)
  | none =>
    cases validateCerts with
    | true => rfl
    | false => rfl

namespace CommandLine.GlobalOptions

/-! ## Flags and their variables -/

/-- The value that a flag has on the innermost level that states it. -/
def flag? (levels : List Level) (name : String) : Option String := levels.reverse.findSome? (·.value? name)

/-- Every option is what its flag says, or else its variable. The two switches have no variable. -/
structure IsStatedBy (options : GlobalOptions) (env : Environment) (levels : List Level) : Prop where
  profile : options.profile = (flag? levels "profile").or (env.lookup "OPENMANAGE_PROFILE")
  hostname : options.hostname = (flag? levels "hostname").or (env.lookup "OPENMANAGE_HOSTNAME")
  port : options.port = ((flag? levels "port").or (env.lookup "OPENMANAGE_PORT")).bind port?
  username : options.username = (flag? levels "username").or (env.lookup "OPENMANAGE_USERNAME")
  password : options.password = (flag? levels "password").or (env.lookup "OPENMANAGE_PASSWORD")
  authToken : options.authToken = (flag? levels "auth-token").or (env.lookup "OPENMANAGE_AUTH_TOKEN")
  caPath : options.caPath = (flag? levels "ca-path").or (env.lookup "OPENMANAGE_CA_PATH")
  timeout : options.timeout = ((flag? levels "timeout").or (env.lookup "OPENMANAGE_TIMEOUT")).bind whole64?
  noValidateCerts : options.noValidateCerts = (globalCount levels "no-validate-certs" != 0)
  check : options.check = (globalCount levels "check" != 0)

theorem isStatedBy_ofLevels (env : Environment) (levels : List Level) : (ofLevels env levels).IsStatedBy env levels :=
  ⟨rfl, rfl, rfl, rfl, rfl, rfl, rfl, rfl, rfl, rfl⟩

/-! ## Layers -/

/-- The profile that the options name, or else the configuration. -/
def selected? (options : GlobalOptions) (config : Config) : Option Profile :=
  config.profiles.get? ((options.profile.or config.defaultProfile).getD "default")

/-- Every option of the connection is from the first layer that has it. -/
structure IsLayered (options : GlobalOptions) (defaults : Defaults) (env : Environment) (selected : Option Profile)
    (c : Connection) : Prop where
  hostname : options.hostname.or (selected.map Profile.hostname) = some c.hostname
  port : c.port = (options.port.or (selected.bind Profile.port)).getD 443
  username : c.username = options.username.or (selected.bind Profile.username)
  password : c.password = options.password.or (selected.bind fun p => (env.lookup "OPENMANAGE_PASSWORD").or p.password)
  authToken :
    c.authToken = options.authToken.or (selected.bind fun p => (env.lookup "OPENMANAGE_AUTH_TOKEN").or p.authToken)
  validateCerts :
    c.validateCerts = (!options.noValidateCerts && (selected.bind Profile.validateCerts).getD defaults.validateCerts)
  caPath : c.caPath = (options.caPath.or (selected.bind Profile.caPath)).or
    (if c.validateCerts then (env.nonblank? "REQUESTS_CA_BUNDLE").or
      ((env.nonblank? "CURL_CA_BUNDLE").or (env.nonblank? "OMAM_CA_BUNDLE")) else none)
  timeout : c.timeout = (options.timeout.or (selected.bind Profile.timeout)).getD defaults.timeout
  checkMode : c.checkMode = options.check
  vcenterUuid : c.vcenterUuid = selected.bind Profile.vcenterUuid

section

variable {options : GlobalOptions} {config : Config} {env : Environment}

theorem profile_of_selected? {p : Profile} (h : options.selected? config = some p) :
    config.profile options.profile env.configPath = .ok ((options.profile.or config.defaultProfile).getD "default", p) := by
  rw [Config.profile]
  rw [selected?] at h
  simp only [h]

theorem profile_of_missing (h : options.selected? config = none) :
    config.profile options.profile env.configPath =
      .error (.profileNotFound ((options.profile.or config.defaultProfile).getD "default") env.configPath) := by
  rw [Config.profile]
  rw [selected?] at h
  simp only [h]

theorem connectionIn_of_base {c : Connection} (h : options.base config env = .ok c) :
    options.connectionIn config env = .ok ((options.laidOver c).withBundle env) := by
  rw [connectionIn, h]
  rfl

theorem connectionIn_of_base_error {fault : Fault} (h : options.base config env = .error fault) :
    options.connectionIn config env = .error fault := by
  rw [connectionIn, h]
  rfl

/-- The layers below the command line: the profile, if there is one, and the defaults. -/
def underOptions (defaults : Defaults) (env : Environment) (selected : Option Profile) (host : String) : Connection where
  hostname := host
  port := (selected.bind Profile.port).getD 443
  username := selected.bind Profile.username
  password := selected.bind fun p => (env.lookup "OPENMANAGE_PASSWORD").or p.password
  authToken := selected.bind fun p => (env.lookup "OPENMANAGE_AUTH_TOKEN").or p.authToken
  validateCerts := (selected.bind Profile.validateCerts).getD defaults.validateCerts
  caPath := selected.bind Profile.caPath
  timeout := (selected.bind Profile.timeout).getD defaults.timeout
  checkMode := false
  vcenterUuid := selected.bind Profile.vcenterUuid

theorem isLayered_laidOver {defaults : Defaults} {selected : Option Profile} {host : String}
    (h : options.hostname = none → selected.map Profile.hostname = some host) :
    options.IsLayered defaults env selected
      ((options.laidOver (underOptions defaults env selected host)).withBundle env) := by
  have hhost : options.hostname.or (selected.map Profile.hostname) = some (options.hostname.getD host) := by
    cases hflag : options.hostname with
    | none => exact h hflag
    | some flag => rfl
  rw [Connection.withBundle_eq, Environment.bundle?_eq]
  exact ⟨hhost, Option.getD_or.symm, rfl, rfl, rfl, Bool.and_comm _ _, rfl, Option.getD_or.symm, rfl, rfl⟩

/-! ## Profiles that differ where an option is supplied -/

/-- What the profiles say differs at most in options that the command line or the environment supplies. -/
structure AgreesUnlessSupplied (options : GlobalOptions) (env : Environment) (p other : Profile) : Prop where
  hostname : options.hostname = none → other.hostname = p.hostname
  port : options.port = none → other.port = p.port
  username : options.username = none → other.username = p.username
  password : options.password = none → env.lookup "OPENMANAGE_PASSWORD" = none → other.password = p.password
  authToken : options.authToken = none → env.lookup "OPENMANAGE_AUTH_TOKEN" = none → other.authToken = p.authToken
  validateCerts : options.noValidateCerts = false → other.validateCerts = p.validateCerts
  caPath : options.caPath = none → other.caPath = p.caPath
  timeout : options.timeout = none → other.timeout = p.timeout
  vcenterUuid : other.vcenterUuid = p.vcenterUuid

theorem or_congr {α : Type} {flag below other : Option α} (h : flag = none → other = below) :
    flag.or other = flag.or below := by
  cases flag with
  | none => exact h rfl
  | some value => rfl

/-- The layers leave no choice: where the profiles agree, or something lies over them, the connection is the same. -/
theorem IsLayered.eq_of_agrees {defaults : Defaults} {p other : Profile} {c d : Connection}
    (hc : options.IsLayered defaults env (some p) c) (hd : options.IsLayered defaults env (some other) d)
    (h : options.AgreesUnlessSupplied env p other) : d = c := by
  have hhostname : d.hostname = c.hostname := by
    refine Option.some.inj ?_
    rw [← hc.hostname, ← hd.hostname]
    exact or_congr fun hnone => congrArg some (h.hostname hnone)
  have hport : d.port = c.port := by
    rw [hc.port, hd.port]
    exact congrArg (Option.getD · 443) (or_congr h.port)
  have husername : d.username = c.username := by
    rw [hc.username, hd.username]
    exact or_congr h.username
  have hpassword : d.password = c.password := by
    rw [hc.password, hd.password]
    exact or_congr fun hnone => or_congr (h.password hnone)
  have htoken : d.authToken = c.authToken := by
    rw [hc.authToken, hd.authToken]
    exact or_congr fun hnone => or_congr (h.authToken hnone)
  have hvalidate : d.validateCerts = c.validateCerts := by
    rw [hc.validateCerts, hd.validateCerts]
    cases hswitch : options.noValidateCerts with
    | true => rfl
    | false => rw [Option.bind_some, Option.bind_some, h.validateCerts hswitch]
  have hpath : d.caPath = c.caPath := by
    rw [hc.caPath, hd.caPath, hvalidate]
    exact congrArg (Option.or · _) (or_congr h.caPath)
  have htimeout : d.timeout = c.timeout := by
    rw [hc.timeout, hd.timeout]
    exact congrArg (Option.getD · defaults.timeout) (or_congr h.timeout)
  have hcheck : d.checkMode = c.checkMode := hd.checkMode.trans hc.checkMode.symm
  have huuid : d.vcenterUuid = c.vcenterUuid := by
    rw [hc.vcenterUuid, hd.vcenterUuid]
    exact h.vcenterUuid
  cases c
  cases d
  simp_all only

/-! ## Outcomes -/

/-- The profile that decides has a host of its own. -/
theorem connectionIn_of_selected (env : Environment) {p : Profile} (hselected : options.selected? config = some p)
    (hblank : Text.isBlankText p.hostname = false) :
    ∃ c, options.connectionIn config env = .ok c ∧ options.IsLayered config.defaults env (some p) c := by
  have hbase : options.base config env = .ok (underOptions config.defaults env (some p) p.hostname) := by
    rw [base, profile_of_selected? hselected]
    change (p.connection config.defaults env).mapError Fault.settings = _
    rw [Profile.connection, if_neg (by rw [hblank]; exact Bool.false_ne_true)]
    rfl
  exact ⟨_, connectionIn_of_base hbase, isLayered_laidOver fun _ => rfl⟩

theorem connectionIn_of_blank {p : Profile} (hselected : options.selected? config = some p)
    (hblank : Text.isBlankText p.hostname = true) :
    options.connectionIn config env = .error (.settings (.validation "hostname" "must not be empty")) := by
  refine connectionIn_of_base_error ?_
  rw [base, profile_of_selected? hselected]
  change (p.connection config.defaults env).mapError Fault.settings = _
  rw [Profile.connection, if_pos hblank]
  rfl

theorem connectionIn_of_named {name : String} (hselected : options.selected? config = none)
    (hname : options.profile = some name) :
    options.connectionIn config env = .error (.settings (.profileNotFound name env.configPath)) := by
  refine connectionIn_of_base_error ?_
  rw [base, profile_of_missing hselected]
  simp [hname]

theorem connectionIn_of_noProfile {host : String} (hselected : options.selected? config = none)
    (hname : options.profile = none) (hhost : options.hostname = some host) :
    ∃ c, options.connectionIn config env = .ok c ∧ options.IsLayered config.defaults env none c := by
  have hbase : options.base config env = .ok (underOptions config.defaults env none host) := by
    rw [base, profile_of_missing hselected]
    simp only [hname, hhost]
    rfl
  refine ⟨_, connectionIn_of_base hbase, isLayered_laidOver fun hnone => ?_⟩
  rw [hhost] at hnone
  cases hnone

theorem connectionIn_of_noHost (hselected : options.selected? config = none) (hname : options.profile = none)
    (hhost : options.hostname = none) : options.connectionIn config env = .error (.noHost env.configPath) := by
  refine connectionIn_of_base_error ?_
  rw [base, profile_of_missing hselected]
  simp [hname, hhost]

/-- Profiles that differ only in what is supplied have the same outcome exactly if both have a host or neither has. -/
theorem connectionIn_eq_iff {changed : Config} {p other : Profile} (hdefaults : changed.defaults = config.defaults)
    (hselected : options.selected? config = some p) (hother : options.selected? changed = some other)
    (h : options.AgreesUnlessSupplied env p other) :
    options.connectionIn changed env = options.connectionIn config env ↔
      Text.isBlankText other.hostname = Text.isBlankText p.hostname := by
  cases hblank : Text.isBlankText p.hostname with
  | true =>
    rw [connectionIn_of_blank hselected hblank]
    cases hblankOther : Text.isBlankText other.hostname with
    | true => exact iff_of_true (connectionIn_of_blank hother hblankOther) rfl
    | false =>
      obtain ⟨d, hd, _⟩ := connectionIn_of_selected env hother hblankOther
      rw [hd]
      exact iff_of_false (by intro heq; cases heq) (by decide)
  | false =>
    obtain ⟨c, hc, hlayered⟩ := connectionIn_of_selected env hselected hblank
    rw [hc]
    cases hblankOther : Text.isBlankText other.hostname with
    | true =>
      rw [connectionIn_of_blank hother hblankOther]
      exact iff_of_false (by intro heq; cases heq) (by decide)
    | false =>
      obtain ⟨d, hd, hlayeredOther⟩ := connectionIn_of_selected env hother hblankOther
      rw [hdefaults] at hlayeredOther
      rw [hd, hlayered.eq_of_agrees hlayeredOther h]
      exact iff_of_true rfl rfl

end

/-- What becomes of the options under a configuration. -/
structure IsResolvedInLayers (options : GlobalOptions) (config : Config) (env : Environment) : Prop where
  stated : ∀ levels, options = ofLevels env levels → options.IsStatedBy env levels
  profile : ∀ p, options.selected? config = some p → Text.isBlankText p.hostname = false →
    ∃ c, options.connectionIn config env = .ok c ∧ options.IsLayered config.defaults env (some p) c
  noProfile : ∀ host, options.selected? config = none → options.profile = none → options.hostname = some host →
    ∃ c, options.connectionIn config env = .ok c ∧ options.IsLayered config.defaults env none c
  blank : ∀ p, options.selected? config = some p → Text.isBlankText p.hostname = true →
    options.connectionIn config env = .error (.settings (.validation "hostname" "must not be empty"))
  missing : ∀ name, options.selected? config = none → options.profile = some name →
    options.connectionIn config env = .error (.settings (.profileNotFound name env.configPath))
  noHost : options.selected? config = none → options.profile = none → options.hostname = none →
    options.connectionIn config env = .error (.noHost env.configPath)
  hidden : ∀ (changed : Config) (p other : Profile), changed.defaults = config.defaults →
    options.selected? config = some p → options.selected? changed = some other →
    options.AgreesUnlessSupplied env p other →
      (options.connectionIn changed env = options.connectionIn config env ↔
        Text.isBlankText other.hostname = Text.isBlankText p.hostname)

/-- Every option comes from the first layer that has it, and what the command line supplies hides what the profile says,
except for one thing: whether the profile's host is blank. -/
theorem connectionIn_layers (options : GlobalOptions) (config : Config) (env : Environment) :
    options.IsResolvedInLayers config env where
  stated levels h := h ▸ isStatedBy_ofLevels env levels
  profile _ hselected hblank := connectionIn_of_selected _ hselected hblank
  noProfile _ hselected hname hhost := connectionIn_of_noProfile hselected hname hhost
  blank _ hselected hblank := connectionIn_of_blank hselected hblank
  missing _ hselected hname := connectionIn_of_named hselected hname
  noHost := connectionIn_of_noHost
  hidden _ _ _ hdefaults hselected hother h := connectionIn_eq_iff hdefaults hselected hother h

/-- A profile without a host is refused though the command line names the host. -/
theorem connectionIn_of_hidden_blank :
    ∃ (options : GlobalOptions) (p other : Profile),
      options = ⟨none, some "10.0.0.1", none, none, none, none, false, none, none, false, .json, 0⟩ ∧
      p = ⟨"10.0.0.2", none, none, none, none, none, none, none, none⟩ ∧ other = { p with hostname := " " } ∧
      options.AgreesUnlessSupplied [] p other ∧
      options.connectionIn ⟨some "default", .builtin, [("default", p)]⟩ [] = .ok (.new "10.0.0.1") ∧
      options.connectionIn ⟨some "default", .builtin, [("default", other)]⟩ [] =
        .error (.settings (.validation "hostname" "must not be empty")) := by
  refine ⟨_, _, _, rfl, rfl, rfl, ?_, rfl, rfl⟩
  exact ⟨nofun, fun _ => rfl, fun _ => rfl, fun _ _ => rfl, fun _ _ => rfl, fun _ => rfl, fun _ => rfl,
    fun _ => rfl, rfl⟩

end CommandLine.GlobalOptions

end OutOfBand
