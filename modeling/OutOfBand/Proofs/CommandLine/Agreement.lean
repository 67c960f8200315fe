import OutOfBand.CommandLine.Exit
import OutOfBand.Proofs.ArgumentFile
import OutOfBand.Proofs.Json.Equality
import OutOfBand.Proofs.Operation.Statement
import OutOfBand.Proofs.Report

/-! # Subcommands and modules

An operation can be asked for by a subcommand and by a module with an argument file. Where the two name the same
connection and the same options they do the same.
-/
namespace OutOfBand

/-! ## Connections -/

namespace Connection

theorem withBundle_withBundle (c : Connection) (env : Environment) :
    (c.withBundle env).withBundle env = c.withBundle env := by
  by_cases hneeded : (c.validateCerts && c.caPath.isNone) = true
  · have hfilled : c.withBundle env = { c with caPath := env.bundle? } := by rw [withBundle, if_pos hneeded]
    rw [hfilled, withBundle]
    split
    · rfl
    · rfl
  · have hkept : c.withBundle env = c := by rw [withBundle, if_neg hneeded]
    rw [hkept, hkept]

theorem withBundle_vcenterUuid (c : Connection) (uuid : Option String) (env : Environment) :
    Connection.withBundle { c with vcenterUuid := uuid } env = { c.withBundle env with vcenterUuid := uuid } := by
  unfold withBundle
  split
  · rfl
  · rfl

end Connection

/-- The bundle of the environment has been filled in already. -/
theorem CommandLine.GlobalOptions.withBundle_connection {options : GlobalOptions} {files : FileTree} {env : Environment}
    {c : Connection} (h : options.connection files env = .ok c) : c.withBundle env = c := by
  obtain ⟨config, _, h⟩ := bind_eq_ok h
  obtain ⟨base, _, h⟩ := bind_eq_ok h
  cases h
  exact Connection.withBundle_withBundle _ env

/-! ## Modules -/

namespace Automation

/-- The modules for operations of a kind. -/
def modulesFor : OperationKind → List String
  | .deleteJob => ["idrac_lifecycle_controller_jobs", "dellemc_delete_lc_job"]
  | .clearQueue => ["idrac_lifecycle_controller_jobs", "dellemc_delete_lc_job_queue"]
  | .jobStatus => ["idrac_lifecycle_controller_job_status_info", "dellemc_get_lc_job_status"]
  | .power => ["redfish_powerstate"]
  | .inventory => ["dellemc_idrac_lc_attributes"]
  | .listing => ["ome_job_info"]
  | .consoles => ["omevv_vcenter_info"]

/-- A module is one for the operation that its arguments state. The module of all jobs clears the queue if no job is
named. -/
structure States (name : String) (arguments : Object) (op : Operation) : Prop where
  isFor : name ∈ modulesFor op.kind
  options : op.IsStatedIn arguments
  queue : name = "idrac_lifecycle_controller_jobs" → op = .clearQueue →
    Fields.get? arguments "job_id" = none ∨ Fields.get? arguments "job_id" = some .null

theorem States.kind?_eq {name : String} {file : ArgumentFile} {op : Operation} (h : States name file.arguments op) :
    kind? name file = some op.kind := by
  have hname := h.isFor
  have hoptions := h.options
  cases op with
  | deleteJob jobId =>
    have hjob : (file.get? "job_id").isSome = true := by
      obtain ⟨value, hget, hread⟩ := hoptions
      cases value with
      | string s =>
        rw [ArgumentFile.get?, hget]
        rfl
      | _ => cases hread
    simp only [Operation.kind, modulesFor, List.mem_cons, List.not_mem_nil, or_false] at hname
    rcases hname with rfl | rfl
    · simp only [kind?, hjob, ↓reduceIte, Operation.kind]
    · rfl
  | clearQueue =>
    simp only [Operation.kind, modulesFor, List.mem_cons, List.not_mem_nil, or_false] at hname
    rcases hname with rfl | rfl
    · have hjob : (file.get? "job_id").isSome = false := by
        rcases h.queue rfl rfl with hnone | hnull
        · rw [ArgumentFile.get?, hnone]
          rfl
        · rw [ArgumentFile.get?, hnull]
          rfl
      simp only [kind?, hjob, Bool.false_eq_true, ↓reduceIte, Operation.kind]
    · rfl
  | jobStatus jobId =>
    simp only [Operation.kind, modulesFor, List.mem_cons, List.not_mem_nil, or_false] at hname
    rcases hname with rfl | rfl
    · rfl
    · rfl
  | power reset resource =>
    obtain rfl := List.mem_singleton.mp hname
    rfl
  | inventory state =>
    obtain rfl := List.mem_singleton.mp hname
    rfl
  | listing jobId options =>
    obtain rfl := List.mem_singleton.mp hname
    rfl
  | consoles address =>
    obtain rfl := List.mem_singleton.mp hname
    rfl

end Automation

/-! ## Runs -/

/-- Operations that do the same are performed alike. -/
theorem Operation.DoesSameAs.perform {op op' : Operation} (h : op.DoesSameAs op') (c : Connection) (files : FileTree)
    (wire : Wire) : op.perform c files wire = op'.perform c files wire := by
  unfold Operation.perform
  rw [h.kind]
  split
  · rfl
  · rw [h.run]

/-- A module on arguments that state an operation performs it on the connection of its file. -/
theorem Automation.States.run {name path : String} {files : FileTree} {file : ArgumentFile} {op : Operation}
    (h : States name file.arguments op) (hfile : ArgumentFile.load files path = .ok file) (env : Environment)
    (wire : Wire) :
    Automation.run name path files env wire =
      match op.perform (file.connection.withBundle env) files wire with
      | (.error f, wire) => (.ok (.ofFailure f), wire)
      | (.ok report, wire) => (.ok report, wire) := by
  obtain ⟨read, hread, hsame⟩ := h.options.decode_ok (ArgumentFile.load_sorted hfile)
  have hoperation : file.operation op.kind = .ok read := by
    rw [ArgumentFile.operation, hread]
    rfl
  simp only [run_of_load hfile, h.kind?_eq, runKind, hoperation, hsame.perform]
  generalize op.perform (file.connection.withBundle env) files wire = ended
  rcases ended with ⟨result, later⟩
  cases result with
  | error f => rfl
  | ok report => rfl

namespace CommandLine

/-- A subcommand and a module on an argument file that states the same options, those of the connection and those of
the operation, do the same: where the options make a session they come to the same report and send the same, and where
they do not neither sends anything, the module ends in the report of a failure, and the subcommand gives the same text
for its fault. The bundle that the environment names fills in for both. -/
theorem run_agrees {invocation invocation' : Invocation} {op : Operation} {uuid : Option String} {name path : String}
    (hdevice : invocation.command = .device op uuid) (hmodule : invocation'.command = .automation name path)
    {files : FileTree} {env : Environment} {base c : Connection}
    (hbase : invocation.options.connection files env = .ok base)
    (hc : { base with vcenterUuid := uuid.or base.vcenterUuid } = c)
    {file : ArgumentFile} (hfile : ArgumentFile.load files path = .ok file)
    (hconnection : file.connection.withBundle env = c.withBundle env)
    (hstates : Automation.States name file.arguments op) (wire : Wire) :
    (∀ config, c.sessionConfig op.kind.family = .ok config →
      ∃ report after, invocation.run files env wire = (.document report, after) ∧
        invocation'.run files env wire = (.document report, after)) ∧
    ∀ f, c.sessionConfig op.kind.family = .error f →
      ∃ report fault, invocation.run files env wire = (.fault fault, wire) ∧
        invocation'.run files env wire = (.document report, wire) ∧ report.isFailed = true ∧
        fault.message? = some ("Invalid options: " ++ report.message) := by
  have hbundle : file.connection.withBundle env = c := by
    rw [hconnection, ← hc, Connection.withBundle_vcenterUuid, GlobalOptions.withBundle_connection hbase]
  have hautomation := hstates.run hfile env wire
  rw [hbundle] at hautomation
  constructor
  · intro config hconfig
    rcases hended : op.run c.checkMode files config wire with ⟨report, after⟩
    have hperform : op.perform c files wire = (.ok report, after) := by
      simp only [Operation.perform, hconfig, hended]
    have hrun : runDevice op uuid invocation.options files env wire = (.ok report, after) := by
      unfold runDevice
      rw [hbase]
      simp only [hc, hperform]
    rw [hperform] at hautomation
    refine ⟨report, after, ?_, ?_⟩
    · simp only [Invocation.run, hdevice, hrun]
    · simp only [Invocation.run, hmodule, hautomation]
  · intro f hconfig
    have hperform : op.perform c files wire = (.error f, wire) := by
      simp only [Operation.perform, hconfig]
    have hrun : runDevice op uuid invocation.options files env wire = (.error (.validation f.message), wire) := by
      unfold runDevice
      rw [hbase]
      simp only [hc, hperform]
    rw [hperform] at hautomation
    refine ⟨.ofFailure f, .validation f.message, ?_, ?_, Report.isFailed_ofFailure f, ?_⟩
    · simp only [Invocation.run, hdevice, hrun]
    · simp only [Invocation.run, hmodule, hautomation]
    · rw [Report.message_ofFailure]
      rfl

/-- A listing that the words page by an empty record and that the file does not page at all. -/
theorem run_agrees_listing :
    let words := ["--hostname", "h", "--username", "root", "--password", "calvin", "ome-job-info"]
    let words' := ["module", "ome_job_info", "/args.json"]
    let raw := "\x7b\"ANSIBLE_MODULE_ARGS\": \x7b\"hostname\": \"h\", \"job_id\": null, \"password\": \"calvin\", " ++
      "\"username\": \"root\"\x7d\x7d"
    let files := FileTree.empty.withFile "/args.json" (Text.encodeUtf8 raw)
    let op : Operation := .listing none (some ⟨none, none, none⟩)
    ∃ invocation invocation' file, Invocation.parse [] words = .ok invocation ∧ invocation.command = .device op none ∧
      Invocation.parse [] words' = .ok invocation' ∧ invocation'.command = .automation "ome_job_info" "/args.json" ∧
      ArgumentFile.load files "/args.json" = .ok file ∧ Automation.States "ome_job_info" file.arguments op ∧
      ∀ wire, ∃ report after, invocation.run files [] wire = (.document report, after) ∧
        invocation'.run files [] wire = (.document report, after) := by
  intro words words' raw files op
  let c : Connection := { Connection.new "h" with username := some "root", password := some "calvin" }
  have hwords : (Invocation.parse [] words).toOption.map (fun invocation => (invocation.command,
      (invocation.options.connection files []).toOption)) = some (.device op none, some c) := by decide +kernel
  have hwords' : (Invocation.parse [] words').toOption.map Invocation.command =
      some (.automation "ome_job_info" "/args.json") := by decide +kernel
  have hraw : (ArgumentFile.load files "/args.json").toOption.map (fun file => (file.connection, file.arguments)) =
      some (c, [("hostname", .string "h"), ("job_id", .null), ("password", .string "calvin"),
        ("username", .string "root")]) := by decide +kernel
  have hsession : (c.sessionConfig .ome).isOk = true := by decide +kernel
  obtain ⟨invocation, hparse, hread⟩ := Option.map_eq_some_iff.mp hwords
  obtain ⟨hdevice, hc⟩ := Prod.mk.inj hread
  obtain ⟨invocation', hparse', hmodule⟩ := Option.map_eq_some_iff.mp hwords'
  obtain ⟨file, hfile, hread⟩ := Option.map_eq_some_iff.mp hraw
  obtain ⟨hconnection, harguments⟩ := Prod.mk.inj hread
  have hstates : Automation.States "ome_job_info" file.arguments op := by
    rw [harguments]
    exact ⟨List.mem_singleton_self _, ⟨rfl, none, rfl, rfl⟩, fun hname => absurd hname (by decide)⟩
  refine ⟨invocation, invocation', file, eq_ok_of_toOption hparse, hdevice, eq_ok_of_toOption hparse', hmodule,
    eq_ok_of_toOption hfile, hstates, fun wire => ?_⟩
  have hbundle : file.connection.withBundle [] = c.withBundle [] := by rw [hconnection]
  have hagree := run_agrees hdevice hmodule (eq_ok_of_toOption hc) (c := c) rfl (eq_ok_of_toOption hfile) hbundle hstates
    wire
  cases hconfig : c.sessionConfig .ome with
  | error f =>
    rw [hconfig] at hsession
    cases hsession
  | ok config => exact hagree.1 config hconfig

end CommandLine

end OutOfBand
