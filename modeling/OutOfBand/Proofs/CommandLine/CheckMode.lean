import OutOfBand.Proofs.CommandLine.Performance
import OutOfBand.Proofs.Json.Decode

/-! # Check mode on the command line

The mode of a command for a device takes in the flag, and the mode of an automation module is that of its
argument file alone. So what is sent by a run that was asked to change nothing is harmless, but for the
one case in which the flag comes with a module whose file does not ask for check mode too, and then the
change is sent if there is one to make.
-/
namespace OutOfBand

open Http Session

/-! ## Where the mode comes from -/

namespace ArgumentFile

/-- Some arguments ask for check mode, under one of its two spellings. -/
def AskForCheck (arguments : Object) : Prop :=
  arguments.get? "check_mode" = some (.bool true) ∨ arguments.get? "_ansible_check_mode" = some (.bool true)

/-- The arguments that stand in a file, whether or not they make options. -/
def stated? (files : FileTree) (path : String) : Option Object := do
  let text ← (files.readText path).toOption
  let document ← (Json.read text).toOption
  (argumentsOf document).toOption

end ArgumentFile

namespace Connection

theorem rule?_checkMode {key : String} (h : key = "check_mode" ∨ key = "_ansible_check_mode") :
    ∃ rule, shape.rule? key = some rule ∧ rule.name = "check_mode" := by
  have hname : (shape.rule? key).map FieldRule.name = some "check_mode" := by
    rcases h with rfl | rfl
    · decide +kernel
    · decide +kernel
  exact Option.map_eq_some_iff.mp hname

theorem eq_of_rule?_checkMode {key : String} {rule : FieldRule} (h : shape.rule? key = some rule)
    (hname : rule.name = "check_mode") : key = "check_mode" ∨ key = "_ansible_check_mode" := by
  obtain ⟨hmem, hspelled⟩ := RecordShape.mem_of_rule? h
  simp only [shape, List.mem_cons, List.not_mem_nil, or_false] at hmem
  rcases hmem with rfl | rfl | rfl | rfl | rfl | rfl | rfl | rfl | rfl | rfl
  all_goals first
    | exact absurd hname (by decide)
    | simpa [FieldRule.isSpelled, FieldRule.of] using hspelled

/-- The options that were read from an object ask for check mode exactly if the object does. -/
theorem decode_checkMode_iff {members : Object} {c : Connection} (h : decode (.object members) = .ok c) :
    c.checkMode = true ↔ ArgumentFile.AskForCheck members := by
  obtain ⟨seen, hseen, h⟩ := bind_eq_ok h
  have hchecked : fieldOr seen "check_mode" Json.boolean false = .ok c.checkMode := by
    obtain ⟨hostname, _, h⟩ := bind_eq_ok h
    obtain ⟨port, _, h⟩ := bind_eq_ok h
    obtain ⟨username, _, h⟩ := bind_eq_ok h
    obtain ⟨password, _, h⟩ := bind_eq_ok h
    obtain ⟨authToken, _, h⟩ := bind_eq_ok h
    obtain ⟨validateCerts, _, h⟩ := bind_eq_ok h
    obtain ⟨caPath, _, h⟩ := bind_eq_ok h
    obtain ⟨timeout, _, h⟩ := bind_eq_ok h
    obtain ⟨checkMode, hcheck, h⟩ := bind_eq_ok h
    obtain ⟨vcenterUuid, _, h⟩ := bind_eq_ok h
    cases h
    exact hcheck
  have hiff : c.checkMode = true ↔ Fields.get? seen "check_mode" = some (.bool true) := by
    unfold fieldOr at hchecked
    split at hchecked
    · rename_i value hvalue
      rw [hvalue]
      cases value with
      | bool b =>
        have hb : b = c.checkMode := Except.ok.inj hchecked
        simp [hb]
      | _ => cases hchecked
    · rename_i hnone
      have hb : false = c.checkMode := Except.ok.inj hchecked
      simp [hnone, ← hb]
  rw [hiff]
  constructor
  · intro hvalue
    obtain ⟨key, rule, hkey, hrule, hname⟩ := RecordShape.decode_source hseen hvalue
    rcases eq_of_rule?_checkMode hrule hname with rfl | rfl
    · exact Or.inl hkey
    · exact Or.inr hkey
  · rintro (hmember | hmember)
    · obtain ⟨rule, hrule, hname⟩ := rule?_checkMode (Or.inl rfl)
      rw [← hname]
      exact RecordShape.decode_get? hseen hmember hrule
    · obtain ⟨rule, hrule, hname⟩ := rule?_checkMode (Or.inr rfl)
      rw [← hname]
      exact RecordShape.decode_get? hseen hmember hrule

theorem withBundle_checkMode (c : Connection) (env : Environment) : (c.withBundle env).checkMode = c.checkMode := by
  unfold withBundle
  split
  · rfl
  · rfl

end Connection

theorem ArgumentFile.load_ok {files : FileTree} {path : String} {file : ArgumentFile}
    (h : ArgumentFile.load files path = .ok file) :
    stated? files path = some file.arguments ∧ (file.connection.checkMode = true ↔ AskForCheck file.arguments) := by
  unfold load at h
  cases htext : files.readText path with
  | error fault =>
    rw [htext] at h
    cases h
  | ok text =>
    rw [htext] at h
    obtain ⟨document, hdocument, h⟩ := bind_eq_ok h
    obtain ⟨arguments, harguments, h⟩ := bind_eq_ok h
    obtain ⟨connection, hconnection, h⟩ := bind_eq_ok h
    cases h
    refine ⟨?_, Connection.decode_checkMode_iff (eq_ok_of_mapError hconnection)⟩
    simp [stated?, htext, eq_ok_of_mapError hdocument, harguments, Except.toOption]

theorem Operation.performance?_isCheck {op : Operation} {c : Connection} {p : Performance}
    (h : op.performance? c = some p) : p.isCheck = c.checkMode := by
  obtain ⟨config, _, rfl⟩ := Option.map_eq_some_iff.mp h
  rfl

namespace CommandLine

theorem GlobalOptions.connection_checkMode {options : GlobalOptions} {files : FileTree} {env : Environment}
    {c : Connection} (h : options.connection files env = .ok c) (hflag : options.check = true) : c.checkMode = true := by
  obtain ⟨config, _, h⟩ := bind_eq_ok h
  obtain ⟨base, _, h⟩ := bind_eq_ok h
  cases h
  rw [Connection.withBundle_checkMode, laidOver, hflag]
  exact Bool.or_true _

namespace Invocation

/-- The command is a module whose argument file asks for check mode. -/
def FileAsksForCheck (invocation : Invocation) (files : FileTree) : Prop :=
  ∃ name path arguments, invocation.command = .automation name path ∧
    ArgumentFile.stated? files path = some arguments ∧ ArgumentFile.AskForCheck arguments

/-- The command is a module whose argument file does not ask for check mode, though its operation has a change to
make: in check mode it would say so. -/
def LosesCheck (invocation : Invocation) (files : FileTree) (env : Environment) (wire : Wire) : Prop :=
  (∃ name path, invocation.command = .automation name path) ∧ ¬ invocation.FileAsksForCheck files ∧
    ∃ p, invocation.performance? files env = some p ∧
      (p.operation.run true files p.config wire).1.isChanged = true

/-- The mode of what is performed, when it was asked to change nothing. -/
theorem isCheck_iff {invocation : Invocation} {files : FileTree} {env : Environment} {p : Performance}
    (h : invocation.performance? files env = some p)
    (hasked : invocation.options.check = true ∨ invocation.FileAsksForCheck files) :
    p.isCheck = true ↔ (∀ name path, invocation.command ≠ .automation name path) ∨ invocation.FileAsksForCheck files := by
  unfold performance? at h
  cases hcommand : invocation.command with
  | completions shell =>
    rw [hcommand] at h
    cases h
  | device op uuid =>
    rw [hcommand] at h
    have hflag : invocation.options.check = true := by
      rcases hasked with hflag | ⟨name, path, _, hautomation, _⟩
      · exact hflag
      · rw [hcommand] at hautomation
        cases hautomation
    obtain ⟨c, hc, h⟩ := Option.bind_eq_some_iff.mp h
    rw [Operation.performance?_isCheck h]
    simp [GlobalOptions.connection_checkMode (eq_ok_of_toOption hc) hflag]
  | automation name path =>
    rw [hcommand] at h
    obtain ⟨file, hfile, h⟩ := Option.bind_eq_some_iff.mp h
    obtain ⟨kind, _, h⟩ := Option.bind_eq_some_iff.mp h
    obtain ⟨op, _, h⟩ := Option.bind_eq_some_iff.mp h
    obtain ⟨hstated, hmode⟩ := ArgumentFile.load_ok (eq_ok_of_toOption hfile)
    rw [Operation.performance?_isCheck h, Connection.withBundle_checkMode, hmode]
    constructor
    · intro hasks
      exact Or.inr ⟨name, path, file.arguments, hcommand, hstated, hasks⟩
    · rintro (hother | ⟨_, _, arguments, hautomation, harguments, hasks⟩)
      · exact absurd rfl (hother name path)
      · rw [hcommand] at hautomation
        cases hautomation
        rw [hstated] at harguments
        cases harguments
        exact hasks

/-- Check mode is lost exactly if what is performed is not in check mode and has a change to make. -/
theorem losesCheck_iff {invocation : Invocation} {files : FileTree} {env : Environment} {p : Performance}
    (h : invocation.performance? files env = some p)
    (hasked : invocation.options.check = true ∨ invocation.FileAsksForCheck files) (wire : Wire) :
    invocation.LosesCheck files env wire ↔
      p.isCheck = false ∧ (p.operation.run true files p.config wire).1.isChanged = true := by
  have hmode := isCheck_iff h hasked
  constructor
  · rintro ⟨⟨name, path, hautomation⟩, hfile, q, hq, hdue⟩
    rw [h] at hq
    cases hq
    refine ⟨Bool.eq_false_iff.mpr (fun hcheck => ?_), hdue⟩
    rcases hmode.mp hcheck with hother | hasks
    · exact hother name path hautomation
    · exact hfile hasks
  · rintro ⟨hcheck, hdue⟩
    rw [← Bool.not_eq_true, hmode] at hcheck
    obtain ⟨hother, hfile⟩ := not_or.mp hcheck
    exact ⟨by simpa using hother, hfile, p, h, hdue⟩

end Invocation

/-- What is sent by a run that was asked to change nothing, by the flag or by the argument file of a module. All of
it is harmless, unless the flag comes with a module whose file does not ask for check mode too and whose
operation has a change to make. Then the change is sent, as far as the client takes its URL. Words that do not parse
send nothing. -/
theorem execute_asked_for_check (words : List String) (files : FileTree) (env : Environment) (wire : Wire) :
    ∃ sent : List Attempt, (execute words files env wire).2.attempts = wire.attempts ++ sent ∧
      match Invocation.parse env words with
      | .error _ => sent = []
      | .ok invocation => invocation.options.check = true ∨ invocation.FileAsksForCheck files →
          (¬ invocation.LosesCheck files env wire →
            ∀ a ∈ sent, ∃ p, invocation.performance? files env = some p ∧ IsHarmless p.config a.request) ∧
          (invocation.LosesCheck files env wire →
            ∃ p, invocation.performance? files env = some p ∧ p.isCheck = false ∧ p.SendsChange files wire sent) := by
  cases hparse : Invocation.parse env words with
  | error stop =>
    refine ⟨[], ?_, rfl⟩
    simp only [execute, hparse, List.append_nil]
  | ok invocation =>
    rw [execute_wire hparse]
    cases hp : invocation.performance? files env with
    | none =>
      refine ⟨[], (List.append_nil _).symm, fun _ => ⟨fun _ a ha => absurd ha List.not_mem_nil, ?_⟩⟩
      rintro ⟨_, _, p, hsome, _⟩
      rw [hp] at hsome
      cases hsome
    | some p =>
      cases hcheck : p.isCheck with
      | true =>
        obtain ⟨sent, hlog, hharmless⟩ := Performance.after_check hcheck files wire
        refine ⟨sent, hlog, fun hasked => ⟨fun _ a ha => ⟨p, hp, hharmless a ha⟩, fun hlost => ?_⟩⟩
        rw [Invocation.losesCheck_iff hp hasked, hcheck] at hlost
        cases hlost.1
      | false =>
        obtain ⟨sent, hlog, hsent⟩ := Performance.after_real hcheck files wire
        refine ⟨sent, hlog, fun hasked => ?_⟩
        rw [Invocation.losesCheck_iff hp hasked, hcheck]
        split at hsent
        case isTrue hdue => exact ⟨fun hkept => absurd ⟨rfl, hdue⟩ hkept, fun _ => ⟨p, hp, hcheck, hsent⟩⟩
        case isFalse hunchanged => exact ⟨fun _ a ha => ⟨p, hp, hsent a ha⟩, fun hlost => absurd hlost.2 hunchanged⟩

/-- The flag before a module does not keep the job queue of a device from being cleared. -/
theorem execute_flag_before_module :
    let words := ["--check", "module", "dellemc_delete_lc_job_queue", "/args.json"]
    let arguments := "\x7b\"ANSIBLE_MODULE_ARGS\": \x7b\"hostname\": \"127.0.0.1\", \"auth_token\": \"t\", " ++
      "\"validate_certs\": false\x7d\x7d"
    let queue := "\x7b\"Members\": [\x7b\"@odata.id\": \"/jobs/1\"\x7d]\x7d"
    let files := FileTree.empty.withFile "/args.json" (Text.encodeUtf8 arguments)
    let device : Device := ⟨.ipv4 0x7F000001, 443, true, some [], [.answer 200 [] (Text.encodeUtf8 queue), .answer 200 [] []]⟩
    (∃ invocation, Invocation.parse [] words = .ok invocation ∧ invocation.options.check = true) ∧
      ∃ a ∈ (execute words files [] ⟨device, []⟩).2.attempts, ∀ config, ¬ IsHarmless config a.request := by
  intro words arguments queue files device
  have hflag : (Invocation.parse [] words).toOption.any (·.options.check) = true := by decide +kernel
  have hpost : (execute words files [] ⟨device, []⟩).2.attempts.any (fun a =>
      a.request.method == "POST" && (a.request.body.bind (·.member? "Password")).isNone) = true := by decide +kernel
  constructor
  · obtain ⟨invocation, hparse, hcheck⟩ := Option.any_eq_true _ _ |>.mp hflag
    exact ⟨invocation, eq_ok_of_toOption hparse, hcheck⟩
  · obtain ⟨a, ha, hrequest⟩ := List.any_eq_true.mp hpost
    rw [Bool.and_eq_true, beq_iff_eq, Option.isNone_iff_eq_none] at hrequest
    exact ⟨a, ha, not_isHarmless_of_post hrequest.1 hrequest.2⟩

end CommandLine

end OutOfBand
