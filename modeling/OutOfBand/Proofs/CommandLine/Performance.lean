import OutOfBand.CommandLine.Exit
import OutOfBand.Proofs.Operation.Stages

/-! # What an invocation performs

A run of the program performs at most one operation, in a session and a mode that follow from its words,
its files and its environment. Whatever else the run does is done without the device, so all that it
sends is what the operation sends.
-/
namespace OutOfBand

open Session

/-- An operation with the session and the mode that it runs in. -/
structure Performance where
  operation : Operation
  config : SessionConfig
  isCheck : Bool

/-- The wire behind a performance, or as it was where nothing is performed. -/
def Performance.after (files : FileTree) (wire : Wire) : Option Performance → Wire
  | some p => (p.operation.run p.isCheck files p.config wire).2
  | none => wire

theorem Performance.after_check {p : Performance} (h : p.isCheck = true) (files : FileTree) (wire : Wire) :
    ∃ sent : List Attempt, (after files wire (some p)).attempts = wire.attempts ++ sent ∧
      ∀ a ∈ sent, IsHarmless p.config a.request := by
  obtain ⟨told, _, _, htold, _, _, _, hnone, _⟩ := p.operation.run_stages files p.config wire
  refine ⟨told.attempts, ?_, fun a ha => told.isHarmless hnone ha⟩
  rw [after, h, htold]

/-- What is performed asks for a change. It is sent, unless the client does not take its URL; then all is harmless. -/
def Performance.SendsChange (p : Performance) (files : FileTree) (wire : Wire) (sent : List Attempt) : Prop :=
  ∃ e ∈ p.operation.transcript p.isCheck files p.config wire, IsChange e.spec ∧
    ((¬ RefusesUrl p.config wire.client e.spec ∧ ∃ a ∈ sent, Mutates a.request ∧ e.IsSentAs a) ∨
      (RefusesUrl p.config wire.client e.spec ∧ ∀ a ∈ sent, IsHarmless p.config a.request))

/-- Otherwise everything is harmless if check mode would have said that there is nothing to change, and a change is
asked for if it would have said that there is one. -/
theorem Performance.after_real {p : Performance} (h : p.isCheck = false) (files : FileTree) (wire : Wire) :
    ∃ sent : List Attempt, (after files wire (some p)).attempts = wire.attempts ++ sent ∧
      if (p.operation.run true files p.config wire).1.isChanged then p.SendsChange files wire sent
      else ∀ a ∈ sent, IsHarmless p.config a.request := by
  obtain ⟨_, done, asked, _, hdone, _, _, _, hasked, hforetold⟩ := p.operation.run_stages files p.config wire
  refine ⟨done.attempts, by rw [after, h, hdone], ?_⟩
  split
  case isTrue hdue =>
    obtain ⟨e, he, hspec, hsent⟩ := hforetold.exists_change hdue
    refine ⟨e, ?_, hspec, ?_⟩
    · rw [h, hasked]
      exact List.mem_append_right _ he
    rcases hsent with ⟨htaken, a, ha, hcarried⟩ | ⟨hrefused, hnone⟩
    · exact Or.inl ⟨htaken, a, List.mem_append_left _ (List.mem_append_right _ ha), hspec.mutates hcarried, hcarried⟩
    · exact Or.inr ⟨hrefused, fun a ha => done.isHarmless hnone ha⟩
  case isFalse hunchanged =>
    have hnone := hforetold.changes_eq_nil (Bool.eq_false_iff.mpr hunchanged)
    exact fun a ha => done.isHarmless hnone ha

def Operation.performance? (op : Operation) (c : Connection) : Option Performance :=
  (c.sessionConfig op.kind.family).toOption.map (fun config => ⟨op, config, c.checkMode⟩)

def Automation.performance? (name path : String) (files : FileTree) (env : Environment) : Option Performance := do
  let file ← (ArgumentFile.load files path).toOption
  let kind ← Automation.kind? name file
  let op ← (file.operation kind).toOption
  op.performance? (file.connection.withBundle env)

/-- What an invocation performs, if it comes to that. -/
def CommandLine.Invocation.performance? (invocation : CommandLine.Invocation) (files : FileTree) (env : Environment) :
    Option Performance :=
  match invocation.command with
  | .completions _ => none
  | .automation name path => Automation.performance? name path files env
  | .device op uuid => (invocation.options.connection files env).toOption.bind
      (fun c => op.performance? { c with vcenterUuid := uuid.or c.vcenterUuid })

theorem Operation.perform_wire (op : Operation) (c : Connection) (files : FileTree) (wire : Wire) :
    (op.perform c files wire).2 = Performance.after files wire (op.performance? c) := by
  unfold perform performance?
  cases c.sessionConfig op.kind.family with
  | error f => rfl
  | ok config => rfl

theorem Automation.run_wire (name path : String) (files : FileTree) (env : Environment) (wire : Wire) :
    (Automation.run name path files env wire).2 =
      Performance.after files wire (Automation.performance? name path files env) := by
  unfold Automation.run Automation.performance?
  cases ArgumentFile.load files path with
  | error e =>
    cases e <;> rfl
  | ok file =>
    cases hk : kind? name file with
    | none => simp [Except.toOption, hk, Performance.after]
    | some kind =>
      cases ho : file.operation kind with
      | error e => simp [Except.toOption, hk, ho, runKind, Performance.after]
      | ok op =>
        simp only [Except.toOption, hk, ho, runKind, Option.bind_eq_bind, Option.bind_some]
        rw [← op.perform_wire]
        rcases op.perform (file.connection.withBundle env) files wire with ⟨result, later⟩
        cases result with
        | error f => rfl
        | ok report => rfl

namespace CommandLine

theorem runDevice_wire (op : Operation) (uuid : Option String) (options : GlobalOptions) (files : FileTree)
    (env : Environment) (wire : Wire) :
    (runDevice op uuid options files env wire).2 =
      Performance.after files wire ((options.connection files env).toOption.bind
        (fun c => op.performance? { c with vcenterUuid := uuid.or c.vcenterUuid })) := by
  unfold runDevice
  cases options.connection files env with
  | error fault => rfl
  | ok c =>
    simp only [Except.toOption, Option.bind_some]
    rw [← op.perform_wire]
    rcases op.perform { c with vcenterUuid := uuid.or c.vcenterUuid } files wire with ⟨result, later⟩
    cases result with
    | error f => rfl
    | ok report => rfl

/-- A run of the program sends what its performance sends. -/
theorem execute_wire {words : List String} {env : Environment} {invocation : Invocation}
    (h : Invocation.parse env words = .ok invocation) (files : FileTree) (wire : Wire) :
    (execute words files env wire).2 = Performance.after files wire (invocation.performance? files env) := by
  have hrun : (invocation.run files env wire).2 = Performance.after files wire (invocation.performance? files env) := by
    unfold Invocation.run Invocation.performance?
    cases invocation.command with
    | completions shell => rfl
    | automation name path =>
      dsimp only
      rw [← Automation.run_wire]
      rcases Automation.run name path files env wire with ⟨result, later⟩
      cases result with
      | error fault => rfl
      | ok report => rfl
    | device op uuid =>
      dsimp only
      rw [← runDevice_wire]
      rcases runDevice op uuid invocation.options files env wire with ⟨result, later⟩
      cases result with
      | error fault => rfl
      | ok report => rfl
  simp only [execute, h]
  exact hrun

end CommandLine

end OutOfBand
