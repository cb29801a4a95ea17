-- Starting a command in the namespace of a host. The host, the command, the log
-- and the start itself are taken in turn, and the first that fails decides.
-- What counts for an empty command is the command as it is shown: in a terminal
-- it is never empty, and a terminal with nothing in it is started.
import Testbed.Proofs.Namespaces.Serving
import Testbed.Proofs.Simulator.Log

namespace Testbed

/-! ## Runs that end at a command -/

/-- A scenario that comes to a command in some state of the substrate ends at it with an error, and
only the substrate changes. -/
def EndsRuns {σ : Type} [Substrate σ] (host : HostId) (request : ExecRequest) (s : σ)
    (e : SubstrateError) (s' : σ) : Prop :=
  ∀ (r r' : Rig σ) (scenario : Scenario) (before after : List Step) (started : List HandleId),
    r.topology.validate scenario = .ok () →
    scenario.steps = before ++ .spawn host request :: after →
    Rig.performAll before r = (.ok started, r') → r'.substrate = s →
    Rig.run scenario r = (.error (.spawn host request.title e), { r' with substrate := s' })

theorem endsRuns_of_refused {σ : Type} [Substrate σ] {host : HostId} {request : ExecRequest}
    {s s' : σ} {e : SubstrateError} (h : Substrate.exec host request s = (.error e, s')) :
    EndsRuns host request s e s' := by
  rintro r r' scenario before after started hvalid hsteps hbefore rfl
  have hspawn : Rig.perform (.spawn host request) r' =
      (.error (.spawn host request.title e), { r' with substrate := s' }) := by
    rw [Rig.perform_spawn, h]
  have hall : Rig.performAll scenario.steps r =
      (.error (.spawn host request.title e), { r' with substrate := s' }) := by
    rw [hsteps, Rig.performAll_append hbefore, Rig.performAll_cons_error hspawn]
    rfl
  rw [Rig.run_known hvalid, hall]
  rfl

namespace Namespaces

variable {net : Namespaces} {host : HostId} {name : String}

/-! ## Terminals -/

theorem openLog_terminal (title : String) {terminal : String}
    (h : net.config.terminal = some terminal) : openLog title net = (.ok none, net) := by
  unfold openLog
  rw [Action.reads_bind, h]
  rfl

/-- A terminal with a title, in its place, before anything is run in it. -/
def windowArgv (terminal : String) (request : ExecRequest) : List String :=
  [terminal, "-title", request.title] ++
    (match request.geometry with
      | some geometry => ["-geometry", geometry]
      | none => []) ++ ["-e"]

theorem shownArgv_terminal {config : NamespaceConfig} {terminal : String}
    (h : config.terminal = some terminal) (request : ExecRequest) :
    shownArgv config request = windowArgv terminal request ++ request.argv := by
  cases hgeometry : request.geometry <;> simp [shownArgv, windowArgv, h, hgeometry]

/-- A command that is shown in a terminal is never empty: it starts just when its command line can
be started. -/
theorem exec_terminal (created : net.names.get? host = some name) {terminal : String}
    (hterminal : net.config.terminal = some terminal) (request : ExecRequest) :
    let line := net.commandLine (inside name (windowArgv terminal request ++ request.argv))
    (net.machine.accept line = .ok () →
      ∃ net', exec host request net = (.ok net.machine.nextPid, net')) ∧
    ∀ e, net.machine.accept line = .error e →
      exec host request net = (.error (.io (.execTitled request.title host) e), net) := by
  intro line
  have hshown := shownArgv_terminal hterminal request
  have hsome : shownArgv net.config request ≠ [] := by simp [hshown, windowArgv]
  rw [exec_eq created hsome, openLog_terminal _ hterminal]
  dsimp only
  rw [hshown]
  constructor
  · intro haccept
    obtain ⟨machine, hstart, -⟩ := Machine.start_accepted haccept none
    rw [hstart]
    exact ⟨_, rfl⟩
  · intro e haccept
    have hstart : Machine.start line none net.machine = (.error e, net.machine) := by
      rw [Machine.start, haccept]
    rw [hstart]

/-! ## Empty commands -/

/-- An empty command for a host that was created. Without a terminal it is rejected: nothing is
started, nothing changes, and a scenario ends there. It is rejected in no other case: with a
terminal the window is started with nothing to run in it, unless its command line cannot be started
at all. The simulator always rejects it, writes the call down, and a scenario ends there. -/
theorem empty_command_is_rejected_without_terminal (created : net.names.get? host = some name)
    {request : ExecRequest} (empty : request.argv = []) :
    ((∃ op why, (exec host request net).1 = .error (.rejected op why)) ↔
      net.config.terminal = none) ∧
    (net.config.terminal = none →
      let e := SubstrateError.rejected (.execTitled request.title host) .emptyCommandLine
      exec host request net = (.error e, net) ∧ EndsRuns host request net e net) ∧
    (∀ terminal, net.config.terminal = some terminal →
      let line := net.commandLine (inside name (windowArgv terminal request))
      (net.machine.accept line = .ok () →
        ∃ net', exec host request net = (.ok net.machine.nextPid, net')) ∧
      ∀ e, net.machine.accept line = .error e →
        exec host request net = (.error (.io (.execTitled request.title host) e), net)) ∧
    ∀ sim : Simulator, sim.hosts.contains host = true →
      let e := SubstrateError.rejected (.exec host) .injected
      let sim' := sim.record (.exec host []) false
      Simulator.exec host request sim = (.error e, sim') ∧ EndsRuns host request sim e sim' := by
  have hwindow : ∀ terminal, net.config.terminal = some terminal → _ :=
    fun terminal h => exec_terminal created h request
  simp only [empty, List.append_nil] at hwindow
  refine ⟨⟨?_, ?_⟩, ?_, hwindow, ?_⟩
  · rintro ⟨op, why, hrejected⟩
    rcases hterminal : net.config.terminal with _ | terminal
    · rfl
    · obtain ⟨hstarts, hfails⟩ := hwindow terminal hterminal
      rcases haccept : net.machine.accept
        (net.commandLine (inside name (windowArgv terminal request))) with e | u
      · rw [hfails e haccept] at hrejected
        cases hrejected
      · obtain ⟨net', hexec⟩ := hstarts haccept
        rw [hexec] at hrejected
        cases hrejected
  · intro hterminal
    exact ⟨_, _, congrArg Prod.fst (exec_empty created hterminal empty)⟩
  · intro hterminal e
    have hexec := exec_empty created hterminal empty
    exact ⟨hexec, endsRuns_of_refused hexec⟩
  · intro sim hhost e sim'
    have hrefusal : sim.execRefusal? host request = some e := by
      simp [Simulator.execRefusal?, hhost, empty, e]
    have hexec : Simulator.exec host request sim = (.error e, sim') := by
      rw [Simulator.exec_refused hrefusal, empty]
    exact ⟨hexec, endsRuns_of_refused hexec⟩

/-- A scenario starts a server and then comes to an empty command: the server stays tracked, and
the wait that follows is not reached. -/
theorem empty_command_is_rejected_without_terminal_in_a_run :
    let server : ExecRequest := { argv := ["server"], title := "server" }
    let nothing : ExecRequest := { argv := [], title := "nothing" }
    let r : Rig Namespaces := {
      topology := {
        name := "lab", hosts := [{ id := ⟨"A"⟩ }], hostIndex := ⟨[(⟨"A"⟩, 0)]⟩
        instantiated := true }
      substrate := { names := ⟨[(⟨"A"⟩, "mip-A")]⟩ } }
    let r' := (Rig.performAll [.spawn ⟨"A"⟩ server] r).2
    let scenario : Scenario := { name := "gap", steps :=
      [.spawn ⟨"A"⟩ server, .spawn ⟨"A"⟩ nothing, .wait (.ofSeconds 1)] }
    r'.substrate.names.get? ⟨"A"⟩ = some "mip-A" ∧ nothing.argv = [] ∧
      r'.substrate.config.terminal = none ∧ r'.supervisor.tracked.length = 1 ∧
      Rig.run scenario r = (.error (.spawn ⟨"A"⟩ "nothing"
        (.rejected (.execTitled "nothing" ⟨"A"⟩) .emptyCommandLine)), r') := by
  intro server nothing r r' scenario
  have created : r'.substrate.names.get? ⟨"A"⟩ = some "mip-A" := rfl
  have hterminal : r'.substrate.config.terminal = none := rfl
  have hbefore : Rig.performAll [.spawn ⟨"A"⟩ server] r = (.ok [⟨0⟩], r') := rfl
  have empty : nothing.argv = [] := rfl
  obtain ⟨-, hrejected, -⟩ := empty_command_is_rejected_without_terminal created empty
  obtain ⟨-, hends⟩ := hrejected hterminal
  exact ⟨created, empty, hterminal, rfl,
    hends r r' scenario [.spawn ⟨"A"⟩ server] [.wait (.ofSeconds 1)] [⟨0⟩] rfl rfl hbefore rfl⟩

/-- With a terminal an empty command is not refused: the terminal is started, and keeps running. -/
theorem empty_command_starts_a_terminal :
    let net : Namespaces :=
      { config := { terminal := some "xterm" }, names := ⟨[(⟨"A"⟩, "mip-A")]⟩ }
    let request : ExecRequest := { argv := [], title := "t" }
    let started := exec ⟨"A"⟩ request net
    net.names.get? ⟨"A"⟩ = some "mip-A" ∧ request.argv = [] ∧ started.1.toOption = some 101 ∧
      started.2.machine.runs.map (·.argv) =
        [["ip", "netns", "exec", "mip-A", "xterm", "-title", "t", "-e"]] ∧
      started.2.machine.isRunning 101 = true := by decide +kernel

end Namespaces

end Testbed
