-- What running a tool does to the namespaces: a run is written down, and
-- nothing else changes. The runs tell in which state an interface is: the one
-- that the last successful run gave it.
import Testbed.Namespaces
import Testbed.Proofs.Machine.Running

namespace Testbed

/-! ## The state of an interface -/

namespace Machine

/-- The state that a run has given to an interface of a namespace. Only a run that succeeds gives
one. -/
def ToolRun.switched? (space interfaceName : String) (run : ToolRun) : Option LinkState :=
  match privileged run.argv with
  | ["ip", "netns", "exec", s, "ip", "link", "set", i, word] =>
    if run.exit = some 0 ∧ s = space ∧ i = interfaceName then
      if word = "up" then some .up else if word = "down" then some .down else none
    else none
  | _ => none

/-- The state of an interface after some runs: the last one that it was given. -/
def interfaceState? (runs : List ToolRun) (space interfaceName : String) : Option LinkState :=
  (runs.filterMap (ToolRun.switched? space interfaceName)).getLast?

theorem interfaceState?_append (runs more : List ToolRun) (space interfaceName : String) :
    interfaceState? (runs ++ more) space interfaceName =
      (interfaceState? more space interfaceName).or (interfaceState? runs space interfaceName) := by
  simp [interfaceState?, List.getLast?_append]

theorem interfaceState?_singleton (run : ToolRun) (space interfaceName : String) :
    interfaceState? [run] space interfaceName = run.switched? space interfaceName := by
  unfold interfaceState?
  cases h : run.switched? space interfaceName <;> simp [h]

/-- The runs switch no interface. -/
def Silent (runs : List ToolRun) : Prop :=
  ∀ space interfaceName, interfaceState? runs space interfaceName = none

/-- What fails does nothing. -/
theorem silent_of_failed {runs : List ToolRun} (h : ∀ run ∈ runs, run.exit ≠ some 0) :
    Silent runs := by
  intro space interfaceName
  have hnone : ∀ run ∈ runs, run.switched? space interfaceName = none := by
    intro run hrun
    unfold ToolRun.switched?
    split
    · simp [h run hrun]
    · rfl
  rw [interfaceState?, List.filterMap_eq_nil_iff.mpr hnone, List.getLast?_nil]

/-- A command line is accepted if its words can be passed on and its program exists. -/
theorem accept_iff {m : Machine} {argv : List String} : m.accept argv = .ok () ↔
    (∀ word ∈ argv, '\x00' ∉ word.toList) ∧ argv.headD "" ∈ m.tools := by
  unfold accept
  split
  · next hnul =>
    obtain ⟨word, hword, hbad⟩ := List.any_eq_true.mp hnul
    simp only [reduceCtorEq, false_iff, not_and]
    exact fun h => absurd (of_decide_eq_true hbad) (h word hword)
  · next hnul =>
    have hgood : ∀ word ∈ argv, '\x00' ∉ word.toList := by
      intro word hword hbad
      exact hnul (List.any_eq_true.mpr ⟨word, hword, decide_eq_true hbad⟩)
    split
    · next htool => simp only [true_iff]; exact ⟨hgood, htool⟩
    · next htool => simp only [reduceCtorEq, false_iff]; exact fun h => htool h.2

/-- Only a tool that kills does anything to the machine. -/
theorem carryOut_ip {argv args : List String} (h : privileged argv = "ip" :: args) (m : Machine) :
    m.carryOut argv = m := by
  unfold carryOut
  split
  · next hkill =>
    rw [h] at hkill
    simp at hkill
  · rfl

end Machine

namespace Namespaces

/-! ## Runs and nothing else -/

/-- The namespaces after some more runs. -/
def ran (net : Namespaces) (runs : List Machine.ToolRun) : Namespaces :=
  { net with machine := { net.machine with runs := net.machine.runs ++ runs } }

/-- A run of a tool that asks for privileges where that is needed. -/
def toolRun (net : Namespaces) (argv : List String) (exit : UInt8) : Machine.ToolRun :=
  { argv := net.commandLine argv, exit := some exit }

@[simp]
theorem ran_nil (net : Namespaces) : net.ran [] = net := by
  simp [ran]

@[simp]
theorem ran_ran (net : Namespaces) (runs more : List Machine.ToolRun) :
    (net.ran runs).ran more = net.ran (runs ++ more) := by
  simp [ran]

theorem sameTools_ran (net : Namespaces) (runs : List Machine.ToolRun) :
    net.machine.SameTools (net.ran runs).machine := ⟨rfl, rfl, rfl, rfl, rfl⟩

@[simp]
theorem ran_names (net : Namespaces) (runs : List Machine.ToolRun) :
    (net.ran runs).names = net.names := rfl

@[simp]
theorem ran_links (net : Namespaces) (runs : List Machine.ToolRun) :
    (net.ran runs).links = net.links := rfl

@[simp]
theorem ran_toolRun (net : Namespaces) (runs : List Machine.ToolRun) (argv : List String)
    (exit : UInt8) : (net.ran runs).toolRun argv exit = net.toolRun argv exit := rfl

theorem privileged_commandLine (net : Namespaces) (args : List String) :
    Machine.privileged (net.commandLine ("ip" :: args)) = "ip" :: args := by
  unfold commandLine
  split <;> rfl

/-! ## Runs that switch an interface -/

/-- Setting an interface of a namespace to a state, done. -/
def switchRun (net : Namespaces) (space interfaceName : String) (state : LinkState) :
    Machine.ToolRun := net.toolRun (inside space ["ip", "link", "set", interfaceName, state.text]) 0

theorem switched?_switchRun (net : Namespaces) (space interfaceName space' other : String)
    (state : LinkState) : (net.switchRun space interfaceName state).switched? space' other =
      if space = space' ∧ interfaceName = other then some state else none := by
  have hpriv := privileged_commandLine net
    ["netns", "exec", space, "ip", "link", "set", interfaceName, state.text]
  simp only [Machine.ToolRun.switched?, switchRun, toolRun, inside, hpriv, true_and]
  cases state <;> rfl

/-- The arguments ask for something else than a new state of an interface in a namespace. -/
def Harmless (args : List String) : Prop :=
  ∀ space interfaceName word,
    args ≠ ["netns", "exec", space, "ip", "link", "set", interfaceName, word]

theorem silent_toolRun {args : List String} (h : Harmless args) (net : Namespaces)
    (exit : UInt8) : Machine.Silent [net.toolRun ("ip" :: args) exit] := by
  intro space interfaceName
  rw [Machine.interfaceState?_singleton]
  simp only [Machine.ToolRun.switched?, toolRun, privileged_commandLine]
  split
  · next hargs =>
    cases hargs
    exact absurd rfl (h _ _ _)
  · rfl

/-! ## Running a tool -/

/-- A run that can be started is written down, and nothing else happens. -/
theorem runTool_accepted {args : List String} {net : Namespaces}
    (h : net.machine.accept (net.commandLine ("ip" :: args)) = .ok ()) :
    let reply := (net.machine.reply? (net.commandLine ("ip" :: args))).getD {}
    runTool ("ip" :: args) net = (.ok reply, net.ran [net.toolRun ("ip" :: args) reply.exit]) := by
  simp only [runTool, Action.within, Machine.run, h,
    Machine.carryOut_ip (privileged_commandLine net args), ite_self]
  rfl

theorem runTool_ip (args : List String) (net : Namespaces) :
    (∃ e, runTool ("ip" :: args) net = (.error e, net)) ∨
    ∃ reply : Machine.Reply, runTool ("ip" :: args) net =
      (.ok reply, net.ran [net.toolRun ("ip" :: args) reply.exit]) := by
  rcases ha : net.machine.accept (net.commandLine ("ip" :: args)) with e | u
  · left
    exact ⟨e, by simp [runTool, Action.within, Machine.run, ha]⟩
  · exact Or.inr ⟨_, runTool_accepted ha⟩

theorem tryTool_ok {args : List String} {net net' : Namespaces} {u : Unit}
    (h : tryTool ("ip" :: args) net = (.ok u, net')) :
    ∃ runs, net' = net.ran runs ∧ (Harmless args → Machine.Silent runs) := by
  simp only [tryTool, Prod.mk.injEq, true_and] at h
  rcases runTool_ip args net with ⟨e, he⟩ | ⟨reply, he⟩
  · rw [he] at h
    exact ⟨[], by rw [ran_nil, ← h], fun _ _ _ => rfl⟩
  · rw [he] at h
    exact ⟨_, h.symm, fun hargs => silent_toolRun hargs net reply.exit⟩

theorem requireTool_ip (op : Operation) (args : List String) (net : Namespaces) :
    requireTool op ("ip" :: args) net = (.ok (), net.ran [net.toolRun ("ip" :: args) 0]) ∨
    ∃ e runs, requireTool op ("ip" :: args) net = (.error e, net.ran runs) ∧
      ∀ run ∈ runs, run.exit ≠ some 0 := by
  rcases runTool_ip args net with ⟨e, he⟩ | ⟨reply, he⟩
  · exact Or.inr ⟨.io op e, [], by simp [requireTool, he], by simp⟩
  · by_cases hzero : reply.exit = 0
    · left
      simp only [requireTool, he, Machine.Reply.succeeded, hzero, decide_true, if_true]
    · right
      refine ⟨_, _, by simp only [requireTool, he, Machine.Reply.succeeded, hzero, decide_false,
        Bool.false_eq_true, if_false]; rfl, ?_⟩
      simpa [toolRun] using hzero

theorem requireTool_ok {op : Operation} {args : List String} {net net' : Namespaces} {u : Unit}
    (h : requireTool op ("ip" :: args) net = (.ok u, net')) :
    net' = net.ran [net.toolRun ("ip" :: args) 0] := by
  rcases requireTool_ip op args net with hr | ⟨e, runs, hr, _⟩
  · rw [hr] at h
    cases h
    rfl
  · rw [hr] at h
    cases h

theorem requireTool_silent {op : Operation} {args : List String} {net net' : Namespaces} {u : Unit}
    (hargs : Harmless args) (h : requireTool op ("ip" :: args) net = (.ok u, net')) :
    ∃ runs, net' = net.ran runs ∧ Machine.Silent runs :=
  ⟨_, requireTool_ok h, silent_toolRun hargs net 0⟩

/-! ## Tools with a known answer -/

/-- A run with these arguments can be started, and it exits like this at any time. -/
def Exits (net : Namespaces) (args : List String) (exit : UInt8) : Prop :=
  net.machine.accept (net.commandLine ("ip" :: args)) = .ok () ∧
  ∀ n, ((net.machine.answer n (net.commandLine ("ip" :: args))).getD {}).exit = exit

/-- A run with these arguments succeeds at any time. -/
def Obeyed (net : Namespaces) (args : List String) : Prop := net.Exits args 0

theorem runTool_exits {args : List String} {exit : UInt8} {net : Namespaces}
    (h : net.Exits args exit) : ∃ reply : Machine.Reply, reply.exit = exit ∧
      runTool ("ip" :: args) net = (.ok reply, net.ran [net.toolRun ("ip" :: args) exit]) := by
  have hexit := h.2 net.machine.runs.length
  have hrun := runTool_accepted h.1
  exact ⟨_, hexit, by rw [hrun, Machine.reply?, hexit]⟩

theorem requireTool_obeyed {args : List String} {net : Namespaces} (h : net.Obeyed args)
    (op : Operation) :
    requireTool op ("ip" :: args) net = (.ok (), net.ran [net.toolRun ("ip" :: args) 0]) := by
  obtain ⟨reply, hexit, hrun⟩ := runTool_exits h
  simp only [requireTool, hrun, Machine.Reply.succeeded, hexit, decide_true, if_true]

theorem requireTool_refused {args : List String} {exit : UInt8} {net : Namespaces}
    (h : net.Exits args exit) (hexit : exit ≠ 0) (op : Operation) :
    ∃ e, requireTool op ("ip" :: args) net =
      (.error e, net.ran [net.toolRun ("ip" :: args) exit]) := by
  obtain ⟨reply, rfl, hrun⟩ := runTool_exits h
  exact ⟨_, by simp only [requireTool, hrun, Machine.Reply.succeeded, hexit, decide_false,
    Bool.false_eq_true, if_false]; rfl⟩

theorem tryTool_ran (args : List String) (net : Namespaces) :
    ∃ runs, tryTool ("ip" :: args) net = (.ok (), net.ran runs) := by
  obtain ⟨runs, h, -⟩ := tryTool_ok (Prod.ext rfl rfl :
    tryTool ("ip" :: args) net = (.ok (), (tryTool ("ip" :: args) net).2))
  exact ⟨runs, Prod.ext rfl h⟩

end Namespaces

end Testbed
