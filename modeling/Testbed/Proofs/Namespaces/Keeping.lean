-- What the actions of the substrate of namespaces keep. A relation holds across
-- one of them if it holds across the tool runs of the action and across the few
-- changes that the action makes itself. So it is enough to say of a relation
-- across which runs and changes it holds.
import Testbed.Namespaces
import Testbed.Proofs.Action

namespace Testbed.Namespaces

open Testbed.Action (Keeps)

variable {R : Namespaces → Namespaces → Prop}

/-! ## What a relation has to hold across -/

/-- What is done with the ends of links: moving them, and runs inside their namespaces. -/
structure AcrossEnds (R : Namespaces → Namespaces → Prop) : Prop where
  inside : ∀ space argv, Keeps R (runTool (inside space argv))
  move : ∀ interfaceName space,
    Keeps R (runTool ["ip", "link", "set", interfaceName, "netns", space])

/-- What is done for a link beside its ends: clearing away, making a pair, writing it down. -/
structure AcrossLinks (R : Namespaces → Namespaces → Prop) : Prop extends AcrossEnds R where
  clear : ∀ interfaceName, Keeps R (runTool ["ip", "link", "del", interfaceName])
  add : ∀ aName bName,
    Keeps R (runTool ["ip", "link", "add", aName, "type", "veth", "peer", "name", bName])
  note : ∀ net links, R net { net with links }

/-- What is done to end processes, up to waiting for them. -/
structure AcrossKills (R : Namespaces → Namespaces → Prop) : Prop where
  signal : ∀ net pid, R net { net with machine := (Machine.signal pid net.machine).2 }
  kill : ∀ pids : List Pid, Keeps R (runTool ("kill" :: "-KILL" :: pids.map toString))

/-- What is done with processes and their logs. -/
structure AcrossProcesses (R : Namespaces → Namespaces → Prop) : Prop extends AcrossKills R where
  files : ∀ net files, R net { net with machine := { net.machine with files } }
  start : ∀ net space argv log, R net { net with
    machine := (Machine.start (net.commandLine (inside space argv)) log net.machine).2 }
  book : ∀ net children, R net { net with children }
  reap : ∀ net pid, R net (net.reap pid)

/-! ## Tools -/

theorem requireTool_state (op : Operation) (argv : List String) (net : Namespaces) :
    (requireTool op argv net).2 = (runTool argv net).2 := by
  unfold requireTool
  split
  · next he => rw [he]
  · next he =>
    rw [he]
    split <;> rfl

theorem keeps_tryTool {argv : List String} (h : Keeps R (runTool argv)) :
    Keeps R (tryTool argv) := h

theorem keeps_requireTool {argv : List String} (h : Keeps R (runTool argv)) (op : Operation) :
    Keeps R (requireTool op argv) := by
  intro net
  rw [requireTool_state]
  exact h net

/-- A process of the substrate is waited for if the system says that it has ended. -/
theorem reapIfEnded_cases (pid : Pid) (net : Namespaces) :
    (pid ∈ net.children ∧ net.machine.tryWait pid = .ok true ∧
      net.reapIfEnded pid = (true, net.reap pid)) ∨
    ((pid ∈ net.children → net.machine.tryWait pid ≠ .ok true) ∧
      net.reapIfEnded pid = (false, net)) := by
  unfold reapIfEnded
  by_cases hchild : pid ∈ net.children
  · rw [if_pos hchild]
    rcases htold : net.machine.tryWait pid with e | _ | _
    · exact Or.inr ⟨fun _ h => (by cases h), rfl⟩
    · exact Or.inr ⟨fun _ h => (by cases h), rfl⟩
    · exact Or.inl ⟨hchild, rfl, rfl⟩
  · rw [if_neg hchild]
    exact Or.inr ⟨fun h => absurd h hchild, rfl⟩

/-- A signal that is sent, or that comes too late, leaves the rest of the row to be sent. -/
theorem signalEach_goes_on {pid : Pid} {net : Namespaces}
    (h : ∀ e, net.machine.killRefusal? pid = some e → e = .noSuchProcess) (pids : List Pid) :
    signalEach (pid :: pids) net =
      signalEach pids { net with machine := (Machine.signal pid net.machine).2 } := by
  rw [signalEach, Action.bind_apply]
  rcases hrefused : net.machine.killRefusal? pid with _ | e
  · simp only [Action.attempt, Action.within, Machine.signal, hrefused]
  · obtain rfl := h e hrefused
    simp only [Action.attempt, Action.within, Machine.signal, hrefused]

/-- Any other refusal ends the row. -/
theorem signalEach_ends {pid : Pid} {net : Namespaces} {e : OsError}
    (hrefused : net.machine.killRefusal? pid = some e) (he : e ≠ .noSuchProcess)
    (pids : List Pid) : signalEach (pid :: pids) net =
      (.error (.io (.kill [pid]) e), { net with machine := net.machine.recordSignal pid }) := by
  rw [signalEach, Action.bind_apply]
  simp only [Action.attempt, Action.within, Machine.signal, hrefused]
  rfl

variable [IsPreorder Namespaces R]

/-! ## Hosts -/

theorem keeps_space (host : HostId) : Keeps R (space host) := by
  intro net
  unfold space
  split <;> exact refl_of R net

theorem keeps_createHost (tools : ∀ argv, Keeps R (runTool argv))
    (name : ∀ net names, R net { net with names }) (host : HostId) : Keeps R (createHost host) := by
  unfold createHost
  refine (Keeps.reads _).bind fun space => ?_
  refine (keeps_tryTool (tools _)).bind fun _ => ?_
  refine (keeps_requireTool (tools _) _).bind fun _ => ?_
  refine (keeps_tryTool (tools _)).bind fun _ => ?_
  refine (Keeps.reads _).bind fun before => ?_
  refine (Keeps.modify fun net => name net _).bind fun _ => ?_
  cases before with
  | none => exact .pure _
  | some old => exact (keeps_tryTool (tools _)).bind fun _ => .pure _

/-! ## Links -/

theorem keeps_nextInterface (count : ∀ net counts, R net { net with interfaceCounts := counts })
    (host : HostId) : Keeps R (nextInterface host) := by
  unfold nextInterface
  refine (keeps_space host).bind fun name => ?_
  refine (Keeps.reads _).bind fun n => ?_
  refine (Keeps.modify fun net => count net _).bind fun _ => ?_
  exact (Keeps.require _ _).bind fun _ => .pure _

/-- Bringing an end up and shaping its traffic. -/
theorem keeps_raise (inside : ∀ space argv, Keeps R (runTool (inside space argv))) (op : Operation)
    (name interfaceName : String) (params : LinkParams) :
    Keeps R (do
      requireTool op (Namespaces.inside name ["ip", "link", "set", interfaceName, "up"])
      tryTool (Namespaces.inside name ("tc" :: Shaping.args interfaceName params))) :=
  (keeps_requireTool (inside _ _) op).bind fun _ => keeps_tryTool (inside _ _)

theorem keeps_attach (h : AcrossEnds R) (op : Operation) (host : HostId) (interfaceName : String)
    (params : LinkParams) : Keeps R (attach op host interfaceName params) := by
  unfold attach
  refine (keeps_space host).bind fun name => ?_
  refine (keeps_requireTool (h.move _ _) op).bind fun _ => ?_
  exact keeps_raise h.inside op name interfaceName params

/-- What is left to do for a link when both its ends have their names. -/
def layPair (a b : HostId) (aName bName : String) (params : LinkParams) :
    Action Namespaces SubstrateError Unit := do
  let op := Operation.createLink a b
  tryTool ["ip", "link", "del", aName]
  requireTool op ["ip", "link", "add", aName, "type", "veth", "peer", "name", bName]
  attach op a aName params
  attach op b bName params
  Action.modify fun net =>
    { net with links := net.links.insert (.of a b) { a, aName, b, bName } }

theorem createLink_eq (a b : HostId) (params : LinkParams) :
    createLink a b params = nextInterface a >>= fun aName =>
      nextInterface b >>= fun bName => layPair a b aName bName params := rfl

theorem keeps_layPair (h : AcrossLinks R) (a b : HostId) (aName bName : String)
    (params : LinkParams) : Keeps R (layPair a b aName bName params) := by
  unfold layPair
  refine (keeps_tryTool (h.clear _)).bind fun _ => ?_
  refine (keeps_requireTool (h.add _ _) _).bind fun _ => ?_
  refine (keeps_attach h.toAcrossEnds _ a aName params).bind fun _ => ?_
  refine (keeps_attach h.toAcrossEnds _ b bName params).bind fun _ => ?_
  exact .modify fun net => h.note net _

theorem keeps_createLink (h : AcrossLinks R)
    (count : ∀ net counts, R net { net with interfaceCounts := counts }) (a b : HostId)
    (params : LinkParams) : Keeps R (createLink a b params) := by
  rw [createLink_eq]
  refine (keeps_nextInterface count a).bind fun aName => ?_
  refine (keeps_nextInterface count b).bind fun bName => ?_
  exact keeps_layPair h a b aName bName params

theorem keeps_switchEnd (inside : ∀ space argv, Keeps R (runTool (inside space argv)))
    (op : Operation) (host : HostId) (interfaceName : String) (state : LinkState) :
    Keeps R (switchEnd op host interfaceName state) :=
  (keeps_space host).bind fun _ => keeps_requireTool (inside _ _) op

theorem keeps_setLinkState (inside : ∀ space argv, Keeps R (runTool (inside space argv)))
    (a b : HostId) (state : LinkState) : Keeps R (setLinkState a b state) := by
  unfold setLinkState
  refine (Keeps.reads _).bind fun ends => ?_
  cases ends with
  | none => exact .fail _
  | some ends =>
    exact (keeps_switchEnd inside _ ends.a ends.aName state).bind fun _ =>
      keeps_switchEnd inside _ ends.b ends.bName state

/-! ## Starting processes -/

theorem keeps_openLog
    (files : ∀ net files, R net { net with machine := { net.machine with files } })
    (title : String) : Keeps R (openLog title) := by
  unfold openLog
  refine (Keeps.reads _).bind fun config => ?_
  split
  · exact Keeps.map (fun net => files net _) some
  · exact .pure none

theorem keeps_exec (h : AcrossProcesses R) (host : HostId) (request : ExecRequest) :
    Keeps R (exec host request) := by
  unfold exec
  refine (keeps_space host).bind fun name => ?_
  refine (Keeps.reads _).bind fun config => ?_
  refine (Keeps.require _ _).bind fun _ => ?_
  refine ((keeps_openLog h.files request.title).mapError _).bind fun log => ?_
  intro net
  rw [Action.reads_bind]
  refine Keeps.bind_from (h.start net name (shownArgv config request) log) fun pid => ?_
  exact (Keeps.modify fun net => h.book net _).bind fun _ => .pure pid

/-! ## Ending processes -/

theorem keeps_reapIfEnded (reap : ∀ net pid, R net (net.reap pid)) (pid : Pid)
    (net : Namespaces) : R net (net.reapIfEnded pid).2 := by
  rcases reapIfEnded_cases pid net with ⟨-, -, h⟩ | ⟨-, h⟩
  · rw [h]
    exact reap net pid
  · rw [h]
    exact refl_of R net

theorem keeps_isAlive (reap : ∀ net pid, R net (net.reap pid)) (pid : Pid) (net : Namespaces) :
    R net (isAlive pid net).2 := by
  unfold isAlive
  split
  · exact refl_of R net
  split
  · exact keeps_reapIfEnded reap pid net
  · exact refl_of R net

theorem keeps_signalEach
    (signal : ∀ net pid, R net { net with machine := (Machine.signal pid net.machine).2 })
    (pids : List Pid) : Keeps R (signalEach pids) := by
  induction pids with
  | nil => exact .pure ()
  | cons pid pids ih =>
    unfold signalEach
    refine Keeps.bind (fun net => signal net pid) fun sent => ?_
    split
    · exact ih
    · exact ih
    · exact .fail _

theorem keeps_killAll (h : AcrossKills R) (pids : List Pid) : Keeps R (killAll pids) := by
  intro net
  have hrun := h.kill pids net
  unfold killAll
  split
  · exact refl_of R net
  split
  · exact keeps_signalEach h.signal pids net
  split
  · next he =>
    rw [he] at hrun
    exact hrun
  · next he =>
    rw [he] at hrun
    split <;> exact hrun

theorem keeps_signalKill (h : AcrossProcesses R) (pid : Pid) : Keeps R (signalKill pid) := by
  intro net
  have hended := keeps_reapIfEnded h.reap pid net
  unfold signalKill
  split
  · exact refl_of R net
  split
  · next he =>
    rw [he] at hended
    exact hended
  · next net₁ he =>
    rw [he] at hended
    have hkilled := trans_of R hended (keeps_killAll h.toAcrossKills
      ((Machine.Family.subtree net₁.machine.ancestry pid).getD [pid]) net₁)
    split
    · next hk =>
      rw [hk] at hkilled
      exact hkilled
    · next net₂ hk =>
      rw [hk] at hkilled
      dsimp only
      split
      · exact trans_of R hkilled (h.reap net₂ pid)
      · exact hkilled

end Testbed.Namespaces
