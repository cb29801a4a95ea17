-- Letting namespaces go. Whatever was done with them, and whichever tools have
-- failed, a namespace that was added belongs to a host, and the substrate
-- deletes the namespaces of all hosts when it is let go. So nothing is left
-- behind on the machine, also where a session did not even come up.
import Testbed.Proofs.Namespaces.Numbers
import Testbed.Proofs.Namespaces.Serving
import Testbed.Proofs.Namespaces.Spaces
import Testbed.Session

namespace Testbed

theorem Table.mem_values_of_get? {κ α : Type} [DecidableEq κ] {t : Table κ α} {k : κ} {v : α}
    (h : t.get? k = some v) : v ∈ t.values := List.mem_map_of_mem (Table.mem_rows_of_get? h)

theorem Table.mem_values_insert {κ α : Type} [DecidableEq κ] {t : Table κ α} {k : κ} {v w : α}
    (h : w ∈ (t.insert k v).values) : w = v ∨ w ∈ t.values := by
  obtain ⟨rows⟩ := t
  change w ∈ (put k v rows).map (·.2) at h
  change w = v ∨ w ∈ rows.map (·.2)
  induction rows with
  | nil => exact Or.inl (List.mem_singleton.mp h)
  | cons r rs ih =>
    rw [put] at h
    split at h
    · rcases List.mem_cons.mp h with hw | hw
      · exact Or.inl hw
      · exact Or.inr (List.mem_cons_of_mem _ hw)
    · rcases List.mem_cons.mp h with hw | hw
      · exact Or.inr (hw ▸ List.mem_cons_self)
      · exact (ih hw).imp_right (List.mem_cons_of_mem _)

/-! ## What runs were to do with a namespace -/

namespace Machine

/-- What a run was to do with a namespace, whether it did or not: add it or delete it. -/
def ToolRun.asked? (space : String) (run : ToolRun) : Option Bool :=
  match privileged run.argv with
  | ["ip", "netns", "add", s] => if s = space then some true else none
  | ["ip", "netns", "del", s] => if s = space then some false else none
  | _ => none

/-- The last thing that runs were to do with a namespace. -/
def lastAsked? (runs : List ToolRun) (space : String) : Option Bool :=
  (runs.filterMap (ToolRun.asked? space)).getLast?

/-- The later runs were to delete, in the end, every namespace that one of them has added. -/
def CleanedUp (before after : List ToolRun) : Prop :=
  ∃ later, after = before ++ later ∧ ∀ space,
    (∃ run ∈ later, run.stands? space = some true) → lastAsked? later space = some false

theorem lastAsked?_append {runs more : List ToolRun} {space : String}
    (hadd : ∀ run ∈ more, run.asked? space ≠ some true)
    (hdel : ∃ run ∈ more, run.asked? space = some false) :
    lastAsked? (runs ++ more) space = some false := by
  obtain ⟨run, hrun, hasked⟩ := hdel
  have hmem : false ∈ more.filterMap (ToolRun.asked? space) :=
    List.mem_filterMap.mpr ⟨run, hrun, hasked⟩
  rcases hlast : (more.filterMap (ToolRun.asked? space)).getLast? with _ | asked
  · rw [List.getLast?_eq_none_iff.mp hlast] at hmem
    cases hmem
  · obtain ⟨last, hlastRun, hlastAsked⟩ := List.mem_filterMap.mp (List.mem_of_getLast? hlast)
    rw [lastAsked?, List.filterMap_append, List.getLast?_append, hlast, Option.some_or]
    cases asked with
    | false => rfl
    | true => exact absurd hlastAsked (hadd last hlastRun)

end Machine

namespace Namespaces

open Testbed.Action (Keeps)
open Machine (CleanedUp ToolRun)

/-! ## What adds no namespace -/

/-- None of the runs has added a namespace. -/
def AddsNone (runs : List ToolRun) : Prop := ∀ run ∈ runs, ∀ space, run.stands? space ≠ some true

theorem addsNone_nil : AddsNone [] := by simp [AddsNone]

theorem AddsNone.append {runs more : List ToolRun} (h : AddsNone runs) (hmore : AddsNone more) :
    AddsNone (runs ++ more) :=
  fun run hrun => (List.mem_append.mp hrun).elim (h run) (hmore run)

/-- What fails adds nothing. -/
theorem addsNone_failed {runs : List ToolRun} (h : ∀ run ∈ runs, run.exit ≠ some 0) :
    AddsNone runs := by
  intro run hrun space hstands
  unfold ToolRun.stands? at hstands
  split at hstands <;> simp [h run hrun] at hstands

/-- From one state to another one no namespace is added and none is named. -/
structure Spared (net net' : Namespaces) : Prop where
  names : net'.names = net.names
  config : net'.config = net.config
  tools : net.machine.SameTools net'.machine
  runs : ∃ more, net'.machine.runs = net.machine.runs ++ more ∧ AddsNone more

theorem Spared.refl (net : Namespaces) : Spared net net :=
  ⟨rfl, rfl, .refl _, [], (List.append_nil _).symm, addsNone_nil⟩

theorem Spared.ran {runs : List ToolRun} (h : AddsNone runs) (net : Namespaces) :
    Spared net (net.ran runs) := ⟨rfl, rfl, sameTools_ran net runs, runs, rfl, h⟩

theorem Spared.trans {net₁ net₂ net₃ : Namespaces} (h : Spared net₁ net₂) (h' : Spared net₂ net₃) :
    Spared net₁ net₃ := by
  obtain ⟨more, hmore, hnone⟩ := h.runs
  obtain ⟨more', hmore', hnone'⟩ := h'.runs
  exact ⟨h'.names.trans h.names, h'.config.trans h.config, h.tools.trans h'.tools,
    more ++ more', by rw [hmore', hmore, List.append_assoc], hnone.append hnone'⟩

instance : IsPreorder Namespaces Spared where
  refl := .refl
  trans _ _ _ := .trans

/-- What is done to processes alone adds no namespace. -/
theorem Spared.of_quiet {net net' : Namespaces} (names : net'.names = net.names)
    (config : net'.config = net.config) (quiet : net.machine.Quiet net'.machine) :
    Spared net net' :=
  ⟨names, config, quiet.toSameTools, [], by rw [quiet.runs, List.append_nil], addsNone_nil⟩

/-- A run with the words of a tool adds no namespace, unless these words do. -/
theorem not_added {argv : List String} (bare : Machine.privileged argv = argv)
    (other : ∀ space, argv ≠ ["ip", "netns", "add", space]) {net : Namespaces} {run : ToolRun}
    (hrun : run.argv = net.commandLine argv) (space : String) :
    run.stands? space ≠ some true := by
  have hargv : Machine.privileged run.argv = argv := by
    rw [hrun, commandLine]
    split
    · rfl
    · exact bare
  simp only [ToolRun.stands?, hargv]
  split
  · exact absurd rfl (other _)
  · simp
  · simp

theorem Spared.of_ran {argv : List String} (bare : Machine.privileged argv = argv)
    (other : ∀ space, argv ≠ ["ip", "netns", "add", space]) {net : Namespaces} {machine : Machine}
    (h : Machine.Ran (net.commandLine argv) net.machine machine) :
    Spared net { net with machine } := by
  obtain ⟨more, hmore, hargv⟩ := h.runs
  exact ⟨rfl, rfl, h.tools, more, hmore, fun run hrun => not_added bare other (hargv run hrun)⟩

/-! ## Actions that add no namespace -/

theorem spared_runTool {argv : List String} (bare : Machine.privileged argv = argv)
    (other : ∀ space, argv ≠ ["ip", "netns", "add", space]) : Keeps Spared (runTool argv) :=
  fun net => .of_ran bare other (Machine.ran_run _ net.machine)

/-- A deletion of a namespace adds none. -/
theorem spared_deleteSpace (space : String) : Keeps Spared (deleteSpace space) :=
  keeps_tryTool (spared_runTool rfl (by simp))

theorem acrossLinks_spared : AcrossLinks Spared where
  inside _ _ := spared_runTool rfl (by simp [inside])
  move _ _ := spared_runTool rfl (by simp)
  clear _ := spared_runTool rfl (by simp)
  add _ _ := spared_runTool rfl (by simp)
  note _ _ := .of_quiet rfl rfl (.refl _)

theorem acrossEvents_spared : AcrossEvents Spared where
  signal net pid := .of_quiet rfl rfl (Machine.quiet_signal pid net.machine)
  kill _ := spared_runTool rfl (by simp)
  files _ _ := .of_quiet rfl rfl (Machine.quiet_beside ..)
  start net _ _ log := .of_ran rfl (by simp [inside]) (Machine.ran_start _ log net.machine)
  book _ _ := .of_quiet rfl rfl (.refl _)
  reap net pid := .of_quiet rfl rfl (Machine.quiet_wait pid net.machine)
  finish net pid := .of_quiet rfl rfl (Machine.quiet_finish pid net.machine)
  plan _ _ := .of_quiet rfl rfl (Machine.quiet_beside ..)

theorem spared_attach (op : Operation) (host : HostId) (i : String) (params : LinkParams) :
    Keeps Spared (attach op host i params) :=
  keeps_attach acrossLinks_spared.toAcrossEnds op host i params

theorem spared_createLink (a b : HostId) (params : LinkParams) :
    Keeps Spared (createLink a b params) :=
  keeps_createLink acrossLinks_spared (fun _ _ => .of_quiet rfl rfl (.refl _)) a b params

theorem spared_setLinkState (a b : HostId) (state : LinkState) :
    Keeps Spared (setLinkState a b state) :=
  keeps_setLinkState acrossLinks_spared.inside a b state

/-- A run whose success does not matter adds no namespace, unless its words do. -/
theorem tryTool_addsNone (args : List String) (other : ∀ space, args ≠ ["netns", "add", space])
    (net : Namespaces) :
    ∃ runs, tryTool ("ip" :: args) net = (.ok (), net.ran runs) ∧ AddsNone runs := by
  rcases tryTool_cases args net with ⟨-, h⟩ | ⟨exit, h⟩
  · exact ⟨[], by rw [ran_nil, h], addsNone_nil⟩
  · refine ⟨_, h, ?_⟩
    intro run hrun
    rw [List.mem_singleton.mp hrun]
    exact not_added rfl (fun space h => other space (List.cons.inj h).2) rfl

theorem deleteSpace_addsNone (net : Namespaces) (space : String) :
    ∃ runs, deleteSpace space net = (.ok (), net.ran runs) ∧ AddsNone runs :=
  tryTool_addsNone ["netns", "del", space] (by simp) net

/-! ## Namespaces that belong to hosts -/

theorem Spared.commandLine {net net' : Namespaces} (h : Spared net net') (argv : List String) :
    net'.commandLine argv = net.commandLine argv := by
  rw [Namespaces.commandLine, Namespaces.commandLine, asksPrivileges_same h.config h.tools]

/-- The tool that deletes a namespace can be started. -/
def Deletable (net : Namespaces) (space : String) : Prop :=
  net.machine.accept (net.commandLine ["ip", "netns", "del", space]) = .ok ()

theorem Spared.deletable {net net' : Namespaces} (h : Spared net net') {space : String}
    (hdel : net.Deletable space) : net'.Deletable space := by
  rw [Deletable, h.commandLine, h.tools.accept]
  exact hdel

theorem Spared.spaceName {net net' : Namespaces} (h : Spared net net') (host : HostId) :
    net'.spaceName host = net.spaceName host := by
  rw [Namespaces.spaceName, Namespaces.spaceName, h.config]

/-- Since some earlier runs just namespaces of hosts have been added, and all of them can be
deleted. -/
structure Owned (before : List ToolRun) (net : Namespaces) : Prop where
  named : net.Named
  added : ∃ later, net.machine.runs = before ++ later ∧ ∀ run ∈ later, ∀ space,
    run.stands? space = some true → ∃ host, net.names.get? host = some space
  deletable : ∀ space ∈ net.names.values, net.Deletable space

namespace Owned

variable {before : List ToolRun} {net net' : Namespaces}

theorem new (config : NamespaceConfig) (machine : Machine) :
    Owned machine.runs { config, machine } := by
  refine ⟨?_, ⟨[], by simp⟩, ?_⟩
  · intro host name h
    cases h
  · intro space h
    cases h

theorem spared (h : Owned before net) (hs : Spared net net') : Owned before net' := by
  obtain ⟨later, hlater, hadded⟩ := h.added
  obtain ⟨more, hmore, hnone⟩ := hs.runs
  refine ⟨?_, ⟨later ++ more, by rw [hmore, hlater, List.append_assoc], ?_⟩, ?_⟩
  · intro host name hname
    rw [hs.names] at hname
    rw [hs.spaceName]
    exact h.named host name hname
  · intro run hrun space hstands
    rw [hs.names]
    rcases List.mem_append.mp hrun with hrun | hrun
    · exact hadded run hrun space hstands
    · exact absurd hstands (hnone run hrun space)
  · intro space hspace
    rw [hs.names] at hspace
    exact hs.deletable (h.deletable space hspace)

/-- One more namespace is named, one that can be deleted. -/
theorem name (h : Owned before net) {host : HostId} (hdel : net.Deletable (net.spaceName host)) :
    Owned before (net.named host) := by
  have hget : ∀ other, (net.named host).names.get? other =
      if host = other then some (net.spaceName host) else net.names.get? other :=
    fun other => Table.get?_insert ..
  obtain ⟨later, hlater, hadded⟩ := h.added
  refine ⟨?_, ⟨later, hlater, ?_⟩, ?_⟩
  · intro other space hother
    rw [hget] at hother
    split at hother
    · next heq =>
      cases hother
      rw [heq]
      rfl
    · exact h.named other space hother
  · intro run hrun space hstands
    obtain ⟨other, hother⟩ := hadded run hrun space hstands
    refine ⟨other, ?_⟩
    -- A name that is given again is the same one.
    rw [hget]
    split
    · next heq => rw [heq, ← h.named other space hother]
    · exact hother
  · intro space hspace
    rcases Table.mem_values_insert hspace with rfl | hspace
    · exact hdel
    · exact h.deletable space hspace

/-- A namespace with a name has been added. -/
theorem add (h : Owned before net) {host : HostId} {space : String}
    (hname : net.names.get? host = some space) : Owned before (net.ran [net.addRun space]) := by
  obtain ⟨later, hlater, hadded⟩ := h.added
  refine ⟨h.named, ⟨later ++ [net.addRun space], ?_, ?_⟩, h.deletable⟩
  · rw [← List.append_assoc, ← hlater]
    rfl
  · intro run hrun other hstands
    rcases List.mem_append.mp hrun with hrun | hrun
    · exact hadded run hrun other hstands
    · rw [List.mem_singleton.mp hrun, stands?_addRun] at hstands
      split at hstands
      · next heq => exact ⟨host, heq ▸ hname⟩
      · cases hstands

theorem createHost (h : Owned before net) (host : HostId) :
    Owned before (Namespaces.createHost host net).2 := by
  obtain ⟨r₁, hdel, hr₁⟩ := deleteSpace_addsNone net (net.spaceName host)
  have h₁ : Owned before (net.ran r₁) := h.spared (.ran hr₁ net)
  unfold Namespaces.createHost
  rw [Action.reads_bind, Action.bind_ok _ hdel]
  rcases requireTool_ip (.createNamespace (net.spaceName host)) ["netns", "add", net.spaceName host]
    (net.ran r₁) with hadd | ⟨e, runs, hadd, hfailed⟩
  · have hcan : (net.ran r₁).Deletable (net.spaceName host) := accept_del (accept_of_ok hadd)
    have h₂ : Owned before ((net.named host).ran (r₁ ++ [net.addRun (net.spaceName host)])) := by
      rw [← ran_ran]
      exact (h₁.name hcan).add (Table.get?_insert_self ..)
    rw [ran_toolRun, ran_ran, ← addRun] at hadd
    obtain ⟨r₂, hlo, hr₂⟩ := tryTool_addsNone
      ["netns", "exec", net.spaceName host, "ip", "link", "set", "lo", "up"] (by simp)
      (net.ran (r₁ ++ [net.addRun (net.spaceName host)]))
    have h₃ := h₂.spared (.ran hr₂ _)
    rw [ran_ran] at hlo h₃
    rw [Action.bind_ok _ hadd, inside, Action.bind_ok _ hlo, Action.reads_bind, Action.modify_bind,
      ran_names]
    cases net.names.get? host with
    | none => exact h₃
    | some old => exact h₃.spared ((spared_deleteSpace old).bind (fun _ => .pure _) _)
  · rw [Action.bind_error _ hadd]
    exact h₁.spared (.ran (addsNone_failed hfailed) _)

end Owned

/-! ## Any calls -/

/-- What can be asked of the namespaces, and what can happen to their processes. -/
inductive Call where
  | createHost (host : HostId)
  | createLink (a b : HostId) (params : LinkParams)
  | setLinkState (a b : HostId) (state : LinkState)
  | process (event : Event)

def Call.apply : Call → Namespaces → Namespaces
  | createHost host, net => (Namespaces.createHost host net).2
  | createLink a b params, net => (Namespaces.createLink a b params net).2
  | setLinkState a b state, net => (Namespaces.setLinkState a b state net).2
  | process event, net => event.apply net

/-- The namespaces after some calls, those that failed among them. -/
def called (calls : List Call) (net : Namespaces) : Namespaces :=
  calls.foldl (fun net call => call.apply net) net

theorem Owned.call {before : List ToolRun} {net : Namespaces} (h : Owned before net)
    (call : Call) : Owned before (call.apply net) := by
  cases call with
  | createHost host => exact h.createHost host
  | createLink a b params => exact h.spared (spared_createLink a b params net)
  | setLinkState a b state => exact h.spared (spared_setLinkState a b state net)
  | process event => exact h.spared (keeps_event acrossEvents_spared event net)

theorem Owned.called {before : List ToolRun} {net : Namespaces} (h : Owned before net)
    (calls : List Call) : Owned before (called calls net) := by
  induction calls generalizing net with
  | nil => exact h
  | cons call calls ih => exact ih (h.call call)

/-! ## Letting go -/

theorem asked?_deleteRun (net : Namespaces) (space other : String) (exit : UInt8) :
    (net.deleteRun space exit).asked? other = if space = other then some false else none := by
  simp only [ToolRun.asked?, deleteRun, toolRun, privileged_commandLine]

/-- Every namespace is to be deleted, whatever becomes of the others. -/
theorem deleteSpaces_ran {net : Namespaces} {spaces : List String}
    (h : ∀ space ∈ spaces, net.Deletable space) :
    ∃ runs, spaces.foldl (fun net space => (deleteSpace space net).2) net = net.ran runs ∧
      (∀ run ∈ runs, ∃ space exit, run = net.deleteRun space exit) ∧
      ∀ space ∈ spaces, ∃ exit, net.deleteRun space exit ∈ runs := by
  induction spaces generalizing net with
  | nil => exact ⟨[], by simp⟩
  | cons space spaces ih =>
    rcases tryTool_cases ["netns", "del", space] net with ⟨hno, -⟩ | ⟨exit, hdel⟩
    · exact absurd (h space List.mem_cons_self) hno
    · obtain ⟨runs, hruns, hall, hevery⟩ := ih
        (show ∀ other ∈ spaces, (net.ran [net.deleteRun space exit]).Deletable other from
          fun other hother => h other (List.mem_cons_of_mem space hother))
      refine ⟨net.deleteRun space exit :: runs, ?_, ?_, ?_⟩
      · rw [List.foldl_cons, deleteSpace, hdel]
        exact hruns.trans (ran_ran net [net.deleteRun space exit] runs)
      · intro run hrun
        rcases List.mem_cons.mp hrun with rfl | hrun
        · exact ⟨space, exit, rfl⟩
        · exact hall run hrun
      · intro other hother
        rcases List.mem_cons.mp hother with rfl | hother
        · exact ⟨exit, List.mem_cons_self⟩
        · obtain ⟨exit', hmem⟩ := hevery other hother
          exact ⟨exit', List.mem_cons_of_mem _ hmem⟩

/-- Letting go deletes the namespaces of all hosts. -/
theorem Owned.release_ran {before : List ToolRun} {net : Namespaces} (h : Owned before net) :
    ∃ runs, net.release.machine.runs = net.machine.runs ++ runs ∧
      (∀ run ∈ runs, ∃ space exit, run = net.deleteRun space exit) ∧
      ∀ space ∈ net.names.values, ∃ exit, net.deleteRun space exit ∈ runs := by
  obtain ⟨runs, hruns, hall, hevery⟩ := deleteSpaces_ran
    (show ∀ space ∈ net.names.values, ({ net with names := ∅ } : Namespaces).Deletable space
      from h.deletable)
  refine ⟨runs, ?_, hall, hevery⟩
  rw [release, hruns]
  rfl

/-- Once the namespaces are let go, nothing that was added is left. -/
theorem Owned.cleanedUp {before : List ToolRun} {net : Namespaces} (h : Owned before net) :
    CleanedUp before net.release.machine.runs := by
  obtain ⟨later, hlater, hadded⟩ := h.added
  obtain ⟨runs, hruns, hall, hevery⟩ := h.release_ran
  refine ⟨later ++ runs, by rw [hruns, hlater, List.append_assoc], ?_⟩
  · rintro space ⟨run, hrun, hstands⟩
    -- What was added belongs to a host, so the namespace is among those that are deleted.
    have hnamed : ∃ host, net.names.get? host = some space := by
      rcases List.mem_append.mp hrun with hrun | hrun
      · exact hadded run hrun space hstands
      · obtain ⟨other, exit, rfl⟩ := hall run hrun
        rw [stands?_deleteRun] at hstands
        split at hstands <;> cases hstands
    obtain ⟨host, hhost⟩ := hnamed
    obtain ⟨exit, hdel⟩ := hevery space (Table.mem_values_of_get? hhost)
    refine Machine.lastAsked?_append ?_ ⟨_, hdel, by rw [asked?_deleteRun, if_pos rfl]⟩
    intro run hrun
    obtain ⟨other, exit, rfl⟩ := hall run hrun
    rw [asked?_deleteRun]
    split <;> simp

/-! ## Sessions that do not come up -/

theorem called_append (calls more : List Call) (net : Namespaces) :
    called (calls ++ more) net = called more (called calls net) := List.foldl_append

theorem createHosts_called (hosts : List Host) (net : Namespaces) :
    ∃ calls, (Topology.createHosts hosts net).2.2 = called calls net := by
  induction hosts generalizing net with
  | nil => exact ⟨[], rfl⟩
  | cons host hosts ih =>
    have hone : (Substrate.createHost host.id net).2 = called [.createHost host.id] net := rfl
    unfold Topology.createHosts
    split
    · next he =>
      rw [he] at hone
      exact ⟨_, hone⟩
    · next net₁ he =>
      rw [he] at hone
      obtain ⟨calls, hcalls⟩ := ih net₁
      refine ⟨.createHost host.id :: calls, hcalls.trans ?_⟩
      exact congrArg (called calls) hone

theorem createLinks_called (links : List Link) (net : Namespaces) :
    ∃ calls, (Topology.createLinks links net).2 = called calls net := by
  induction links generalizing net with
  | nil => exact ⟨[], rfl⟩
  | cons l links ih =>
    have hone : (Substrate.createLink l.a l.b l.params net).2 =
        called [.createLink l.a l.b l.params] net := rfl
    rw [Topology.createLinks, Action.bind_apply]
    split
    · next net₁ he =>
      rw [he] at hone
      obtain ⟨calls, hcalls⟩ := ih net₁
      refine ⟨.createLink l.a l.b l.params :: calls, hcalls.trans ?_⟩
      exact congrArg (called calls) hone
    · next he =>
      rw [he] at hone
      exact ⟨_, hone⟩

/-- Building a topology comes down to calls, as far as it gets. -/
theorem instantiate_called (t : Topology) (net : Namespaces) :
    ∃ calls, (Topology.instantiate (t, net)).2.2 = called calls net := by
  obtain ⟨calls, hcalls⟩ := createHosts_called t.hosts net
  unfold Topology.instantiate
  dsimp only
  split
  · exact ⟨[], rfl⟩
  split
  · next he =>
    rw [he] at hcalls
    exact ⟨calls, hcalls⟩
  · next net₁ he =>
    rw [he] at hcalls
    obtain ⟨more, hmore⟩ := createLinks_called t.links net₁
    have hboth : (Topology.createLinks t.links net₁).2 = called (calls ++ more) net := by
      rw [hmore, called_append]
      exact congrArg (called more) hcalls
    split
    · next hl =>
      rw [hl] at hboth
      exact ⟨_, hboth⟩
    · next hl =>
      rw [hl] at hboth
      exact ⟨_, hboth⟩

/-- A session that does not come up leaves the namespaces as far as the building got. -/
theorem start_error {config : Config} {t : Topology} {clock : Clock} {net net' : Namespaces}
    {e : TestbedError} (h : Session.start config t net clock = .error (e, net')) :
    net' = (Topology.instantiate (t, net)).2.2 := by
  unfold Session.start Rig.instantiate Action.within at h
  rcases hup : Topology.instantiate (t, net) with ⟨r, t', s'⟩
  rw [hup] at h
  cases r with
  | ok u => cases h
  | error e' =>
    cases h
    rfl

/-- Whatever is called, in any order and however the tools answer, and also where a session does
not come up: once the namespaces are let go, the last thing that was run on each one that had
been added was to delete it. -/
theorem no_space_is_left_behind (config : NamespaceConfig) (machine : Machine) :
    (∀ calls, CleanedUp machine.runs (called calls { config, machine }).release.machine.runs) ∧
      ∀ (settings : Config) (t : Topology) (clock : Clock) (e : TestbedError) (net : Namespaces),
        Session.start settings t { config, machine } clock = .error (e, net) →
          CleanedUp machine.runs net.release.machine.runs := by
  have hcalled : ∀ calls,
      CleanedUp machine.runs (called calls { config, machine }).release.machine.runs :=
    fun calls => ((Owned.new config machine).called calls).cleanedUp
  refine ⟨hcalled, ?_⟩
  intro settings t clock e net hstart
  obtain ⟨calls, hcalls⟩ := instantiate_called t { config, machine }
  rw [start_error hstart, hcalls]
  exact hcalled calls

/-- A machine that adds no namespace for the host B. -/
def withoutB : Machine where
  answer _ argv := if argv = ["ip", "netns", "add", "mip-B"] then some { exit := 1 } else none

/-- Two hosts cannot be built there. The namespace of the first one was added, and the last run
on it was to delete it. -/
theorem no_space_is_left_behind_without_b : ∃ e net,
    Session.start {} Topology.twoHosts ({ machine := withoutB } : Namespaces) = .error (e, net) ∧
      (∃ run ∈ net.machine.runs, run.stands? "mip-A" = some true) ∧
      Machine.lastAsked? net.release.machine.runs "mip-A" = some false ∧
      CleanedUp [] net.release.machine.runs := by
  obtain ⟨e, net, hstart, hadded, hlast⟩ : ∃ e net,
      Session.start {} Topology.twoHosts ({ machine := withoutB } : Namespaces) =
          .error (e, net) ∧
        (∃ run ∈ net.machine.runs, run.stands? "mip-A" = some true) ∧
        Machine.lastAsked? net.release.machine.runs "mip-A" = some false := by
    refine ⟨_, _, rfl, ?_, ?_⟩ <;> decide +kernel
  exact ⟨e, net, hstart, hadded, hlast,
    (no_space_is_left_behind {} withoutB).2 {} Topology.twoHosts {} e net hstart⟩

end Namespaces

end Testbed
