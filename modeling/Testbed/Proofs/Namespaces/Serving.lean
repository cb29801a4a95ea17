-- Namespaces on a machine that does what it is told. As long as every tool can
-- be started and succeeds, they serve the hosts and the links of a topology
-- that has been built on them.
import Testbed.Proofs.Machine.Running
import Testbed.Proofs.Namespaces.Keeping
import Testbed.Proofs.Namespaces.Switching
import Testbed.Proofs.Scenario.Alike
import Testbed.Proofs.Text.Words
import Testbed.Proofs.Topology.Raised

namespace Testbed

/-! ## Words that can be passed -/

theorem plain_repr (n : Nat) : '\x00' ∉ n.repr.toList := Text.notMem_repr (by decide) n

theorem plain_toString (pid : Pid) : '\x00' ∉ (toString pid).toList := plain_repr pid.toNat

theorem plain_append {s t : String} (hs : '\x00' ∉ s.toList) (ht : '\x00' ∉ t.toList) :
    '\x00' ∉ (s ++ t).toList := by
  rw [String.toList_append, List.mem_append]
  exact not_or.mpr ⟨hs, ht⟩

theorem Plain.append {words more : List String} (h : Plain words) (hmore : Plain more) :
    Plain (words ++ more) := by
  intro word hword
  exact (List.mem_append.mp hword).elim (h word) (hmore word)

namespace Namespaces

/-! ## A willing machine -/

/-- Commands are neither shown in a terminal nor is their output kept. Every tool can be started
and succeeds whenever it is run, and no process is protected from being killed; what becomes of
other commands is left open. -/
structure Willing (net : Namespaces) : Prop where
  terminal : net.config.terminal = none
  logDir : net.config.logDir = none
  plain : '\x00' ∉ net.config.namePrefix.toList
  installed : (net.commandLine ["ip"]).headD "" ∈ net.machine.tools
  succeeds : ∀ n argv, Machine.daemon? argv = none →
    ((net.machine.answer n argv).getD {}).exit = 0
  kills : ∀ n pid, net.machine.answerKill n pid = none

theorem asksPrivileges_same {net net' : Namespaces} (hconfig : net'.config = net.config)
    (h : net.machine.SameTools net'.machine) : net'.asksPrivileges = net.asksPrivileges := by
  rw [asksPrivileges, asksPrivileges, hconfig, h.euid]

theorem Willing.of_same {net net' : Namespaces} (hw : net.Willing)
    (hconfig : net'.config = net.config) (h : net.machine.SameTools net'.machine) :
    net'.Willing := by
  refine ⟨hconfig ▸ hw.terminal, hconfig ▸ hw.logDir, hconfig ▸ hw.plain, ?_, ?_, ?_⟩
  · rw [commandLine, asksPrivileges_same hconfig h, h.tools]
    exact hw.installed
  · rw [h.answer]
    exact hw.succeeds
  · rw [h.kills]
    exact hw.kills

/-- Where `ip` can be run, so can the other tools if privileges are asked for. -/
theorem accept_plain {net : Namespaces} (hinstalled : (net.commandLine ["ip"]).headD "" ∈
    net.machine.tools) {tool : String} {args : List String}
    (htool : tool = "ip" ∨ net.asksPrivileges = true) (hplain : Plain (tool :: args)) :
    net.machine.accept (net.commandLine (tool :: args)) = .ok () := by
  have hsudo : Plain ["sudo", "-n"] := by simp [Plain]
  rw [Machine.accept_iff]
  unfold commandLine at hinstalled ⊢
  split
  · next hask =>
    rw [if_pos hask] at hinstalled
    exact ⟨hsudo.append hplain, hinstalled⟩
  · next hask =>
    rw [if_neg hask] at hinstalled
    exact ⟨hplain, htool.resolve_right hask ▸ hinstalled⟩

/-- A command line that the machine can be given, whatever tool it is for. -/
theorem Willing.accept {net : Namespaces} (hw : net.Willing) {tool : String} {args : List String}
    (htool : tool = "ip" ∨ net.asksPrivileges = true) (hplain : Plain (tool :: args)) :
    net.machine.accept (net.commandLine (tool :: args)) = .ok () :=
  accept_plain hw.installed htool hplain

/-- A tool that is run through `ip` obeys. -/
theorem Willing.obeyed {net : Namespaces} (hw : net.Willing) {args : List String}
    (hplain : Plain args) (hdaemon : Machine.daemon? ("ip" :: args) = none) : net.Obeyed args := by
  have hip : Plain ["ip"] := by simp [Plain]
  have hline : Machine.daemon? (net.commandLine ("ip" :: args)) = none := by
    unfold Machine.daemon? at hdaemon ⊢
    rw [privileged_commandLine]
    exact hdaemon
  exact ⟨hw.accept (Or.inl rfl) (hip.append hplain), fun n => hw.succeeds n _ hline⟩

/-! ## Serving hosts and links -/

/-- The namespaces are those of the hosts, and the links have their interfaces in them. -/
structure Attends (ids : List HostId) (pairs : List HostPair) (net : Namespaces) : Prop where
  willing : net.Willing
  plain : ∀ id ∈ ids, '\x00' ∉ id.name.toList
  named : ∀ id ∈ ids, net.names.get? id = some (net.spaceName id)
  others : ∀ id ∉ ids, net.names.get? id = none
  linked : ∀ pair ∈ pairs, ∃ ends, net.links.get? pair = some ends ∧
    ∀ p ∈ places ends, p.1 ∈ ids ∧ '\x00' ∉ p.2.toList

theorem Willing.plain_spaceName {net : Namespaces} (hw : net.Willing) {id : HostId}
    (h : '\x00' ∉ id.name.toList) : '\x00' ∉ (net.spaceName id).toList :=
  plain_append (plain_append hw.plain (by decide)) h

theorem plain_interfaceName {space : String} (h : '\x00' ∉ space.toList) (n : Nat) :
    '\x00' ∉ (interfaceName space n).toList :=
  plain_append (plain_append h (by decide)) (plain_repr n)

variable {ids : List HostId} {pairs : List HostPair} {net net' : Namespaces}

/-- What attends to hosts and links goes on with that when only the machine has changed, and its
tools are the same. -/
theorem Attends.of_same (h : Attends ids pairs net) (hconfig : net'.config = net.config)
    (hnames : net'.names = net.names) (hlinks : net'.links = net.links)
    (hm : net.machine.SameTools net'.machine) : Attends ids pairs net' := by
  refine ⟨h.willing.of_same hconfig hm, h.plain, ?_, ?_, ?_⟩
  · rw [hnames]
    intro id hid
    rw [spaceName, hconfig]
    exact h.named id hid
  · rw [hnames]
    exact h.others
  · rw [hlinks]
    exact h.linked

theorem Attends.ran (h : Attends ids pairs net) (runs : List Machine.ToolRun) :
    Attends ids pairs (net.ran runs) := h.of_same rfl rfl rfl (sameTools_ran net runs)

/-! ### Commands -/

theorem exec_stranger {host : HostId} (h : net.names.get? host = none) (request : ExecRequest) :
    exec host request net = (.error (.unknownHost host), net) := by
  have hspace : space host net = (.error (.unknownHost host), net) := by simp only [space, h]
  exact Action.bind_error _ hspace

/-- The log is opened and the command line started, one after the other. -/
theorem exec_eq {host : HostId} {name : String} (created : net.names.get? host = some name)
    {request : ExecRequest} (hargv : shownArgv net.config request ≠ []) : exec host request net =
      match openLog request.title net with
      | (.error e, net) => (.error (.io (.execTitled request.title host) e), net)
      | (.ok log, net') =>
        match Machine.start (net'.commandLine (inside name (shownArgv net.config request))) log
          net'.machine with
        | (.error e, machine) =>
          (.error (.io (.execTitled request.title host) e), { net' with machine })
        | (.ok pid, machine) =>
          (.ok pid, { net' with machine, children := pid :: net'.children.filter (· ≠ pid) }) := by
  let op := Operation.execTitled request.title host
  have hsome : (!(shownArgv net.config request).isEmpty) = true := by simpa using hargv
  unfold exec
  rw [Action.bind_ok _ (space_of_name created), Action.reads_bind]
  simp only [hsome]
  rcases hopen : openLog request.title net with ⟨e | log, net'⟩
  · have hlog : ((openLog request.title).mapError (.io op) :
        Action Namespaces SubstrateError _) net = (.error (.io op e), net') := by
      rw [Action.mapError, hopen]
      rfl
    exact (Action.bind_error _ hlog).trans rfl
  · have hlog : ((openLog request.title).mapError (.io op) :
        Action Namespaces SubstrateError _) net = (.ok log, net') := by
      rw [Action.mapError, hopen]
      rfl
    refine (Action.bind_ok _ hlog).trans ?_
    dsimp only
    rw [Action.reads_bind, Action.bind_apply, Action.mapError, Action.within]
    rcases Machine.start (net'.commandLine (inside name (shownArgv net.config request))) log
      net'.machine with ⟨e | pid, machine⟩ <;> rfl

theorem exec_empty {host : HostId} {name : String} (h : net.names.get? host = some name)
    (hterminal : net.config.terminal = none) {request : ExecRequest} (hargv : request.argv = []) :
    exec host request net =
      (.error (.rejected (.execTitled request.title host) .emptyCommandLine), net) := by
  unfold exec
  rw [Action.bind_ok _ (space_of_name h), Action.reads_bind, shownArgv, hterminal]
  simp only [hargv]
  rfl

theorem openLog_none (hw : net.Willing) (title : String) :
    openLog title net = (.ok none, net) := by
  unfold openLog
  rw [Action.reads_bind, hw.terminal, hw.logDir]
  rfl

/-- A command is started inside the namespace of its host. -/
theorem exec_started (hw : net.Willing) {host : HostId} {name : String}
    (h : net.names.get? host = some name) (hname : '\x00' ∉ name.toList) {request : ExecRequest}
    (hargv : request.argv ≠ []) (hplain : Plain request.argv) :
    ∃ pid machine, exec host request net = (.ok pid,
      { net with machine, children := pid :: net.children.filter (· ≠ pid) }) ∧
      net.machine.SameTools machine := by
  have hwords : Plain ["ip", "netns", "exec", name] := by simp [Plain, hname]
  have haccept : net.machine.accept (net.commandLine (inside name request.argv)) = .ok () :=
    hw.accept (Or.inl rfl) (hwords.append hplain)
  obtain ⟨machine, hstart, hsame⟩ := Machine.start_accepted haccept none
  have hshown : shownArgv net.config request = request.argv := by rw [shownArgv, hw.terminal]
  refine ⟨net.machine.nextPid, machine, ?_, hsame⟩
  rw [exec_eq h (by rwa [hshown]), openLog_none hw, hshown]
  dsimp only
  rw [hstart]

/-! ### Links and processes -/

theorem plain_text (state : LinkState) : '\x00' ∉ state.text.toList := by
  cases state <;> decide

/-- The interface of a link can always be switched. -/
theorem Attends.switchEnd (h : Attends ids pairs net) {p : HostId × String} (hp : p.1 ∈ ids)
    (hname : '\x00' ∉ p.2.toList) (op : Operation) (state : LinkState) :
    Namespaces.switchEnd op p.1 p.2 state net =
      (.ok (), net.ran [net.switchRun (net.spaceName p.1) p.2 state]) := by
  have hspace := h.willing.plain_spaceName (h.plain p.1 hp)
  refine switchEnd_obeyed (h.named p.1 hp) (h.willing.obeyed ?_ rfl) op
  simp [Plain, hspace, hname, plain_text]

theorem Attends.setLinkState (h : Attends ids pairs net) {a b : HostId} (hpair : .of a b ∈ pairs)
    (state : LinkState) :
    ∃ runs, Namespaces.setLinkState a b state net = (.ok (), net.ran runs) := by
  obtain ⟨ends, hends, hplaces⟩ := h.linked _ hpair
  obtain ⟨ha, haName⟩ := hplaces _ (mem_places.mpr (Or.inl rfl))
  obtain ⟨hb, hbName⟩ := hplaces _ (mem_places.mpr (Or.inr rfl))
  rw [setLinkState_eq hends, Action.bind_ok _ (h.switchEnd ha haName _ state),
    (h.ran _).switchEnd hb hbName _ state, ran_ran]
  exact ⟨_, rfl⟩

theorem Attends.reap (h : Attends ids pairs net) (pid : Pid) : Attends ids pairs (net.reap pid) :=
  h.of_same rfl rfl rfl (Machine.quiet_wait pid net.machine).toSameTools

theorem daemon?_kill (net : Namespaces) (args : List String) :
    Machine.daemon? (net.commandLine ("kill" :: args)) = none := by
  unfold commandLine
  split <;> rfl

/-- A run of the tool that kills succeeds where privileges are asked for. -/
theorem Willing.runTool_kill (hw : net.Willing) (hask : net.asksPrivileges = true)
    {args : List String} (hplain : Plain args) :
    ∃ reply machine, runTool ("kill" :: args) net = (.ok reply, { net with machine }) ∧
      reply.succeeded = true ∧ net.machine.SameTools machine := by
  have hkill : Plain ["kill"] := by simp [Plain]
  have haccept : net.machine.accept (net.commandLine ("kill" :: args)) = .ok () :=
    hw.accept (Or.inr hask) (hkill.append hplain)
  have hexit := hw.succeeds net.machine.runs.length _ (daemon?_kill net args)
  have hran := Machine.ran_run (net.commandLine ("kill" :: args)) net.machine
  unfold Machine.run at hran
  unfold runTool Action.within Machine.run
  rw [haccept] at hran ⊢
  exact ⟨_, _, rfl, decide_eq_true hexit, hran.tools⟩

/-- A process that is sent a signal ends, or it is gone already. -/
theorem Attends.signalEach (h : Attends ids pairs net) (pids : List Pid) :
    ∃ net', Namespaces.signalEach pids net = (.ok (), net') ∧ Attends ids pairs net' := by
  induction pids generalizing net with
  | nil => exact ⟨net, rfl, h⟩
  | cons pid pids ih =>
    have hsame := (Machine.quiet_signal pid net.machine).toSameTools
    obtain ⟨net', hrest, h'⟩ := ih (h.of_same rfl rfl rfl hsame :
      Attends ids pairs { net with machine := (Machine.signal pid net.machine).2 })
    refine ⟨net', (signalEach_goes_on (fun e hrefused => ?_) pids).trans hrest, h'⟩
    unfold Machine.killRefusal? at hrefused
    split at hrefused
    · exact (Option.some.inj hrefused).symm
    · rw [h.willing.kills] at hrefused
      cases hrefused

/-- Killing always succeeds, be it one process after the other or all by one tool run. -/
theorem Attends.killAll (h : Attends ids pairs net) (pids : List Pid) :
    ∃ net', Namespaces.killAll pids net = (.ok (), net') ∧ Attends ids pairs net' := by
  unfold Namespaces.killAll
  split
  · exact ⟨net, rfl, h⟩
  split
  · exact h.signalEach pids
  · next hask =>
    have hwords : Plain ("-KILL" :: pids.map toString) := by
      have hpids : Plain (pids.map toString) := by
        intro word hword
        obtain ⟨pid, -, rfl⟩ := List.mem_map.mp hword
        exact plain_toString pid
      have hsignal : Plain ["-KILL"] := by simp [Plain]
      exact hsignal.append hpids
    obtain ⟨reply, machine, hrun, hreply, hsame⟩ :=
      h.willing.runTool_kill (by simpa using hask) hwords
    simp only [hrun, hreply]
    exact ⟨_, rfl, h.of_same rfl rfl rfl hsame⟩

theorem Attends.signalKill (h : Attends ids pairs net) (pid : Pid) :
    ∃ net', Namespaces.signalKill pid net = (.ok (), net') ∧ Attends ids pairs net' := by
  unfold Namespaces.signalKill
  by_cases hreaped : pid ∈ net.reaped
  · rw [if_pos hreaped]
    exact ⟨net, rfl, h⟩
  rw [if_neg hreaped]
  rcases net.reapIfEnded_cases pid with ⟨-, -, hended⟩ | ⟨-, hended⟩
  · rw [hended]
    exact ⟨_, rfl, h.reap pid⟩
  · rw [hended]
    obtain ⟨net', hkill, h'⟩ :=
      h.killAll ((Machine.Family.subtree net.machine.ancestry pid).getD [pid])
    dsimp only
    rw [hkill]
    refine ⟨_, rfl, ?_⟩
    split
    · exact h'.reap pid
    · exact h'

theorem serves (ids : List HostId) (pairs : List HostPair) :
    Serves ids pairs (Attends ids pairs) where
  starts {net host request} h hhost hargv hplain := by
    have hname := h.willing.plain_spaceName (h.plain host hhost)
    obtain ⟨pid, machine, hexec, hsame⟩ :=
      exec_started h.willing (h.named host hhost) hname hargv hplain
    exact ⟨pid, _, hexec, h.of_same rfl rfl rfl hsame⟩
  empty {net host request} h hhost hargv :=
    ⟨_, _, net, exec_empty (h.named host hhost) h.willing.terminal hargv, h⟩
  stranger {net host} request h hhost := ⟨net, exec_stranger (h.others host hhost) request, h⟩
  switches {net a b} state h hpair := by
    obtain ⟨runs, hset⟩ := h.setLinkState hpair state
    exact ⟨_, hset, h.ran runs⟩
  kills {net} pid h := h.signalKill pid
  elapses {net} d h := h

/-! ## Building a topology -/

/-- The number of links that end at a host. -/
def linkEnds (links : List Link) (host : HostId) : Nat :=
  links.countP fun l => host = l.a ∨ host = l.b

/-- The machine is willing, nothing has been created on it yet, and all the names that a topology
needs can be given. -/
structure Ready (t : Topology) (net : Namespaces) : Prop where
  willing : net.Willing
  names : net.names = ∅
  counts : net.interfaceCounts = ∅
  plain : ∀ id ∈ t.ids, '\x00' ∉ id.name.toList
  short : ∀ id ∈ t.ids, ∀ n < linkEnds t.links id,
    (interfaceName (net.spaceName id) n).utf8ByteSize ≤ maxInterfaceName

theorem createHosts_willing (hw : net.Willing) {hosts : List Host}
    (hplain : ∀ host ∈ hosts, '\x00' ∉ host.id.name.toList) :
    ∃ net', Topology.createHosts hosts net =
        (.ok (), hosts.map fun h => { h with context := some ⟨net.spaceName h.id⟩ }, net') ∧
      net'.Willing ∧ net'.interfaceCounts = net.interfaceCounts := by
  induction hosts generalizing net with
  | nil => exact ⟨net, rfl, hw, rfl⟩
  | cons host hosts ih =>
    have hspace := hw.plain_spaceName (hplain host List.mem_cons_self)
    have hadd : net.Obeyed ["netns", "add", net.spaceName host.id] :=
      hw.obeyed (by simp [Plain, hspace]) rfl
    obtain ⟨runs, hhost⟩ := createHost_obeyed host.id hadd
    have hw' : ((net.named host.id).ran runs).Willing := hw.of_same rfl (sameTools_ran _ runs)
    obtain ⟨net', hrest, hwilling, hcounts⟩ :=
      ih hw' fun x hx => hplain x (List.mem_cons_of_mem host hx)
    have hcreate : Substrate.createHost host.id net =
      (.ok ⟨net.spaceName host.id⟩, (net.named host.id).ran runs) := hhost
    refine ⟨net', ?_, hwilling, hcounts⟩
    rw [Topology.createHosts, hcreate]
    dsimp only
    rw [hrest]
    rfl

theorem used_laid (net : Namespaces) {ends : InterfacePair} (hab : ends.a ≠ ends.b)
    (host : HostId) : (net.laid ends).used host =
      net.used host + if host = ends.a ∨ host = ends.b then 1 else 0 := by
  have hlaid : (net.laid ends).used host = ((net.counted ends.a).counted ends.b).used host := rfl
  rw [hlaid, used_counted, used_counted, used_counted, if_neg hab]
  by_cases ha : host = ends.a
  · subst ha
    simp [hab.symm]
  · by_cases hb : host = ends.b
    · subst hb
      simp
    · simp [ha, hb, Ne.symm ha, Ne.symm hb]

/-- A link can be laid if the next name of each of its hosts is short enough. -/
theorem createLink_willing (hw : net.Willing) (hplain : ∀ id ∈ ids, '\x00' ∉ id.name.toList)
    (hnamed : ∀ id ∈ ids, net.names.get? id = some (net.spaceName id)) {l : Link}
    (hl : l.Fits ids) (hshort : ∀ id ∈ ids, id = l.a ∨ id = l.b →
      (interfaceName (net.spaceName id) (net.used id)).utf8ByteSize ≤ maxInterfaceName) :
    ∃ ends runs, ends.a = l.a ∧ ends.b = l.b ∧
      createLink l.a l.b l.params net = (.ok (), (net.laid ends).ran runs) := by
  have hname : ∀ id ∈ ids, '\x00' ∉ (interfaceName (net.spaceName id) (net.used id)).toList := by
    intro id hid
    exact plain_interfaceName (hw.plain_spaceName (hplain id hid)) (net.used id)
  have hattach : ∀ id ∈ ids, id = l.a ∨ id = l.b →
      net.Attachable (net.spaceName id) (interfaceName (net.spaceName id) (net.used id)) := by
    intro id hid hend
    have hspace := hw.plain_spaceName (hplain id hid)
    refine ⟨hshort id hid hend, hw.obeyed ?_ rfl, hw.obeyed ?_ rfl⟩
    · simp [Plain, hspace, hname id hid]
    · simp [Plain, hspace, hname id hid]
  have hadd : net.Obeyed ["link", "add", interfaceName (net.spaceName l.a) (net.used l.a), "type",
      "veth", "peer", "name", interfaceName (net.spaceName l.b) (net.used l.b)] := by
    refine hw.obeyed ?_ rfl
    simp [Plain, hname _ hl.a_known, hname _ hl.b_known]
  obtain ⟨runs, hlink⟩ := createLink_obeyed hl.distinct (hnamed _ hl.a_known)
    (hnamed _ hl.b_known) rfl hadd (hattach _ hl.a_known (Or.inl rfl))
    (hattach _ hl.b_known (Or.inr rfl)) l.params
  exact ⟨_, runs, rfl, rfl, hlink⟩

/-- All links can be laid if the names are short enough for as many ends as each host has. -/
theorem createLinks_willing (hw : net.Willing) (hplain : ∀ id ∈ ids, '\x00' ∉ id.name.toList)
    (hnamed : ∀ id ∈ ids, net.names.get? id = some (net.spaceName id)) {links : List Link}
    (hfits : ∀ l ∈ links, l.Fits ids)
    (hshort : ∀ id ∈ ids, ∀ n < net.used id + linkEnds links id,
      (interfaceName (net.spaceName id) n).utf8ByteSize ≤ maxInterfaceName) :
    ∃ net', Topology.createLinks links net = (.ok (), net') ∧ net'.Willing ∧
      net'.names = net.names := by
  induction links generalizing net with
  | nil => exact ⟨net, rfl, hw, rfl⟩
  | cons l links ih =>
    have hl := hfits l List.mem_cons_self
    have hnext : ∀ id ∈ ids, id = l.a ∨ id = l.b →
        (interfaceName (net.spaceName id) (net.used id)).utf8ByteSize ≤ maxInterfaceName := by
      intro id hid hend
      refine hshort id hid _ ?_
      simp [linkEnds, hend]
    obtain ⟨ends, runs, ha, hb, hlink⟩ := createLink_willing hw hplain hnamed hl hnext
    have hw' : ((net.laid ends).ran runs).Willing := hw.of_same rfl (sameTools_ran _ runs)
    -- The link has used up no more than what it was counted for.
    have hshort' : ∀ id ∈ ids, ∀ n < ((net.laid ends).ran runs).used id + linkEnds links id,
        (interfaceName (net.spaceName id) n).utf8ByteSize ≤ maxInterfaceName := by
      intro id hid n hn
      have hused : ((net.laid ends).ran runs).used id = (net.laid ends).used id := rfl
      rw [hused, used_laid net (by rw [ha, hb]; exact hl.distinct), ha, hb] at hn
      refine hshort id hid n ?_
      simp only [linkEnds, List.countP_cons, decide_eq_true_eq] at hn ⊢
      omega
    obtain ⟨net', hrest, hwilling, hnames⟩ :=
      ih hw' hnamed (fun x hx => hfits x (List.mem_cons_of_mem l hx)) hshort'
    exact ⟨net', (Action.bind_ok _ hlink).trans hrest, hwilling, hnames⟩

/-- Links that have been laid are attended to. -/
theorem Attends.of_wired {links : List Link} (hw : net.Willing)
    (hplain : ∀ id ∈ ids, '\x00' ∉ id.name.toList) (hothers : ∀ id ∉ ids, net.names.get? id = none)
    (hwired : net.Wired ids links) : Attends ids (links.map Link.pair) net := by
  refine ⟨hw, hplain, hwired.named, hothers, ?_⟩
  intro pair hpair
  obtain ⟨l, hl, rfl⟩ := List.mem_map.mp hpair
  obtain ⟨ends, hends, -, -⟩ := hwired.stored l hl
  refine ⟨ends, hends, ?_⟩
  intro p hp
  have hknown := hwired.host_known hl hends hp
  obtain ⟨n, -, hname⟩ := hwired.numbered l hl ends hends p hp
  exact ⟨hknown, hname ▸ plain_interfaceName (hw.plain_spaceName (hplain _ hknown)) n⟩

/-- The namespaces once all hosts of a topology have been created. -/
theorem Ready.createHosts {t : Topology} (h : net.Ready t) :
    ∃ net', Topology.createHosts t.hosts net =
        (.ok (), t.hosts.map fun h => { h with context := some ⟨net.spaceName h.id⟩ }, net') ∧
      net'.Willing ∧ (∀ id, net'.spaceName id = net.spaceName id) ∧ (∀ id, net'.used id = 0) ∧
      (∀ id ∈ t.ids, net'.names.get? id = some (net'.spaceName id)) ∧
      ∀ id ∉ t.ids, net'.names.get? id = none := by
  have hplain : ∀ host ∈ t.hosts, '\x00' ∉ host.id.name.toList := by
    intro host hmem
    exact h.plain _ (List.mem_map_of_mem hmem)
  obtain ⟨net', hhosts, hw, hcounts⟩ := createHosts_willing h.willing hplain
  obtain ⟨hconfig, hnames⟩ := createHosts_ok hhosts
  have hspace : ∀ id, net'.spaceName id = net.spaceName id := by
    intro id
    rw [spaceName, spaceName, hconfig]
  refine ⟨net', hhosts, hw, hspace, ?_, ?_, ?_⟩
  · intro id
    simp [used, hcounts, h.counts]
  · intro id hid
    rw [hspace]
    exact (hnames id).trans (if_pos hid)
  · intro id hid
    have hname := (hnames id).trans (if_neg hid)
    rwa [h.names] at hname

/-- A topology that has not been built can be built on a machine that is ready for it. -/
theorem instantiate_ready {t : Topology} (built : t.Built) (hi : t.instantiated = false)
    (h : net.Ready t) : ∃ t' net', Topology.instantiate (t, net) = (.ok (), t', net') ∧
      t'.bare = t.raised.bare ∧ Attends t.ids (t.links.map Link.pair) net' := by
  obtain ⟨net₁, hhosts, hw₁, hspace, hused, hnamed, hothers⟩ := h.createHosts
  have hshort : ∀ id ∈ t.ids, ∀ n < net₁.used id + linkEnds t.links id,
      (interfaceName (net₁.spaceName id) n).utf8ByteSize ≤ maxInterfaceName := by
    intro id hid n hn
    rw [hused, Nat.zero_add] at hn
    rw [hspace]
    exact h.short id hid n hn
  obtain ⟨net₂, hlinks, hw₂, hnames⟩ := createLinks_willing hw₁ h.plain hnamed built.fits hshort
  have hup : Topology.instantiate (t, net) = (.ok (), { t with
      hosts := t.hosts.map fun h => { h with context := some ⟨net.spaceName h.id⟩ }
      instantiated := true }, net₂) := by
    simp only [Topology.instantiate, hi, hhosts, hlinks, Bool.false_eq_true, if_false]
  obtain ⟨hwired, -⟩ := instantiate_ok built hup
  have hids : (t.hosts.map fun h : Host =>
      { h with context := some ⟨net.spaceName h.id⟩ }).map Host.id = t.ids := by
    rw [List.map_map]
    rfl
  rw [Topology.ids, hids] at hwired
  rw [← hnames] at hothers
  refine ⟨_, net₂, hup, ?_, .of_wired hw₂ h.plain hothers hwired⟩
  simp [Topology.bare, Topology.raised, Function.comp_def]

end Namespaces

end Testbed
