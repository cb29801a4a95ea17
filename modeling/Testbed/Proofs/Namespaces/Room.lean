-- Room for the names of interfaces. A configuration accepts a prefix only if a
-- host with a name of one byte can put a digit after it, so that ten links of
-- the host have names for their interfaces. Hosts like that come up on the
-- namespaces unless a tool is at fault, and a tool that fails to shape the
-- traffic of a link is not.
import Testbed.Proofs.Namespaces.Release
import Testbed.Proofs.Topology.Catalogue

namespace Testbed

/-! ## The prefix of a configuration -/

namespace Config

theorem utf8ByteSize_of_checkPrefix {given : Option String} {name : String}
    (h : checkPrefix given = .ok name) : name.utf8ByteSize ≤ maxPrefixBytes := by
  unfold checkPrefix at h
  dsimp only at h
  split at h
  · cases h
  · next hflaw =>
    cases h
    unfold prefixFlaw? at hflaw
    split at hflaw
    · cases hflaw
    split at hflaw
    · cases hflaw
    · next hlong => exact Nat.not_lt.mp hlong

theorem exists_ok_of_bind {ε α β : Type} {x : Except ε α} {f : α → Except ε β} {b : β}
    (h : x >>= f = .ok b) : ∃ a, x = .ok a ∧ f a = .ok b := by
  cases x with
  | error e => cases h
  | ok a => exact ⟨a, rfl, h⟩

theorem utf8ByteSize_of_resolve {s : Settings} {c : Config} (h : resolve s = .ok c) :
    c.namespaces.namePrefix.utf8ByteSize ≤ maxPrefixBytes := by
  unfold resolve at h
  obtain ⟨version, -, h⟩ := exists_ok_of_bind h
  obtain ⟨topology, -, h⟩ := exists_ok_of_bind h
  obtain ⟨name, hbytes, h⟩ := exists_ok_of_bind h
  obtain ⟨timings, -, h⟩ := exists_ok_of_bind h
  cases h
  exact utf8ByteSize_of_checkPrefix hbytes

end Config

/-! ## Tools that shape traffic -/

namespace Machine

/-- The run shapes the traffic of an interface in a namespace. -/
def ToolRun.shapes (run : ToolRun) : Bool :=
  match privileged run.argv with
  | "ip" :: "netns" :: "exec" :: _ :: "tc" :: _ => true
  | _ => false

/-- A run has failed that does something else than to shape traffic. -/
def ToolRun.Fails (run : ToolRun) : Prop := run.shapes = false ∧ run.exit ≠ some 0

end Machine

namespace Namespaces

open Machine (ToolRun)

/-! ## Hosts that can be added -/

/-- The tool that adds the namespace of a host can be started, for each of the hosts. -/
def Addable (ids : List HostId) (net : Namespaces) : Prop :=
  ∀ id ∈ ids, net.machine.accept (net.commandLine ["ip", "netns", "add", net.spaceName id]) = .ok ()

section

variable {ids : List HostId} {net net' : Namespaces}

theorem Addable.of_same (h : Addable ids net) (hconfig : net'.config = net.config)
    (hm : net.machine.SameTools net'.machine) : Addable ids net' := by
  intro id hid
  rw [commandLine, asksPrivileges_same hconfig hm, hm.accept, spaceName, hconfig]
  exact h id hid

/-- The name of the namespace can be passed to a tool. -/
theorem Addable.plain (h : Addable ids net) {id : HostId} (hid : id ∈ ids) :
    '\x00' ∉ (net.spaceName id).toList := by
  refine (Machine.accept_iff.mp (h id hid)).1 _ ?_
  unfold commandLine
  split <;> simp

/-- As soon as there is one such host, the tool can be started for other things too. -/
theorem Addable.accept (h : Addable ids net) {id : HostId} (hid : id ∈ ids) {args : List String}
    (hplain : Plain args) : net.machine.accept (net.commandLine ("ip" :: args)) = .ok () := by
  have hip : Plain ["ip"] := by simp [Plain]
  refine accept_plain ?_ (Or.inl rfl) (hip.append hplain)
  have htool := (Machine.accept_iff.mp (h id hid)).2
  unfold commandLine at htool ⊢
  split
  · next hask => rwa [if_pos hask] at htool
  · next hask => rwa [if_neg hask] at htool

end

/-! ## Errors with an excuse -/

/-- From one state to another one tools are run that answer as the machine has it, and for an
error one of these runs is at fault. -/
structure Excused {α : Type} (r : Except SubstrateError α) (net net' : Namespaces) : Prop where
  config : net'.config = net.config
  tools : net.machine.SameTools net'.machine
  runs : ∃ later, net'.machine.runs = net.machine.runs ++ later ∧
    (∀ run ∈ later, ∃ n, run.exit = some ((net.machine.answer n run.argv).getD {}).exit) ∧
    ∀ e, r = .error e → ∃ run ∈ later, run.Fails

namespace Excused

variable {α β : Type} {net net₁ net₂ net₃ : Namespaces}

theorem trans {a : α} {r : Except SubstrateError β} (h : Excused (.ok a) net₁ net₂)
    (h' : Excused r net₂ net₃) : Excused r net₁ net₃ := by
  obtain ⟨more, hmore, hanswered, -⟩ := h.runs
  obtain ⟨more', hmore', hanswered', hfault⟩ := h'.runs
  refine ⟨h'.config.trans h.config, h.tools.trans h'.tools, more ++ more',
    by rw [hmore', hmore, List.append_assoc], ?_, ?_⟩
  · intro run hrun
    rw [h.tools.answer] at hanswered'
    exact (List.mem_append.mp hrun).elim (hanswered run) (hanswered' run)
  · intro e he
    obtain ⟨run, hrun, hfails⟩ := hfault e he
    exact ⟨run, List.mem_append_right _ hrun, hfails⟩

/-- Where no tool is run there is nothing to excuse. -/
theorem of_machine {a : α} (hconfig : net₂.config = net₁.config)
    (h : net₂.machine = net₁.machine) :
    Excused (.ok a : Except SubstrateError α) net₁ net₂ :=
  ⟨hconfig, h ▸ .refl _, [], by rw [h, List.append_nil], by simp, by simp⟩

theorem of_error {r : Except SubstrateError α} {e : SubstrateError} (h : Excused r net₁ net₂)
    (he : r = .error e) : Excused (.error e : Except SubstrateError β) net₁ net₂ := by
  obtain ⟨later, hlater, hanswered, hfault⟩ := h.runs
  refine ⟨h.config, h.tools, later, hlater, hanswered, ?_⟩
  rintro e' he'
  cases he'
  exact hfault e he

theorem addable {ids : List HostId} {r : Except SubstrateError α} (h : Excused r net₁ net₂)
    (hadd : Addable ids net₁) : Addable ids net₂ := hadd.of_same h.config h.tools

end Excused

/-- Where the hosts can be added, what the action does from a state is excused. -/
def Excuses {α : Type} (ids : List HostId) (act : Action Namespaces SubstrateError α)
    (net : Namespaces) : Prop := Addable ids net → Excused (act net).1 net (act net).2

section

variable {α β : Type} {ids : List HostId} {act : Action Namespaces SubstrateError α}
  {next : α → Action Namespaces SubstrateError β} {net : Namespaces}

theorem Excuses.bind (h : Excuses ids act net)
    (hnext : ∀ a, (act net).1 = .ok a → Excuses ids (next a) (act net).2) :
    Excuses ids (act >>= next) net := by
  intro hadd
  have hfirst := h hadd
  rw [Action.bind_apply]
  rcases hact : act net with ⟨e | a, net₁⟩
  · rw [hact] at hfirst
    exact hfirst.of_error rfl
  · rw [hact] at hfirst hnext
    exact hfirst.trans (hnext a rfl (hfirst.addable hadd))

theorem excuses_pure (a : α) : Excuses ids (pure a) net := fun _ => .of_machine rfl rfl

theorem excuses_reads (f : Namespaces → α) : Excuses ids (Action.reads f) net :=
  fun _ => .of_machine rfl rfl

theorem excuses_modify {f : Namespaces → Namespaces} (hconfig : (f net).config = net.config)
    (h : (f net).machine = net.machine) : Excuses ids (Action.modify f) net :=
  fun _ => .of_machine hconfig h

theorem excuses_tryTool (args : List String) (net : Namespaces) :
    Excuses ids (tryTool ("ip" :: args)) net := by
  intro _
  rcases ha : net.machine.accept (net.commandLine ("ip" :: args)) with e | u
  · have htry : tryTool ("ip" :: args) net = (.ok (), net) := by
      simp [tryTool, runTool, Action.within, Machine.run, ha]
    rw [htry]
    exact .of_machine rfl rfl
  · rw [tryTool, runTool_accepted ha]
    refine ⟨rfl, sameTools_ran net _, _, rfl, ?_, by simp⟩
    intro run hrun
    rw [List.mem_singleton.mp hrun]
    exact ⟨net.machine.runs.length, rfl⟩

/-- A tool that has to succeed, and does not shape traffic. -/
theorem excuses_requireTool {id : HostId} (hid : id ∈ ids) (op : Operation) {args : List String}
    (hplain : Plain args)
    (hargs : ∀ space more, args ≠ "netns" :: "exec" :: space :: "tc" :: more) (net : Namespaces) :
    Excuses ids (requireTool op ("ip" :: args)) net := by
  intro hadd
  have hrun := runTool_accepted (hadd.accept hid hplain)
  have hanswered : ∀ run ∈ [net.toolRun ("ip" :: args)
      ((net.machine.reply? (net.commandLine ("ip" :: args))).getD {}).exit],
      ∃ n, run.exit = some ((net.machine.answer n run.argv).getD {}).exit := by
    intro run hrun
    rw [List.mem_singleton.mp hrun]
    exact ⟨net.machine.runs.length, rfl⟩
  rw [requireTool_state, hrun]
  refine ⟨rfl, sameTools_ran net _, _, rfl, hanswered, ?_⟩
  intro e he
  refine ⟨_, List.mem_singleton_self _, ?_, ?_⟩
  · simp only [ToolRun.shapes, toolRun, privileged_commandLine]
    split
    · next hshape => exact absurd (List.cons.inj hshape).2 (hargs _ _)
    · rfl
  · intro hzero
    have hzero := Option.some.inj hzero
    simp only [requireTool, hrun, Machine.Reply.succeeded, hzero, decide_true, if_true] at he
    cases he

/-! ## Building without running out of names -/

theorem excuses_createHost {host : HostId} (hid : host ∈ ids) :
    Excuses ids (createHost host) net := by
  intro hadd
  have hname := hadd.plain hid
  suffices h : Excuses ids (createHost host) net from h hadd
  unfold createHost
  refine (excuses_reads _).bind fun name hreads => ?_
  cases hreads
  refine (excuses_tryTool _ _).bind fun _ _ => ?_
  refine (excuses_requireTool hid _ (by simp [Plain, hname]) (by simp) _).bind fun _ _ => ?_
  refine (excuses_tryTool _ _).bind fun _ _ => ?_
  refine (excuses_reads _).bind fun before _ => ?_
  refine (excuses_modify rfl rfl).bind fun _ _ => ?_
  cases before with
  | none => exact excuses_pure _
  | some old => exact (excuses_tryTool _ _).bind fun _ _ => excuses_pure _

theorem excuses_attach {host : HostId} (hid : host ∈ ids) {space : String}
    (hname : net.names.get? host = some space) (hspace : '\x00' ∉ space.toList) (op : Operation)
    {i : String} (hi : '\x00' ∉ i.toList) (params : LinkParams) :
    Excuses ids (attach op host i params) net := by
  unfold Excuses attach
  rw [Action.bind_ok _ (space_of_name hname)]
  refine (excuses_requireTool hid _ (by simp [Plain, hspace, hi]) (by simp) _).bind fun _ _ => ?_
  refine (excuses_requireTool hid _ (by simp [Plain, hspace, hi]) (by simp) _).bind fun _ _ => ?_
  exact excuses_tryTool _ _

theorem excuses_createLink {a b : HostId} (haId : a ∈ ids) (hbId : b ∈ ids) (hab : a ≠ b)
    (ha : net.names.get? a = some (net.spaceName a))
    (hb : net.names.get? b = some (net.spaceName b))
    (haShort : (interfaceName (net.spaceName a) (net.used a)).utf8ByteSize ≤ maxInterfaceName)
    (hbShort : (interfaceName (net.spaceName b) (net.used b)).utf8ByteSize ≤ maxInterfaceName)
    (params : LinkParams) : Excuses ids (createLink a b params) net := by
  intro hadd
  have haSpace := hadd.plain haId
  have hbSpace := hadd.plain hbId
  have haName := plain_interfaceName haSpace (net.used a)
  have hbName := plain_interfaceName hbSpace (net.used b)
  have hused : (net.counted a).used b = net.used b := by rw [used_counted, if_neg hab]
  have hnextA := nextInterface_obeyed ha haShort
  have hnextB := nextInterface_obeyed
    (show (net.counted a).names.get? b = some (net.spaceName b) from hb)
    (by rw [hused]; exact hbShort)
  rw [hused] at hnextB
  have hcounted : ∀ r : Except SubstrateError Unit, ∀ net',
      Excused r ((net.counted a).counted b) net' → Excused r net net' :=
    fun r net' h => ⟨h.config, h.tools, h.runs⟩
  have haddCounted : Addable ids ((net.counted a).counted b) := hadd
  unfold createLink
  rw [Action.bind_ok _ hnextA, Action.bind_ok _ hnextB]
  refine hcounted _ _ (Excuses.bind ?_ ?_ haddCounted)
  · exact excuses_tryTool _ _
  intro _ _
  refine (excuses_requireTool haId _ (by simp [Plain, haName, hbName]) (by simp) _).bind
    fun _ _ => ?_
  -- None of the tools has touched the names.
  have hsame : ∀ op argv (net : Namespaces), (requireTool op argv net).2.names = net.names := by
    intro op argv net
    rw [requireTool_state]
    rfl
  refine (excuses_attach haId ?_ haSpace _ haName _).bind fun _ _ => ?_
  · rw [hsame]
    exact ha
  refine (excuses_attach hbId ?_ hbSpace _ hbName _).bind fun _ _ => excuses_modify rfl rfl
  rw [(spared_attach _ _ _ _ _).names, hsame]
  exact hb

end

theorem createHosts_excused {ids : List HostId} {hosts : List Host} {net : Namespaces}
    (hids : ∀ host ∈ hosts, host.id ∈ ids) (hadd : Addable ids net) :
    Excused (Topology.createHosts hosts net).1 net (Topology.createHosts hosts net).2.2 := by
  induction hosts generalizing net with
  | nil => exact .of_machine rfl rfl
  | cons host hosts ih =>
    have hone : Excused (Substrate.createHost host.id net).1 net
      (Substrate.createHost host.id net).2 :=
        excuses_createHost (hids host List.mem_cons_self) hadd
    unfold Topology.createHosts
    split
    · next he =>
      rw [he] at hone
      exact hone.of_error rfl
    · next net₁ he =>
      rw [he] at hone
      exact hone.trans (ih (fun x hx => hids x (List.mem_cons_of_mem host hx)) (hone.addable hadd))

/-- Creating hosts forms no names of interfaces. -/
theorem createHosts_used {hosts hosts' : List Host} {net net' : Namespaces}
    (h : Topology.createHosts hosts net = (.ok (), hosts', net')) (host : HostId) :
    net'.used host = net.used host := by
  induction hosts generalizing net hosts' with
  | nil =>
    cases h
    rfl
  | cons x hosts ih =>
    unfold Topology.createHosts at h
    split at h
    · cases h
    · next context net₁ hx =>
      obtain ⟨runs, rfl⟩ := createHost_ok hx
      rcases hrest : Topology.createHosts hosts ((net.named x.id).ran runs) with ⟨r, hs, net₂⟩
      rw [hrest] at h
      cases h
      have hused : ((net.named x.id).ran runs).used host = net.used host := rfl
      rw [ih hrest, hused]

/-- A link uses up what it is counted for. -/
theorem used_laid_add (net : Namespaces) {ends : InterfacePair} {l : Link} (hab : l.a ≠ l.b)
    (ha : ends.a = l.a) (hb : ends.b = l.b) (runs : List ToolRun) (links : List Link)
    (id : HostId) : ((net.laid ends).ran runs).used id + linkEnds links id =
      net.used id + linkEnds (l :: links) id := by
  have hused : ((net.laid ends).ran runs).used id = (net.laid ends).used id := rfl
  rw [hused, used_laid net (by rw [ha, hb]; exact hab), ha, hb]
  simp only [linkEnds, List.countP_cons, decide_eq_true_eq]
  omega

section

variable {ids : List HostId} {links : List Link} {net net' : Namespaces}

theorem createLinks_excused (hnamed : ∀ id ∈ ids, net.names.get? id = some (net.spaceName id))
    (hfits : ∀ l ∈ links, l.Fits ids)
    (hshort : ∀ id ∈ ids, ∀ n < net.used id + linkEnds links id,
      (interfaceName (net.spaceName id) n).utf8ByteSize ≤ maxInterfaceName) :
    Excuses ids (Topology.createLinks links) net := by
  induction links generalizing net with
  | nil => exact excuses_pure ()
  | cons l links ih =>
    have hl := hfits l List.mem_cons_self
    have hnext : ∀ id ∈ ids, id = l.a ∨ id = l.b →
        (interfaceName (net.spaceName id) (net.used id)).utf8ByteSize ≤ maxInterfaceName := by
      intro id hid hend
      refine hshort id hid _ ?_
      simp [linkEnds, hend]
    have hone : Excuses ids (createLink l.a l.b l.params) net :=
      excuses_createLink hl.a_known hl.b_known hl.distinct (hnamed _ hl.a_known)
        (hnamed _ hl.b_known) (hnext _ hl.a_known (Or.inl rfl)) (hnext _ hl.b_known (Or.inr rfl))
        l.params
    refine Excuses.bind hone fun u hu => ?_
    obtain ⟨ends, runs, ha, hb, -, hlink, -⟩ := createLink_ok hl.distinct (hnamed _ hl.a_known)
      (hnamed _ hl.b_known) (Prod.ext hu rfl)
    have hlaid : (Substrate.createLink l.a l.b l.params net).2 = (net.laid ends).ran runs := hlink
    have hnamed' : ∀ id ∈ ids, ((net.laid ends).ran runs).names.get? id =
      some (((net.laid ends).ran runs).spaceName id) := hnamed
    rw [hlaid]
    refine ih hnamed' (fun x hx => hfits x (List.mem_cons_of_mem l hx)) ?_
    intro id hid n hn
    rw [used_laid_add net hl.distinct ha hb] at hn
    exact hshort id hid n hn

/-- Laying links forms a name for each end of a link. -/
theorem createLinks_used (hnamed : ∀ id ∈ ids, net.names.get? id = some (net.spaceName id))
    (hfits : ∀ l ∈ links, l.Fits ids) (h : Topology.createLinks links net = (.ok (), net'))
    (id : HostId) : net'.used id = net.used id + linkEnds links id ∧
      net'.spaceName id = net.spaceName id := by
  induction links generalizing net with
  | nil =>
    cases h
    exact ⟨rfl, rfl⟩
  | cons l links ih =>
    have hl := hfits l List.mem_cons_self
    obtain ⟨u, net₁, hlink, hrest⟩ := Action.bind_eq_ok.mp h
    obtain ⟨ends, runs, ha, hb, -, rfl, -⟩ := createLink_ok hl.distinct (hnamed _ hl.a_known)
      (hnamed _ hl.b_known) hlink
    have hnamed' : ∀ id ∈ ids, ((net.laid ends).ran runs).names.get? id =
      some (((net.laid ends).ran runs).spaceName id) := hnamed
    obtain ⟨hcount, hspace⟩ := ih hnamed' (fun x hx => hfits x (List.mem_cons_of_mem l hx)) hrest
    exact ⟨hcount.trans (used_laid_add net hl.distinct ha hb runs links id), hspace⟩

end

/-- A topology is built, with as many names of interfaces as links end at its hosts, or a run that
has failed is at fault. -/
theorem instantiate_excused {t : Topology} {net : Namespaces} (built : t.Built)
    (hi : t.instantiated = false) (hadd : Addable t.ids net)
    (hshort : ∀ id ∈ t.ids, ∀ n < net.used id + linkEnds t.links id,
      (interfaceName (net.spaceName id) n).utf8ByteSize ≤ maxInterfaceName) :
    (∃ t' net', Topology.instantiate (t, net) = (.ok (), t', net') ∧
      Excused (.ok () : Except SubstrateError Unit) net net' ∧
      ∀ id, net'.used id = net.used id + linkEnds t.links id ∧
        net'.spaceName id = net.spaceName id) ∨
    ∃ e t' net', Topology.instantiate (t, net) = (.error (.substrate e), t', net') ∧
      Excused (.error e : Except SubstrateError Unit) net net' := by
  have hids : ∀ host ∈ t.hosts, host.id ∈ t.ids := fun _ hhost => List.mem_map_of_mem hhost
  have hhosts := createHosts_excused hids hadd
  simp only [Topology.instantiate, hi, Bool.false_eq_true, if_false]
  rcases he : Topology.createHosts t.hosts net with ⟨e | u, hosts, net₁⟩
  · rw [he] at hhosts
    exact Or.inr ⟨e, _, net₁, rfl, hhosts⟩
  rw [he] at hhosts
  obtain ⟨hconfig, hnames⟩ := createHosts_ok he
  have hspace : ∀ id, net₁.spaceName id = net.spaceName id := by
    intro id
    rw [spaceName, spaceName, hconfig]
  have hnamed : ∀ id ∈ t.ids, net₁.names.get? id = some (net₁.spaceName id) := by
    intro id hid
    rw [hspace]
    exact (hnames id).trans (if_pos hid)
  have hshort₁ : ∀ id ∈ t.ids, ∀ n < net₁.used id + linkEnds t.links id,
      (interfaceName (net₁.spaceName id) n).utf8ByteSize ≤ maxInterfaceName := by
    intro id hid n hn
    rw [createHosts_used he] at hn
    rw [hspace]
    exact hshort id hid n hn
  have hlinks : Excused (Topology.createLinks t.links net₁).1 net₁
    (Topology.createLinks t.links net₁).2 :=
      createLinks_excused hnamed built.fits hshort₁ (hhosts.addable hadd)
  dsimp only
  rcases hl : Topology.createLinks t.links net₁ with ⟨e | u, net₂⟩
  · rw [hl] at hlinks
    exact Or.inr ⟨e, _, net₂, rfl, hhosts.trans hlinks⟩
  · rw [hl] at hlinks
    refine Or.inl ⟨_, net₂, rfl, hhosts.trans hlinks, ?_⟩
    intro id
    obtain ⟨hcount, hspace₂⟩ := createLinks_used hnamed built.fits hl id
    exact ⟨by rw [hcount, createHosts_used he], hspace₂.trans (hspace id)⟩

/-! ## Small topologies -/

/-- Nothing has been built yet, each host has a name of one byte, and at most ten links end at
it. -/
structure Small (t : Topology) : Prop where
  built : t.Built
  unbuilt : t.instantiated = false
  ids : ∀ id ∈ t.ids, id.name.utf8ByteSize = 1
  ends : ∀ id ∈ t.ids, linkEnds t.links id ≤ 10

/-- Every network of the catalogue is small. -/
theorem small_catalogue {name : String} {t : Topology} (h : Catalogue.topology? name = some t) :
    Small t := by
  have hall : (Catalogue.topologyNames.all fun name => (Catalogue.topology? name).all fun t =>
      t.ids.all fun id => id.name.utf8ByteSize = 1 && linkEnds t.links id ≤ 10) = true := by
    decide +kernel
  have hids := Catalogue.of_topology? hall h
  simp only [List.all_eq_true, Bool.and_eq_true, decide_eq_true_eq] at hids
  exact ⟨Catalogue.built h, Catalogue.not_instantiated h, fun id hid => (hids id hid).1,
    fun id hid => (hids id hid).2⟩

theorem utf8ByteSize_interfaceName (space : String) {n : Nat} (h : n < 10) :
    (interfaceName space n).utf8ByteSize = space.utf8ByteSize + 5 := by
  have hname : interfaceName space n = space ++ "-eth" ++ n.repr := rfl
  have heth : "-eth".utf8ByteSize = 4 := by decide
  have hdigit : ∀ n < 10, n.repr.utf8ByteSize = 1 := by decide
  rw [hname, String.utf8ByteSize_append, String.utf8ByteSize_append, heth, hdigit n h]

/-- A prefix that is short enough leaves room for a host of one byte and one digit. -/
theorem interfaceName_short {net : Namespaces}
    (hbytes : net.config.namePrefix.utf8ByteSize ≤ Config.maxPrefixBytes) {id : HostId}
    (hid : id.name.utf8ByteSize = 1) {n : Nat} (hn : n < 10) :
    (interfaceName (net.spaceName id) n).utf8ByteSize ≤ maxInterfaceName := by
  have hdash : "-".utf8ByteSize = 1 := by decide
  rw [utf8ByteSize_interfaceName _ hn, spaceName, String.utf8ByteSize_append,
    String.utf8ByteSize_append, hdash, hid]
  unfold Config.maxPrefixBytes at hbytes
  unfold maxInterfaceName
  omega

theorem used_empty {net : Namespaces} (hcounts : net.interfaceCounts = ∅) (id : HostId) :
    net.used id = 0 := by
  rw [used, hcounts]
  rfl

/-- A small topology forms names that are short enough. -/
theorem Small.short {t : Topology} (small : Small t) {net : Namespaces}
    (hbytes : net.config.namePrefix.utf8ByteSize ≤ Config.maxPrefixBytes)
    (hcounts : net.interfaceCounts = ∅) : ∀ id ∈ t.ids, ∀ n < net.used id + linkEnds t.links id,
      (interfaceName (net.spaceName id) n).utf8ByteSize ≤ maxInterfaceName := by
  intro id hid n hn
  have hends := small.ends id hid
  rw [used_empty hcounts] at hn
  exact interfaceName_short hbytes (small.ids id hid) (by omega)

/-! ## Room for every interface -/

/-- The tool that adds the namespace of a host can be started, and while the topology is built
the runs that do not shape traffic exit with zero. -/
structure Obeys (net : Namespaces) (t : Topology) : Prop where
  started : Addable t.ids net
  exits : ∀ run ∈ (Topology.instantiate (t, net)).2.2.machine.runs.drop net.machine.runs.length,
    run.shapes = false → run.exit = some 0

/-- Where the tools do as they are told, small topologies are built. -/
theorem Obeys.instantiate {net : Namespaces} {t : Topology} (h : net.Obeys t) (small : Small t)
    (hbytes : net.config.namePrefix.utf8ByteSize ≤ Config.maxPrefixBytes)
    (hcounts : net.interfaceCounts = ∅) :
    ∃ t' net', Topology.instantiate (t, net) = (.ok (), t', net') ∧
      ∀ id, net'.used id = linkEnds t.links id ∧ net'.spaceName id = net.spaceName id := by
  have hshort := small.short hbytes hcounts
  rcases instantiate_excused small.built small.unbuilt h.started hshort with
    ⟨t', net', hup, -, hcount⟩ | ⟨e, t', net', hdown, hexcused⟩
  · refine ⟨t', net', hup, fun id => ⟨?_, (hcount id).2⟩⟩
    rw [(hcount id).1, used_empty hcounts, Nat.zero_add]
  · -- None of the runs is at fault, so nothing has gone wrong.
    obtain ⟨later, hlater, -, hfault⟩ := hexcused.runs
    obtain ⟨run, hrun, hshapes, hexit⟩ := hfault e rfl
    have hmem : run ∈ (Topology.instantiate (t, net)).2.2.machine.runs.drop
        net.machine.runs.length := by
      rw [hdown]
      change run ∈ net'.machine.runs.drop _
      rw [hlater, List.drop_left]
      exact hrun
    exact absurd (h.exits run hmem hshapes) hexit

/-- Switches the interface of a namespace that exists. -/
def switchIn (op : Operation) (space i : String) (state : LinkState) :
    Action Namespaces SubstrateError Unit :=
  requireTool op (inside space ["ip", "link", "set", i, state.text])

/-- The link has two interfaces with numbers of its hosts. They are found whichever host is named
first, and switched one after the other. -/
def Switchable (net : Namespaces) (l : Link) : Prop :=
  ∃ ends : InterfacePair, ends.a = l.a ∧ ends.b = l.b ∧
    (∀ p ∈ places ends, ∃ n < net.used p.1, p.2 = interfaceName (net.spaceName p.1) n) ∧
    ∀ x y state, l.connects x y = true → setLinkState x y state net =
      (switchIn (.setLink x y state) (net.spaceName l.a) ends.aName state >>= fun _ =>
        switchIn (.setLink x y state) (net.spaceName l.b) ends.bName state) net

theorem Wired.switchable {net : Namespaces} {ids : List HostId} {links : List Link}
    (h : net.Wired ids links) {l : Link} (hl : l ∈ links) : net.Switchable l := by
  obtain ⟨ends, hends, ha, hb⟩ := h.stored l hl
  obtain ⟨haKnown, hbKnown, -⟩ := h.ends_known hl hends
  refine ⟨ends, ha, hb, h.numbered l hl ends hends, ?_⟩
  intro x y state hconnects
  rw [(Link.connects_iff l x y).mp hconnects] at hends
  rw [setLinkState_eq hends, ← ha, ← hb]
  rcases hfirst : switchIn (.setLink x y state) (net.spaceName ends.a) ends.aName state net with
    ⟨e | u, net₁⟩
  · rw [Action.bind_error _ ((switchEnd_eq (h.named _ haKnown)).trans hfirst),
      Action.bind_error _ hfirst]
  · rw [Action.bind_ok _ ((switchEnd_eq (h.named _ haKnown)).trans hfirst),
      Action.bind_ok _ hfirst]
    obtain rfl := requireTool_ok hfirst
    exact switchEnd_eq ((h.ran _).named _ hbKnown)

/-- The prefix of a configuration leaves room for the interfaces of every small topology, the
networks of the catalogue among them. It is built as long as the tools do as they are told, even
if the traffic cannot be shaped. All names of interfaces that were formed are short enough, and
each link can be switched. -/
theorem prefix_leaves_room : (∀ name t, Catalogue.topology? name = some t → Small t) ∧
    ∀ (s : Config.Settings) (c : Config) (t : Topology) (machine : Machine),
      Config.resolve s = .ok c → Small t →
      ({ config := c.namespaces, machine } : Namespaces).Obeys t →
      ∃ t' net', Topology.instantiate (t, ({ config := c.namespaces, machine } : Namespaces)) =
          (.ok (), t', net') ∧
        (∀ id ∈ t.ids, net'.used id = linkEnds t.links id ∧ ∀ n < net'.used id,
          (interfaceName (net'.spaceName id) n).utf8ByteSize ≤ maxInterfaceName) ∧
        ∀ l ∈ t.links, net'.Switchable l := by
  refine ⟨fun name t h => small_catalogue h, ?_⟩
  intro s c t machine hresolve small hobeys
  have hbytes := Config.utf8ByteSize_of_resolve hresolve
  obtain ⟨t', net', hup, hcount⟩ := hobeys.instantiate small hbytes rfl
  refine ⟨t', net', hup, ?_, ?_⟩
  · intro id hid
    refine ⟨(hcount id).1, ?_⟩
    intro n hn
    rw [(hcount id).1] at hn
    rw [(hcount id).2]
    refine small.short hbytes rfl id hid n ?_
    rw [used_empty rfl, Nat.zero_add]
    exact hn
  · obtain ⟨hwired, -⟩ := instantiate_ok small.built hup
    obtain ⟨-, hosts, -, -, -, rfl⟩ := Topology.instantiate_ok hup
    exact fun l hl => hwired.switchable hl

/-- A machine whose tools succeed, but for those that shape traffic. -/
def withoutShaping : Machine where
  answer _ argv := if ({ argv, exit := none } : ToolRun).shapes then some { exit := 2 } else none

/-- Nothing has been built there yet; the prefix has eight bytes. -/
def unshaped : Namespaces := { config := { namePrefix := "testbeds" }, machine := withoutShaping }

theorem answer_unshaped {run : ToolRun} (h : run.shapes = false) (n : Nat) :
    ((unshaped.machine.answer n run.argv).getD {}).exit = 0 := by
  have hshapes : ({ run with exit := none } : ToolRun).shapes = false := h
  simp only [unshaped, withoutShaping, hshapes]
  rfl

theorem small_twoHosts : Small Topology.twoHosts :=
  ⟨Topology.built_twoHosts, rfl, by decide, by decide⟩

/-- The tools that do not shape traffic do as they are told there. -/
theorem obeys_unshaped : unshaped.Obeys Topology.twoHosts := by
  have hadd : Addable Topology.twoHosts.ids unshaped := by
    unfold Addable
    decide
  refine ⟨hadd, ?_⟩
  have hbytes : unshaped.config.namePrefix.utf8ByteSize ≤ Config.maxPrefixBytes := by decide
  have hshort := small_twoHosts.short hbytes rfl
  have hanswered : ∀ r : Except SubstrateError Unit, ∀ net, Excused r unshaped net →
      ∀ run ∈ net.machine.runs.drop unshaped.machine.runs.length,
        run.shapes = false → run.exit = some 0 := by
    intro r net hexcused run hrun hshapes
    obtain ⟨later, hlater, hanswered, -⟩ := hexcused.runs
    rw [hlater, List.drop_left] at hrun
    obtain ⟨n, hn⟩ := hanswered run hrun
    rw [hn, answer_unshaped hshapes]
  rcases instantiate_excused small_twoHosts.built rfl hadd hshort with
    ⟨t', net', hup, hexcused, -⟩ | ⟨e, t', net', hdown, hexcused⟩
  · rw [hup]
    exact hanswered _ net' hexcused
  · rw [hdown]
    exact hanswered _ net' hexcused

/-- With a prefix of eight bytes the names of interfaces are as long as they may be. -/
theorem prefix_leaves_room_for_two_hosts :
    Config.resolve { namePrefix := some " testbeds " } = .ok { namespaces := unshaped.config } ∧
      Small Topology.twoHosts ∧ unshaped.Obeys Topology.twoHosts ∧
      (interfaceName (unshaped.spaceName ⟨"A"⟩) 0).utf8ByteSize = maxInterfaceName ∧
      ∃ t net, Topology.instantiate (Topology.twoHosts, unshaped) = (.ok (), t, net) ∧
        net.used ⟨"A"⟩ = 1 ∧ net.Switchable { a := ⟨"A"⟩, b := ⟨"B"⟩, params := {} } := by
  have hresolve : Config.resolve { namePrefix := some " testbeds " } =
      .ok { namespaces := unshaped.config } := rfl
  obtain ⟨t, net, hup, hnames, hswitch⟩ := prefix_leaves_room.2 _ _ _ withoutShaping hresolve
    small_twoHosts obeys_unshaped
  have hused : net.used ⟨"A"⟩ = linkEnds Topology.twoHosts.links ⟨"A"⟩ :=
    (hnames ⟨"A"⟩ (by decide)).1
  exact ⟨hresolve, small_twoHosts, obeys_unshaped, by decide, t, net, hup, hused,
    hswitch _ (List.mem_singleton_self _)⟩

end Namespaces

end Testbed
