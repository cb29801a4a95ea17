-- What creating a link leaves behind on the machine. A pair of interfaces is
-- made outside all namespaces, and then one end after the other is moved into
-- the namespace of its host. The deletion of a namespace takes every pair along
-- that has an end in it, so a pair is gone in the end if its first end could be
-- moved, and it stays for good if it could not.
import Testbed.Proofs.Namespaces.Release

namespace Testbed

/-! ## Pairs of interfaces -/

namespace Machine

/-- Two interfaces that belong together, each with the namespace it is in. -/
structure Veth where
  a : String
  b : String
  /-- Outside all namespaces where there is none. -/
  aSpace : Option String := none
  bSpace : Option String := none
deriving DecidableEq, Repr, Inhabited

namespace Veth

/-- One of the two ends has the name, outside all namespaces. -/
def IsOutside (name : String) (v : Veth) : Prop :=
  (v.a = name ∧ v.aSpace = none) ∨ (v.b = name ∧ v.bSpace = none)

instance (name : String) (v : Veth) : Decidable (v.IsOutside name) :=
  inferInstanceAs (Decidable (_ ∨ _))

/-- One of the two ends is in the namespace. -/
def IsIn (space : String) (v : Veth) : Prop := v.aSpace = some space ∨ v.bSpace = some space

instance (space : String) (v : Veth) : Decidable (v.IsIn space) :=
  inferInstanceAs (Decidable (_ ∨ _))

/-- The end with the name is moved into a namespace, if it is outside all of them. -/
def moved (name space : String) (v : Veth) : Veth :=
  { v with
    aSpace := if v.a = name ∧ v.aSpace = none then some space else v.aSpace
    bSpace := if v.b = name ∧ v.bSpace = none then some space else v.bSpace }

/-- An end does not leave its namespace. -/
theorem IsIn.moved {space : String} {v : Veth} (h : v.IsIn space) (name other : String) :
    (v.moved name other).IsIn space := by
  refine h.imp (fun ha => ?_) (fun hb => ?_)
  · simp [Veth.moved, ha]
  · simp [Veth.moved, hb]

end Veth

/-- What a tool can do to pairs of interfaces. -/
inductive LinkDeed where
  | add (a b : String)
  | delete (name : String)
  | move (name space : String)
  | deleteSpace (space : String)
deriving DecidableEq, Repr, Inhabited

namespace LinkDeed

def made : LinkDeed → List Veth
  | add a b => [{ a, b }]
  | delete _ => []
  | move _ _ => []
  | deleteSpace _ => []

/-- What the deed leaves of a pair. An end that goes takes its peer along. -/
def left? : LinkDeed → Veth → Option Veth
  | add _ _, v => some v
  | delete name, v => if v.IsOutside name then none else some v
  | move name space, v => some (v.moved name space)
  | deleteSpace space, v => if v.IsIn space then none else some v

end LinkDeed

/-! ## What runs leave of them -/

/-- What a run has done to pairs of interfaces. Only a run that succeeds does anything. -/
def ToolRun.deed? (run : ToolRun) : Option LinkDeed :=
  if run.exit = some 0 then
    match privileged run.argv with
    | ["ip", "link", "add", a, "type", "veth", "peer", "name", b] => some (.add a b)
    | ["ip", "link", "del", name] => some (.delete name)
    | ["ip", "link", "set", name, "netns", space] => some (.move name space)
    | ["ip", "netns", "del", space] => some (.deleteSpace space)
    | _ => none
  else none

def ToolRun.made (run : ToolRun) : List Veth := (run.deed?.map LinkDeed.made).getD []

def ToolRun.left? (run : ToolRun) (v : Veth) : Option Veth :=
  match run.deed? with
  | some deed => deed.left? v
  | none => some v

/-- What some runs leave of a pair that was there before. -/
def leftOf? (runs : List ToolRun) (v : Veth) : Option Veth :=
  runs.foldlM (fun v run => run.left? v) v

def pairsAfter (pairs : List Veth) (run : ToolRun) : List Veth :=
  pairs.filterMap run.left? ++ run.made

/-- The pairs that some runs have made and that still exist after them. -/
def pairsLeft (runs : List ToolRun) : List Veth := runs.foldl pairsAfter []

theorem leftOf?_cons (run : ToolRun) (runs : List ToolRun) (v : Veth) :
    leftOf? (run :: runs) v = (run.left? v).bind (leftOf? runs) := List.foldlM_cons

theorem leftOf?_append (runs more : List ToolRun) (v : Veth) :
    leftOf? (runs ++ more) v = (leftOf? runs v).bind (leftOf? more) := List.foldlM_append

theorem foldl_pairsAfter (runs : List ToolRun) (pairs : List Veth) :
    runs.foldl pairsAfter pairs = pairs.filterMap (leftOf? runs) ++ pairsLeft runs := by
  induction runs generalizing pairs with
  | nil =>
    change pairs = pairs.filterMap some ++ []
    rw [List.filterMap_some, List.append_nil]
  | cons run runs ih =>
    have hleft : ∀ v, leftOf? (run :: runs) v = (run.left? v).bind (leftOf? runs) :=
      leftOf?_cons run runs
    rw [List.foldl_cons, pairsLeft, List.foldl_cons, ih, ih (pairsAfter [] run)]
    simp only [pairsAfter, List.filterMap_append, List.filterMap_filterMap, List.append_assoc,
      List.filterMap_nil, List.nil_append, funext hleft]

/-- Later runs leave something of the pairs that were there, and make pairs of their own. -/
theorem pairsLeft_append (runs more : List ToolRun) :
    pairsLeft (runs ++ more) = (pairsLeft runs).filterMap (leftOf? more) ++ pairsLeft more := by
  rw [pairsLeft, List.foldl_append, foldl_pairsAfter]
  rfl

theorem pairsLeft_singleton (run : ToolRun) : pairsLeft [run] = run.made := rfl

theorem pairsLeft_eq_nil {runs : List ToolRun} (h : ∀ run ∈ runs, run.made = []) :
    pairsLeft runs = [] := by
  induction runs with
  | nil => rfl
  | cons run runs ih =>
    rw [← List.singleton_append, pairsLeft_append, pairsLeft_singleton,
      h run List.mem_cons_self, ih fun other hother => h other (List.mem_cons_of_mem run hother)]
    rfl

theorem made_of_deed? {run : ToolRun} {deed : LinkDeed} (h : run.deed? = some deed) :
    run.made = deed.made := by
  rw [ToolRun.made, h]
  rfl

theorem made_of_no_deed {run : ToolRun} (h : run.deed? = none) : run.made = [] := by
  rw [ToolRun.made, h]
  rfl

theorem left?_of_deed? {run : ToolRun} {deed : LinkDeed} (h : run.deed? = some deed) (v : Veth) :
    run.left? v = deed.left? v := by
  rw [ToolRun.left?, h]

/-- What fails does nothing. -/
theorem deed?_failed {run : ToolRun} (h : run.exit ≠ some 0) : run.deed? = none := if_neg h

/-! ## Moves and deletions of namespaces -/

/-- The run has done nothing to pairs of interfaces, or it has moved an end. -/
def ToolRun.Moves (run : ToolRun) : Prop :=
  run.deed? = none ∨ ∃ name space, run.deed? = some (.move name space)

theorem ToolRun.Moves.made {run : ToolRun} (h : run.Moves) : run.made = [] := by
  rcases h with h | ⟨name, space, h⟩
  · exact made_of_no_deed h
  · exact made_of_deed? h

/-- While ends are moved a pair with an end in a namespace keeps it there. -/
theorem leftOf?_moves {runs : List ToolRun} (h : ∀ run ∈ runs, run.Moves) {v : Veth}
    {space : String} (hin : v.IsIn space) : ∃ v', leftOf? runs v = some v' ∧ v'.IsIn space := by
  induction runs generalizing v with
  | nil => exact ⟨v, rfl, hin⟩
  | cons run runs ih =>
    have hrest : ∀ other ∈ runs, other.Moves := fun other ho => h other (List.mem_cons_of_mem _ ho)
    rw [leftOf?_cons]
    rcases h run List.mem_cons_self with hdeed | ⟨name, other, hdeed⟩
    · rw [ToolRun.left?, hdeed]
      exact ih hrest hin
    · rw [left?_of_deed? hdeed]
      exact ih hrest (hin.moved name other)

/-- The run has deleted a namespace. -/
def ToolRun.DeletesSpace (run : ToolRun) : Prop := ∃ space, run.deed? = some (.deleteSpace space)

/-- A pair with an end in a namespace goes with it, or with that of its other end. -/
theorem leftOf?_eq_none {runs : List ToolRun} (h : ∀ run ∈ runs, run.DeletesSpace) {v : Veth}
    {space : String} (hin : v.IsIn space)
    (hdel : ∃ run ∈ runs, run.deed? = some (.deleteSpace space)) : leftOf? runs v = none := by
  induction runs with
  | nil => simp at hdel
  | cons run runs ih =>
    obtain ⟨other, hother⟩ := h run List.mem_cons_self
    rw [leftOf?_cons, left?_of_deed? hother, LinkDeed.left?]
    split
    · rfl
    · next hout =>
      refine ih (fun run hrun => h run (List.mem_cons_of_mem _ hrun)) ?_
      obtain ⟨found, hfound, hspace⟩ := hdel
      rcases List.mem_cons.mp hfound with rfl | hfound
      · cases hother.symm.trans hspace
        exact absurd hin hout
      · exact ⟨found, hfound, hspace⟩

/-- A pair outside all namespaces stays there, whatever namespaces are deleted. -/
theorem leftOf?_outside {runs : List ToolRun}
    (h : ∀ run ∈ runs, run.deed? = none ∨ run.DeletesSpace) (a b : String) :
    leftOf? runs { a, b } = some { a, b } := by
  induction runs with
  | nil => rfl
  | cons run runs ih =>
    have hkept : run.left? { a, b } = some { a, b } := by
      rcases h run List.mem_cons_self with hdeed | ⟨space, hdeed⟩
      · rw [ToolRun.left?, hdeed]
      · rw [left?_of_deed? hdeed]
        simp [LinkDeed.left?, Veth.IsIn]
    rw [leftOf?_cons, hkept]
    exact ih fun other hother => h other (List.mem_cons_of_mem run hother)

/-! ## A link that is being made -/

/-- The run has done nothing to pairs of interfaces, or it has deleted one. -/
def ToolRun.Clears (run : ToolRun) : Prop :=
  run.deed? = none ∨ ∃ name, run.deed? = some (.delete name)

theorem ToolRun.Clears.made {run : ToolRun} (h : run.Clears) : run.made = [] := by
  rcases h with h | ⟨name, h⟩
  · exact made_of_no_deed h
  · exact made_of_deed? h

/-- What the runs for a link come to: no pair is made, or a pair is made and then nothing is done
with it, or its first end is moved into a namespace. -/
inductive Laid (spaces : List String) : List ToolRun → Prop
  | unmade {runs : List ToolRun} (none : ∀ run ∈ runs, run.made = []) : Laid spaces runs
  | stuck {before rest : List ToolRun} {add : ToolRun} {a b : String}
      (clears : ∀ run ∈ before, run.Clears) (added : add.deed? = some (.add a b))
      (idle : ∀ run ∈ rest, run.deed? = none) : Laid spaces (before ++ add :: rest)
  | placed {before rest : List ToolRun} {add move : ToolRun} {a b space : String}
      (clears : ∀ run ∈ before, run.Clears) (added : add.deed? = some (.add a b))
      (first : move.deed? = some (.move a space)) (known : space ∈ spaces)
      (moves : ∀ run ∈ rest, run.Moves) : Laid spaces (before ++ add :: move :: rest)

/-- A pair was made, and neither of its ends was moved. -/
def StuckOutside (runs : List ToolRun) : Prop :=
  (∃ run ∈ runs, run.made ≠ []) ∧ ∀ run ∈ runs, ∀ name space, run.deed? ≠ some (.move name space)

theorem not_stuck_of_unmade {runs : List ToolRun} (h : ∀ run ∈ runs, run.made = []) :
    ¬ StuckOutside runs :=
  fun ⟨⟨run, hrun, hmade⟩, _⟩ => hmade (h run hrun)

theorem not_stuck_of_moved {runs : List ToolRun} {move : ToolRun} {name space : String}
    (hmem : move ∈ runs) (h : move.deed? = some (.move name space)) : ¬ StuckOutside runs :=
  fun ⟨_, hnone⟩ => hnone move hmem name space h

theorem stuckOutside {before rest : List ToolRun} {add : ToolRun} {a b : String}
    (clears : ∀ run ∈ before, run.Clears) (added : add.deed? = some (.add a b))
    (idle : ∀ run ∈ rest, run.deed? = none) : StuckOutside (before ++ add :: rest) := by
  have hmade : add.made ≠ [] := by simp [made_of_deed? added, LinkDeed.made]
  refine ⟨⟨add, by simp, hmade⟩, ?_⟩
  intro run hrun name space hmove
  rcases List.mem_append.mp hrun with hrun | hrun
  · rcases clears run hrun with hdeed | ⟨other, hdeed⟩ <;> simp [hdeed] at hmove
  · rcases List.mem_cons.mp hrun with rfl | hrun
    · simp [added] at hmove
    · simp [idle run hrun] at hmove

/-- What is left of a pair that was made after some runs that make none. -/
theorem pairsLeft_added {before later : List ToolRun} {add : ToolRun} {a b : String}
    (clears : ∀ run ∈ before, run.Clears) (added : add.deed? = some (.add a b))
    (later_none : ∀ run ∈ later, run.made = []) :
    pairsLeft (before ++ add :: later) = (leftOf? later { a, b }).toList := by
  have hbefore : pairsLeft before = [] := pairsLeft_eq_nil fun run hrun => (clears run hrun).made
  rw [← List.singleton_append, ← List.append_assoc, pairsLeft_append, pairsLeft_append, hbefore,
    pairsLeft_singleton, made_of_deed? added, pairsLeft_eq_nil later_none]
  cases hleft : leftOf? later { a, b } <;> simp [LinkDeed.made, hleft]

theorem ToolRun.DeletesSpace.made {run : ToolRun} (h : run.DeletesSpace) : run.made = [] :=
  h.elim fun _ hdeed => made_of_deed? hdeed

/-- Once all the namespaces are deleted, a pair is left just when it got stuck outside. -/
theorem Laid.pairsLeft {spaces : List String} {during after : List ToolRun}
    (h : Laid spaces during) (hafter : ∀ run ∈ after, run.DeletesSpace)
    (hevery : ∀ space ∈ spaces, ∃ run ∈ after, run.deed? = some (.deleteSpace space)) :
    (¬ StuckOutside during → pairsLeft (during ++ after) = []) ∧
      (StuckOutside during → ∃ a b, pairsLeft (during ++ after) = [{ a, b }]) := by
  have hnone : ∀ run ∈ after, run.made = [] := fun run hrun => (hafter run hrun).made
  cases h with
  | unmade none =>
    refine ⟨fun _ => pairsLeft_eq_nil fun run hrun => ?_,
      fun hstuck => absurd hstuck (not_stuck_of_unmade none)⟩
    exact (List.mem_append.mp hrun).elim (none run) (hnone run)
  | @stuck before rest add a b clears added idle =>
    refine ⟨fun hnot => absurd (stuckOutside clears added idle) hnot, fun _ => ⟨a, b, ?_⟩⟩
    have hlater : ∀ run ∈ rest ++ after, run.deed? = .none ∨ run.DeletesSpace := fun run hrun =>
      (List.mem_append.mp hrun).imp (idle run) (hafter run)
    have hmade : ∀ run ∈ rest ++ after, run.made = [] := fun run hrun =>
      (hlater run hrun).elim made_of_no_deed ToolRun.DeletesSpace.made
    rw [List.append_assoc, List.cons_append, pairsLeft_added clears added hmade,
      leftOf?_outside hlater]
    rfl
  | @placed before rest add move a b space clears added first known moves =>
    refine ⟨fun _ => ?_, fun hstuck => absurd hstuck (not_stuck_of_moved (by simp) first)⟩
    have hmade : ∀ run ∈ move :: (rest ++ after), run.made = [] := by
      intro run hrun
      rcases List.mem_cons.mp hrun with rfl | hrun
      · exact made_of_deed? first
      · exact (List.mem_append.mp hrun).elim (fun hr => (moves run hr).made) (hnone run)
    have hin : (Veth.moved a space { a, b }).IsIn space := Or.inl (by simp [Veth.moved])
    obtain ⟨v, hv, hvin⟩ := leftOf?_moves moves hin
    rw [List.append_assoc, List.cons_append, List.cons_append, pairsLeft_added clears added hmade,
      leftOf?_cons, left?_of_deed? first, LinkDeed.left?, Option.bind_some, leftOf?_append, hv,
      Option.bind_some, leftOf?_eq_none hafter hvin (hevery space known)]
    rfl

end Machine

namespace Namespaces

open Testbed.Action (Keeps)

open Machine (ToolRun Laid StuckOutside pairsLeft pairsLeft_append leftOf? deed?_failed)

/-! ## Actions that at most move an end -/

/-- From one state to another one ends are moved, and nothing else happens to pairs. -/
def Moved (net net' : Namespaces) : Prop :=
  ∃ more, net'.machine.runs = net.machine.runs ++ more ∧ ∀ run ∈ more, run.Moves

theorem Moved.refl (net : Namespaces) : Moved net net := ⟨[], by simp⟩

theorem Moved.trans {net₁ net₂ net₃ : Namespaces} (h : Moved net₁ net₂) (h' : Moved net₂ net₃) :
    Moved net₁ net₃ := by
  obtain ⟨more, hmore, hmoves⟩ := h
  obtain ⟨more', hmore', hmoves'⟩ := h'
  exact ⟨more ++ more', by rw [hmore', hmore, List.append_assoc],
    fun run hrun => (List.mem_append.mp hrun).elim (hmoves run) (hmoves' run)⟩

instance : IsPreorder Namespaces Moved where
  refl := .refl
  trans _ _ _ := .trans

/-- Where no tool is run nothing happens to pairs. -/
theorem Moved.of_machine {net net' : Namespaces} (h : net'.machine = net.machine) :
    Moved net net' := ⟨[], by simp [h]⟩

theorem moved_runTool {args : List String}
    (h : ∀ (net : Namespaces) exit, (net.toolRun ("ip" :: args) exit).Moves) :
    Keeps Moved (runTool ("ip" :: args)) := by
  intro net
  rcases runTool_ip args net with ⟨e, he⟩ | ⟨reply, he⟩
  · rw [he]
    exact .refl net
  · rw [he]
    exact ⟨_, rfl, by simpa using h net reply.exit⟩

/-- A run inside a namespace does nothing to pairs. -/
theorem deed?_inside (net : Namespaces) (space : String) (argv : List String) (exit : UInt8) :
    (net.toolRun (inside space argv) exit).deed? = none := by
  simp [ToolRun.deed?, toolRun, inside, privileged_commandLine]

theorem deed?_add (net : Namespaces) (a b : String) :
    (net.toolRun ["ip", "link", "add", a, "type", "veth", "peer", "name", b] 0).deed? =
      some (.add a b) := by
  simp [ToolRun.deed?, toolRun, privileged_commandLine]

theorem clears_delete (net : Namespaces) (name : String) (exit : UInt8) :
    (net.toolRun ["ip", "link", "del", name] exit).Clears := by
  by_cases hexit : exit = 0
  · exact Or.inr ⟨name, by simp [ToolRun.deed?, toolRun, privileged_commandLine, hexit]⟩
  · exact Or.inl (deed?_failed (by simp [toolRun, hexit]))

theorem deed?_move (net : Namespaces) (name space : String) :
    (net.toolRun ["ip", "link", "set", name, "netns", space] 0).deed? =
      some (.move name space) := by
  simp [ToolRun.deed?, toolRun, privileged_commandLine]

theorem deed?_deleteRun (net : Namespaces) (space : String) :
    (net.deleteRun space 0).deed? = some (.deleteSpace space) := by
  simp [ToolRun.deed?, deleteRun, toolRun, privileged_commandLine]

/-! ## Creating a link -/

theorem moves_set (net : Namespaces) (name space : String) (exit : UInt8) :
    (net.toolRun ["ip", "link", "set", name, "netns", space] exit).Moves := by
  by_cases hexit : exit = 0
  · exact Or.inr ⟨name, space, hexit ▸ deed?_move net name space⟩
  · exact Or.inl (deed?_failed (by simp [toolRun, hexit]))

theorem acrossEnds_moved : AcrossEnds Moved where
  inside space argv := moved_runTool fun net exit => Or.inl (deed?_inside net space argv exit)
  move interfaceName space := moved_runTool fun net exit => moves_set net interfaceName space exit

/-- An end cannot be moved, or it is moved first of all. -/
theorem attach_cases {net : Namespaces} {host : HostId} {name : String}
    (hname : net.names.get? host = some name) (op : Operation) (interfaceName : String)
    (params : LinkParams) :
    (∃ e runs, attach op host interfaceName params net = (.error e, net.ran runs) ∧
      ∀ run ∈ runs, run.exit ≠ some 0) ∨
    Moved (net.ran [net.toolRun ["ip", "link", "set", interfaceName, "netns", name] 0])
      (attach op host interfaceName params net).2 := by
  have hspace : space host net = (.ok name, net) := by rw [space, hname]
  unfold attach
  rw [Action.bind_ok _ hspace]
  rcases requireTool_ip op ["link", "set", interfaceName, "netns", name] net with
    hmove | ⟨e, runs, hmove, hfailed⟩
  · rw [Action.bind_ok _ hmove]
    exact Or.inr (keeps_raise acrossEnds_moved.inside op name interfaceName params _)
  · rw [Action.bind_error _ hmove]
    exact Or.inl ⟨e, runs, rfl, hfailed⟩

theorem moved_nextInterface (host : HostId) : Keeps Moved (nextInterface host) :=
  keeps_nextInterface (fun _ _ => .of_machine rfl) host

/-- A pair that is left over from an earlier use of a name is cleared away. -/
theorem tryDelete_clears (name : String) (net : Namespaces) :
    ∃ runs, tryTool ["ip", "link", "del", name] net = (.ok (), net.ran runs) ∧
      ∀ run ∈ runs, run.Clears := by
  rcases tryTool_cases ["link", "del", name] net with ⟨-, h⟩ | ⟨exit, h⟩
  · exact ⟨[], by rw [ran_nil]; exact h, by simp⟩
  · exact ⟨_, h, by simpa using clears_delete net name exit⟩

/-- What an attempt at a link comes to, with the result it gives: it fails where a pair gets stuck
outside. -/
def LaysLink (net : Namespaces) (done : Except SubstrateError Unit × Namespaces) : Prop :=
  ∃ during, done.2.machine.runs = net.machine.runs ++ during ∧ Laid net.names.values during ∧
    (StuckOutside during → ∃ e, done.1 = .error e)

theorem laysLink_unmade {net : Namespaces} {done : Except SubstrateError Unit × Namespaces}
    {during : List ToolRun} (hruns : done.2.machine.runs = net.machine.runs ++ during)
    (h : ∀ run ∈ during, run.made = []) : LaysLink net done :=
  ⟨during, hruns, .unmade h, fun hstuck => absurd hstuck (Machine.not_stuck_of_unmade h)⟩

theorem laysLink_of_moved {net net' : Namespaces} (h : Moved net net')
    (result : Except SubstrateError Unit) : LaysLink net (result, net') := by
  obtain ⟨more, hmore, hmoves⟩ := h
  exact laysLink_unmade hmore fun run hrun => (hmoves run hrun).made

/-- Once a pair is made it depends on the first move. -/
theorem laysLink_attach {net : Namespaces} {a : HostId} {aName bName aSpace : String}
    {before : List ToolRun} {add : ToolRun} (hclears : ∀ run ∈ before, run.Clears)
    (hadded : add.deed? = some (.add aName bName)) (hname : net.names.get? a = some aSpace)
    (op : Operation) (params : LinkParams) {next : Unit → Action Namespaces SubstrateError Unit}
    (hnext : ∀ u, Keeps Moved (next u)) :
    LaysLink net ((attach op a aName params >>= next) (net.ran (before ++ [add]))) := by
  have hname : (net.ran (before ++ [add])).names.get? a = some aSpace := hname
  rcases attach_cases hname op aName params with ⟨e, runs, hattach, hfailed⟩ | hmoved
  · rw [Action.bind_error _ hattach, ran_ran, List.append_assoc]
    have hidle : ∀ run ∈ runs, run.deed? = none := fun run hrun => deed?_failed (hfailed run hrun)
    exact ⟨_, rfl, .stuck hclears hadded hidle, fun _ => ⟨e, rfl⟩⟩
  · have hfirst := deed?_move (net.ran (before ++ [add])) aName aSpace
    obtain ⟨more, hmore, hmoves⟩ := Keeps.bind_from hmoved hnext
    refine ⟨before ++ add :: _ :: more, ?_,
      .placed hclears hadded hfirst (Table.mem_values_of_get? hname) hmoves, fun hstuck => ?_⟩
    · rw [hmore]
      simp [ran]
    · exact absurd hstuck (Machine.not_stuck_of_moved (by simp) hfirst)

theorem laysLink_createLink (a b : HostId) (params : LinkParams) (net : Namespaces) :
    LaysLink net (createLink a b params net) := by
  unfold createLink
  rcases hA : nextInterface a net with ⟨e | aName, net₁⟩
  · have hmoved := moved_nextInterface a net
    rw [hA] at hmoved
    rw [Action.bind_error _ hA]
    exact laysLink_of_moved hmoved _
  rw [Action.bind_ok _ hA]
  obtain ⟨aSpace, haSpace, -, rfl⟩ := nextInterface_ok hA
  rcases hB : nextInterface b (net.counted a) with ⟨e | bName, net₂⟩
  · have hmoved := moved_nextInterface b (net.counted a)
    rw [hB] at hmoved
    rw [Action.bind_error _ hB]
    exact laysLink_of_moved hmoved _
  rw [Action.bind_ok _ hB]
  obtain ⟨_, -, -, rfl⟩ := nextInterface_ok hB
  -- Naming the interfaces has run nothing and named no namespace.
  change LaysLink ((net.counted a).counted b) _
  have hname : ((net.counted a).counted b).names.get? a = some aSpace := haSpace
  generalize (net.counted a).counted b = counted at hname ⊢
  obtain ⟨before, hdel, hclears⟩ := tryDelete_clears aName counted
  rw [Action.bind_ok _ hdel]
  rcases requireTool_ip (.createLink a b) ["link", "add", aName, "type", "veth", "peer", "name",
    bName] (counted.ran before) with hadd | ⟨e, runs, hadd, hfailed⟩
  · rw [Action.bind_ok _ hadd, ran_toolRun, ran_ran]
    refine laysLink_attach hclears (deed?_add ..) hname _ params fun _ => ?_
    exact (keeps_attach acrossEnds_moved _ b bName params).bind fun _ =>
      .modify fun _ => .of_machine rfl
  · rw [Action.bind_error _ hadd, ran_ran]
    refine laysLink_unmade rfl fun run hrun => ?_
    rcases List.mem_append.mp hrun with hrun | hrun
    · exact (hclears run hrun).made
    · exact Machine.made_of_no_deed (deed?_failed (hfailed run hrun))

/-! ## What is left in the end -/

/-- If all namespaces could be deleted, those of all hosts were. -/
theorem Owned.release_deletes {before : List ToolRun} {net : Namespaces} (h : Owned before net) :
    ∃ after, net.release.machine.runs = net.machine.runs ++ after ∧
      ((∀ run ∈ after, run.exit = some 0) → (∀ run ∈ after, run.DeletesSpace) ∧
        ∀ space ∈ net.names.values, ∃ run ∈ after, run.deed? = some (.deleteSpace space)) := by
  obtain ⟨runs, hruns, hall, hevery⟩ := h.release_ran
  refine ⟨runs, hruns, fun hok => ⟨?_, ?_⟩⟩
  · intro run hrun
    obtain ⟨space, exit, rfl⟩ := hall run hrun
    obtain rfl : exit = 0 := Option.some.inj (hok _ hrun)
    exact ⟨space, deed?_deleteRun _ space⟩
  · intro space hspace
    obtain ⟨exit, hrun⟩ := hevery space hspace
    obtain rfl : exit = 0 := Option.some.inj (hok _ hrun)
    exact ⟨_, hrun, deed?_deleteRun _ space⟩

/-- The namespaces have come about by calls on a machine, those that failed among them. -/
def Reached (net : Namespaces) : Prop :=
  ∃ config machine calls, net = called calls { config, machine }

theorem Reached.owned {net : Namespaces} (h : Reached net) : ∃ before, Owned before net := by
  obtain ⟨config, machine, calls, rfl⟩ := h
  exact ⟨machine.runs, (Owned.new config machine).called calls⟩

/-- After any calls a link is created, and whether it fails or not, the namespaces are let go. If
all of them can be deleted, the pair of the link is gone, unless it was made and neither of its ends
was moved; then creating the link has failed, and the pair stays outside for good. The pairs of
earlier calls are as the later runs leave them. -/
theorem pair_goes_unless_stuck_outside {net : Namespaces} (h : Reached net) (a b : HostId)
    (params : LinkParams) :
    let net' := (createLink a b params net).2
    ∃ during after,
      net'.machine.runs = net.machine.runs ++ during ∧
        net'.release.machine.runs = net'.machine.runs ++ after ∧
        pairsLeft net'.release.machine.runs =
          (pairsLeft net.machine.runs).filterMap (leftOf? (during ++ after)) ++
            pairsLeft (during ++ after) ∧
        (StuckOutside during → ∃ e, (createLink a b params net).1 = .error e) ∧
        ((∀ run ∈ after, run.exit = some 0) →
          (¬ StuckOutside during → pairsLeft (during ++ after) = []) ∧
            (StuckOutside during → ∃ i j, pairsLeft (during ++ after) = [{ a := i, b := j }])) := by
  obtain ⟨before, howned⟩ := h.owned
  obtain ⟨during, hduring, hlaid, hfails⟩ := laysLink_createLink a b params net
  obtain ⟨after, hafter, hdeleted⟩ := (howned.call (.createLink a b params)).release_deletes
  have hnames := (spared_createLink a b params net).names
  refine ⟨during, after, hduring, hafter, ?_, hfails, fun hok => ?_⟩
  · rw [← pairsLeft_append, ← List.append_assoc, ← hduring]
    exact congrArg pairsLeft hafter
  · obtain ⟨hall, hevery⟩ := hdeleted hok
    refine hlaid.pairsLeft hall fun space hspace => hevery space ?_
    change space ∈ (createLink a b params net).2.names.values
    rw [hnames]
    exact hspace

theorem later_eq_drop {runs earlier later : List ToolRun} (h : runs = earlier ++ later) :
    later = runs.drop earlier.length := by
  rw [h, List.drop_left]

/-- A machine on which one tool run fails, and every other one succeeds. -/
def refusing (argv : List String) : Machine where
  answer _ words := if words = argv then some { exit := 1 } else none

/-- The namespaces of two hosts on such a machine. -/
def twoHostsRefusing (argv : List String) : Namespaces :=
  called [.createHost ⟨"A"⟩, .createHost ⟨"B"⟩] { machine := refusing argv }

theorem reached_twoHostsRefusing (argv : List String) : Reached (twoHostsRefusing argv) :=
  ⟨{}, refusing argv, [.createHost ⟨"A"⟩, .createHost ⟨"B"⟩], rfl⟩

/-- The end of A is moved and cannot be brought up, and the pair goes with the namespace of A. -/
theorem pair_goes_unless_stuck_outside_with_an_end_down :
    let net := twoHostsRefusing
      ["ip", "netns", "exec", "mip-A", "ip", "link", "set", "mip-A-eth0", "up"]
    let net' := (createLink ⟨"A"⟩ ⟨"B"⟩ {} net).2
    (createLink ⟨"A"⟩ ⟨"B"⟩ {} net).1.isOk = false ∧
      pairsLeft net'.machine.runs =
        [{ a := "mip-A-eth0", b := "mip-B-eth0", aSpace := some "mip-A" }] ∧
      pairsLeft net'.release.machine.runs = [] := by
  intro net net'
  have hreached : Reached net := reached_twoHostsRefusing _
  obtain ⟨during, after, hduring, hafter, hleft, -, hgone⟩ :=
    pair_goes_unless_stuck_outside hreached ⟨"A"⟩ ⟨"B"⟩ {}
  have hnone : pairsLeft net.machine.runs = [] := by decide +kernel
  have hmoved : net.toolRun ["ip", "link", "set", "mip-A-eth0", "netns", "mip-A"] 0 ∈ during := by
    rw [later_eq_drop hduring]
    decide +kernel
  have hdeleted : ∀ run ∈ after, run.exit = some 0 := by
    rw [later_eq_drop hafter]
    decide +kernel
  have hnot := Machine.not_stuck_of_moved hmoved (deed?_move net "mip-A-eth0" "mip-A")
  rw [(hgone hdeleted).1 hnot, hnone, List.filterMap_nil, List.append_nil] at hleft
  exact ⟨by decide +kernel, by decide +kernel, hleft⟩

/-- The end of A cannot be moved. All namespaces are deleted, and the pair is still there. -/
theorem refused_move_leaves_a_pair :
    let net := twoHostsRefusing ["ip", "link", "set", "mip-A-eth0", "netns", "mip-A"]
    let net' := (createLink ⟨"A"⟩ ⟨"B"⟩ {} net).2
    (createLink ⟨"A"⟩ ⟨"B"⟩ {} net).1.isOk = false ∧
      net'.release.machine.runs =
        net'.machine.runs ++ [net'.deleteRun "mip-A" 0, net'.deleteRun "mip-B" 0] ∧
      pairsLeft net.machine.runs = [] ∧
      pairsLeft net'.release.machine.runs = [{ a := "mip-A-eth0", b := "mip-B-eth0" }] := by
  decide +kernel

end Namespaces

end Testbed
