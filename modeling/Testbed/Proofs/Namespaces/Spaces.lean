-- The namespaces that hosts have on the machine. Creating a host adds one and,
-- if the host had been created before, deletes it again afterwards. So the
-- namespace of a host that was created stands just when this was the first
-- time, or the deletion has failed; the creation of other hosts leaves it alone.
import Mathlib.Data.List.Induction
import Testbed.Proofs.Cuts
import Testbed.Proofs.Namespaces.Interfaces

namespace Testbed

/-! ## What stands on the machine -/

namespace Machine

/-- What a run has made of a namespace: it stands, or it is gone. Only a run that succeeds makes
anything. -/
def ToolRun.stands? (space : String) (run : ToolRun) : Option Bool :=
  match privileged run.argv with
  | ["ip", "netns", "add", s] => if run.exit = some 0 ∧ s = space then some true else none
  | ["ip", "netns", "del", s] => if run.exit = some 0 ∧ s = space then some false else none
  | _ => none

/-- What some runs have made of a namespace, as far as they did anything with it. -/
def madeOf? (runs : List ToolRun) (space : String) : Option Bool :=
  (runs.filterMap (ToolRun.stands? space)).getLast?

/-- The namespace was added, and it has not been deleted since. -/
def hasSpace (m : Machine) (space : String) : Bool := (madeOf? m.runs space).getD false

theorem madeOf?_append (runs more : List ToolRun) (space : String) :
    madeOf? (runs ++ more) space = (madeOf? more space).or (madeOf? runs space) := by
  simp [madeOf?, List.getLast?_append]

theorem madeOf?_singleton (run : ToolRun) (space : String) :
    madeOf? [run] space = run.stands? space := by
  unfold madeOf?
  cases h : run.stands? space <;> simp [h]

theorem madeOf?_failed {runs : List ToolRun} (h : ∀ run ∈ runs, run.exit ≠ some 0)
    (space : String) : madeOf? runs space = none := by
  have hnone : ∀ run ∈ runs, run.stands? space = none := by
    intro run hrun
    unfold ToolRun.stands?
    split <;> simp [h run hrun]
  rw [madeOf?, List.filterMap_eq_nil_iff.mpr hnone, List.getLast?_nil]

end Machine

namespace Namespaces

open Machine (madeOf?)

/-- The run that adds a namespace. -/
def addRun (net : Namespaces) (space : String) : Machine.ToolRun :=
  net.toolRun ["ip", "netns", "add", space] 0

/-- A run that was to delete a namespace. -/
def deleteRun (net : Namespaces) (space : String) (exit : UInt8) : Machine.ToolRun :=
  net.toolRun ["ip", "netns", "del", space] exit

theorem stands?_addRun (net : Namespaces) (space other : String) :
    (net.addRun space).stands? other = if space = other then some true else none := by
  simp only [Machine.ToolRun.stands?, addRun, toolRun, privileged_commandLine, true_and]

theorem stands?_deleteRun (net : Namespaces) (space other : String) (exit : UInt8) :
    (net.deleteRun space exit).stands? other =
      if exit = 0 ∧ space = other then some false else none := by
  simp only [Machine.ToolRun.stands?, deleteRun, toolRun, privileged_commandLine,
    Option.some.injEq]

theorem stands?_inside (net : Namespaces) (space other : String) (argv : List String)
    (exit : UInt8) : (net.toolRun (inside space argv) exit).stands? other = none := by
  simp only [Machine.ToolRun.stands?, toolRun, inside, privileged_commandLine]
  split
  · next hadd => simp at hadd
  · next hdel => simp at hdel
  · rfl

/-- A tool run whose success does not matter is written down, unless it cannot be started. -/
theorem tryTool_cases (args : List String) (net : Namespaces) :
    (net.machine.accept (net.commandLine ("ip" :: args)) ≠ .ok () ∧
      tryTool ("ip" :: args) net = (.ok (), net)) ∨
    ∃ exit, tryTool ("ip" :: args) net = (.ok (), net.ran [net.toolRun ("ip" :: args) exit]) := by
  rcases ha : net.machine.accept (net.commandLine ("ip" :: args)) with e | u
  · left
    simp [tryTool, runTool, Action.within, Machine.run, ha]
  · right
    exact ⟨_, by rw [tryTool, runTool_accepted ha]⟩

theorem accept_of_ok {op : Operation} {args : List String} {net net' : Namespaces} {u : Unit}
    (h : requireTool op ("ip" :: args) net = (.ok u, net')) :
    net.machine.accept (net.commandLine ("ip" :: args)) = .ok () := by
  rcases ha : net.machine.accept (net.commandLine ("ip" :: args)) with e | u
  · simp [requireTool, runTool, Action.within, Machine.run, ha] at h
  · rfl

/-- Where a namespace can be added the tool that deletes it can be started. -/
theorem accept_del {net : Namespaces} {space : String}
    (h : net.machine.accept (net.commandLine ["ip", "netns", "add", space]) = .ok ()) :
    net.machine.accept (net.commandLine ["ip", "netns", "del", space]) = .ok () := by
  have hdel : '\x00' ∉ "del".toList := by decide
  rw [Machine.accept_iff] at h ⊢
  unfold commandLine at h ⊢
  split at h <;> simp_all

/-! ## Creating one host -/

/-- The names are those that the hosts have for their namespaces. -/
def Named (net : Namespaces) : Prop :=
  ∀ host name, net.names.get? host = some name → name = net.spaceName host

/-- The runs make nothing of any namespace but this one. -/
def Only (space : String) (runs : List Machine.ToolRun) : Prop :=
  ∀ other, other ≠ space → madeOf? runs other = none

theorem Only.append {space : String} {runs more : List Machine.ToolRun} (h : Only space runs)
    (hmore : Only space more) : Only space (runs ++ more) := by
  intro other hother
  rw [Machine.madeOf?_append, h other hother, hmore other hother]
  rfl

theorem only_addRun (net : Namespaces) (space : String) : Only space [net.addRun space] := by
  intro other hother
  rw [Machine.madeOf?_singleton, stands?_addRun, if_neg hother.symm]

theorem only_deleteRun (net : Namespaces) (space : String) (exit : UInt8) :
    Only space [net.deleteRun space exit] := by
  intro other hother
  rw [Machine.madeOf?_singleton, stands?_deleteRun, if_neg fun h => hother h.2.symm]

theorem deleteSpace_ok (net : Namespaces) (space : String) :
    ∃ runs, deleteSpace space net = (.ok (), net.ran runs) ∧ Only space runs := by
  rcases tryTool_cases ["netns", "del", space] net with ⟨-, h⟩ | ⟨exit, h⟩
  · exact ⟨[], by rw [ran_nil]; exact h, fun _ _ => rfl⟩
  · exact ⟨_, h, only_deleteRun net space exit⟩

/-- A run inside a namespace makes nothing of any. -/
theorem tryTool_inside (net : Namespaces) (space : String) (argv : List String) :
    ∃ runs, tryTool (inside space argv) net = (.ok (), net.ran runs) ∧
      ∀ other, madeOf? runs other = none := by
  rcases tryTool_cases ("netns" :: "exec" :: space :: argv) net with ⟨-, h⟩ | ⟨exit, h⟩
  · exact ⟨[], by rw [ran_nil]; exact h, fun _ => rfl⟩
  · refine ⟨_, h, fun other => ?_⟩
    rw [Machine.madeOf?_singleton]
    exact stands?_inside net space other argv exit

/-- What creating a host comes to: it fails, or the namespace is added for good, or it is added
and then deleted once more. -/
theorem createHost_cases {net : Namespaces} (hnamed : net.Named) (host : HostId) :
    (∃ e runs, createHost host net = (.error e, net.ran runs) ∧ Only (net.spaceName host) runs) ∨
    ∃ runs, Only (net.spaceName host) runs ∧ madeOf? runs (net.spaceName host) = some true ∧
      ((net.names.get? host = none ∧
        createHost host net = (.ok ⟨net.spaceName host⟩, (net.named host).ran runs)) ∨
      (net.names.get? host ≠ none ∧ ∃ exit, createHost host net =
        (.ok ⟨net.spaceName host⟩,
          (net.named host).ran (runs ++ [net.deleteRun (net.spaceName host) exit])))) := by
  obtain ⟨r₁, hdel, hr₁⟩ := deleteSpace_ok net (net.spaceName host)
  unfold createHost
  rw [Action.reads_bind, Action.bind_ok _ hdel]
  rcases requireTool_ip (.createNamespace (net.spaceName host)) ["netns", "add", net.spaceName host]
    (net.ran r₁) with hadd | ⟨e, runs, hadd, hfailed⟩
  · right
    have hgone := accept_del (accept_of_ok hadd)
    rw [ran_toolRun, ran_ran, ← addRun] at hadd
    obtain ⟨r₂, hlo, hr₂⟩ := tryTool_inside (net.ran (r₁ ++ [net.addRun (net.spaceName host)]))
      (net.spaceName host) ["ip", "link", "set", "lo", "up"]
    rw [ran_ran] at hlo
    rw [Action.bind_ok _ hadd, Action.bind_ok _ hlo, Action.reads_bind, Action.modify_bind,
      ran_names]
    have honly : Only (net.spaceName host) (r₁ ++ [net.addRun (net.spaceName host)] ++ r₂) :=
      (hr₁.append (only_addRun net _)).append fun other _ => hr₂ other
    have hmade : madeOf? (r₁ ++ [net.addRun (net.spaceName host)] ++ r₂) (net.spaceName host) =
        some true := by
      rw [Machine.madeOf?_append, hr₂, Machine.madeOf?_append, Machine.madeOf?_singleton,
        stands?_addRun, if_pos rfl]
      rfl
    refine ⟨_, honly, hmade, ?_⟩
    rcases hname : net.names.get? host with _ | old
    · exact Or.inl ⟨rfl, rfl⟩
    · right
      obtain rfl := hnamed host old hname
      refine ⟨by simp, ?_⟩
      rcases tryTool_cases ["netns", "del", net.spaceName host]
        ((net.named host).ran (r₁ ++ [net.addRun (net.spaceName host)] ++ r₂)) with
        ⟨hno, -⟩ | ⟨exit, hold⟩
      · exact absurd hgone hno
      · rw [ran_ran] at hold
        exact ⟨exit, Action.bind_ok _ hold⟩
  · left
    rw [Action.bind_error _ hadd, ran_ran]
    refine ⟨e, r₁ ++ runs, rfl, hr₁.append ?_⟩
    intro other _
    exact Machine.madeOf?_failed hfailed other

theorem hasSpace_ran (net : Namespaces) (runs : List Machine.ToolRun) (space : String) :
    (net.ran runs).machine.hasSpace space =
      ((madeOf? runs space).or (madeOf? net.machine.runs space)).getD false := by
  rw [Machine.hasSpace, Namespaces.ran, Machine.madeOf?_append]

/-- Creating a host does nothing to the namespaces of others. -/
theorem hasSpace_other {net : Namespaces} (hnamed : net.Named) {host other : HostId}
    (h : other ≠ host) : (createHost other net).2.machine.hasSpace (net.spaceName host) =
      net.machine.hasSpace (net.spaceName host) := by
  have hspace : net.spaceName host ≠ net.spaceName other := fun heq => h (spaceName_inj heq).symm
  rcases createHost_cases hnamed other with
    ⟨e, runs, hc, honly⟩ | ⟨runs, honly, -, ⟨-, hc⟩ | ⟨-, exit, hc⟩⟩
  · rw [hc, hasSpace_ran, honly _ hspace]
    rfl
  · rw [hc, hasSpace_ran, honly _ hspace]
    rfl
  · have honly := honly.append (only_deleteRun net (net.spaceName other) exit)
    rw [hc, hasSpace_ran, honly _ hspace]
    rfl

/-- The last run on the machine has deleted the namespace. -/
def JustDeleted (net : Namespaces) (space : String) : Prop :=
  net.machine.runs.getLast?.bind (Machine.ToolRun.stands? space) = some false

theorem justDeleted_ran (net : Namespaces) (runs : List Machine.ToolRun) (space : String)
    (exit : UInt8) : (net.ran (runs ++ [net.deleteRun space exit])).JustDeleted space ↔
      exit = 0 := by
  simp [JustDeleted, Namespaces.ran, ← List.append_assoc, stands?_deleteRun]

/-- The namespace of a host that was created stands, unless the host was there before and its
namespace could be deleted. -/
theorem hasSpace_created {net : Namespaces} (hnamed : net.Named) {host : HostId}
    {context : HostContext} (hok : (createHost host net).1 = .ok context) :
    (createHost host net).2.machine.hasSpace (net.spaceName host) = true ↔
      (net.names.get? host ≠ none →
        ¬ (createHost host net).2.JustDeleted (net.spaceName host)) := by
  rcases createHost_cases hnamed host with
    ⟨e, runs, hc, -⟩ | ⟨runs, -, hmade, ⟨hnew, hc⟩ | ⟨hold, exit, hc⟩⟩
  · rw [hc] at hok
    cases hok
  · rw [hc, hasSpace_ran, hmade]
    simp [hnew]
  · have hlast := justDeleted_ran (net.named host) runs (net.spaceName host) exit
    rw [hc, hasSpace_ran, Machine.madeOf?_append, hmade, Machine.madeOf?_singleton,
      stands?_deleteRun]
    refine Iff.trans ?_ (forall_prop_of_true hold).symm
    refine Iff.trans ?_ (not_congr hlast).symm
    by_cases hexit : exit = 0 <;> simp [hexit]

/-- Creating a host that succeeds names its namespace; nothing else is named. -/
theorem names_createHost {net : Namespaces} (hnamed : net.Named) (host : HostId) :
    (createHost host net).2.config = net.config ∧ (createHost host net).2.Named ∧
      ∀ other, (createHost host net).2.names.get? other ≠ none ↔
        net.names.get? other ≠ none ∨
          (host = other ∧ ∃ context, (createHost host net).1 = .ok context) := by
  have hnew : (net.named host).Named := by
    intro other name hname
    rw [named, Table.get?_insert] at hname
    split at hname
    · next heq =>
      cases hname
      rw [heq]
      rfl
    · exact hnamed other name hname
  have hget : ∀ other, (net.named host).names.get? other ≠ none ↔
      net.names.get? other ≠ none ∨ host = other := by
    intro other
    rw [named, Table.get?_insert]
    by_cases h : host = other <;> simp [h]
  rcases createHost_cases hnamed host with
    ⟨e, runs, hc, -⟩ | ⟨runs, -, -, ⟨-, hc⟩ | ⟨-, exit, hc⟩⟩
  · rw [hc]
    exact ⟨rfl, hnamed, fun other => by simp⟩
  · rw [hc]
    exact ⟨rfl, hnew, fun other => by simpa using hget other⟩
  · rw [hc]
    exact ⟨rfl, hnew, fun other => by simpa using hget other⟩

/-! ## Creating hosts one after the other -/

/-- The namespaces after some hosts have been created, those that failed among them. -/
def created (hosts : List HostId) (net : Namespaces) : Namespaces :=
  hosts.foldl (fun net host => (createHost host net).2) net

theorem created_concat (hosts : List HostId) (host : HostId) (net : Namespaces) :
    created (hosts ++ [host]) net = (createHost host (created hosts net)).2 := by
  simp [created]

/-- One of the calls that create hosts was for this one, and it has succeeded. -/
def CreatedIn (net : Namespaces) (hosts : List HostId) (host : HostId) : Prop :=
  ∃ first later context, hosts = first ++ host :: later ∧
    (createHost host (created first net)).1 = .ok context

theorem createdIn_concat (net : Namespaces) (hosts : List HostId) (last host : HostId) :
    CreatedIn net (hosts ++ [last]) host ↔ CreatedIn net hosts host ∨
      (last = host ∧ ∃ context, (createHost last (created hosts net)).1 = .ok context) := by
  constructor
  · rintro ⟨first, later, context, heq, hok⟩
    rcases concat_eq_append_cons.mp heq with ⟨rfl, rfl, -⟩ | ⟨later, -, rfl⟩
    · exact Or.inr ⟨rfl, context, hok⟩
    · exact Or.inl ⟨first, later, context, rfl, hok⟩
  · rintro (⟨first, later, context, rfl, hok⟩ | ⟨rfl, context, hok⟩)
    · exact ⟨first, later ++ [last], context, by simp, hok⟩
    · exact ⟨hosts, [], context, rfl, hok⟩

/-- The names tell which hosts have been created. -/
theorem created_keeps {net : Namespaces} (hfresh : net.names = ∅) (hosts : List HostId) :
    (created hosts net).config = net.config ∧ (created hosts net).Named ∧
      ∀ host, (created hosts net).names.get? host ≠ none ↔ CreatedIn net hosts host := by
  induction hosts using List.reverseRecOn with
  | nil =>
    refine ⟨rfl, ?_, ?_⟩
    · intro host name hname
      change net.names.get? host = some name at hname
      rw [hfresh] at hname
      cases hname
    · intro host
      change net.names.get? host ≠ none ↔ _
      simp [hfresh, CreatedIn]
  | append_singleton hosts last ih =>
    obtain ⟨hconfig, hnamed, hnames⟩ := ih
    obtain ⟨hconfig', hnamed', hnames'⟩ := names_createHost hnamed last
    rw [created_concat]
    refine ⟨hconfig'.trans hconfig, hnamed', fun host => ?_⟩
    rw [hnames', hnames, createdIn_concat]

/-- After a host was created its namespace stands until it is created again, whatever is done
with other hosts, unless it had been created before: then its namespace is deleted in the end,
and stands just when that fails. -/
theorem space_stands_unless_created_before {net : Namespaces} (hfresh : net.names = ∅)
    (earlier later : List HostId) {host : HostId} {context : HostContext}
    (hok : (createHost host (created earlier net)).1 = .ok context) (hlater : host ∉ later) :
    (created (earlier ++ [host] ++ later) net).machine.hasSpace (net.spaceName host) = true ↔
      (CreatedIn net earlier host →
        ¬ (created (earlier ++ [host]) net).JustDeleted (net.spaceName host)) := by
  induction later using List.reverseRecOn with
  | nil =>
    obtain ⟨hconfig, hnamed, hnames⟩ := created_keeps hfresh earlier
    have hspace : (created earlier net).spaceName host = net.spaceName host := by
      rw [spaceName, spaceName, hconfig]
    have hcreated := hasSpace_created hnamed hok
    rw [hnames, hspace] at hcreated
    rw [List.append_nil, created_concat]
    exact hcreated
  | append_singleton later last ih =>
    obtain ⟨hother, hlast⟩ : host ∉ later ∧ host ≠ last := by simpa using hlater
    obtain ⟨hconfig, hnamed, -⟩ := created_keeps hfresh (earlier ++ [host] ++ later)
    have hspace : (created (earlier ++ [host] ++ later) net).spaceName host =
        net.spaceName host := by
      rw [spaceName, spaceName, hconfig]
    have hsame := hasSpace_other hnamed (Ne.symm hlast)
    rw [hspace] at hsame
    rw [← List.append_assoc, created_concat, hsame]
    exact ih hother

/-- On a machine where every tool succeeds, a host that is created for the first time has its
namespace. -/
theorem space_stands_unless_created_before_on_two_hosts :
    ({} : Namespaces).names = ∅ ∧
      (createHost ⟨"A"⟩ (created [] {})).1 = .ok ⟨"mip-A"⟩ ∧ (⟨"A"⟩ : HostId) ∉ [⟨"B"⟩] ∧
      (created [⟨"A"⟩, ⟨"B"⟩] {}).machine.hasSpace (spaceName {} ⟨"A"⟩) = true := by
  have hok : (createHost ⟨"A"⟩ (created [] {})).1 = .ok ⟨"mip-A"⟩ := by decide +kernel
  have hother : (⟨"A"⟩ : HostId) ∉ [⟨"B"⟩] := by decide
  refine ⟨rfl, hok, hother, ?_⟩
  refine (space_stands_unless_created_before rfl [] [⟨"B"⟩] hok hother).mpr ?_
  rintro ⟨first, later, _, hnil, -⟩
  simp at hnil

/-- A host that is created a second time has lost its namespace, and the call says nothing of
it. -/
theorem space_is_lost_when_created_twice :
    (createHost ⟨"A"⟩ (created [⟨"A"⟩] {})).1 = .ok ⟨"mip-A"⟩ ∧
      (created [⟨"A"⟩, ⟨"A"⟩] {}).machine.hasSpace (spaceName {} ⟨"A"⟩) = false := by
  decide +kernel

end Namespaces

end Testbed
