-- The numbers of processes. The system may give the number of a process that
-- has been waited for to a new one. A process is known by its number as long
-- as it runs if that number was never waited for before; otherwise it passes
-- for its predecessor, which has ended.
import Testbed.Proofs.Machine.Running
import Testbed.Proofs.Namespaces.Keeping

namespace Testbed

namespace Namespaces

open Testbed.Action (Keeps Same)

/-! ## What can happen to processes -/

/-- Starting, looking at and killing processes, processes that end by themselves, and the system
choosing the next numbers. -/
inductive Event where
  | exec (host : HostId) (request : ExecRequest)
  | look (pid : Pid)
  | kill (pid : Pid)
  | exit (pid : Pid)
  | choose (pids : List Pid)

def Event.apply : Event → Namespaces → Namespaces
  | exec host request, net => (Namespaces.exec host request net).2
  | look pid, net => (isAlive pid net).2
  | kill pid, net => (signalKill pid net).2
  | exit pid, net => { net with machine := net.machine.finish pid }
  | choose pids, net => { net with machine := { net.machine with plannedPids := pids } }

/-- What is done with processes, and what happens to them beside that. -/
structure AcrossEvents (R : Namespaces → Namespaces → Prop) : Prop extends AcrossProcesses R where
  finish : ∀ net pid, R net { net with machine := net.machine.finish pid }
  plan : ∀ net pids, R net { net with machine := { net.machine with plannedPids := pids } }

theorem keeps_event {R : Namespaces → Namespaces → Prop} [IsPreorder Namespaces R]
    (h : AcrossEvents R) (event : Event) (net : Namespaces) : R net (event.apply net) := by
  cases event with
  | exec host request => exact keeps_exec h.toAcrossProcesses host request net
  | look pid => exact keeps_isAlive h.reap pid net
  | kill pid => exact keeps_signalKill h.toAcrossProcesses pid net
  | exit pid => exact h.finish net pid
  | choose pids => exact h.plan net pids

theorem acrossEvents_waits : AcrossEvents (Same (·.machine.answerWait)) where
  signal net pid := (Machine.quiet_signal pid net.machine).waits
  kill _ net := (Machine.ran_run _ net.machine).tools.waits
  files _ _ := rfl
  start net _ _ _ := (Machine.ran_start _ _ net.machine).tools.waits
  book _ _ := rfl
  reap net pid := (Machine.quiet_wait pid net.machine).waits
  finish net pid := (Machine.quiet_finish pid net.machine).waits
  plan _ _ := rfl

/-- From one state to another one through events that leave a process running. -/
inductive Survives (pid : Pid) (net : Namespaces) : Namespaces → Prop
  | start (runs : net.machine.hasEnded pid = false) : Survives pid net net
  | next {net' : Namespaces} (h : Survives pid net net') (event : Event)
      (runs : (event.apply net').machine.hasEnded pid = false) : Survives pid net (event.apply net')

theorem Survives.runs {pid : Pid} {net net' : Namespaces} (h : Survives pid net net') :
    net'.machine.hasEnded pid = false := by
  cases h with
  | start runs => exact runs
  | next _ _ runs => exact runs

/-! ## The books -/

/-- A process of the substrate stays one, and is noted as waited for or not as before. -/
structure Kept (pid : Pid) (net net' : Namespaces) : Prop where
  child : pid ∈ net.children → pid ∈ net'.children
  reaped : pid ∈ net'.reaped ↔ pid ∈ net.reaped

theorem Kept.of_eq {pid : Pid} {net net' : Namespaces} (hc : net'.children = net.children)
    (hr : net'.reaped = net.reaped) : Kept pid net net' := ⟨hc ▸ id, by rw [hr]⟩

theorem Kept.trans {pid : Pid} {net₁ net₂ net₃ : Namespaces} (h : Kept pid net₁ net₂)
    (h' : Kept pid net₂ net₃) : Kept pid net₁ net₃ :=
  ⟨fun hc => h'.child (h.child hc), h'.reaped.trans h.reaped⟩

theorem kept_reap {pid other : Pid} (h : pid ≠ other) (net : Namespaces) :
    Kept pid net (net.reap other) := by
  constructor
  · intro hc
    exact List.mem_filter.mpr ⟨hc, by simpa using h⟩
  · simp [reap, h]

/-- The system never refuses that the process is waited for. -/
def Waitable (pid : Pid) (net : Namespaces) : Prop := ∀ n, net.machine.answerWait n pid = none

theorem Waitable.same {pid : Pid} {net net' : Namespaces} (h : Waitable pid net)
    (hsame : Same (·.machine.answerWait) net net') : Waitable pid net' := by
  intro n
  have heq : net'.machine.answerWait = net.machine.answerWait := hsame
  rw [heq]
  exact h n

theorem hasEnded_reap {pid : Pid} {net : Namespaces} (waitable : Waitable pid net) :
    (net.reap pid).machine.hasEnded pid = true := by
  rcases Machine.wait_cases pid net.machine with ⟨e, hrefused, -⟩ | ⟨-, h⟩
  · rw [Machine.waitRefusal?, waitable] at hrefused
    cases hrefused
  · simp [reap, h, Machine.hasEnded, Table.get?_erase]

theorem hasEnded_of_tryWait {pid : Pid} {m : Machine} (h : m.tryWait pid = .ok true) :
    m.hasEnded pid = true := by
  unfold Machine.tryWait at h
  split at h
  · cases h
  · exact Except.ok.inj h

/-- Waiting for what has ended does not touch a process that runs. -/
theorem kept_reapIfEnded {pid : Pid} {net : Namespaces} (runs : net.machine.hasEnded pid = false)
    (other : Pid) : Kept pid net (net.reapIfEnded other).2 := by
  rcases net.reapIfEnded_cases other with ⟨-, hended, h⟩ | ⟨-, h⟩
  · rw [h]
    refine kept_reap ?_ net
    rintro rfl
    rw [hasEnded_of_tryWait hended] at runs
    cases runs
  · rw [h]
    exact .of_eq rfl rfl

/-- The processes of the substrate, and those that have been waited for. -/
def books (net : Namespaces) : List Pid × List Pid := (net.children, net.reaped)

theorem Kept.of_books {pid : Pid} {net net' : Namespaces} (h : Same books net net') :
    Kept pid net net' := .of_eq (congrArg Prod.fst h) (congrArg Prod.snd h)

theorem kept_killAll (pid : Pid) (pids : List Pid) (net : Namespaces) :
    Kept pid net (killAll pids net).2 :=
  .of_books (keeps_killAll ⟨fun _ _ => rfl, fun _ _ => rfl⟩ pids net)

theorem kept_signalKill {pid : Pid} {net : Namespaces} (runs : net.machine.hasEnded pid = false)
    (waitable : Waitable pid net) {other : Pid}
    (runs' : (signalKill other net).2.machine.hasEnded pid = false) :
    Kept pid net (signalKill other net).2 := by
  unfold signalKill at runs' ⊢
  split
  · exact .of_eq rfl rfl
  next hreaped =>
    rw [if_neg hreaped] at runs'
    have hended := kept_reapIfEnded runs other
    rcases net.reapIfEnded_cases other with ⟨-, -, he⟩ | ⟨-, he⟩
    · rw [he] at hended ⊢
      exact hended
    · rw [he] at runs' ⊢
      dsimp only at runs' ⊢
      have hkilled := kept_killAll pid
        ((Machine.Family.subtree net.machine.ancestry other).getD [other]) net
      have hwaitable := waitable.same (keeps_killAll acrossEvents_waits.toAcrossKills
        ((Machine.Family.subtree net.machine.ancestry other).getD [other]) net)
      split
      · next hk =>
        rw [hk] at hkilled
        exact hkilled
      · next net₂ hk =>
        rw [hk] at hkilled hwaitable runs'
        dsimp only at runs' ⊢
        split
        · next hchild =>
          -- What is waited for here has been killed, so it is not the process that still runs.
          rw [if_pos hchild] at runs'
          refine hkilled.trans (kept_reap ?_ net₂)
          rintro rfl
          rw [hasEnded_reap hwaitable] at runs'
          cases runs'
        · exact hkilled

theorem kept_isAlive {pid : Pid} {net : Namespaces} (runs : net.machine.hasEnded pid = false)
    (other : Pid) : Kept pid net (isAlive other net).2 := by
  unfold isAlive
  split
  · exact .of_eq rfl rfl
  split
  · exact kept_reapIfEnded runs other
  · exact .of_eq rfl rfl

/-! ## Starting a process -/

/-- The action starts a process, if it succeeds, and puts it on the books. -/
def Books (act : Action Namespaces SubstrateError Pid) : Prop :=
  ∀ net, (act net).2.reaped = net.reaped ∧
    (act net).2.children = match (act net).1 with
      | .ok pid => pid :: net.children.filter (· ≠ pid)
      | .error _ => net.children

theorem Books.after {α : Type} {act : Action Namespaces SubstrateError α}
    {next : α → Action Namespaces SubstrateError Pid} (h : Keeps (Same books) act)
    (hnext : ∀ a, Books (next a)) : Books (act >>= next) := by
  intro net
  have hbooks := h net
  rw [Action.bind_apply]
  rcases hact : act net with ⟨e | a, net₁⟩
  · rw [hact] at hbooks
    exact ⟨congrArg Prod.snd hbooks, congrArg Prod.fst hbooks⟩
  · rw [hact] at hbooks
    obtain ⟨hreaped, hchildren⟩ := hnext a net₁
    have hbefore : net₁.children = net.children := congrArg Prod.fst hbooks
    rw [hbefore] at hchildren
    exact ⟨hreaped.trans (congrArg Prod.snd hbooks), hchildren⟩

theorem books_exec (host : HostId) (request : ExecRequest) : Books (exec host request) := by
  unfold exec
  refine .after (keeps_space host) fun name => ?_
  refine .after (.reads _) fun config => ?_
  refine .after (.require _ _) fun _ => ?_
  refine .after ((keeps_openLog (fun _ _ => rfl) request.title).mapError _) fun log => ?_
  refine .after (.reads _) fun line => ?_
  exact .after (fun net => rfl) fun pid net => ⟨rfl, rfl⟩

theorem kept_exec (pid : Pid) (host : HostId) (request : ExecRequest) (net : Namespaces) :
    Kept pid net (exec host request net).2 := by
  obtain ⟨hreaped, hchildren⟩ := books_exec host request net
  refine ⟨fun hc => ?_, by rw [hreaped]⟩
  rw [hchildren]
  split
  · next started _ =>
    by_cases h : pid = started
    · exact h ▸ List.mem_cons_self
    · exact List.mem_cons_of_mem _ (List.mem_filter.mpr ⟨hc, by simpa using h⟩)
  · exact hc

/-! ## As long as it runs -/

theorem kept_apply {pid : Pid} {net : Namespaces} (runs : net.machine.hasEnded pid = false)
    (waitable : Waitable pid net) (event : Event)
    (runs' : (event.apply net).machine.hasEnded pid = false) : Kept pid net (event.apply net) := by
  cases event with
  | exec host request => exact kept_exec pid host request net
  | look other => exact kept_isAlive runs other
  | kill other => exact kept_signalKill runs waitable runs'
  | exit other => exact .of_eq rfl rfl
  | choose pids => exact .of_eq rfl rfl

theorem Survives.kept {pid : Pid} {net net' : Namespaces} (h : Survives pid net net')
    (waitable : Waitable pid net) : Kept pid net net' ∧ Waitable pid net' := by
  induction h with
  | start runs => exact ⟨.of_eq rfl rfl, waitable⟩
  | next h event runs ih =>
    obtain ⟨hkept, hwaitable⟩ := ih
    exact ⟨hkept.trans (kept_apply h.runs hwaitable event runs),
      hwaitable.same (keeps_event acrossEvents_waits event _)⟩

/-- A process that was started, can be waited for and still runs is found alive just when its number
was not waited for before it was given to this process, and killing it ends it just then. -/
theorem known_unless_reaped {host : HostId} {request : ExecRequest} {pid : Pid}
    {net net₁ net₂ : Namespaces} (started : exec host request net = (.ok pid, net₁))
    (waitable : Waitable pid net₁) (survives : Survives pid net₁ net₂) :
    ((isAlive pid net₂).1 = true ↔ pid ∉ net.reaped) ∧
    ∀ net₃, signalKill pid net₂ = (.ok (), net₃) →
      (net₃.machine.hasEnded pid = true ↔ pid ∉ net.reaped) := by
  obtain ⟨hreaped, hchildren⟩ := books_exec host request net
  rw [started] at hreaped hchildren
  obtain ⟨hkept, hwaitable⟩ := survives.kept waitable
  have hchild : pid ∈ net₂.children := hkept.child (hchildren ▸ List.mem_cons_self)
  have hnoted : pid ∈ net₂.reaped ↔ pid ∈ net.reaped := by rw [hkept.reaped, hreaped]
  by_cases hold : pid ∈ net.reaped
  · have hnow := hnoted.mpr hold
    refine ⟨by simp [isAlive, hnow, hold], fun net₃ hkill => ?_⟩
    rw [signalKill, if_pos hnow] at hkill
    cases hkill
    simp [survives.runs, hold]
  · have hnow : pid ∉ net₂.reaped := fun h => hold (hnoted.mp h)
    have hwaiting : net₂.reapIfEnded pid = (false, net₂) := by
      rcases net₂.reapIfEnded_cases pid with ⟨-, hended, -⟩ | ⟨-, h⟩
      · have hruns := survives.runs
        rw [hasEnded_of_tryWait hended] at hruns
        cases hruns
      · exact h
    refine ⟨by simp [isAlive, hnow, hold, hchild, hwaiting], fun net₃ hkill => ?_⟩
    rw [signalKill, if_neg hnow, hwaiting] at hkill
    dsimp only at hkill
    have hchild' := (kept_killAll pid
      ((Machine.Family.subtree net₂.machine.ancestry pid).getD [pid]) net₂).child hchild
    have hwaitable' := hwaitable.same (keeps_killAll acrossEvents_waits.toAcrossKills
      ((Machine.Family.subtree net₂.machine.ancestry pid).getD [pid]) net₂)
    split at hkill
    · cases hkill
    · next net₄ hk =>
      rw [hk] at hchild' hwaitable'
      rw [if_pos hchild'] at hkill
      cases hkill
      simp [hasEnded_reap hwaitable', hold]

/-- Namespaces in which a host runs a command that ends at once and then one that keeps running,
and both get the same number. -/
def sameNumberTwice : Namespaces where
  names := (∅ : Table HostId String).insert ⟨"A"⟩ "mip-A"
  machine := {
    answer := fun n _ => if n = 0 then some {} else none
    plannedPids := [500, 500] }

example :
    let request : ExecRequest := { argv := ["daemon"], title := "daemon" }
    let waited := (isAlive 500 (exec ⟨"A"⟩ request sameNumberTwice).2).2
    let second := exec ⟨"A"⟩ request waited
    second.1.toOption = some 500 ∧ second.2.machine.hasEnded 500 = false ∧
      (isAlive 500 second.2).1 = false ∧
      (signalKill 500 second.2).2.machine.hasEnded 500 = false := by decide +kernel

end Namespaces

end Testbed
