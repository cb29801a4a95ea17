-- A supervisor on any substrate whatever, one that answers as it likes. Handles
-- are numbered in the order in which they are given out, and a number is never
-- given out again. To kill everything is to ask for each tracked process once,
-- in that order, whatever is answered.
import Testbed.Simulator
import Testbed.Supervisor

namespace Testbed.Supervisor

/-! ## What the two operations do -/

section

variable {σ : Type} [Substrate σ]

/-- A command that starts is tracked. -/
theorem spawn_ok {host : HostId} {request : ExecRequest} {now : Duration} {sup sup' : Supervisor}
    {s s' : σ} {handle : ProcessHandle}
    (h : spawn host request now (sup, s) = (.ok handle, sup', s')) :
    ∃ pid, Substrate.exec host request s = (.ok pid, s') ∧
      sup.track pid host request now = (handle, sup') := by
  rcases he : Substrate.exec host request s with ⟨e | pid, s₁⟩
  · rw [spawn, he] at h
    cases h
  · rw [spawn, he] at h
    cases h
    exact ⟨pid, rfl, rfl⟩

/-- A command that does not start changes nothing here. -/
theorem spawn_error {host : HostId} {request : ExecRequest} {now : Duration}
    {sup sup' : Supervisor} {s s' : σ} {e : TestbedError}
    (h : spawn host request now (sup, s) = (.error e, sup', s')) :
    sup' = sup ∧ ∃ cause, Substrate.exec host request s = (.error cause, s') ∧
      e = .spawn host request.title cause := by
  rcases he : Substrate.exec host request s with ⟨cause | pid, s₁⟩
  · rw [spawn, he] at h
    cases h
    exact ⟨rfl, cause, rfl, rfl⟩
  · rw [spawn, he] at h
    cases h

/-- The substrate is asked to kill processes one after the other and answers each time. -/
inductive Kills : σ → List (ProcessHandle × Except SubstrateError Unit) → σ → Prop
  | nil (s : σ) : Kills s [] s
  | cons {s s' s'' : σ} {h : ProcessHandle} {answer : Except SubstrateError Unit}
      {later : List (ProcessHandle × Except SubstrateError Unit)}
      (asked : Substrate.signalKill h.pid s = (answer, s')) (rest : Kills s' later s'') :
      Kills s ((h, answer) :: later) s''

/-- What the answers come to: who was killed, and who was not and why, each in their order. -/
def reportOf (answers : List (ProcessHandle × Except SubstrateError Unit)) : KillReport where
  signalled := answers.filterMap fun a =>
    match a.2 with
    | .ok () => some a.1.id
    | .error _ => none
  failed := answers.filterMap fun a =>
    match a.2 with
    | .ok () => none
    | .error e => some (a.1.id, e)

/-- Whatever is answered, every process is asked for once and in order. -/
theorem killEach_kills (hs : List ProcessHandle) (s : σ) :
    ∃ answers, Kills s answers (killEach hs s).2 ∧ answers.map Prod.fst = hs ∧
      (killEach hs s).1 = reportOf answers := by
  induction hs generalizing s with
  | nil => exact ⟨[], .nil s, rfl, rfl⟩
  | cons h hs ih =>
    rcases hk : Substrate.signalKill h.pid s with ⟨answer, s'⟩
    obtain ⟨answers, hkills, hmap, hreport⟩ := ih s'
    refine ⟨(h, answer) :: answers, ?_, ?_, ?_⟩
    · rw [killEach, hk]
      exact .cons hk hkills
    · rw [List.map_cons, hmap]
    · rw [killEach, hk]
      simp only [hreport]
      rcases answer with e | u <;> rfl

end

/-! ## A supervisor in use -/

/-- A supervisor that has been in use, with all the handles that it has given out, oldest first.
Each time it may find another substrate, in any state, so that anything may be answered. -/
inductive Used : Supervisor → List ProcessHandle → Prop
  | new : Used {} []
  | spawned {σ : Type} [Substrate σ] {sup sup' : Supervisor} {given : List ProcessHandle}
      {host : HostId} {request : ExecRequest} {now : Duration} {s s' : σ} {handle : ProcessHandle}
      (h : Used sup given) (hs : spawn host request now (sup, s) = (.ok handle, sup', s')) :
      Used sup' (given ++ [handle])
  | refused {σ : Type} [Substrate σ] {sup sup' : Supervisor} {given : List ProcessHandle}
      {host : HostId} {request : ExecRequest} {now : Duration} {s s' : σ} {e : TestbedError}
      (h : Used sup given) (hs : spawn host request now (sup, s) = (.error e, sup', s')) :
      Used sup' given
  | killed {σ : Type} [Substrate σ] {sup : Supervisor} {given : List ProcessHandle}
      (h : Used sup given) (s : σ) : Used (sup.killAll s).2.1 given

/-- The handles given out are numbered one by one, and those that are tracked are the last of
them. -/
structure InOrder (sup : Supervisor) (given : List ProcessHandle) : Prop where
  numbered : given.map (·.id.index) = List.range sup.nextIndex
  tracked : sup.tracked <:+ given

theorem InOrder.track {sup sup' : Supervisor} {given : List ProcessHandle} (h : InOrder sup given)
    {pid : Pid} {host : HostId} {request : ExecRequest} {now : Duration} {handle : ProcessHandle}
    (htrack : sup.track pid host request now = (handle, sup')) :
    InOrder sup' (given ++ [handle]) := by
  cases htrack
  obtain ⟨gone, hgone⟩ := h.tracked
  refine ⟨?_, gone, ?_⟩
  · rw [List.map_append, h.numbered]
    exact List.range_succ.symm
  · rw [← hgone, List.append_assoc]

/-- The handles stay in order through any use. -/
theorem Used.inOrder {sup : Supervisor} {given : List ProcessHandle} (h : Used sup given) :
    InOrder sup given := by
  induction h with
  | new => exact ⟨rfl, List.suffix_refl []⟩
  | spawned _ hs ih =>
    obtain ⟨pid, -, htrack⟩ := spawn_ok hs
    exact ih.track htrack
  | refused _ hs ih =>
    obtain ⟨rfl, -⟩ := spawn_error hs
    exact ih
  | killed _ s ih => exact ⟨ih.numbered, List.nil_suffix⟩

theorem InOrder.increasing {sup : Supervisor} {given : List ProcessHandle}
    (h : InOrder sup given) : given.Pairwise fun a b => a.id.index < b.id.index := by
  rw [← List.pairwise_map (f := fun a : ProcessHandle => a.id.index), h.numbered]
  exact List.pairwise_lt_range

/-- The number of the next handle is larger than all that were given out. -/
theorem InOrder.lt_nextIndex {sup : Supervisor} {given : List ProcessHandle}
    (h : InOrder sup given) {handle : ProcessHandle} (hmem : handle ∈ given) :
    handle.id.index < sup.nextIndex := by
  have hrange : handle.id.index ∈ given.map (·.id.index) := List.mem_map_of_mem hmem
  rw [h.numbered] at hrange
  exact List.mem_range.mp hrange

/-! ## Killing is complete -/

/-- Through any use, on substrates that answer as they like, the numbers of handles increase in
the order in which they are given out; what is tracked are the last of them. A command that does
not start changes nothing, and one that does is tracked last, under a number larger than all
before it, killed or not. To kill everything is to ask for each tracked process once, in order,
whatever was answered before; the report parts them by their answers, and nothing is tracked any
more. -/
theorem killAll_is_complete {sup : Supervisor} {given : List ProcessHandle} (h : Used sup given)
    {σ : Type} [Substrate σ] (s : σ) :
    (sup.tracked <:+ given ∧ given.Pairwise (fun a b => a.id.index < b.id.index)) ∧
    (∀ host request now e sup' s', spawn host request now (sup, s) = (.error e, sup', s') →
      sup' = sup) ∧
    (∀ host request now handle sup' s',
      spawn host request now (sup, s) = (.ok handle, sup', s') →
      Substrate.exec host request s = (.ok handle.pid, s') ∧
      sup'.tracked = sup.tracked ++ [handle] ∧
      ∀ earlier ∈ given, earlier.id.index < handle.id.index) ∧
    ∃ answers s', Kills s answers s' ∧ answers.map Prod.fst = sup.tracked ∧
      sup.killAll s = (reportOf answers, { sup with tracked := [] }, s') := by
  have hord := h.inOrder
  refine ⟨⟨hord.tracked, hord.increasing⟩, ?_, ?_, ?_⟩
  · intro host request now e sup' s' hs
    exact (spawn_error hs).1
  · intro host request now handle sup' s' hs
    obtain ⟨pid, hexec, htrack⟩ := spawn_ok hs
    cases htrack
    exact ⟨hexec, rfl, fun earlier hmem => hord.lt_nextIndex hmem⟩
  · obtain ⟨answers, hkills, hmap, hreport⟩ := killEach_kills sup.tracked s
    refine ⟨answers, _, hkills, hmap, ?_⟩
    rw [killAll, ← hreport]

/-- One process is started and killed. Then another one is started, a third one is refused, and
the second time the kill fails. -/
theorem killAll_is_complete_in_a_second_round :
    let server : ExecRequest := { argv := ["server"], title := "" }
    let hosts : Simulator := (Simulator.createHost ⟨"A"⟩ {}).2
    let first := (spawn ⟨"A"⟩ server .zero ({}, hosts)).2
    let killed := (killAll first.1 first.2).2
    let second := (spawn ⟨"A"⟩ server .zero killed).2
    let third := (spawn ⟨"B"⟩ server .zero second).2
    let s := third.2.failKill 1001
    (∃ given, Used third.1 given ∧ given.map (·.id) = [⟨0⟩, ⟨1⟩] ∧
      given.Pairwise (fun a b => a.id.index < b.id.index)) ∧
    ∃ answers s', Kills s answers s' ∧ answers.map (·.1.pid) = [1001] ∧
      third.1.killAll s = (reportOf answers, { third.1 with tracked := [] }, s') := by
  intro server hosts first killed second third s
  have hfirst : Used first.1 _ := .spawned .new (rfl : spawn ⟨"A"⟩ server .zero ({}, hosts) = _)
  have hsecond : Used second.1 _ :=
    .spawned (.killed hfirst first.2) (rfl : spawn ⟨"A"⟩ server .zero killed = _)
  have hthird : Used third.1 _ := .refused hsecond (rfl : spawn ⟨"B"⟩ server .zero second = _)
  obtain ⟨⟨-, hincreasing⟩, -, -, answers, s', hkills, hmap, hreport⟩ :=
    killAll_is_complete hthird s
  refine ⟨⟨_, hthird, rfl, hincreasing⟩, answers, s', hkills, ?_, hreport⟩
  have hpids := congrArg (List.map (·.pid)) hmap
  rw [List.map_map] at hpids
  exact hpids

end Testbed.Supervisor
