-- The processes of a session. The log of the simulator says which commands
-- have started, and the books must agree with it all the way: the handles that
-- are tracked, the table of processes, and the processes that were killed.
import Mathlib.Data.List.Nodup
import Testbed.Proofs.Session.History
import Testbed.Proofs.Simulator.Processes

namespace Testbed.Session

open Simulator (pidOf)

/-! ## The books -/

/-- What is tracked for a started process: the number of the handle, the number of the
process, its host and its command. -/
def entryOf (h : ProcessHandle) : HandleId × Pid × HostId × List String :=
  (h.id, h.pid, h.host, h.argv)

/-- The entries of started commands, the `n`-th with handle number `n` and the `n`-th process
number after the first. -/
def entries (first : Pid) (started : List (HostId × List String)) :
    List (HandleId × Pid × HostId × List String) :=
  started.mapIdx fun n c => (⟨n⟩, pidOf first n, c.1, c.2)

theorem entries_append (first : Pid) (started : List (HostId × List String))
    (c : HostId × List String) : entries first (started ++ [c]) =
      entries first started ++ [(⟨started.length⟩, pidOf first started.length, c.1, c.2)] := by
  simp [entries]

theorem getElem?_entries (first : Pid) (started : List (HostId × List String)) (n : Nat) :
    (entries first started)[n]? =
      (started[n]?).map fun c => (⟨n⟩, pidOf first n, c.1, c.2) := by
  simp [entries]

/-- The books of a session agree with the log. -/
structure Accounted (first : Pid) (s : Session Simulator) : Prop where
  booked : Simulator.Booked first s.rig.substrate.started s.rig.substrate.processes
  next_pid : s.rig.substrate.nextPid = pidOf first s.rig.substrate.started.length
  next_index : s.rig.supervisor.nextIndex = s.rig.substrate.started.length
  tracked : s.rig.supervisor.tracked.map entryOf =
    if s.shutDown then [] else entries first s.rig.substrate.started
  killed : s.rig.substrate.killed =
    if s.shutDown then s.rig.substrate.started.mapIdx fun n _ => pidOf first n else []
  spared : s.shutDown = true → ∀ pid, s.rig.substrate.isAlive pid = true →
    ∃ call ∈ s.rig.substrate.calls, call.op = .kill pid ∧ call.ok = false

namespace Accounted

variable {first : Pid} {s s' : Session Simulator}

theorem tracked_open (h : Accounted first s) (ho : s.shutDown = false) :
    s.rig.supervisor.tracked.map entryOf = entries first s.rig.substrate.started := by
  have ht := h.tracked
  rwa [ho, if_neg Bool.false_ne_true] at ht

theorem tracked_closed (h : Accounted first s) (hc : s.shutDown = true) :
    s.rig.supervisor.tracked = [] := by
  have ht := h.tracked
  rw [hc, if_pos rfl] at ht
  exact List.map_eq_nil_iff.mp ht

theorem killed_open (h : Accounted first s) (ho : s.shutDown = false) :
    s.rig.substrate.killed = [] := by
  have hk := h.killed
  rwa [ho, if_neg Bool.false_ne_true] at hk

theorem killed_closed (h : Accounted first s) (hc : s.shutDown = true) :
    s.rig.substrate.killed = s.rig.substrate.started.mapIdx fun n _ => pidOf first n := by
  have hk := h.killed
  rwa [hc, if_pos rfl] at hk

/-- The handles of an open session carry the numbers that were given out, in their order. -/
theorem tracked_pids (h : Accounted first s) (ho : s.shutDown = false) :
    s.rig.supervisor.tracked.map (·.pid) =
      s.rig.substrate.started.mapIdx fun n _ => pidOf first n := by
  calc s.rig.supervisor.tracked.map (·.pid)
      = (s.rig.supervisor.tracked.map entryOf).map (·.2.1) := by
        rw [List.map_map]; rfl
    _ = s.rig.substrate.started.mapIdx fun n _ => pidOf first n := by
        rw [h.tracked_open ho]
        apply List.ext_getElem?
        intro n
        simp [getElem?_entries, Function.comp_def]

theorem mem_tracked_pids (h : Accounted first s) (ho : s.shutDown = false) (pid : Pid) :
    pid ∈ s.rig.supervisor.tracked.map (·.pid) ↔
      ∃ n < s.rig.substrate.started.length, pid = pidOf first n := by
  rw [h.tracked_pids ho, List.mem_mapIdx]
  constructor
  · rintro ⟨n, hn, rfl⟩
    exact ⟨n, hn, rfl⟩
  · rintro ⟨n, hn, rfl⟩
    exact ⟨n, hn, rfl⟩

/-- As long as the numbers do not run out, no two handles have one process. -/
theorem nodup_tracked (h : Accounted first s) (ho : s.shutDown = false)
    (hsize : s.rig.substrate.started.length ≤ UInt32.size) :
    (s.rig.supervisor.tracked.map (·.pid)).Nodup := by
  rw [h.tracked_pids ho, List.Nodup, List.pairwise_iff_getElem]
  intro i j hi hj hij heq
  rw [List.length_mapIdx] at hi hj
  rw [List.getElem_mapIdx, List.getElem_mapIdx] at heq
  have := Simulator.pidOf_inj first (by omega) (by omega) heq
  omega

/-! ## What keeps them in order -/

/-- A move that touches neither processes nor handles leaves the books as they are. -/
theorem quiet (h : Accounted first s) (hshut : s'.shutDown = s.shutDown)
    (hsup : s'.rig.supervisor = s.rig.supervisor)
    (hpid : s'.rig.substrate.nextPid = s.rig.substrate.nextPid)
    (hproc : s'.rig.substrate.processes = s.rig.substrate.processes)
    (hstarted : s'.rig.substrate.started = s.rig.substrate.started)
    (hkilled : s'.rig.substrate.killed = s.rig.substrate.killed)
    (hcalls : s.rig.substrate.calls ⊆ s'.rig.substrate.calls) : Accounted first s' := by
  refine ⟨?_, ?_, ?_, ?_, ?_, ?_⟩
  · rw [hproc, hstarted]
    exact h.booked
  · rw [hpid, hstarted]
    exact h.next_pid
  · rw [hsup, hstarted]
    exact h.next_index
  · rw [hsup, hshut, hstarted]
    exact h.tracked
  · rw [hkilled, hshut, hstarted]
    exact h.killed
  · intro hs pid halive
    rw [Simulator.isAlive, Simulator.process?, hproc] at halive
    obtain ⟨call, hmem, hcall⟩ := h.spared (hshut ▸ hs) pid halive
    exact ⟨call, hcalls hmem, hcall⟩

/-- A refused call is written down, and nothing else happens. -/
theorem refused (h : Accounted first s) (op : Simulator.Op) (hop : ∀ pid, op ≠ .kill pid) :
    Accounted first { s with rig := { s.rig with
      substrate := s.rig.substrate.record op false } } := by
  refine h.quiet rfl rfl rfl rfl ?_ ?_ (List.subset_append_left _ _)
  · rw [Simulator.started_record]
    cases op <;> simp [Simulator.Call.started?]
  · rw [Simulator.killed_record]
    cases op with
    | kill pid => exact absurd rfl (hop pid)
    | _ => simp [Simulator.Call.killed?]

/-- A command that starts is entered everywhere at once. -/
theorem started (h : Accounted first s) (ho : s.shutDown = false) (host : HostId)
    (request : ExecRequest) (now : Duration) : Accounted first { s with rig := { s.rig with
      supervisor := (s.rig.supervisor.track s.rig.substrate.nextPid host request now).2
      substrate := s.rig.substrate.launch host request } } := by
  have hpid := h.next_pid
  have hlen : (s.rig.substrate.launch host request).started.length =
      s.rig.substrate.started.length + 1 := by simp
  refine ⟨?_, ?_, ?_, ?_, ?_, ?_⟩
  · have hbooked := h.booked.launched { host, argv := request.argv, title := request.title }
    rw [← hpid] at hbooked
    rw [Simulator.started_launch]
    exact hbooked
  · change s.rig.substrate.nextPid + 1 = _
    rw [hlen, Simulator.pidOf_succ, hpid]
  · change s.rig.supervisor.nextIndex + 1 = _
    rw [hlen, h.next_index]
  · simp only [ho, Bool.false_eq_true, if_false, Simulator.started_launch, entries_append,
      Supervisor.track, List.map_append, List.map_cons, List.map_nil, h.tracked_open ho]
    rw [← hpid, ← h.next_index]
    rfl
  · simp only [ho, Bool.false_eq_true, if_false, Simulator.killed_launch, h.killed_open ho]
  · intro hs
    rw [ho] at hs
    cases hs

/-- A process that ends by itself stays in the table. -/
theorem exited (h : Accounted first s) (pid : Pid) :
    Accounted first (s.mapSubstrate (·.exitProcess pid)) := by
  have hproc : (s.rig.substrate.exitProcess pid).processes =
      Simulator.felled [] [pid] s.rig.substrate.processes := rfl
  refine ⟨?_, h.next_pid, h.next_index, h.tracked, h.killed, ?_⟩
  · exact h.booked.felled [] [pid]
  · intro hs x halive
    apply h.spared hs x
    change (s.rig.substrate.exitProcess pid).isAlive x = true at halive
    rw [Simulator.isAlive_iff, Simulator.process?, hproc] at halive
    obtain ⟨p, hp, hp'⟩ := halive
    exact (Simulator.isAlive_iff _ x).mpr ⟨p, (Simulator.alive_felled hp hp').1, hp'⟩

/-- The shutdown calls for every process that was started, and those that are alive after it
could not be killed. -/
theorem closed (h : Accounted first s) (ho : s.shutDown = false) : Accounted first s.close := by
  have hpids := h.tracked_pids ho
  have hproc : (Supervisor.killEach s.rig.supervisor.tracked s.rig.substrate).2.processes =
      Simulator.felled s.rig.substrate.failingKills (s.rig.supervisor.tracked.map (·.pid))
        s.rig.substrate.processes := by
    rw [Simulator.killEach_eq]
  rw [close_of_open ho]
  refine ⟨?_, ?_, ?_, rfl, ?_, ?_⟩
  · rw [Simulator.started_killEach, hproc]
    exact h.booked.felled _ _
  · rw [Simulator.started_killEach, Simulator.killEach_eq]
    exact h.next_pid
  · rw [Simulator.started_killEach]
    exact h.next_index
  · rw [Simulator.killed_killEach, Simulator.started_killEach, h.killed_open ho, hpids]
    rfl
  · intro _ x halive
    rw [Simulator.isAlive_iff, Simulator.process?, hproc] at halive
    obtain ⟨p, hp, hp'⟩ := halive
    obtain ⟨hbefore, hspared⟩ := Simulator.alive_felled hp hp'
    -- A process of the table was started, so its handle was still tracked.
    have hmem := (h.mem_tracked_pids ho x).mpr (h.booked.known x p hbefore)
    have hfail := hspared hmem
    obtain ⟨handle, hh, rfl⟩ := List.mem_map.mp hmem
    rw [Simulator.killEach_eq]
    refine ⟨_, List.mem_append_right _ (List.mem_map_of_mem hh), rfl, ?_⟩
    simpa using hfail

/-! ## The books of a whole session -/

/-- Every step keeps the books in order, and so do the shutdown and what comes from outside. -/
theorem kept (first : Pid) : Kept (Accounted first) where
  step s step result rig ho h hperf := by
    cases hperf with
    | started host request => exact h.started ho host request s.rig.clock.now
    | notStarted host request => exact h.refused (.exec host request.argv) (by simp)
    | waited d => exact h.quiet rfl rfl rfl rfl rfl rfl (List.Subset.refl _)
    | notInstantiated => exact h
    | noLink => exact h
    | already => exact h
    | switched a b state l =>
      exact h.quiet rfl rfl rfl rfl (Simulator.started_switch _ _ _ _)
        (Simulator.killed_switch _ _ _ _) (List.subset_append_left _ _)
    | notSwitched a b state l => exact h.refused (.setLink l.a l.b state) (by simp)
  close s ho h := h.closed ho
  meddle s m h := by
    cases m with
    | exitProcess pid => exact h.exited pid
    | _ => exact h.quiet rfl rfl rfl rfl rfl rfl (List.Subset.refl _)

/-- A session starts with empty books. -/
theorem at_start {config : Config} {t : Topology} {sim : Simulator} {clock : Clock}
    (fresh : sim.Fresh) (hs : start config t sim clock = .ok s) : Accounted sim.nextPid s := by
  obtain ⟨rfl, _, _⟩ := start_simulator hs
  have hstarted : (t.network sim).started = [] := by
    rw [Topology.started_network, Simulator.started, fresh.calls]
    rfl
  have hkilled : (t.network sim).killed = [] := by
    rw [Topology.killed_network, Simulator.killed, fresh.calls]
    rfl
  have hproc : (t.network sim).processes = ∅ := fresh.processes
  refine ⟨?_, ?_, ?_, ?_, ?_, ?_⟩
  · rw [hstarted, hproc]
    exact Simulator.Booked.empty sim.nextPid
  · rw [hstarted]
    exact (Simulator.pidOf_zero sim.nextPid).symm
  · rw [hstarted]
    rfl
  · rw [hstarted]
    rfl
  · rw [hstarted, hkilled]
    rfl
  · intro hno
    cases hno

end Accounted

/-! ## No process is lost -/

/-- The process of a handle is the one that was started for it. -/
theorem Accounted.tracked_process {first : Pid} {s : Session Simulator} (h : Accounted first s)
    (ho : s.shutDown = false) (hsize : s.rig.substrate.started.length ≤ UInt32.size)
    (handle : ProcessHandle) (hmem : handle ∈ s.rig.supervisor.tracked) :
    ∃ p, s.rig.substrate.process? handle.pid = some p ∧ p.host = handle.host ∧
      p.argv = handle.argv := by
  obtain ⟨n, hn⟩ := List.getElem?_of_mem hmem
  have he : (entries first s.rig.substrate.started)[n]? = some (entryOf handle) := by
    rw [← h.tracked_open ho, List.getElem?_map, hn]
    rfl
  rw [getElem?_entries] at he
  obtain ⟨c, hc, hentry⟩ := Option.map_eq_some_iff.mp he
  obtain ⟨p, hp, hhost, hargv⟩ := h.booked.recorded hsize n c hc
  simp only [entryOf, Prod.mk.injEq] at hentry
  obtain ⟨_, hpid, hh, ha⟩ := hentry
  exact ⟨p, hpid ▸ hp, hhost.trans hh, hargv.trans ha⟩

/-- A process that is alive belongs to one handle. -/
theorem Accounted.alive_process {first : Pid} {s : Session Simulator} (h : Accounted first s)
    (ho : s.shutDown = false) (hsize : s.rig.substrate.started.length ≤ UInt32.size) (pid : Pid)
    (halive : pid ∈ s.rig.substrate.alivePids) :
    ∃! handle, handle ∈ s.rig.supervisor.tracked ∧ handle.pid = pid := by
  rw [Simulator.mem_alivePids h.booked.distinct, Simulator.isAlive_iff] at halive
  obtain ⟨p, hp, _⟩ := halive
  obtain ⟨handle, hh, hpid⟩ :=
    List.mem_map.mp ((h.mem_tracked_pids ho pid).mpr (h.booked.known pid p hp))
  refine ⟨handle, ⟨hh, hpid⟩, ?_⟩
  rintro other ⟨hother, hopid⟩
  exact List.inj_on_of_nodup_map (h.nodup_tracked ho hsize) hother hh (hopid.trans hpid.symm)

/-- Whatever is done with a session, its books stay complete. While it is open the handles are
the started commands of the log, in their order, each with its process in the table, and every
process that is alive has one handle. Once it is shut down nothing is tracked, and whatever is
still alive refused to be killed. -/
theorem no_process_is_lost (config : Config) (t : Topology) (sim : Simulator) (clock : Clock)
    (s₀ : Session Simulator) (fresh : sim.Fresh) (hs : start config t sim clock = .ok s₀)
    (moves : List Move) (s : Session Simulator) (hafter : s₀.after moves = s)
    (hsize : s.rig.substrate.started.length < UInt32.size) :
    (s.shutDown = false →
      s.rig.supervisor.tracked.map entryOf = entries sim.nextPid s.rig.substrate.started ∧
      (∀ h ∈ s.rig.supervisor.tracked, ∃ p, s.rig.substrate.process? h.pid = some p ∧
        p.host = h.host ∧ p.argv = h.argv) ∧
      ∀ pid ∈ s.rig.substrate.alivePids, ∃! h, h ∈ s.rig.supervisor.tracked ∧ h.pid = pid) ∧
    (s.shutDown = true →
      s.rig.supervisor.tracked = [] ∧
      ∀ pid ∈ s.rig.substrate.alivePids,
        ∃ call ∈ s.rig.substrate.calls, call.op = .kill pid ∧ call.ok = false) := by
  subst hafter
  have h := (Accounted.kept sim.nextPid).after (Accounted.at_start fresh hs) moves
  have hsize := Nat.le_of_lt hsize
  constructor
  · intro ho
    exact ⟨h.tracked_open ho, h.tracked_process ho hsize, h.alive_process ho hsize⟩
  · intro hc
    refine ⟨h.tracked_closed hc, fun pid halive => h.spared hc pid ?_⟩
    exact (Simulator.mem_alivePids h.booked.distinct pid).mp halive

/-- Two commands start and a third one does not, which ends the run. The shutdown then fails
on the first of the two. -/
theorem no_process_is_lost_by_an_aborted_run :
    let scenario : Scenario := { name := "three", steps := [
      .spawn ⟨"A"⟩ { argv := ["server"], title := "" },
      .spawn ⟨"B"⟩ { argv := ["client", "A"], title := "" },
      .spawn ⟨"B"⟩ { argv := [], title := "" }] }
    let aborted := onTwoHosts.after [.runScenario scenario]
    let closed := onTwoHosts.after [.runScenario scenario, .meddle (.failKill 1000), .shutdown]
    aborted.rig.supervisor.tracked.map entryOf =
      [(⟨0⟩, 1000, ⟨"A"⟩, ["server"]), (⟨1⟩, 1001, ⟨"B"⟩, ["client", "A"])] ∧
    (∃! h, h ∈ aborted.rig.supervisor.tracked ∧ h.pid = 1001) ∧
    ∃ call ∈ closed.rig.substrate.calls, call.op = .kill 1000 ∧ call.ok = false := by
  intro scenario aborted closed
  have hopen := (no_process_is_lost {} Topology.twoHosts {} {} onTwoHosts
    (Simulator.fresh_default {}) start_onTwoHosts [.runScenario scenario] aborted rfl
    (by decide +kernel)).1 (by decide +kernel)
  have hclosed := (no_process_is_lost {} Topology.twoHosts {} {} onTwoHosts
    (Simulator.fresh_default {}) start_onTwoHosts
    [.runScenario scenario, .meddle (.failKill 1000), .shutdown] closed rfl
    (by decide +kernel)).2 (by decide +kernel)
  refine ⟨hopen.1.trans (by decide +kernel), hopen.2.2 1001 ?_, hclosed.2 1000 ?_⟩
  · have hdistinct : aborted.rig.substrate.processes.keys.Nodup := by decide +kernel
    exact (Simulator.mem_alivePids hdistinct 1001).mpr (by decide +kernel)
  · have hdistinct : closed.rig.substrate.processes.keys.Nodup := by decide +kernel
    exact (Simulator.mem_alivePids hdistinct 1000).mpr (by decide +kernel)

end Testbed.Session
