-- What running tools and ending processes leave as it is. The tools of a
-- machine and its answers never change, and nothing is written down among the
-- runs but the command line that was run.
import Testbed.Machine

namespace Testbed.Machine

/-- The machine has the same tools, with the same answers, and the same user. -/
structure SameTools (m m' : Machine) : Prop where
  tools : m'.tools = m.tools
  answer : m'.answer = m.answer
  kills : m'.answerKill = m.answerKill
  waits : m'.answerWait = m.answerWait
  euid : m'.euid = m.euid

theorem SameTools.refl (m : Machine) : m.SameTools m := ⟨rfl, rfl, rfl, rfl, rfl⟩

theorem SameTools.trans {m₁ m₂ m₃ : Machine} (h : m₁.SameTools m₂) (h' : m₂.SameTools m₃) :
    m₁.SameTools m₃ :=
  ⟨h'.tools.trans h.tools, h'.answer.trans h.answer, h'.kills.trans h.kills,
    h'.waits.trans h.waits, h'.euid.trans h.euid⟩

theorem SameTools.accept {m m' : Machine} (h : m.SameTools m') (argv : List String) :
    m'.accept argv = m.accept argv := by
  rw [Machine.accept, Machine.accept, h.tools]

/-- From one machine to another one no tool has run. -/
structure Quiet (m m' : Machine) : Prop extends SameTools m m' where
  runs : m'.runs = m.runs

theorem Quiet.refl (m : Machine) : m.Quiet m := ⟨.refl m, rfl⟩

/-- What a machine has beside its tools and their runs may change. -/
theorem quiet_beside (m : Machine) (signalled : List Pid) (processes : Table Pid Process)
    (plannedPids : List Pid) (lastPid : Pid) (files : Files) :
    m.Quiet { m with signalled, processes, plannedPids, lastPid, files } :=
  ⟨⟨rfl, rfl, rfl, rfl, rfl⟩, rfl⟩

theorem Quiet.trans {m₁ m₂ m₃ : Machine} (h : m₁.Quiet m₂) (h' : m₂.Quiet m₃) : m₁.Quiet m₃ :=
  ⟨h.toSameTools.trans h'.toSameTools, h'.runs.trans h.runs⟩

/-! ## Ending processes -/

theorem quiet_finish (pid : Pid) (m : Machine) : m.Quiet (m.finish pid) := by
  unfold finish
  dsimp only
  split <;> exact quiet_beside ..

theorem quiet_recordSignal (pid : Pid) (m : Machine) : m.Quiet (m.recordSignal pid) :=
  quiet_beside ..

theorem quiet_signal (pid : Pid) (m : Machine) : m.Quiet (signal pid m).2 := by
  unfold signal
  split
  · exact quiet_recordSignal pid m
  · exact (quiet_recordSignal pid m).trans (quiet_finish pid _)

/-- A wait that is refused does nothing, and any other one takes an ended process off the table. -/
theorem wait_cases (pid : Pid) (m : Machine) :
    (∃ e, m.waitRefusal? pid = some e ∧ wait pid m = (.error e, m)) ∨
    m.waitRefusal? pid = none ∧ wait pid m =
      (.ok (), { m.finish pid with processes := (m.finish pid).processes.erase pid }) := by
  unfold wait
  rcases m.waitRefusal? pid with _ | e
  · exact Or.inr ⟨rfl, rfl⟩
  · exact Or.inl ⟨e, rfl, rfl⟩

theorem quiet_wait (pid : Pid) (m : Machine) : m.Quiet (wait pid m).2 := by
  have hfinish := quiet_finish pid m
  rcases wait_cases pid m with ⟨e, -, h⟩ | ⟨-, h⟩
  · rw [h]
    exact .refl m
  · rw [h]
    exact hfinish.trans (quiet_beside ..)

theorem quiet_carryOut (argv : List String) (m : Machine) : m.Quiet (m.carryOut argv) := by
  have hkills : ∀ (pids : List Pid) (m : Machine),
      m.Quiet (pids.foldl (fun m pid => m.finish pid) m) := by
    intro pids
    induction pids with
    | nil => exact .refl
    | cons pid pids ih => exact fun m => (quiet_finish pid m).trans (ih (m.finish pid))
  unfold carryOut
  split
  · exact hkills _ m
  · exact .refl m

/-! ## Starting processes -/

theorem quiet_addProcess (process : Process) (m : Machine) : m.Quiet (m.addProcess process) :=
  quiet_beside ..

theorem quiet_addChain (like : Process) (n : Nat) (parent : Pid) (m : Machine) :
    m.Quiet (m.addChain like n parent) := by
  induction n generalizing m parent with
  | zero => exact .refl m
  | succ n ih => exact (quiet_addProcess _ m).trans (ih m.nextPid _)

theorem quiet_print (log : Option Place) (bytes : List UInt8) (m : Machine) :
    m.Quiet (m.print log bytes) := by
  unfold print
  split <;> exact quiet_beside ..

/-! ## Running -/

/-- From one machine to another one the tools stay the same, and all that has run since was run
with these words. -/
structure Ran (argv : List String) (m m' : Machine) : Prop where
  tools : m.SameTools m'
  runs : ∃ more, m'.runs = m.runs ++ more ∧ ∀ run ∈ more, run.argv = argv

theorem Quiet.ran {m m' : Machine} (h : m.Quiet m') (argv : List String) : Ran argv m m' :=
  ⟨h.toSameTools, [], by rw [h.runs, List.append_nil], by simp⟩

theorem Ran.quiet {argv : List String} {m₁ m₂ m₃ : Machine} (h : Ran argv m₁ m₂)
    (h' : m₂.Quiet m₃) : Ran argv m₁ m₃ :=
  ⟨h.tools.trans h'.toSameTools, h'.runs ▸ h.runs⟩

theorem Quiet.record {m m' : Machine} (h : m.Quiet m') (argv : List String) (exit : Option UInt8) :
    Ran argv m (m'.record argv exit) :=
  ⟨h.toSameTools.trans ⟨rfl, rfl, rfl, rfl, rfl⟩, [{ argv, exit }], by rw [← h.runs]; rfl, by simp⟩

theorem ran_run (argv : List String) (m : Machine) : Ran argv m (run argv m).2 := by
  unfold run
  split
  · exact (Quiet.refl m).ran argv
  · dsimp only
    have hrecord := fun exit => (Quiet.refl m).record argv exit
    split
    · exact (hrecord _).quiet (quiet_carryOut _ _)
    · exact hrecord _

theorem ran_start (argv : List String) (log : Option Place) (m : Machine) :
    Ran argv m (start argv log m).2 := by
  have hstarted : ∀ (process : Process) (exit : Option UInt8) (bytes : List UInt8),
      Ran argv m (((m.addProcess process).record argv exit).print log bytes) :=
    fun process exit bytes =>
      ((quiet_addProcess process m).record argv exit).quiet (quiet_print log bytes _)
  unfold start
  split
  · exact (Quiet.refl m).ran argv
  · dsimp only
    split
    · exact (hstarted _ _ _).quiet (quiet_addChain _ _ _ _)
    · exact (hstarted _ _ _).quiet (quiet_finish _ _)
    · exact (hstarted _ _ _).quiet (quiet_finish _ _)

/-- A command line that is accepted starts a process. -/
theorem start_accepted {argv : List String} {m : Machine} (h : m.accept argv = .ok ())
    (log : Option Place) : ∃ m', start argv log m = (.ok m.nextPid, m') ∧ m.SameTools m' := by
  obtain ⟨m', hstart⟩ : ∃ m', start argv log m = (.ok m.nextPid, m') := by
    unfold start
    rw [h]
    dsimp only
    split <;> exact ⟨_, rfl⟩
  have hran := ran_start argv log m
  rw [hstart] at hran
  exact ⟨m', hstart, hran.tools⟩

end Testbed.Machine
