-- Where processes write. The test bed gives a process its log when it starts
-- it, and nothing that happens later changes that. Its children are told from
-- other processes by their parent, as long as its own number has not been
-- given to another process.
import Testbed.Proofs.Machine.Running

namespace Testbed.Machine

/-! ## Children of the test bed -/

/-- A process that the test bed itself has started. -/
def child? (m : Machine) (pid : Pid) : Option Process :=
  (m.processes.get? pid).filter (·.parent = self)

/-- The number of the test bed is still its own. -/
def OwnsNumber (m : Machine) : Prop :=
  ∃ p, m.processes.get? self = some p ∧ p.command = "testbed"

theorem child?_eq_some {m : Machine} {pid : Pid} {p : Process} :
    m.child? pid = some p ↔ m.processes.get? pid = some p ∧ p.parent = self := by
  simp [child?, Option.filter_eq_some_iff]

/-- From one machine to another one the test bed has started nothing, and no file has changed. -/
structure StartsNone (m m' : Machine) : Prop where
  owns : m'.OwnsNumber → m.OwnsNumber
  children : m'.OwnsNumber → ∀ pid p', m'.child? pid = some p' →
    ∃ p, m.child? pid = some p ∧ p.output = p'.output
  files : m'.files = m.files

theorem StartsNone.of_processes {m m' : Machine} (processes : m'.processes = m.processes)
    (files : m'.files = m.files) : StartsNone m m' := by
  refine ⟨?_, ?_, files⟩
  · rw [OwnsNumber, OwnsNumber, processes]
    exact id
  · intro _ pid p' h
    rw [child?, processes] at h
    exact ⟨p', h, rfl⟩

theorem StartsNone.refl (m : Machine) : StartsNone m m := .of_processes rfl rfl

theorem StartsNone.trans {m₁ m₂ m₃ : Machine} (h : StartsNone m₁ m₂) (h' : StartsNone m₂ m₃) :
    StartsNone m₁ m₃ := by
  refine ⟨h.owns ∘ h'.owns, ?_, h'.files.trans h.files⟩
  intro howns pid p₃ h₃
  obtain ⟨p₂, h₂, hout⟩ := h'.children howns pid p₃ h₃
  obtain ⟨p₁, h₁, hout'⟩ := h.children (h'.owns howns) pid p₂ h₂
  exact ⟨p₁, h₁, hout'.trans hout⟩

/-! ## Ending processes -/

theorem init_ne_self : init ≠ self := by decide

/-- What is on the table after a process has ended was there before, with the same command and the
same output; and if it is a child of the test bed now, it was one before. -/
theorem finish_old {pid other : Pid} {m : Machine} {p' : Process}
    (h : (m.finish pid).processes.get? other = some p') :
    ∃ p, m.processes.get? other = some p ∧ p.command = p'.command ∧ p.output = p'.output ∧
      (p'.parent = self → p.parent = self) := by
  have hadopted : ∀ {k q}, (m.processes.map fun p =>
      if p.parent = pid then { p with parent := init } else p).get? k = some q →
      ∃ p, m.processes.get? k = some p ∧ p.command = q.command ∧ p.output = q.output ∧
        (q.parent = self → p.parent = self) := by
    intro k q hp
    rw [Table.get?_map] at hp
    obtain ⟨p, hget, rfl⟩ := Option.map_eq_some_iff.mp hp
    refine ⟨p, hget, ?_⟩
    split
    · exact ⟨rfl, rfl, fun hinit => absurd hinit init_ne_self⟩
    · exact ⟨rfl, rfl, id⟩
  unfold finish at h
  dsimp only at h
  split at h
  · exact ⟨p', h, rfl, rfl, id⟩
  next q hq =>
  dsimp only at h
  split at h
  · rw [Table.get?_insert] at h
    split at h
    · next heq =>
      cases h
      have hold := hadopted hq
      rw [heq] at hold
      exact hold
    · exact hadopted h
  · rw [Table.get?_erase] at h
    split at h
    · cases h
    · exact hadopted h

theorem files_finish (pid : Pid) (m : Machine) : (m.finish pid).files = m.files := by
  unfold finish
  dsimp only
  split <;> rfl

theorem startsNone_finish (pid : Pid) (m : Machine) : StartsNone m (m.finish pid) := by
  refine ⟨?_, ?_, files_finish pid m⟩
  · rintro ⟨p', h, hname⟩
    obtain ⟨p, hget, hcommand, -⟩ := finish_old h
    exact ⟨p, hget, hcommand.trans hname⟩
  · intro _ other p' h
    obtain ⟨hget', hparent⟩ := child?_eq_some.mp h
    obtain ⟨p, hget, -, hout, hself⟩ := finish_old hget'
    exact ⟨p, child?_eq_some.mpr ⟨hget, hself hparent⟩, hout⟩

theorem startsNone_erase (pid : Pid) (m : Machine) :
    StartsNone m { m with processes := m.processes.erase pid } := by
  have hget : ∀ {other p}, (m.processes.erase pid).get? other = some p →
      m.processes.get? other = some p := by
    intro other p h
    rw [Table.get?_erase] at h
    split at h
    · cases h
    · exact h
  refine ⟨?_, ?_, rfl⟩
  · rintro ⟨p, h, hname⟩
    exact ⟨p, hget h, hname⟩
  · intro _ other p h
    obtain ⟨h, hparent⟩ := child?_eq_some.mp h
    exact ⟨p, child?_eq_some.mpr ⟨hget h, hparent⟩, rfl⟩

theorem startsNone_wait (pid : Pid) (m : Machine) : StartsNone m (wait pid m).2 := by
  rcases wait_cases pid m with ⟨e, -, h⟩ | ⟨-, h⟩
  · rw [h]
    exact .refl m
  · rw [h]
    exact (startsNone_finish pid m).trans (startsNone_erase pid _)

/-! ## Starting processes -/

theorem owns_addProcess {m : Machine} {p : Process} (hname : p.command ≠ "testbed")
    (h : (m.addProcess p).OwnsNumber) : m.OwnsNumber ∧ m.nextPid ≠ self := by
  obtain ⟨q, hget, hcommand⟩ := h
  rw [addProcess, Table.get?_insert] at hget
  split at hget
  · cases hget
    exact absurd hcommand hname
  · next hother => exact ⟨⟨q, hget, hcommand⟩, hother⟩

/-- The descendants of a process that has been started are no children of the test bed. -/
theorem startsNone_addChain {like : Process} (hname : like.command ≠ "testbed") (n : Nat)
    {parent : Pid} {m : Machine} (hparent : m.OwnsNumber → parent ≠ self) :
    StartsNone m (m.addChain like n parent) := by
  induction n generalizing parent m with
  | zero => exact .refl m
  | succ n ih =>
    have hadd : (m.addProcess { like with parent }).OwnsNumber → m.OwnsNumber ∧ m.nextPid ≠ self :=
      owns_addProcess hname
    refine StartsNone.trans ⟨fun h => (hadd h).1, ?_, rfl⟩ (ih fun h => (hadd h).2)
    intro howns pid p h
    obtain ⟨hget, hself⟩ := child?_eq_some.mp h
    rw [addProcess, Table.get?_insert] at hget
    split at hget
    · cases hget
      exact absurd hself (hparent (hadd howns).1)
    · exact ⟨p, child?_eq_some.mpr ⟨hget, hself⟩, rfl⟩

/-- What a command writes when it is started. -/
def opening (argv : List String) (m : Machine) : List UInt8 :=
  match daemon? argv, m.reply? argv with
  | some daemon, none => greeting daemon
  | some daemon, some reply => greeting daemon ++ reply.complaint
  | none, reply => (reply.getD {}).complaint

/-- From one machine to another one the test bed has started one process, which writes into the
log. -/
structure Starts (argv : List String) (log : Option Place) (pid : Pid) (m m' : Machine) : Prop where
  owns : m'.OwnsNumber → m.OwnsNumber ∧ pid ≠ self
  new : m'.OwnsNumber → ∀ p, m'.child? pid = some p → p.output = log
  old : m'.OwnsNumber → ∀ other p', other ≠ pid → m'.child? other = some p' →
    ∃ p, m.child? other = some p ∧ p.output = p'.output
  files : m'.files = (m.print log (m.opening argv)).files

theorem Starts.later {argv : List String} {log : Option Place} {pid : Pid} {m m₁ m₂ : Machine}
    (h : Starts argv log pid m m₁) (h' : StartsNone m₁ m₂) : Starts argv log pid m m₂ := by
  refine ⟨h.owns ∘ h'.owns, ?_, ?_, h'.files.trans h.files⟩
  · intro howns p hp
    obtain ⟨p₁, hp₁, hout⟩ := h'.children howns pid p hp
    exact hout ▸ h.new (h'.owns howns) p₁ hp₁
  · intro howns other p hother hp
    obtain ⟨p₁, hp₁, hout⟩ := h'.children howns other p hp
    obtain ⟨p₀, hp₀, hout'⟩ := h.old (h'.owns howns) other p₁ hother hp₁
    exact ⟨p₀, hp₀, hout'.trans hout⟩

/-- A machine with one more child of the test bed, which has just written what it writes when it is
started. -/
def opened (argv : List String) (log : Option Place) (exit : Option UInt8) (m : Machine) :
    Machine :=
  ((m.addProcess { command := argv.headD "", parent := self, output := log }).record argv
    exit).print log (m.opening argv)

theorem processes_print (log : Option Place) (bytes : List UInt8) (m : Machine) :
    (m.print log bytes).processes = m.processes := by
  unfold print
  split <;> rfl

theorem starts_opened {argv : List String} (hname : argv.headD "" ≠ "testbed") (log : Option Place)
    (exit : Option UInt8) (m : Machine) : Starts argv log m.nextPid m (m.opened argv log exit) := by
  let p : Process := { command := argv.headD "", parent := self, output := log }
  have hprocesses : (m.opened argv log exit).processes = (m.addProcess p).processes :=
    processes_print log _ _
  have hget : ∀ {other q}, (m.opened argv log exit).child? other = some q →
      (if m.nextPid = other then some p else m.processes.get? other) = some q ∧
        q.parent = self := by
    intro other q hq
    rw [← Table.get?_insert, ← child?_eq_some.mp hq |>.1, hprocesses]
    exact ⟨rfl, (child?_eq_some.mp hq).2⟩
  refine ⟨?_, ?_, ?_, ?_⟩
  · rw [OwnsNumber, hprocesses]
    exact owns_addProcess (p := p) hname
  · intro _ q hq
    obtain ⟨hq, -⟩ := hget hq
    rw [if_pos rfl] at hq
    cases hq
    rfl
  · intro _ other q hother hq
    obtain ⟨hq, hself⟩ := hget hq
    rw [if_neg (Ne.symm hother)] at hq
    exact ⟨q, child?_eq_some.mpr ⟨hq, hself⟩, rfl⟩
  · cases log <;> rfl

theorem start_cases (argv : List String) (log : Option Place) (m : Machine) :
    (∃ e, start argv log m = (.error e, m)) ∨
    ∃ exit m', start argv log m = (.ok m.nextPid, m') ∧
      ((∃ like n, like.command = argv.headD "" ∧
          m' = (m.opened argv log exit).addChain like n m.nextPid) ∨
        m' = (m.opened argv log exit).finish m.nextPid) := by
  unfold start
  rcases m.accept argv with e | u
  · exact Or.inl ⟨e, rfl⟩
  dsimp only
  refine Or.inr ?_
  unfold opened opening
  rcases daemon? argv with _ | daemon
  · exact ⟨_, _, rfl, Or.inr rfl⟩
  · rcases m.reply? argv with _ | reply
    · exact ⟨_, _, rfl, Or.inl ⟨_, _, rfl, rfl⟩⟩
    · exact ⟨_, _, rfl, Or.inr rfl⟩

theorem start_error {argv : List String} {log : Option Place} {e : OsError} {m m' : Machine}
    (h : start argv log m = (.error e, m')) : m' = m := by
  rcases start_cases argv log m with ⟨e', he⟩ | ⟨exit, m'', hstart, -⟩
  · rw [he] at h
    cases h
    rfl
  · rw [hstart] at h
    cases h

theorem starts_of_start {argv : List String} (hname : argv.headD "" ≠ "testbed")
    {log : Option Place} {pid : Pid} {m m' : Machine} (h : start argv log m = (.ok pid, m')) :
    Starts argv log pid m m' := by
  rcases start_cases argv log m with ⟨e, he⟩ | ⟨exit, m'', hstart, hcases⟩
  · rw [he] at h
    cases h
  rw [hstart] at h
  cases h
  have hopened := starts_opened hname log exit m
  rcases hcases with ⟨like, n, hlike, rfl⟩ | rfl
  · exact hopened.later (startsNone_addChain (hlike ▸ hname) n fun h => (hopened.owns h).2)
  · exact hopened.later (startsNone_finish m.nextPid _)

end Testbed.Machine
