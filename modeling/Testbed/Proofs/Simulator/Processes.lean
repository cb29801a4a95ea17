-- The table of processes against the log. Every command that has started has a
-- process of its own in the table, under the number that it was given, and the
-- table has no other processes. Killing takes none out of it.
import Testbed.Proofs.Simulator.Log

namespace Testbed.Simulator

/-! ## The table tells what has started -/

/-- The processes of a table are those of the started commands, numbered from the first number
on. Once all numbers have been given out, a process may have lost its place to a later one. -/
structure Booked (first : Pid) (started : List (HostId × List String))
    (processes : Table Pid Process) : Prop where
  distinct : processes.Distinct
  known : ∀ pid p, processes.get? pid = some p → ∃ n < started.length, pid = pidOf first n
  recorded : started.length ≤ UInt32.size → ∀ n c, started[n]? = some c →
    ∃ p, processes.get? (pidOf first n) = some p ∧ p.host = c.1 ∧ p.argv = c.2

namespace Booked

variable {first : Pid} {started : List (HostId × List String)} {processes : Table Pid Process}

theorem empty (first : Pid) : Booked first [] ∅ := by
  refine ⟨Table.distinct_empty, ?_, ?_⟩
  · intro pid p hp
    cases hp
  · intro _ n c hc
    cases hc

/-- The next command gets the next number. -/
theorem launched (h : Booked first started processes) (p : Process) :
    Booked first (started ++ [(p.host, p.argv)])
      (processes.insert (pidOf first started.length) p) := by
  refine ⟨h.distinct.insert _ p, ?_, ?_⟩
  · intro pid q hq
    rw [Table.get?_insert] at hq
    rw [List.length_append, List.length_singleton]
    split at hq
    · next heq => exact ⟨started.length, by omega, heq.symm⟩
    · obtain ⟨n, hn, hpn⟩ := h.known pid q hq
      exact ⟨n, by omega, hpn⟩
  · intro hsize n c hc
    rw [List.length_append, List.length_singleton] at hsize
    rw [Table.get?_insert]
    rw [List.getElem?_append] at hc
    split at hc
    · next hn =>
      -- An earlier command keeps its process, as the numbers have not run out.
      have hne : pidOf first started.length ≠ pidOf first n := fun heq => by
        have := pidOf_inj first (by omega) (by omega) heq
        omega
      rw [if_neg hne]
      exact h.recorded (by omega) n c hc
    · next hn =>
      obtain ⟨hlt, rfl⟩ := List.getElem?_eq_some_iff.mp hc
      rw [List.length_singleton] at hlt
      have hn : n = started.length := by omega
      rw [if_pos (by rw [hn]), List.getElem_singleton]
      exact ⟨p, rfl, rfl, rfl⟩

/-- Processes that are killed stay in the table. -/
theorem felled (h : Booked first started processes) (failing pids : List Pid) :
    Booked first started (felled failing pids processes) := by
  refine ⟨distinct_felled failing pids h.distinct, ?_, ?_⟩
  · intro pid p hp
    rw [get?_felled] at hp
    split at hp
    · obtain ⟨q, hq, _⟩ := Option.map_eq_some_iff.mp hp
      exact h.known pid q hq
    · exact h.known pid p hp
  · intro hsize n c hc
    obtain ⟨p, hp, hhost, hargv⟩ := h.recorded hsize n c hc
    rw [get?_felled]
    split
    · exact ⟨{ p with alive := false }, by rw [hp]; rfl, hhost, hargv⟩
    · exact ⟨p, hp, hhost, hargv⟩

end Booked

/-! ## What is alive after killing -/

/-- What is alive after killing was alive before and was spared. -/
theorem alive_felled {failing pids : List Pid} {t : Table Pid Process} {pid : Pid} {p : Process}
    (hp : (felled failing pids t).get? pid = some p) (halive : p.alive = true) :
    t.get? pid = some p ∧ (pid ∈ pids → pid ∈ failing) := by
  rw [get?_felled] at hp
  split at hp
  · obtain ⟨q, _, rfl⟩ := Option.map_eq_some_iff.mp hp
    cases halive
  · next hnot =>
    refine ⟨hp, fun hmem => ?_⟩
    by_cases hfail : pid ∈ failing
    · exact hfail
    · exact absurd ⟨hmem, hfail⟩ hnot

end Testbed.Simulator
