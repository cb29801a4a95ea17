-- Which processes a kill sends its signals to. Without privileges they go out
-- one by one in the order of the family, the process itself last. A process
-- that is gone already is passed over, and any other refusal of the system
-- ends the row.
import Testbed.Proofs.Machine.Family

namespace Testbed

namespace Machine

/-! ## What is written down of signals -/

theorem signalled_finish (pid : Pid) (m : Machine) : (m.finish pid).signalled = m.signalled := by
  unfold finish
  dsimp only
  split <;> rfl

theorem signalled_signal (pid : Pid) (m : Machine) :
    (signal pid m).2.signalled = m.signalled ++ [pid] := by
  unfold signal
  split
  · rfl
  · exact signalled_finish pid _

theorem signalled_wait (pid : Pid) (m : Machine) : (wait pid m).2.signalled = m.signalled := by
  unfold wait
  split
  · rfl
  · exact signalled_finish pid m

end Machine

namespace Namespaces

variable {net : Namespaces}

/-! ## A row of signals -/

/-- How a row of signals ends: all of them were sent, or the last one sent was refused. -/
structure Row (pids : List Pid) (net : Namespaces) (r : Except SubstrateError Unit)
    (sent : List Pid) (net' : Namespaces) : Prop where
  inOrder : sent <+: pids
  noted : net'.machine.signalled = net.machine.signalled ++ sent
  all : r = .ok () → sent = pids
  refused : ∀ e, r = .error e → ∃ pid why,
    sent.getLast? = some pid ∧ why ≠ .noSuchProcess ∧ e = .io (.kill [pid]) why

theorem row_signalEach (pids : List Pid) (net : Namespaces) :
    ∃ sent, Row pids net (signalEach pids net).1 sent (signalEach pids net).2 := by
  induction pids generalizing net with
  | nil =>
    exact ⟨[], List.prefix_refl _, (List.append_nil _).symm, fun _ => rfl,
      fun e he => (by cases he)⟩
  | cons pid pids ih =>
    by_cases hsent : ∀ e, net.machine.killRefusal? pid = some e → e = .noSuchProcess
    · obtain ⟨sent, hrow⟩ := ih { net with machine := (Machine.signal pid net.machine).2 }
      rw [signalEach_goes_on hsent]
      refine ⟨pid :: sent, List.cons_prefix_cons.mpr ⟨rfl, hrow.inOrder⟩, ?_,
        fun hok => by rw [hrow.all hok], fun e he => ?_⟩
      · rw [hrow.noted, Machine.signalled_signal, List.append_assoc]
        rfl
      · obtain ⟨last, why, hlast, hwhy⟩ := hrow.refused e he
        exact ⟨last, why, by rw [List.getLast?_cons, hlast]; rfl, hwhy⟩
    · obtain ⟨why, hwhy⟩ := not_forall.mp hsent
      obtain ⟨hrefused, hwhy⟩ := Classical.not_imp.mp hwhy
      rw [signalEach_ends hrefused hwhy]
      refine ⟨[pid], List.cons_prefix_cons.mpr ⟨rfl, List.nil_prefix⟩, rfl,
        fun hok => (by cases hok), fun e he => ⟨pid, why, rfl, hwhy, ?_⟩⟩
      cases he
      rfl

/-! ## The family of a process -/

/-- Without privileges the family of a process is sent the signals in its order, and the process is
waited for after that. The kill succeeds just if no signal is refused. -/
theorem family_is_signalled_in_order {root : Pid} {victims : List Pid}
    (hsubtree : Machine.Family.subtree net.machine.ancestry root = some victims)
    (hask : net.asksPrivileges = false) (hreaped : root ∉ net.reaped)
    (hended : (net.reapIfEnded root).1 = false) :
    ∃ sent, Row victims net (signalKill root net).1 sent (signalKill root net).2 := by
  have hkill : killAll victims net = signalEach victims net := by
    unfold killAll
    rw [hask]
    cases victims <;> rfl
  obtain ⟨sent, hrow⟩ := row_signalEach victims net
  rw [signalKill_running hsubtree hreaped hended, hkill]
  refine ⟨sent, hrow.inOrder, ?_, hrow.all, hrow.refused⟩
  rw [← hrow.noted]
  split
  · exact Machine.signalled_wait root _
  · rfl

end Namespaces

end Testbed
