-- When the prompt loop ends. It is left in a turn where it is interrupted, or
-- where the line that it hears names a command that says so. An input that has
-- been closed gives the line EOF in every turn, so without a command of that
-- name the loop goes on for ever.
import Testbed.Proofs.Session.History
import Testbed.Proofs.Shell.Transcript

namespace Testbed

namespace Registry

variable {σ : Type}

/-- The word EOF names a command that always says to leave. -/
def StopsAtEof (r : Registry σ) : Prop :=
  ∃ handler, r.handlerOf "EOF" = some handler ∧
    ∀ calls args s, ∃ message, (handler calls args s).1 = .ok (.stop message)

theorem wordOf_eof : wordOf "EOF" = "EOF" := by decide

theorem stopsAtEof_standard [Substrate σ] : (standard : Registry σ).StopsAtEof := by
  refine ⟨leaveCommand, handlerOf_standard "EOF", ?_⟩
  intro calls args s
  rw [leaveCommand_eq]
  exact ⟨_, rfl⟩

end Registry

namespace Shell

variable {σ : Type}

/-! ## The turn in which the loop is left -/

/-- What the loop hears in its first turns, if it goes on for so long. -/
def heardIn (events : List ShellEvent) (n : Nat) : List (Option ShellEvent) :=
  (List.range n).map (events[·]?)

theorem heardIn_succ (events : List ShellEvent) (n : Nat) :
    heardIn events (n + 1) = events.head? :: heardIn events.tail n := by
  simp [heardIn, List.range_succ_eq_map, Function.comp_def, List.head?_eq_getElem?]

/-- The event of a turn leaves the loop, with the commands and the session as the lines of the
turns before have left them. -/
def LeavesAt (events : List ShellEvent) (p : Registry σ × Session σ) (i : Nat) : Prop :=
  courseAfter events[i]? (dispatchAll ((heardIn events i).filterMap lineOf?) p) = .leave

theorem leavesAt_zero (events : List ShellEvent) (p : Registry σ × Session σ) :
    LeavesAt events p 0 ↔ courseAfter events.head? p = .leave := by
  rw [List.head?_eq_getElem?]
  exact Iff.rfl

theorem leavesAt_succ (events : List ShellEvent) (p : Registry σ × Session σ) (i : Nat) :
    LeavesAt events p (i + 1) ↔
      LeavesAt events.tail (dispatchAll (lineOf? events.head?).toList p) i := by
  unfold LeavesAt
  rw [heardIn_succ, dispatchAll_filterMap, List.getElem?_tail]

theorem dispatchAll_handlerOf (lines : List String) (p : Registry σ × Session σ) (word : String) :
    (dispatchAll lines p).1.handlerOf word = p.1.handlerOf word := by
  unfold dispatchAll
  induction lines generalizing p with
  | nil => rfl
  | cons line lines ih =>
    obtain ⟨r, s⟩ := p
    rw [List.foldl_cons, ih]
    exact Registry.dispatch_handlerOf line r s word

/-! ## A closed input -/

/-- A command for the word EOF that says to leave does so when the input has been closed. -/
theorem leavesAt_eof {r : Registry σ} (h : r.StopsAtEof) (events : List ShellEvent)
    (s : Session σ) : LeavesAt events (r, s) events.length := by
  obtain ⟨handler, hhandler, hstops⟩ := h
  unfold LeavesAt
  rw [List.getElem?_eq_none (Nat.le_refl _)]
  generalize hp : dispatchAll ((heardIn events events.length).filterMap lineOf?) (r, s) = p
  have hsame : p.1.handlerOf (Registry.wordOf "EOF") = some handler := by
    rw [← hp, dispatchAll_handlerOf, Registry.wordOf_eof]
    exact hhandler
  obtain ⟨calls, hanswer, -⟩ := Registry.dispatch_runs (by decide) (by decide) hsame p.2
  obtain ⟨message, hstop⟩ := hstops calls (Registry.argsOf "EOF") p.2
  rw [courseAfter, lineOf?]
  change courseOf (Registry.dispatch "EOF" (p.1, p.2)).1 = .leave
  rw [hanswer, hstop]
  rfl

/-- Without a command for the word EOF the loop is not left once the input has been closed. -/
theorem not_leavesAt_closed {events : List ShellEvent} {r : Registry σ}
    (h : r.handlerOf "EOF" = none) (s : Session σ) {i : Nat} (hi : events.length ≤ i) :
    ¬ LeavesAt events (r, s) i := by
  unfold LeavesAt
  rw [List.getElem?_eq_none hi]
  generalize hp : dispatchAll ((heardIn events i).filterMap lineOf?) (r, s) = p
  have hnone : p.1.handlerOf (Registry.wordOf "EOF") = none := by
    rw [← hp, dispatchAll_handlerOf, Registry.wordOf_eof]
    exact h
  rw [courseAfter, lineOf?]
  change ¬ courseOf (Registry.dispatch "EOF" p).1 = .leave
  rcases hd : Registry.dispatch "EOF" p with ⟨result, r', s'⟩
  cases Registry.dispatches hd with
  | blank hw => exact absurd hw (by decide)
  | help _ hh => exact absurd hh (by decide)
  | unknown =>
    intro hleave
    cases hleave
  | handled _ _ handler hhandler =>
    rw [hnone] at hhandler
    cases hhandler

/-! ## The loop ends when it is left -/

/-- Some turns never fail, and they leave the loop just when one of them does. -/
theorem turns_left {sh : Shell σ} (hroom : sh.sink.room = none) (n : Nat) :
    ∃ left sh', turns n sh = (.ok left, sh') ∧ sh'.sink.room = none ∧
      (left = true ↔ ∃ i < n, LeavesAt sh.events sh.state i) := by
  induction n generalizing sh with
  | zero => exact ⟨false, sh, rfl, hroom, by simp⟩
  | succ n ih =>
    have hturn := turn_eq hroom
    rcases hcourse : courseAfter sh.events.head? sh.state with _ | _
    · rw [hcourse] at hturn
      have hroom' : sh.turned.sink.room = none := hroom
      obtain ⟨left, sh', hrest, hafter, hleft⟩ := ih hroom'
      have hzero : ¬ LeavesAt sh.events sh.state 0 := by
        rw [leavesAt_zero, hcourse]
        exact nofun
      have hsucc : ∀ i, LeavesAt sh.events sh.state (i + 1) ↔
          LeavesAt sh.turned.events sh.turned.state i := leavesAt_succ sh.events sh.state
      refine ⟨left, sh', ?_, hafter, ?_⟩
      · rw [turns, Action.bind_ok _ hturn]
        exact hrest
      · rw [hleft, Nat.exists_lt_succ_left]
        simp only [hzero, hsucc, false_or]
    · rw [hcourse] at hturn
      refine ⟨true, sh.turned, ?_, hroom, ?_⟩
      · rw [turns, Action.bind_ok _ hturn]
        rfl
      · have hzero := (leavesAt_zero sh.events sh.state).mpr hcourse
        exact iff_of_true rfl ⟨0, Nat.succ_pos n, hzero⟩

variable [Substrate σ]

/-- The loop never fails. It ends just when it is left, with the session shut down. -/
theorem drive_left {sh : Shell σ} (hroom : sh.sink.room = none) (n : Nat) :
    ∃ left sh', drive n sh = (.ok left, sh') ∧
      (left = true ↔ ∃ i < n, LeavesAt sh.events sh.state i) ∧
      (left = true → sh'.session.shutDown = true) := by
  obtain ⟨left, after, hturns, hafter, hleft⟩ := turns_left hroom n
  unfold drive
  rw [Action.bind_ok _ hturns]
  cases left with
  | false => exact ⟨false, after, rfl, hleft, nofun⟩
  | true =>
    refine ⟨true, _, Action.bind_ok _ (finish_eq hafter), hleft, fun _ => ?_⟩
    exact after.session.shutDown_close

/-- With any commands, any session and any events the loop runs without a failure. It ends just
when the event of some turn leaves it, and then the session has been shut down. If the word EOF
names a command that always says to leave, that is one turn after the events at the latest. If the
word names no command, the loop ends only where one of the events leaves it: once the input has
been closed it goes on for ever. -/
theorem loop_ends_iff (registry : Registry σ) (session : Session σ) (events : List ShellEvent)
    (written : List UInt8) (n : Nat) :
    let sh : Shell σ := { registry, session, events, sink := { written } }
    ∃ left sh', drive n sh = (.ok left, sh') ∧
      (left = true ↔ ∃ i < n, LeavesAt events (registry, session) i) ∧
      (left = true → sh'.session.shutDown = true) ∧
      (registry.StopsAtEof → events.length < n → left = true) ∧
      (registry.handlerOf "EOF" = none → left = true →
        ∃ i < events.length, LeavesAt events (registry, session) i) := by
  intro sh
  have hroom : sh.sink.room = none := rfl
  obtain ⟨left, sh', hdrive, hleft, hdown⟩ := drive_left hroom n
  refine ⟨left, sh', hdrive, hleft, hdown, ?_, ?_⟩
  · intro heof hn
    exact hleft.mpr ⟨events.length, hn, leavesAt_eof heof events session⟩
  · intro hnone htrue
    obtain ⟨i, -, hi⟩ := hleft.mp htrue
    rcases Nat.lt_or_ge i events.length with hlt | hclosed
    · exact ⟨i, hlt, hi⟩
    · exact absurd hi (not_leavesAt_closed hnone session hclosed)

/-- With the standard commands and one line, the loop ends in its second turn. -/
theorem loop_ends_iff_with_standard_commands :
    let sh : Shell Simulator :=
      { registry := .standard, session := Session.onTwoHosts, events := [.line "status"] }
    ∃ sh', drive 2 sh = (.ok true, sh') ∧ sh'.session.shutDown = true := by
  intro sh
  obtain ⟨left, sh', hdrive, -, hdown, hends, -⟩ :=
    loop_ends_iff Registry.standard Session.onTwoHosts [.line "status"] [] 2
  have htrue : left = true := hends Registry.stopsAtEof_standard (by decide)
  subst htrue
  exact ⟨sh', hdrive, hdown rfl⟩

/-- Without commands an input that is closed from the start keeps the loop going. -/
theorem loop_never_ends_without_commands :
    let sh : Shell Simulator := { registry := {}, session := Session.onTwoHosts, events := [] }
    ¬ ∃ n sh', drive n sh = (.ok true, sh') := by
  rintro sh ⟨n, sh', hdrive⟩
  have hroom : sh.sink.room = none := rfl
  obtain ⟨left, after, hsame, hleft, -⟩ := drive_left hroom n
  rw [hdrive] at hsame
  cases hsame
  obtain ⟨i, -, hi⟩ := hleft.mp rfl
  exact not_leavesAt_closed rfl Session.onTwoHosts (Nat.zero_le i) hi

end Shell

end Testbed
