-- The prompt loop on a sink that fills up. Its run is the unlimited one, cut at
-- the first text that does not fit: what is written are the first bytes, what
-- is done with the session are the first moves. Whatever has been cut off, the
-- session is shut down when it is let go.
import Testbed.Proofs.Session.Teardown
import Testbed.Proofs.Shell.Transcript

namespace Testbed.Shell

open Session (history)

/-! ## Runs that are cut -/

/-- The shell with room for only some bytes more. -/
def limited {σ : Type} (sh : Shell σ) (room : Nat) : Shell σ :=
  { sh with sink := { sh.sink with room := some room } }

/-- An action on an unlimited sink that writes some bytes and makes some moves with the session.
On a sink with enough room it does just the same. On one with less it fails, after the first of the
bytes and the first of the moves. -/
structure Cuts {α : Type} (sh : Shell Simulator) (act : Action (Shell Simulator) SinkError α)
    (moves : List Move) (bytes : List UInt8) (a : α) (sh' : Shell Simulator) : Prop where
  whole : act sh = (.ok a, sh')
  unlimited : sh'.sink.room = none
  written : sh'.sink.written = sh.sink.written ++ bytes
  moved : sh'.state = history moves sh.state
  fits : ∀ room, bytes.length ≤ room →
    act (sh.limited room) = (.ok a, sh'.limited (room - bytes.length))
  full : ∀ room, room < bytes.length → ∃ cut, act (sh.limited room) = (.error .full, cut) ∧
    cut.sink.written = sh.sink.written ++ bytes.take room ∧
    ∃ done, done <+: moves ∧ cut.state = history done sh.state

variable {α β : Type} {sh sh₁ sh₂ : Shell Simulator}

/-- An action that writes nothing is not cut. -/
theorem Cuts.silent {act : Action (Shell Simulator) SinkError α} {moves : List Move} {a : α}
    (whole : act sh = (.ok a, sh₁)) (unlimited : sh₁.sink.room = none)
    (written : sh₁.sink.written = sh.sink.written) (moved : sh₁.state = history moves sh.state)
    (fits : ∀ room, act (sh.limited room) = (.ok a, sh₁.limited room)) :
    Cuts sh act moves [] a sh₁ := by
  refine ⟨whole, unlimited, ?_, moved, fun room _ => fits room, fun room h => ?_⟩
  · rw [written, List.append_nil]
  · exact absurd h (Nat.not_lt_zero room)

theorem cuts_pure (h : sh.sink.room = none) (a : α) : Cuts sh (pure a) [] [] a sh :=
  .silent rfl h rfl rfl fun _ => rfl

/-- Actions in a row are cut where the first of them is, or else where the next one is. -/
theorem Cuts.bind {act : Action (Shell Simulator) SinkError α}
    {next : α → Action (Shell Simulator) SinkError β} {moves more : List Move}
    {bytes later : List UInt8} {a : α} {b : β} (h : Cuts sh act moves bytes a sh₁)
    (hnext : Cuts sh₁ (next a) more later b sh₂) :
    Cuts sh (act >>= next) (moves ++ more) (bytes ++ later) b sh₂ := by
  refine ⟨?_, hnext.unlimited, ?_, ?_, ?_, ?_⟩
  · rw [Action.bind_ok next h.whole, hnext.whole]
  · rw [hnext.written, h.written, List.append_assoc]
  · rw [hnext.moved, h.moved, Session.history_append]
  · intro room hroom
    rw [List.length_append] at hroom
    rw [Action.bind_ok next (h.fits room (by omega)), hnext.fits _ (by omega), List.length_append,
      Nat.sub_sub]
  · intro room hroom
    rw [List.length_append] at hroom
    rcases Nat.lt_or_ge room bytes.length with hlt | hge
    · obtain ⟨cut, hact, hwritten, done, hdone, hstate⟩ := h.full room hlt
      refine ⟨cut, Action.bind_error next hact, ?_, done, ?_, hstate⟩
      · rw [hwritten, List.take_append_of_le_length (Nat.le_of_lt hlt)]
      · exact hdone.trans (List.prefix_append moves more)
    · obtain ⟨cut, hact, hwritten, done, hdone, hstate⟩ :=
        hnext.full (room - bytes.length) (by omega)
      refine ⟨cut, ?_, ?_, moves ++ done, ?_, ?_⟩
      · rw [Action.bind_ok next (h.fits room hge), hact]
      · rw [hwritten, h.written, List.append_assoc, List.take_append, List.take_of_length_le hge]
      · exact (List.prefix_append_right_inj moves).mpr hdone
      · rw [hstate, h.moved, Session.history_append]

/-! ## The parts of a turn -/

theorem cuts_write (h : sh.sink.room = none) (text : String) :
    Cuts sh (write text) [] (Text.Utf8.encode text) () (sh.said [text] sh.state) := by
  have hsaid : (sh.said [text] sh.state).sink.written =
      sh.sink.written ++ Text.Utf8.encode text := by
    simp [said, String.join]
  have hlimited : ∀ room, write text (sh.limited room) =
      (if (Text.Utf8.encode text).length ≤ room then .ok () else .error .full, { sh with
        sink := { written := sh.sink.written ++ (Text.Utf8.encode text).take room
                  room := some (room - (Text.Utf8.encode text).length) } }) := by
    intro room
    unfold write
    rw [Sink.write_limited (n := room) _ _ rfl]
    simp [limited]
  refine ⟨write_eq text h, h, hsaid, rfl, ?_, ?_⟩
  · intro room hroom
    rw [hlimited, if_pos hroom, List.take_of_length_le hroom, ← hsaid]
    rfl
  · intro room hroom
    rw [hlimited, if_neg (Nat.not_le.mpr hroom)]
    exact ⟨_, rfl, rfl, [], List.prefix_refl [], rfl⟩

theorem cuts_nextEvent (h : sh.sink.room = none) :
    Cuts sh nextEvent [] [] sh.events.head? { sh with events := sh.events.tail } :=
  .silent rfl h rfl rfl fun _ => rfl

theorem cuts_dispatch (h : sh.sink.room = none) {line : String}
    {result : Except CommandError CommandOutcome} {r : Registry Simulator} {s : Session Simulator}
    (hd : Registry.dispatch line (sh.registry, sh.session) = (result, r, s)) :
    Cuts sh ((Registry.dispatch line).attempt.within (fun sh => (sh.registry, sh.session))
      fun (registry, session) sh => { sh with registry, session }) [.dispatch line] [] result
      { sh with registry := r, session := s } := by
  have hmoved : history [.dispatch line] sh.state = (r, s) := congrArg (·.2) hd
  refine .silent ?_ h rfl hmoved.symm fun room => ?_
  · simp only [Action.within, Action.attempt, hd]
  · simp only [Action.within, Action.attempt, limited, hd]

theorem cuts_writeLine (h : sh.sink.room = none) (text : String) (a : α) :
    ∃ bytes, Cuts sh (do writeLine text; pure a) [] bytes a
      (sh.said [text ++ "\n"] sh.state) := by
  have hroom : (sh.said [text ++ "\n"] sh.state).sink.room = none := h
  exact ⟨_, (cuts_write h (text ++ "\n")).bind (cuts_pure hroom a)⟩

/-- The answer to a line is cut after the line has been dispatched. -/
theorem cuts_answer (h : sh.sink.room = none) (line : String) :
    ∃ bytes course sh', Cuts sh (answer line) [.dispatch line] bytes course sh' := by
  rcases hd : Registry.dispatch line (sh.registry, sh.session) with ⟨result, r, s⟩
  have hdispatch := cuts_dispatch h hd
  let sh₁ : Shell Simulator := { sh with registry := r, session := s }
  have hroom : sh₁.sink.room = none := h
  match result with
  | .error e =>
    obtain ⟨bytes, hwrite⟩ := cuts_writeLine hroom ("error: " ++ e.message) Course.again
    exact ⟨_, _, _, hdispatch.bind hwrite⟩
  | .ok (.stop message) =>
    obtain ⟨bytes, hwrite⟩ := cuts_writeLine hroom message Course.leave
    exact ⟨_, _, _, hdispatch.bind hwrite⟩
  | .ok (.goOn message) =>
    obtain ⟨bytes, sh', hreply⟩ : ∃ bytes sh', Cuts sh₁
        (if message.isEmpty then pure Course.again else do writeLine message; pure Course.again)
        [] bytes Course.again sh' := by
      split
      · exact ⟨[], sh₁, cuts_pure hroom Course.again⟩
      · obtain ⟨bytes, hwrite⟩ := cuts_writeLine hroom message Course.again
        exact ⟨bytes, _, hwrite⟩
    exact ⟨_, _, _, hdispatch.bind hreply⟩

/-- A broken line and the answer to the word for the end of the input. -/
theorem cuts_eof (h : sh.sink.room = none) :
    ∃ bytes course sh', Cuts sh (do writeLine ""; answer "EOF") [.dispatch "EOF"]
      bytes course sh' := by
  have hbreak := cuts_write h ("" ++ "\n")
  obtain ⟨bytes, course, sh', hanswer⟩ := cuts_answer hbreak.unlimited "EOF"
  exact ⟨_, course, sh', hbreak.bind hanswer⟩

theorem cuts_react (h : sh.sink.room = none) (event : Option ShellEvent) :
    ∃ bytes course sh', Cuts sh (react event) ((lineOf? event).toList.map .dispatch)
      bytes course sh' := by
  match event with
  | some (.line text) => exact cuts_answer h text
  | some .interrupt =>
    obtain ⟨bytes, hwrite⟩ := cuts_writeLine h "" Course.leave
    exact ⟨bytes, _, _, hwrite⟩
  | some .endOfInput => exact cuts_eof h
  | none => exact cuts_eof h

/-- A turn is cut before its line is dispatched, or after. -/
theorem cuts_turn (h : sh.sink.room = none) :
    ∃ bytes course sh', Cuts sh turn ((lineOf? sh.events.head?).toList.map .dispatch)
      bytes course sh' := by
  have hprompt := cuts_write h prompt
  have hnext := cuts_nextEvent hprompt.unlimited
  obtain ⟨bytes, course, sh', hreact⟩ := cuts_react hnext.unlimited sh.events.head?
  exact ⟨_, course, sh', hprompt.bind (hnext.bind hreact)⟩

/-! ## The whole run -/

/-- The moves that the loop makes for what it hears. -/
def movesFor (heard : List (Option ShellEvent)) : List Move :=
  (heard.filterMap lineOf?).map .dispatch

theorem movesFor_cons (event : Option ShellEvent) (events : List (Option ShellEvent)) :
    movesFor (event :: events) = (lineOf? event).toList.map .dispatch ++ movesFor events := by
  rw [movesFor, lines_cons, List.map_append]
  rfl

/-- A turn with the standard commands, and whether it is the last. -/
theorem cuts_turn_course (hroom : sh.sink.room = none) (hr : sh.registry.IsStandard) :
    ∃ bytes, Cuts sh turn ((lineOf? sh.events.head?).toList.map .dispatch) bytes
      (if sh.events.head?.all ends then .leave else .again) sh.turned := by
  obtain ⟨bytes, course, sh', hturn⟩ := cuts_turn hroom
  have hsame := hturn.whole.symm.trans (turn_course hroom hr)
  cases hsame
  exact ⟨bytes, hturn⟩

/-- The last turn. -/
theorem cuts_turns_last (hroom : sh.sink.room = none) (hr : sh.registry.IsStandard)
    (hends : sh.events.head?.all ends = true) (n : Nat) :
    ∃ bytes, Cuts sh (turns (n + 1)) (movesFor [sh.events.head?]) bytes true sh.turned := by
  obtain ⟨bytes, hturn⟩ := cuts_turn_course hroom hr
  rw [if_pos hends] at hturn
  rw [movesFor_cons, turns]
  exact ⟨_, hturn.bind (cuts_pure hturn.unlimited true)⟩

/-- The loop is cut in one of its turns. -/
theorem cuts_turns (hroom : sh.sink.room = none) (hr : sh.registry.IsStandard) (more : Nat) :
    ∃ bytes sh', Cuts sh (turns (stopPoint sh.events + 1 + more)) (movesFor (heard sh.events))
      bytes true sh' := by
  induction he : sh.events generalizing sh with
  | nil =>
    have hends : sh.events.head?.all ends = true := by rw [he]; rfl
    obtain ⟨bytes, hlast⟩ := cuts_turns_last hroom hr hends more
    rw [he] at hlast
    rw [stopPoint_nil, Nat.zero_add, Nat.add_comm]
    exact ⟨bytes, _, hlast⟩
  | cons event events ih =>
    have hhead : sh.events.head? = some event := by rw [he]; rfl
    rw [heard_cons, stopPoint_cons]
    by_cases h : ends event = true
    · have hends : sh.events.head?.all ends = true := by rw [hhead]; exact h
      obtain ⟨bytes, hlast⟩ := cuts_turns_last hroom hr hends more
      rw [hhead] at hlast
      rw [if_pos h, if_pos h, Nat.zero_add, Nat.add_comm]
      exact ⟨bytes, _, hlast⟩
    · have hgoesOn : sh.events.head?.all ends = false := by
        rw [hhead]
        exact Bool.eq_false_iff.mpr h
      obtain ⟨bytes, hturn⟩ := cuts_turn_course hroom hr
      rw [hgoesOn, if_neg Bool.false_ne_true, hhead] at hturn
      have hstandard : sh.turned.registry.IsStandard := isStandard_dispatchAll _ (p := sh.state) hr
      have hevents : sh.turned.events = events := congrArg List.tail he
      obtain ⟨later, sh', hrest⟩ := ih hturn.unlimited hstandard hevents
      rw [if_neg h, if_neg h, Nat.add_right_comm, turns, movesFor_cons]
      exact ⟨_, sh', hturn.bind hrest⟩

/-- What follows the loop is cut after the shutdown. -/
theorem cuts_finish (h : sh.sink.room = none) :
    ∃ bytes sh', Cuts sh finish [.shutdown] bytes () sh' := by
  let sh₁ : Shell Simulator := { sh with session := sh.session.close }
  have hshutdown : Cuts sh (fun sh => (.ok sh.session.shutdown.1, { sh with
      session := sh.session.shutdown.2 })) [.shutdown] [] sh.session.shutdown.1 sh₁ :=
    .silent rfl h rfl rfl fun _ => rfl
  unfold finish
  rcases hreport : sh.session.shutdown.1 with _ | report
  · rw [hreport] at hshutdown
    exact ⟨_, _, hshutdown.bind (cuts_pure hshutdown.unlimited ())⟩
  · rw [hreport] at hshutdown
    exact ⟨_, _, hshutdown.bind (cuts_write hshutdown.unlimited (report.summary ++ "\n"))⟩

theorem cuts_drive (hroom : sh.sink.room = none) (hr : sh.registry.IsStandard) (more : Nat) :
    ∃ bytes sh', Cuts sh (drive (stopPoint sh.events + 1 + more))
      (movesFor (heard sh.events) ++ [.shutdown]) bytes true sh' := by
  obtain ⟨bytes, sh₁, hturns⟩ := cuts_turns hroom hr more
  obtain ⟨last, sh₂, hfinish⟩ := cuts_finish hturns.unlimited
  exact ⟨_, _, hturns.bind (hfinish.bind (cuts_pure hfinish.unlimited true))⟩

/-! ## On a limited sink and on an unlimited one -/

theorem stopPoint_lt_turnsAllowed (sh : Shell Simulator) :
    stopPoint sh.events < sh.turnsAllowed := by
  have hstop : stopPoint sh.events ≤ sh.events.length := List.findIdx_le_length
  unfold turnsAllowed
  omega

/-- With enough turns it does not matter how many there are. -/
theorem drive_enough (hroom : sh.sink.room = none) (hr : sh.registry.IsStandard) {n : Nat}
    (hn : stopPoint sh.events < n) :
    drive n sh = drive (stopPoint sh.events + 1) sh := by
  obtain ⟨more, rfl⟩ := Nat.exists_eq_add_of_le hn
  rw [drive_eq hroom hr more]
  exact (drive_eq hroom hr 0).symm

/-- A session in any state and the standard commands are given any events, once on an unlimited
sink and once on one that takes only so many bytes. The first run ends with the session shut down.
The second writes just the first of its bytes, goes well just if all of them fit, and makes just
the first of its moves: of the lines dispatched, and of the shutdown after them. When the session
is let go then, there has been one call to kill each process that was started, and no other. -/
theorem full_sink_cuts_the_run {config : Config} {t : Topology} {sim : Simulator} {clock : Clock}
    {s₀ : Session Simulator} (fresh : sim.Fresh) (hs : Session.start config t sim clock = .ok s₀)
    (before : List Move) {registry : Registry Simulator} (hr : registry.IsStandard)
    (events : List ShellEvent) (limit : Nat) :
    let sh : Shell Simulator := { registry, session := s₀.after before, events }
    let made := movesFor (heard events) ++ [.shutdown]
    ∃ whole result cut,
      drive sh.turnsAllowed sh = (.ok true, whole) ∧ whole.state = history made sh.state ∧
      drive (sh.limited limit).turnsAllowed (sh.limited limit) = (result, cut) ∧
      cut.sink.written = whole.sink.written.take limit ∧
      result = (if whole.sink.written.length ≤ limit then .ok true else .error .full) ∧
      (∃ done, done <+: made ∧ cut.state = history done sh.state) ∧
      cut.session.close.rig.substrate.killed =
        cut.session.close.rig.substrate.started.mapIdx
          fun n _ => Simulator.pidOf sim.nextPid n := by
  intro sh made
  have hroom : sh.sink.room = none := rfl
  obtain ⟨more, hmore⟩ := Nat.exists_eq_add_of_le (stopPoint_lt_turnsAllowed (sh.limited limit))
  obtain ⟨bytes, whole, hcuts⟩ := cuts_drive hroom hr more
  have hwhole : drive sh.turnsAllowed sh = (.ok true, whole) := by
    rw [drive_enough hroom hr (stopPoint_lt_turnsAllowed sh), ← hcuts.whole,
      drive_enough hroom hr (Nat.le_add_right _ more)]
  obtain rfl : whole.sink.written = bytes := hcuts.written
  have haccounted := (Session.Accounted.kept sim.nextPid).after
    (Session.Accounted.at_start fresh hs) before
  have hkilled := Session.killed_after_history (p := sh.state) hr haccounted
  rw [hmore]
  rcases Nat.lt_or_ge limit whole.sink.written.length with hlt | hge
  · obtain ⟨cut, hcut, hwritten, done, hdone, hstate⟩ := hcuts.full limit hlt
    refine ⟨whole, _, cut, hwhole, hcuts.moved, hcut, hwritten, ?_, ⟨done, hdone, hstate⟩, ?_⟩
    · rw [if_neg (Nat.not_le.mpr hlt)]
    · have hsession : cut.session = (history done sh.state).2 := congrArg (·.2) hstate
      have hlast := hkilled done
      rw [← hsession] at hlast
      exact hlast
  · refine ⟨whole, _, _, hwhole, hcuts.moved, hcuts.fits limit hge, ?_, ?_,
      ⟨made, List.prefix_refl made, hcuts.moved⟩, ?_⟩
    · rw [List.take_of_length_le hge]
      rfl
    · rw [if_pos hge]
    · have hsession : whole.session = (history made sh.state).2 := congrArg (·.2) hcuts.moved
      have hlast := hkilled made
      rw [← hsession] at hlast
      exact hlast

/-- Two processes run. With room for forty bytes the loop fails in the answer to its first line,
before it comes to the one that leaves; the session is still open then. -/
theorem full_sink_cuts_the_run_before_it_leaves :
    let two : Scenario := { name := "two", steps := [
      .spawn ⟨"A"⟩ { argv := ["server"], title := "" },
      .spawn ⟨"B"⟩ { argv := ["client", "A"], title := "" }] }
    let sh : Shell Simulator :=
      { registry := .standard, session := Session.onTwoHosts.after [.runScenario two]
        events := [.line "status", .line "exit"] }
    ∃ whole cut, drive sh.turnsAllowed sh = (.ok true, whole) ∧
      drive (sh.limited 40).turnsAllowed (sh.limited 40) = (.error .full, cut) ∧
      cut.sink.written = whole.sink.written.take 40 ∧ cut.session.shutDown = false ∧
      cut.session.close.rig.substrate.killed = [1000, 1001] := by
  intro two sh
  obtain ⟨whole, result, cut, hwhole, -, hcut, hwritten, hresult, -, hkilled⟩ :=
    full_sink_cuts_the_run (Simulator.fresh_default {}) Session.start_onTwoHosts
      [.runScenario two] Session.isStandard_standard [.line "status", .line "exit"] 40
  have hlong : 40 < (drive sh.turnsAllowed sh).2.sink.written.length := by decide +kernel
  have hopen : (drive (sh.limited 40).turnsAllowed (sh.limited 40)).2.session.shutDown = false := by
    decide +kernel
  have hstarted : (drive (sh.limited 40).turnsAllowed
      (sh.limited 40)).2.session.close.rig.substrate.started =
        [(⟨"A"⟩, ["server"]), (⟨"B"⟩, ["client", "A"])] := by decide +kernel
  have hcut : drive (sh.limited 40).turnsAllowed (sh.limited 40) = (result, cut) := hcut
  have hwhole : drive sh.turnsAllowed sh = (.ok true, whole) := hwhole
  rw [hwhole] at hlong
  rw [if_neg (Nat.not_le.mpr hlong)] at hresult
  rw [hcut] at hopen hstarted
  subst hresult
  refine ⟨whole, cut, hwhole, hcut, hwritten, hopen, ?_⟩
  rw [hkilled, hstarted]
  rfl

end Testbed.Shell
