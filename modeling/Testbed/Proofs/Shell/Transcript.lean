-- What the prompt loop writes and does. Its transcript is written down here a
-- second time, event by event: the prompt, what the event adds, and the answer
-- to the line that it stands for. The loop hears the events up to the first
-- that ends it, writes just that transcript, and shuts the session down once.
import Testbed.Proofs.Shell.Answers

namespace Testbed

namespace Shell

variable {σ : Type}

/-! ## The transcript -/

/-- The line that an event stands for. An input that has been closed is no event. -/
def lineOf? : Option ShellEvent → Option String
  | some (.line text) => some text
  | some .interrupt => none
  | some .endOfInput => some "EOF"
  | none => some "EOF"

/-- Whatever is not typed breaks the line of the prompt. -/
def breakTexts : Option ShellEvent → List String
  | some (.line _) => []
  | some .interrupt => ["\n"]
  | some .endOfInput => ["\n"]
  | none => ["\n"]

/-- The commands and the session after some lines. -/
def dispatchAll (lines : List String) (p : Registry σ × Session σ) : Registry σ × Session σ :=
  lines.foldl (fun p line => (Registry.dispatch line p).2) p

theorem dispatchAll_some (line : String) (p : Registry σ × Session σ) :
    dispatchAll (some line).toList p = (Registry.dispatch line p).2 := rfl

theorem lines_cons (event : Option ShellEvent) (events : List (Option ShellEvent)) :
    (event :: events).filterMap lineOf? =
      (lineOf? event).toList ++ events.filterMap lineOf? := by
  rw [List.filterMap_cons]
  cases lineOf? event <;> rfl

theorem dispatchAll_filterMap (event : Option ShellEvent) (events : List (Option ShellEvent))
    (p : Registry σ × Session σ) :
    dispatchAll ((event :: events).filterMap lineOf?) p =
      dispatchAll (events.filterMap lineOf?) (dispatchAll (lineOf? event).toList p) := by
  rw [lines_cons, dispatchAll, List.foldl_append]
  rfl

theorem dispatchAll_single (event : Option ShellEvent) (p : Registry σ × Session σ) :
    dispatchAll ([event].filterMap lineOf?) p = dispatchAll (lineOf? event).toList p := by
  rw [dispatchAll_filterMap, List.filterMap_nil]
  rfl

/-- What is written for the line that an event stands for. -/
def replyTexts (event : Option ShellEvent) (p : Registry σ × Session σ) : List String :=
  match lineOf? event with
  | some line => answerTexts (Registry.dispatch line p).1
  | none => []

/-- What is written for an event, from the prompt on. -/
def entry (event : Option ShellEvent) (p : Registry σ × Session σ) : List String :=
  [prompt] ++ breakTexts event ++ replyTexts event p

/-- What is written for events in a row. -/
def transcript : List (Option ShellEvent) → Registry σ × Session σ → List String
  | [], _ => []
  | event :: events, p =>
    entry event p ++ transcript events (dispatchAll (lineOf? event).toList p)

/-! ## What the loop hears -/

/-- The loop ends with this event: an interrupt, the end of the input, or a line whose first word
is one of those for leaving. -/
def ends : ShellEvent → Bool
  | .line text => (Text.words text).headD "" ∈ Registry.leaveWords
  | .endOfInput => true
  | .interrupt => true

/-- The number of events before the first one that ends the loop; all of them if none does. -/
def stopPoint (events : List ShellEvent) : Nat := events.findIdx ends

/-- The events up to the first one that ends the loop. If none does the loop hears all of them,
and then that the input has been closed. -/
def heard (events : List ShellEvent) : List (Option ShellEvent) :=
  (events.map some ++ [none]).take (stopPoint events + 1)

@[simp]
theorem stopPoint_nil : stopPoint [] = 0 := rfl

theorem stopPoint_cons (event : ShellEvent) (events : List ShellEvent) :
    stopPoint (event :: events) = if ends event then 0 else stopPoint events + 1 := by
  unfold stopPoint
  rw [List.findIdx_cons]
  cases ends event <;> rfl

theorem heard_nil : heard [] = [none] := rfl

theorem heard_cons (event : ShellEvent) (events : List ShellEvent) :
    heard (event :: events) =
      if ends event then [some event] else some event :: heard events := by
  unfold heard
  rw [stopPoint_cons]
  split <;> rfl

/-! ## One turn on an unlimited sink -/

/-- The commands and the session of a shell. -/
def state (sh : Shell σ) : Registry σ × Session σ := (sh.registry, sh.session)

/-- The shell with some more texts written, and with other commands and another session. -/
def said (sh : Shell σ) (texts : List String) (p : Registry σ × Session σ) : Shell σ :=
  { sh with
    registry := p.1
    session := p.2
    sink := { sh.sink with written := sh.sink.written ++ Text.Utf8.encode (String.join texts) } }

@[simp]
theorem said_said (sh : Shell σ) (texts more : List String) (p q : Registry σ × Session σ) :
    (sh.said texts p).said more q = sh.said (texts ++ more) q := by
  simp [said, String.join_append, Text.Utf8.encode_append]

@[simp]
theorem state_said (sh : Shell σ) (texts : List String) (p : Registry σ × Session σ) :
    (sh.said texts p).state = p := rfl

theorem write_eq (text : String) {sh : Shell σ} (h : sh.sink.room = none) :
    write text sh = (.ok (), sh.said [text] sh.state) := by
  unfold write said
  rw [Sink.write_unlimited _ _ h]
  simp [String.join, state]

/-- Whether the loop goes on after the answer to a line. -/
def courseOf : Except CommandError CommandOutcome → Course
  | .ok (.stop _) => .leave
  | .ok (.goOn _) => .again
  | .error _ => .again

theorem answer_eq (line : String) {sh : Shell σ} (h : sh.sink.room = none) :
    answer line sh = (.ok (courseOf (Registry.dispatch line sh.state).1),
      sh.said (answerTexts (Registry.dispatch line sh.state).1)
        (Registry.dispatch line sh.state).2) := by
  unfold answer
  rw [Action.bind_apply]
  simp only [Action.within, Action.attempt, state]
  rcases Registry.dispatch line (sh.registry, sh.session) with ⟨result, r, s⟩
  let sh' : Shell σ := { sh with registry := r, session := s }
  have hwrite : ∀ text, writeLine text sh' = (.ok (), sh'.said [text ++ "\n"] (r, s)) :=
    fun text => write_eq (text ++ "\n") h
  cases result with
  | error e => exact Action.bind_ok _ (hwrite ("error: " ++ e.message))
  | ok outcome =>
    cases outcome with
    | stop message => exact Action.bind_ok _ (hwrite message)
    | goOn message =>
      simp only [answerTexts]
      split
      · simp [said, String.join, courseOf, Text.Utf8.encode_empty]
      · exact Action.bind_ok _ (hwrite message)

/-- Whether the loop goes on after an event. -/
def courseAfter (event : Option ShellEvent) (p : Registry σ × Session σ) : Course :=
  match lineOf? event with
  | some line => courseOf (Registry.dispatch line p).1
  | none => .leave

theorem react_eq (event : Option ShellEvent) {sh : Shell σ} (h : sh.sink.room = none) :
    react event sh = (.ok (courseAfter event sh.state),
      sh.said (breakTexts event ++ replyTexts event sh.state)
        (dispatchAll (lineOf? event).toList sh.state)) := by
  have hbreak : writeLine "" sh = (.ok (), sh.said ["\n"] sh.state) := write_eq _ h
  have hroom : (sh.said ["\n"] sh.state).sink.room = none := h
  have hanswer := answer_eq "EOF" hroom
  rw [said_said, state_said] at hanswer
  match event with
  | some (.line text) =>
    rw [react, answer_eq text h]
    simp only [courseAfter, lineOf?, breakTexts, replyTexts, dispatchAll_some, List.nil_append]
  | some .interrupt => exact Action.bind_ok _ hbreak
  | some .endOfInput =>
    rw [react, Action.bind_ok _ hbreak, hanswer]
    simp only [courseAfter, lineOf?, breakTexts, replyTexts, dispatchAll_some]
  | none =>
    rw [react, Action.bind_ok _ hbreak, hanswer]
    simp only [courseAfter, lineOf?, breakTexts, replyTexts, dispatchAll_some]

/-- The shell after a turn. -/
def turned (sh : Shell σ) : Shell σ :=
  { sh with events := sh.events.tail }.said (entry sh.events.head? sh.state)
    (dispatchAll (lineOf? sh.events.head?).toList sh.state)

theorem turn_eq {sh : Shell σ} (h : sh.sink.room = none) :
    turn sh = (.ok (courseAfter sh.events.head? sh.state), sh.turned) := by
  let sh' : Shell σ := { sh with events := sh.events.tail }
  have hnext : nextEvent (sh.said [prompt] sh.state) =
      (.ok sh.events.head?, sh'.said [prompt] sh.state) := rfl
  have hroom : (sh'.said [prompt] sh.state).sink.room = none := h
  have hreact := react_eq sh.events.head? hroom
  rw [said_said, state_said, ← List.append_assoc] at hreact
  unfold turn
  rw [Action.bind_ok _ (write_eq prompt h), Action.bind_ok _ hnext, hreact]
  rfl

/-- The shell after its whole loop: the events that it hears are gone, their transcript is
written and their lines are dispatched. -/
def finished (sh : Shell σ) : Shell σ :=
  { sh with events := sh.events.drop (stopPoint sh.events + 1) }.said
    (transcript (heard sh.events) sh.state)
    (dispatchAll ((heard sh.events).filterMap lineOf?) sh.state)

theorem finished_of_ends {sh : Shell σ} (h : sh.events.head?.all ends = true) :
    sh.finished = sh.turned := by
  rcases he : sh.events with _ | ⟨event, events⟩
  · simp only [finished, turned, he, heard_nil, stopPoint_nil, transcript, dispatchAll_single,
      List.head?_nil, List.tail_nil, List.append_nil]
    rfl
  · rw [he, List.head?_cons, Option.all_some] at h
    simp only [finished, turned, he, heard_cons, stopPoint_cons, h, if_true, transcript,
      dispatchAll_single, List.head?_cons, List.tail_cons, List.append_nil]
    rfl

theorem finished_of_goesOn {sh : Shell σ} (h : sh.events.head?.all ends = false) :
    sh.finished = sh.turned.finished := by
  rcases he : sh.events with _ | ⟨event, events⟩
  · rw [he] at h
    cases h
  · rw [he, List.head?_cons, Option.all_some] at h
    have hturned : sh.turned = { sh with events := events }.said (entry (some event) sh.state)
        (dispatchAll (lineOf? (some event)).toList sh.state) := by
      simp only [turned, he, List.head?_cons, List.tail_cons]
    have hsaid : ∀ (es : List ShellEvent) (texts : List String) (p : Registry σ × Session σ),
        { { sh with events := events }.said texts p with events := es } =
          { sh with events := es }.said texts p := fun _ _ _ => rfl
    have hevents : sh.turned.events = events := by rw [hturned]; rfl
    rw [finished, finished, hevents, he, hturned, hsaid, said_said, state_said, heard_cons,
      stopPoint_cons, h]
    simp only [Bool.false_eq_true, if_false, transcript, dispatchAll_filterMap,
      List.drop_succ_cons]

variable [Substrate σ]

/-! ## The whole loop -/

theorem leaves_iff (text : String) :
    ends (.line text) = true ↔ Registry.wordOf text ∈ Registry.leaveWords := by
  rw [ends, decide_eq_true_eq, Registry.wordOf, Text.cutWord_trim]

theorem wordOf_eof : Registry.wordOf "EOF" ∈ Registry.leaveWords := by
  rw [← leaves_iff]
  decide

theorem courseOf_leaving {line : String} (hw : Registry.wordOf line ∈ Registry.leaveWords)
    {p : Registry σ × Session σ} (hp : p.1.IsStandard) :
    courseOf (Registry.dispatch line p).1 = .leave := by
  rw [(Registry.dispatch_leaving hw hp p.2).1]
  rfl

theorem courseOf_staying {line : String} (hw : Registry.wordOf line ∉ Registry.leaveWords)
    {p : Registry σ × Session σ} (hp : p.1.IsStandard) :
    courseOf (Registry.dispatch line p).1 = .again := by
  obtain ⟨r, s⟩ := p
  rcases hd : Registry.dispatch line (r, s) with ⟨result, r', s'⟩
  have hstays := stays_dispatch hw hp hd
  match result with
  | .error _ => rfl
  | .ok (.goOn _) => rfl
  | .ok (.stop message) => exact absurd rfl (hstays.goesOn message)

/-- With the standard commands just the events that end the loop leave it. -/
theorem courseAfter_eq (event : Option ShellEvent) {p : Registry σ × Session σ}
    (hp : p.1.IsStandard) :
    courseAfter event p = if event.all ends then .leave else .again := by
  match event with
  | some .interrupt => rfl
  | some .endOfInput =>
    rw [courseAfter, lineOf?]
    exact courseOf_leaving wordOf_eof hp
  | none =>
    rw [courseAfter, lineOf?]
    exact courseOf_leaving wordOf_eof hp
  | some (.line text) =>
    rw [courseAfter, lineOf?, Option.all_some]
    by_cases hw : Registry.wordOf text ∈ Registry.leaveWords
    · rw [if_pos ((leaves_iff text).mpr hw)]
      exact courseOf_leaving hw hp
    · rw [if_neg (mt (leaves_iff text).mp hw)]
      exact courseOf_staying hw hp

theorem isStandard_dispatchAll (lines : List String) {p : Registry σ × Session σ}
    (hp : p.1.IsStandard) : (dispatchAll lines p).1.IsStandard := by
  unfold dispatchAll
  induction lines generalizing p with
  | nil => exact hp
  | cons line lines ih =>
    obtain ⟨r, s⟩ := p
    have hr : r.IsStandard := hp
    have hline := Registry.isStandard_dispatch hr line s
    simp only [List.foldl_cons]
    exact ih hline

theorem turn_course {sh : Shell σ} (hroom : sh.sink.room = none) (hr : sh.registry.IsStandard) :
    turn sh = (.ok (if sh.events.head?.all ends then .leave else .again), sh.turned) := by
  rw [turn_eq hroom]
  have hcourse := courseAfter_eq sh.events.head? (p := sh.state) hr
  rw [hcourse]

/-- The loop is left after the last event that it hears. -/
theorem turns_eq {sh : Shell σ} (hroom : sh.sink.room = none) (hr : sh.registry.IsStandard)
    (more : Nat) : turns (stopPoint sh.events + 1 + more) sh = (.ok true, sh.finished) := by
  induction he : sh.events generalizing sh with
  | nil =>
    have hends : sh.events.head?.all ends = true := by rw [he]; rfl
    rw [stopPoint_nil, Nat.add_right_comm, turns, Action.bind_ok _ (turn_course hroom hr), hends,
      finished_of_ends hends]
    rfl
  | cons event events ih =>
    rw [stopPoint_cons]
    by_cases h : ends event = true
    · have hends : sh.events.head?.all ends = true := by rw [he]; exact h
      rw [if_pos h, Nat.add_right_comm, turns, Action.bind_ok _ (turn_course hroom hr), hends,
        finished_of_ends hends]
      rfl
    · have hgoesOn : sh.events.head?.all ends = false := by rw [he]; exact Bool.eq_false_iff.mpr h
      rw [if_neg h, Nat.add_right_comm, turns, Action.bind_ok _ (turn_course hroom hr), hgoesOn,
        finished_of_goesOn hgoesOn]
      have hevents : sh.turned.events = events := congrArg List.tail he
      have hstandard : sh.turned.registry.IsStandard := isStandard_dispatchAll _ (p := sh.state) hr
      have hrest : turns (stopPoint events + 1 + more) sh.turned = (.ok true, sh.turned.finished) :=
        ih hroom hstandard hevents
      exact hrest

/-! ## What follows the loop -/

/-- What is written when the loop has been left. -/
def lastTexts (s : Session σ) : List String :=
  (s.shutdown.1.map fun report => report.summary ++ "\n").toList

theorem lastTexts_of_shutDown {s : Session σ} (h : s.shutDown = true) : lastTexts s = [] := by
  unfold lastTexts Session.shutdown
  rw [if_pos h]
  rfl

theorem finish_eq {sh : Shell σ} (h : sh.sink.room = none) :
    finish sh = (.ok (), sh.said (lastTexts sh.session) (sh.registry, sh.session.close)) := by
  unfold finish lastTexts Session.close
  simp only [bind, Action.bind]
  rcases sh.session.shutdown with ⟨_ | report, s⟩
  · simp [said, String.join, Text.Utf8.encode_empty]
  · let sh' : Shell σ := { sh with session := s }
    have hwrite : writeLine report.summary sh' =
      (.ok (), sh'.said [report.summary ++ "\n"] (sh.registry, s)) := write_eq _ h
    exact hwrite

/-- All that is written for events, and when the loop has been left. -/
def output (events : List ShellEvent) (p : Registry σ × Session σ) : List String :=
  transcript (heard events) p ++ lastTexts (dispatchAll ((heard events).filterMap lineOf?) p).2

/-- The loop is always left, and then the session is shut down. -/
theorem drive_eq {sh : Shell σ} (hroom : sh.sink.room = none) (hr : sh.registry.IsStandard)
    (more : Nat) : drive (stopPoint sh.events + 1 + more) sh =
      (.ok true, { sh with events := sh.events.drop (stopPoint sh.events + 1) }.said
        (output sh.events sh.state)
        ((dispatchAll ((heard sh.events).filterMap lineOf?) sh.state).1,
          (dispatchAll ((heard sh.events).filterMap lineOf?) sh.state).2.close)) := by
  have hfinished : sh.finished.sink.room = none := hroom
  unfold drive
  rw [Action.bind_ok _ (turns_eq hroom hr more)]
  refine (Action.bind_ok _ (finish_eq hfinished)).trans ?_
  rw [finished, said_said]
  rfl

/-! ## The report is written once -/

theorem reportedUnless_lastTexts (s : Session σ) :
    KillReport.ReportedUnless s.shutDown (lastTexts s) := by
  unfold lastTexts Session.shutdown
  by_cases hs : s.shutDown = true
  · rw [hs]
    exact List.forall_mem_nil _
  · have ho : s.shutDown = false := Bool.eq_false_iff.mpr hs
    rw [ho]
    exact ⟨[], _, [], rfl, by simp⟩

/-- A line that leaves reports what the shutdown did, and nothing is left to report. -/
theorem reportedUnless_farewell (s : Session σ) : KillReport.ReportedUnless s.shutDown
    (answerTexts (.ok (.stop (Registry.farewell s))) ++ lastTexts s.close) := by
  rw [lastTexts_of_shutDown s.shutDown_close, List.append_nil, answerTexts, Registry.farewell]
  by_cases hs : s.shutDown = true
  · unfold Session.shutdown
    rw [hs]
    intro text htext
    rw [List.mem_singleton.mp htext]
    have hbegins : Text.Begins 'a' "already shut down" := rfl
    exact KillReport.not_isLine (hbegins.append "\n") (by decide)
  · have ho : s.shutDown = false := Bool.eq_false_iff.mpr hs
    unfold Session.shutdown
    rw [ho]
    exact ⟨[], _, [], rfl, by simp⟩

/-- What is written before the answer to an event reports nothing. -/
theorem quiet_prompt (event : Option ShellEvent) :
    ∀ text ∈ [prompt] ++ breakTexts event, ¬ KillReport.IsLine text := by
  have hprompt : ¬ KillReport.IsLine prompt := KillReport.not_isLine (c := 'm') rfl (by decide)
  have hbreak : ¬ KillReport.IsLine "\n" := KillReport.not_isLine (c := '\n') rfl (by decide)
  match event with
  | some (.line _) => simpa [breakTexts] using hprompt
  | some .interrupt => simpa [breakTexts] using ⟨hprompt, hbreak⟩
  | some .endOfInput => simpa [breakTexts] using ⟨hprompt, hbreak⟩
  | none => simpa [breakTexts] using ⟨hprompt, hbreak⟩

/-- From the event that ends the loop on the report is written, unless that had been done. -/
theorem reportedUnless_of_ends {event : Option ShellEvent} (h : event.all ends = true)
    {p : Registry σ × Session σ} (hp : p.1.IsStandard) : KillReport.ReportedUnless p.2.shutDown
      (entry event p ++ lastTexts (dispatchAll (lineOf? event).toList p).2) := by
  obtain ⟨r, s⟩ := p
  have hr : r.IsStandard := hp
  have hleave : ∀ line, Registry.wordOf line ∈ Registry.leaveWords →
      KillReport.ReportedUnless s.shutDown (answerTexts (Registry.dispatch line (r, s)).1 ++
        lastTexts (Registry.dispatch line (r, s)).2.2) := by
    intro line hw
    obtain ⟨hanswer, hsession⟩ := Registry.dispatch_leaving hw hr s
    rw [hanswer, hsession]
    exact reportedUnless_farewell s
  rw [entry, List.append_assoc]
  refine KillReport.ReportedUnless.prepend (quiet_prompt event) ?_
  match event with
  | some .interrupt => exact reportedUnless_lastTexts s
  | some .endOfInput =>
    rw [replyTexts, lineOf?, dispatchAll_some]
    exact hleave "EOF" wordOf_eof
  | none =>
    rw [replyTexts, lineOf?, dispatchAll_some]
    exact hleave "EOF" wordOf_eof
  | some (.line text) =>
    rw [replyTexts, lineOf?, dispatchAll_some]
    exact hleave text ((leaves_iff text).mp h)

theorem output_of_ends {event : ShellEvent} (h : ends event = true) (events : List ShellEvent)
    (p : Registry σ × Session σ) : output (event :: events) p =
      entry (some event) p ++ lastTexts (dispatchAll (lineOf? (some event)).toList p).2 := by
  rw [output, heard_cons, if_pos h, dispatchAll_single, transcript, transcript, List.append_nil]

theorem output_of_goesOn {event : ShellEvent} (h : ends event = false) (events : List ShellEvent)
    (p : Registry σ × Session σ) : output (event :: events) p =
      entry (some event) p ++ output events (dispatchAll (lineOf? (some event)).toList p) := by
  rw [output, heard_cons, h, if_neg Bool.false_ne_true, dispatchAll_filterMap, transcript,
    List.append_assoc]
  rfl

theorem stays_of_goesOn {event : ShellEvent} (h : ends event = false)
    {p : Registry σ × Session σ} (hp : p.1.IsStandard) :
    (∀ text ∈ entry (some event) p, ¬ KillReport.IsLine text) ∧
      (dispatchAll (lineOf? (some event)).toList p).2.shutDown = p.2.shutDown := by
  match event with
  | .line text =>
    obtain ⟨r, s⟩ := p
    have hr : r.IsStandard := hp
    have hw : Registry.wordOf text ∉ Registry.leaveWords := by
      rw [← leaves_iff, h]
      exact Bool.false_ne_true
    rcases hd : Registry.dispatch text (r, s) with ⟨result, r', s'⟩
    have hstays := stays_dispatch hw hr hd
    simp only [entry, replyTexts, lineOf?, dispatchAll_some, hd]
    refine ⟨?_, hstays.shutDown⟩
    intro written hwritten
    rcases List.mem_append.mp hwritten with hbefore | hanswer
    · exact quiet_prompt (some (.line text)) written hbefore
    · exact hstays.quiet written hanswer

theorem reportedUnless_output (events : List ShellEvent) {p : Registry σ × Session σ}
    (hp : p.1.IsStandard) : KillReport.ReportedUnless p.2.shutDown (output events p) := by
  induction events generalizing p with
  | nil =>
    rw [output, heard_nil, dispatchAll_single, transcript, transcript, List.append_nil]
    exact reportedUnless_of_ends rfl hp
  | cons event events ih =>
    by_cases h : ends event = true
    · have hends : (some event).all ends = true := h
      rw [output_of_ends h]
      exact reportedUnless_of_ends hends hp
    · have h : ends event = false := Bool.eq_false_iff.mpr h
      obtain ⟨hquiet, hshut⟩ := stays_of_goesOn h hp
      rw [output_of_goesOn h]
      refine KillReport.ReportedUnless.prepend hquiet ?_
      have hstandard := isStandard_dispatchAll (lineOf? (some event)).toList hp
      have hrest := ih hstandard
      rw [hshut] at hrest
      exact hrest

/-- Whatever arrives at the prompt, the loop is left. By then it has dispatched the lines that the
events up to the first ending one stand for, each once and in order, and nothing after it has been
taken. The session is shut down, and the transcript of these events is what has been written; the
report on the killed processes is in it once, or not at all if the session had been shut down. -/
theorem drive_writes_transcript (session : Session σ) (events : List ShellEvent)
    (written : List UInt8) (more : Nat) :
    let sh : Shell σ := { registry := .standard, session, events, sink := { written } }
    let p := dispatchAll ((heard events).filterMap lineOf?) (Registry.standard, session)
    let texts := output events (Registry.standard, session)
    stopPoint events < sh.turnsAllowed ∧
    drive (stopPoint events + 1 + more) sh = (.ok true, {
      registry := p.1
      session := p.2.close
      events := events.drop (stopPoint events + 1)
      sink := { written := written ++ Text.Utf8.encode (String.join texts) } }) ∧
    p.2.close.shutDown = true ∧ KillReport.ReportedUnless session.shutDown texts := by
  intro sh p texts
  have hr : (Registry.standard : Registry σ).IsStandard := fun _ => rfl
  have hsh : sh.registry.IsStandard := hr
  have hroom : sh.sink.room = none := rfl
  have hstop : stopPoint events ≤ events.length := List.findIdx_le_length
  have hreport := reportedUnless_output events (p := (Registry.standard, session)) hr
  refine ⟨?_, drive_eq hroom hsh more, p.2.shutDown_close, hreport⟩
  simp only [turnsAllowed, sh]
  omega

end Shell

end Testbed
