-- The commands that the registry comes with. A dispatched line notes the
-- call of its handler and leaves every handler in its place, so a registry
-- that came with these commands keeps them, whatever is typed.
import Testbed.Command

namespace Testbed.Registry

variable {σ : Type}

/-! ## Handlers -/

/-- The handler of a word. -/
def handlerOf (r : Registry σ) (word : String) : Option (Handler σ) :=
  (r.commands.get? word).map (·.handler)

theorem handlerOf_register (r : Registry σ) (name help : String) (handler : Handler σ)
    (word : String) : (r.register name help handler).handlerOf word =
      if name = word then some handler else r.handlerOf word := by
  unfold handlerOf register
  rw [Table.get?_insert]
  split <;> rfl

/-- The word of a line, which names its command. -/
def wordOf (line : String) : String := (Text.cutWord (Text.trim line)).1

/-- The text after the word of a line, which the handler gets. -/
def argsOf (line : String) : String := (Text.cutWord (Text.trim line)).2

theorem dispatch_blank {line : String} (hw : (wordOf line).isEmpty = true) (r : Registry σ)
    (s : Session σ) : dispatch line (r, s) = (.ok (.goOn ""), r, s) := by
  unfold wordOf at hw
  simp only [dispatch, hw, if_true]

theorem dispatch_help {line : String} (hw : (wordOf line).isEmpty = false)
    (hh : isHelp (wordOf line) = true) (r : Registry σ) (s : Session σ) :
    dispatch line (r, s) = (.ok (.goOn r.helpText), r, s) := by
  unfold wordOf at hw hh
  simp only [dispatch, hw, hh, Bool.false_eq_true, if_false, if_true]

theorem dispatch_unknown {line : String} (hw : (wordOf line).isEmpty = false)
    (hh : isHelp (wordOf line) = false) {r : Registry σ}
    (hc : r.commands.get? (wordOf line) = none) (s : Session σ) :
    dispatch line (r, s) = (.error (.unknown (wordOf line)), r, s) := by
  unfold wordOf at *
  simp only [dispatch, hw, hh, hc, Bool.false_eq_true, if_false]

/-- A command that is found runs, and the call is noted. -/
theorem dispatch_command {line : String} (hw : (wordOf line).isEmpty = false)
    (hh : isHelp (wordOf line) = false) {r : Registry σ} {command : Command σ}
    (hc : r.commands.get? (wordOf line) = some command) (s : Session σ) :
    dispatch line (r, s) = ((command.handler command.calls (argsOf line) s).1,
      ⟨r.commands.insert (wordOf line) (command.called (argsOf line) s)⟩,
      (command.handler command.calls (argsOf line) s).2) := by
  unfold wordOf at *
  simp only [dispatch, hw, hh, hc, Bool.false_eq_true, if_false]
  rfl

theorem dispatch_handlerOf (line : String) (r : Registry σ) (s : Session σ) (word : String) :
    (dispatch line (r, s)).2.1.handlerOf word = r.handlerOf word := by
  cases hw : (wordOf line).isEmpty with
  | true => rw [dispatch_blank hw]
  | false =>
    cases hh : isHelp (wordOf line) with
    | true => rw [dispatch_help hw hh]
    | false =>
      rcases hc : r.commands.get? (wordOf line) with _ | command
      · rw [dispatch_unknown hw hh hc]
      · rw [dispatch_command hw hh hc]
        simp only [handlerOf, Table.get?_insert]
        split
        · next hword => rw [← hword, hc]; rfl
        · rfl

/-- The ways a line can go: its answer, and the session afterwards. -/
inductive Dispatches (line : String) (r : Registry σ) (s : Session σ) :
    Except CommandError CommandOutcome → Session σ → Prop
  | blank (hw : (wordOf line).isEmpty = true) : Dispatches line r s (.ok (.goOn "")) s
  | help (hw : (wordOf line).isEmpty = false) (hh : isHelp (wordOf line) = true) :
      Dispatches line r s (.ok (.goOn r.helpText)) s
  | unknown (hw : (wordOf line).isEmpty = false) (hh : isHelp (wordOf line) = false)
      (h : r.handlerOf (wordOf line) = none) :
      Dispatches line r s (.error (.unknown (wordOf line))) s
  | handled (hw : (wordOf line).isEmpty = false) (hh : isHelp (wordOf line) = false)
      (handler : Handler σ) (h : r.handlerOf (wordOf line) = some handler)
      (calls : List (CommandCall σ)) :
      Dispatches line r s (handler calls (argsOf line) s).1 (handler calls (argsOf line) s).2

theorem dispatches {line : String} {r r' : Registry σ} {s s' : Session σ}
    {result : Except CommandError CommandOutcome} (h : dispatch line (r, s) = (result, r', s')) :
    Dispatches line r s result s' := by
  cases hw : (wordOf line).isEmpty with
  | true =>
    rw [dispatch_blank hw] at h
    cases h
    exact .blank hw
  | false =>
    cases hh : isHelp (wordOf line) with
    | true =>
      rw [dispatch_help hw hh] at h
      cases h
      exact .help hw hh
    | false =>
      rcases hc : r.commands.get? (wordOf line) with _ | command
      · rw [dispatch_unknown hw hh hc] at h
        cases h
        exact .unknown hw hh (congrArg (Option.map _) hc)
      · rw [dispatch_command hw hh hc] at h
        cases h
        exact .handled hw hh command.handler (congrArg (Option.map _) hc) command.calls

/-- What a line does to the session: nothing, or what the handler of its word does. -/
theorem dispatch_session (line : String) (r : Registry σ) (s : Session σ) :
    (dispatch line (r, s)).2.2 = s ∨ ∃ handler calls, r.handlerOf (wordOf line) = some handler ∧
      (dispatch line (r, s)).2.2 = (handler calls (argsOf line) s).2 := by
  rcases hd : dispatch line (r, s) with ⟨result, r', s'⟩
  cases dispatches hd with
  | blank => exact Or.inl rfl
  | help => exact Or.inl rfl
  | unknown => exact Or.inl rfl
  | handled _ _ handler h calls => exact Or.inr ⟨handler, calls, h, rfl⟩

/-- A line whose word is a command and does not ask for help runs the handler. -/
theorem dispatch_runs {line : String} {r : Registry σ} {handler : Handler σ}
    (hw : (wordOf line).isEmpty = false) (hh : isHelp (wordOf line) = false)
    (h : r.handlerOf (wordOf line) = some handler) (s : Session σ) :
    ∃ calls, (dispatch line (r, s)).1 = (handler calls (argsOf line) s).1 ∧
      (dispatch line (r, s)).2.2 = (handler calls (argsOf line) s).2 := by
  obtain ⟨command, hc, rfl⟩ := Option.map_eq_some_iff.mp h
  rw [dispatch_command hw hh hc]
  exact ⟨command.calls, rfl, rfl⟩

/-! ## The standard commands -/

variable [Substrate σ]

/-- The registry has the handlers that it came with. -/
def IsStandard (r : Registry σ) : Prop := ∀ word, r.handlerOf word = standard.handlerOf word

theorem isStandard_dispatch {r : Registry σ} (h : r.IsStandard) (line : String) (s : Session σ) :
    (dispatch line (r, s)).2.1.IsStandard := by
  intro word
  rw [dispatch_handlerOf]
  exact h word

/-- The handlers by their words. -/
theorem handlerOf_standard (word : String) : (standard : Registry σ).handlerOf word =
    if word = "link" then some linkCommand
    else if word = "status" then some statusCommand
    else if word ∈ leaveWords then some leaveCommand
    else if word ∈ Catalogue.scenarioNames then some (runCommand word)
    else none := by
  have hnone : ({} : Registry σ).handlerOf word = none := rfl
  simp only [standard, leaveWords, Catalogue.scenarioNames, List.foldl_cons, List.foldl_nil,
    handlerOf_register, hnone, List.mem_cons, List.not_mem_nil, or_false]
  by_cases h1 : word = "link"
  · simp [h1]
  by_cases h2 : word = "status"
  · simp [h2]
  by_cases h3 : word = "quit"
  · simp [h3]
  by_cases h4 : word = "exit"
  · simp [h4]
  by_cases h5 : word = "EOF"
  · simp [h5]
  by_cases h6 : word = "init"
  · simp [h6]
  by_cases h7 : word = "init_h1"
  · simp [h7]
  by_cases h8 : word = "init_oblig"
  · simp [h8]
  simp [h1, h2, h3, h4, h5, h6, h7, h8, Ne.symm h1, Ne.symm h2, Ne.symm h3, Ne.symm h4, Ne.symm h5,
    Ne.symm h6, Ne.symm h7, Ne.symm h8]

/-- A handler of the standard commands is one of four kinds. -/
theorem handler_cases {r : Registry σ} (h : r.IsStandard) {word : String} {handler : Handler σ}
    (hw : r.handlerOf word = some handler) :
    handler = linkCommand ∨ handler = statusCommand ∨ handler = leaveCommand ∨
      ∃ name, handler = runCommand name := by
  rw [h word, handlerOf_standard] at hw
  split at hw
  · exact Or.inl (Option.some.inj hw).symm
  split at hw
  · exact Or.inr (Or.inl (Option.some.inj hw).symm)
  split at hw
  · exact Or.inr (Or.inr (Or.inl (Option.some.inj hw).symm))
  split at hw
  · exact Or.inr (Or.inr (Or.inr ⟨word, (Option.some.inj hw).symm⟩))
  · cases hw

/-! ## Leaving -/

/-- What a line that leaves says. -/
def farewell (s : Session σ) : String :=
  match s.shutdown.1 with
  | some report => report.summary
  | none => "already shut down"

theorem leaveCommand_eq (calls : List (CommandCall σ)) (args : String) (s : Session σ) :
    leaveCommand calls args s = (.ok (.stop (farewell s)), s.close) := by
  unfold leaveCommand farewell Session.close
  rcases s.shutdown with ⟨_ | report, s'⟩ <;> rfl

/-- A line that leaves shuts the session down, whatever else stands on it. -/
theorem dispatch_leaving {line : String} (hw : wordOf line ∈ leaveWords) {r : Registry σ}
    (hr : r.IsStandard) (s : Session σ) :
    (dispatch line (r, s)).1 = .ok (.stop (farewell s)) ∧
      (dispatch line (r, s)).2.2 = s.close := by
  have hwords : wordOf line = "EOF" ∨ wordOf line = "exit" ∨ wordOf line = "quit" := by
    simpa [leaveWords] using hw
  have hempty : (wordOf line).isEmpty = false := by
    rcases hwords with h | h | h <;> rw [h] <;> rfl
  have hhelp : isHelp (wordOf line) = false := by
    rcases hwords with h | h | h <;> rw [h] <;> rfl
  have hhandler : r.handlerOf (wordOf line) = some leaveCommand := by
    rw [hr, handlerOf_standard, if_pos hw]
    rcases hwords with h | h | h <;> rw [h] <;> rfl
  obtain ⟨calls, hanswer, hsession⟩ := dispatch_runs hempty hhelp hhandler s
  rw [hanswer, hsession, leaveCommand_eq]
  exact ⟨rfl, rfl⟩

end Testbed.Registry
