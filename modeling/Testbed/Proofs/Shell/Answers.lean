-- What a line of the prompt answers. A line whose first word is not one of those
-- for leaving keeps the session open or shut down as it was, and what is written
-- for its answer is never the line that reports killed processes.
import Testbed.Proofs.Command.Standard
import Testbed.Proofs.Text.Words
import Testbed.Shell

namespace Testbed

/-! ## Reports of killed processes -/

namespace KillReport

/-- The text is the line that reports killed processes. -/
def IsLine (text : String) : Prop := ∃ report : KillReport, text = report.summary ++ "\n"

theorem begins_summary (report : KillReport) : Text.Begins 'k' report.summary := by
  unfold summary
  repeat apply Text.Begins.append
  rfl

/-- A text that begins with another letter is no such line. -/
theorem not_isLine {c : Char} {text : String} (h : Text.Begins c text) (hc : c ≠ 'k') :
    ¬ IsLine text := by
  rintro ⟨report, rfl⟩
  have hk := report.begins_summary.append "\n"
  exact hc (h.unique hk)

/-- One of the texts is the line that reports killed processes; none is if the session had been
shut down. -/
def ReportedUnless : Bool → List String → Prop
  | true, texts => ∀ text ∈ texts, ¬ IsLine text
  | false, texts => ∃ before report after,
      texts = before ++ [summary report ++ "\n"] ++ after ∧
        ∀ text ∈ before ++ after, ¬ IsLine text

theorem ReportedUnless.prepend {shutDown : Bool} {quiet texts : List String}
    (hquiet : ∀ text ∈ quiet, ¬ IsLine text) (h : ReportedUnless shutDown texts) :
    ReportedUnless shutDown (quiet ++ texts) := by
  match shutDown with
  | true =>
    intro text htext
    exact (List.mem_append.mp htext).elim (hquiet text) (h text)
  | false =>
    obtain ⟨before, report, after, rfl, hothers⟩ := h
    refine ⟨quiet ++ before, report, after, by simp, ?_⟩
    intro text htext
    rw [List.append_assoc] at htext
    exact (List.mem_append.mp htext).elim (hquiet text) (hothers text)

end KillReport

namespace Shell

variable {σ : Type}

/-- What is written for the answer to a line. -/
def answerTexts : Except CommandError CommandOutcome → List String
  | .ok (.goOn message) => if message.isEmpty then [] else [message ++ "\n"]
  | .ok (.stop message) => [message ++ "\n"]
  | .error e => ["error: " ++ e.message ++ "\n"]

/-! ## Lines that stay -/

/-- The answer goes on and reports no killed processes, and the session is open or shut down as
it was. -/
structure Stays (s : Session σ) (result : Except CommandError CommandOutcome)
    (s' : Session σ) : Prop where
  goesOn : ∀ message, result ≠ .ok (.stop message)
  quiet : ∀ text ∈ answerTexts result, ¬ KillReport.IsLine text
  shutDown : s'.shutDown = s.shutDown

theorem Stays.error {s s' : Session σ} (e : CommandError) (h : s'.shutDown = s.shutDown) :
    Stays s (.error e) s' := by
  refine ⟨by simp, ?_, h⟩
  intro text htext
  rw [List.mem_singleton.mp htext]
  have hbegins : Text.Begins 'e' "error: " := rfl
  exact KillReport.not_isLine ((hbegins.append e.message).append "\n") (by decide)

theorem Stays.goOn {s s' : Session σ} {c : Char} {message : String}
    (hm : Text.Begins c message) (hc : c ≠ 'k') (h : s'.shutDown = s.shutDown) :
    Stays s (.ok (.goOn message)) s' := by
  refine ⟨by simp, ?_, h⟩
  intro text htext
  rw [answerTexts] at htext
  split at htext
  · cases htext
  · rw [List.mem_singleton.mp htext]
    exact KillReport.not_isLine (hm.append "\n") hc

theorem shutDown_whenOpen {α : Type} (act : Action (Rig σ) TestbedError α) (s : Session σ) :
    (Session.whenOpen act s).2.shutDown = s.shutDown := by
  unfold Session.whenOpen
  split <;> rfl

theorem begins_transitionText (a b : String) (t : Transition) :
    Text.Begins 'l' (Registry.transitionText a b t) := by
  cases t <;> unfold Registry.transitionText <;> repeat apply Text.Begins.append
  · rfl
  · rfl

variable [Substrate σ]

theorem stays_linkCommand (calls : List (CommandCall σ)) (args : String) (s : Session σ) :
    Stays s (Registry.linkCommand calls args s).1 (Registry.linkCommand calls args s).2 := by
  unfold Registry.linkCommand
  split
  · next a b word _ =>
    split
    · exact .error _ rfl
    · next state _ =>
      have hshut : (Session.switchLink ⟨a⟩ ⟨b⟩ state s).2.shutDown = s.shutDown :=
        shutDown_whenOpen _ s
      split
      · next he =>
        rw [he] at hshut
        exact .error _ hshut
      · next t _ he =>
        rw [he] at hshut
        exact .goOn (begins_transitionText a b t) (by decide) hshut
  · exact .error _ rfl

theorem stays_statusCommand (calls : List (CommandCall σ)) (args : String) (s : Session σ) :
    Stays s (Registry.statusCommand calls args s).1 (Registry.statusCommand calls args s).2 := by
  have hbegins : Text.Begins 'p' s!"processes ({s.processStatus.1.length}):" := by
    repeat apply Text.Begins.append
    rfl
  exact .goOn (hbegins.join "\n" _) (by decide) rfl

theorem name_scenario? {name : String} {c : Config} {scenario : Scenario}
    (h : Catalogue.scenario? name c = some scenario) :
    scenario.name = name ∧ name ∈ Catalogue.scenarioNames := by
  unfold Catalogue.scenario? at h
  split at h
  · next hname =>
    cases h
    exact ⟨hname.symm, hname ▸ by decide⟩
  split at h
  · next hname =>
    cases h
    exact ⟨hname.symm, hname ▸ by decide⟩
  split at h
  · next hname =>
    cases h
    exact ⟨hname.symm, hname ▸ by decide⟩
  · cases h

theorem name_run {scenario : Scenario} {r r' : Rig σ} {report : RunReport}
    (h : Rig.run scenario r = (.ok report, r')) : report.scenario = scenario.name := by
  unfold Rig.run at h
  simp only [Action.bind_eq_ok] at h
  obtain ⟨_, _, _, _, _, _, _, _, _, _, _, _, _, _, _, hlast⟩ := h
  cases hlast
  rfl

theorem shutDown_runCatalogue (name : String) (s : Session σ) :
    (s.runCatalogue name).2.shutDown = s.shutDown := by
  unfold Session.runCatalogue
  split
  · rfl
  · next scenario _ => exact shutDown_whenOpen (Rig.run scenario) s

theorem name_runScenario {scenario : Scenario} {s s' : Session σ} {report : RunReport}
    (h : Session.runScenario scenario s = (.ok report, s')) :
    report.scenario = scenario.name := by
  unfold Session.runScenario Session.whenOpen at h
  split at h
  · cases h
  · rcases hr : Rig.run scenario s.rig with ⟨e | report', rig⟩
    · simp [Action.within, hr] at h
    · simp only [Action.within, hr, Prod.mk.injEq, Except.ok.injEq] at h
      rw [← h.1, name_run hr]

/-- What a command reports to have run is the scenario that it is called by. -/
theorem name_runCatalogue {name : String} {s s' : Session σ} {report : RunReport}
    (h : s.runCatalogue name = (some (.ok report), s')) :
    report.scenario = name ∧ name ∈ Catalogue.scenarioNames := by
  unfold Session.runCatalogue at h
  rcases hs : Catalogue.scenario? name s.config with _ | scenario
  · simp [hs] at h
  · obtain ⟨hname, hknown⟩ := name_scenario? hs
    simp only [hs, Prod.mk.injEq, Option.some.injEq] at h
    have hrun : Session.runScenario scenario s = (.ok report, s') := Prod.ext h.1 h.2
    exact ⟨(name_runScenario hrun).trans hname, hknown⟩

theorem begins_scenarioName {name : String} (h : name ∈ Catalogue.scenarioNames) :
    Text.Begins 'i' name := by
  have hall : ∀ x ∈ Catalogue.scenarioNames, x.toList.head? = some 'i' := by decide
  exact hall name h

theorem stays_runCommand (name : String) (calls : List (CommandCall σ)) (args : String)
    (s : Session σ) : Stays s (Registry.runCommand name calls args s).1
      (Registry.runCommand name calls args s).2 := by
  have hshut := shutDown_runCatalogue name s
  unfold Registry.runCommand
  split
  · next he =>
    rw [he] at hshut
    exact .error _ hshut
  · next he =>
    rw [he] at hshut
    exact .error _ hshut
  · next report _ he =>
    rw [he] at hshut
    obtain ⟨hname, hknown⟩ := name_runCatalogue he
    have hbegins : Text.Begins 'i' report.scenario := hname ▸ begins_scenarioName hknown
    have hmessage : Text.Begins 'i' (s!"{report.scenario}: {report.stepsExecuted} steps, " ++
        s!"{report.spawned.length} processes started") := by
      repeat apply Text.Begins.append
      exact hbegins
    exact .goOn hmessage (by decide) hshut

omit [Substrate σ] in
theorem stays_help (r : Registry σ) (s : Session σ) : Stays s (.ok (.goOn r.helpText)) s := by
  have hbegins : Text.Begins 'c' "commands:" := rfl
  exact .goOn (hbegins.join "\n" _) (by decide) rfl

/-- A line stays unless its first word is one of those for leaving. -/
theorem stays_dispatch {line : String} (hw : Registry.wordOf line ∉ Registry.leaveWords)
    {r r' : Registry σ} {s s' : Session σ} {result : Except CommandError CommandOutcome}
    (hr : r.IsStandard) (hd : Registry.dispatch line (r, s) = (result, r', s')) :
    Stays s result s' := by
  cases Registry.dispatches hd with
  | blank => exact ⟨by simp, by simp [answerTexts], rfl⟩
  | help => exact stays_help r s
  | unknown => exact .error _ rfl
  | handled _ _ handler h calls =>
    have h := (hr (Registry.wordOf line)).symm.trans h
    rw [Registry.handlerOf_standard] at h
    generalize Registry.argsOf line = args
    generalize Registry.wordOf line = word at hw h
    rw [if_neg hw] at h
    split at h
    · cases h
      exact stays_linkCommand calls args s
    split at h
    · cases h
      exact stays_statusCommand calls args s
    split at h
    · cases h
      exact stays_runCommand word calls args s
    · cases h

end Shell

end Testbed
