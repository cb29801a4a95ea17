-- Scenarios in a row. To run the steps of two scenarios as one is to run the
-- first and then, if that went well, the second. No step makes a host come or
-- go, so what the second names can be checked before the first as well as
-- after it.
import Testbed.Proofs.Scenario.Fold
import Testbed.Proofs.Session.History

namespace Testbed

/-- The reports of a run and of the one after it, put together under a name. -/
def RunReport.joined (first : RunReport) (name : String) (later : RunReport) : RunReport where
  scenario := name
  stepsExecuted := first.stepsExecuted + later.stepsExecuted
  spawned := first.spawned ++ later.spawned
  startedAt := first.startedAt
  finishedAt := later.finishedAt

/-! ## The hosts stay -/

/-- Two scenarios are accepted together just when both are; the first to be refused says why. -/
theorem Topology.validate_append (t : Topology) (first second : Scenario)
    (name description : String) :
    t.validate { name, description, steps := first.steps ++ second.steps } =
      (do t.validate first; t.validate second) := by
  unfold Topology.validate Scenario.hosts
  rw [List.flatMap_append, List.find?_append]
  cases (first.steps.flatMap Step.hosts).find? (!t.hasHost ·) <;> rfl

theorem Topology.validate_congr {t t' : Topology} (h : ∀ host, t'.hasHost host = t.hasHost host)
    (scenario : Scenario) : t'.validate scenario = t.validate scenario := by
  unfold Topology.validate
  simp only [h]

variable {σ : Type} [Substrate σ]

namespace Rig

/-- A step leaves the topology alone or records the state of one of its links. -/
theorem topology_perform (step : Step) (r : Rig σ) :
    (perform step r).2.topology = r.topology ∨
      ∃ a b state, (perform step r).2.topology = r.topology.recordState a b state := by
  cases step with
  | spawn host request =>
    rw [perform, Action.bind_pure_state]
    exact Or.inl rfl
  | wait d => exact Or.inl rfl
  | setLink a b state =>
    have hswitch : (perform (.setLink a b state) r).2.topology =
        (Topology.switchLink a b state (r.topology, r.substrate)).2.1 := by
      rw [perform, Action.bind_pure_state]
      rfl
    rw [hswitch]
    rcases Topology.switchLink_cases r.topology r.substrate a b state with
      ⟨_, h⟩ | ⟨_, _, _, ⟨_, h⟩ | ⟨_, _, _, _, h⟩ | ⟨_, _, _, h⟩⟩
    · exact Or.inl (by rw [h])
    · exact Or.inl (by rw [h])
    · exact Or.inl (by rw [h])
    · exact Or.inr ⟨a, b, state, by rw [h]⟩

theorem hasHost_performAll (steps : List Step) (r : Rig σ) (host : HostId) :
    (performAll steps r).2.topology.hasHost host = r.topology.hasHost host := by
  refine performAll_keeps (P := fun r' => r'.topology.hasHost host = r.topology.hasHost host)
    ?_ steps r rfl
  intro step r' h
  rcases topology_perform step r' with he | ⟨a, b, state, he⟩
  · rw [he, h]
  · rw [he, Topology.hasHost_recordState, h]

/-! ## One run after the other -/

/-- Where the hosts of the second scenario exist, a run of the steps of both is a run of the first
and then one of the second. -/
theorem run_append (first second : Scenario) (name description : String) {r : Rig σ}
    (known : r.topology.validate second = .ok ()) :
    run { name, description, steps := first.steps ++ second.steps } r = (do
      let report ← run first
      let later ← run second
      pure (report.joined name later)) r := by
  have hboth := r.topology.validate_append first second name description
  rcases hfirst : r.topology.validate first with e | u
  · rw [hfirst] at hboth
    rw [run_unknown hboth, Action.bind_error _ (run_unknown hfirst)]
  · rw [hfirst, known] at hboth
    rcases hp : performAll first.steps r with ⟨e | started, r₁⟩
    · have hrun := run_known hfirst
      rw [hp] at hrun
      rw [run_known hboth, performAll_append_error second.steps hp, Action.bind_error _ hrun]
      rfl
    · have hrun := run_known hfirst
      rw [hp] at hrun
      have hsecond : r₁.topology.validate second = .ok () := by
        rw [← known]
        refine Topology.validate_congr (fun host => ?_) second
        have hhost := hasHost_performAll first.steps r host
        rwa [hp] at hhost
      rw [run_known hboth, performAll_append hp, Action.bind_ok _ hrun, Action.bind_apply,
        run_known hsecond]
      rcases performAll second.steps r₁ with ⟨e | more, r₂⟩
      · rfl
      · simp [Except.map, RunReport.joined]

end Rig

namespace Session

/-- On any substrate and from any state, to run the steps of two scenarios as one is to run the
first scenario and then, only if that went well, the second: the session afterwards is the same,
and so is the error, if one of the runs fails. If both go well the report is the two reports put
together. All that it takes is that the hosts of the second scenario exist. -/
theorem scenarios_compose (first second : Scenario) (name description : String) (s : Session σ)
    (known : ∀ host ∈ second.hosts, s.rig.topology.hasHost host = true) :
    runScenario { name, description, steps := first.steps ++ second.steps } s = (do
      let report ← runScenario first
      let later ← runScenario second
      pure (report.joined name later)) s := by
  cases hs : s.shutDown with
  | true =>
    rw [runScenario_closed _ hs, Action.bind_error _ (runScenario_closed first hs)]
  | false =>
    have hknown : s.rig.topology.validate second = .ok () := Rig.validate_known known
    have hfirst := runScenario_open first hs
    have hboth := Rig.run_append first second name description hknown
    rw [runScenario_open _ hs, hboth]
    rcases hp : Rig.run first s.rig with ⟨e | report, r₁⟩
    · rw [hp] at hfirst
      rw [Action.bind_error _ hp, Action.bind_error _ hfirst]
    · rw [hp] at hfirst
      have hsecond := runScenario_open second (s := { s with rig := r₁ }) hs
      rw [Action.bind_ok _ hp, Action.bind_ok _ hfirst, Action.bind_apply, Action.bind_apply,
        hsecond]
      rcases Rig.run second r₁ with ⟨e | later, r₂⟩ <;> rfl

/-- The second of two scenarios fails after it has taken the link down. Run as one they fail the
same way, with the link down and the process of the first still tracked. -/
theorem scenarios_compose_up_to_a_failure :
    let s := onTwoHosts.mapSubstrate (·.failExecOn ⟨"B"⟩)
    let first : Scenario := { name := "one", steps := [
      .spawn ⟨"A"⟩ { argv := ["server"], title := "" }, .wait (.ofSeconds 1)] }
    let second : Scenario := { name := "two", steps := [
      .setLink ⟨"B"⟩ ⟨"A"⟩ .down, .spawn ⟨"B"⟩ { argv := ["client", "A"], title := "" }] }
    let s₂ := (runScenario second (runScenario first s).2).2
    runScenario { name := "both", steps := first.steps ++ second.steps } s =
      (.error (.spawn ⟨"B"⟩ "" (.rejected (.exec ⟨"B"⟩) .injected)), s₂) ∧
    s₂.rig.supervisor.tracked.map (·.pid) = [1000] ∧
    s₂.rig.topology.links.map (·.state) = [.down] := by
  intro s first second s₂
  have hboth := scenarios_compose first second "both" "" s (by decide +kernel)
  exact ⟨hboth.trans rfl, by decide +kernel, by decide +kernel⟩

end Session

end Testbed
