-- Runs on a topology that was not instantiated. Only a link step asks whether
-- it was: until then commands start on whatever hosts the substrate has, and
-- waits move the clock. So such a run comes to nothing just when a link step
-- comes before any command and before the clock has moved.
import Mathlib.Data.List.TakeWhile
import Testbed.Namespaces
import Testbed.Proofs.Scenario.Fold

namespace Testbed

namespace Step

/-- The step switches a link. -/
def isSwitch : Step → Bool
  | setLink _ _ _ => true
  | _ => false

/-- The steps before the first that switches a link. -/
def beforeSwitch (steps : List Step) : List Step := steps.takeWhile (!·.isSwitch)

theorem not_isSwitch_of_mem {steps : List Step} {step : Step} (h : step ∈ beforeSwitch steps) :
    step.isSwitch = false := by
  simpa using List.mem_takeWhile_imp h

/-- The steps are those before the first link step, and that one and all others after it. -/
theorem beforeSwitch_append {steps : List Step} (h : steps.any isSwitch = true) :
    ∃ a b state rest, steps = beforeSwitch steps ++ setLink a b state :: rest := by
  induction steps with
  | nil => simp at h
  | cons step steps ih =>
    cases step with
    | setLink a b state => exact ⟨a, b, state, steps, rfl⟩
    | spawn host request =>
      obtain ⟨a, b, state, rest, heq⟩ := ih (by simpa [isSwitch] using h)
      exact ⟨a, b, state, rest, congrArg (spawn host request :: ·) heq⟩
    | wait d =>
      obtain ⟨a, b, state, rest, heq⟩ := ih (by simpa [isSwitch] using h)
      exact ⟨a, b, state, rest, congrArg (wait d :: ·) heq⟩

theorem beforeSwitch_eq_self {steps : List Step} (h : steps.any isSwitch = false) :
    beforeSwitch steps = steps := by
  rw [beforeSwitch, List.takeWhile_eq_self_iff]
  simpa using h

end Step

namespace Rig

variable {σ : Type} [Substrate σ]

/-! ## Commands and waits -/

/-- Commands and waits do not look at the topology. -/
theorem perform_with_topology {step : Step} (h : step.isSwitch = false) (r : Rig σ)
    (t : Topology) : perform step { r with topology := t } =
      ((perform step r).1, { (perform step r).2 with topology := t }) := by
  cases step with
  | spawn host request =>
    simp only [perform_spawn]
    rcases Substrate.exec host request r.substrate with ⟨cause | pid, s⟩ <;> rfl
  | wait d => rfl
  | setLink a b state => cases h

theorem performAll_with_topology {steps : List Step} (h : ∀ step ∈ steps, step.isSwitch = false)
    (r : Rig σ) (t : Topology) : performAll steps { r with topology := t } =
      ((performAll steps r).1, { (performAll steps r).2 with topology := t }) := by
  induction steps generalizing r with
  | nil => rfl
  | cons step steps ih =>
    have hstep := perform_with_topology (h step List.mem_cons_self) r t
    rcases hp : perform step r with ⟨e | started, r'⟩
    · rw [hp] at hstep
      rw [performAll_cons_error hp, performAll_cons_error hstep]
    · rw [hp] at hstep
      rw [performAll_cons_ok hp, performAll_cons_ok hstep,
        ih (fun step hmem => h step (List.mem_cons_of_mem _ hmem))]

/-- The supervisor gives out one number for every command, and none for other steps. -/
theorem nextIndex_perform {step : Step} {r r' : Rig σ} {started : Option HandleId}
    (h : perform step r = (.ok started, r')) : r'.supervisor.nextIndex =
      r.supervisor.nextIndex + [step].countP Step.isSpawn := by
  cases step with
  | spawn host request =>
    rw [perform_spawn] at h
    split at h
    · cases h
    · cases h
      rfl
  | wait d =>
    cases h
    rfl
  | setLink a b state =>
    simp only [perform, Action.bind_apply, switchLink, Action.within] at h
    rcases hs : Topology.switchLink a b state (r.topology, r.substrate) with ⟨e | t, topo, s⟩
    · rw [hs] at h
      cases h
    · rw [hs] at h
      cases h
      rfl

theorem nextIndex_performAll {steps : List Step} {r r' : Rig σ} {ids : List HandleId}
    (h : performAll steps r = (.ok ids, r')) : r'.supervisor.nextIndex =
      r.supervisor.nextIndex + steps.countP Step.isSpawn := by
  induction steps generalizing r ids with
  | nil =>
    cases h
    rfl
  | cons step steps ih =>
    obtain ⟨started, r₁, hp, h⟩ := Action.bind_eq_ok.mp h
    obtain ⟨rest, r₂, hrest, h⟩ := Action.bind_eq_ok.mp h
    cases h
    rw [ih hrest, nextIndex_perform hp, Nat.add_assoc, ← List.countP_append]
    rfl

/-- Of commands and waits only a command can fail. -/
theorem error_of_perform {step : Step} (h : step.isSwitch = false) {r r' : Rig σ}
    {e : TestbedError} (hp : perform step r = (.error e, r')) :
    ∃ host title cause, e = .spawn host title cause := by
  cases step with
  | spawn host request =>
    rw [perform_spawn] at hp
    split at hp
    · next cause s _ =>
      cases hp
      exact ⟨host, request.title, cause, rfl⟩
    · cases hp
  | wait d => cases hp
  | setLink a b state => cases h

theorem error_of_performAll {steps : List Step} (h : ∀ step ∈ steps, step.isSwitch = false)
    {r r' : Rig σ} {e : TestbedError} (hp : performAll steps r = (.error e, r')) :
    ∃ host title cause, e = .spawn host title cause := by
  induction steps generalizing r with
  | nil => cases hp
  | cons step steps ih =>
    rcases hstep : perform step r with ⟨e' | started, r₁⟩
    · rw [performAll_cons_error hstep] at hp
      cases hp
      exact error_of_perform (h step List.mem_cons_self) hstep
    · rw [performAll_cons_ok hstep] at hp
      rcases hrest : performAll steps r₁ with ⟨e' | rest, r₂⟩
      · rw [hrest] at hp
        cases hp
        exact ih (fun step hmem => h step (List.mem_cons_of_mem _ hmem)) hrest
      · rw [hrest] at hp
        cases hp

/-- Waits go well. They move the clock, and the substrate hears of the time that passes. -/
theorem performAll_waits {steps : List Step} (h : ∀ step ∈ steps, step.isSwitch = false)
    (hspawn : ∀ step ∈ steps, step.isSpawn = false) (r : Rig σ) :
    performAll steps r = (.ok [], { r with
      clock := (steps.filterMap Step.wait?).foldl Clock.advance r.clock
      substrate := (steps.filterMap Step.wait?).foldl (fun s d => Substrate.elapse d s)
        r.substrate }) := by
  induction steps generalizing r with
  | nil => rfl
  | cons step steps ih =>
    have hrest := ih (fun step hmem => h step (List.mem_cons_of_mem _ hmem))
      (fun step hmem => hspawn step (List.mem_cons_of_mem _ hmem))
    cases step with
    | spawn host request => exact absurd (hspawn _ List.mem_cons_self) (by simp [Step.isSpawn])
    | setLink a b state => exact absurd (h _ List.mem_cons_self) (by simp [Step.isSwitch])
    | wait d =>
      have hp : perform (.wait d) r = (.ok none, wait d r) := rfl
      rw [performAll_cons_ok hp, hrest]
      rfl

/-! ## Link steps -/

/-- A link step is refused, and changes nothing. -/
theorem perform_setLink_unbuilt (a b : HostId) (state : LinkState) {r : Rig σ}
    (unbuilt : r.topology.instantiated = false) :
    perform (.setLink a b state) r = (.error (.notInstantiated r.topology.name), r) := by
  have hs : switchLink a b state r = (.error (.notInstantiated r.topology.name), r) := by
    simp only [switchLink, Action.within, Topology.switchLink, unbuilt, Bool.not_false, if_true]
  exact Action.bind_error _ hs

theorem topology_beforeSwitch (steps : List Step) (r : Rig σ) :
    (performAll (Step.beforeSwitch steps) r).2.topology = r.topology :=
  congrArg (fun done => done.2.topology)
    (performAll_with_topology (fun _ => Step.not_isSwitch_of_mem) r r.topology)

/-- The steps go as far as the first link step. -/
theorem performAll_unbuilt (steps : List Step) {r : Rig σ}
    (unbuilt : r.topology.instantiated = false) :
    performAll steps r =
      ((performAll (Step.beforeSwitch steps) r).1.bind fun ids =>
        if steps.any Step.isSwitch then .error (.notInstantiated r.topology.name) else .ok ids,
      (performAll (Step.beforeSwitch steps) r).2) := by
  have htopology := topology_beforeSwitch steps r
  rcases hany : steps.any Step.isSwitch with _ | _
  · rw [Step.beforeSwitch_eq_self hany]
    rcases performAll steps r with ⟨e | ids, r'⟩ <;> rfl
  · obtain ⟨a, b, state, rest, hsteps⟩ := Step.beforeSwitch_append hany
    have hplit : performAll steps r =
        performAll (Step.beforeSwitch steps ++ .setLink a b state :: rest) r :=
      congrFun (congrArg performAll hsteps) r
    rcases hb : performAll (Step.beforeSwitch steps) r with ⟨e | ids, r'⟩
    · rw [hplit]
      exact performAll_append_error _ hb
    · rw [hb] at htopology
      have hunbuilt : r'.topology.instantiated = false := by
        rw [htopology]
        exact unbuilt
      have hrefused := perform_setLink_unbuilt a b state hunbuilt
      rw [hplit, performAll_append hb, performAll_cons_error hrefused, ← htopology]
      rfl

/-! ## Runs that come to nothing -/

/-- The run is refused because the topology was not instantiated. The substrate is asked for
nothing, though time may have passed for it, and all else is as it was. -/
def TurnedAway (r : Rig σ) (done : Except TestbedError RunReport × Rig σ) : Prop :=
  done.1 = .error (.notInstantiated r.topology.name) ∧
    ∃ waits : List Duration, done.2 = { r with
      substrate := waits.foldl (fun s d => Substrate.elapse d s) r.substrate }

/-- A run is turned away just when a link step comes before any command and before the clock has
moved. -/
theorem turnedAway_iff {r : Rig σ} {s : Scenario} (unbuilt : r.topology.instantiated = false)
    (known : ∀ host ∈ s.hosts, r.topology.hasHost host = true) :
    TurnedAway r (run s r) ↔ s.steps.any Step.isSwitch = true ∧
      (∀ step ∈ Step.beforeSwitch s.steps, step.isSpawn = false) ∧
      ((Step.beforeSwitch s.steps).filterMap Step.wait?).foldl Clock.advance r.clock = r.clock := by
  have hno : ∀ step ∈ Step.beforeSwitch s.steps, step.isSwitch = false :=
    fun _ => Step.not_isSwitch_of_mem
  rw [run_known (validate_known known), performAll_unbuilt s.steps unbuilt]
  constructor
  · rintro ⟨hresult, waits, hrig⟩
    rcases hb : performAll (Step.beforeSwitch s.steps) r with ⟨e | ids, r'⟩
    · -- What has failed is a command, and says so.
      obtain ⟨host, title, cause, rfl⟩ := error_of_performAll hno hb
      rw [hb] at hresult
      cases hresult
    · rw [hb] at hresult hrig
      obtain rfl : r' = _ := hrig
      have hcount := nextIndex_performAll hb
      have hspawn : ∀ step ∈ Step.beforeSwitch s.steps, step.isSpawn = false := by
        have hzero : (Step.beforeSwitch s.steps).countP Step.isSpawn = 0 := by
          simpa using hcount
        simpa [List.countP_eq_zero] using hzero
      rw [performAll_waits hno hspawn] at hb
      refine ⟨?_, hspawn, ?_⟩
      · by_contra hany
        simp only [hany] at hresult
        cases hresult
      · exact congrArg (fun done => done.2.clock) hb
  · rintro ⟨hany, hspawn, hclock⟩
    rw [performAll_waits hno hspawn, hclock, hany]
    exact ⟨rfl, _, rfl⟩

/-- A run on a topology that was not instantiated is its steps up to the first link step, and
these do not ask for the topology: commands are started and tracked, and time passes. A command
that fails ends the run as it always does. Otherwise the link step is refused, and without one the
run is complete. So the run is turned away just when it has a link step with no command before it
and the waits before it do not move the clock. -/
theorem unbuilt_run_goes_to_its_first_switch {r : Rig σ} {s : Scenario}
    (unbuilt : r.topology.instantiated = false)
    (known : ∀ host ∈ s.hosts, r.topology.hasHost host = true) :
    let steps := Step.beforeSwitch s.steps
    let before := performAll steps r
    let done := run s r
    done.2 = before.2 ∧
      (∀ t, performAll steps { r with topology := t } =
        (before.1, { before.2 with topology := t })) ∧
      (∀ e, before.1 = .error e →
        done.1 = .error e ∧ ∃ host title cause, e = .spawn host title cause) ∧
      (∀ ids, before.1 = .ok ids → done.1 =
        if s.steps.any Step.isSwitch then .error (.notInstantiated r.topology.name)
        else .ok { scenario := s.name, stepsExecuted := s.steps.length, spawned := ids
                   startedAt := r.clock.now, finishedAt := done.2.clock.now }) ∧
      (TurnedAway r done ↔ s.steps.any Step.isSwitch = true ∧
        (∀ step ∈ steps, step.isSpawn = false) ∧
        (steps.filterMap Step.wait?).foldl Clock.advance r.clock = r.clock) := by
  have hno : ∀ step ∈ Step.beforeSwitch s.steps, step.isSwitch = false :=
    fun _ => Step.not_isSwitch_of_mem
  have hrun := run_known (validate_known known)
  rw [performAll_unbuilt s.steps unbuilt] at hrun
  have haway := turnedAway_iff unbuilt known
  dsimp only
  refine ⟨?_, performAll_with_topology hno r, ?_, ?_, haway⟩
  · rw [hrun]
  · intro e he
    rw [hrun, he]
    exact ⟨rfl, error_of_performAll hno (Prod.ext he rfl)⟩
  · intro ids hok
    rw [hrun, hok]
    split <;> rfl

/-- A machine that adds no link. -/
def withoutLinks : Machine where
  answer _ argv := if argv.take 3 = ["ip", "link", "add"] then some { exit := 2 } else none

/-- Where the link of two hosts could not be added the hosts are there all the same. A scenario
then starts a command and waits, and only its link step is refused. -/
theorem unbuilt_run_goes_to_its_first_switch_without_links :
    let failed :=
      Topology.instantiate (Topology.twoHosts, ({ machine := withoutLinks } : Namespaces))
    let r : Rig Namespaces := { topology := failed.2.1, substrate := failed.2.2 }
    let s : Scenario := { name := "early", steps := [
      .spawn ⟨"A"⟩ { argv := ["server"], title := "server" }, .wait (.ofSeconds 1),
      .setLink ⟨"A"⟩ ⟨"B"⟩ .down, .spawn ⟨"B"⟩ { argv := ["client", "A"], title := "client" }] }
    failed.1.isOk = false ∧ r.topology.instantiated = false ∧
      (∀ host ∈ s.hosts, r.topology.hasHost host = true) ∧ ¬TurnedAway r (run s r) ∧
      ∃ handle r', run s r = (.error (.notInstantiated "pair"), r') ∧
        r'.supervisor.tracked = [handle] ∧ r'.clock.now = .ofSeconds 1 := by
  intro failed r s
  have known : ∀ host ∈ s.hosts, r.topology.hasHost host = true := by
    simp only [s, Scenario.hosts, List.flatMap_cons, Step.hosts]
    decide +kernel
  obtain ⟨hrig, _, _, hok, haway⟩ := unbuilt_run_goes_to_its_first_switch (r := r) rfl known
  refine ⟨rfl, rfl, known, ?_, _, _, Prod.ext (hok _ rfl) hrig, rfl, by decide +kernel⟩
  rw [haway]
  rintro ⟨_, hspawn, _⟩
  exact absurd (hspawn _ List.mem_cons_self) (by decide)

/-- On a topology that was not instantiated a scenario that only waits and starts a command is
complete, if the substrate happens to have the host. -/
theorem command_starts_on_an_unbuilt_topology :
    let r : Rig Simulator :=
      { topology := { name := "lab", hosts := [{ id := ⟨"A"⟩ }], hostIndex := ⟨[(⟨"A"⟩, 0)]⟩ }
        substrate := (Simulator.createHost ⟨"A"⟩ {}).2 }
    let s : Scenario := { name := "early", steps := [
      .wait (.ofSeconds 1), .spawn ⟨"A"⟩ { argv := ["server"], title := "server" }] }
    r.topology.instantiated = false ∧ (∀ host ∈ s.hosts, r.topology.hasHost host = true) ∧
      s.steps.any Step.isSpawn = true ∧ ¬TurnedAway r (run s r) ∧ ∃ report handle,
        (run s r).1 = .ok report ∧ (run s r).2.supervisor.tracked = [handle] ∧
        (run s r).2.clock.now = .ofSeconds 1 ∧ (run s r).2.substrate.calls =
          r.substrate.calls ++ [⟨.ofSeconds 1, .exec ⟨"A"⟩ ["server"], true⟩] := by
  intro r s
  have haway : ¬TurnedAway r (run s r) := by
    rintro ⟨hresult, _⟩
    cases hresult
  exact ⟨rfl, List.forall_mem_singleton.mpr rfl, rfl, haway, _, _, rfl, rfl, by decide +kernel,
    by decide +kernel⟩

end Rig

end Testbed
