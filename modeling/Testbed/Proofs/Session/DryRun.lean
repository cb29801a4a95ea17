-- A dry run tells what will happen. A session on the simulator and one on
-- namespaces, with the same topology, answer alike to whatever is done with
-- them, as long as the machine does what it is told.
import Mathlib.Data.List.Forall2
import Testbed.Proofs.Namespaces.Serving
import Testbed.Proofs.Simulator.Serving
import Testbed.Session

namespace Testbed

variable {σ τ : Type} {ids : List HostId} {pairs : List HostPair} {good : σ → Prop}
  {good' : τ → Prop}

/-! ## Sessions -/

namespace Session

/-- What is done with a session. -/
inductive Deed where
  | runScenario (scenario : Scenario)
  | switchLink (a b : HostId) (state : LinkState)
  | shutdown
deriving DecidableEq, Repr

/-- The words of all commands of a deed can be passed. -/
def Deed.Plain : Deed → Prop
  | runScenario scenario => ∀ step ∈ scenario.steps, step.Plain
  | switchLink _ _ _ => True
  | shutdown => True

/-- What a session says to a deed. -/
inductive Answer where
  | ran (result : Except TestbedError RunReport)
  | switched (result : Except TestbedError Transition)
  | closed (report : Option KillReport)

/-- The same answer, but for times and the wording of errors. -/
inductive Answer.Alike : Answer → Answer → Prop
  | ran {result result' : Except TestbedError RunReport}
      (h : ResultsAlike RunReport.Alike result result') : Alike (.ran result) (.ran result')
  | switched {result result' : Except TestbedError Transition}
      (h : ResultsAlike Eq result result') : Alike (.switched result) (.switched result')
  | closed (report : Option KillReport) : Alike (.closed report) (.closed report)

/-- What two sessions have in common that look alike: the topology but for the names that the
substrates give, the handles but for the numbers of processes and for times, and whether they have
been shut down. -/
structure LooksLike (s : Session σ) (s' : Session τ) : Prop where
  topology : s.rig.topology.bare = s'.rig.topology.bare
  supervisor : s.rig.supervisor.bare = s'.rig.supervisor.bare
  shutDown : s.shutDown = s'.shutDown

/-- Two sessions that look alike, on substrates that serve the links of their topology. -/
structure Alike (pairs : List HostPair) (good : σ → Prop) (good' : τ → Prop) (s : Session σ)
    (s' : Session τ) : Prop where
  rig : Rig.Alike pairs good good' s.rig s'.rig
  shutDown : s.shutDown = s'.shutDown

theorem Alike.looksLike {s : Session σ} {s' : Session τ} (h : Alike pairs good good' s s') :
    LooksLike s s' := ⟨h.rig.topology, h.rig.supervisor, h.shutDown⟩

/-- What is done with the rigs of two sessions, as long as these are open. -/
theorem Alike.whenOpen {α : Type} {R : α → α → Prop} {act : Action (Rig σ) TestbedError α}
    {act' : Action (Rig τ) TestbedError α}
    (hact : ∀ {r r'}, Rig.Alike pairs good good' r r' →
      Rig.Matches pairs good good' R (act r) (act' r'))
    {s : Session σ} {s' : Session τ} (h : Alike pairs good good' s s') :
    ResultsAlike R (Session.whenOpen act s).1 (Session.whenOpen act' s').1 ∧
      Alike pairs good good' (Session.whenOpen act s).2 (Session.whenOpen act' s').2 := by
  unfold Session.whenOpen
  rw [← h.shutDown]
  split
  · exact ⟨.error (.same _), h⟩
  · obtain ⟨hresult, hrig⟩ := hact h.rig
    exact ⟨hresult, hrig, h.shutDown⟩

variable [Substrate σ] [Substrate τ]

theorem Alike.shutdown (hs : Serves ids pairs good) (ht : Serves ids pairs good') {s : Session σ}
    {s' : Session τ} (h : Alike pairs good good' s s') :
    s.shutdown.1 = s'.shutdown.1 ∧ Alike pairs good good' s.shutdown.2 s'.shutdown.2 := by
  have hnext := Supervisor.nextIndex_bare h.rig.supervisor
  have hids : s.rig.supervisor.tracked.map (·.id) = s'.rig.supervisor.tracked.map (·.id) := by
    have hbare := congrArg (List.map (·.id)) (Supervisor.tracked_bare h.rig.supervisor)
    rw [List.map_map, List.map_map] at hbare
    exact hbare
  obtain ⟨hreport, hgood⟩ := hs.killEach s.rig.supervisor.tracked h.rig.left
  obtain ⟨hreport', hgood'⟩ := ht.killEach s'.rig.supervisor.tracked h.rig.right
  unfold Session.shutdown
  rw [← h.shutDown]
  split
  · exact ⟨rfl, h⟩
  · simp only [Supervisor.killAll]
    rw [hreport, hreport', hids]
    refine ⟨rfl, ⟨h.rig.topology, ?_, h.rig.pairs, hgood, hgood'⟩, rfl⟩
    exact congrArg (Supervisor.mk []) hnext

def Deed.apply : Deed → Session σ → Answer × Session σ
  | runScenario scenario, s =>
    let (result, s) := Session.runScenario scenario s
    (.ran result, s)
  | switchLink a b state, s =>
    let (result, s) := Session.switchLink a b state s
    (.switched result, s)
  | shutdown, s =>
    let (report, s) := s.shutdown
    (.closed report, s)

/-- The account of some deeds, one after the other: each answer with the session that it leaves. -/
def account : List Deed → Session σ → List (Answer × Session σ)
  | [], _ => []
  | deed :: deeds, s => deed.apply s :: account deeds (deed.apply s).2

/-- The same answer, and sessions that look alike afterwards. -/
def Agrees (x : Answer × Session σ) (y : Answer × Session τ) : Prop :=
  x.1.Alike y.1 ∧ LooksLike x.2 y.2

theorem Alike.apply (hs : Serves ids pairs good) (ht : Serves ids pairs good') {s : Session σ}
    {s' : Session τ} (h : Alike pairs good good' s s') {deed : Deed} (hplain : deed.Plain) :
    (deed.apply s).1.Alike (deed.apply s').1 ∧
      Alike pairs good good' (deed.apply s).2 (deed.apply s').2 := by
  cases deed with
  | runScenario scenario =>
    obtain ⟨hresult, hsession⟩ := h.whenOpen fun hr => hr.run hs ht hplain
    exact ⟨.ran hresult, hsession⟩
  | switchLink a b state =>
    obtain ⟨hresult, hsession⟩ := h.whenOpen fun hr => hr.switchLink hs ht a b state
    exact ⟨.switched hresult, hsession⟩
  | shutdown =>
    obtain ⟨hreport, hsession⟩ := h.shutdown hs ht
    refine ⟨?_, hsession⟩
    simp only [Deed.apply, hreport]
    exact .closed _

/-- Whatever is done, the sessions agree all the way. -/
theorem Alike.account (hs : Serves ids pairs good) (ht : Serves ids pairs good')
    {deeds : List Deed} (hplain : ∀ deed ∈ deeds, deed.Plain) {s : Session σ} {s' : Session τ}
    (h : Alike pairs good good' s s') :
    List.Forall₂ Agrees (Session.account deeds s) (Session.account deeds s') := by
  induction deeds generalizing s s' with
  | nil => exact .nil
  | cons deed deeds ih =>
    obtain ⟨hanswer, h⟩ := h.apply hs ht (hplain deed List.mem_cons_self)
    exact .cons ⟨hanswer, h.looksLike⟩ (ih (fun x hx => hplain x (List.mem_cons_of_mem deed hx)) h)

/-! ## The beginning -/

theorem start_ok {t t' : Topology} {sub sub' : σ}
    (h : Topology.instantiate (t, sub) = (.ok (), t', sub')) (config : Config) (clock : Clock) :
    start config t sub clock =
      .ok { config, rig := { topology := t', substrate := sub', clock } } := by
  simp only [start, Rig.instantiate, Action.within, h]

theorem start_again {t : Topology} (hi : t.instantiated = true) (config : Config) (sub : σ)
    (clock : Clock) :
    start config t sub clock = .error (.alreadyInstantiated t.name, sub) := by
  simp only [start, Rig.instantiate, Action.within, Topology.instantiate_again hi]

/-- A topology that has not been built comes up on both substrates, and the sessions are alike. -/
theorem start_alike {t : Topology} (built : t.Built) (hi : t.instantiated = false)
    {sim : Simulator} (fresh : sim.Fresh) (quiet : sim.Quiet) {net : Namespaces}
    (ready : net.Ready t) (config : Config) (clock clock' : Clock) :
    ∃ s s', start config t sim clock = .ok s ∧ start config t net clock' = .ok s' ∧
      Alike (t.links.map Link.pair) (Simulator.Attends t.ids (t.links.map Link.pair))
        (Namespaces.Attends t.ids (t.links.map Link.pair)) s s' := by
  have hsim := t.instantiate_known built hi sim
  obtain ⟨t', net', hnet, hbare, hattends⟩ := Namespaces.instantiate_ready built hi ready
  refine ⟨_, _, start_ok hsim config clock, start_ok hnet config clock', ?_⟩
  exact ⟨⟨hbare.symm, rfl, rfl, t.attends_network fresh quiet, hattends⟩, rfl⟩

/-! ## The dry run -/

/-- A session on a fresh simulator from which no failures are requested, and one on namespaces
whose machine does what it is told: whatever is done with both, each answer is the same, and they
look alike after it. A topology that has been built before is refused by both. -/
theorem dry_run_is_faithful {t : Topology} (built : t.Built) {sim : Simulator} (fresh : sim.Fresh)
    (quiet : sim.Quiet) {net : Namespaces} (ready : net.Ready t) (config : Config)
    (clock clock' : Clock) {deeds : List Deed} (plain : ∀ deed ∈ deeds, deed.Plain) :
    (t.instantiated = true →
      start config t sim clock = .error (.alreadyInstantiated t.name, sim) ∧
      start config t net clock' = .error (.alreadyInstantiated t.name, net)) ∧
    (t.instantiated = false → ∃ s s',
      start config t sim clock = .ok s ∧ start config t net clock' = .ok s' ∧ LooksLike s s' ∧
      List.Forall₂ Agrees (account deeds s) (account deeds s')) := by
  constructor
  · intro hi
    exact ⟨start_again hi config sim clock, start_again hi config net clock'⟩
  · intro hi
    obtain ⟨s, s', hs, hs', halike⟩ := start_alike built hi fresh quiet ready config clock clock'
    exact ⟨s, s', hs, hs', halike.looksLike,
      halike.account (Simulator.serves _ _) (Namespaces.serves _ _) plain⟩

/-- Something of everything, on two hosts. -/
def rehearsal : List Deed := [
  .runScenario {
    name := "rehearsal"
    steps := [
      .spawn ⟨"A"⟩ { argv := ["daemon", "-f"], title := "daemon" },
      .wait (.ofSeconds 1),
      .setLink ⟨"B"⟩ ⟨"A"⟩ .down,
      .spawn ⟨"B"⟩ { argv := [], title := "nothing" }] },
  .switchLink ⟨"A"⟩ ⟨"B"⟩ .up,
  .switchLink ⟨"A"⟩ ⟨"C"⟩ .up,
  .shutdown,
  .runScenario { name := "late", steps := [] }]

theorem dry_run_is_faithful_on_two_hosts :
    Topology.twoHosts.Built ∧ ({} : Simulator).Fresh ∧ ({} : Simulator).Quiet ∧
    ({} : Namespaces).Ready Topology.twoHosts ∧ (∀ deed ∈ rehearsal, deed.Plain) ∧
    ∃ s s', start {} Topology.twoHosts ({} : Simulator) = .ok s ∧
      start {} Topology.twoHosts ({} : Namespaces) = .ok s' ∧ LooksLike s s' ∧
      List.Forall₂ Agrees (account rehearsal s) (account rehearsal s') := by
  have fresh : ({} : Simulator).Fresh := Simulator.fresh_default {}
  have quiet : ({} : Simulator).Quiet := ⟨rfl, rfl, rfl⟩
  have ready : ({} : Namespaces).Ready Topology.twoHosts :=
    ⟨⟨rfl, rfl, by decide, by decide, fun _ _ _ => rfl, fun _ _ => rfl⟩, rfl, rfl, by decide,
      by decide⟩
  have plain : ∀ deed ∈ rehearsal, deed.Plain := by
    simp [rehearsal, Deed.Plain, Step.Plain, Testbed.Plain]
  exact ⟨Topology.built_twoHosts, fresh, quiet, ready, plain,
    (dry_run_is_faithful Topology.built_twoHosts fresh quiet ready {} {} {} plain).2 rfl⟩

end Session

end Testbed
