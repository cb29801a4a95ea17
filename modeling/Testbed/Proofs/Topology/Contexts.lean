-- What the substrates call the hosts of a topology. A host gets its context
-- while its topology is being built, and it keeps it also where a later host
-- or a link is refused. So its context is the last one that any attempt has
-- brought, and once the topology is instantiated the attempt that succeeded
-- has brought those of all hosts.
import Mathlib.Data.List.Induction
import Testbed.Proofs.Namespaces.Release
import Testbed.Proofs.Topology.Shape

namespace Testbed

/-! ## What a substrate hands out -/

/-- The last context in a list that belongs to a host. -/
def lastFor? (id : HostId) (given : List (HostId × HostContext)) : Option HostContext :=
  (given.filterMap fun g => if g.1 = id then some g.2 else none).getLast?

theorem lastFor?_append (id : HostId) (given more : List (HostId × HostContext)) :
    lastFor? id (given ++ more) = (lastFor? id more).or (lastFor? id given) := by
  simp [lastFor?, List.getLast?_append]

theorem lastFor?_of_not_mem {id : HostId} {given : List (HostId × HostContext)}
    (h : ∀ g ∈ given, g.1 ≠ id) : lastFor? id given = none := by
  have hnone : given.filterMap (fun g => if g.1 = id then some g.2 else none) = [] := by
    rw [List.filterMap_eq_nil_iff]
    intro g hg
    rw [if_neg (h g hg)]
  rw [lastFor?, hnone, List.getLast?_nil]

/-- Where no host stands twice the last context of a host is its only one. -/
theorem lastFor?_eq_some_iff {given : List (HostId × HostContext)}
    (hnodup : (given.map (·.1)).Nodup) (id : HostId) (context : HostContext) :
    lastFor? id given = some context ↔ (id, context) ∈ given := by
  induction given with
  | nil => simp [lastFor?]
  | cons g given ih =>
    obtain ⟨hfirst, hrest⟩ := List.nodup_cons.mp hnodup
    rw [← List.singleton_append, lastFor?_append, Option.or_eq_some_iff, ih hrest, List.mem_append,
      List.mem_singleton]
    constructor
    · rintro (hlast | ⟨-, hg⟩)
      · exact Or.inr hlast
      · left
        by_cases hid : g.1 = id
        · have hcontext : g.2 = context := by simpa [lastFor?, hid] using hg
          rw [← hid, ← hcontext]
        · simp [lastFor?, hid] at hg
    · rintro (rfl | hlast)
      · refine Or.inr ⟨lastFor?_of_not_mem fun g hg heq => hfirst ?_, by simp [lastFor?]⟩
        exact List.mem_map.mpr ⟨g, hg, heq⟩
      · exact Or.inl hlast

/-- The host with the last context that it was given, if it was given any. -/
def Host.noted (given : List (HostId × HostContext)) (h : Host) : Host :=
  { h with context := (lastFor? h.id given).or h.context }

theorem Host.noted_eq_self_iff {given : List (HostId × HostContext)}
    (hnodup : (given.map (·.1)).Nodup) (h : Host) :
    h.noted given = h ↔ ∀ g ∈ given, h.id = g.1 → h.context = some g.2 := by
  have hsame : h.noted given = h ↔ (lastFor? h.id given).or h.context = h.context := by
    cases h
    simp [noted]
  rw [hsame]
  constructor
  · intro hor g hg hid
    rw [(lastFor?_eq_some_iff hnodup h.id g.2).mpr (hid ▸ hg)] at hor
    exact hor.symm
  · intro hall
    rcases hlast : lastFor? h.id given with _ | context
    · rfl
    · have hg := (lastFor?_eq_some_iff hnodup h.id context).mp hlast
      exact (hall _ hg rfl).symm

namespace Topology

section

variable {σ : Type} [Substrate σ]

/-- The contexts that a substrate hands out when it is asked for hosts one after the other, up to
the first that it refuses. -/
def handedOut : List HostId → σ → List (HostId × HostContext)
  | [], _ => []
  | id :: ids, s =>
    match Substrate.createHost id s with
    | (.ok context, s) => (id, context) :: handedOut ids s
    | (.error _, _) => []

/-- The contexts come in the order of the hosts. -/
theorem handedOut_isPrefix (ids : List HostId) (s : σ) : (handedOut ids s).map (·.1) <+: ids := by
  induction ids generalizing s with
  | nil => exact List.nil_prefix
  | cons id ids ih =>
    unfold handedOut
    split
    · exact (List.prefix_cons_inj id).mpr (ih _)
    · exact List.nil_prefix

theorem mem_of_handedOut {ids : List HostId} {s : σ} {g : HostId × HostContext}
    (h : g ∈ handedOut ids s) : g.1 ∈ ids :=
  (handedOut_isPrefix ids s).subset (List.mem_map_of_mem h)

/-- Hosts that are created keep what they are given, whether all of them could be created or
not. -/
theorem createHosts_noted {hosts : List Host} (hnodup : (hosts.map Host.id).Nodup) (s : σ) :
    (createHosts hosts s).2.1 = hosts.map (Host.noted (handedOut (hosts.map Host.id) s)) := by
  induction hosts generalizing s with
  | nil => rfl
  | cons h hosts ih =>
    obtain ⟨hfirst, hrest⟩ := List.nodup_cons.mp hnodup
    unfold createHosts
    rw [List.map_cons, List.map_cons, handedOut]
    rcases Substrate.createHost h.id s with ⟨e | context, s'⟩
    · exact (List.map_id' hosts).symm ▸ rfl
    · have hself : h.noted ((h.id, context) :: handedOut (hosts.map Host.id) s') =
          { h with context := some context } := by
        have hnone : lastFor? h.id (handedOut (hosts.map Host.id) s') = none := by
          refine lastFor?_of_not_mem fun g hg heq => hfirst ?_
          exact heq ▸ mem_of_handedOut hg
        rw [Host.noted, ← List.singleton_append, lastFor?_append, hnone]
        simp [lastFor?]
      have hothers : ∀ x ∈ hosts, x.noted ((h.id, context) :: handedOut (hosts.map Host.id) s') =
          x.noted (handedOut (hosts.map Host.id) s') := by
        intro x hx
        have hne : h.id ≠ x.id := fun heq => hfirst (heq ▸ List.mem_map_of_mem hx)
        rw [Host.noted, ← List.singleton_append, lastFor?_append, Host.noted]
        simp [lastFor?, hne]
      simp only [ih hrest s', hself, List.map_congr_left hothers]

/-- Where all hosts could be created each has been given its context. -/
theorem contexts_of_createHosts {hosts hosts' : List Host} {s s' : σ}
    (h : createHosts hosts s = (.ok (), hosts', s')) :
    hosts'.map (fun host => (host.id, host.context)) =
      (handedOut (hosts.map Host.id) s).map fun g => (g.1, some g.2) := by
  induction hosts generalizing s hosts' with
  | nil =>
    cases h
    rfl
  | cons x hosts ih =>
    unfold createHosts at h
    rw [List.map_cons, handedOut]
    split at h
    · cases h
    · next context s₁ hx =>
      rcases hrest : createHosts hosts s₁ with ⟨r, hs, s₂⟩
      rw [hrest] at h
      cases h
      simp [hx, ih hrest]

/-! ## One attempt -/

/-- An attempt to build a topology changes the contexts of the hosts that were created, and, if it
succeeds, that the topology is instantiated. -/
theorem instantiate_noted {t : Topology} (hnew : t.instantiated = false) (hnodup : t.ids.Nodup)
    (s : σ) : (instantiate (t, s)).2.1 = { t with
      hosts := t.hosts.map (Host.noted (handedOut t.ids s))
      instantiated := (instantiate (t, s)).1.isOk } := by
  have hnoted := createHosts_noted hnodup s
  simp only [instantiate, hnew, Bool.false_eq_true, if_false]
  split
  · next he =>
    rw [he] at hnoted
    simp only [ids, ← hnoted, Except.isOk, Except.toBool]
  · next he =>
    rw [he] at hnoted
    split <;> simp only [ids, ← hnoted, Except.isOk, Except.toBool]

end

/-! ## Any changes -/

/-- The contexts that a change brings: an attempt to build the topology those that the substrate
hands out, anything else none. -/
def Change.brings (t : Topology) : Change → List (HostId × HostContext)
  | instantiate s => if t.instantiated then [] else handedOut t.ids s
  | addHost _ => []
  | addLink _ _ _ => []
  | switchLink _ _ _ _ => []

/-- The contexts that changes bring one after the other. -/
def brought (t : Topology) : List Change → List (HostId × HostContext)
  | [] => []
  | c :: changes => c.brings t ++ (c.apply t).2.brought changes

theorem Built.nodup_ids {t : Topology} (h : t.Built) : t.ids.Nodup := h.sound.host_index.nodup

/-- The change has brought no context. It has done nothing to the hosts, or it has added one. -/
structure Quiet (c : Change) (t : Topology) : Prop where
  brings : c.brings t = []
  instantiated : (c.apply t).2.instantiated = t.instantiated
  hosts : (c.apply t).2.hosts = t.hosts ∨
    ∃ id, id ∉ t.ids ∧ (c.apply t).2.hosts = t.hosts ++ [{ id := id }]

theorem quiet_addHost {t : Topology} (h : t.Built) (id : HostId) : Quiet (.addHost id) t := by
  rcases addHost_cases id t with ⟨e, hc⟩ | ⟨-, hnew, hc⟩
  · refine ⟨rfl, ?_, Or.inl ?_⟩ <;> rw [Change.apply, hc]
  · have hid : id ∉ t.ids := by
      rw [← h.sound.hasHost_iff_mem, hnew]
      exact Bool.false_ne_true
    refine ⟨rfl, ?_, Or.inr ⟨id, hid, ?_⟩⟩ <;> rw [Change.apply, hc]

theorem quiet_addLink (a b : HostId) (params : LinkParams) (t : Topology) :
    Quiet (.addLink a b params) t := by
  rcases addLink_cases a b params t with ⟨e, hc⟩ | ⟨-, -, -, -, -, hc⟩ <;>
    refine ⟨rfl, ?_, Or.inl ?_⟩ <;> rw [Change.apply, hc]

/-- Every change is quiet unless it is an attempt to build the topology. -/
theorem Built.quiet_or_attempt {t : Topology} (h : t.Built) (c : Change) :
    Quiet c t ∨ ∃ (σ : Type) (_ : Substrate σ) (s : σ), c = .instantiate s := by
  cases c with
  | addHost id => exact Or.inl (quiet_addHost h id)
  | addLink a b params => exact Or.inl (quiet_addLink a b params t)
  | instantiate s => exact Or.inr ⟨_, _, s, rfl⟩
  | switchLink s a b state =>
    obtain ⟨hhosts, -, hinst⟩ := shape_switchLink t s a b state
    exact Or.inl ⟨rfl, hinst, Or.inl hhosts⟩

/-! ## The last context of a host -/

/-- The contexts of the hosts are the last ones that they were given. -/
structure Tells (given : List (HostId × HostContext)) (t : Topology) : Prop where
  built : t.Built
  known : ∀ g ∈ given, g.1 ∈ t.ids
  contexts : ∀ h ∈ t.hosts, h.context = lastFor? h.id given

theorem Tells.quiet {given : List (HostId × HostContext)} {t : Topology} {c : Change}
    (h : Tells given t) (hq : Quiet c t) : Tells (given ++ c.brings t) (c.apply t).2 := by
  have hbuilt := built_apply c h.built
  rw [hq.brings, List.append_nil]
  rcases hq.hosts with hhosts | ⟨id, hnew, hhosts⟩
  · refine ⟨hbuilt, ?_, ?_⟩
    · rw [ids, hhosts]
      exact h.known
    · rw [hhosts]
      exact h.contexts
  · refine ⟨hbuilt, ?_, ?_⟩
    · intro g hg
      rw [ids, hhosts, List.map_append]
      exact List.mem_append_left _ (h.known g hg)
    · intro x hx
      rw [hhosts] at hx
      rcases List.mem_append.mp hx with hx | hx
      · exact h.contexts x hx
      · -- Nothing was given to a host that was not there.
        rw [List.mem_singleton.mp hx]
        refine (lastFor?_of_not_mem fun g hg heq => hnew ?_).symm
        exact (show g.1 = id from heq) ▸ h.known g hg

/-- What an attempt brings comes after all that was given before. -/
theorem Tells.attempt {σ : Type} [Substrate σ] {given : List (HostId × HostContext)}
    {t : Topology} (h : Tells given t) (s : σ) :
    Tells (given ++ (Change.instantiate s).brings t) ((Change.instantiate s).apply t).2 := by
  have hbuilt := built_apply (.instantiate s) h.built
  by_cases hi : t.instantiated = true
  · have hsame : ((Change.instantiate s).apply t).2 = t := by
      rw [Change.apply, instantiate_again hi]
    rw [hsame, Change.brings, if_pos hi, List.append_nil]
    exact h
  · have hnoted := instantiate_noted (by simpa using hi) h.built.nodup_ids s
    have hids : ((Change.instantiate s).apply t).2.ids = t.ids := (shape_instantiate t s).1
    rw [Change.brings, if_neg hi]
    refine ⟨hbuilt, ?_, ?_⟩
    · intro g hg
      rw [hids]
      exact (List.mem_append.mp hg).elim (h.known g) mem_of_handedOut
    · intro x hx
      rw [Change.apply, hnoted] at hx
      obtain ⟨y, hy, rfl⟩ := List.mem_map.mp hx
      change (lastFor? y.id (handedOut t.ids s)).or y.context = _
      rw [h.contexts y hy, ← lastFor?_append]
      rfl

theorem Tells.after {given : List (HostId × HostContext)} {t : Topology} (h : Tells given t)
    (changes : List Change) : Tells (given ++ t.brought changes) (t.after changes) := by
  induction changes generalizing given t with
  | nil => simpa [brought, Topology.after] using h
  | cons c changes ih =>
    rw [brought, ← List.append_assoc]
    rcases h.built.quiet_or_attempt c with hq | ⟨σ, _, s, rfl⟩
    · exact ih (h.quiet hq)
    · exact ih (h.attempt s)

/-! ## The attempt that succeeds -/

theorem after_concat (t : Topology) (changes : List Change) (c : Change) :
    t.after (changes ++ [c]) = (c.apply (t.after changes)).2 := by
  simp [after]

/-- Every host has the context that a substrate has handed out for it. -/
def HasContextsOf {σ : Type} [Substrate σ] (t : Topology) (s : σ) : Prop :=
  t.hosts.map (fun h => (h.id, h.context)) = (handedOut t.ids s).map fun g => (g.1, some g.2)

theorem hasContextsOf_attempt {σ : Type} [Substrate σ] {t : Topology} {s : σ}
    (hnew : t.instantiated = false) (hnodup : t.ids.Nodup)
    (h : (instantiate (t, s)).2.1.instantiated = true) :
    (instantiate (t, s)).1 = .ok () ∧ (instantiate (t, s)).2.1.HasContextsOf s := by
  have hids := (shape_instantiate t s).1
  rw [HasContextsOf, hids]
  rcases hup : instantiate (t, s) with ⟨e | u, t', s'⟩
  · have hnoted := instantiate_noted hnew hnodup s
    rw [hup] at h hnoted
    rw [hnoted] at h
    cases h
  · obtain ⟨-, hosts, s₁, hhosts, -, rfl⟩ := instantiate_ok hup
    exact ⟨rfl, contexts_of_createHosts hhosts⟩

/-- A topology that is instantiated owes its contexts to the one attempt that has succeeded. -/
theorem Built.instantiated_by {t : Topology} (built : t.Built) (hnew : t.instantiated = false)
    (changes : List Change) (h : (t.after changes).instantiated = true) :
    ∃ (σ : Type) (_ : Substrate σ) (s : σ) (before later : List Change),
      changes = before ++ .instantiate s :: later ∧
        (instantiate (t.after before, s)).1 = .ok () ∧ (t.after changes).HasContextsOf s := by
  induction changes using List.reverseRecOn with
  | nil =>
    rw [after, List.foldl_nil, hnew] at h
    cases h
  | append_singleton changes c ih =>
    rw [after_concat] at h ⊢
    by_cases hi : (t.after changes).instantiated = true
    · obtain ⟨σ, _, s, before, later, rfl, hok, hhas⟩ := ih hi
      refine ⟨σ, _, s, before, later ++ [c], by simp, hok, ?_⟩
      rw [HasContextsOf, ids, (sameShape_apply c hi).hosts]
      exact hhas
    · have hi : (t.after changes).instantiated = false := by simpa using hi
      rcases (built_after changes built).quiet_or_attempt c with hq | ⟨σ, _, s, rfl⟩
      · rw [hq.instantiated, hi] at h
        cases h
      · obtain ⟨hok, hhas⟩ := hasContextsOf_attempt hi (built_after changes built).nodup_ids h
        exact ⟨σ, _, s, changes, [], rfl, hok, hhas⟩

/-! ## The attempt that fails -/

/-- An attempt that fails changes the contexts of the hosts that it has created. -/
theorem Built.failed_attempt {σ : Type} [Substrate σ] {t : Topology} (built : t.Built) {s : σ}
    {e : TestbedError} (h : (instantiate (t, s)).1 = .error e) : (instantiate (t, s)).2.1 =
      { t with hosts := t.hosts.map (Host.noted ((Change.instantiate s).brings t)) } := by
  rw [Change.brings]
  by_cases hi : t.instantiated = true
  · rw [instantiate_again hi, if_pos hi]
    change t = { t with hosts := t.hosts.map id }
    rw [List.map_id]
  · have hi : t.instantiated = false := by simpa using hi
    rw [if_neg (by simp [hi]), instantiate_noted hi built.nodup_ids s, h]
    simp only [hi, Except.isOk, Except.toBool]

theorem Change.nodup_brings {t : Topology} (hnodup : t.ids.Nodup) (c : Change) :
    ((c.brings t).map (·.1)).Nodup := by
  cases c with
  | instantiate s =>
    rw [brings]
    split
    · exact List.nodup_nil
    · exact hnodup.sublist (handedOut_isPrefix t.ids s).sublist
  | _ => exact List.nodup_nil

/-- It leaves the topology as it was just when each of these hosts had that context before. -/
theorem Built.failed_attempt_eq_self_iff {σ : Type} [Substrate σ] {t : Topology} (built : t.Built)
    {s : σ} {e : TestbedError} (h : (instantiate (t, s)).1 = .error e) :
    (instantiate (t, s)).2.1 = t ↔ ∀ g ∈ (Change.instantiate s).brings t,
      ∀ h ∈ t.hosts, h.id = g.1 → h.context = some g.2 := by
  have hnodup := Change.nodup_brings built.nodup_ids (.instantiate s)
  rw [built.failed_attempt h]
  generalize (Change.instantiate s).brings t = given at hnodup ⊢
  calc { t with hosts := t.hosts.map (Host.noted given) } = t
      ↔ t.hosts.map (Host.noted given) = t.hosts.map id := by
        obtain ⟨name, hosts, hostIndex, links, linkIndex, instantiated⟩ := t
        simp
    _ ↔ ∀ h ∈ t.hosts, h.noted given = h := List.map_inj_left
    _ ↔ ∀ h ∈ t.hosts, ∀ g ∈ given, h.id = g.1 → h.context = some g.2 := by
        simp only [Host.noted_eq_self_iff hnodup]
    _ ↔ _ := ⟨fun hall g hg h hh => hall h hh g hg, fun hall h hh g hg => hall g hg h hh⟩

/-! ## Contexts -/

/-- No host has a context just when none was brought. -/
theorem Tells.all_none_iff {given : List (HostId × HostContext)} {t : Topology}
    (h : Tells given t) : (∀ host ∈ t.hosts, host.context = none) ↔ given = [] := by
  constructor
  · intro hnone
    rcases given with _ | ⟨g, given⟩
    · rfl
    · obtain ⟨host, hhost, hid⟩ := List.mem_map.mp (h.known g List.mem_cons_self)
      have hlast := h.contexts host hhost
      rw [hnone host hhost, lastFor?, eq_comm, List.getLast?_eq_none_iff,
        List.filterMap_eq_nil_iff] at hlast
      simpa [hid] using hlast g List.mem_cons_self
  · rintro rfl host hhost
    exact h.contexts host hhost

/-- Whatever is done with a new topology, on whatever substrates, a host has the last context that
an attempt has brought for it. So no host has any just when no attempt has come as far as creating
one, and the hosts of an instantiated topology have the contexts of the attempt that succeeded. An
attempt that fails changes the contexts of the hosts that it has created and nothing else: it
leaves the topology as it was just when each of them had that context before. -/
theorem contexts_are_the_last_handed_out (name : String) (changes : List Change) :
    let start : Topology := { name }
    let t := start.after changes
    (∀ h ∈ t.hosts, h.context = lastFor? h.id (start.brought changes)) ∧
    ((∀ h ∈ t.hosts, h.context = none) ↔ start.brought changes = []) ∧
    (t.instantiated = true → ∃ (σ : Type) (_ : Substrate σ) (s : σ) (before later : List Change),
      changes = before ++ .instantiate s :: later ∧
        (instantiate (start.after before, s)).1 = .ok () ∧ t.HasContextsOf s) ∧
    ∀ {σ : Type} [Substrate σ] (s : σ) (e : TestbedError),
      (instantiate (t, s)).1 = .error e →
        (instantiate (t, s)).2.1 =
          { t with hosts := t.hosts.map (Host.noted ((Change.instantiate s).brings t)) } ∧
        ((instantiate (t, s)).2.1 = t ↔ ∀ g ∈ (Change.instantiate s).brings t,
          ∀ h ∈ t.hosts, h.id = g.1 → h.context = some g.2) := by
  intro start t
  have hstart : Tells [] start := by
    refine ⟨Built.empty name, ?_, ?_⟩ <;> simp [start]
  have htells : Tells (start.brought changes) t := hstart.after changes
  refine ⟨htells.contexts, htells.all_none_iff, ?_, ?_⟩
  · exact hstart.built.instantiated_by rfl changes
  · intro σ _ s e he
    exact ⟨htells.built.failed_attempt he, htells.built.failed_attempt_eq_self_iff he⟩

/-- Namespaces on a machine that adds none for the host B. -/
def spacesWithoutB : Namespaces := { machine := Namespaces.withoutB }

/-- Two hosts that could not be built there and were built on the simulator then. -/
def builtInTwoAttempts : List Change :=
  [.addHost ⟨"A"⟩, .addHost ⟨"B"⟩, .instantiate spacesWithoutB, .instantiate ({} : Simulator)]

/-- The first attempt has brought a context for one host and left it there; in the end both hosts
have those of the simulator. -/
theorem contexts_are_the_last_handed_out_in_two_attempts :
    let start : Topology := { name := "pair" }
    (∃ e, (instantiate (start.after (builtInTwoAttempts.take 2), spacesWithoutB)).1 = .error e ∧
      (start.after (builtInTwoAttempts.take 3)).hosts =
        [{ id := ⟨"A"⟩, context := some ⟨"mip-A"⟩ }, { id := ⟨"B"⟩ }] ∧
      ¬ (instantiate (start.after (builtInTwoAttempts.take 2), spacesWithoutB)).2.1 =
        start.after (builtInTwoAttempts.take 2)) ∧
    (start.after builtInTwoAttempts).instantiated = true ∧
      ∃ (σ : Type) (_ : Substrate σ) (s : σ), (start.after builtInTwoAttempts).HasContextsOf s := by
  intro start
  have hall := contexts_are_the_last_handed_out "pair" builtInTwoAttempts
  have hfirst := contexts_are_the_last_handed_out "pair" (builtInTwoAttempts.take 2)
  have hdone : (start.after builtInTwoAttempts).instantiated = true := by decide +kernel
  obtain ⟨e, he⟩ : ∃ e, (instantiate (start.after (builtInTwoAttempts.take 2),
      spacesWithoutB)).1 = .error e := ⟨_, rfl⟩
  refine ⟨⟨e, he, by decide +kernel, ?_⟩, hdone, ?_⟩
  · intro hsame
    have hgiven := (hfirst.2.2.2 spacesWithoutB e he).2.mp hsame (⟨"A"⟩, ⟨"mip-A"⟩)
      (by decide +kernel) { id := ⟨"A"⟩ } (by decide +kernel) rfl
    cases hgiven
  · obtain ⟨σ, _, s, _, _, _, _, hhas⟩ := hall.2.2.1 hdone
    exact ⟨σ, _, s, hhas⟩

/-- A host has a context although its topology is not instantiated, and the attempt that has
failed has not left the topology as it was. -/
theorem failed_attempt_leaves_a_context :
    let t := ({ name := "pair" } : Topology).after (builtInTwoAttempts.take 2)
    let t' := (instantiate (t, spacesWithoutB)).2.1
    (instantiate (t, spacesWithoutB)).1.isOk = false ∧ t'.instantiated = false ∧
      (∃ h ∈ t'.hosts, h.context ≠ none) ∧ t'.hosts ≠ t.hosts := by
  decide +kernel

end Topology

end Testbed
