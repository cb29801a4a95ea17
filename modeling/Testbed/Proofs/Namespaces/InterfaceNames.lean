-- The interface names that hosts are given. Every time a host that has been
-- created is asked for a name it takes the next number, whether the name is
-- short enough or not, and a name tells its host and its number, whatever hosts
-- are called. So in all calls together no name is given twice.
import Testbed.Proofs.Cuts
import Testbed.Proofs.Namespaces.Release
import Testbed.Proofs.Text.Words

namespace Testbed

namespace Namespaces

open Testbed.Action (Keeps Same)

/-! ## What a name tells -/

/-- The digits stand behind the last dash, whatever the namespace is called. -/
theorem interfaceName_eq_iff {space other : String} {n m : Nat} :
    interfaceName space n = interfaceName other m ↔ space = other ∧ n = m := by
  constructor
  · intro h
    have hlist : ∀ (s : String) (k : Nat), (interfaceName s k).toList =
        s.toList ++ '-' :: ("eth".toList ++ k.repr.toList) := by
      intro s k
      have htext : interfaceName s k = s ++ "-eth" ++ k.repr := rfl
      rw [htext]
      simp
    have hnone : ∀ k : Nat, '-' ∉ "eth".toList ++ k.repr.toList := by
      intro k
      rw [List.mem_append, not_or]
      exact ⟨by decide, Text.notMem_repr (by decide) k⟩
    have hcut := congrArg String.toList h
    rw [hlist, hlist] at hcut
    obtain rfl := String.toList_inj.mp (append_cons_inj (hnone n) (hnone m) hcut).1
    exact ⟨rfl, interfaceName_inj h⟩
  · rintro ⟨rfl, rfl⟩
    rfl

/-! ## Asking for names -/

/-- A host was asked for its next interface name. -/
structure Ask where
  host : HostId
  answer : Except SubstrateError String
deriving DecidableEq

/-- The host had been created. -/
def Ask.known (ask : Ask) : Bool :=
  match ask.answer with
  | .error (.unknownHost _) => false
  | _ => true

/-- The names that a call asks for: creating a link asks its first host and, unless that fails,
its second one. -/
def Call.asks : Call → Namespaces → List Ask
  | .createLink a b _, net =>
    match nextInterface a net with
    | (.ok name, net') => [⟨a, .ok name⟩, ⟨b, (nextInterface b net').1⟩]
    | (.error e, _) => [⟨a, .error e⟩]
  | _, _ => []

/-- The names that some calls ask for, one after the other. -/
def asked : List Call → Namespaces → List Ask
  | [], _ => []
  | call :: calls, net => call.asks net ++ asked calls (call.apply net)

/-- How often a host has been asked since it was created. -/
def timesAsked (asks : List Ask) (host : HostId) : Nat :=
  asks.countP fun ask => ask.known && ask.host = host

/-- The names that were given. -/
def namesGiven (asks : List Ask) : List String := asks.filterMap fun ask => ask.answer.toOption

/-- What a host that has been created answers when it has used up some numbers: the name with the
next one, unless that is too long. -/
def answerTo (net : Namespaces) (host : HostId) (n : Nat) : Except SubstrateError String :=
  let name := interfaceName (net.spaceName host) n
  if name.utf8ByteSize ≤ maxInterfaceName then .ok name
  else .error (.rejected (.nameInterface host) (.interfaceNameTooLong name maxInterfaceName))

theorem known_answerTo (net : Namespaces) (host : HostId) (n : Nat) :
    Ask.known ⟨host, net.answerTo host n⟩ = true := by
  unfold answerTo
  by_cases hshort : (interfaceName (net.spaceName host) n).utf8ByteSize ≤ maxInterfaceName
  · simp only [hshort, if_true]
    rfl
  · simp only [hshort, if_false]
    rfl

theorem nextInterface_unknown {host : HostId} {net : Namespaces}
    (h : net.names.get? host = none) :
    nextInterface host net = (.error (.unknownHost host), net) := by
  have hspace : space host net = (.error (.unknownHost host), net) := by simp only [space, h]
  rw [nextInterface, Action.bind_error _ hspace]

/-- A host that has been created uses up a number with every name that it is asked for. -/
theorem nextInterface_known {host : HostId} {net : Namespaces}
    (h : net.names.get? host = some (net.spaceName host)) :
    nextInterface host net = (net.answerTo host (net.used host), net.counted host) := by
  by_cases hshort : (interfaceName (net.spaceName host) (net.used host)).utf8ByteSize ≤
      maxInterfaceName
  · rw [nextInterface_obeyed h hshort]
    simp only [answerTo, hshort, if_true]
  · rw [nextInterface, Action.bind_ok _ (space_of_name h), Action.reads_bind, Action.modify_bind]
    change (Action.require (decide ((interfaceName (net.spaceName host)
      (net.used host)).utf8ByteSize ≤ maxInterfaceName)) _ >>= _) _ = _
    rw [decide_eq_false hshort]
    simp only [answerTo, hshort, if_false]
    rfl

/-! ## Calls that ask for no name -/

/-- From one state to another one no interface name is used up. -/
abbrev Idle : Namespaces → Namespaces → Prop := Same (·.interfaceCounts)

theorem acrossLinks_idle : AcrossLinks Idle where
  inside _ _ _ := rfl
  move _ _ _ := rfl
  clear _ _ := rfl
  add _ _ _ := rfl
  note _ _ := rfl

theorem acrossEvents_idle : AcrossEvents Idle where
  signal _ _ := rfl
  kill _ _ := rfl
  files _ _ := rfl
  start _ _ _ _ := rfl
  book _ _ := rfl
  reap _ _ := rfl
  finish _ _ := rfl
  plan _ _ := rfl

theorem idle_createHost (host : HostId) : Keeps Idle (createHost host) :=
  keeps_createHost (fun _ _ => rfl) (fun _ _ => rfl) host

/-! ## Every name has the number of its turn -/

/-- A host that had been created answered with the number of times it had been asked before. -/
def Answered (start : Namespaces) (before : List Ask) (ask : Ask) : Prop :=
  ask.known = true → ask.answer = start.answerTo ask.host (timesAsked before ask.host)

theorem Answered.given {start : Namespaces} {before : List Ask} {ask : Ask}
    (h : Answered start before ask) {name : String} (hname : ask.answer = .ok name) :
    name = interfaceName (start.spaceName ask.host) (timesAsked before ask.host) ∧
      name.utf8ByteSize ≤ maxInterfaceName := by
  have hknown : ask.known = true := by rw [Ask.known, hname]
  have hanswer := (h hknown).symm.trans hname
  unfold answerTo at hanswer
  dsimp only at hanswer
  split at hanswer
  · next hshort =>
    cases hanswer
    exact ⟨rfl, hshort⟩
  · cases hanswer

/-- All of the asks were answered like that. -/
def InTurn (start : Namespaces) (asks : List Ask) : Prop :=
  ∀ before ask after, asks = before ++ ask :: after → Answered start before ask

theorem inTurn_nil (start : Namespaces) : InTurn start [] := by
  intro before ask after h
  simp at h

theorem inTurn_concat {start : Namespaces} {asks : List Ask} {last : Ask} :
    InTurn start (asks ++ [last]) ↔ InTurn start asks ∧ Answered start asks last := by
  constructor
  · intro h
    refine ⟨fun before ask after heq => ?_, h asks last [] rfl⟩
    exact h before ask (after ++ [last]) (by rw [heq]; simp)
  · rintro ⟨h, hlast⟩ before ask after heq
    rcases concat_eq_append_cons.mp heq with ⟨rfl, rfl, rfl⟩ | ⟨rest, rfl, hasks⟩
    · exact hlast
    · exact h before ask rest hasks

theorem timesAsked_concat (asks : List Ask) (last : Ask) (host : HostId) :
    timesAsked (asks ++ [last]) host =
      timesAsked asks host + if last.known = true ∧ last.host = host then 1 else 0 := by
  simp [timesAsked, List.countP_append, List.countP_singleton]

theorem namesGiven_concat (asks : List Ask) (last : Ask) :
    namesGiven (asks ++ [last]) = namesGiven asks ++ last.answer.toOption.toList := by
  rw [namesGiven, List.filterMap_append]
  cases h : last.answer.toOption <;> simp [h, namesGiven]

/-- A name that was given has a number below the next one of its host. -/
theorem InTurn.number_lt {start : Namespaces} {asks : List Ask} (h : InTurn start asks)
    {name : String} (hname : name ∈ namesGiven asks) :
    ∃ host, ∃ n < timesAsked asks host, name = interfaceName (start.spaceName host) n := by
  induction asks using List.reverseRecOn with
  | nil => cases hname
  | append_singleton asks last ih =>
    obtain ⟨hasks, hlast⟩ := inTurn_concat.mp h
    rw [namesGiven_concat, List.mem_append] at hname
    rcases hname with hname | hname
    · obtain ⟨host, n, hn, hname⟩ := ih hasks hname
      refine ⟨host, n, ?_, hname⟩
      rw [timesAsked_concat]
      omega
    · rcases hanswer : last.answer with e | given
      · rw [hanswer] at hname
        cases hname
      · rw [hanswer] at hname
        obtain rfl : name = given := List.mem_singleton.mp hname
        have hknown : last.known = true := by rw [Ask.known, hanswer]
        refine ⟨last.host, timesAsked asks last.host, ?_, (hlast.given hanswer).1⟩
        rw [timesAsked_concat, if_pos ⟨hknown, rfl⟩]
        exact Nat.lt_succ_self _

/-- No name is given twice. -/
theorem InTurn.nodup {start : Namespaces} {asks : List Ask} (h : InTurn start asks) :
    (namesGiven asks).Nodup := by
  induction asks using List.reverseRecOn with
  | nil => exact List.nodup_nil
  | append_singleton asks last ih =>
    obtain ⟨hasks, hlast⟩ := inTurn_concat.mp h
    rw [namesGiven_concat]
    refine List.nodup_append.mpr ⟨ih hasks, ?_, fun old hold name hname heq => ?_⟩
    · cases last.answer.toOption <;> simp
    subst heq
    rcases hanswer : last.answer with e | given
    · rw [hanswer] at hname
      cases hname
    · rw [hanswer] at hname
      obtain rfl : old = given := List.mem_singleton.mp hname
      -- The number of an old name is too low for the last one, whose host it tells.
      obtain ⟨host, n, hn, hnumber⟩ := hasks.number_lt hold
      obtain ⟨hspace, rfl⟩ := interfaceName_eq_iff.mp (hnumber.symm.trans (hlast.given hanswer).1)
      rw [spaceName_inj hspace] at hn
      exact Nat.lt_irrefl _ hn

/-! ## The count of every host -/

/-- After some asks every host has used up as many names as it was asked for. -/
structure Numbered (start : Namespaces) (asks : List Ask) (net : Namespaces) : Prop where
  config : net.config = start.config
  named : net.Named
  counted : ∀ host, net.used host = timesAsked asks host
  inTurn : InTurn start asks

theorem Spared.named {net net' : Namespaces} (h : Spared net net') (hnamed : net.Named) :
    net'.Named := by
  intro host name hname
  rw [h.names] at hname
  rw [h.spaceName]
  exact hnamed host name hname

namespace Numbered

variable {start net net' : Namespaces} {asks : List Ask}

theorem new (config : NamespaceConfig) (machine : Machine) :
    Numbered { config, machine } [] { config, machine } := by
  refine ⟨rfl, ?_, fun host => rfl, inTurn_nil _⟩
  intro host name h
  cases h

theorem moved (h : Numbered start asks net) (hconfig : net'.config = start.config)
    (hnamed : net'.Named) (hcounts : net'.interfaceCounts = net.interfaceCounts) :
    Numbered start asks net' := by
  refine ⟨hconfig, hnamed, fun host => ?_, h.inTurn⟩
  rw [used, hcounts]
  exact h.counted host

theorem spared (h : Numbered start asks net) (hs : Spared net net')
    (hcounts : net'.interfaceCounts = net.interfaceCounts) : Numbered start asks net' :=
  h.moved (hs.config.trans h.config) (hs.named h.named) hcounts

/-- A host answers with the next number if it has been created, and uses it up. -/
theorem ask (h : Numbered start asks net) (host : HostId) :
    Numbered start (asks ++ [⟨host, (nextInterface host net).1⟩]) (nextInterface host net).2 := by
  rcases hname : net.names.get? host with _ | name
  · rw [nextInterface_unknown hname]
    refine ⟨h.config, h.named, fun other => ?_, inTurn_concat.mpr ⟨h.inTurn, ?_⟩⟩
    · rw [timesAsked_concat, if_neg fun hknown => Bool.false_ne_true hknown.1, h.counted]
      rfl
    · intro hknown
      cases hknown
  · obtain rfl := h.named host name hname
    have hspace : net.spaceName host = start.spaceName host := by
      rw [Namespaces.spaceName, Namespaces.spaceName, h.config]
    have hanswer : net.answerTo host (net.used host) =
        start.answerTo host (timesAsked asks host) := by
      rw [answerTo, answerTo, hspace, h.counted]
    have hknown := known_answerTo start host (timesAsked asks host)
    rw [nextInterface_known hname, hanswer]
    refine ⟨h.config, h.named, fun other => ?_, inTurn_concat.mpr ⟨h.inTurn, fun _ => rfl⟩⟩
    rw [used_counted, timesAsked_concat, h.counted, h.counted]
    by_cases hother : host = other
    · rw [if_pos hother, if_pos ⟨hknown, hother⟩, hother]
    · rw [if_neg hother, if_neg fun hboth => hother hboth.2, Nat.add_zero]

theorem createLink (h : Numbered start asks net) (a b : HostId) (params : LinkParams) :
    Numbered start (asks ++ (Call.createLink a b params).asks net)
      (Namespaces.createLink a b params net).2 := by
  have hspared := spared_createLink a b params net
  have hfirst := h.ask a
  rw [createLink_eq, Call.asks]
  rw [createLink_eq] at hspared
  rcases hA : nextInterface a net with ⟨e | aName, net₁⟩
  · rw [hA] at hfirst
    rw [Action.bind_error _ hA]
    exact hfirst
  · rw [hA] at hfirst
    rw [Action.bind_ok _ hA] at hspared ⊢
    have hsecond := hfirst.ask b
    rw [List.append_assoc] at hsecond
    rcases hB : nextInterface b net₁ with ⟨e | bName, net₂⟩
    · rw [hB] at hsecond
      rw [Action.bind_error _ hB]
      simpa [hB] using hsecond
    · rw [hB] at hsecond
      rw [Action.bind_ok _ hB] at hspared ⊢
      have hlaid := hsecond.moved (hspared.config.trans h.config) (hspared.named h.named)
        (keeps_layPair acrossLinks_idle a b aName bName params net₂)
      simpa [hB] using hlaid

theorem call (h : Numbered start asks net) (call : Call) :
    Numbered start (asks ++ call.asks net) (call.apply net) := by
  have hnone : ∀ net', Numbered start asks net' → Numbered start (asks ++ []) net' := by
    intro net' h'
    rwa [List.append_nil]
  cases call with
  | createHost host =>
    obtain ⟨hconfig, hnamed, -⟩ := names_createHost h.named host
    exact hnone _ (h.moved (hconfig.trans h.config) hnamed (idle_createHost host net))
  | createLink a b params => exact h.createLink a b params
  | setLinkState a b state =>
    exact hnone _ (h.spared (spared_setLinkState a b state net)
      (keeps_setLinkState acrossLinks_idle.inside a b state net))
  | process event =>
    exact hnone _ (h.spared (keeps_event acrossEvents_spared event net)
      (keeps_event acrossEvents_idle event net))

theorem called (h : Numbered start asks net) (calls : List Call) :
    Numbered start (asks ++ asked calls net) (called calls net) := by
  induction calls generalizing asks net with
  | nil =>
    rw [asked, List.append_nil]
    exact h
  | cons call calls ih =>
    rw [asked, ← List.append_assoc]
    exact ih (h.call call)

end Numbered

/-- Whatever is called on namespaces, and whichever calls fail, no interface name is given twice.
Every host has used up as many numbers as it was asked for names since it was created; when it was
asked it answered with the number of times it had been asked before, and a name that was given has
this number at its end and is no longer than an interface name may be. -/
theorem interface_names_never_collide (config : NamespaceConfig) (machine : Machine)
    (calls : List Call) :
    let start : Namespaces := { config, machine }
    let asks := asked calls start
    (namesGiven asks).Nodup ∧
      (∀ host, (called calls start).used host = timesAsked asks host) ∧
      ∀ before ask after, asks = before ++ ask :: after →
        (ask.known = true →
          ask.answer = start.answerTo ask.host (timesAsked before ask.host)) ∧
        ∀ name, ask.answer = .ok name →
          name = interfaceName (start.spaceName ask.host) (timesAsked before ask.host) ∧
            name.utf8ByteSize ≤ 15 := by
  intro start asks
  have h : Numbered start asks (called calls start) := (Numbered.new config machine).called calls
  refine ⟨h.inTurn.nodup, h.counted, ?_⟩
  intro before ask after heq
  have hanswered := h.inTurn before ask after heq
  exact ⟨hanswered, fun name hname => hanswered.given hname⟩

/-- A machine on which no pair of interfaces can be made. -/
def pairless : Machine where
  answer _ argv := if "veth" ∈ argv then some { exit := 1 } else none

/-- Links that fail: of a host with itself, with a host that was never created, two with a host
whose name is too long, and one with a host that is called like an interface of the first. The long
name has used up a number each time, and the names that were given are different. -/
theorem interface_names_never_collide_with_lookalikes :
    let start : Namespaces := { config := { namePrefix := "m" }, machine := pairless }
    let x : HostId := ⟨"x"⟩
    let y : HostId := ⟨"y"⟩
    let long : HostId := ⟨"lengthier"⟩
    let lookalike : HostId := ⟨"x-eth1"⟩
    let tooLong := fun name => Refusal.interfaceNameTooLong name 15
    let before : List Ask := [⟨x, .ok "m-x-eth0"⟩, ⟨x, .ok "m-x-eth1"⟩, ⟨x, .ok "m-x-eth2"⟩,
      ⟨y, .error (.unknownHost y)⟩,
      ⟨long, .error (.rejected (.nameInterface long) (tooLong "m-lengthier-eth0"))⟩]
    let again : Ask :=
      ⟨long, .error (.rejected (.nameInterface long) (tooLong "m-lengthier-eth1"))⟩
    let other : Ask := ⟨lookalike, .ok "m-x-eth1-eth0"⟩
    let last : Ask := ⟨x, .ok "m-x-eth3"⟩
    let asks := asked [.createHost x, .createHost long, .createHost lookalike, .createLink x x {},
      .createLink x y {}, .createLink long x {}, .createLink long x {},
      .createLink lookalike x {}] start
    asks = before ++ again :: [other, last] ∧ again.known = true ∧
      again.answer = start.answerTo long 1 ∧
      last.answer = .ok "m-x-eth3" ∧ "m-x-eth3" = interfaceName (start.spaceName x) 3 ∧
      namesGiven asks = ["m-x-eth0", "m-x-eth1", "m-x-eth2", "m-x-eth1-eth0", "m-x-eth3"] ∧
      (namesGiven asks).Nodup := by
  intro start x y long lookalike tooLong before again other last asks
  have hasks : asks = before ++ again :: [other, last] := by decide +kernel
  have hlast : asks = (before ++ [again, other]) ++ last :: [] := hasks
  obtain ⟨hdistinct, -, hturns⟩ := interface_names_never_collide { namePrefix := "m" } pairless _
  have hagain := (hturns before again _ hasks).1 rfl
  have hnumber := ((hturns _ last [] hlast).2 "m-x-eth3" rfl).1
  refine ⟨hasks, rfl, hagain, rfl, hnumber, ?_, hdistinct⟩
  rw [hasks]
  decide

end Namespaces

end Testbed
