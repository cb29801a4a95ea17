-- The state of the simulator against its log. Whatever is asked of it and
-- whatever is done to it from outside, the hosts, the links and the processes
-- are those that the calls so far tell, together with the processes that have
-- ended by themselves. A call that was refused has changed nothing.
import Testbed.Proofs.Cuts
import Testbed.Proofs.Simulator.Outside
import Testbed.Proofs.Simulator.Processes

namespace Testbed.Simulator

/-! ## Events -/

/-- What can happen to a simulator. -/
inductive Event where
  | request (q : Request)
  | meddle (m : Meddling)
  | elapse (d : Duration)
deriving DecidableEq, Repr

def Event.apply : Event → Simulator → Simulator
  | request q, s => q.apply s
  | meddle m, s => m.apply s
  | elapse d, s => s.elapse d

/-- The simulator after some events. -/
def after (s : Simulator) (events : List Event) : Simulator :=
  events.foldl (fun s event => event.apply s) s

/-- What a request is written down as. -/
def Request.op : Request → Op
  | createHost host => .createHost host
  | createLink a b => .createLink a b
  | setLinkState a b state => .setLink a b state
  | exec host request => .exec host request.argv
  | signalKill pid => .kill pid

/-- The answer to a request is no error. -/
def Request.granted : Request → Simulator → Bool
  | createHost host, s => (s.createHost host).1.isOk
  | createLink a b, s => (s.createLink a b).1.isOk
  | setLinkState a b state, s => (s.setLinkState a b state).1.isOk
  | exec host request, s => (s.exec host request).1.isOk
  | signalKill pid, s => (s.signalKill pid).1.isOk

/-! ## The chronicle -/

/-- A call, or the end of a process that ended by itself. -/
inductive Entry where
  | call (c : Call)
  | exit (pid : Pid)
deriving DecidableEq, Repr

namespace Entry

def call? : Entry → Option Call
  | call c => some c
  | exit _ => none

/-- A command was started. -/
def Starts : Entry → Prop
  | call ⟨_, .exec _ _, true⟩ => True
  | _ => False

/-- A process was killed, or it ended by itself. -/
def Ends (pid : Pid) : Entry → Prop
  | call ⟨_, .kill killed, true⟩ => killed = pid
  | exit gone => gone = pid
  | _ => False

end Entry

/-- What an event adds to the chronicle. -/
def Event.entries : Event → Simulator → List Entry
  | request q, s => [.call ⟨s.clock.now, q.op, q.granted s⟩]
  | meddle (.exitProcess pid), _ => [.exit pid]
  | meddle _, _ => []
  | elapse _, _ => []

/-- The calls and the ends of processes that some events bring, in their order. -/
def chronicle (s : Simulator) : List Event → List Entry
  | [] => []
  | event :: events => event.entries s ++ (event.apply s).chronicle events

/-- The commands that were started, oldest first. -/
def startedIn (entries : List Entry) : List (HostId × List String) :=
  (entries.filterMap Entry.call?).filterMap Call.started?

/-- The state that a call has given to the link of a pair: a new link is up. -/
def Call.given? (pair : HostPair) : Call → Option LinkState
  | ⟨_, .createLink a b, true⟩ => if HostPair.of a b = pair then some .up else none
  | c => c.switched? pair

/-- The process was started at some point, and nothing since then has ended it. -/
def Lives (first : Pid) (entries : List Entry) (pid : Pid) : Prop :=
  ∃ before start later, entries = before ++ start :: later ∧ start.Starts ∧
    pid = pidOf first (startedIn before).length ∧ ∀ entry ∈ later, ¬ entry.Ends pid

/-- What the chronicle tells of the state. -/
structure Told (first : Pid) (entries : List Entry) (s : Simulator) : Prop where
  calls : s.calls = entries.filterMap Entry.call?
  hosts : ∀ host, s.hosts.contains host = true ↔ ∃ c ∈ s.calls, c.op = .createHost host
  links : ∀ x y, s.linkState? x y = (s.calls.filterMap (Call.given? (.of x y))).getLast?
  next : s.nextPid = pidOf first s.started.length
  booked : Booked first s.started s.processes
  alive : ∀ pid, s.isAlive pid = true ↔ Lives first entries pid

/-! ## What a request does -/

/-- What a granted request makes of the state, before it is written down. -/
inductive Grants (s : Simulator) : Op → Simulator → Prop
  | hosted (host : HostId) (context : HostContext) :
      Grants s (.createHost host) { s with hosts := s.hosts.insert host context }
  | linked (a b : HostId) :
      Grants s (.createLink a b) { s with links := s.links.insert (.of a b) .up }
  | switched (a b : HostId) (state : LinkState) :
      Grants s (.setLink a b state) { s with links := s.links.insert (.of a b) state }
  | launched (host : HostId) (argv : List String) (title : String) :
      Grants s (.exec host argv) { s with
        nextPid := s.nextPid + 1
        processes := s.processes.insert s.nextPid { host, argv, title } }
  | killed (pid : Pid) : Grants s (.kill pid) (s.markDead pid)

/-- A request is granted and does its work, or is refused; a new host never is. Both are written
down. -/
theorem request_cases (q : Request) (s : Simulator) :
    (q.granted s = true ∧ ∃ s', Grants s q.op s' ∧ q.apply s = s'.record q.op true) ∨
      (q.granted s = false ∧ (∀ host, q.op ≠ .createHost host) ∧
        q.apply s = s.record q.op false) := by
  cases q with
  | createHost host => exact Or.inl ⟨rfl, _, Grants.hosted host _, rfl⟩
  | createLink a b =>
    simp only [Request.granted, Request.apply, Request.op, createLink]
    split
    · exact Or.inr ⟨rfl, by simp, rfl⟩
    split
    · exact Or.inr ⟨rfl, by simp, rfl⟩
    · exact Or.inl ⟨rfl, _, Grants.linked a b, rfl⟩
  | setLinkState a b state =>
    rcases he : s.switchRefusal? a b state with _ | e
    · rw [Request.granted, Request.apply, Request.op, setLinkState_switched he]
      exact Or.inl ⟨rfl, _, Grants.switched a b state, rfl⟩
    · rw [Request.granted, Request.apply, Request.op, setLinkState_refused he]
      exact Or.inr ⟨rfl, by simp, rfl⟩
  | exec host request =>
    rcases he : s.execRefusal? host request with _ | e
    · rw [Request.granted, Request.apply, Request.op, exec_started he]
      exact Or.inl ⟨rfl, _, Grants.launched host request.argv request.title, rfl⟩
    · rw [Request.granted, Request.apply, Request.op, exec_refused he]
      exact Or.inr ⟨rfl, by simp, rfl⟩
  | signalKill pid =>
    simp only [Request.granted, Request.apply, Request.op, signalKill]
    split
    · exact Or.inr ⟨rfl, by simp, rfl⟩
    · exact Or.inl ⟨rfl, _, Grants.killed pid, rfl⟩

/-! ## Lives -/

/-- One more entry starts a process, or else those live that have lived and that it does not
end. -/
theorem lives_concat (first : Pid) (entries : List Entry) (entry : Entry) (pid : Pid) :
    Lives first (entries ++ [entry]) pid ↔ (Lives first entries pid ∧ ¬ entry.Ends pid) ∨
      (entry.Starts ∧ pid = pidOf first (startedIn entries).length) := by
  constructor
  · rintro ⟨before, start, later, heq, hstart, hpid, hlater⟩
    rcases concat_eq_append_cons.mp heq with ⟨rfl, rfl, -⟩ | ⟨later, rfl, rfl⟩
    · exact Or.inr ⟨hstart, hpid⟩
    · refine Or.inl ⟨⟨before, start, later, rfl, hstart, hpid, ?_⟩, hlater entry (by simp)⟩
      intro x hx
      exact hlater x (by simp [hx])
  · rintro (⟨⟨before, start, later, rfl, hstart, hpid, hlater⟩, hends⟩ | ⟨hstart, hpid⟩)
    · refine ⟨before, start, later ++ [entry], by simp, hstart, hpid, ?_⟩
      intro x hx
      rcases List.mem_append.mp hx with hx | hx
      · exact hlater x hx
      · rw [List.mem_singleton.mp hx]
        exact hends
    · exact ⟨entries, entry, [], rfl, hstart, hpid, by simp⟩

/-! ## What a granted request does to the tables -/

section Grants

variable {first : Pid} {s s' : Simulator} {op : Op}

theorem Grants.calls (h : Grants s op s') : s'.calls = s.calls := by
  cases h <;> rfl

theorem Grants.clock (h : Grants s op s') : s'.clock = s.clock := by
  cases h <;> rfl

theorem Grants.hosts (h : Grants s op s') (host : HostId) :
    s'.hosts.contains host = true ↔ s.hosts.contains host = true ∨ op = .createHost host := by
  cases h with
  | hosted created context =>
    rw [Table.contains_insert, Bool.or_eq_true, decide_eq_true_eq, Op.createHost.injEq, or_comm]
  | linked | switched | launched | killed => simp [markDead]

theorem Grants.links (h : Grants s op s') (pair : HostPair) (t : Duration) :
    s'.links.get? pair = (Call.given? pair ⟨t, op, true⟩).or (s.links.get? pair) := by
  cases h with
  | linked a b =>
    rw [Table.get?_insert, Call.given?]
    split <;> rfl
  | switched a b state =>
    rw [Table.get?_insert, Call.given?, Call.switched?]
    · split <;> rfl
    · simp
  | hosted | launched | killed => rfl

theorem Grants.booked (h : Grants s op s') (t : Duration)
    (hnext : s.nextPid = pidOf first s.started.length)
    (hbooked : Booked first s.started s.processes) :
    Booked first (s.started ++ (Call.started? ⟨t, op, true⟩).toList) s'.processes ∧
      s'.nextPid = pidOf first (s.started ++ (Call.started? ⟨t, op, true⟩).toList).length := by
  cases h with
  | launched host argv title =>
    rw [Call.started?, Option.toList_some, List.length_append, List.length_singleton, pidOf_succ,
      ← hnext]
    have hlaunched := hbooked.launched { host, argv, title }
    rw [← hnext] at hlaunched
    exact ⟨hlaunched, rfl⟩
  | killed pid =>
    have hfelled := hbooked.felled [] [pid]
    simp only [felled, List.not_mem_nil, if_false] at hfelled
    rw [Call.started?, Option.toList_none, List.append_nil]
    · exact ⟨hfelled, hnext⟩
    · simp
  | hosted | linked | switched =>
    simp only [Call.started?, Option.toList_none, List.append_nil]
    exact ⟨hbooked, hnext⟩

theorem isAlive_markDead (s : Simulator) (gone pid : Pid) :
    (s.markDead gone).isAlive pid = true ↔ s.isAlive pid = true ∧ gone ≠ pid := by
  unfold isAlive process? markDead
  rw [Table.get?_modify]
  by_cases h : gone = pid
  · cases s.processes.get? pid <;> simp [h]
  · simp [h]

theorem Grants.alive (h : Grants s op s') (pid : Pid) (t : Duration) :
    s'.isAlive pid = true ↔ (s.isAlive pid = true ∧ ¬ Entry.Ends pid (.call ⟨t, op, true⟩)) ∨
      (Entry.Starts (.call ⟨t, op, true⟩) ∧ pid = s.nextPid) := by
  cases h with
  | launched host argv title =>
    unfold isAlive process?
    rw [Table.get?_insert]
    by_cases hpid : s.nextPid = pid
    · simp [hpid, Entry.Starts]
    · simp [hpid, Ne.symm hpid, Entry.Ends]
  | killed gone =>
    rw [isAlive_markDead]
    simp [Entry.Ends, Entry.Starts]
  | hosted | linked | switched => simp [Entry.Ends, Entry.Starts, isAlive, process?]

end Grants

/-! ## What is told stays true -/

section Told

variable {first : Pid} {entries : List Entry} {s s' : Simulator}

theorem Told.started (h : Told first entries s) : s.started = startedIn entries := by
  rw [Simulator.started, h.calls, startedIn]

/-- Nothing has happened yet, and nothing is told. -/
theorem told_of_fresh (h : s.Fresh) : Told s.nextPid [] s where
  calls := h.calls
  hosts host := by simp [h.hosts, h.calls, Table.contains]
  links x y := by simp [linkState?, h.links, h.calls]
  next := by simp [Simulator.started, h.calls, pidOf_zero]
  booked := by
    rw [Simulator.started, h.calls, h.processes]
    exact Booked.empty s.nextPid
  alive pid := by simp [isAlive, process?, h.processes, Lives]

theorem Told.granted {op : Op} (h : Told first entries s) (hop : Grants s op s') :
    Told first (entries ++ [.call ⟨s.clock.now, op, true⟩]) (s'.record op true) := by
  have hcalls : (s'.record op true).calls = s.calls ++ [⟨s.clock.now, op, true⟩] := by
    rw [record, hop.calls, hop.clock]
  have hstarted : (s'.record op true).started =
      s.started ++ (Call.started? ⟨s.clock.now, op, true⟩).toList := by
    rw [started_record, hop.clock, Simulator.started, hop.calls, Simulator.started]
  obtain ⟨hbooked, hnext⟩ := hop.booked s.clock.now h.next h.booked
  constructor
  · rw [hcalls, h.calls, List.filterMap_append]
    rfl
  · intro host
    rw [hcalls]
    refine (hop.hosts host).trans ?_
    rw [h.hosts host]
    simp [or_and_right, exists_or]
  · intro x y
    rw [hcalls, List.filterMap_append, List.getLast?_append, ← h.links]
    refine (hop.links (.of x y) s.clock.now).trans ?_
    cases hg : Call.given? (.of x y) ⟨s.clock.now, op, true⟩ <;> simp [hg, linkState?]
  · rw [hstarted]
    exact hnext
  · rw [hstarted]
    exact hbooked
  · intro pid
    rw [lives_concat, ← h.alive, ← h.started, ← h.next]
    exact hop.alive pid s.clock.now

theorem Told.refused {op : Op} (h : Told first entries s) (hop : ∀ host, op ≠ .createHost host) :
    Told first (entries ++ [.call ⟨s.clock.now, op, false⟩]) (s.record op false) := by
  have hcalls : (s.record op false).calls = s.calls ++ [⟨s.clock.now, op, false⟩] := rfl
  have hstarted : (s.record op false).started = s.started := by
    rw [started_record]
    simp [Call.started?]
  have hgiven : ∀ pair, Call.given? pair ⟨s.clock.now, op, false⟩ = none := by
    intro pair
    cases op <;> rfl
  constructor
  · rw [hcalls, h.calls, List.filterMap_append]
    rfl
  · intro host
    rw [hcalls]
    refine (h.hosts host).trans ?_
    simp [or_and_right, exists_or, hop host]
  · intro x y
    rw [hcalls, List.filterMap_append, List.getLast?_append, ← h.links]
    simp [hgiven, linkState?, record]
  · rw [hstarted]
    exact h.next
  · rw [hstarted]
    exact h.booked
  · intro pid
    rw [lives_concat, ← h.alive]
    simp [Entry.Ends, Entry.Starts, isAlive, process?, record]

/-- A process ends by itself. -/
theorem Told.exited (h : Told first entries s) (pid : Pid) :
    Told first (entries ++ [.exit pid]) (s.exitProcess pid) := by
  have hfelled := h.booked.felled [] [pid]
  simp only [felled, List.not_mem_nil, if_false] at hfelled
  constructor
  · rw [List.filterMap_append]
    exact h.calls.trans (List.append_nil _).symm
  · exact h.hosts
  · exact h.links
  · exact h.next
  · exact hfelled
  · intro other
    rw [lives_concat, ← h.alive, exitProcess, isAlive_markDead]
    simp [Entry.Ends, Entry.Starts]

/-- Nothing is told of what only concerns the clock and the failures to come. -/
theorem Told.unheard (h : Told first entries s) (hcalls : s'.calls = s.calls)
    (hhosts : s'.hosts = s.hosts) (hlinks : s'.links = s.links)
    (hprocesses : s'.processes = s.processes) (hnext : s'.nextPid = s.nextPid) :
    Told first entries s' where
  calls := hcalls ▸ h.calls
  hosts := by
    rw [hcalls, hhosts]
    exact h.hosts
  links := by
    unfold linkState?
    rw [hcalls, hlinks]
    exact h.links
  next := by
    rw [Simulator.started, hcalls, hnext]
    exact h.next
  booked := by
    rw [Simulator.started, hcalls, hprocesses]
    exact h.booked
  alive := by
    unfold isAlive process?
    rw [hprocesses]
    exact h.alive

theorem Told.event (h : Told first entries s) (event : Event) :
    Told first (entries ++ event.entries s) (event.apply s) := by
  cases event with
  | request q =>
    rcases request_cases q s with ⟨hok, s', hgrants, hs'⟩ | ⟨hok, hop, hs'⟩
    · rw [Event.entries, Event.apply, hok, hs']
      exact h.granted hgrants
    · rw [Event.entries, Event.apply, hok, hs']
      exact h.refused hop
  | meddle m =>
    cases m with
    | exitProcess pid => exact h.exited pid
    | failExecOn | failLink | failKill | clearFailures =>
      rw [Event.entries, List.append_nil]
      · exact h.unheard rfl rfl rfl rfl rfl
      · simp
  | elapse d =>
    rw [Event.entries, List.append_nil, Event.apply, elapse_eq]
    exact h.unheard rfl rfl rfl rfl rfl

/-- What is told stays true, whatever happens. -/
theorem Told.after (h : Told first entries s) (events : List Event) :
    Told first (entries ++ s.chronicle events) (s.after events) := by
  induction events generalizing entries s with
  | nil =>
    rw [chronicle, List.append_nil]
    exact h
  | cons event events ih =>
    rw [chronicle, ← List.append_assoc]
    exact ih (h.event event)

end Told

/-- The state of a simulator is told by its log and by the processes that have ended by
themselves. Every request is written down once, with whether it was granted, and one that was
refused does nothing else. The hosts are those that were created, a link is as the last granted
call on its pair left it, the commands got the numbers in order, and the processes that are alive
are those that were started and that nothing has ended since. -/
theorem state_is_told_by_the_log {sim : Simulator} (h : sim.Fresh) (events : List Event) :
    let s := sim.after events
    let entries := sim.chronicle events
    s.calls = entries.filterMap Entry.call? ∧
    (∀ q : Request, (q.apply s).calls = s.calls ++ [⟨s.clock.now, q.op, q.granted s⟩] ∧
      (q.granted s = false → q.apply s =
        { s with calls := s.calls ++ [⟨s.clock.now, q.op, false⟩] })) ∧
    (∀ host, s.hosts.contains host = true ↔ ∃ c ∈ s.calls, c.op = .createHost host) ∧
    (∀ x y, s.linkState? x y = (s.calls.filterMap (Call.given? (.of x y))).getLast?) ∧
    (∀ host request pid, (s.exec host request).1 = .ok pid →
      pid = pidOf sim.nextPid s.started.length ∧
        (s.exec host request).2.started = s.started ++ [(host, request.argv)]) ∧
    (s.started.length ≤ UInt32.size → ∀ n host argv, s.started[n]? = some (host, argv) →
      ∃ p, s.process? (pidOf sim.nextPid n) = some p ∧ p.host = host ∧ p.argv = argv) ∧
    ∀ pid, s.isAlive pid = true ↔ Lives sim.nextPid entries pid := by
  intro s entries
  have htold : Told sim.nextPid entries s := (told_of_fresh h).after events
  refine ⟨htold.calls, ?_, htold.hosts, htold.links, ?_, ?_, htold.alive⟩
  · intro q
    rcases request_cases q s with ⟨hok, s', hgrants, hs'⟩ | ⟨hok, -, hs'⟩
    · rw [hok, hs', record, hgrants.calls, hgrants.clock]
      exact ⟨rfl, by simp⟩
    · rw [hok, hs']
      exact ⟨rfl, fun _ => rfl⟩
  · intro host request pid hpid
    rcases he : s.execRefusal? host request with _ | e
    · rw [exec_started he] at hpid ⊢
      cases hpid
      exact ⟨htold.next, started_launch s host request⟩
    · rw [exec_refused he] at hpid
      cases hpid
  · intro hsize n host argv hn
    exact htold.booked.recorded hsize n (host, argv) hn

/-- Process number zero is killed before there is one, and lives. The link is taken down, named in
the other order, and made again. -/
theorem state_is_told_by_the_log_of_a_link_made_twice :
    let events : List Event := [
      .request (.signalKill 0),
      .request (.createHost ⟨"A"⟩),
      .request (.createHost ⟨"B"⟩),
      .request (.createLink ⟨"A"⟩ ⟨"B"⟩),
      .request (.exec ⟨"A"⟩ { argv := ["server"], title := "" }),
      .request (.setLinkState ⟨"B"⟩ ⟨"A"⟩ .down),
      .request (.exec ⟨"C"⟩ { argv := ["client"], title := "" }),
      .meddle (.exitProcess 1),
      .request (.createLink ⟨"B"⟩ ⟨"A"⟩)]
    let s := blank.after events
    blank.Fresh ∧ s.linkState? ⟨"A"⟩ ⟨"B"⟩ = some .up ∧ s.hosts.contains ⟨"C"⟩ = false ∧
      Lives 0 (blank.chronicle events) 0 := by
  intro events s
  have hfresh : blank.Fresh := ⟨rfl, rfl, rfl, rfl⟩
  obtain ⟨-, -, hhosts, hlinks, -, -, halive⟩ := state_is_told_by_the_log hfresh events
  refine ⟨hfresh, (hlinks ⟨"A"⟩ ⟨"B"⟩).trans (by decide +kernel), ?_, ?_⟩
  · rw [Bool.eq_false_iff, ne_eq, hhosts]
    decide +kernel
  · exact (halive 0).mp (by decide +kernel)

end Testbed.Simulator
