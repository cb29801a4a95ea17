-- Reading the log of the simulator: the commands that were started, the
-- processes that were to be killed, and how the link of a pair was switched.
-- Each call of the simulator is described by what it adds to these three
-- lists and by what it does to the tables.
import Testbed.Simulator
import Testbed.Supervisor

namespace Testbed.Simulator

/-! ## The three lists -/

/-- The command that a call has started. -/
def Call.started? : Call → Option (HostId × List String)
  | ⟨_, .exec host argv, true⟩ => some (host, argv)
  | _ => none

/-- The process that a call was to kill, whether it did or not. -/
def Call.killed? : Call → Option Pid
  | ⟨_, .kill pid, _⟩ => some pid
  | _ => none

/-- The state that a call has given to the link of a pair. -/
def Call.switched? (pair : HostPair) : Call → Option LinkState
  | ⟨_, .setLink a b state, true⟩ => if HostPair.of a b = pair then some state else none
  | _ => none

/-- The commands that were started, oldest first. -/
def started (s : Simulator) : List (HostId × List String) := s.calls.filterMap Call.started?

/-- The processes that were to be killed, oldest call first. -/
def killed (s : Simulator) : List Pid := s.calls.filterMap Call.killed?

/-- The states that the link of a pair was given, oldest first. -/
def switches (s : Simulator) (pair : HostPair) : List LinkState :=
  s.calls.filterMap (Call.switched? pair)

/-- The number of the process that was started as the `n`-th one, counted from zero. Numbers
are words of thirty-two bits: after the largest one comes zero. -/
def pidOf (first : Pid) (n : Nat) : Pid := first + UInt32.ofNat n

theorem pidOf_zero (first : Pid) : pidOf first 0 = first := by
  simp [pidOf]

theorem pidOf_succ (first : Pid) (n : Nat) : pidOf first (n + 1) = pidOf first n + 1 := by
  unfold pidOf
  rw [UInt32.ofNat_add, UInt32.add_assoc]
  rfl

theorem pidOf_pidOf (first : Pid) (m n : Nat) : pidOf (pidOf first m) n = pidOf first (m + n) := by
  unfold pidOf
  rw [UInt32.ofNat_add, UInt32.add_assoc]

/-- As long as the numbers do not run out, no number is given out twice. -/
theorem pidOf_inj (first : Pid) {m n : Nat} (hm : m < UInt32.size) (hn : n < UInt32.size)
    (h : pidOf first m = pidOf first n) : m = n := by
  have h := (UInt32.add_right_inj first).mp h
  have h := congrArg UInt32.toNat h
  rwa [UInt32.toNat_ofNat', UInt32.toNat_ofNat', Nat.mod_eq_of_lt hm, Nat.mod_eq_of_lt hn] at h

/-! ## What was written down -/

theorem started_record (s : Simulator) (op : Op) (ok : Bool) :
    (s.record op ok).started = s.started ++ (Call.started? ⟨s.clock.now, op, ok⟩).toList := by
  unfold started record
  rw [List.filterMap_append]
  cases h : Call.started? ⟨s.clock.now, op, ok⟩ <;> simp [h]

theorem killed_record (s : Simulator) (op : Op) (ok : Bool) :
    (s.record op ok).killed = s.killed ++ (Call.killed? ⟨s.clock.now, op, ok⟩).toList := by
  unfold killed record
  rw [List.filterMap_append]
  cases h : Call.killed? ⟨s.clock.now, op, ok⟩ <;> simp [h]

theorem switches_record (s : Simulator) (op : Op) (ok : Bool) (pair : HostPair) :
    (s.record op ok).switches pair =
      s.switches pair ++ (Call.switched? pair ⟨s.clock.now, op, ok⟩).toList := by
  unfold switches record
  rw [List.filterMap_append]
  cases h : Call.switched? pair ⟨s.clock.now, op, ok⟩ <;> simp [h]

/-! ## Starting a command -/

/-- The simulator after a command has started on a host. -/
def launch (s : Simulator) (host : HostId) (request : ExecRequest) : Simulator :=
  { s with
    nextPid := s.nextPid + 1
    processes := s.processes.insert s.nextPid
      { host, argv := request.argv, title := request.title } }.record
    (.exec host request.argv) true

/-- Why a command does not start on a host. -/
def execRefusal? (s : Simulator) (host : HostId) (request : ExecRequest) : Option SubstrateError :=
  if !s.hosts.contains host then some (.unknownHost host)
  else if host ∈ s.failingExec || request.argv.isEmpty then some (.rejected (.exec host) .injected)
  else none

theorem exec_refused {s : Simulator} {host : HostId} {request : ExecRequest} {e : SubstrateError}
    (h : s.execRefusal? host request = some e) :
    exec host request s = (.error e, s.record (.exec host request.argv) false) := by
  unfold execRefusal? at h
  unfold exec refuse
  split at h
  · cases h
    simp_all
  · split at h
    · cases h
      simp_all
    · cases h

theorem exec_started {s : Simulator} {host : HostId} {request : ExecRequest}
    (h : s.execRefusal? host request = none) :
    exec host request s = (.ok s.nextPid, s.launch host request) := by
  unfold execRefusal? at h
  unfold exec launch
  split at h
  · cases h
  · split at h
    · cases h
    · simp_all

@[simp]
theorem started_launch (s : Simulator) (host : HostId) (request : ExecRequest) :
    (s.launch host request).started = s.started ++ [(host, request.argv)] := by
  unfold launch
  rw [started_record]
  simp [Call.started?, started]

@[simp]
theorem killed_launch (s : Simulator) (host : HostId) (request : ExecRequest) :
    (s.launch host request).killed = s.killed := by
  unfold launch
  rw [killed_record]
  simp [Call.killed?, killed]

@[simp]
theorem switches_launch (s : Simulator) (host : HostId) (request : ExecRequest)
    (pair : HostPair) : (s.launch host request).switches pair = s.switches pair := by
  unfold launch
  rw [switches_record]
  simp [Call.switched?, switches]

/-! ## Switching a link -/

/-- The simulator after the link between two hosts has been switched. -/
def switch (s : Simulator) (a b : HostId) (state : LinkState) : Simulator :=
  { s with links := s.links.insert (.of a b) state }.record (.setLink a b state) true

/-- Why the link between two hosts cannot be switched. -/
def switchRefusal? (s : Simulator) (a b : HostId) (state : LinkState) : Option SubstrateError :=
  if HostPair.of a b ∈ s.failingLinks then some (.rejected (.setLink a b state) .injected)
  else if !s.links.contains (.of a b) then some (.rejected (.setLink a b state) .noSuchLink)
  else none

theorem setLinkState_refused {s : Simulator} {a b : HostId} {state : LinkState}
    {e : SubstrateError} (h : s.switchRefusal? a b state = some e) :
    setLinkState a b state s = (.error e, s.record (.setLink a b state) false) := by
  unfold switchRefusal? at h
  unfold setLinkState refuse
  split at h
  · cases h
    simp_all
  · split at h
    · cases h
      simp_all
    · cases h

theorem setLinkState_switched {s : Simulator} {a b : HostId} {state : LinkState}
    (h : s.switchRefusal? a b state = none) :
    setLinkState a b state s = (.ok (), s.switch a b state) := by
  unfold switchRefusal? at h
  unfold setLinkState switch
  split at h
  · cases h
  · split at h
    · cases h
    · simp_all

@[simp]
theorem started_switch (s : Simulator) (a b : HostId) (state : LinkState) :
    (s.switch a b state).started = s.started := by
  unfold switch
  rw [started_record]
  simp [Call.started?, started]

@[simp]
theorem killed_switch (s : Simulator) (a b : HostId) (state : LinkState) :
    (s.switch a b state).killed = s.killed := by
  unfold switch
  rw [killed_record]
  simp [Call.killed?, killed]

theorem switches_switch (s : Simulator) (a b : HostId) (state : LinkState) (pair : HostPair) :
    (s.switch a b state).switches pair =
      s.switches pair ++ if HostPair.of a b = pair then [state] else [] := by
  unfold switch
  rw [switches_record]
  by_cases h : HostPair.of a b = pair <;> simp [Call.switched?, switches, h]

/-! ## Killing processes -/

/-- What is left of a table of processes when some of them are killed. -/
def felled (failing : List Pid) : List Pid → Table Pid Process → Table Pid Process
  | [], t => t
  | pid :: pids, t =>
    felled failing pids (if pid ∈ failing then t else t.modify pid ({ · with alive := false }))

theorem get?_felled (failing pids : List Pid) (t : Table Pid Process) (x : Pid) :
    (felled failing pids t).get? x =
      if x ∈ pids ∧ x ∉ failing then (t.get? x).map ({ · with alive := false })
      else t.get? x := by
  induction pids generalizing t with
  | nil => simp [felled]
  | cons pid pids ih =>
    unfold felled
    rw [ih]
    by_cases hfail : pid ∈ failing
    · by_cases hx : x = pid
      · subst hx; simp [hfail]
      · simp [hfail, hx]
    · by_cases hx : x = pid
      · subst hx
        have hmem : x ∈ x :: pids ∧ x ∉ failing := ⟨List.mem_cons_self, hfail⟩
        rw [if_neg hfail, Table.get?_modify, if_pos rfl, if_pos hmem]
        split
        · rw [Option.map_map]; rfl
        · rfl
      · simp [hfail, hx, Table.get?_modify, Ne.symm hx]

theorem distinct_felled (failing pids : List Pid) {t : Table Pid Process} (h : t.Distinct) :
    (felled failing pids t).Distinct := by
  induction pids generalizing t with
  | nil => exact h
  | cons pid pids ih =>
    unfold felled
    apply ih
    split
    · exact h
    · exact h.modify pid _

/-- Killing tracked processes writes down one call for each, in their order, and changes the
table of processes. Nothing else is touched. -/
theorem killEach_eq (hs : List ProcessHandle) (s : Simulator) :
    (Supervisor.killEach hs s).2 = { s with
      calls := s.calls ++ hs.map fun h =>
        { time := s.clock.now, op := .kill h.pid, ok := decide (h.pid ∉ s.failingKills) }
      processes := felled s.failingKills (hs.map (·.pid)) s.processes } := by
  induction hs generalizing s with
  | nil => simp [Supervisor.killEach, felled]
  | cons h hs ih =>
    unfold Supervisor.killEach
    by_cases hfail : h.pid ∈ s.failingKills
    · simp [Substrate.signalKill, signalKill, refuse, record, felled, hfail, ih]
    · simp [Substrate.signalKill, signalKill, markDead, record, felled, hfail, ih]

theorem started_killEach (hs : List ProcessHandle) (s : Simulator) :
    (Supervisor.killEach hs s).2.started = s.started := by
  rw [killEach_eq]
  simp [started, List.filterMap_map, Function.comp_def, Call.started?]

theorem killed_killEach (hs : List ProcessHandle) (s : Simulator) :
    (Supervisor.killEach hs s).2.killed = s.killed ++ hs.map (·.pid) := by
  rw [killEach_eq]
  simp [killed, List.filterMap_map, Function.comp_def, Call.killed?]

theorem switches_killEach (hs : List ProcessHandle) (s : Simulator) (pair : HostPair) :
    (Supervisor.killEach hs s).2.switches pair = s.switches pair := by
  rw [killEach_eq]
  simp [switches, List.filterMap_map, Function.comp_def, Call.switched?]

/-! ## Time -/

/-- Time moves the clock, if that follows it, and nothing else. -/
theorem elapse_eq (d : Duration) (s : Simulator) : elapse d s =
    { s with clock := if s.followsTime then s.clock.advance d else s.clock } := by
  unfold elapse
  split <;> rfl

/-! ## Processes that are alive -/

theorem isAlive_iff (s : Simulator) (pid : Pid) :
    s.isAlive pid = true ↔ ∃ p, s.process? pid = some p ∧ p.alive = true := by
  unfold isAlive
  cases s.process? pid <;> simp

theorem mem_alivePids {s : Simulator} (h : s.processes.Distinct) (pid : Pid) :
    pid ∈ s.alivePids ↔ s.isAlive pid = true := by
  rw [isAlive_iff]
  unfold alivePids process?
  simp only [List.mem_mergeSort, List.mem_filterMap, Prod.exists, Option.ite_none_right_eq_some,
    Option.some.injEq]
  constructor
  · rintro ⟨k, p, hrow, halive, rfl⟩
    exact ⟨p, (Table.mem_rows_iff h k p).mp hrow, halive⟩
  · rintro ⟨p, hget, halive⟩
    exact ⟨pid, p, (Table.mem_rows_iff h pid p).mpr hget, halive, rfl⟩

end Testbed.Simulator
