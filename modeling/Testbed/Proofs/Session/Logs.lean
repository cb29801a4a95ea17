-- The logs of a session that keeps the output of its commands. A process that
-- runs writes into the log for its title. Titles are told apart by nothing but
-- their stems there: whenever a command is started, the log of every running
-- process with the same stem is emptied, and shared from then on, and no other
-- log changes.
import Testbed.Proofs.Namespaces.Logs
import Testbed.Proofs.Scenario.Step
import Testbed.Proofs.Session.DryRun

namespace Testbed

open Namespaces (LogFor logStem)

/-! ## The processes that run -/

/-- The last of the tracked processes that was given a number. -/
def Supervisor.lastWith? (sup : Supervisor) (pid : Pid) : Option ProcessHandle :=
  (sup.tracked.filter (·.pid = pid)).getLast?

theorem Supervisor.lastWith?_track (sup : Supervisor) (pid : Pid) (host : HostId)
    (request : ExecRequest) (now : Duration) (other : Pid) :
    (sup.track pid host request now).2.lastWith? other =
      if pid = other then some (sup.track pid host request now).1 else sup.lastWith? other := by
  unfold lastWith? track
  split
  · next h => simp [List.filter_append, h]
  · next h => simp [List.filter_append, h]

namespace Rig

/-- The process of a handle runs: its number belongs to a running process of the test bed, and was
not given to another one later. -/
def Runs (r : Rig Namespaces) (h : ProcessHandle) : Prop :=
  r.supervisor.lastWith? h.pid = some h ∧
    (r.substrate.machine.child? h.pid).any (·.running) = true

instance (r : Rig Namespaces) (h : ProcessHandle) : Decidable (r.Runs h) :=
  inferInstanceAs (Decidable (_ ∧ _))

/-- The file into which the process of a handle writes. -/
def logOf? (r : Rig Namespaces) (h : ProcessHandle) : Option Machine.Place :=
  (r.substrate.machine.child? h.pid).bind (·.output)

/-! ## Every process has the log for its title -/

/-- Output is kept below a directory, and each process of the test bed writes into the log for its
title, as long as the number of the test bed is its own. -/
structure Logged (dir : String) (r : Rig Namespaces) : Prop where
  terminal : r.substrate.config.terminal = none
  logDir : r.substrate.config.logDir = some dir
  written : r.substrate.machine.OwnsNumber → ∀ h p, r.supervisor.lastWith? h.pid = some h →
    r.substrate.machine.child? h.pid = some p →
    ∃ log, p.output = some log ∧ LogFor r.substrate.machine.files dir h.title log

namespace Logged

variable {dir : String} {r r' : Rig Namespaces}

/-- Where nothing is started the logs stay as they are. -/
theorem startsNone (h : Logged dir r) (supervisor : r'.supervisor = r.supervisor)
    (config : r'.substrate.config = r.substrate.config)
    (machine : r.substrate.machine.StartsNone r'.substrate.machine) : Logged dir r' := by
  refine ⟨config ▸ h.terminal, config ▸ h.logDir, ?_⟩
  intro howns handle p' hlast hp'
  obtain ⟨p, hp, hout⟩ := machine.children howns _ p' hp'
  rw [← hout, machine.files]
  exact h.written (machine.owns howns) handle p (supervisor ▸ hlast) hp

theorem notStarted (h : Logged dir r) {title : String} {net : Namespaces}
    (hnet : Namespaces.NotStarted dir title r.substrate net) :
    Logged dir { r with substrate := net } := by
  refine ⟨hnet.config ▸ h.terminal, hnet.config ▸ h.logDir, ?_⟩
  intro howns handle p hlast hp
  rw [Machine.OwnsNumber, hnet.processes] at howns
  rw [Machine.child?, hnet.processes] at hp
  obtain ⟨log, hout, hlog⟩ := h.written howns handle p hlast hp
  exact ⟨log, hout, hlog.wider hnet.wider⟩

/-- A process that is started writes into the log for its title. -/
theorem started (h : Logged dir r) {host : HostId} {request : ExecRequest} {argv : List String}
    {pid : Pid} {log : Machine.Place} {net : Namespaces}
    (hnet : Namespaces.Started dir request.title argv pid log r.substrate net) :
    Logged dir { r with
      supervisor := (r.supervisor.track pid host request r.clock.now).2, substrate := net } := by
  refine ⟨hnet.config ▸ h.terminal, hnet.config ▸ h.logDir, ?_⟩
  intro howns handle p' hlast hp'
  rw [Supervisor.lastWith?_track] at hlast
  split at hlast
  · next heq =>
    cases hlast
    exact ⟨log, hnet.new howns p' hp', hnet.logged⟩
  · next hne =>
    obtain ⟨p, hp, hout⟩ := hnet.old howns _ p' (Ne.symm hne) hp'
    obtain ⟨old, hold, hlog⟩ := h.written (hnet.owns howns) handle p hlast hp
    exact ⟨old, hout ▸ hold, hlog.wider hnet.wider⟩

/-- A process that runs has the log for its title. -/
theorem log_of_runs (h : Logged dir r) (owns : r.substrate.machine.OwnsNumber)
    {handle : ProcessHandle} (runs : r.Runs handle) : ∃ log, r.logOf? handle = some log ∧
      LogFor r.substrate.machine.files dir handle.title log := by
  obtain ⟨hlast, hrunning⟩ := runs
  rcases hchild : r.substrate.machine.child? handle.pid with _ | p
  · rw [hchild] at hrunning
    cases hrunning
  · obtain ⟨log, hout, hlog⟩ := h.written owns handle p hlast hchild
    exact ⟨log, by rw [logOf?, hchild, Option.bind_some, hout], hlog⟩

theorem switchLink (h : Logged dir r) (a b : HostId) (state : LinkState) :
    Logged dir (Rig.switchLink a b state r).2 := by
  have hset : ∀ (t : Topology) (l : Link) {result net},
      Namespaces.setLinkState l.a l.b state r.substrate = (result, net) →
      Logged dir { r with topology := t, substrate := net } := by
    intro t l result net hnet
    obtain ⟨runs, hran⟩ := Namespaces.justRan_setLinkState l.a l.b state r.substrate
    rw [hnet] at hran
    subst hran
    exact h.startsNone rfl rfl (Namespaces.startsNone_ran r.substrate runs)
  unfold Rig.switchLink Action.within
  rcases Topology.switchLink_cases r.topology r.substrate a b state with
    ⟨_, hc⟩ | ⟨_, l, _, ⟨_, hc⟩ | ⟨_, _, _, hl, hc⟩ | ⟨_, _, hl, hc⟩⟩ <;> rw [hc]
  · exact h
  · exact h
  · exact hset r.topology l hl
  · exact hset _ l hl

theorem perform (h : Logged dir r) (step : Step) : Logged dir (Rig.perform step r).2 := by
  cases step with
  | spawn host request =>
    rw [perform_spawn]
    rcases Namespaces.exec_dir h.terminal h.logDir host request with
      ⟨e, net, hexec, hnet⟩ | ⟨name, pid, log, net, -, hexec, hnet⟩
    · have hexec : Substrate.exec host request r.substrate = (.error e, net) := hexec
      rw [hexec]
      exact h.notStarted hnet
    · have hexec : Substrate.exec host request r.substrate = (.ok pid, net) := hexec
      rw [hexec]
      exact h.started hnet
  | wait d => exact h.startsNone rfl rfl (.refl _)
  | setLink a b state =>
    rw [Rig.perform, Action.bind_pure_state]
    exact h.switchLink a b state

end Logged

end Rig

namespace Session

/-! ## All that happens -/

/-- What is done with a session and what happens beside it. The steps of a scenario may also come
one by one, so that something else can happen between them. -/
inductive Happening where
  | deed (deed : Deed)
  | step (step : Step)
  | look
  | exit (pid : Pid)
  | choose (pids : List Pid)

def Happening.apply : Happening → Session Namespaces → Session Namespaces
  | deed d, s => (d.apply s).2
  | step st, s => (whenOpen (Rig.perform st) s).2
  | look, s => s.processStatus.2
  | exit pid, s => s.mapSubstrate (Namespaces.Event.exit pid).apply
  | choose pids, s => s.mapSubstrate (Namespaces.Event.choose pids).apply

/-- A session after all that happens, in order. -/
def through (happenings : List Happening) (s : Session Namespaces) : Session Namespaces :=
  happenings.foldl (fun s happening => happening.apply s) s

variable {dir : String} {s : Session Namespaces}

theorem logged_whenOpen {α : Type} {act : Action (Rig Namespaces) TestbedError α}
    (hact : ∀ r, Rig.Logged dir r → Rig.Logged dir (act r).2) (h : Rig.Logged dir s.rig) :
    Rig.Logged dir (whenOpen act s).2.rig := by
  unfold whenOpen
  split
  · exact h
  · exact hact s.rig h

theorem logged_run (scenario : Scenario) {r : Rig Namespaces} (h : Rig.Logged dir r) :
    Rig.Logged dir (Rig.run scenario r).2 := by
  rcases Rig.run_performs scenario r with hrun | hrun
  · rw [hrun]
    exact h
  · rw [hrun]
    exact Rig.performAll_keeps (fun step r hr => hr.perform step) scenario.steps r h

theorem config_killEach (hs : List ProcessHandle) (net : Namespaces) :
    (Supervisor.killEach hs net).2.config = net.config := by
  induction hs generalizing net with
  | nil => rfl
  | cons h hs ih =>
    have hkill := Namespaces.keeps_signalKill
      Namespaces.acrossEvents_spared.toAcrossProcesses h.pid net
    exact (ih _).trans hkill.config

theorem aliveEach_keeps (hs : List ProcessHandle) (net : Namespaces) :
    (Supervisor.aliveEach hs net).2.config = net.config ∧
      net.machine.StartsNone (Supervisor.aliveEach hs net).2.machine := by
  induction hs generalizing net with
  | nil => exact ⟨rfl, .refl net.machine⟩
  | cons h hs ih =>
    obtain ⟨hconfig, hmachine⟩ := ih (Namespaces.isAlive h.pid net).2
    have hlook := Namespaces.keeps_isAlive Namespaces.acrossEvents_spared.reap h.pid net
    exact ⟨hconfig.trans hlook.config, (Namespaces.startless_isAlive h.pid net).trans hmachine⟩

theorem logged_close (h : Rig.Logged dir s.rig) : Rig.Logged dir s.close.rig := by
  cases hs : s.shutDown with
  | true =>
    rw [close_of_shutDown hs]
    exact h
  | false =>
    rw [close_of_open hs]
    have hconfig := config_killEach s.rig.supervisor.tracked s.rig.substrate
    -- Nothing is tracked any more.
    refine ⟨hconfig ▸ h.terminal, hconfig ▸ h.logDir, ?_⟩
    intro _ handle p hlast
    cases hlast

theorem logged_apply (happening : Happening) (h : Rig.Logged dir s.rig) :
    Rig.Logged dir (happening.apply s).rig := by
  cases happening with
  | deed deed =>
    cases deed with
    | runScenario scenario => exact logged_whenOpen (fun r hr => logged_run scenario hr) h
    | switchLink a b state => exact logged_whenOpen (fun r hr => hr.switchLink a b state) h
    | shutdown => exact logged_close h
  | step step => exact logged_whenOpen (fun r hr => hr.perform step) h
  | look =>
    obtain ⟨hconfig, hmachine⟩ := aliveEach_keeps s.rig.supervisor.tracked s.rig.substrate
    exact h.startsNone rfl hconfig hmachine
  | exit pid => exact h.startsNone rfl rfl (Machine.startsNone_finish pid _)
  | choose pids => exact h.startsNone rfl rfl (.of_processes rfl rfl)

theorem logged_through (happenings : List Happening) (h : Rig.Logged dir s.rig) :
    Rig.Logged dir (through happenings s).rig := by
  unfold through
  induction happenings generalizing s with
  | nil => exact h
  | cons happening happenings ih => exact ih (logged_apply happening h)

/-! ## The beginning -/

theorem config_createLinks (links : List Link) (net : Namespaces) :
    (Topology.createLinks links net).2.config = net.config := by
  induction links generalizing net with
  | nil => rfl
  | cons l links ih =>
    have hlink : (Substrate.createLink l.a l.b l.params net).2.config = net.config :=
      (Namespaces.spared_createLink l.a l.b l.params net).config
    rw [Topology.createLinks, Action.bind_apply]
    split
    · next net₁ he =>
      rw [he] at hlink
      exact (ih net₁).trans hlink
    · next he =>
      rw [he] at hlink
      exact hlink

theorem config_instantiate {t t' : Topology} {net net' : Namespaces}
    (h : Topology.instantiate (t, net) = (.ok (), t', net')) : net'.config = net.config := by
  unfold Topology.instantiate at h
  dsimp only at h
  split at h
  · cases h
  split at h
  · cases h
  · next hosts net₁ hhosts =>
    have hlinks := config_createLinks t.links net₁
    split at h
    · cases h
    · next net₂ he =>
      rw [he] at hlinks
      cases h
      exact hlinks.trans (Namespaces.createHosts_ok hhosts).1

theorem logged_start {config : Config} {t : Topology} {net : Namespaces} {clock : Clock}
    (started : start config t net clock = .ok s) (hterminal : net.config.terminal = none)
    (hdir : net.config.logDir = some dir) : Rig.Logged dir s.rig := by
  unfold start Rig.instantiate Action.within at started
  rcases hup : Topology.instantiate (t, net) with ⟨e | u, t', net'⟩
  · rw [hup] at started
    cases started
  · rw [hup] at started
    cases started
    have hconfig := config_instantiate hup
    refine ⟨hconfig ▸ hterminal, hconfig ▸ hdir, ?_⟩
    -- Nothing is tracked yet.
    intro _ handle p hlast
    cases hlast

/-! ## What running processes share -/

/-- A session that keeps output, after all that has happened, as long as the number of the test bed
is its own. Every running process writes into the log for its title. Two of them share their log
just when their titles have the same stem. And when any command is started then, successfully or
not, no running process with another stem loses anything; but of the log of one with the same stem
a successful start leaves nothing except what the new process has written. -/
theorem logs_are_shared_by_stem {config : Config} {t : Topology} {net : Namespaces} {clock : Clock}
    (started : start config t net clock = .ok s) (hterminal : net.config.terminal = none)
    (hdir : net.config.logDir = some dir) {happenings : List Happening} {r : Rig Namespaces}
    (reached : (through happenings s).rig = r) (owns : r.substrate.machine.OwnsNumber) :
    (∀ h, r.Runs h → ∃ log, r.logOf? h = some log ∧
      LogFor r.substrate.machine.files dir h.title log) ∧
    (∀ h h', r.Runs h → r.Runs h' →
      (r.logOf? h = r.logOf? h' ↔ logStem h.title = logStem h'.title)) ∧
    ∀ host request h log, r.Runs h → r.logOf? h = some log →
      let exec := Namespaces.exec host request r.substrate
      let contents := exec.2.machine.files.contents
      (logStem h.title ≠ logStem request.title →
        contents.get? log = r.substrate.machine.files.contents.get? log) ∧
      ∀ pid, exec.1 = .ok pid → logStem h.title = logStem request.title →
        ∃ name, r.substrate.names.get? host = some name ∧ contents.get? log =
          some (r.substrate.machine.opening
            (r.substrate.commandLine (Namespaces.inside name request.argv))) := by
  have hlogged : Rig.Logged dir r :=
    reached ▸ logged_through happenings (logged_start started hterminal hdir)
  refine ⟨fun h runs => hlogged.log_of_runs owns runs, ?_, ?_⟩
  · intro h h' runs runs'
    obtain ⟨log, hlog, hfor⟩ := hlogged.log_of_runs owns runs
    obtain ⟨log', hlog', hfor'⟩ := hlogged.log_of_runs owns runs'
    rw [hlog, hlog', Option.some_inj]
    exact hfor.eq_iff hfor'
  · intro host request h log runs hlog
    obtain ⟨log', hlog', hfor⟩ := hlogged.log_of_runs owns runs
    obtain rfl : log = log' := Option.some.inj (hlog.symm.trans hlog')
    exact Namespaces.contents_exec hlogged.terminal hlogged.logDir hfor host request

/-- One host, not built yet. -/
def oneHost : Topology where
  name := "lab"
  hosts := [{ id := ⟨"A"⟩ }]
  hostIndex := ⟨[(⟨"A"⟩, 0)]⟩

/-- Namespaces that keep the output of commands. -/
def keeping : Namespaces := { config := { logDir := some "logs" } }

/-- A session on the two of them, from its start on. -/
def onOneHost : Session Namespaces :=
  match start {} oneHost keeping with
  | .ok s => s
  | .error _ => default

/-- A server and a client are started twice, and all four keep running. The servers share their
log, the first one does not share it with the first client, and it would be emptied once more by a
server with another title. -/
theorem logs_are_shared_by_stem_when_run_twice :
    let scenario : Scenario := { name := "pair", steps := [
      .spawn ⟨"A"⟩ { argv := ["server"], title := "Server [A]" },
      .spawn ⟨"A"⟩ { argv := ["client"], title := "client" }] }
    let r := (through [.deed (.runScenario scenario), .deed (.runScenario scenario)] onOneHost).rig
    let process := fun n => r.supervisor.tracked.getD n default
    let request : ExecRequest := { argv := ["third"], title := "Server (A)" }
    let log := ["work", "logs", "Server__A_.log"]
    start {} oneHost keeping = .ok onOneHost ∧ keeping.config.terminal = none ∧
    keeping.config.logDir = some "logs" ∧ r.substrate.machine.OwnsNumber ∧
    (∀ n < 4, r.Runs (process n)) ∧ r.logOf? (process 0) = some log ∧
    r.logOf? (process 0) = r.logOf? (process 2) ∧ r.logOf? (process 0) ≠ r.logOf? (process 1) ∧
    (Namespaces.exec ⟨"A"⟩ request r.substrate).1 = .ok 105 ∧
    (Namespaces.exec ⟨"A"⟩ request r.substrate).2.machine.files.contents.get? log =
      some (Text.Utf8.encode "third\n") := by
  intro scenario r process request log
  have started : start {} oneHost keeping = .ok onOneHost := rfl
  have reached : (through [.deed (.runScenario scenario), .deed (.runScenario scenario)]
      onOneHost).rig = r := rfl
  have owns : r.substrate.machine.OwnsNumber :=
    ⟨{ command := "testbed", parent := Machine.init }, by decide +kernel, rfl⟩
  have runs : ∀ n < 4, r.Runs (process n) := by decide +kernel
  have hlog : r.logOf? (process 0) = some log := by decide +kernel
  have hexec : (Namespaces.exec ⟨"A"⟩ request r.substrate).1 = .ok 105 := by decide +kernel
  obtain ⟨-, hshared, hexecs⟩ := logs_are_shared_by_stem started rfl rfl reached owns
  have hsame := (hshared _ _ (runs 0 (by omega)) (runs 2 (by omega))).mpr (by decide +kernel)
  have hother := mt (hshared _ _ (runs 0 (by omega)) (runs 1 (by omega))).mp (by decide +kernel)
  obtain ⟨-, hemptied⟩ := hexecs ⟨"A"⟩ request _ log (runs 0 (by omega)) hlog
  obtain ⟨name, hname, hcontents⟩ := hemptied 105 hexec (by decide +kernel)
  have hget : r.substrate.names.get? ⟨"A"⟩ = some "mip-A" := by decide +kernel
  obtain rfl : "mip-A" = name := Option.some.inj (hget.symm.trans hname)
  have hopening : r.substrate.machine.opening (r.substrate.commandLine
      (Namespaces.inside "mip-A" request.argv)) = Text.Utf8.encode "third\n" := by decide +kernel
  exact ⟨started, rfl, rfl, owns, runs, hlog, hsame, hother, hexec, hopening ▸ hcontents⟩

/-- Two processes with different titles that run at the same time write into one file, and what the
first of them had written is gone. -/
theorem running_processes_share_a_log :
    let first : Happening :=
      .step (.spawn ⟨"A"⟩ { argv := ["first"], title := "Server [A]" })
    let second : Happening :=
      .step (.spawn ⟨"A"⟩ { argv := ["second"], title := "Server (A)" })
    let r := (through [first, second] onOneHost).rig
    let process := fun n => r.supervisor.tracked.getD n default
    start {} oneHost keeping = .ok onOneHost ∧ (∀ n < 2, r.Runs (process n)) ∧
    (process 0).title ≠ (process 1).title ∧ r.logOf? (process 0) = r.logOf? (process 1) ∧
    (through [first] onOneHost).rig.substrate.machine.files.listing =
      [("logs/Server__A_.log", Text.Utf8.encode "first\n")] ∧
    r.substrate.machine.files.listing =
      [("logs/Server__A_.log", Text.Utf8.encode "second\n")] := by
  refine ⟨rfl, ?_⟩
  decide +kernel

end Session

end Testbed
