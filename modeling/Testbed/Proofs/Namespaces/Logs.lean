-- The logs of commands. Where output is kept, a command that is started
-- writes into a file in the log directory, which is named for its title and
-- emptied first. Looking at processes and switching links start nothing and
-- touch no file.
import Testbed.Proofs.Machine.Outputs
import Testbed.Proofs.Machine.Ways
import Testbed.Proofs.Namespaces.Release

namespace Testbed

namespace Namespaces

open Testbed.Action (Keeps)
open Machine (StartsNone)

/-! ## What starts nothing -/

theorem startsNone_ran (net : Namespaces) (runs : List Machine.ToolRun) :
    net.machine.StartsNone (net.ran runs).machine := .of_processes rfl rfl

/-- From one state to another one the test bed has started nothing. -/
def Startless (net net' : Namespaces) : Prop := net.machine.StartsNone net'.machine

instance : IsPreorder Namespaces Startless where
  refl net := .refl net.machine
  trans _ _ _ := .trans

theorem startless_isAlive (pid : Pid) (net : Namespaces) : Startless net (isAlive pid net).2 :=
  keeps_isAlive (fun net pid => Machine.startsNone_wait pid net.machine) pid net

/-- From one state to another one there were runs, and nothing else has changed. -/
def JustRan (net net' : Namespaces) : Prop := ∃ runs, net' = net.ran runs

instance : IsPreorder Namespaces JustRan where
  refl net := ⟨[], (ran_nil net).symm⟩
  trans := by
    rintro net _ _ ⟨runs, rfl⟩ ⟨more, rfl⟩
    exact ⟨runs ++ more, ran_ran net runs more⟩

theorem justRan_setLinkState (a b : HostId) (state : LinkState) :
    Keeps JustRan (setLinkState a b state) := by
  refine keeps_setLinkState (fun space argv net => ?_) a b state
  obtain ⟨runs, hran⟩ := tryTool_ran ("netns" :: "exec" :: space :: argv) net
  exact ⟨runs, congrArg Prod.snd hran⟩

/-! ## Opening a log -/

/-- The name of the log for a title. -/
def logName (title : String) : String := logStem title ++ ".log"

theorem logName_inj {title title' : String} :
    logName title = logName title' ↔ logStem title = logStem title' := by
  rw [logName, logName, ← String.toList_inj, ← String.toList_inj, String.toList_append,
    String.toList_append, List.append_cancel_right_eq]

theorem logName_ne_empty (title : String) : logName title ≠ "" := by
  simp [logName]

/-- The name of a log leads nowhere else. -/
theorem slash_notMem_logName (title : String) : '/' ∉ (logName title).toList := by
  rw [logName, logStem, String.toList_append, String.toList_ofList, List.mem_append, List.mem_map]
  rintro (⟨c, -, hc⟩ | hc)
  · split at hc
    · next halnum =>
      subst hc
      exact absurd halnum (by decide)
    · exact absurd hc (by decide)
  · exact absurd hc (by decide)

/-- The log for a title stands below the directory to which a path leads. -/
def LogFor (files : Machine.Files) (dir title : String) (log : Machine.Place) : Prop :=
  ∃ place, files.LeadsTo dir place ∧ log = place ++ [logName title]

variable {files files' : Machine.Files} {dir title title' : String} {log log' : Machine.Place}

theorem LogFor.wider (h : LogFor files dir title log) (wider : files.Wider files') :
    LogFor files' dir title log := by
  obtain ⟨place, hleads, hlog⟩ := h
  exact ⟨place, hleads.wider wider, hlog⟩

/-- Two titles have one log just when their stems are the same. -/
theorem LogFor.eq_iff (h : LogFor files dir title log) (h' : LogFor files dir title' log') :
    log = log' ↔ logStem title = logStem title' := by
  obtain ⟨place, hleads, rfl⟩ := h
  obtain ⟨place', hleads', rfl⟩ := h'
  rw [hleads.unique hleads', List.append_cancel_left_eq, List.cons.injEq, logName_inj]
  simp

/-- To open a log fails and changes no file, or the log is there afterwards and empty, and no other
file changes. -/
theorem openLog_dir {net : Namespaces} (hterminal : net.config.terminal = none)
    (hdir : net.config.logDir = some dir) (title : String) :
    ∃ r files, openLog title net = (r, { net with machine := { net.machine with files } }) ∧
      net.machine.files.Wider files ∧
      ((∃ e, r = .error e ∧ files.contents = net.machine.files.contents) ∨
        ∃ log, r = .ok (some log) ∧ LogFor files dir title log ∧
          files.contents = net.machine.files.contents.insert log []) := by
  obtain ⟨r, files, hopened, hwider, hcases⟩ := Machine.Files.createFile_below dir
    (slash_notMem_logName title) (logName_ne_empty title) net.machine.files
  have hopen : openLog title net =
      (r.map some, { net with machine := { net.machine with files } }) := by
    unfold openLog
    rw [Action.reads_bind, hterminal, hdir]
    dsimp only
    rw [← logName, map_eq_pure_bind, Action.bind_apply, Action.within, hopened]
    cases r <;> rfl
  refine ⟨_, files, hopen, hwider, ?_⟩
  rcases hcases with ⟨e, rfl, hsame⟩ | ⟨place, rfl, hleads, hnew⟩
  · exact Or.inl ⟨e, rfl, hsame⟩
  · exact Or.inr ⟨_, rfl, ⟨place, hleads, rfl⟩, hnew⟩

/-! ## Starting a command -/

theorem headD_commandLine (net : Namespaces) (name : String) (argv : List String) :
    (net.commandLine (inside name argv)).headD "" ≠ "testbed" := by
  unfold commandLine inside
  split <;> simp

/-- From one state to another one a command was not started: no process has changed. Its log may
have been emptied all the same; no other file has changed. -/
structure NotStarted (dir title : String) (net net' : Namespaces) : Prop where
  config : net'.config = net.config
  processes : net'.machine.processes = net.machine.processes
  wider : net.machine.files.Wider net'.machine.files
  contents : net'.machine.files.contents = net.machine.files.contents ∨
    ∃ log, LogFor net'.machine.files dir title log ∧
      net'.machine.files.contents = net.machine.files.contents.insert log []

/-- From one state to another one a command was started, with a log that was emptied before. No
other file has changed, and what else the test bed has started writes where it did. -/
structure Started (dir title : String) (argv : List String) (pid : Pid) (log : Machine.Place)
    (net net' : Namespaces) : Prop where
  config : net'.config = net.config
  logged : LogFor net'.machine.files dir title log
  wider : net.machine.files.Wider net'.machine.files
  contents : ∀ place, net'.machine.files.contents.get? place =
    if log = place then some (net.machine.opening argv) else net.machine.files.contents.get? place
  owns : net'.machine.OwnsNumber → net.machine.OwnsNumber
  new : net'.machine.OwnsNumber → ∀ p, net'.machine.child? pid = some p → p.output = some log
  old : net'.machine.OwnsNumber → ∀ other p', other ≠ pid → net'.machine.child? other = some p' →
    ∃ p, net.machine.child? other = some p ∧ p.output = p'.output

theorem NotStarted.refl (dir title : String) (net : Namespaces) : NotStarted dir title net net :=
  ⟨rfl, rfl, .refl _, Or.inl rfl⟩

/-- The two ways in which a command can go where output is kept. -/
theorem exec_dir {net : Namespaces} (hterminal : net.config.terminal = none)
    (hdir : net.config.logDir = some dir) (host : HostId) (request : ExecRequest) :
    (∃ e net', exec host request net = (.error e, net') ∧
      NotStarted dir request.title net net') ∨
    ∃ name pid log net', net.names.get? host = some name ∧ exec host request net = (.ok pid, net') ∧
      Started dir request.title (net.commandLine (inside name request.argv)) pid log net net' := by
  rcases hname : net.names.get? host with _ | name
  · exact Or.inl ⟨_, net, exec_stranger hname request, .refl dir request.title net⟩
  by_cases hargv : request.argv = []
  · exact Or.inl ⟨_, net, exec_empty hname hterminal hargv, .refl dir request.title net⟩
  have hshown : shownArgv net.config request = request.argv := by rw [shownArgv, hterminal]
  obtain ⟨r, files, hopen, hwider, hcases⟩ := openLog_dir hterminal hdir request.title
  obtain ⟨net₁, hnet₁⟩ : ∃ net₁, net₁ = { net with machine := { net.machine with files } } :=
    ⟨_, rfl⟩
  rw [← hnet₁] at hopen
  rw [exec_eq hname (by rwa [hshown]), hopen, hshown]
  rcases hcases with ⟨e, rfl, hsame⟩ | ⟨log, rfl, hlog, hnew⟩
  · subst hnet₁
    exact Or.inl ⟨_, _, rfl, rfl, rfl, hwider, Or.inl hsame⟩
  dsimp only
  rcases hstart : Machine.start (net₁.commandLine (inside name request.argv)) (some log)
    net₁.machine with ⟨e | pid, machine⟩
  · have hmachine := Machine.start_error hstart
    subst hmachine hnet₁
    exact Or.inl ⟨_, _, rfl, rfl, rfl, hwider, Or.inr ⟨log, hlog, hnew⟩⟩
  · have hstarts := Machine.starts_of_start (headD_commandLine net₁ name request.argv) hstart
    subst hnet₁
    have hfiles : machine.files = files.append log
        (net.machine.opening (net.commandLine (inside name request.argv))) := hstarts.files
    have happend : files.Wider machine.files := by
      rw [hfiles]
      exact ⟨List.Subset.refl _, rfl⟩
    refine Or.inr ⟨name, pid, log, _, rfl, rfl, rfl, hlog.wider happend, hwider.trans happend, ?_,
      fun h => (hstarts.owns h).1, hstarts.new, hstarts.old⟩
    intro place
    dsimp only
    rw [hfiles, Machine.Files.append, Table.get?_modify, hnew, Table.get?_insert]
    split <;> simp

/-- What becomes of a log when some command is started. It stays as it is, unless the stems of the
titles are the same; then it holds nothing but what the new process has written. -/
theorem contents_exec {net : Namespaces} (hterminal : net.config.terminal = none)
    (hdir : net.config.logDir = some dir) (hlog : LogFor net.machine.files dir title log)
    (host : HostId) (request : ExecRequest) :
    let contents := (exec host request net).2.machine.files.contents
    (logStem title ≠ logStem request.title →
      contents.get? log = net.machine.files.contents.get? log) ∧
    ∀ pid, (exec host request net).1 = .ok pid → logStem title = logStem request.title →
      ∃ name, net.names.get? host = some name ∧ contents.get? log =
        some (net.machine.opening (net.commandLine (inside name request.argv))) := by
  rcases exec_dir hterminal hdir host request with
    ⟨e, net', hexec, hnot⟩ | ⟨name, pid, log', net', hname, hexec, hstarted⟩
  · rw [hexec]
    refine ⟨?_, fun pid hok => nomatch hok⟩
    intro hstem
    rcases hnot.contents with hsame | ⟨log', hlog', hnew⟩
    · exact congrArg (·.get? log) hsame
    · have hother : log' ≠ log := fun heq =>
        hstem ((hlog.wider hnot.wider).eq_iff hlog' |>.mp heq.symm)
      dsimp only
      rw [hnew, Table.get?_insert, if_neg hother]
  · rw [hexec]
    have hiff := hstarted.logged.eq_iff (hlog.wider hstarted.wider)
    dsimp only
    rw [hstarted.contents]
    refine ⟨?_, ?_⟩
    · intro hstem
      exact if_neg fun heq => hstem (hiff.mp heq).symm
    · intro _ _ hstem
      exact ⟨name, hname, if_pos (hiff.mpr hstem.symm)⟩

end Namespaces

end Testbed
