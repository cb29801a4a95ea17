-- What the program does between its options and its exit code: it prepares a
-- configuration and a network, opens a session on it, and then either runs a
-- single line or talks to the user.
import Testbed.Namespaces
import Testbed.Program.Failure
import Testbed.Program.Options
import Testbed.Shell
import Testbed.Simulator

namespace Testbed.Program

/-- What is left of a run of the program. -/
structure Outcome where
  code : UInt8 := 0
  output : List UInt8 := []
  report : String := ""
deriving DecidableEq, Repr, Inhabited

/-- The run ends with the report of a failure. -/
def Outcome.ofFailure (f : Failure) : Outcome := { code := 1, report := f.text }

/-! ## Preparation -/

/-- The configuration from the file at a path, if it could be read. -/
def loadConfig (path : String) (content : Except OsError String) : Except ConfigError Config :=
  match content with
  | .error e => .error (.unreadable path e)
  | .ok text => Config.parse text

/-- The configuration that the options ask for: from the file, then the network, then the
directory of the daemons. -/
def configure (o : Options) (read : String → Except OsError String) : Except Failure Config := do
  let config ← match o.config with
    | none => .ok {}
    | some path =>
      (loadConfig path (read path)).mapError fun e =>
        { head := s!"failed to load config from {path}", causes := e.causes }
  let config ← match o.topology with
    | none => .ok config
    | some name =>
      (config.setTopology name).mapError fun e => { head := e.message, causes := e.causes.tail }
  .ok { config with binDir := o.binDir.getD config.binDir }

def networkOf (config : Config) : Except Failure Topology :=
  match Catalogue.topology? config.topology with
  | some topology => .ok topology
  | none => .error { head := s!"unknown topology '{config.topology}'" }

def openSession {σ : Type} [Substrate σ] (config : Config) (topology : Topology) (substrate : σ) :
    Except Failure (Session σ) :=
  match Session.start config topology substrate with
  | .ok session => .ok session
  | .error (e, _) => .error { head := "failed to build topology", causes := e.causes }

/-! ## A single line -/

variable {σ : Type} [Substrate σ]

/-- Runs a line in a session and shuts the session down. -/
def runLine (line : String) (session : Session σ) :
    Except CommandError CommandOutcome × Session σ :=
  let (result, _, session) := Registry.dispatch line (Registry.standard, session)
  (result, session.close)

/-- A message of a command is printed; an error is a failure of the run. -/
def Outcome.ofCommand (line : String) : Except CommandError CommandOutcome → Outcome
  | .ok (.goOn message) | .ok (.stop message) => { output := Text.Utf8.encode (message ++ "\n") }
  | .error e => .ofFailure { head := s!"scenario '{line}' failed", causes := e.causes }

/-! ## A conversation -/

/-- The lines of some bytes: each ends with a line feed, which a carriage return may precede. A
line that has not ended yet comes last. -/
def splitLines : List UInt8 → List (List UInt8) × List UInt8
  | [] => ([], [])
  | b :: bs =>
    match splitLines bs with
    | (lines, last) =>
      if b = 10 then ([] :: lines, last)
      else
        match lines with
        | [] => ([], b :: last)
        | line :: lines => ((b :: line) :: lines, last)

/-- A line without the carriage return at its end. -/
def withoutReturn (line : List UInt8) : List UInt8 :=
  if line.getLast? = some 13 then line.dropLast else line

/-- The lines as events, up to the first that is not UTF-8. -/
def lineEvents : List (List UInt8) → List ShellEvent
  | [] => []
  | line :: lines =>
    match Text.Utf8.decode? line with
    | none => []
    | some text => .line text :: lineEvents lines

/-- The events of an input that ends. A line that is not UTF-8 ends it early. -/
def inputEvents (input : List UInt8) : List ShellEvent :=
  let (lines, last) := splitLines input
  let unfinished := if last.isEmpty then [] else [last]
  lineEvents (lines.map withoutReturn ++ unfinished) ++ [.endOfInput]

/-- A session at its prompt, after the list of commands has been shown. -/
def greet (session : Session σ) (events : List ShellEvent) : Shell σ :=
  let registry : Registry σ := .standard
  let (_, sink) := Sink.write {} (Text.Utf8.encode (registry.helpText ++ "\n"))
  { registry, session, events, sink }

/-- The conversation from the first prompt to the end. -/
def converse (session : Session σ) (events : List ShellEvent) : Outcome :=
  let shell := greet session events
  { output := (shell.drive shell.turnsAllowed).2.sink.written }

/-! ## The whole run -/

def perform (o : Options) (config : Config) (topology : Topology) (substrate : σ)
    (events : List ShellEvent) : Outcome :=
  match openSession config topology substrate with
  | .error f => .ofFailure f
  | .ok session =>
    match o.run with
    | some line => .ofCommand line (runLine line session).1
    | none => converse session events

/-- A run with options on a machine, which holds the files and the namespaces. -/
def work (o : Options) (machine : Machine) (events : List ShellEvent) : Outcome :=
  match configure o machine.files.readText with
  | .error f => .ofFailure f
  | .ok config =>
    match networkOf config with
    | .error f => .ofFailure f
    | .ok topology =>
      match o.backend with
      | .simulator => perform o config topology ({} : Simulator) events
      | .namespaces =>
        perform o config topology ({ config := config.namespaces, machine } : Namespaces) events

end Testbed.Program
