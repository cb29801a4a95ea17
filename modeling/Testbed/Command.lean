-- The commands of the control surface: a registry of named handlers, the
-- handlers it comes with, and how a typed line finds its handler.
import Testbed.Session

namespace Testbed

/-- What the control surface does after a command. -/
inductive CommandOutcome where
  | goOn (message : String)
  | stop (message : String)
deriving DecidableEq, Repr

inductive CommandError where
  | unknown (name : String)
  | usage (text : String)
  | testbed (cause : TestbedError)
deriving Repr

namespace CommandError

def message : CommandError → String
  | unknown name => s!"unknown command '{name}' (try 'help')"
  | usage text => s!"usage: {text}"
  | testbed cause => cause.message

end CommandError

/-- A call of a command: the text after its name, and the session as the command met it. -/
structure CommandCall (σ : Type) where
  args : String
  session : Session σ

/-- A handler gets its earlier calls, oldest first, and the text after its name. So it may remember
whatever it has seen. -/
abbrev Handler (σ : Type) : Type :=
  List (CommandCall σ) → String → Action (Session σ) CommandError CommandOutcome

structure Command (σ : Type) where
  help : String
  handler : Handler σ
  /-- The calls so far, oldest first. -/
  calls : List (CommandCall σ) := []

/-- The command after one more call. -/
def Command.called {σ : Type} (command : Command σ) (args : String) (s : Session σ) : Command σ :=
  { command with calls := command.calls ++ [{ args, session := s }] }

structure Registry (σ : Type) where
  commands : Table String (Command σ) := ∅

namespace Registry

variable {σ : Type}

/-! ## Entering and looking up -/

/-- Adds a command, or replaces the one with its name. -/
def register (r : Registry σ) (name help : String) (handler : Handler σ) : Registry σ :=
  ⟨r.commands.insert name { help, handler }⟩

def contains (r : Registry σ) (name : String) : Bool := r.commands.contains name

/-- The names in increasing order. -/
def names (r : Registry σ) : List String := r.commands.keys.mergeSort fun a b => a ≤ b

/-! ## Help -/

/-- A text with blanks after it, up to a number of characters. -/
def padTo (width : Nat) (s : String) : String :=
  s ++ String.ofList (List.replicate (width - s.length) ' ')

/-- The width of the column of names: the bytes of the longest. -/
def nameWidth (r : Registry σ) : Nat := (r.names.map String.utf8ByteSize).foldl max 0

/-- One line for every command, and one for the help itself. -/
def helpText (r : Registry σ) : String :=
  let row (name help : String) : String := "  " ++ padTo r.nameWidth name ++ "  " ++ help
  let helpOf (name : String) : String := ((r.commands.get? name).map (·.help)).getD ""
  Text.join "\n" (["commands:"] ++ r.names.map (fun name => row name (helpOf name)) ++
    [row "help" "show this list"])

/-! ## Dispatch -/

/-- The words that always show the help. -/
def isHelp (word : String) : Bool := word = "help" || word = "?"

/-- Runs a typed line. Its first word names the command, and the handler gets the trimmed
text after it. A line of blanks does nothing. -/
def dispatch (line : String) : Action (Registry σ × Session σ) CommandError CommandOutcome :=
  fun (r, s) =>
    let (word, args) := Text.cutWord (Text.trim line)
    if word.isEmpty then (.ok (.goOn ""), r, s)
    else if isHelp word then (.ok (.goOn r.helpText), r, s)
    else
      match r.commands.get? word with
      | none => (.error (.unknown word), r, s)
      | some command =>
        let (result, s') := command.handler command.calls args s
        (result, ⟨r.commands.insert word (command.called args s)⟩, s')

/-! ## The commands it comes with -/

variable [Substrate σ]

/-- Runs a scenario of the catalogue and counts what it did. -/
def runCommand (name : String) : Handler σ := fun _ _ s =>
  match s.runCatalogue name with
  | (none, s) => (.error (.unknown name), s)
  | (some (.error e), s) => (.error (.testbed e), s)
  | (some (.ok report), s) =>
    (.ok (.goOn (s!"{report.scenario}: {report.stepsExecuted} steps, " ++
      s!"{report.spawned.length} processes started")), s)

def leaveCommand : Handler σ := fun _ _ s =>
  match s.shutdown with
  | (some report, s) => (.ok (.stop report.summary), s)
  | (none, s) => (.ok (.stop "already shut down"), s)

def processRow (row : ProcessHandle × Bool) : String :=
  let state := if row.2 then "running" else "exited"
  s!"  {row.1.id.text} pid {row.1.pid} on {row.1.host.name} [{state}] {row.1.title}"

def linkRow (l : Link) : String := s!"  {l.a.name}-{l.b.name} {l.state.text}"

def statusCommand : Handler σ := fun _ _ s =>
  let (rows, s) := s.processStatus
  let links := s.rig.topology.links
  (.ok (.goOn (Text.join "\n"
    ([s!"processes ({rows.length}):"] ++ rows.map processRow ++
      [s!"links ({links.length}):"] ++ links.map linkRow))), s)

def linkUsage : String := "link <host> <host> up|down"

/-- What switching a link came to, with the hosts as they were typed. -/
def transitionText (a b : String) : Transition → String
  | .changed before after => s!"link {a}-{b}: {before.text} -> {after.text}"
  | .unchanged state => s!"link {a}-{b} already {state.text}"

def linkCommand : Handler σ := fun _ args s =>
  match Text.words args with
  | [a, b, word] =>
    match LinkState.parse word with
    | .error _ => (.error (.usage linkUsage), s)
    | .ok state =>
      match Session.switchLink ⟨a⟩ ⟨b⟩ state s with
      | (.error e, s) => (.error (.testbed e), s)
      | (.ok t, s) => (.ok (.goOn (transitionText a b t)), s)
  | _ => (.error (.usage linkUsage), s)

def runHelp (name : String) : String :=
  match Catalogue.scenarioTopology? name with
  | some topology => s!"run scenario '{name}' (topology {topology})"
  | none => s!"run scenario '{name}'"

def leaveWords : List String := ["EOF", "exit", "quit"]

/-- A command for every scenario of the catalogue, and those for leaving, for the status and
for links. -/
def standard : Registry σ :=
  let withScenarios : Registry σ := Catalogue.scenarioNames.foldl
    (fun r name => register r name (runHelp name) (runCommand name)) {}
  let withLeaving := leaveWords.foldl
    (fun r name => register r name "kill all spawned processes and exit" leaveCommand)
    withScenarios
  (withLeaving.register "status" "list spawned processes and link states" statusCommand).register
    "link" linkUsage linkCommand

end Registry

end Testbed
