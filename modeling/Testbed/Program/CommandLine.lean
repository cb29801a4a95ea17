-- The command line of the program: how its options are read, from left to
-- right, what is wrong with a command line that cannot be used, and what a run
-- with a command line does.
import Testbed.Program

namespace Testbed.Program

/-- A command line is a call for help or for work. -/
inductive Request where
  | help
  | work (o : Options)
deriving DecidableEq, Repr

inductive UsageError where
  | unexpected (argument : String)
  | missingValue (option : String)
  | unneededValue (option : String)
  | repeated (option : String)
  | invalidValue (option value : String)
deriving DecidableEq, Repr

def UsageError.message : UsageError → String
  | unexpected argument => s!"unexpected argument '{argument}' found"
  | missingValue option => s!"a value is required for '{option}' but none was supplied"
  | unneededValue option => s!"unexpected value for '{option}' found; no more were expected"
  | repeated option => s!"the argument '{option}' cannot be used multiple times"
  | invalidValue option value => s!"invalid value '{value}' for '{option}'"

/-! ## Options given so far -/

inductive Key where
  | config
  | topology
  | binDir
  | backend
  | run
deriving DecidableEq, Repr

def Key.text : Key → String
  | config => "--config"
  | topology => "--topology"
  | binDir => "--bin-dir"
  | backend => "--substrate"
  | run => "--run"

def Key.all : List Key := [.config, .topology, .binDir, .backend, .run]

/-- The values given so far, and whether `--verbose` was. -/
structure Given where
  values : List (Key × String) := []
  verbose : Bool := false
deriving Repr, Inhabited

namespace Given

def value? (g : Given) (key : Key) : Option String :=
  (g.values.find? (·.1 = key)).map (·.2)

/-- An option takes some values only: paths are not empty, and a backend is one of two words. -/
def accepts : Key → String → Bool
  | .config, value | .binDir, value => !value.isEmpty
  | .backend, value => (Backend.parse value).isSome
  | .topology, _ | .run, _ => true

/-- Gives an option its value; an option is given once. -/
def set (key : Key) (value : String) (g : Given) : Except UsageError Given :=
  if (g.value? key).isSome then .error (.repeated key.text)
  else if accepts key value then .ok { g with values := g.values ++ [(key, value)] }
  else .error (.invalidValue key.text value)

/-- Notes `--verbose`, which is given once. -/
def setVerbose (g : Given) : Except UsageError Given :=
  if g.verbose then .error (.repeated "--verbose") else .ok { g with verbose := true }

/-- The options, with defaults for those that were not given. -/
def options (g : Given) : Options where
  config := g.value? .config
  topology := g.value? .topology
  binDir := g.value? .binDir
  backend := ((g.value? .backend).bind Backend.parse).getD .namespaces
  run := g.value? .run
  verbose := g.verbose

end Given

/-! ## Reading -/

inductive Word where
  /-- Letters behind a single dash. -/
  | letters (cs : List Char)
  /-- A name behind two dashes, with the value behind an equals sign. -/
  | long (name : String) (value : Option String)
  /-- Two dashes: no options come after it. -/
  | noMoreOptions
  | plain

/-- The name before the first equals sign and the value after it. -/
def cutValue (cs : List Char) : String × Option String :=
  let name := String.ofList (cs.takeWhile (· ≠ '='))
  match cs.dropWhile (· ≠ '=') with
  | [] => (name, none)
  | _ :: value => (name, some (String.ofList value))

/-- What an argument says. A single dash alone says nothing special. -/
def Word.of (arg : String) : Word :=
  match arg.toList with
  | ['-', '-'] => .noMoreOptions
  | '-' :: '-' :: cs =>
    let (name, value) := cutValue cs
    .long ("--" ++ name) value
  | '-' :: c :: cs => .letters (c :: cs)
  | _ => .plain

/-- An argument that can be the value of the option before it: nothing that looks like an
option itself. -/
def canBeValue (arg : String) : Bool :=
  match Word.of arg with
  | .plain => true
  | _ => false

/-- Single letters: `v` is given once, and `h` asks for help at once. -/
def readLetters : List Char → Given → Except UsageError (Option Given)
  | [], g => .ok (some g)
  | 'h' :: _, _ => .ok none
  | 'v' :: cs, g =>
    match g.setVerbose with
    | .error e => .error e
    | .ok g => readLetters cs g
  | c :: _, _ => .error (.unexpected (String.ofList ['-', c]))

/-- The arguments in order, after those that have been read. A call for help is answered as
soon as it is met. -/
def read : List String → Given → Except UsageError Request
  | [], g => .ok (.work g.options)
  | arg :: rest, g =>
    match Word.of arg with
    | .plain => .error (.unexpected arg)
    | .noMoreOptions =>
      match rest with
      | [] => .ok (.work g.options)
      | next :: _ => .error (.unexpected next)
    | .letters cs =>
      match readLetters cs g with
      | .error e => .error e
      | .ok none => .ok .help
      | .ok (some g) => read rest g
    | .long "--help" none => .ok .help
    | .long "--verbose" none =>
      match g.setVerbose with
      | .error e => .error e
      | .ok g => read rest g
    | .long name value =>
      if name = "--help" || name = "--verbose" then .error (.unneededValue name)
      else
        match Key.all.find? (·.text = name), value with
        | none, _ => .error (.unexpected name)
        | some key, some value =>
          match g.set key value with
          | .error e => .error e
          | .ok g => read rest g
        | some key, none =>
          match rest with
          | [] => .error (.missingValue name)
          | next :: rest =>
            if canBeValue next then
              match g.set key next with
              | .error e => .error e
              | .ok g => read rest g
            else .error (.missingValue name)

def parse (args : List String) : Except UsageError Request := read args {}

/-! ## Help -/

def helpText : String := Text.join "\n" [
  "Run MIP test scenarios on an emulated network",
  "",
  "Usage: mipnet-shell [OPTIONS]",
  "",
  "Options:",
  "      --config <CONFIG>        Harness configuration file (TOML)",
  "      --topology <TOPOLOGY>    Catalogue topology to build (overrides the config file)",
  "      --bin-dir <BIN_DIR>      Directory holding the daemon binaries",
  "      --substrate <SUBSTRATE>  Emulation backend [default: netns] [possible values: netns, sim]",
  "      --run <RUN>              Run this scenario, tear down, and exit instead of prompting",
  "  -v, --verbose                Debug-level logging unless RUST_LOG is set",
  "  -h, --help                   Print help",
  ""]

/-! ## A run with a command line -/

/-- A run on a command line that cannot be used does nothing, and one that asks for help only
gives help. -/
def run (args : List String) (machine : Machine) (events : List ShellEvent) : Outcome :=
  match parse args with
  | .error e => { code := 2, report := s!"error: {e.message}\n" }
  | .ok .help => { output := Text.Utf8.encode helpText }
  | .ok (.work o) => work o machine events

end Testbed.Program
