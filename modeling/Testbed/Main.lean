-- The program as it is run from a command line. Everything it decides is
-- decided elsewhere; here lines are read and texts are written.
import Testbed.Program.CommandLine

namespace Testbed.Main

open Program

/-- The number of an error of the system, which may be given with a minus sign. -/
def errorNumber (code : UInt32) : Nat := code.toInt32.toInt.natAbs

/-- What reading a file answers, in the words of the test bed. -/
def readError : IO.Error → OsError
  | .noFileOrDirectory .. => .noSuchFile
  | .permissionDenied _ code _ => if errorNumber code = 1 then .notPermitted else .permissionDenied
  | .inappropriateType _ code _ => if errorNumber code = 20 then .notADirectory else .isADirectory
  | .invalidArgument _ code text =>
    if errorNumber code = 36 then .nameTooLong else .other text
  | e => .other e.toString

def readFile (path : String) : IO (Except OsError String) := do
  try
    let bytes ← IO.FS.readBinFile path
    match Text.Utf8.decode? bytes.toList with
    | some text => pure (.ok text)
    | none => pure (.error .notUtf8)
  catch e => pure (.error (readError e))

/-- Writes out what a shell has written and not yet shown. -/
def flushed {σ : Type} (shell : Shell σ) : IO (Shell σ) := do
  let out ← IO.getStdout
  out.write (ByteArray.mk shell.sink.written.toArray)
  out.flush
  pure { shell with sink := {} }

/-- Reads lines and lets the shell answer until it is left. -/
partial def talk {σ : Type} [Substrate σ] (shell : Shell σ) : IO Unit := do
  let shell ← flushed (Shell.write Shell.prompt shell).2
  let input ← IO.getStdin
  let line ← input.getLine
  let event := (inputEvents line.toUTF8.toList).head?
  match Shell.react event shell with
  | (.ok .again, shell) => talk (← flushed shell)
  | (_, shell) =>
    let _ ← flushed (Shell.finish shell).2
    pure ()

def printOutcome (outcome : Outcome) : IO UInt32 := do
  (← IO.getStdout).write (ByteArray.mk outcome.output.toArray)
  IO.eprint outcome.report
  pure outcome.code.toUInt32

def perform {σ : Type} [Substrate σ] (o : Options) (config : Config) (topology : Topology)
    (substrate : σ) : IO UInt32 :=
  match o.run, openSession config topology substrate with
  | none, .ok session => do
    talk (← flushed (greet session []))
    pure 0
  | _, _ => printOutcome (Program.perform o config topology substrate [])

/-- A run with options. The namespaces live on a machine on which no tool is installed. -/
def work (o : Options) : IO UInt32 := do
  let content ← match o.config with
    | some path => readFile path
    | none => pure (.ok "")
  match configure o fun _ => content with
  | .error f => printOutcome (.ofFailure f)
  | .ok config =>
    match networkOf config, o.backend with
    | .error f, _ => printOutcome (.ofFailure f)
    | .ok topology, .simulator => perform o config topology ({} : Simulator)
    | .ok topology, .namespaces =>
      let machine : Machine := { tools := [] }
      perform o config topology ({ config := config.namespaces, machine } : Namespaces)

end Testbed.Main

def main (args : List String) : IO UInt32 :=
  match Testbed.Program.parse args with
  | .ok (.work o) => Testbed.Main.work o
  | _ => Testbed.Main.printOutcome (Testbed.Program.run args {} [])
