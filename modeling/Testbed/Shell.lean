-- The interactive loop: a prompt, an event, the answer to it. The loop is left
-- by a command that says so or by an interrupt, and then the session is shut
-- down. The end of the input, and an input that has been closed, count as the
-- line EOF.
import Testbed.Command
import Testbed.Sink

namespace Testbed

/-- What arrives at the prompt. -/
inductive ShellEvent where
  | line (text : String)
  | endOfInput
  | interrupt
deriving DecidableEq, Repr

/-- A session at a prompt: the events still to come and the output so far. -/
structure Shell (σ : Type) where
  registry : Registry σ
  session : Session σ
  events : List ShellEvent
  sink : Sink := {}

namespace Shell

variable {σ : Type} [Substrate σ]

def prompt : String := "mipnet> "

/-! ## Output -/

/-- Writes a text; a sink that is full ends everything. -/
def write (text : String) : Action (Shell σ) SinkError Unit := fun sh =>
  let (all, sink) := sh.sink.write (Text.Utf8.encode text)
  (if all then .ok () else .error .full, { sh with sink })

def writeLine (text : String) : Action (Shell σ) SinkError Unit := write (text ++ "\n")

/-! ## Events -/

/-- The next event, or nothing once the input has been closed. -/
def nextEvent : Action (Shell σ) SinkError (Option ShellEvent) := fun sh =>
  (.ok sh.events.head?, { sh with events := sh.events.tail })

/-- Whether the loop goes on. -/
inductive Course where
  | again
  | leave
deriving DecidableEq, Repr

/-- Runs a line and writes what it answers. -/
def answer (line : String) : Action (Shell σ) SinkError Course := do
  let result ← (Registry.dispatch line).attempt.within (fun sh => (sh.registry, sh.session))
    fun (registry, session) sh => { sh with registry, session }
  match result with
  | .ok (.goOn message) =>
    if message.isEmpty then pure .again
    else do
      writeLine message
      pure .again
  | .ok (.stop message) => do
    writeLine message
    pure .leave
  | .error e => do
    writeLine ("error: " ++ e.message)
    pure .again

/-- What follows an event. -/
def react : Option ShellEvent → Action (Shell σ) SinkError Course
  | some (.line text) => answer text
  | some .interrupt => do
    writeLine ""
    pure .leave
  | some .endOfInput => do
    writeLine ""
    answer "EOF"
  | none => do
    writeLine ""
    answer "EOF"

/-! ## The loop -/

/-- One turn: the prompt, an event, and what follows it. -/
def turn : Action (Shell σ) SinkError Course := do
  write prompt
  let event ← nextEvent
  react event

/-- Shuts the session down, and reports it if that had not been done. -/
def finish : Action (Shell σ) SinkError Unit := do
  let report ← fun sh =>
    let (report, session) := sh.session.shutdown
    (.ok report, { sh with session })
  match report with
  | some report => writeLine report.summary
  | none => pure ()

/-- At most `n` turns; the answer is whether the loop was left. -/
def turns : Nat → Action (Shell σ) SinkError Bool
  | 0 => pure false
  | n + 1 => do
    match ← turn with
    | .leave => pure true
    | .again => turns n

/-- The loop with at most `n` turns, and what follows when it is left. The answer is whether
it was. -/
def drive (n : Nat) : Action (Shell σ) SinkError Bool := do
  let left ← turns n
  if left then do
    finish
    pure true
  else pure false

/-- A number of turns that is enough wherever the line EOF leaves the loop, and wherever the
sink is limited: every turn writes a prompt. -/
def turnsAllowed (sh : Shell σ) : Nat := sh.events.length + sh.sink.room.getD 0 + 2

end Shell

end Testbed
