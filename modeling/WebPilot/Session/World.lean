import WebPilot.Hosted.Pacer
import WebPilot.Hosted.Submission
import WebPilot.Ledger.Basic
import WebPilot.Session.Console

/-!
# The world of a session, and acts in it

The world is everything that a session can change: its files and ledger, the clock, and the records
of what parties outside were asked.  The surroundings are what a session finds and cannot change:
the times it will read off the clock, the answers its operator will give, and the console.

An act takes the surroundings and a world to a result or a failure, and to the world afterwards.
What was done before a failure stays done.
-/

namespace WebPilot

set_option autoImplicit false

/-- How the operator answers a question. -/
inductive Confirmation where
  | usual
  | answer (yes : Bool)
  | interrupt
  deriving DecidableEq, Repr

/-- What a session finds. -/
structure Surroundings where
  /-- The time that the n-th reading of the calendar clock gives. -/
  timeAt : Nat → String
  /-- The number that the n-th reading of the fine clock gives. -/
  readingAt : Nat → Int
  /-- The operator's n-th answer. -/
  confirmationAt : Nat → Confirmation
  /-- Whether the operator interrupts when asked to enter a line. -/
  interruptsEntry : Bool
  /-- When the session started, as digits of the local date and time. -/
  startedAt : String
  /-- Where temporary files go. -/
  temporary : Path
  /-- The console that reads the tags of lines; without one every line is shown as it is. -/
  console : Option Console := none

/-- Why the console refuses to show a line, if it does. -/
def Surroundings.refusal? (s : Surroundings) (line : Line) : Option Failure :=
  s.console.bind (·.refusal? line.markup)

/-- What a session can change. -/
structure World where
  files : Files
  ledger : Ledger
  clock : Rat
  pacer : Hosted.Pacer
  timesTaken : Nat
  readingsTaken : Nat
  confirmationsTaken : Nat
  sleeps : List Float
  console : List Line
  prompts : List Prompt
  events : List Event
  requests : List Request
  submissions : List Hosted.Submission
  diagnostics : List String
  deriving Inhabited

/-- A world in which nothing has happened. -/
def World.fresh : World where
  files := .empty
  ledger := {}
  clock := 1000000
  pacer := {}
  timesTaken := 0
  readingsTaken := 0
  confirmationsTaken := 0
  sleeps := []
  console := []
  prompts := []
  events := []
  requests := []
  submissions := []
  diagnostics := []

/-- A step of a session. -/
def Act (α : Type) : Type :=
  Surroundings → World → Except Failure α × World

namespace Act

variable {α β : Type}

/-- Does nothing. -/
def done (a : α) : Act α :=
  fun _ w => (.ok a, w)

/-- Goes on with the result of an act. -/
def andThen (act : Act α) (next : α → Act β) : Act β :=
  fun s w =>
    match act s w with
    | (.ok a, w) => next a s w
    | (.error failure, w) => (.error failure, w)

instance : Monad Act where
  pure := done
  bind := andThen

/-- Fails. -/
def fail (failure : Failure) : Act α :=
  fun _ w => (.error failure, w)

/-- An outcome that is there already. -/
def lift (outcome : Except Failure α) : Act α :=
  fun _ w => (outcome, w)

/-- Does an act and hands its outcome on, whichever it is. -/
def attempt (act : Act α) : Act (Except Failure α) :=
  fun s w =>
    match act s w with
    | (outcome, w) => (.ok outcome, w)

/-- Does an act, then another one whatever became of the first; a failure of the second wins. -/
def finally_ (act : Act α) (closing : Act Unit) : Act α :=
  fun s w =>
    match act s w with
    | (outcome, w) =>
      match closing s w with
      | (.ok (), w) => (outcome, w)
      | (.error failure, w) => (.error failure, w)

/-- A view of the world. -/
def see (f : World → α) : Act α :=
  fun _ w => (.ok (f w), w)

/-- Changes the world. -/
def change (f : World → World) : Act Unit :=
  fun _ w => (.ok (), f w)

/-- Does an act if a condition holds. -/
def when_ (condition : Bool) (act : Act Unit) : Act Unit :=
  if condition then act else done ()

/-- Does an act for each member of a list, in order. -/
def each (f : α → Act β) : List α → Act (List β)
  | [] => done []
  | a :: rest => do
    let b ← f a
    let bs ← each f rest
    done (b :: bs)

/-! ## Elementary acts -/

/-- Shows a line of the program to the operator.  Its own tags are in order, and a text from
elsewhere stands in it escaped, so that every console takes it. -/
def show_ (line : Line) : Act Unit :=
  change fun w => { w with console := w.console ++ [line] }

/-- Shows a text of the program to the operator. -/
def print (markup : String) : Act Unit :=
  show_ (.text markup)

/-- Shows a line that may hold tags from elsewhere, in a text that is not escaped or between two
that are, if the console takes it. -/
def offer (line : Line) : Act Unit :=
  fun s w =>
    match s.refusal? line with
    | some failure => (.error failure, w)
    | none => show_ line s w

/-- Notes something for whoever follows the session closely. -/
def note (text : String) : Act Unit :=
  change fun w => { w with diagnostics := w.diagnostics ++ [text] }

/-- Leaves an event. -/
def emit (event : Event) : Act Unit :=
  change fun w => { w with events := w.events ++ [event] }

/-- What the clock gains while asleep, beyond the time slept. -/
def wakingSeconds : Rat := 1 / 1024

/-- Sleeps. -/
def sleep (seconds : Float) : Act Unit :=
  change fun w =>
    { w with
      sleeps := w.sleeps ++ [seconds]
      clock := Hosted.roundTime
        (w.clock + Hosted.roundTime (Decimal.exactValue seconds + wakingSeconds)) }

/-- Sleeps for a duration that may be an integer. -/
def sleepFor (duration : Number) : Act Unit :=
  match duration.toFloat? with
  | some seconds => sleep seconds
  | none => fail (.overflow .integer)

/-- Lets time pass. -/
def pass (seconds : Float) : Act Unit :=
  change fun w => { w with clock := Hosted.roundTime (w.clock + Decimal.exactValue seconds) }

/-- Reads the calendar clock. -/
def now : Act String :=
  fun s w => (.ok (s.timeAt w.timesTaken), { w with timesTaken := w.timesTaken + 1 })

/-- Asks a question to be answered with yes or no. -/
def confirm (question : String) (default_ : Bool) : Act Bool :=
  fun s w =>
    let w' := { w with
      prompts := w.prompts ++ [.confirm question default_]
      confirmationsTaken := w.confirmationsTaken + 1 }
    match s.confirmationAt w.confirmationsTaken with
    | .usual => (.ok default_, w')
    | .answer yes => (.ok yes, w')
    | .interrupt => (.error .interrupted, w')

/-- Asks the operator for something that is answered by entering a line. -/
def prompt (p : Prompt) : Act Unit :=
  fun s w =>
    let w' := { w with prompts := w.prompts ++ [p] }
    if s.interruptsEntry then (.error .interrupted, w') else (.ok (), w')

end Act

end WebPilot
