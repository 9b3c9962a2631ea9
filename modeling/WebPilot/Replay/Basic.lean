import WebPilot.Json.Display
import WebPilot.Model.Repair
import WebPilot.Session.Execute
import WebPilot.Text.Digest
import WebPilot.Text.Markup

/-!
# Replaying a ledger

A replay executes the recorded calls again, in order, and builds a new ledger of what came back.
Each entry is *confirmed* if its result is the recorded one, *updated* if it is another, *repaired*
if another came back only with new arguments, and *failed* if the call could not be executed.  A
call that comes back with the flag of an error may be repaired once, if a call came before it.

The session's own ledger is replaced only when the new one has been written.
-/

namespace WebPilot

set_option autoImplicit false

/-- What became of an entry. -/
inductive ReplayStatus where
  | confirmed
  | updated
  | repaired
  | failed
  deriving DecidableEq, Repr

namespace ReplayStatus

/-- All of them, in the order of reports. -/
def all : List ReplayStatus :=
  [confirmed, updated, repaired, failed]

/-- The word for a status. -/
def word : ReplayStatus → String
  | confirmed => "confirmed"
  | updated => "updated"
  | repaired => "repaired"
  | failed => "failed"

/-- The style a status is shown in. -/
def style : ReplayStatus → String
  | confirmed => "green"
  | updated => "yellow"
  | repaired => "cyan"
  | failed => "red"

end ReplayStatus

/-- The report on an entry. -/
structure ReplayEntry where
  index : Nat
  tool : String
  status : ReplayStatus
  error : Option String := none
  deriving DecidableEq, Repr

/-- The report as a value. -/
def ReplayEntry.toJson (e : ReplayEntry) : Json :=
  .object [
    ("index", .int e.index),
    ("tool_name", .text e.tool),
    ("status", .text e.status.word),
    ("error", .ofText? e.error)]

/-- How many entries have a status. -/
def countStatus (entries : List ReplayEntry) (status : ReplayStatus) : Nat :=
  entries.countP (·.status = status)

/-- What a replay comes to. -/
structure ReplayResult where
  didReplay : Bool
  ledger : Ledger
  entries : List ReplayEntry := []

/-- The result as a value. -/
def ReplayResult.toJson (r : ReplayResult) : Json :=
  .object [
    ("did_replay", .bool r.didReplay),
    ("entries", .list (r.entries.map ReplayEntry.toJson)),
    ("ledger", .list (r.ledger.invocations.map Invocation.toJson))]

/-- Where the ledger that a replay builds is written: beside the one replayed. -/
def updatedPath (path : String) : String :=
  Path.tidy (path ++ ".updated")

/-- Whether two texts are the same, as far as their digests tell. -/
def sameText (a b : String) : Bool :=
  Text.Digest.ofText a == Text.Digest.ofText b

/-- What a replay works with. -/
structure Replayer where
  session : Session
  /-- Who is asked for new arguments; without one nothing is repaired. -/
  repairs : Option RepairService
  delay : Number := .real 0.5

/-- Asks for new arguments and tries the call once with them; nothing if that brings no success. -/
def Replayer.repair (r : Replayer) (recorded previous : Invocation) :
    Act (Option (Fields × Execution)) :=
  match r.repairs with
  | none => .done none
  | some service => do
    let suggestion := service.suggest
      ⟨recorded.tool, recorded.arguments, previous.result, recorded.result⟩
    match ← suggestion.attempt with
    | .error failure =>
      if failure.isModelService || failure.isBadValue then .done none else .fail failure
    | .ok arguments => do
      let shown := String.ofList (Json.display (.object arguments))
      Act.print (Text.Markup.escape s!"  retrying {recorded.tool} with repaired arguments {shown}")
      match ← (r.session.execute recorded.tool arguments false).attempt with
      | .error failure => if failure.isExecution then .done none else .fail failure
      | .ok retried => .done (if retried.flagged then none else some (arguments, retried))

/-- A call as it was finally executed, with the text of an error that stands. -/
structure Adopted where
  arguments : Fields
  text : String
  repaired : Bool
  error : Option String

/-- What is adopted after a first execution: that one, or a repair of it. -/
def Replayer.adopt (r : Replayer) (recorded : Invocation) (previous : Option Invocation)
    (first : Execution) : Act Adopted :=
  let asIs : Adopted := ⟨recorded.arguments, first.text, false, none⟩
  if !first.flagged then .done asIs
  else
    let flagged := { asIs with error := some first.text }
    match previous with
    | none => .done flagged
    | some previous => do
      match ← r.repair recorded previous with
      | none => .done flagged
      | some (arguments, retried) => .done ⟨arguments, retried.text, true, none⟩

/-- Replays one entry: what goes into the new ledger, and the report. -/
def Replayer.replayOne (r : Replayer) (index : Nat) (recorded : Invocation)
    (previous : Option Invocation) : Act (Invocation × ReplayEntry) := do
  match ← (r.session.execute recorded.tool recorded.arguments false).attempt with
  | .error failure =>
    if failure.isExecution then
      .done (recorded, ⟨index, recorded.tool, .failed, some failure.message⟩)
    else .fail failure
  | .ok first => do
    let adopted ← r.adopt recorded previous first
    let same := sameText adopted.text recorded.result
    let status := if same then .confirmed else if adopted.repaired then .repaired else .updated
    let result := if same then recorded.result else adopted.text
    let time ← Act.now
    .done (⟨recorded.tool, adopted.arguments, result, time⟩,
      ⟨index, recorded.tool, status, adopted.error⟩)

/-- The line that reports on an entry. -/
def ReplayEntry.line (e : ReplayEntry) : String :=
  let detail := match e.error with
    | some error => if error.isEmpty then "" else Text.Markup.escape s!": {error}"
    | none => ""
  s!"  [{e.status.style}]{e.status.word}[/{e.status.style}]{detail}"

/-- Replays entries from position `index` on, of `total`; the calls of the new ledger so far are
given. -/
def Replayer.replayFrom (r : Replayer) (total index : Nat) (built : List Invocation) :
    List Invocation → Act (List Invocation × List ReplayEntry)
  | [] => .done (built, [])
  | recorded :: rest => do
    Act.when_ (0 < index && r.delay.isPositive) (Act.sleepFor r.delay)
    let shown := String.ofList (Json.display (.object recorded.arguments))
    Act.print (Text.Markup.escape s!"[{index + 1}/{total}] {recorded.tool} {shown}")
    let one ← r.replayOne index recorded built.getLast?
    Act.print one.2.line
    let more ← r.replayFrom total (index + 1) (built ++ [one.1]) rest
    .done (more.1, one.2 :: more.2)

/-! ## Ledger files

The lines about a ledger file show its path as it is given, so a console may refuse them.
-/

/-- What is said where there is no ledger file. -/
def absentLine (path : String) : Line :=
  .text s!"No previous ledger found at {path}"

/-- What is said of a ledger file without calls. -/
def emptyLine (path : String) : Line :=
  .text s!"Ledger {path} has no recorded commands"

/-- What is said before the first of `total` calls is replayed. -/
def openingLine (total : Nat) (path : String) : Line :=
  .text s!"[bold]Replaying {total} recorded commands from {path}[/bold]"

/-- What is said of the file that a replay has written. -/
def closingLine (path : String) : Line :=
  .text s!"Updated ledger written to {updatedPath path}"

/-- Writes the ledger that a replay has built, says so, and gives it to the session. -/
def Act.exchangeLedger (path : String) (ledger : Ledger) (entries : List ReplayEntry) :
    Act ReplayResult := do
  Act.storeLedger ledger (updatedPath path)
  Act.offer (closingLine path)
  Act.change fun w => { w with ledger }
  .done ⟨true, ledger, entries⟩

/-- Replays the ledger file at a path. -/
def Replayer.replay (r : Replayer) (path : String) : Act ReplayResult := do
  match ← Act.loadLedger path with
  | none => do
    Act.offer (absentLine path)
    .done ⟨false, {}, []⟩
  | some ⟨[]⟩ => do
    Act.offer (emptyLine path)
    .done ⟨false, {}, []⟩
  | some ⟨commands⟩ => do
    let total := commands.length
    Act.offer (openingLine total path)
    let directory ← Act.see (·.ledger.crashDirectory)
    let replayed ← r.replayFrom total 0 [] commands
    Act.exchangeLedger path { crashDirectory := directory, invocations := replayed.1 } replayed.2

end WebPilot
