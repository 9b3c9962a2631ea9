import WebPilot.Session.World

/-!
# Keeping the ledger of a session

The acts by which a session records calls, recovers them, and reads and writes ledger files.
-/

namespace WebPilot.Act

set_option autoImplicit false

/-- The recorded call that a value is; one without a time takes it off the calendar clock. -/
def invocation (value : Json) : Act Invocation :=
  fun s w =>
    let w' := { w with timesTaken := w.timesTaken + Invocation.timesTaken value }
    match (Invocation.check (s.timeAt w.timesTaken) value).titled Invocation.title with
    | .ok i => (.ok i, w')
    | .error invalid => (.error (.invalid invalid), w')

/-- Records a call in the ledger.  The fine clock is read only for a file of its own. -/
def record (i : Invocation) : Act Unit :=
  fun s w =>
    let recorded := w.ledger.record (s.readingAt w.readingsTaken) w.files i
    let readings := if w.ledger.crashDirectory.isSome then 1 else 0
    let w' := { w with
      ledger := recorded.ledger
      files := recorded.files
      readingsTaken := w.readingsTaken + readings }
    match recorded.failure with
    | some failure => (.error failure, w')
    | none => (.ok (), w')

/-- Recovers an empty ledger from its crash directory; says how many calls it then holds.  A
ledger that is not empty recovers nothing. -/
def recover : Act Nat :=
  fun s w =>
    let recovery := w.ledger.recovery w.files (fun i => s.timeAt (w.timesTaken + i))
    let w' := { w with
      ledger := { w.ledger with invocations := w.ledger.invocations ++ recovery.found }
      timesTaken := w.timesTaken + recovery.timesTaken }
    match recovery.failure with
    | some failure => (.error failure, w')
    | none => (.ok recovery.found.length, w')

/-- Reads a ledger file. -/
def loadLedger (path : String) : Act (Option Document) :=
  fun s w =>
    let loaded := Ledger.load w.files (fun i => s.timeAt (w.timesTaken + i)) path
    (loaded.1, { w with timesTaken := w.timesTaken + loaded.2 })

/-- Writes a ledger to a file. -/
def storeLedger (ledger : Ledger) (path : String) : Act Unit :=
  fun _ w =>
    match ledger.store w.files path with
    | .ok files => (.ok (), { w with files })
    | .error failure => (.error failure, w)

/-- Writes the ledger of the session to a file; an empty one is recovered before. -/
def saveLedger (path : String) : Act Unit := do
  when_ (← see (·.ledger.isEmpty)) (do let _ ← recover; done ())
  storeLedger (← see (·.ledger)) path

/-- Starts the ledger of a session, with a crash directory of its own if the system allows one. -/
def startLedger (base : Option Path) : Act Unit :=
  fun s w =>
    let directory := (base.getD s.temporary).child ("mcp-commands-" ++ s.startedAt)
    match w.files.makeDirectories directory with
    | (files, none) => (.ok (), { w with files, ledger := { crashDirectory := some directory } })
    | (files, some fault) =>
      if fault.isSystem then (.ok (), { w with files, ledger := {} })
      else (.error (.file fault), { w with files })

end WebPilot.Act
