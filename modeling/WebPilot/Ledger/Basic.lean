import WebPilot.Failure
import WebPilot.Decimal.Numeral
import WebPilot.Json.Reader
import WebPilot.Json.Writer
import WebPilot.Ledger.Invocation
import WebPilot.Text.Word

/-!
# The ledger of a session

A ledger is the list of the calls that succeeded.  With a crash directory, every recorded call is
also written to a file of its own, whose name starts with a number that only grows; an empty ledger
is recovered from those files in the order of their numbers.
-/

namespace WebPilot

set_option autoImplicit false

/-- The calls that succeeded, in order. -/
structure Ledger where
  crashDirectory : Option Path := none
  invocations : List Invocation := []
  /-- The number in the name of the last file written. -/
  lastNumber : Int := 0
  deriving Inhabited

namespace Ledger

/-- Adds a call without a file of its own. -/
def append (ledger : Ledger) (i : Invocation) : Ledger :=
  { ledger with invocations := ledger.invocations ++ [i] }

/-- Whether no call is in the ledger. -/
def isEmpty (ledger : Ledger) : Bool :=
  ledger.invocations.isEmpty

/-- The content of the ledger file. -/
def document (ledger : Ledger) : Document :=
  ⟨ledger.invocations⟩

/-! ## Files of single calls -/

/-- A tool's name with everything but word characters, points and dashes made an underscore. -/
def safeName (tool : String) : String :=
  String.ofList (tool.toList.map fun c => if Text.isWord c || c == '.' || c == '-' then c else '_')

/-- The name of the file of a call. -/
def fileName (number : Int) (tool : String) : String :=
  String.ofList (Decimal.intDigits number) ++ "-" ++ safeName tool ++ ".json"

/-- The bytes of a value in the form of record files. -/
def fileBytes (value : Json) : List UInt8 :=
  Text.Utf8.encode (Json.write .file value)

/-- The number for the next file, given what the clock reads: larger than any before. -/
def nextNumber (ledger : Ledger) (reading : Int) : Int :=
  max reading (ledger.lastNumber + 1)

/-- Writes the file of a call.  A file that the system refuses is left out. -/
def writeCall (files : Files) (path : Path) (i : Invocation) : Except Failure Files :=
  if !i.canWrite then .error .tooDeepToWrite
  else match files.write path (fileBytes i.toJson) with
    | .ok files => .ok files
    | .error fault => if fault.isSystem then .ok files else .error (.file fault)

/-- What recording a call leaves: the ledger with the call, the files, and what kept its file from
being written, if that is a failure. -/
structure Recording where
  ledger : Ledger
  files : Files
  failure : Option Failure := none

/-- Adds a call and writes its file, if there is a crash directory. -/
def record (ledger : Ledger) (reading : Int) (files : Files) (i : Invocation) : Recording :=
  let ledger := ledger.append i
  match ledger.crashDirectory with
  | none => ⟨ledger, files, none⟩
  | some directory =>
    let number := ledger.nextNumber reading
    let ledger := { ledger with lastNumber := number }
    match writeCall files (directory.child (fileName number i.tool)) i with
    | .ok files => ⟨ledger, files, none⟩
    | .error failure => ⟨ledger, files, some failure⟩

/-! ## Recovery -/

/-- The part of a name before its first dash. -/
def numberPart (name : String) : List Char :=
  name.toList.takeWhile (· ≠ '-')

/-- Whether a name is that of the file of a call. -/
def isCallFile (name : String) : Bool :=
  Text.endsWith name ".json" && !(numberPart name).isEmpty && (numberPart name).all Text.isDigitLike

/-- The names of the files of calls with their numbers; a name whose digits make no number is a
fault. -/
def numbered : List String → Except Decimal.NumeralFault (List (Int × String))
  | [] => .ok []
  | name :: names =>
    match Decimal.readInt (String.ofList (numberPart name)) with
    | .error fault => .error fault
    | .ok n =>
      match numbered names with
      | .error fault => .error fault
      | .ok rest => .ok ((n, name) :: rest)

/-- The names of the files of calls in a directory, by their numbers. -/
def callFiles (files : Files) (directory : List String) :
    Except Decimal.NumeralFault (List String) :=
  let names := (files.inside directory).map (·.1)
  match numbered (names.filter isCallFile) with
  | .error fault => .error fault
  | .ok found => .ok ((found.mergeSort fun a b => decide (a.1 ≤ b.1)).map (·.2))

/-- What became of a recovery: the calls found, how many times were taken, and what ended it before
its end, if anything did. -/
structure Recovery where
  found : List Invocation
  timesTaken : Nat
  failure : Option Failure := none

/-- Reads the files of calls in order.  Unreadable and invalid files are skipped, a call whose key
was seen is dropped, and a file whose bytes are no text ends the recovery. -/
def recoverFrom (files : Files) (directory : Path) (timeAt : Nat → String) (taken : Nat)
    (found : List Invocation) : List String → Recovery
  | [] => ⟨found, taken, none⟩
  | name :: names =>
    match files.read (directory.child name) with
    | .error _ => recoverFrom files directory timeAt taken found names
    | .ok bytes =>
      match Files.textOf bytes with
      | .error fault => ⟨found, taken, some (.undecodable fault)⟩
      | .ok text =>
        match Json.readRecord? text with
        | none => recoverFrom files directory timeAt taken found names
        | some value =>
          let taken' := taken + Invocation.timesTaken value
          match Invocation.check (timeAt taken) value with
          | .faulty _ => recoverFrom files directory timeAt taken' found names
          | .fine i =>
            let found := if (found.map Invocation.key).contains i.key then found else found ++ [i]
            recoverFrom files directory timeAt taken' found names

/-- What an empty ledger recovers from its crash directory; another ledger recovers nothing.
`timeAt` gives the times that are taken. -/
def recovery (ledger : Ledger) (files : Files) (timeAt : Nat → String) : Recovery :=
  match ledger.crashDirectory with
  | none => ⟨[], 0, none⟩
  | some directory =>
    if !ledger.isEmpty then ⟨[], 0, none⟩
    else match files.find? directory, files.resolve directory with
      | .error fault, _ => ⟨[], 0, some (.file fault)⟩
      | .ok (some .directory), .ok names =>
        match callFiles files names with
        | .error fault => ⟨[], 0, some (.badValue fault.message)⟩
        | .ok callNames => recoverFrom files directory timeAt 0 [] callNames
      | .ok _, _ => ⟨[], 0, none⟩

/-! ## Ledger files -/

/-- Reads the text of a ledger file, and says how many times were taken. -/
def readDocument (timeAt : Nat → String) (text : String) :
    Except Invalid Document × Nat :=
  match Json.readRecord? text with
  | none => (.error ⟨Document.title, [⟨.notJson, []⟩]⟩, 0)
  | some value =>
    ((Document.check timeAt 0 value).titled Document.title, Document.timesTaken value)

/-- Reads a ledger file: nothing if there is none.  Also says how many times were taken. -/
def load (files : Files) (timeAt : Nat → String) (path : String) :
    Except Failure (Option Document) × Nat :=
  let path := Path.ofText path
  let malformed (fault : LedgerFault) : Except Failure (Option Document) :=
    .error (.ledgerFormat path.text fault)
  match files.find? path with
  | .error fault => (.error (.file fault), 0)
  | .ok none => (.ok none, 0)
  | .ok (some _) =>
    match files.read path with
    | .error fault => (malformed (.unreadable fault), 0)
    | .ok bytes =>
      match Files.textOf bytes with
      | .error fault => (malformed (.undecodable fault), 0)
      | .ok text =>
        match readDocument timeAt text with
        | (.error invalid, taken) => (malformed (.invalid invalid), taken)
        | (.ok document, taken) => (.ok (some document), taken)

/-- Writes the document of the ledger. -/
def store (ledger : Ledger) (files : Files) (path : String) : Except Failure Files :=
  if !ledger.invocations.all Invocation.canWrite then .error .tooDeepToWrite
  else match files.write (Path.ofText path) (fileBytes ledger.document.toJson) with
    | .ok files => .ok files
    | .error fault => .error (.file fault)

end Ledger

end WebPilot
