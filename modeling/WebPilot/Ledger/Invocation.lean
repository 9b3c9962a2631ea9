import WebPilot.Check.Scalar
import WebPilot.Json.Writer

/-!
# Recorded calls

An invocation is a call that succeeded: its tool, its arguments, the text it came back with, and
when it was recorded.  A document is a list of them.

A value without a timestamp takes the time at which it is checked, so checking is given the time to
take and says how many times were taken.
-/

namespace WebPilot

set_option autoImplicit false

/-- A call that succeeded. -/
structure Invocation where
  tool : String
  arguments : Fields
  result : String
  timestamp : String

namespace Invocation

/-- The title of an invocation in reports of what is wrong with one. -/
def title : String := "Invocation"

/-- Checks a value that is to be an invocation; `now` is the time for one without a timestamp. -/
def check (now : String) : Json → Checked Invocation :=
  Check.record fun fields =>
    Invocation.mk
      <$> Check.required "tool_name" Check.text fields
      <*> Check.optional "arguments" [] Check.fields fields
      <*> Check.required "result" Check.text fields
      <*> Check.optional "timestamp" now Check.text fields

/-- How many times the check of a value takes. -/
def timesTaken : Json → Nat
  | .object fields => if Fields.has fields "timestamp" then 0 else 1
  | _ => 0

/-- The invocation as a value. -/
def toJson (i : Invocation) : Json :=
  .object [
    ("tool_name", .text i.tool),
    ("arguments", .object i.arguments),
    ("result", .text i.result),
    ("timestamp", .text i.timestamp)]

/-- Whether the invocation can be written: no argument nests too deep. -/
def canWrite (i : Invocation) : Bool :=
  Json.canWriteFields i.arguments

/-- What identifies an invocation when files are recovered. -/
def key (i : Invocation) : String × String :=
  (i.timestamp, i.tool)

end Invocation

/-- The content of a ledger file. -/
structure Document where
  commands : List Invocation

namespace Document

/-- The title of a document in reports of what is wrong with one. -/
def title : String := "LedgerDocument"

/-- Checks the items of a list from position `index` on; `timeAt` gives the times from `taken` on. -/
def checkItems (timeAt : Nat → String) (index taken : Nat) : List Json → Checked (List Invocation)
  | [] => .fine []
  | item :: items =>
    List.cons
      <$> (Invocation.check (timeAt taken) item).under (.item index)
      <*> checkItems timeAt (index + 1) (taken + Invocation.timesTaken item) items

/-- The items of the list of commands, if there is one. -/
def items : Json → List Json
  | .object fields =>
    match Fields.get? fields "commands" with
    | some (.list items) => items
    | _ => []
  | _ => []

/-- Checks a value that is to be a document; `timeAt` gives the times from `taken` on. -/
def check (timeAt : Nat → String) (taken : Nat) : Json → Checked Document :=
  Check.record fun fields =>
    Document.mk
      <$> Check.optional "commands" [] (fun
        | .list items => checkItems timeAt 0 taken items
        | _ => .complain .notList) fields

/-- How many times the check of a value takes. -/
def timesTaken (value : Json) : Nat :=
  ((items value).map Invocation.timesTaken).foldr (· + ·) 0

/-- The document as a value. -/
def toJson (d : Document) : Json :=
  .object [("commands", .list (d.commands.map Invocation.toJson))]

end Document

end WebPilot
