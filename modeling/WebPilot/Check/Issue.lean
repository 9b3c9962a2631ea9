import WebPilot.Json.Basic

/-!
# Checking values against a shape

A check turns a value into a typed record or says what is wrong with it.  All issues are collected,
in the order in which the fields are declared, each with the path that leads to it.
-/

namespace WebPilot

set_option autoImplicit false

/-- A step of a path into a value. -/
inductive Step where
  | field (name : String)
  | item (index : Nat)
  deriving DecidableEq, Repr

/-- What can be wrong with a value. -/
inductive Complaint where
  | missing
  | notText
  | tooShort
  | notBytes
  | notBool
  | unreadableBool
  | notInt
  | unreadableInt
  | oversizedInt
  | fractionalInt
  | notFinite
  | belowMinimum
  | aboveMaximum
  | notObject
  | notList
  | notRecord
  | notLiteral
  | notMember
  | noTag
  | unknownTag
  | notTagged
  | notJson
  | unlawful (reason : String)
  deriving DecidableEq, Repr

/-- The code of a complaint. -/
def Complaint.code : Complaint → String
  | missing => "missing"
  | notText => "string_type"
  | tooShort => "string_too_short"
  | notBytes => "bytes_type"
  | notBool => "bool_type"
  | unreadableBool => "bool_parsing"
  | notInt => "int_type"
  | unreadableInt => "int_parsing"
  | oversizedInt => "int_parsing_size"
  | fractionalInt => "int_from_float"
  | notFinite => "finite_number"
  | belowMinimum => "greater_than_equal"
  | aboveMaximum => "less_than_equal"
  | notObject => "dict_type"
  | notList => "list_type"
  | notRecord => "model_type"
  | notLiteral => "literal_error"
  | notMember => "enum"
  | noTag => "union_tag_not_found"
  | unknownTag => "union_tag_invalid"
  | notTagged => "model_attributes_type"
  | notJson => "json_invalid"
  | unlawful _ => "value_error"

/-- The words that come with a complaint, where the code does not say it all. -/
def Complaint.words? : Complaint → Option String
  | unlawful reason => some s!"Value error, {reason}"
  | _ => none

/-- A complaint and where it lies. -/
structure Issue where
  complaint : Complaint
  path : List Step
  deriving DecidableEq, Repr

/-- A checked value: what it stands for, or everything that is wrong with it. -/
inductive Checked (α : Type) where
  | fine (value : α)
  | faulty (issues : List Issue)
  deriving Repr

namespace Checked

variable {α β : Type}

/-- A single complaint about the value at hand. -/
def complain (c : Complaint) : Checked α :=
  faulty [⟨c, []⟩]

/-- Applies a function to what the value stands for. -/
def map (f : α → β) : Checked α → Checked β
  | fine a => fine (f a)
  | faulty issues => faulty issues

/-- Applies a checked function to a checked value; the issues of both are kept. -/
def apply (f : Checked (α → β)) (a : Checked α) : Checked β :=
  match f, a with
  | fine f, fine a => fine (f a)
  | fine _, faulty issues => faulty issues
  | faulty issues, fine _ => faulty issues
  | faulty issues, faulty more => faulty (issues ++ more)

instance : Functor Checked where
  map := map

instance : Applicative Checked where
  pure := fine
  seq f a := apply f (a ())

/-- Goes on with what the value stands for, if nothing was wrong with it. -/
def andThen (a : Checked α) (f : α → Checked β) : Checked β :=
  match a with
  | fine a => f a
  | faulty issues => faulty issues

/-- The issues seen from one step further out. -/
def under (step : Step) : Checked α → Checked α
  | fine a => fine a
  | faulty issues => faulty (issues.map fun issue => { issue with path := step :: issue.path })

end Checked

/-- A step of a path as a value. -/
def Step.toJson : Step → Json
  | field name => .text name
  | item index => .int index

/-- The issue as a value: the code of the complaint, the path, and the words if there are any. -/
def Issue.toJson (i : Issue) : Json :=
  .object ([("type", Json.text i.complaint.code), ("loc", .list (i.path.map Step.toJson))] ++
    i.complaint.words?.toList.map fun words => ("msg", .text words))

/-- The issues of a value that was to be a record of the given title. -/
structure Invalid where
  title : String
  issues : List Issue
  deriving DecidableEq, Repr

/-- A path with points between its steps. -/
def Step.path (steps : List Step) : String :=
  String.intercalate "." (steps.map fun
    | .field name => name
    | .item index => toString index)

/-- The issues in words: a summary line, then two lines for each issue. -/
def Invalid.message (invalid : Invalid) : String :=
  let count := invalid.issues.length
  let plural := if count = 1 then "" else "s"
  let summary := s!"{count} validation error{plural} for {invalid.title}"
  let details := invalid.issues.map fun issue =>
    s!"{Step.path issue.path}\n  {(issue.complaint.words?).getD issue.complaint.code}"
  String.intercalate "\n" (summary :: details)

/-- A checked record under its title. -/
def Checked.titled {α : Type} (title : String) : Checked α → Except Invalid α
  | fine a => .ok a
  | faulty issues => .error ⟨title, issues⟩

end WebPilot
