/-!
# JSON values

Integers and numbers of 64 bits are different kinds of value: `1` is not `1.0`.  An object keeps
its fields in the order in which their names first appeared, and a name that appears again replaces
the value and keeps the place.
-/

namespace WebPilot

set_option autoImplicit false

/-- A JSON value. -/
inductive Json where
  | null
  | bool (b : Bool)
  | int (n : Int)
  | float (x : Float)
  | text (s : String)
  | list (items : List Json)
  | object (fields : List (String × Json))
  deriving Inhabited, Repr

/-- The fields of an object, in order. -/
abbrev Fields := List (String × Json)

namespace Fields

/-- The value under a name. -/
def get? (fields : Fields) (name : String) : Option Json :=
  fields.lookup name

/-- Whether a name is present. -/
def has (fields : Fields) (name : String) : Bool :=
  fields.any (·.1 == name)

/-- Gives a name a value: at its place if it is present, at the end otherwise. -/
def put (name : String) (value : Json) : Fields → Fields
  | [] => [(name, value)]
  | (n, v) :: rest => if n = name then (n, value) :: rest else (n, v) :: put name value rest

/-- The fields of a list of pairs that may repeat names. -/
def ofPairs (pairs : List (String × Json)) : Fields :=
  pairs.foldl (fun fields pair => put pair.1 pair.2 fields) []

/-- The names, in order. -/
def names (fields : Fields) : List String :=
  fields.map (·.1)

end Fields

namespace Json

/-- The value of a field, for an object that has it. -/
def get? : Json → String → Option Json
  | object fields, name => Fields.get? fields name
  | _, _ => none

/-- Whether the value is something: not null, false, zero or empty. -/
def isSomething : Json → Bool
  | null => false
  | bool b => b
  | int n => n != 0
  | float x => x != 0.0
  | text s => !s.isEmpty
  | list items => !items.isEmpty
  | object fields => !fields.isEmpty

/-- The value of a field; null if there is none. -/
def at_ (value : Json) (name : String) : Json :=
  (value.get? name).getD null

/-- The text that the value is, if it is one. -/
def text? : Json → Option String
  | text s => some s
  | _ => none

/-- The integer that the value is, if it is one. -/
def int? : Json → Option Int
  | int n => some n
  | _ => none

/-- The items of a list; none for a value of another kind. -/
def items : Json → List Json
  | list items => items
  | _ => []

/-- The fields of an object; none for a value of another kind. -/
def fields : Json → Fields
  | object fields => fields
  | _ => []

/-- A list of texts. -/
def texts (l : List String) : Json :=
  list (l.map text)

/-- A text, or null. -/
def ofText? : Option String → Json
  | none => null
  | some s => text s

/-- The word for the kind of a value that should have been an object. -/
def kindWord : Json → String
  | null => "NoneType"
  | bool _ => "bool"
  | int _ => "int"
  | float _ => "float"
  | text _ => "str"
  | list _ => "list"
  | object _ => "dict"

end Json

end WebPilot
