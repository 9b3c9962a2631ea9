import WebPilot.Json.Basic
import WebPilot.Decimal.Layout
import WebPilot.Text.Hex

/-!
# Writing JSON

A style fixes the gaps after commas and colons, the indentation, whether every character but the
printable ones of ASCII is spelled out in units of sixteen bits, and the layout of numbers.
Everything else is common to all styles: the two-character escapes, empty containers without a
break inside, and the order of the fields.
-/

namespace WebPilot.Json

set_option autoImplicit false

/-- The decisions of a written form. -/
structure Style where
  indent : Option Nat
  itemGap : String
  colonGap : String
  asciiOnly : Bool
  number : Decimal.Layout

/-- One line, with blanks after commas and colons, in printable ASCII. -/
def Style.line : Style where
  indent := none
  itemGap := " "
  colonGap := " "
  asciiOnly := true
  number := ⟨-4, 16, 2, "Infinity", "-Infinity", "NaN"⟩

/-- Two blanks for each level, in printable ASCII. -/
def Style.page : Style :=
  { Style.line with indent := some 2 }

/-- The compact form of records: no blanks, characters as they are, and null for numbers that are
not finite. -/
def Style.record : Style where
  indent := none
  itemGap := ""
  colonGap := ""
  asciiOnly := false
  number := ⟨-5, 16, 1, "null", "null", "null"⟩

/-- The form of record files: two blanks for each level. -/
def Style.file : Style :=
  { Style.record with indent := some 2, colonGap := " " }

/-- An escape of sixteen bits. -/
def unitEscape (unit : Nat) : List Char :=
  '\\' :: 'u' :: Text.hexDigits 4 unit

/-- How a character stands inside a text. -/
def writeChar (asciiOnly : Bool) (c : Char) : List Char :=
  if c = '"' then ['\\', '"']
  else if c = '\\' then ['\\', '\\']
  else if c = '\n' then ['\\', 'n']
  else if c = '\r' then ['\\', 'r']
  else if c = '\t' then ['\\', 't']
  else if c.toNat = 8 then ['\\', 'b']
  else if c.toNat = 12 then ['\\', 'f']
  else if c.toNat < 0x20 then unitEscape c.toNat
  else if asciiOnly = true ∧ 0x7f ≤ c.toNat then
    if c.toNat < 0x10000 then unitEscape c.toNat
    else
      let above := c.toNat - 0x10000
      unitEscape (0xd800 + above / 1024) ++ unitEscape (0xdc00 + above % 1024)
  else [c]

/-- A text between quotes. -/
def writeText (asciiOnly : Bool) (s : String) : List Char :=
  '"' :: s.toList.flatMap (writeChar asciiOnly) ++ ['"']

/-- The break before a line at some depth; nothing in a form without lines. -/
def Style.lineBreak (style : Style) (depth : Nat) : List Char :=
  match style.indent with
  | none => []
  | some n => '\n' :: List.replicate (n * depth) ' '

/-- What follows a comma. -/
def Style.afterComma (style : Style) (depth : Nat) : List Char :=
  match style.indent with
  | none => style.itemGap.toList
  | some _ => style.lineBreak depth

mutual

/-- A value at some depth. -/
def writeAt (style : Style) (depth : Nat) : Json → List Char
  | null => "null".toList
  | bool true => "true".toList
  | bool false => "false".toList
  | int n => Decimal.intDigits n
  | float x => (style.number.write x).toList
  | text s => writeText style.asciiOnly s
  | list [] => ['[', ']']
  | list (item :: items) =>
    '[' :: style.lineBreak (depth + 1) ++ writeAt style (depth + 1) item ++
      writeItems style (depth + 1) items ++ style.lineBreak depth ++ [']']
  | object [] => ['\x7b', '\x7d']
  | object ((name, value) :: fields) =>
    '\x7b' :: style.lineBreak (depth + 1) ++ writeText style.asciiOnly name ++
      ':' :: style.colonGap.toList ++ writeAt style (depth + 1) value ++
      writeFields style (depth + 1) fields ++ style.lineBreak depth ++ ['\x7d']

/-- The items after the first, each with its comma. -/
def writeItems (style : Style) (depth : Nat) : List Json → List Char
  | [] => []
  | item :: items =>
    ',' :: style.afterComma depth ++ writeAt style depth item ++ writeItems style depth items

/-- The fields after the first, each with its comma. -/
def writeFields (style : Style) (depth : Nat) : List (String × Json) → List Char
  | [] => []
  | (name, value) :: fields =>
    ',' :: style.afterComma depth ++ writeText style.asciiOnly name ++
      ':' :: style.colonGap.toList ++ writeAt style depth value ++
      writeFields style depth fields

end

mutual

/-- How deep values nest in a value; one without others inside counts one. -/
def nesting : Json → Nat
  | list items => nestingOfItems items + 1
  | object fields => nestingOfFields fields + 1
  | _ => 1

/-- How deep values nest in the items of a list. -/
def nestingOfItems : List Json → Nat
  | [] => 0
  | item :: items => max (nesting item) (nestingOfItems items)

/-- How deep values nest in the values of fields. -/
def nestingOfFields : List (String × Json) → Nat
  | [] => 0
  | (_, value) :: fields => max (nesting value) (nestingOfFields fields)

end

mutual

/-- How many digits the longest integer in a value has; none without an integer. -/
def longestInt : Json → Nat
  | int n => (Decimal.natDigits n.natAbs).length
  | list items => longestIntOfItems items
  | object fields => longestIntOfFields fields
  | _ => 0

/-- How many digits the longest integer in the items of a list has. -/
def longestIntOfItems : List Json → Nat
  | [] => 0
  | item :: items => max (longestInt item) (longestIntOfItems items)

/-- How many digits the longest integer in the values of fields has. -/
def longestIntOfFields : List (String × Json) → Nat
  | [] => 0
  | (_, value) :: fields => max (longestInt value) (longestIntOfFields fields)

end

/-- How deep a free value of a record may nest if the record is to be written. -/
def maxWrittenNesting : Nat := 255

/-- Whether free fields of a record can be written. -/
def canWriteFields (fields : Fields) : Bool :=
  decide (nestingOfFields fields ≤ maxWrittenNesting)

/-- The written form of a value. -/
def write (style : Style) (value : Json) : String :=
  String.ofList (writeAt style 0 value)

end WebPilot.Json
