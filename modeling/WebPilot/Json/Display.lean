import WebPilot.Json.Basic
import WebPilot.Decimal.Layout
import WebPilot.Text.Quoted

/-!
# Values on display

The operator sees a value in the display notation: quoted texts, `None`, `True` and `False`, and
containers on one line.
-/

namespace WebPilot.Json

set_option autoImplicit false

mutual

/-- A value on display. -/
def display : Json → List Char
  | null => "None".toList
  | bool true => "True".toList
  | bool false => "False".toList
  | int n => Decimal.intDigits n
  | float x => (Decimal.Layout.display.write x).toList
  | text s => Text.Quoted.display s.toList
  | list [] => ['[', ']']
  | list (item :: items) => '[' :: display item ++ displayItems items ++ [']']
  | object [] => ['\x7b', '\x7d']
  | object ((name, value) :: fields) =>
    '\x7b' :: Text.Quoted.display name.toList ++ ':' :: ' ' :: display value ++
      displayFields fields ++ ['\x7d']

/-- The items after the first. -/
def displayItems : List Json → List Char
  | [] => []
  | item :: items => ',' :: ' ' :: display item ++ displayItems items

/-- The fields after the first. -/
def displayFields : List (String × Json) → List Char
  | [] => []
  | (name, value) :: fields =>
    ',' :: ' ' :: Text.Quoted.display name.toList ++ ':' :: ' ' :: display value ++
      displayFields fields

end

/-- A value as text: a text as it stands, anything else as on display. -/
def asText : Json → String
  | text s => s
  | value => String.ofList (display value)

end WebPilot.Json
