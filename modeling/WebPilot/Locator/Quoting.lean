import WebPilot.Text.Pieces

/-!
# Quoting values in page queries

A value goes into an attribute selector as a quoted string, and into a path expression as a literal.
A literal has no escapes, so a value with both kinds of quotes is put together from pieces.
-/

namespace WebPilot.Locator

set_option autoImplicit false

/-- How a character stands inside a quoted string of a selector. -/
def selectorChar (c : Char) : List Char :=
  if c = '\\' then ['\\', '\\']
  else if c = '"' then ['\\', '"']
  else if c = '\n' then ['\\', 'a', ' ']
  else [c]

/-- A value as a quoted string of a selector. -/
def selectorString (value : String) : String :=
  String.ofList ('"' :: value.toList.flatMap selectorChar ++ ['"'])

/-- A literal between quotes. -/
def literalBetween (quote : Char) (cs : List Char) : List Char :=
  quote :: cs ++ [quote]

/-- A value as an expression that evaluates to it: a literal, or a call that joins literals, where
double quotes stand in pieces of their own. -/
def pathLiteral (value : String) : String :=
  let cs := value.toList
  String.ofList <|
    if !cs.contains '"' then literalBetween '"' cs
    else if !cs.contains '\'' then literalBetween '\'' cs
    else
      let pieces := (Text.splitOn '"' cs).map (literalBetween '"')
      let separator := [',', ' '] ++ literalBetween '\'' ['"'] ++ [',', ' ']
      "concat(".toList ++ Text.joinWith separator pieces ++ [')']

end WebPilot.Locator
