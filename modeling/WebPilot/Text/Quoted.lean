import WebPilot.Text.Hex
import WebPilot.Text.Visible

/-!
# Quoted texts on display

A text is displayed between quotes, with everything that a display could not show spelled out.
Single quotes are preferred; double quotes stand where the text has single ones and no double ones.
-/

namespace WebPilot.Text.Quoted

set_option autoImplicit false

/-- The quote that a text is displayed with. -/
def quoteFor (cs : List Char) : Char :=
  if cs.contains '\'' && !cs.contains '"' then '"' else '\''

/-- How one character is displayed between such quotes. -/
def spell (quote : Char) (c : Char) : List Char :=
  if c = '\\' ∨ c = quote then ['\\', c]
  else if c = '\n' then ['\\', 'n']
  else if c = '\r' then ['\\', 'r']
  else if c = '\t' then ['\\', 't']
  else if isVisible c then [c]
  else if c.toNat < 0x100 then '\\' :: 'x' :: hexDigits 2 c.toNat
  else if c.toNat < 0x10000 then '\\' :: 'u' :: hexDigits 4 c.toNat
  else '\\' :: 'U' :: hexDigits 8 c.toNat

/-- The displayed characters, quotes included. -/
def display (cs : List Char) : List Char :=
  let quote := quoteFor cs
  quote :: cs.flatMap (spell quote) ++ [quote]

/-- The displayed text, quotes included. -/
def ofText (s : String) : String :=
  String.ofList (display s.toList)

end WebPilot.Text.Quoted
