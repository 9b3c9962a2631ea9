import WebPilot.Text.Blank
import WebPilot.Text.Pieces

/-!
# Console markup

The operator's console reads tags in square brackets.  Text from elsewhere is escaped before it is
shown: a backslash goes before each bracket that would open a tag, the backslashes already standing
there are doubled, and a text is never left ending in a single backslash.
-/

namespace WebPilot.Text.Markup

set_option autoImplicit false

/-- Whether a bracket followed by these characters opens a tag: a tag starts with a small letter,
a hash, a slash or an at sign and closes before another bracket opens. -/
def opensTag : List Char → Bool
  | [] => false
  | c :: rest =>
    (decide ('a' ≤ c ∧ c ≤ 'z') || c == '#' || c == '/' || c == '@') &&
      (rest.dropWhile fun d => d != '[' && d != ']').head? == some ']'

/-- Escapes the characters after a run of `slashes` backslashes. -/
def escapeFrom (slashes : Nat) : List Char → List Char
  | [] => List.replicate slashes '\\'
  | c :: rest =>
    if c = '\\' then escapeFrom (slashes + 1) rest
    else if c = '[' ∧ opensTag rest = true then
      List.replicate (2 * slashes + 1) '\\' ++ c :: escapeFrom 0 rest
    else List.replicate slashes '\\' ++ c :: escapeFrom 0 rest

/-- A single backslash at the end is doubled, so that it cannot escape what is put after the text. -/
def closeEnd (cs : List Char) : List Char :=
  match cs.reverse with
  | '\\' :: '\\' :: _ => cs
  | '\\' :: _ => cs ++ ['\\']
  | _ => cs

/-- The text as it has to be given to the console to be shown as it stands. -/
def escape (s : String) : String :=
  String.ofList (closeEnd (escapeFrom 0 s.toList))

/-! ## Tags -/

/-- A tag: its name, and what stands after an equals sign. -/
structure Tag where
  name : String
  parameters : Option String := none
  deriving DecidableEq, Repr

namespace Tag

/-- The tag that is written so between brackets. -/
def ofChars (cs : List Char) : Tag :=
  match cutAt? ['='] cs with
  | none => ⟨String.ofList cs, none⟩
  | some (name, parameters) => ⟨String.ofList name, some (String.ofList parameters)⟩

/-- The tag as it is written. -/
def text (tag : Tag) : String :=
  match tag.parameters with
  | none => s!"[{tag.name}]"
  | some parameters => s!"[{tag.name}={parameters}]"

/-- The name of what the tag closes, empty if it closes whatever was opened last; nothing if it is a
tag that opens something. -/
def closes? (tag : Tag) : Option String :=
  match tag.name.toList with
  | '/' :: name => some (String.ofList (trim name))
  | _ => none

end Tag

/-- The tags of the characters after a run of `slashes` backslashes, each with its place.  A bracket
behind an odd number of backslashes opens none. -/
def tagsFrom (place slashes : Nat) : List Char → List (Nat × Tag)
  | [] => []
  | c :: rest =>
    if c = '\\' then tagsFrom (place + 1) (slashes + 1) rest
    else if c = '[' ∧ opensTag rest = true ∧ slashes % 2 = 0 then
      (place, .ofChars (rest.takeWhile (· ≠ ']'))) :: tagsFrom (place + 1) 0 rest
    else tagsFrom (place + 1) 0 rest

/-- The tags of a text. -/
def tags (markup : String) : List (Nat × Tag) :=
  tagsFrom 0 0 markup.toList

end WebPilot.Text.Markup
