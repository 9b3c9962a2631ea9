/-!
# Cutting and joining

Texts are cut at single characters or at words, and joined again.
-/

namespace WebPilot.Text

set_option autoImplicit false

/-- The pieces between the members equal to `sep`; never empty. -/
def splitOn {α : Type} [DecidableEq α] (sep : α) : List α → List (List α)
  | [] => [[]]
  | c :: rest =>
    if c = sep then [] :: splitOn sep rest
    else match splitOn sep rest with
      | [] => [[c]]
      | piece :: pieces => (c :: piece) :: pieces

/-- The pieces put together again with `sep` between them. -/
def joinWith {α : Type} (sep : List α) : List (List α) → List α
  | [] => []
  | [piece] => piece
  | piece :: pieces => piece ++ sep ++ joinWith sep pieces

/-- Whether `part` occurs in the list. -/
def occursIn {α : Type} [DecidableEq α] (part : List α) : List α → Bool
  | [] => part.isEmpty
  | c :: rest => part.isPrefixOf (c :: rest) || occursIn part rest

/-- The list up to the first occurrence of `part`, and what follows that occurrence. -/
def cutAt? {α : Type} [DecidableEq α] (part : List α) : List α → Option (List α × List α)
  | [] => if part.isEmpty then some ([], []) else none
  | c :: rest =>
    if part.isPrefixOf (c :: rest) then some ([], (c :: rest).drop part.length)
    else (cutAt? part rest).map fun cut => (c :: cut.1, cut.2)

/-- The lines of a text, as one text. -/
def lines (ls : List String) : String :=
  String.intercalate "\n" ls

/-- Whether the text starts with `start`. -/
def startsWith (s start : String) : Bool :=
  start.toList.isPrefixOf s.toList

/-- Whether the text ends with `tail`. -/
def endsWith (s tail : String) : Bool :=
  tail.toList.isSuffixOf s.toList

end WebPilot.Text
