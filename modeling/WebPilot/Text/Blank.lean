/-!
# Blanks and line breaks

A property of characters is kept as a list of ascending, disjoint ranges of code points, both ends
included.  Three such sets are told apart here.  *White space* is the property of that name.
*Blanks* are white space and the four information separators; they are what trimming removes.
*Line breaks* end a line.
-/

namespace WebPilot.Text

set_option autoImplicit false

/-- Whether one of the ranges holds the character. -/
def inRanges (ranges : List (Nat × Nat)) (c : Char) : Bool :=
  ranges.any fun range => decide (range.1 ≤ c.toNat ∧ c.toNat ≤ range.2)

/-- The property of being white space. -/
def isWhiteSpace (c : Char) : Bool :=
  inRanges [(0x9, 0xd), (0x20, 0x20), (0x85, 0x85), (0xa0, 0xa0), (0x1680, 0x1680),
    (0x2000, 0x200a), (0x2028, 0x2029), (0x202f, 0x202f), (0x205f, 0x205f), (0x3000, 0x3000)] c

/-- White space or an information separator. -/
def isBlank (c : Char) : Bool :=
  isWhiteSpace c || inRanges [(0x1c, 0x1f)] c

/-- The characters that end a line. -/
def isLineBreak (c : Char) : Bool :=
  inRanges [(0xa, 0xd), (0x1c, 0x1e), (0x85, 0x85), (0x2028, 0x2029)] c

/-- The list without the members at its end that satisfy `p`. -/
def dropRight {α : Type} (p : α → Bool) (cs : List α) : List α :=
  (cs.reverse.dropWhile p).reverse

/-- The list without the members at either end that satisfy `p`. -/
def trimBy {α : Type} (p : α → Bool) (cs : List α) : List α :=
  dropRight p (cs.dropWhile p)

/-- The text without the blanks at its ends. -/
def trim (cs : List Char) : List Char :=
  trimBy isBlank cs

/-- The text up to its first line break. -/
def firstLine (s : String) : String :=
  String.ofList (s.toList.takeWhile (!isLineBreak ·))

/-- Carriage returns, alone or before a line feed, become line feeds. -/
def unifyBreaks : List Char → List Char
  | [] => []
  | '\r' :: '\n' :: rest => '\n' :: unifyBreaks rest
  | c :: rest => (if c = '\r' then '\n' else c) :: unifyBreaks rest

end WebPilot.Text
