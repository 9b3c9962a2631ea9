import WebPilot.Text.Pieces

/-!
# Paths

A path is a root, perhaps empty, and the names below it.  Repeated slashes and single points mean
nothing and are dropped; a double point is kept, for what it means depends on the files.
-/

namespace WebPilot

set_option autoImplicit false

/-- A path: slashes in front, and names. -/
structure Path where
  slashes : Nat
  names : List String
  deriving DecidableEq, Repr, Inhabited

namespace Path

/-- Reads a path.  Two slashes in front are kept, any other number but none counts as one. -/
def ofText (s : String) : Path :=
  let lead := (s.toList.takeWhile (· = '/')).length
  let pieces := (Text.splitOn '/' s.toList).map String.ofList
  ⟨if lead = 2 then 2 else min lead 1, pieces.filter fun piece => piece ≠ "" ∧ piece ≠ "."⟩

/-- The path as text; a point stands for the empty path. -/
def text (p : Path) : String :=
  let names := String.intercalate "/" p.names
  if p.slashes = 0 ∧ p.names = [] then "."
  else String.ofList (List.replicate p.slashes '/') ++ names

/-- A path below another. -/
def child (p : Path) (name : String) : Path :=
  ⟨p.slashes, p.names ++ [name]⟩

/-- The path in its plain form. -/
def tidy (s : String) : String :=
  (ofText s).text

end Path

end WebPilot
