import WebPilot.Decimal.Shortest

/-!
# How numbers are laid out

The digits of a number are the shortest that read back.  A layout decides how they are written:
which exponents are positional, how many digits an exponent has at least, and what stands for the
values that are not finite.  With a fixed number of places it is the exact binary value that is
rounded, to the even neighbour on a tie.
-/

namespace WebPilot.Decimal

set_option autoImplicit false

/-- The decisions of a number format.  An exponent is that of the leading digit; those from
`plainFrom` up to `plainBelow` are written positionally. -/
structure Layout where
  plainFrom : Int
  plainBelow : Int
  exponentWidth : Nat
  infinite : String
  minusInfinite : String
  undefined : String

/-- The digits of a natural number. -/
def natDigits (n : Nat) : List Char :=
  Nat.toDigits 10 n

/-- The digits of an integer, with a sign if it is negative. -/
def intDigits (n : Int) : List Char :=
  if n < 0 then '-' :: natDigits n.natAbs else natDigits n.natAbs

/-- Digits filled up with zeros on the left. -/
def padLeft (width : Nat) (cs : List Char) : List Char :=
  List.replicate (width - cs.length) '0' ++ cs

/-- The digits written with a point, which always has a digit on either side. -/
def positional (digits : List Char) (leading : Int) : List Char :=
  if leading < 0 then
    '0' :: '.' :: List.replicate (-leading - 1).toNat '0' ++ digits
  else
    let whole := leading.toNat + 1
    if digits.length ≤ whole then
      digits ++ List.replicate (whole - digits.length) '0' ++ ['.', '0']
    else digits.take whole ++ '.' :: digits.drop whole

/-- The digits written with one before the point and an exponent. -/
def scientific (width : Nat) (digits : List Char) (leading : Int) : List Char :=
  let mantissa := match digits with
    | [] => []
    | [d] => [d]
    | d :: rest => d :: '.' :: rest
  mantissa ++ 'e' :: (if leading < 0 then '-' else '+') ::
    padLeft width (natDigits leading.natAbs)

/-- The magnitude of a finite number. -/
def Layout.magnitude (l : Layout) (x : Float) : List Char :=
  let b := Binary.ofFloat x
  if b.m = 0 then ['0', '.', '0']
  else
    let d := b.shortest
    let digits := natDigits d.digits
    let leading : Int := digits.length + d.e - 1
    if l.plainFrom ≤ leading ∧ leading < l.plainBelow then positional digits leading
    else scientific l.exponentWidth digits leading

/-- A number in the layout. -/
def Layout.write (l : Layout) (x : Float) : String :=
  if x.isNaN then l.undefined
  else if x.isInf then (if hasSign x then l.minusInfinite else l.infinite)
  else String.ofList ((if hasSign x then ['-'] else []) ++ l.magnitude x)

/-- The layout of displays: positional from four places after the point up to sixteen digits, and
exponents of at least two digits. -/
def Layout.display : Layout :=
  ⟨-4, 16, 2, "inf", "-inf", "nan"⟩

/-- The exact value with `places` digits after the point. -/
def fixed (places : Nat) (x : Float) : String :=
  let sign := if hasSign x then ['-'] else []
  if x.isNaN then "nan"
  else if x.isInf then String.ofList (sign ++ "inf".toList)
  else
    let value := (Binary.ofFloat x).quotient
    let digits := padLeft (places + 1) (natDigits (roundDiv (value.1 * Nat.pow 10 places) value.2))
    let whole := digits.length - places
    let tail := if places = 0 then [] else '.' :: digits.drop whole
    String.ofList (sign ++ digits.take whole ++ tail)

end WebPilot.Decimal
