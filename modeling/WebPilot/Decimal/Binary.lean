/-!
# Numbers of 64 bits and exact quotients

A finite number of 64 bits is m times a power of two.  This module takes such a number apart and
puts the one nearest to an exact quotient together, so that every rounding in the library happens
in exact arithmetic: once, to the nearest number, and to the even one of two.
-/

namespace WebPilot.Decimal

set_option autoImplicit false

/-- The finite magnitude `m * 2 ^ q`. -/
structure Binary where
  m : Nat
  q : Int
  /-- Whether the gap to the number below is half the gap to the number above. -/
  narrowBelow : Bool
  deriving DecidableEq, Repr

/-- The magnitude in the bits of a finite number. -/
def Binary.ofFloat (x : Float) : Binary :=
  let bits := x.toBits.toNat % Nat.pow 2 63
  let e : Nat := bits / Nat.pow 2 52
  let f : Nat := bits % Nat.pow 2 52
  if e = 0 then ⟨f, -1074, false⟩ else ⟨Nat.pow 2 52 + f, (e : Int) - 1075, f = 0 ∧ 1 < e⟩

/-- The magnitude as an exact quotient. -/
def Binary.quotient (b : Binary) : Nat × Nat :=
  (b.m * Nat.pow 2 b.q.toNat, Nat.pow 2 (-b.q).toNat)

/-- Whether the sign bit is set; a negative zero has it too. -/
def hasSign (x : Float) : Bool :=
  Nat.pow 2 63 ≤ x.toBits.toNat

/-- The quotient rounded to the nearest integer, to the even one of two. -/
def roundDiv (num den : Nat) : Nat :=
  let whole := num / den
  let twice := 2 * (num % den)
  if twice < den then whole
  else if den < twice then whole + 1
  else if whole % 2 = 0 then whole else whole + 1

/-- The quotient divided by `2 ^ q`, as a quotient. -/
def scaled (num den : Nat) (q : Int) : Nat × Nat :=
  (num * Nat.pow 2 (-q).toNat, den * Nat.pow 2 q.toNat)

/-- The number nearest to a quotient; beyond the largest one it is infinite. -/
def nearest (num den : Nat) : Float :=
  let guess : Int := if num = 0 then -1074 else max ((num.log2 : Int) - den.log2 - 53) (-1074)
  let first := scaled num den guess
  let q := if first.1 / first.2 < Nat.pow 2 53 then guess else guess + 1
  let exact := scaled num den q
  let bits := (q + 1074).toNat * Nat.pow 2 52 + roundDiv exact.1 exact.2
  Float.ofBits (UInt64.ofNat (min bits (0x7ff * Nat.pow 2 52)))

/-- The number nearest to an exact fraction. -/
def nearestRat (r : Rat) : Float :=
  let magnitude := nearest r.num.natAbs r.den
  if r.num < 0 then -magnitude else magnitude

/-- The number nearest to an integer. -/
def nearestInt (n : Int) : Float :=
  let magnitude := nearest n.natAbs 1
  if n < 0 then -magnitude else magnitude

/-- The exact value of a finite number; zero stands for the others. -/
def exactValue (x : Float) : Rat :=
  if x.isFinite then
    let parts := (Binary.ofFloat x).quotient
    let magnitude := mkRat parts.1 parts.2
    if hasSign x then -magnitude else magnitude
  else 0

/-- The number nearest to `digits * 10 ^ e`.  Exponents far outside the range are settled without
writing the power out. -/
def ofDecimal (digits : Nat) (e : Int) : Float :=
  let size : Int := (Nat.toDigits 10 digits).length + e
  if digits = 0 ∨ size < -400 then 0.0
  else if 400 < size then nearest (Nat.pow 10 400) 1
  else nearest (digits * Nat.pow 10 e.toNat) (Nat.pow 10 (-e).toNat)

end WebPilot.Decimal
