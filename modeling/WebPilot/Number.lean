import WebPilot.Json.Basic
import WebPilot.Decimal.Layout

/-!
# Settings that are numbers

A number in a configuration is whole or of 64 bits, and stays what it is wherever it is passed on.
Only durations are always numbers of 64 bits.
-/

namespace WebPilot

set_option autoImplicit false

/-- A whole number or one of 64 bits. -/
inductive Number where
  | whole (n : Int)
  | real (x : Float)
  deriving Repr

namespace Number

/-- The number as a value. -/
def toJson : Number → Json
  | whole n => .int n
  | real x => .float x

/-- The number on display. -/
def text : Number → String
  | whole n => toString n
  | real x => Decimal.Layout.display.write x

/-- The number that a value is, if it is one. -/
def ofJson? : Json → Option Number
  | .int n => some (whole n)
  | .float x => some (real x)
  | _ => none

/-- The nearest number of 64 bits. -/
def toFloat : Number → Float
  | whole n => Decimal.nearestInt n
  | real x => x

/-- The nearest number of 64 bits, unless an integer is too large to have one. -/
def toFloat? : Number → Option Float
  | whole n =>
    let x := Decimal.nearestInt n
    if x.isFinite then some x else none
  | real x => some x

/-- Whether the number is above zero. -/
def isPositive : Number → Bool
  | whole n => decide (0 < n)
  | real x => decide (x > 0.0)

/-- The number multiplied by a count. -/
def times : Number → Nat → Number
  | whole n, k => whole (n * k)
  | real x, k => real (x * Decimal.nearestInt k)

end Number

end WebPilot
