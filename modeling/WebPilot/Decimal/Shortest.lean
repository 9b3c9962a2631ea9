import WebPilot.Decimal.Binary

/-!
# The fewest digits that read back

A number of 64 bits stands for the interval of reals that round to it; its ends belong to it when
the significand is even.  The shortest decimal is searched grid by grid: on the grid of one digit,
of two, and so on, the two neighbours of the exact value are tested, and the first grid with one
inside the interval wins.  Of two such neighbours the nearer is taken, and the even one on a tie.
-/

namespace WebPilot.Decimal

set_option autoImplicit false

/-- The decimal `digits * 10 ^ e`. -/
structure Scientific where
  digits : Nat
  e : Int
  deriving DecidableEq, Repr

/-- A decimal as an exact quotient. -/
def Scientific.quotient (d : Scientific) : Nat × Nat :=
  (d.digits * Nat.pow 10 d.e.toNat, Nat.pow 10 (-d.e).toNat)

/-- The ends of the interval that rounds to the magnitude, in quarters of its last place. -/
def Binary.bounds (b : Binary) : Nat × Nat :=
  (4 * b.m - (if b.narrowBelow then 1 else 2), 4 * b.m + 2)

/-- Whether the decimal lies in the interval that rounds to the magnitude. -/
def Binary.readsBack (b : Binary) (d : Scientific) : Bool :=
  let dec := d.quotient
  -- both sides are multiplied out to the unit of a quarter of the last place
  let value := 4 * dec.1 * Nat.pow 2 (-b.q).toNat
  let unit := dec.2 * Nat.pow 2 b.q.toNat
  let low := b.bounds.1 * unit
  let high := b.bounds.2 * unit
  if b.m % 2 = 0 then low ≤ value && value ≤ high else low < value && value < high

/-- How many zeros follow the point of a quotient below one, at most `fuel`. -/
def zerosAfterPoint : (fuel : Nat) → (num den : Nat) → Nat
  | 0, _, _ => 0
  | fuel + 1, num, den => if den ≤ 10 * num then 0 else 1 + zerosAfterPoint fuel (10 * num) den

/-- The least `k` with the quotient below `10 ^ k`. -/
def scale (num den : Nat) : Int :=
  if den ≤ num then (Nat.toDigits 10 (num / den)).length else -(zerosAfterPoint 400 num den)

/-- The shortest decimal on the grid `10 ^ e`, if one of the value's two neighbours there reads
back. -/
def Binary.onGrid? (b : Binary) (e : Int) : Option Scientific :=
  let value := b.quotient
  let num := value.1 * Nat.pow 10 (-e).toNat
  let den := value.2 * Nat.pow 10 e.toNat
  let below := num / den
  let lower : Scientific := ⟨below, e⟩
  let upper : Scientific := ⟨below + 1, e⟩
  match b.readsBack lower, b.readsBack upper with
  | true, true => some ⟨roundDiv num den, e⟩
  | true, false => some lower
  | false, true => some upper
  | false, false => none

/-- The decimal without zeros at its end. -/
def Scientific.strip : (fuel : Nat) → Scientific → Scientific
  | 0, d => d
  | fuel + 1, d =>
    if d.digits ≠ 0 ∧ d.digits % 10 = 0 then Scientific.strip fuel ⟨d.digits / 10, d.e + 1⟩ else d

/-- The shortest decimal that reads back to a magnitude other than zero.  Seventeen digits always
suffice; the exact value stands behind them. -/
def Binary.shortest (b : Binary) : Scientific :=
  let value := b.quotient
  let k := scale value.1 value.2
  let found := (List.range 17).findSome? fun n => b.onGrid? (k - (n + 1 : Nat))
  let exact : Scientific := ⟨b.m * Nat.pow 2 b.q.toNat * Nat.pow 5 (-b.q).toNat, -(-b.q).toNat⟩
  (found.getD exact).strip 400

end WebPilot.Decimal
