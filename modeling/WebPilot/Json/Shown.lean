import WebPilot.Decimal.Numeral
import WebPilot.Failure
import WebPilot.Json.Writer

/-!
# Values that are shown

What is shown of a value to the operator, or to whoever follows a session, is its written form.  The
writer goes through the value in order, and stops at the first thing that it cannot write: an
integer that is longer than any numeral that is read, or a container inside of more containers than
the stack of the program has room for.

Main statement: `shownFault?_eq_none_iff` says which values can be shown.
-/

namespace WebPilot.Json

set_option autoImplicit false

/-- What is said of an integer that is too long to be written out. -/
def longIntReport : String :=
  s!"Exceeds the limit ({Decimal.maxIntegerDigits} digits) for integer string conversion; " ++
  "use sys.set_int_max_str_digits() to increase the limit"

/-- Why a value cannot be shown. -/
inductive ShownFault where
  | longInt
  | tooDeep
  deriving DecidableEq, Repr

/-- The fault as a failure, for a value in a style. -/
def ShownFault.failure (style : Style) : ShownFault → Failure
  | longInt => .badValue longIntReport
  | tooDeep => .tooDeepToShow style.indent.isSome

mutual

/-- The first fault that is met in a value, where there is room for `room` containers in each
other. -/
def shownFault? (room : Nat) : Json → Option ShownFault
  | int n =>
    if (Decimal.natDigits n.natAbs).length ≤ Decimal.maxIntegerDigits then none else some .longInt
  | list items =>
    match room with
    | 0 => some .tooDeep
    | room + 1 => shownFaultOfItems? room items
  | object fields =>
    match room with
    | 0 => some .tooDeep
    | room + 1 => shownFaultOfFields? room fields
  | _ => none

/-- The first fault that is met in the items of a list. -/
def shownFaultOfItems? (room : Nat) : List Json → Option ShownFault
  | [] => none
  | item :: items => (shownFault? room item).or (shownFaultOfItems? room items)

/-- The first fault that is met in the values of fields. -/
def shownFaultOfFields? (room : Nat) : List (String × Json) → Option ShownFault
  | [] => none
  | (_, value) :: fields => (shownFault? room value).or (shownFaultOfFields? room fields)

end

/-- The written form of a value, if it can be shown. -/
def writeShown (room : Nat) (style : Style) (value : Json) : Except Failure String :=
  match shownFault? room value with
  | none => .ok (write style value)
  | some fault => .error (fault.failure style)

/-! ## Which values can be shown -/

mutual

/-- How many containers stand in each other in a value. -/
def depth : Json → Nat
  | list items => depthOfItems items + 1
  | object fields => depthOfFields fields + 1
  | _ => 0

/-- How many containers stand in each other in the items of a list. -/
def depthOfItems : List Json → Nat
  | [] => 0
  | item :: items => max (depth item) (depthOfItems items)

/-- How many containers stand in each other in the values of fields. -/
def depthOfFields : List (String × Json) → Nat
  | [] => 0
  | (_, value) :: fields => max (depth value) (depthOfFields fields)

end

mutual

/-- **A value can be shown exactly if there is room for its containers and none of its integers is
too long.** -/
theorem shownFault?_eq_none_iff (room : Nat) (value : Json) :
    shownFault? room value = none ↔
      depth value ≤ room ∧ longestInt value ≤ Decimal.maxIntegerDigits := by
  cases value with
  | null | bool _ | float _ | text _ => simp [shownFault?, depth, longestInt]
  | int n => simp [shownFault?, depth, longestInt]
  | list items =>
      cases room with
      | zero => simp [shownFault?, depth]
      | succ room =>
          rw [shownFault?, shownFaultOfItems?_eq_none_iff, depth, longestInt,
            Nat.add_le_add_iff_right]
  | object fields =>
      cases room with
      | zero => simp [shownFault?, depth]
      | succ room =>
          rw [shownFault?, shownFaultOfFields?_eq_none_iff, depth, longestInt,
            Nat.add_le_add_iff_right]

theorem shownFaultOfItems?_eq_none_iff (room : Nat) (items : List Json) :
    shownFaultOfItems? room items = none ↔
      depthOfItems items ≤ room ∧ longestIntOfItems items ≤ Decimal.maxIntegerDigits := by
  cases items with
  | nil => simp [shownFaultOfItems?, depthOfItems, longestIntOfItems]
  | cons item items =>
      rw [shownFaultOfItems?, Option.or_eq_none_iff, shownFault?_eq_none_iff,
        shownFaultOfItems?_eq_none_iff, depthOfItems, longestIntOfItems, Nat.max_le, Nat.max_le]
      exact and_and_and_comm

theorem shownFaultOfFields?_eq_none_iff (room : Nat) (fields : List (String × Json)) :
    shownFaultOfFields? room fields = none ↔
      depthOfFields fields ≤ room ∧ longestIntOfFields fields ≤ Decimal.maxIntegerDigits := by
  cases fields with
  | nil => simp [shownFaultOfFields?, depthOfFields, longestIntOfFields]
  | cons field fields =>
      obtain ⟨name, value⟩ := field
      rw [shownFaultOfFields?, Option.or_eq_none_iff, shownFault?_eq_none_iff,
        shownFaultOfFields?_eq_none_iff, depthOfFields, longestIntOfFields, Nat.max_le, Nat.max_le]
      exact and_and_and_comm

end

end WebPilot.Json
