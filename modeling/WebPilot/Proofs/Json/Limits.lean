import Mathlib.Algebra.Group.Nat.Defs
import WebPilot.Json.Reader
import WebPilot.Json.Writer

/-!
# What is read is within the limits of the reader

A reader builds a value from texts and scalars, list by list and object by object.  A property that
the reader's scalars have, and that lists and objects get from what is inside them, is a property of
whatever is read (`Inherits.readAll`).  The loops for items and for fields carry what they have
read, and keep that all of it has the property at the depth where it stands.

A reader with a limit refuses to enter one container more than the limit inside each other.  **So
the value that it reads nests at most one deeper than the limit** (`nesting_readAll`): its innermost
values are no containers, or empty ones.  **And if it limits the digits of integers, none of those
that it reads is longer** (`longestInt_readAll`).
-/

namespace WebPilot

set_option autoImplicit false

/-! ## Fields -/

namespace Fields

/-- What is put is the only field that is new. -/
theorem mem_put {name : String} {value : Json} {fields : Fields} {field : String × Json}
    (member : field ∈ put name value fields) : field = (name, value) ∨ field ∈ fields := by
  induction fields with
  | nil => exact .inl (List.mem_singleton.mp member)
  | cons first fields ih =>
      obtain ⟨n, v⟩ := first
      rw [put] at member
      split at member
      · rename_i same
        subst same
        rcases List.mem_cons.mp member with here | later
        · exact .inl here
        · exact .inr (List.mem_cons_of_mem _ later)
      · rcases List.mem_cons.mp member with here | later
        · exact .inr (here ▸ List.mem_cons_self)
        · exact (ih later).imp_right (List.mem_cons_of_mem _)

/-- The fields of pairs are among the pairs. -/
theorem mem_of_mem_ofPairs {pairs : List (String × Json)} {field : String × Json}
    (member : field ∈ ofPairs pairs) : field ∈ pairs := by
  have grows (done rest : List (String × Json))
      (member : field ∈ rest.foldl (fun fields pair => put pair.1 pair.2 fields) done) :
      field ∈ done ∨ field ∈ rest := by
    induction rest generalizing done with
    | nil => exact .inl member
    | cons pair rest ih =>
        rcases ih _ member with before | later
        · rcases mem_put before with here | before
          · exact .inr (here ▸ List.mem_cons_self)
          · exact .inl before
        · exact .inr (List.mem_cons_of_mem _ later)
  exact (grows [] pairs member).resolve_left List.not_mem_nil

end Fields

namespace Json

/-! ## Reading -/

/-- A property that values get from the scalars of a reader and from what is inside them; it may
depend on how many containers they are in. -/
structure Inherits (d : Dialect) (property : Nat → Json → Prop) : Prop where
  text : ∀ depth s, property depth (.text s)
  scalar : ∀ depth cs value rest, readScalar d cs = .ok (value, rest) → property depth value
  list : ∀ depth items, ¬ d.maxDepth.any (· ≤ depth) = true →
    (∀ item ∈ items, property (depth + 1) item) → property depth (.list items)
  object : ∀ depth fields, ¬ d.maxDepth.any (· ≤ depth) = true →
    (∀ field ∈ fields, property (depth + 1) field.2) → property depth (.object fields)

namespace Inherits

variable {d : Dialect} {property : Nat → Json → Prop}

mutual

/-- **A value that is read has every property that it can inherit.** -/
theorem readValue (inherits : Inherits d property) (fuel : Nat) {depth : Nat}
    {cs rest : List Char} {value : Json} (read : Json.readValue d fuel depth cs = .ok (value, rest)) :
    property depth value := by
  match fuel, cs with
  | 0, _ | _ + 1, [] => cases read
  | fuel + 1, c :: cs =>
      rw [Json.readValue] at read
      split at read
      · split at read
        · cases read
          exact inherits.text depth _
        · cases read
      split at read
      · split at read
        · cases read
        · rename_i admitted
          split at read
          · cases read
            exact inherits.list depth [] admitted (by simp)
          · exact inherits.readItems fuel admitted (by simp) read
      split at read
      · split at read
        · cases read
        · rename_i admitted
          split at read
          · cases read
            exact inherits.object depth [] admitted (by simp)
          · exact inherits.readFields fuel admitted (by simp) read
      exact inherits.scalar depth _ _ _ read

/-- The loop for items inside `depth + 1` containers. -/
theorem readItems (inherits : Inherits d property) (fuel : Nat) {depth : Nat}
    (admitted : ¬ d.maxDepth.any (· ≤ depth) = true) {before : List Json}
    (inside : ∀ item ∈ before, property (depth + 1) item) {cs rest : List Char} {value : Json}
    (read : Json.readItems d fuel (depth + 1) before cs = .ok (value, rest)) :
    property depth value := by
  match fuel with
  | 0 => cases read
  | fuel + 1 =>
      rw [Json.readItems] at read
      split at read
      · cases read
      · rename_i item more first
        have longer : ∀ other ∈ item :: before, property (depth + 1) other :=
          List.forall_mem_cons.mpr ⟨inherits.readValue fuel first, inside⟩
        split at read
        · cases read
          exact inherits.list depth _ admitted fun other member =>
            longer other (List.mem_reverse.mp member)
        · exact inherits.readItems fuel admitted longer read
        · cases read

/-- The loop for fields inside `depth + 1` containers. -/
theorem readFields (inherits : Inherits d property) (fuel : Nat) {depth : Nat}
    (admitted : ¬ d.maxDepth.any (· ≤ depth) = true) {before : List (String × Json)}
    (inside : ∀ field ∈ before, property (depth + 1) field.2) {cs rest : List Char} {value : Json}
    (read : Json.readFields d fuel (depth + 1) before cs = .ok (value, rest)) :
    property depth value := by
  match fuel with
  | 0 => cases read
  | fuel + 1 =>
      unfold Json.readFields at read
      split at read
      · split at read
        · cases read
        · rename_i name _ _
          split at read
          · split at read
            · cases read
            · rename_i item more first
              have longer : ∀ other ∈ (name, item) :: before, property (depth + 1) other.2 :=
                List.forall_mem_cons.mpr ⟨inherits.readValue fuel first, inside⟩
              split at read
              · cases read
                exact inherits.object depth _ admitted fun other member =>
                  longer other (List.mem_reverse.mp (Fields.mem_of_mem_ofPairs member))
              · exact inherits.readFields fuel admitted longer read
              · cases read
          · cases read
      · cases read

end

/-- **The value of a text has every property that it can inherit.** -/
theorem readAll (inherits : Inherits d property) {cs : List Char} {value : Json}
    (read : Json.readAll d cs = .ok value) : property 0 value := by
  unfold Json.readAll at read
  split at read
  · cases read
  · split at read
    · cases read
    · rename_i first
      split at read
      · cases read
        exact inherits.readValue _ first
      · cases read

end Inherits

/-! ## Nesting -/

theorem nestingOfItems_le_iff {items : List Json} {n : Nat} :
    nestingOfItems items ≤ n ↔ ∀ item ∈ items, nesting item ≤ n := by
  induction items with
  | nil => simp [nestingOfItems]
  | cons item items ih => rw [nestingOfItems, Nat.max_le, ih, List.forall_mem_cons]

theorem nestingOfFields_le_iff {fields : List (String × Json)} {n : Nat} :
    nestingOfFields fields ≤ n ↔ ∀ field ∈ fields, nesting field.2 ≤ n := by
  induction fields with
  | nil => simp [nestingOfFields]
  | cons field fields ih => rw [nestingOfFields, Nat.max_le, ih, List.forall_mem_cons]

theorem nesting_list_le {items : List Json} {n : Nat}
    (shallow : ∀ item ∈ items, nesting item ≤ n) : nesting (.list items) ≤ n + 1 := by
  rw [nesting]
  exact Nat.succ_le_succ (nestingOfItems_le_iff.mpr shallow)

theorem nesting_object_le {fields : List (String × Json)} {n : Nat}
    (shallow : ∀ field ∈ fields, nesting field.2 ≤ n) : nesting (.object fields) ≤ n + 1 := by
  rw [nesting]
  exact Nat.succ_le_succ (nestingOfFields_le_iff.mpr shallow)

variable {d : Dialect} {limit : Nat}

theorem nesting_words : ∀ word ∈ words, nesting word.2 = 1 := by
  simp [words, nesting]

theorem nesting_numberOf (negative : Bool) (whole fraction : List Char) (exponent : Option Int) :
    nesting (numberOf negative whole fraction exponent) = 1 := by
  unfold numberOf
  split <;> simp [nesting]

theorem nesting_readNumber {negative : Bool} {start cs rest : List Char} {value : Json}
    (read : readNumber d negative start cs = .ok (value, rest)) : nesting value = 1 := by
  unfold readNumber at read
  simp only at read
  split at read
  · cases read
  · split at read
    · cases read
    · cases read
      exact nesting_numberOf _ _ _ _

/-- What is neither a text nor a container has nothing inside. -/
theorem nesting_readScalar {cs rest : List Char} {value : Json}
    (read : readScalar d cs = .ok (value, rest)) : nesting value = 1 := by
  unfold readScalar at read
  split at read
  · rename_i word found
    cases read
    exact nesting_words _ (List.mem_of_find?_eq_some found)
  · split at read <;> exact nesting_readNumber read

/-- What a reader with a limit reads at some depth has the room that is left there. -/
theorem inherits_nesting (limited : d.maxDepth = some limit) :
    Inherits d fun depth value => depth ≤ limit → depth + nesting value ≤ limit + 1 where
  text depth s within := by
    simp only [nesting]
    omega
  scalar depth cs value rest read within := by
    rw [nesting_readScalar read]
    omega
  list depth items admitted inside within := by
    have room : depth < limit := by simpa [limited] using admitted
    have shallow := nesting_list_le (n := limit - depth) fun item member => by
      have here := inside item member room
      omega
    omega
  object depth fields admitted inside within := by
    have room : depth < limit := by simpa [limited] using admitted
    have shallow := nesting_object_le (n := limit - depth) fun field member => by
      have here := inside field member room
      omega
    omega

/-- **The value of a text nests at most one deeper than the limit.** -/
theorem nesting_readAll (limited : d.maxDepth = some limit) {cs : List Char} {value : Json}
    (read : readAll d cs = .ok value) : nesting value ≤ limit + 1 := by
  have room := (inherits_nesting limited).readAll read (Nat.zero_le limit)
  omega

/-- A record is read as what its text says. -/
theorem readAll_of_readRecord? {text : String} {value : Json}
    (read : readRecord? text = some value) : readAll .record text.toList = .ok value := by
  unfold readRecord? at read
  cases whole : readAll .record text.toList with
  | error fault => simp [whole, Except.toOption] at read
  | ok found =>
      obtain rfl : found = value := by simpa [whole, Except.toOption] using read
      rfl

/-- A record nests at most two hundred and one deep. -/
theorem nesting_readRecord? {text : String} {value : Json} (read : readRecord? text = some value) :
    nesting value ≤ 201 :=
  nesting_readAll rfl (readAll_of_readRecord? read)

/-! ## Integers -/

theorem longestIntOfItems_le_iff {items : List Json} {n : Nat} :
    longestIntOfItems items ≤ n ↔ ∀ item ∈ items, longestInt item ≤ n := by
  induction items with
  | nil => simp [longestIntOfItems]
  | cons item items ih => rw [longestIntOfItems, Nat.max_le, ih, List.forall_mem_cons]

theorem longestIntOfFields_le_iff {fields : List (String × Json)} {n : Nat} :
    longestIntOfFields fields ≤ n ↔ ∀ field ∈ fields, longestInt field.2 ≤ n := by
  induction fields with
  | nil => simp [longestIntOfFields]
  | cons field fields ih => rw [longestIntOfFields, Nat.max_le, ih, List.forall_mem_cons]

/-- Digits do not amount to more than their number allows. -/
theorem ofDigitChars_lt {digits : List Char} (all : ∀ c ∈ digits, c.isDigit = true)
    (start : Nat) : Nat.ofDigitChars 10 digits start < (start + 1) * 10 ^ digits.length := by
  induction digits generalizing start with
  | nil => simp [Nat.ofDigitChars]
  | cons c digits ih =>
      obtain ⟨digit, others⟩ := List.forall_mem_cons.mp all
      have small : c.toNat - '0'.toNat < 10 := by
        simp only [Char.isDigit, Bool.and_eq_true, decide_eq_true_eq] at digit
        have low : 48 ≤ c.toNat := digit.1
        have high : c.toNat ≤ 57 := digit.2
        have zero : '0'.toNat = 48 := rfl
        omega
      calc Nat.ofDigitChars 10 (c :: digits) start
          = Nat.ofDigitChars 10 digits (10 * start + (c.toNat - '0'.toNat)) :=
            Nat.ofDigitChars_cons
        _ < (10 * start + (c.toNat - '0'.toNat) + 1) * 10 ^ digits.length := ih others _
        _ ≤ ((start + 1) * 10) * 10 ^ digits.length := Nat.mul_le_mul_right _ (by omega)
        _ = (start + 1) * 10 ^ (c :: digits).length := by
            rw [List.length_cons, Nat.pow_succ, Nat.mul_assoc, Nat.mul_comm 10]

/-- An integer that is read off digits is not longer than they are. -/
theorem length_natDigits_le {digits : List Char} (all : ∀ c ∈ digits, c.isDigit = true)
    (filled : digits ≠ []) :
    (Decimal.natDigits (Nat.ofDigitChars 10 digits 0)).length ≤ digits.length := by
  refine (Nat.length_toDigits_le_iff (by decide) (List.length_pos_iff.mpr filled)).mpr ?_
  simpa using ofDigitChars_lt all 0

theorem isDigit_of_mem_takeWhole {cs : List Char} {c : Char} (member : c ∈ (takeWhole cs).1) :
    c.isDigit = true := by
  unfold takeWhole at member
  split at member
  · rw [List.mem_singleton.mp member]
    rfl
  · exact List.all_eq_true.mp List.all_takeWhile c member

theorem longestInt_numberOf {negative : Bool} {whole fraction : List Char} {exponent : Option Int}
    (all : ∀ c ∈ whole, c.isDigit = true) (filled : whole ≠ []) :
    longestInt (numberOf negative whole fraction exponent) ≤
      if fraction.isEmpty && exponent.isNone then whole.length else 0 := by
  unfold numberOf
  split
  · have same (n : Nat) : (if negative then -(n : Int) else n).natAbs = n := by
      cases negative <;> simp
    simp only [longestInt, same]
    exact length_natDigits_le all filled
  · exact Nat.le_refl 0

/-- The dialect admits no integer with more digits than these. -/
def Dialect.LimitsInts (d : Dialect) (digits : Nat) : Prop :=
  d.maxIntDigits = some digits ∨ d.maxWholeDigits = some digits

theorem longestInt_readNumber {digits : Nat} (limits : d.LimitsInts digits) {negative : Bool}
    {start cs rest : List Char} {value : Json}
    (read : readNumber d negative start cs = .ok (value, rest)) : longestInt value ≤ digits := by
  unfold readNumber at read
  simp only at read
  split at read
  · cases read
  · rename_i filled
    split at read
    · cases read
    · rename_i admitted
      cases read
      refine Nat.le_trans (longestInt_numberOf (fun _ => isDigit_of_mem_takeWhole) ?_) ?_
      · simpa using filled
      · split
        · rename_i isInt
          rcases limits with limit | limit
          · simp [isInt, limit] at admitted
            omega
          · simp [limit] at admitted
            omega
        · exact Nat.zero_le digits

theorem longestInt_words : ∀ word ∈ words, longestInt word.2 = 0 := by
  simp [words, longestInt]

theorem longestInt_readScalar {digits : Nat} (limits : d.LimitsInts digits) {cs rest : List Char}
    {value : Json} (read : readScalar d cs = .ok (value, rest)) : longestInt value ≤ digits := by
  unfold readScalar at read
  split at read
  · rename_i word found
    cases read
    rw [longestInt_words _ (List.mem_of_find?_eq_some found)]
    exact Nat.zero_le digits
  · split at read <;> exact longestInt_readNumber limits read

/-- **The value of a text has no longer integer than the reader admits.** -/
theorem longestInt_readAll {digits : Nat} (limits : d.LimitsInts digits) {cs : List Char}
    {value : Json} (read : readAll d cs = .ok value) : longestInt value ≤ digits := by
  have inherits : Inherits d fun _ value => longestInt value ≤ digits := {
    text := fun _ _ => Nat.zero_le digits
    scalar := fun _ _ _ _ read => longestInt_readScalar limits read
    list := fun _ _ _ inside => longestIntOfItems_le_iff.mpr inside
    object := fun _ _ _ inside => longestIntOfFields_le_iff.mpr inside }
  exact inherits.readAll read

end Json

end WebPilot
