import WebPilot.Json.Reader
import WebPilot.Json.Writer

/-!
# Words and integers survive writing and reading

A written integer starts with a digit or with a minus sign and a digit, never with a zero that leads
other digits, and it ends where a gap, a comma, the end of a container or the end of the text
follows.  So a reader takes exactly its digits, and **gets the integer back if it is not longer than
the reader allows** (`readScalar_intDigits`), and otherwise refuses it (`readScalar_tooLong`).
-/

namespace WebPilot.Json

set_option autoImplicit false

/-- The characters that can follow a value: gaps, a comma, and the ends of containers. -/
def closers : List Char := [' ', '\t', '\n', '\r', ',', ']', '\x7d']

/-- What follows a value in a text is nothing, or starts with such a character. -/
def Closes (rest : List Char) : Prop :=
  ∀ c, rest.head? = some c → c ∈ closers

/-- No number goes on with a character that can follow a value. -/
theorem plain_of_closer {c : Char} (closer : c ∈ closers) :
    c.isDigit = false ∧ c ≠ '.' ∧ c ≠ 'e' ∧ c ≠ 'E' := by
  simp only [closers, List.mem_cons, List.not_mem_nil, or_false] at closer
  rcases closer with rfl | rfl | rfl | rfl | rfl | rfl | rfl <;> decide

theorem closes_nil : Closes [] := nofun

theorem closes_cons {c : Char} (closer : c ∈ closers) (rest : List Char) : Closes (c :: rest) := by
  rintro _ ⟨⟩
  exact closer

theorem mem_closers_of_gap {c : Char} (gap : isGap c = true) : c ∈ closers := by
  simp only [isGap, Bool.or_eq_true, beq_iff_eq] at gap
  rcases gap with ((rfl | rfl) | rfl) | rfl <;> decide

/-! ## Digits -/

theorem isDigit_of_mem_natDigits {n : Nat} {c : Char} (member : c ∈ Decimal.natDigits n) :
    c.isDigit = true :=
  Nat.isDigit_of_mem_toDigits (by decide) (by decide) member

theorem digitChar_ne_zero : ∀ m < 10, 0 < m → m.digitChar ≠ '0' := by
  decide

/-- The first digit of a positive number is not zero. -/
theorem head_natDigits {n : Nat} (positive : 0 < n) :
    ∃ c cs, Decimal.natDigits n = c :: cs ∧ c ≠ '0' := by
  induction n using Nat.strongRecOn with
  | ind n ih =>
      unfold Decimal.natDigits
      by_cases small : n < 10
      · rw [Nat.toDigits_of_lt_base small]
        exact ⟨n.digitChar, [], rfl, digitChar_ne_zero n small positive⟩
      · obtain ⟨c, cs, digits, nonzero⟩ := ih (n / 10) (by omega) (by omega)
        rw [Nat.toDigits_of_base_le (by decide) (by omega)]
        unfold Decimal.natDigits at digits
        rw [digits]
        exact ⟨c, _, rfl, nonzero⟩

/-- The digits of a number start with a digit. -/
theorem exists_cons_natDigits (n : Nat) :
    ∃ c cs, Decimal.natDigits n = c :: cs ∧ c.isDigit = true := by
  obtain ⟨c, cs, digits⟩ : ∃ c cs, Decimal.natDigits n = c :: cs :=
    List.exists_cons_of_ne_nil Nat.toDigits_ne_nil
  exact ⟨c, cs, digits, isDigit_of_mem_natDigits (digits ▸ List.mem_cons_self)⟩

/-! ## Taking digits -/

variable {rest : List Char}

theorem Closes.takeDigits (closes : Closes rest) {digits : List Char}
    (all : ∀ c ∈ digits, c.isDigit = true) : takeDigits (digits ++ rest) = (digits, rest) := by
  have stops : rest.takeWhile Char.isDigit = [] ∧ rest.dropWhile Char.isDigit = rest := by
    cases rest with
    | nil => exact ⟨rfl, rfl⟩
    | cons c rest =>
        have noDigit := (plain_of_closer (closes c rfl)).1
        simp [noDigit]
  unfold Json.takeDigits
  rw [List.takeWhile_append_of_pos all, List.dropWhile_append_of_pos all, stops.1, stops.2,
    List.append_nil]

theorem Closes.takeFraction (closes : Closes rest) : takeFraction rest = ([], rest) := by
  unfold Json.takeFraction
  split
  · exact absurd rfl (plain_of_closer (closes '.' rfl)).2.1
  · rfl

theorem Closes.takeExponent? (closes : Closes rest) : takeExponent? rest = (none, rest) := by
  cases rest with
  | nil => rfl
  | cons c rest =>
      obtain ⟨-, -, small, large⟩ := plain_of_closer (closes c rfl)
      unfold Json.takeExponent?
      exact if_neg (not_or.mpr ⟨small, large⟩)

theorem Closes.takeWhole (closes : Closes rest) (n : Nat) :
    takeWhole (Decimal.natDigits n ++ rest) = (Decimal.natDigits n, rest) := by
  rcases Nat.eq_zero_or_pos n with rfl | positive
  · rfl
  · obtain ⟨c, cs, digits, nonzero⟩ := head_natDigits positive
    have all : ∀ c ∈ Decimal.natDigits n, c.isDigit = true :=
      fun _ member => isDigit_of_mem_natDigits member
    have taken := closes.takeDigits all
    rw [digits] at taken ⊢
    unfold Json.takeWhole
    split
    · rename_i same
      exact absurd (List.cons.inj same).1 nonzero
    · exact taken

/-! ## Reading -/

/-- Whether a dialect admits an integer of this many digits. -/
def Dialect.admits (d : Dialect) (digits : Nat) : Bool :=
  !(d.maxIntDigits.any (· < digits) || d.maxWholeDigits.any (· < digits))

theorem Dialect.admits_zero (d : Dialect) : d.admits 0 = true := by
  cases ints : d.maxIntDigits <;> cases wholes : d.maxWholeDigits <;> simp [admits, ints, wholes]

/-- The longest of two integers decides. -/
theorem Dialect.admits_max (d : Dialect) (m n : Nat) :
    d.admits (max m n) = (d.admits m && d.admits n) := by
  have longer (limit : Option Nat) :
      limit.any (· < max m n) = (limit.any (· < m) || limit.any (· < n)) := by
    cases limit with
    | none => rfl
    | some limit =>
        have either : limit < max m n ↔ limit < m ∨ limit < n := by omega
        simp only [Option.any_some, either, Bool.decide_or]
  rw [admits, admits, admits, longer, longer]
  cases d.maxIntDigits.any (· < m) <;> cases d.maxIntDigits.any (· < n) <;> simp

theorem readNumber_natDigits {d : Dialect} (closes : Closes rest) (negative : Bool)
    (start : List Char) {n : Nat} (admitted : d.admits (Decimal.natDigits n).length = true) :
    readNumber d negative start (Decimal.natDigits n ++ rest) =
      .ok (.int (if negative then -(n : Int) else n), rest) := by
  obtain ⟨c, cs, digits, _⟩ := exists_cons_natDigits n
  have some : (Decimal.natDigits n).isEmpty = false := by rw [digits]; rfl
  have value : Nat.ofDigitChars 10 (Decimal.natDigits n) 0 = n := Nat.ofDigitChars_ten_toDigits
  simp only [Dialect.admits, Bool.not_eq_true', Bool.or_eq_false_iff] at admitted
  simp only [readNumber, closes.takeWhole, closes.takeFraction, closes.takeExponent?, some,
    List.isEmpty_nil, Option.isNone_none, Bool.and_self, Bool.true_and, admitted.1, admitted.2,
    numberOf, value, Bool.false_eq_true, if_false, if_true, Bool.or_self]

/-- More digits than the dialect admits are refused. -/
theorem readNumber_tooLong {d : Dialect} (closes : Closes rest) (negative : Bool)
    (start : List Char) {n : Nat} (refused : d.admits (Decimal.natDigits n).length = false) :
    readNumber d negative start (Decimal.natDigits n ++ rest) =
      .error ⟨.digits (Decimal.natDigits n).length, start⟩ := by
  obtain ⟨c, cs, digits, _⟩ := exists_cons_natDigits n
  have some : (Decimal.natDigits n).isEmpty = false := by rw [digits]; rfl
  simp only [Dialect.admits, Bool.not_eq_false'] at refused
  simp only [readNumber, closes.takeWhole, closes.takeFraction, closes.takeExponent?, some,
    List.isEmpty_nil, Option.isNone_none, Bool.and_self, Bool.true_and, refused,
    Bool.false_eq_true, if_false, if_true]

/-- No word starts with a digit, or with a sign and a digit. -/
theorem find?_words_of_digit {c : Char} (digit : c.isDigit = true) (cs : List Char) :
    words.find? (·.1.isPrefixOf (c :: cs)) = none ∧
      words.find? (·.1.isPrefixOf ('-' :: c :: cs)) = none := by
  have other : c ≠ 'n' ∧ c ≠ 't' ∧ c ≠ 'f' ∧ c ≠ 'N' ∧ c ≠ 'I' ∧ c ≠ '-' := by
    refine ⟨?_, ?_, ?_, ?_, ?_, ?_⟩ <;> (rintro rfl; revert digit; decide)
  simp [words, List.isPrefixOf, other.1.symm, other.2.1.symm, other.2.2.1.symm,
    other.2.2.2.1.symm, other.2.2.2.2.1.symm, other.2.2.2.2.2.symm]

/-- A written integer is read as a number, behind its sign if it has one. -/
theorem readScalar_eq_readNumber (d : Dialect) (n : Int) (rest : List Char) :
    readScalar d (Decimal.intDigits n ++ rest) =
      readNumber d (decide (n < 0)) (Decimal.intDigits n ++ rest)
        (Decimal.natDigits n.natAbs ++ rest) := by
  obtain ⟨c, cs, digits, digit⟩ := exists_cons_natDigits n.natAbs
  have unknown := find?_words_of_digit digit (cs ++ rest)
  unfold Decimal.intDigits readScalar
  by_cases negative : n < 0
  · rw [if_pos negative, digits]
    simp only [List.cons_append, unknown.2, negative, decide_true]
  · have sign : c ≠ '-' := by
      rintro rfl
      revert digit
      decide
    rw [if_neg negative, digits]
    simp only [List.cons_append, unknown.1, negative, decide_false]
    split
    case h_1 same => exact absurd (List.cons.inj same).1 sign
    rfl

/-- **A written integer is read back.** -/
theorem readScalar_intDigits {d : Dialect} (closes : Closes rest) {n : Int}
    (admitted : d.admits (Decimal.natDigits n.natAbs).length = true) :
    readScalar d (Decimal.intDigits n ++ rest) = .ok (.int n, rest) := by
  have value : (if decide (n < 0) then -(n.natAbs : Int) else n.natAbs) = n := by
    simp only [decide_eq_true_eq]
    split <;> omega
  rw [readScalar_eq_readNumber, readNumber_natDigits closes _ _ admitted, value]

/-- A written integer that is longer than the reader allows is refused. -/
theorem readScalar_tooLong {d : Dialect} (closes : Closes rest) {n : Int}
    (refused : d.admits (Decimal.natDigits n.natAbs).length = false) :
    ∃ fault, readScalar d (Decimal.intDigits n ++ rest) = .error fault :=
  ⟨_, by rw [readScalar_eq_readNumber, readNumber_tooLong closes _ _ refused]⟩

/-! ## Words -/

theorem readScalar_null (d : Dialect) (rest : List Char) :
    readScalar d ("null".toList ++ rest) = .ok (.null, rest) := by
  simp [readScalar, words, List.isPrefixOf]

theorem readScalar_bool (d : Dialect) (b : Bool) (rest : List Char) :
    readScalar d ((if b then "true".toList else "false".toList) ++ rest) = .ok (.bool b, rest) := by
  cases b <;> simp [readScalar, words, List.isPrefixOf]

end WebPilot.Json
