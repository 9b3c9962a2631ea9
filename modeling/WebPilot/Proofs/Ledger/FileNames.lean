import WebPilot.Ledger.Basic
import WebPilot.Proofs.Files.Writing
import WebPilot.Proofs.Json.Scalar

/-!
# The names of the files of calls

The file of a call is named by a row of digits, a dash, and something that ends in `.json`
(`Ledger.Numbered`).  Such a name is that of a call's file, and **its number is the value of its
digits** (`Ledger.Numbered.number_eq`), if these are not more than an integer may have; a name that
a directory can hold is never that long.

Recorded calls are filed under such names (`Ledger.numbered_fileName`), so their numbers can be read
off the names again, and calls with different numbers have different files
(`Ledger.fileName_injective`).
-/

namespace WebPilot

set_option autoImplicit false

/-! ## Rows of digits -/

theorem Text.digitValue?_digit {c : Char} (digit : c.isDigit = true) :
    digitValue? c = some (c.toNat - 0x30) := by
  have small : c.toNat < 0x80 := by
    simp only [Char.isDigit, Bool.and_eq_true, decide_eq_true_eq] at digit
    have high : c.val.toNat ≤ 57 := digit.2
    exact Nat.lt_of_le_of_lt high (by decide)
  rw [digitValue?, if_pos small, if_pos digit]

theorem Text.isWhiteSpace_digit {c : Char} (digit : c.isDigit = true) :
    isWhiteSpace c = false := by
  simp only [Char.isDigit, Bool.and_eq_true, decide_eq_true_eq] at digit
  have low : 48 ≤ c.toNat := digit.1
  have high : c.toNat ≤ 57 := digit.2
  simp [isWhiteSpace, inRanges]
  omega

/-- A text has no more characters than bytes. -/
theorem Text.Utf8.length_le_encode (s : String) : s.toList.length ≤ (encode s).length := by
  have one (c : Char) : 1 ≤ (encodeChar c).length := by
    unfold encodeChar
    simp only
    repeat' split
    all_goals simp
  unfold encode
  induction s.toList with
  | nil => exact Nat.le_refl _
  | cons c cs ih =>
      have first := one c
      rw [List.flatMap_cons, List.length_cons, List.length_append]
      omega

namespace Decimal

variable {digits : List Char}

/-- A row of digits is taken as a whole. -/
theorem takeDigits_digits (all : ∀ c ∈ digits, c.isDigit = true) :
    takeDigits Text.digitValue? digits = (digits.map fun c => c.toNat - 0x30, []) := by
  induction digits with
  | nil => rw [takeDigits, List.map_nil]
  | cons c digits ih =>
      obtain ⟨first, others⟩ := List.forall_mem_cons.mp all
      rw [takeDigits, Text.digitValue?_digit first]
      simp only
      split
      · exact absurd (others '_' List.mem_cons_self) (by decide)
      · rw [ih others, List.map_cons]

/-- **A row of digits is read as its value**, if it is not too long. -/
theorem readInt_digits (filled : digits ≠ []) (all : ∀ c ∈ digits, c.isDigit = true) :
    readInt (String.ofList digits) =
      if maxIntegerDigits < digits.length then .error (.tooLong digits.length)
      else .ok (Nat.ofDigitChars 10 digits 0) := by
  have trimmed : Text.trimBy Text.isWhiteSpace digits = digits :=
    Text.trimBy_of_none fun c member => Text.isWhiteSpace_digit (all c member)
  have unsigned : takeSign digits = (false, digits) := by
    unfold takeSign
    split
    · exact absurd (all '-' List.mem_cons_self) (by decide)
    · exact absurd (all '+' List.mem_cons_self) (by decide)
    · rfl
  have value : valueOf (digits.map fun c => c.toNat - 0x30) = Nat.ofDigitChars 10 digits 0 := by
    rw [valueOf, List.foldl_map]
    rfl
  unfold readInt
  simp only [String.toList_ofList, trimmed, unsigned, takeDigits_digits all, value,
    List.length_map]
  simp [filled]

end Decimal

namespace Ledger

/-! ## Numbers of files -/

/-- The number of the file of a call, if the digits of its name make one. -/
def number? (name : String) : Except Decimal.NumeralFault Int :=
  Decimal.readInt (String.ofList (numberPart name))

/-- The number of the file of a call. -/
def number (name : String) : Int :=
  (number? name).toOption.getD 0

/-- The digits of the name make a number. -/
def HasNumber (name : String) : Prop :=
  ∃ n, number? name = .ok n

/-- The name has a row of digits with this value, a dash, and an end that is that of record
files. -/
def Numbered (name : String) (value : Nat) : Prop :=
  ∃ digits tail, digits ≠ [] ∧ (∀ c ∈ digits, c.isDigit = true) ∧
    Nat.ofDigitChars 10 digits 0 = value ∧ name = String.ofList digits ++ "-" ++ tail ++ ".json"

variable {name tool : String}

theorem number?_eq (hasNumber : HasNumber name) : number? name = .ok (number name) := by
  obtain ⟨n, same⟩ := hasNumber
  rw [number, same]
  rfl

/-- The digits of a numbered name are what stands before its first dash. -/
theorem numberPart_append {digits : List Char} (all : ∀ c ∈ digits, c.isDigit = true)
    (tail : String) : numberPart (String.ofList digits ++ "-" ++ tail ++ ".json") = digits := by
  have plain : ∀ c ∈ digits, (decide (c ≠ '-')) = true := by
    intro c member
    refine decide_eq_true ?_
    rintro rfl
    exact absurd (all '-' member) (by decide)
  have text : (String.ofList digits ++ "-" ++ tail ++ ".json").toList =
      digits ++ '-' :: (tail.toList ++ ".json".toList) := by
    simp [String.toList_append]
  rw [numberPart, text, List.takeWhile_append_of_pos plain]
  simp

namespace Numbered

variable {value : Nat}

theorem isCallFile (numbered : Numbered name value) : isCallFile name = true := by
  obtain ⟨digits, tail, filled, all, rfl, rfl⟩ := numbered
  have ends : Text.endsWith (String.ofList digits ++ "-" ++ tail ++ ".json") ".json" = true := by
    rw [Text.endsWith, List.isSuffixOf_iff_suffix, String.toList_append]
    exact List.suffix_append _ _
  have digitLike : digits.all Text.isDigitLike = true := by
    refine List.all_eq_true.mpr fun c member => ?_
    simp [Text.isDigitLike, Text.digitValue?_digit (all c member)]
  simp [Ledger.isCallFile, ends, numberPart_append all, filled, digitLike]

/-- **The number of a numbered name is the value of its digits**, if it has a number at all. -/
theorem number_eq (numbered : Numbered name value) (hasNumber : HasNumber name) :
    number name = value := by
  obtain ⟨digits, tail, filled, all, rfl, rfl⟩ := numbered
  obtain ⟨n, read⟩ := hasNumber
  rw [number, read]
  rw [number?, numberPart_append all, Decimal.readInt_digits filled all] at read
  split at read
  · cases read
  · exact (Except.ok.inj read).symm

/-- A name has no more than one value. -/
theorem unique {other : Nat} (numbered : Numbered name value) (again : Numbered name other) :
    value = other := by
  obtain ⟨digits, tail, _, all, rfl, rfl⟩ := numbered
  obtain ⟨digits', tail', _, all', rfl, same⟩ := again
  have parts := congrArg numberPart same
  rw [numberPart_append all, numberPart_append all'] at parts
  rw [parts]

/-- A name that a directory can hold has a number. -/
theorem hasNumber (numbered : Numbered name value)
    (short : Files.exceeds Files.maxNameBytes name = false) : HasNumber name := by
  obtain ⟨digits, tail, filled, all, rfl, rfl⟩ := numbered
  refine ⟨Nat.ofDigitChars 10 digits 0, ?_⟩
  rw [number?, numberPart_append all, Decimal.readInt_digits filled all, if_neg]
  have bytes := Text.Utf8.length_le_encode (String.ofList digits ++ "-" ++ tail ++ ".json")
  have few := of_decide_eq_false short
  simp only [Files.maxNameBytes] at few
  simp only [String.toList_append, String.toList_ofList, List.length_append] at bytes
  simp only [Decimal.maxIntegerDigits]
  omega

end Numbered

/-! ## Names of recorded calls -/

/-- Recorded calls are filed under numbered names. -/
theorem numbered_fileName {n : Int} (natural : 0 ≤ n) (tool : String) :
    Numbered (fileName n tool) n.toNat := by
  have digits : Decimal.intDigits n = Decimal.natDigits n.toNat := by
    rw [Decimal.intDigits, if_neg (by omega)]
    congr 1
    omega
  refine ⟨Decimal.natDigits n.toNat, safeName tool, Nat.toDigits_ne_nil,
    fun c member => Json.isDigit_of_mem_natDigits member, Nat.ofDigitChars_ten_toDigits, ?_⟩
  rw [fileName, digits]

/-- The number of a recorded call can be read off the name of its file. -/
theorem number_fileName {n : Int} (natural : 0 ≤ n)
    (hasNumber : HasNumber (fileName n tool)) : number (fileName n tool) = n := by
  rw [(numbered_fileName natural tool).number_eq hasNumber]
  omega

/-- **Calls with different numbers are filed under different names.** -/
theorem fileName_injective {m n : Int} (first : 0 ≤ m) (second : 0 ≤ n) {tool other : String}
    (same : fileName m tool = fileName n other) : m = n := by
  have again := numbered_fileName second other
  rw [← same] at again
  have values := (numbered_fileName first tool).unique again
  omega

/-- The name of a file is not the way out of its directory. -/
theorem fileName_ne_up (n : Int) (tool : String) : fileName n tool ≠ ".." := by
  intro same
  have long := congrArg (fun name => name.toList.length) same
  simp [fileName, String.toList_append] at long
  omega

end Ledger

end WebPilot
