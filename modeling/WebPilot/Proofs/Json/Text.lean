import WebPilot.Json.Reader
import WebPilot.Json.Writer

/-!
# Texts survive writing and reading

Between the quotes of a text, a character stands for itself, behind a backslash as a letter, or as
an escape of sixteen bits, or two of them where it does not fit in one (`Spelled`).  Which of these
is written depends on the form (`spelled_writeChar`), but a reader need not know it: **it gets each
character back** (`Spelled.readChars`), and so the whole text (`SpelledChars.readText`), whatever
follows its closing quote.
-/

namespace WebPilot.Json

set_option autoImplicit false

/-! ## Escapes -/

section Escapes

variable {halves : Bool} {opening rest : List Char} {read : Chars}

/-- A letter after a backslash is read as the character that it stands for. -/
theorem readChars_shortEscape {letter c : Char} (escape : shortEscape? letter = some c)
    (whole : read.half = none) :
    readChars halves opening read .plain (['\\', letter] ++ rest) =
      readChars halves opening (read.push c) .plain rest := by
  have other : letter ≠ 'u' := by
    rintro rfl
    cases escape
  have opens : readChars halves opening read .plain (['\\', letter] ++ rest) =
      readChars halves opening read (.slash ('\\' :: letter :: rest)) (letter :: rest) := rfl
  rw [opens, readChars, if_neg other, escape]
  simp only [whole, Option.isSome_none, Bool.false_and, Bool.false_eq_true, if_false]

theorem hexValue?_hexDigit : ∀ d < 16, Text.hexValue? (Text.hexDigit d) = some d := by
  decide

/-- A digit of an escape, with more of them to come. -/
theorem readChars_hexDigit {digit left : Nat} (small : digit < 16) (more : 1 < left)
    (escape : List Char) (value : Nat) :
    readChars halves opening read (.unit escape left value) (Text.hexDigit digit :: rest) =
      readChars halves opening read (.unit escape (left - 1) (16 * value + digit)) rest := by
  simp only [readChars, hexValue?_hexDigit digit small, if_pos more]

/-- The last digit of an escape. -/
theorem readChars_lastDigit {digit value : Nat} (small : digit < 16)
    (lawful : read.strands (16 * value + digit) = false) (more : rest ≠ []) (escape : List Char) :
    readChars halves opening read (.unit escape 1 value) (Text.hexDigit digit :: rest) =
      readChars halves opening (read.pushUnit (16 * value + digit)) .plain rest := by
  have goesOn : rest.isEmpty = false := List.isEmpty_eq_false_iff.mpr more
  simp only [readChars, hexValue?_hexDigit digit small, goesOn, lawful, Nat.lt_irrefl,
    Bool.false_and, Bool.false_eq_true, if_false]

/-- Four digits are read as the number that they write. -/
theorem readChars_unitEscape {unit : Nat} (small : unit < 0x10000)
    (lawful : read.strands unit = false) (more : rest ≠ []) :
    readChars halves opening read .plain (unitEscape unit ++ rest) =
      readChars halves opening (read.pushUnit unit) .plain rest := by
  have digit (n : Nat) : n % 16 < 16 := Nat.mod_lt n (by decide)
  have value : 16 * (16 * (16 * (16 * 0 + unit / 16 / 16 / 16 % 16) + unit / 16 / 16 % 16) +
      unit / 16 % 16) + unit % 16 = unit := by omega
  have digits : unitEscape unit = '\\' :: 'u' ::
      [Text.hexDigit (unit / 16 / 16 / 16 % 16), Text.hexDigit (unit / 16 / 16 % 16),
        Text.hexDigit (unit / 16 % 16), Text.hexDigit (unit % 16)] := rfl
  have opens (cs : List Char) : readChars halves opening read .plain ('\\' :: 'u' :: cs) =
      readChars halves opening read (.unit ('u' :: cs) 4 0) cs := rfl
  rw [digits, List.cons_append, List.cons_append, opens]
  simp only [List.cons_append, List.nil_append]
  rw [readChars_hexDigit (digit _) (by decide), readChars_hexDigit (digit _) (by decide),
    readChars_hexDigit (digit _) (by decide),
    readChars_lastDigit (digit _) (by rwa [value]) more, value]

/-- No character is half of a pair. -/
theorem toNat_bounds (c : Char) : c.toNat < 0xd800 ∨ 0xe000 ≤ c.toNat ∧ c.toNat < 0x110000 := by
  rcases c.valid with low | ⟨above, below⟩
  · exact .inl low
  · exact .inr ⟨above, below⟩

/-- A character that fits in sixteen bits is read from its escape. -/
theorem readChars_unit {c : Char} (small : c.toNat < 0x10000) (whole : read.half = none)
    (more : rest ≠ []) :
    readChars halves opening read .plain (unitEscape c.toNat ++ rest) =
      readChars halves opening (read.push c) .plain rest := by
  have bounds := toNat_bounds c
  have noHigh : ¬ (0xd800 ≤ c.toNat ∧ c.toNat < 0xdc00) := by omega
  have noLow : ¬ (0xdc00 ≤ c.toNat ∧ c.toNat < 0xe000) := by omega
  have lawful : read.strands c.toNat = false := by
    rw [Chars.strands, if_neg noLow, whole]
    rfl
  rw [readChars_unitEscape small lawful more, Chars.pushUnit, if_neg noHigh, if_neg noLow,
    Char.ofNat_toNat]

/-- A character that does not fit is read from the escapes of the two halves of its pair. -/
theorem readChars_pair {c : Char} (large : 0x10000 ≤ c.toNat) (whole : read.half = none)
    (more : rest ≠ []) :
    readChars halves opening read .plain (unitEscape (0xd800 + (c.toNat - 0x10000) / 1024) ++
        unitEscape (0xdc00 + (c.toNat - 0x10000) % 1024) ++ rest) =
      readChars halves opening (read.push c) .plain rest := by
  have bounds := toNat_bounds c
  obtain ⟨high, first⟩ : ∃ high, high = 0xd800 + (c.toNat - 0x10000) / 1024 := ⟨_, rfl⟩
  obtain ⟨low, second⟩ : ∃ low, low = 0xdc00 + (c.toNat - 0x10000) % 1024 := ⟨_, rfl⟩
  have isHigh : 0xd800 ≤ high ∧ high < 0xdc00 := by omega
  have isLow : 0xdc00 ≤ low ∧ low < 0xe000 := by omega
  have noHigh : ¬ (0xd800 ≤ low ∧ low < 0xdc00) := by omega
  have noLow : ¬ (0xdc00 ≤ high ∧ high < 0xe000) := by omega
  have sum : 0x10000 + (high - 0xd800) * 1024 + (low - 0xdc00) = c.toNat := by omega
  have half : read.pushUnit high = ⟨read.settle, some high⟩ := by
    rw [Chars.pushUnit, if_pos isHigh]
  have pair : (⟨read.settle, some high⟩ : Chars).pushUnit low = read.push c := by
    rw [Chars.pushUnit, if_neg noHigh, if_pos isLow]
    simp only [sum, Char.ofNat_toNat]
    rfl
  have begins : read.strands high = false := by
    rw [Chars.strands, if_neg noLow, whole]
    rfl
  have ends : (⟨read.settle, some high⟩ : Chars).strands low = false := by
    rw [Chars.strands, if_pos isLow]
    rfl
  rw [← first, ← second, List.append_assoc,
    readChars_unitEscape (by omega) begins (by simp [unitEscape]), half,
    readChars_unitEscape (by omega) ends more, pair]

end Escapes

/-! ## Characters -/

/-- How a character can stand between the quotes of a text. -/
inductive Spelled : Char → List Char → Prop
  | plain {c : Char} (quote : c ≠ '"') (slash : c ≠ '\\') (control : ¬ c.toNat < 0x20) :
      Spelled c [c]
  | short {c letter : Char} (escape : shortEscape? letter = some c) : Spelled c ['\\', letter]
  | unit {c : Char} (small : c.toNat < 0x10000) : Spelled c (unitEscape c.toNat)
  | pair {c : Char} (large : 0x10000 ≤ c.toNat) :
      Spelled c (unitEscape (0xd800 + (c.toNat - 0x10000) / 1024) ++
        unitEscape (0xdc00 + (c.toNat - 0x10000) % 1024))

/-- A character is spelled in what is written of it. -/
theorem spelled_writeChar (asciiOnly : Bool) (c : Char) : Spelled c (writeChar asciiOnly c) := by
  -- The cases are those of the writer, in its order.
  unfold writeChar
  by_cases quote : c = '"'
  · rw [if_pos quote, quote]
    exact .short rfl
  by_cases slash : c = '\\'
  · rw [if_neg quote, if_pos slash, slash]
    exact .short rfl
  rw [if_neg quote, if_neg slash]
  by_cases lineFeed : c = '\n'
  · rw [if_pos lineFeed, lineFeed]
    exact .short rfl
  by_cases carriageReturn : c = '\r'
  · rw [if_neg lineFeed, if_pos carriageReturn, carriageReturn]
    exact .short rfl
  by_cases tab : c = '\t'
  · rw [if_neg lineFeed, if_neg carriageReturn, if_pos tab, tab]
    exact .short rfl
  rw [if_neg lineFeed, if_neg carriageReturn, if_neg tab]
  by_cases backspace : c.toNat = 8
  · have same : c = Char.ofNat 8 := by rw [← backspace, Char.ofNat_toNat]
    rw [if_pos backspace, same]
    exact .short rfl
  by_cases formFeed : c.toNat = 12
  · have same : c = Char.ofNat 12 := by rw [← formFeed, Char.ofNat_toNat]
    rw [if_neg backspace, if_pos formFeed, same]
    exact .short rfl
  rw [if_neg backspace, if_neg formFeed]
  by_cases control : c.toNat < 0x20
  · rw [if_pos control]
    exact .unit (by omega)
  rw [if_neg control]
  by_cases spelledOut : asciiOnly = true ∧ 0x7f ≤ c.toNat
  · rw [if_pos spelledOut]
    by_cases small : c.toNat < 0x10000
    · rw [if_pos small]
      exact .unit small
    · rw [if_neg small]
      exact .pair (by omega)
  · rw [if_neg spelledOut]
    exact .plain quote slash control

/-- **A character is read back however it is spelled.** -/
theorem Spelled.readChars {c : Char} {cs : List Char} (spelled : Spelled c cs) {halves : Bool}
    {opening rest : List Char} {read : Chars} (whole : read.half = none) (more : rest ≠ []) :
    Json.readChars halves opening read .plain (cs ++ rest) =
      Json.readChars halves opening (read.push c) .plain rest := by
  cases spelled with
  | plain quote slash control =>
      rw [List.cons_append, List.nil_append, Json.readChars, if_neg quote, if_neg slash,
        if_neg control]
      simp only [whole, Option.isSome_none, Bool.false_and, Bool.false_eq_true, if_false]
  | short escape => exact readChars_shortEscape escape whole
  | unit small => exact readChars_unit small whole more
  | pair large => exact readChars_pair large whole more

/-- How the characters of a text can stand between its quotes. -/
inductive SpelledChars : List Char → List Char → Prop
  | nil : SpelledChars [] []
  | cons {c : Char} {cs ds es : List Char} (first : Spelled c cs) (others : SpelledChars ds es) :
      SpelledChars (c :: ds) (cs ++ es)

theorem spelled_flatMap (asciiOnly : Bool) (cs : List Char) :
    SpelledChars cs (cs.flatMap (writeChar asciiOnly)) := by
  induction cs with
  | nil => exact .nil
  | cons c cs ih => exact .cons (spelled_writeChar asciiOnly c) ih

/-- The characters of a text are read up to the quote that closes it. -/
theorem SpelledChars.readChars {cs ds : List Char} (spelled : SpelledChars cs ds) {halves : Bool}
    {opening rest : List Char} {read : Chars} (whole : read.half = none) :
    Json.readChars halves opening read .plain (ds ++ '"' :: rest) =
      .ok (read.read.reverse ++ cs, rest) := by
  induction spelled generalizing read with
  | nil => simp [Json.readChars, whole, Chars.settle]
  | cons first others ih =>
      rw [List.append_assoc, first.readChars whole (by simp), ih rfl]
      simp [Chars.push, Chars.settle, whole]

/-! ## Texts -/

/-- A text between quotes. -/
inductive SpelledText : String → List Char → Prop
  | quoted {s : String} {cs : List Char} (spelled : SpelledChars s.toList cs) :
      SpelledText s ('"' :: (cs ++ ['"']))

theorem spelled_writeText (asciiOnly : Bool) (s : String) :
    SpelledText s (writeText asciiOnly s) :=
  .quoted (spelled_flatMap asciiOnly s.toList)

/-- **A text is read back however its characters are spelled.** -/
theorem SpelledChars.readText {s : String} {cs : List Char} (spelled : SpelledChars s.toList cs)
    (d : Dialect) (opening rest : List Char) :
    Json.readText d opening (cs ++ '"' :: rest) = .ok (s, rest) := by
  rw [Json.readText, spelled.readChars rfl]
  simp

end WebPilot.Json
