import WebPilot.Json.Basic
import WebPilot.Decimal.Binary
import WebPilot.Text.Hex

/-!
# Reading JSON

One reader serves two dialects.  In *answers* of a model, integers may not be longer than a limit,
and a half of a surrogate pair is read as a replacement character.  In *records*, no number may have
more digits before its point than a limit, and half a pair is a fault.  Both nest to a limit of
their own, and both admit the words for numbers that are not finite.

A fault remembers what was left to read where it lies, so its place in the text is the difference
of two lengths.  The first fault in reading order is the one reported.
-/

namespace WebPilot.Json

set_option autoImplicit false

/-- What can be wrong with a text. -/
inductive Trouble where
  | byteOrderMark
  | value
  | extra
  | name
  | colon
  | comma
  | control
  | openText
  | escape
  | unitEscape
  | half
  | depth
  | digits (count : Nat)
  deriving DecidableEq, Repr

/-- A trouble and what was left to read where it lies. -/
structure Fault where
  trouble : Trouble
  rest : List Char
  deriving DecidableEq, Repr

/-- The limits of a dialect: how deep containers nest, how many digits an integer has, how many
digits any number has before its point, and whether half a pair may stand alone. -/
structure Dialect where
  maxDepth : Option Nat
  maxIntDigits : Option Nat
  maxWholeDigits : Option Nat
  allowHalves : Bool

/-- The dialect of a model's answers. -/
def Dialect.answer : Dialect :=
  ⟨some 980, some 4300, none, true⟩

/-- The dialect of record files. -/
def Dialect.record : Dialect :=
  ⟨some 200, none, some 4300, false⟩

/-- What a reading step returns: a value and the rest, or a fault. -/
abbrev Read (α : Type) := Except Fault (α × List Char)

/-- The blanks between tokens. -/
def isGap (c : Char) : Bool :=
  c == ' ' || c == '\t' || c == '\n' || c == '\r'

/-- Skips the blanks between tokens. -/
def skipGap (cs : List Char) : List Char :=
  cs.dropWhile isGap

/-! ## Texts -/

/-- Where the reader of a text stands: between characters, after a backslash, or inside an escape
of sixteen bits with `left` digits to come. -/
inductive Within where
  | plain
  | slash (at_ : List Char)
  | unit (at_ : List Char) (left value : Nat)

/-- The characters read, last first, with the first half of a pair perhaps waiting for its second. -/
structure Chars where
  read : List Char
  half : Option Nat

/-- A character that no text can hold by itself. -/
def replacement : Char := Char.ofNat 0xfffd

/-- Gives up waiting for a second half. -/
def Chars.settle (cs : Chars) : List Char :=
  match cs.half with
  | none => cs.read
  | some _ => replacement :: cs.read

/-- Adds a character. -/
def Chars.push (cs : Chars) (c : Char) : Chars :=
  ⟨c :: cs.settle, none⟩

/-- Adds sixteen bits: a character, the first half of a pair, or the second half of one. -/
def Chars.pushUnit (cs : Chars) (unit : Nat) : Chars :=
  if 0xd800 ≤ unit ∧ unit < 0xdc00 then ⟨cs.settle, some unit⟩
  else if 0xdc00 ≤ unit ∧ unit < 0xe000 then
    match cs.half with
    | some high => ⟨Char.ofNat (0x10000 + (high - 0xd800) * 1024 + (unit - 0xdc00)) :: cs.read, none⟩
    | none => ⟨replacement :: cs.read, none⟩
  else cs.push (Char.ofNat unit)

/-- Whether adding these sixteen bits leaves a half without its partner. -/
def Chars.strands (cs : Chars) (unit : Nat) : Bool :=
  if 0xdc00 ≤ unit ∧ unit < 0xe000 then cs.half.isNone else cs.half.isSome

/-- The character that a backslash and a letter stand for. -/
def shortEscape? (c : Char) : Option Char :=
  if c = '"' ∨ c = '\\' ∨ c = '/' then some c
  else if c = 'n' then some '\n'
  else if c = 't' then some '\t'
  else if c = 'r' then some '\r'
  else if c = 'b' then some (Char.ofNat 8)
  else if c = 'f' then some (Char.ofNat 12)
  else none

/-- Reads the characters of a text up to its closing quote; `opening` is the input at the opening
quote. -/
def readChars (halves : Bool) (opening : List Char) (read : Chars) :
    Within → List Char → Read (List Char)
  | .plain, [] => .error ⟨.openText, opening⟩
  | .plain, c :: rest =>
    if c = '"' then
      if read.half.isSome && !halves then .error ⟨.half, c :: rest⟩
      else .ok (read.settle.reverse, rest)
    else if c = '\\' then readChars halves opening read (.slash (c :: rest)) rest
    else if c.toNat < 0x20 then .error ⟨.control, c :: rest⟩
    else if read.half.isSome && !halves then .error ⟨.half, c :: rest⟩
    else readChars halves opening (read.push c) .plain rest
  | .slash _, [] => .error ⟨.openText, opening⟩
  | .slash at_, c :: rest =>
    if c = 'u' then readChars halves opening read (.unit (c :: rest) 4 0) rest
    else match shortEscape? c with
      | none => .error ⟨.escape, at_⟩
      | some d =>
        if read.half.isSome && !halves then .error ⟨.half, c :: rest⟩
        else readChars halves opening (read.push d) .plain rest
  | .unit at_ _ _, [] => .error ⟨.unitEscape, at_⟩
  | .unit at_ left value, c :: rest =>
    match Text.hexValue? c with
    | none => .error ⟨.unitEscape, at_⟩
    | some d =>
      let value := 16 * value + d
      if 1 < left then readChars halves opening read (.unit at_ (left - 1) value) rest
      else if rest.isEmpty then .error ⟨.unitEscape, at_⟩
      else if read.strands value && !halves then .error ⟨.half, at_⟩
      else readChars halves opening (read.pushUnit value) .plain rest

/-- Reads a text whose opening quote has been read; `opening` is the input at that quote. -/
def readText (d : Dialect) (opening rest : List Char) : Read String :=
  match readChars d.allowHalves opening ⟨[], none⟩ .plain rest with
  | .ok (cs, rest) => .ok (String.ofList cs, rest)
  | .error fault => .error fault

/-! ## Numbers -/

/-- Splits the digits at the front off. -/
def takeDigits (cs : List Char) : List Char × List Char :=
  (cs.takeWhile Char.isDigit, cs.dropWhile Char.isDigit)

/-- The digits after a point, and the rest; none without a digit after the point. -/
def takeFraction : List Char → List Char × List Char
  | '.' :: rest =>
    match takeDigits rest with
    | ([], _) => ([], '.' :: rest)
    | taken => taken
  | cs => ([], cs)

/-- The exponent, if there is one, and the rest. -/
def takeExponent? : List Char → Option Int × List Char
  | [] => (none, [])
  | c :: rest =>
    if c = 'e' ∨ c = 'E' then
      let signed : Bool × List Char := match rest with
        | '-' :: rest' => (true, rest')
        | '+' :: rest' => (false, rest')
        | _ => (false, rest)
      match takeDigits signed.2 with
      | ([], _) => (none, c :: rest)
      | (digits, rest') =>
        let n : Int := Nat.ofDigitChars 10 digits 0
        (some (if signed.1 then -n else n), rest')
    else (none, c :: rest)

/-- Splits the digits before the point off: a single zero, or digits that start with another. -/
def takeWhole (cs : List Char) : List Char × List Char :=
  match cs with
  | '0' :: rest => (['0'], rest)
  | _ => takeDigits cs

/-- A number from its parts. -/
def numberOf (negative : Bool) (whole fraction : List Char) (exponent : Option Int) : Json :=
  if fraction.isEmpty && exponent.isNone then
    let n : Int := Nat.ofDigitChars 10 whole 0
    .int (if negative then -n else n)
  else
    let digits := Nat.ofDigitChars 10 (whole ++ fraction) 0
    let x := Decimal.ofDecimal digits (exponent.getD 0 - fraction.length)
    .float (if negative then -x else x)

/-- Reads a number whose sign has been read; `start` is the input at the number. -/
def readNumber (d : Dialect) (negative : Bool) (start cs : List Char) : Read Json :=
  let whole := takeWhole cs
  if whole.1.isEmpty then .error ⟨.value, start⟩
  else
    let fraction := takeFraction whole.2
    let exponent := takeExponent? fraction.2
    let isInt := fraction.1.isEmpty && exponent.1.isNone
    if (isInt && d.maxIntDigits.any (· < whole.1.length)) ||
        d.maxWholeDigits.any (· < whole.1.length) then
      .error ⟨.digits whole.1.length, start⟩
    else .ok (numberOf negative whole.1 fraction.1 exponent.1, exponent.2)

/-! ## Values -/

/-- The words that stand for values. -/
def words : List (List Char × Json) :=
  [("null".toList, .null), ("true".toList, .bool true), ("false".toList, .bool false),
    ("NaN".toList, .float (0.0 / 0.0)), ("Infinity".toList, .float (1.0 / 0.0)),
    ("-Infinity".toList, .float (-1.0 / 0.0))]

/-- Reads a value that is neither a text nor a container. -/
def readScalar (d : Dialect) (cs : List Char) : Read Json :=
  match words.find? (·.1.isPrefixOf cs) with
  | some (word, value) => .ok (value, cs.drop word.length)
  | none =>
    match cs with
    | '-' :: rest => readNumber d true cs rest
    | _ => readNumber d false cs cs

mutual

/-- Reads a value inside `depth` containers. -/
def readValue (d : Dialect) : (fuel depth : Nat) → List Char → Read Json
  | 0, _, cs => .error ⟨.value, cs⟩
  | _ + 1, _, [] => .error ⟨.value, []⟩
  | fuel + 1, depth, c :: rest =>
    if c = '"' then
      match readText d (c :: rest) rest with
      | .ok (s, rest) => .ok (.text s, rest)
      | .error fault => .error fault
    else if c = '[' then
      if d.maxDepth.any (· ≤ depth) then .error ⟨.depth, c :: rest⟩
      else
        match skipGap rest with
        | ']' :: rest => .ok (.list [], rest)
        | rest => readItems d fuel (depth + 1) [] rest
    else if c = '\x7b' then
      if d.maxDepth.any (· ≤ depth) then .error ⟨.depth, c :: rest⟩
      else
        match skipGap rest with
        | '\x7d' :: rest => .ok (.object [], rest)
        | rest => readFields d fuel (depth + 1) [] rest
    else readScalar d (c :: rest)

/-- Reads the items of a list up to its end; those read so far are in `read`, last first. -/
def readItems (d : Dialect) :
    (fuel depth : Nat) → (read : List Json) → List Char → Read Json
  | 0, _, _, cs => .error ⟨.value, cs⟩
  | fuel + 1, depth, read, cs =>
    match readValue d fuel depth cs with
    | .error fault => .error fault
    | .ok (item, rest) =>
      match skipGap rest with
      | ']' :: rest => .ok (.list (item :: read).reverse, rest)
      | ',' :: rest => readItems d fuel depth (item :: read) (skipGap rest)
      | rest => .error ⟨.comma, rest⟩

/-- Reads the fields of an object up to its end; those read so far are in `read`, last first. -/
def readFields (d : Dialect) :
    (fuel depth : Nat) → (read : List (String × Json)) → List Char → Read Json
  | 0, _, _, cs => .error ⟨.value, cs⟩
  | fuel + 1, depth, read, cs =>
    match cs with
    | '"' :: afterQuote =>
      match readText d cs afterQuote with
      | .error fault => .error fault
      | .ok (name, rest) =>
        match skipGap rest with
        | ':' :: rest =>
          match readValue d fuel depth (skipGap rest) with
          | .error fault => .error fault
          | .ok (value, rest) =>
            match skipGap rest with
            | '\x7d' :: rest =>
              .ok (.object (Fields.ofPairs ((name, value) :: read).reverse), rest)
            | ',' :: rest => readFields d fuel depth ((name, value) :: read) (skipGap rest)
            | rest => .error ⟨.comma, rest⟩
        | rest => .error ⟨.colon, rest⟩
    | _ => .error ⟨.name, cs⟩

end

/-- Reads a text that holds one value and nothing else but gaps. -/
def readAll (d : Dialect) (cs : List Char) : Except Fault Json :=
  if cs.head? = some (Char.ofNat 0xfeff) then .error ⟨.byteOrderMark, cs⟩
  else
    match readValue d (cs.length + 1) 0 (skipGap cs) with
    | .error fault => .error fault
    | .ok (value, rest) =>
      match skipGap rest with
      | [] => .ok value
      | rest => .error ⟨.extra, rest⟩

/-- Reads a record. -/
def readRecord? (s : String) : Option Json :=
  (readAll .record s.toList).toOption

end WebPilot.Json
