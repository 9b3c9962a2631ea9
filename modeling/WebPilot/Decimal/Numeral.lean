import WebPilot.Text.Blank
import WebPilot.Text.Digit
import WebPilot.Text.Quoted
import WebPilot.Decimal.Layout

/-!
# Numerals in settings

A setting holds an integer or a decimal numeral between blanks, in the digits of any script, where
single underscores may stand between digits.
-/

namespace WebPilot.Decimal

set_option autoImplicit false

/-- Why a text is no numeral. -/
inductive NumeralFault where
  | notInteger (text : String)
  | notNumber (text : String)
  | tooLong (digits : Nat)
  deriving DecidableEq, Repr

/-- The longest integer numeral that is read. -/
def maxIntegerDigits : Nat := 4300

/-- The fault in words.  The offending text is displayed, and cut at two hundred characters where
an integer was expected. -/
def NumeralFault.message : NumeralFault → String
  | .notInteger text =>
    let shown := (Text.Quoted.display text.toList).take 200
    s!"invalid literal for int() with base 10: {String.ofList shown}"
  | .notNumber text => s!"could not convert string to float: {Text.Quoted.ofText text}"
  | .tooLong digits =>
    s!"Exceeds the limit ({maxIntegerDigits} digits) for integer string conversion: " ++
    s!"value has {digits} digits; use sys.set_int_max_str_digits() to increase the limit"

/-- The value of digits, the highest first. -/
def valueOf (digits : List Nat) : Nat :=
  digits.foldl (fun n d => 10 * n + d) 0

/-- Reads digits with single underscores between them; returns the digits and the rest. -/
def takeDigits (value? : Char → Option Nat) : List Char → List Nat × List Char
  | [] => ([], [])
  | c :: rest =>
    match value? c with
    | some d =>
      match rest with
      | '_' :: d' :: rest' =>
        if (value? d').isSome then
          let more := takeDigits value? (d' :: rest')
          (d :: more.1, more.2)
        else ([d], '_' :: d' :: rest')
      | other =>
        let more := takeDigits value? other
        (d :: more.1, more.2)
    | none => ([], c :: rest)
termination_by cs => cs.length

/-- Splits a sign off; true stands for minus. -/
def takeSign : List Char → Bool × List Char
  | '-' :: rest => (true, rest)
  | '+' :: rest => (false, rest)
  | cs => (false, cs)

/-- Reads an integer numeral.  The length of the digits counts before what follows them, unless that
is an underscore out of place. -/
def readInt (text : String) : Except NumeralFault Int :=
  let signed := takeSign (Text.trimBy Text.isWhiteSpace text.toList)
  let read := takeDigits Text.digitValue? signed.2
  if read.1.isEmpty || read.2.head? = some '_' then .error (.notInteger text)
  else if maxIntegerDigits < read.1.length then .error (.tooLong read.1.length)
  else if !read.2.isEmpty then .error (.notInteger text)
  else
    let n : Int := valueOf read.1
    .ok (if signed.1 then -n else n)

/-- Reads an optional exponent: the mark, a sign, and digits. -/
def takeExponent (cs : List Char) : Int × List Char :=
  match cs with
  | c :: rest =>
    if c = 'e' ∨ c = 'E' then
      let signed := takeSign rest
      let read := takeDigits Text.digitValue? signed.2
      if read.1.isEmpty then (0, cs)
      else
        let n : Int := valueOf read.1
        ((if signed.1 then -n else n), read.2)
    else (0, cs)
  | [] => (0, [])

/-- Reads an unsigned decimal numeral that fills the text: digits on one side of the point at
least. -/
def readMagnitude? (cs : List Char) : Option Float :=
  let whole := takeDigits Text.digitValue? cs
  let tail := match whole.2 with
    | '.' :: rest => takeDigits Text.digitValue? rest
    | other => ([], other)
  let exponent := takeExponent tail.2
  if (whole.1.isEmpty && tail.1.isEmpty) || !exponent.2.isEmpty then none
  else some (ofDecimal (valueOf (whole.1 ++ tail.1)) (exponent.1 - tail.1.length))

/-- Reads a decimal numeral, or one of the words for what is not finite. -/
def readFloat (text : String) : Except NumeralFault Float :=
  let signed := takeSign (Text.trimBy Text.isWhiteSpace text.toList)
  let word := String.ofList (signed.2.map Char.toLower)
  let magnitude? :=
    if word = "inf" ∨ word = "infinity" then some (1.0 / 0.0 : Float)
    else if word = "nan" then some (0.0 / 0.0 : Float)
    else readMagnitude? signed.2
  match magnitude? with
  | some x => .ok (if signed.1 then -x else x)
  | none => .error (.notNumber text)

end WebPilot.Decimal
