import WebPilot.Check.Issue
import WebPilot.Decimal.Numeral

/-!
# Checks of single values

A text is a text.  A truth value may also be given as a number or a word, an integer as a truth
value, a whole number of 64 bits or a numeral.
-/

namespace WebPilot.Check

set_option autoImplicit false

/-- Any text. -/
def text : Json → Checked String
  | .text s => .fine s
  | _ => .complain .notText

/-- A text that is not empty. -/
def someText : Json → Checked String
  | .text s => if s.isEmpty then .complain .tooShort else .fine s
  | _ => .complain .notText

/-- Whether an integer fits 64 bits with a sign. -/
def fits64 (n : Int) : Bool :=
  decide (-Int.pow 2 63 ≤ n ∧ n < Int.pow 2 63)

/-- The integer that a finite number is, if it is one. -/
def wholeValue? (x : Float) : Option Int :=
  let r := Decimal.exactValue x
  if r.den = 1 then some r.num else none

/-- The words for truth. -/
def trueWords : List String := ["1", "on", "t", "true", "y", "yes"]

/-- The words for falsehood. -/
def falseWords : List String := ["0", "off", "f", "false", "n", "no"]

/-- A truth value from an integer. -/
def boolOfInt (n : Int) : Checked Bool :=
  if n = 0 then .fine false else if n = 1 then .fine true else .complain .unreadableBool

/-- A truth value. -/
def bool : Json → Checked Bool
  | .bool b => .fine b
  | .int n => if fits64 n then boolOfInt n else .complain .notBool
  | .float x =>
    if !x.isFinite then .complain .notBool
    else match wholeValue? x with
      | some n => if -Int.pow 2 63 < n ∧ n < Int.pow 2 63 then boolOfInt n else .complain .notBool
      | none => .complain .notBool
  | .text s =>
    let word := String.ofList (s.toList.map Char.toLower)
    if trueWords.contains word then .fine true
    else if falseWords.contains word then .fine false
    else .complain .unreadableBool
  | _ => .complain .notBool

/-- Unsigned digits without the zeros that lead them, and the underscores among those.  One zero is
kept in front of a point or the end.  A minus sign may stand behind the zeros, or alone. -/
def dropLeadingZeros? (cs : List Char) : Option (List Char) :=
  match cs with
  | '0' :: _ =>
    let lead := cs.takeWhile fun c => c == '0' || c == '_'
    let last := lead.drop (lead.length - 1)
    match cs.drop lead.length with
    | [] => some last
    | '.' :: rest => some (last ++ '.' :: rest)
    | c :: rest => if c.isDigit || c == '-' then some (c :: rest) else none
  | c :: _ => if c.isDigit || c == '-' then some cs else none
  | [] => none

/-- A numeral without a fraction of nothing but zeros. -/
def dropZeroFraction (cs : List Char) : List Char :=
  let whole := cs.takeWhile (· ≠ '.')
  match cs.drop whole.length with
  | _ :: fraction => if !fraction.isEmpty && fraction.all (· == '0') then whole else cs
  | [] => cs

/-- Whether two underscores stand side by side. -/
def hasDoubleUnderscore : List Char → Bool
  | '_' :: '_' :: _ => true
  | _ :: rest => hasDoubleUnderscore rest
  | [] => false

/-- A numeral without its underscores, if they all stand alone and neither first nor last. -/
def dropUnderscores (cs : List Char) : List Char :=
  if cs.head? = some '_' ∨ cs.getLast? = some '_' ∨ hasDoubleUnderscore cs = true then cs
  else cs.filter (· ≠ '_')

/-- A numeral in its plain form.  White space around it means nothing, nor does a plus sign that
does not stand before a minus sign, nor do zeros and underscores where a reader skips them. -/
def plainForm? (cs : List Char) : Option (List Char) :=
  let trimmed := Text.trimBy Text.isWhiteSpace cs
  let bare? := match trimmed with
    | '+' :: '-' :: _ => none
    | '+' :: rest => dropLeadingZeros? rest
    | '-' :: rest => ('-' :: ·) <$> dropLeadingZeros? rest
    | _ => dropLeadingZeros? trimmed
  bare?.map fun bare => dropUnderscores (dropZeroFraction bare)

/-- What plain digits behind an optional minus sign amount to. -/
inductive PlainInt where
  | whole (n : Int)
  /-- The digits are more than are read, whatever follows them. -/
  | tooLong
  | malformed
  deriving DecidableEq, Repr

/-- Reads plain digits behind an optional minus sign, without a zero that leads others. -/
def PlainInt.read (cs : List Char) : PlainInt :=
  let body := if cs.head? = some '-' then cs.drop 1 else cs
  let digits := body.takeWhile Char.isDigit
  if digits.isEmpty || (digits.head? == some '0' && digits.length != 1) then malformed
  else if Decimal.maxIntegerDigits < digits.length then tooLong
  else if digits.length < body.length then malformed
  else
    let n : Int := Decimal.valueOf (digits.map fun c => c.toNat - 0x30)
    whole (if body.length < cs.length then -n else n)

/-- An integer from a numeral: as it stands, or else from its plain form.  Only a numeral that is
plain as it stands can have too many digits; in any other they are an ordinary fault. -/
def intOfText (s : String) : Checked Int :=
  match PlainInt.read s.toList with
  | .whole n => .fine n
  | .tooLong => .complain .oversizedInt
  | .malformed =>
    match (plainForm? s.toList).map PlainInt.read with
    | some (.whole n) => .fine n
    | _ => .complain .unreadableInt

/-- An integer. -/
def int : Json → Checked Int
  | .int n => .fine n
  | .bool b => .fine (if b then 1 else 0)
  | .float x =>
    if !x.isFinite then .complain .notFinite
    else match wholeValue? x with
      | none => .complain .fractionalInt
      | some n => if -Int.pow 2 63 < n ∧ n < Int.pow 2 63 then .fine n else .complain .oversizedInt
  | .text s => intOfText s
  | _ => .complain .notInt

/-- An integer between two bounds. -/
def intBetween (low high : Int) (value : Json) : Checked Int :=
  (int value).andThen fun n =>
    if n < low then .complain .belowMinimum
    else if high < n then .complain .aboveMaximum
    else .fine n

/-- Any object, for its fields. -/
def fields : Json → Checked Fields
  | .object fields => .fine fields
  | _ => .complain .notObject

/-- One of the given words, for what it stands for. -/
def wordOf {α : Type} (complaint : Complaint) (words : List (String × α)) : Json → Checked α
  | .text s =>
    match words.lookup s with
    | some a => .fine a
    | none => .complain complaint
  | _ => .complain complaint

/-- Null, or a value that passes the check. -/
def orNull {α : Type} (check : Json → Checked α) : Json → Checked (Option α)
  | .null => .fine none
  | value => (check value).map some

/-- Checks items from position `index` on. -/
def itemsFrom {α : Type} (check : Json → Checked α) (index : Nat) : List Json → Checked (List α)
  | [] => .fine []
  | item :: items =>
    List.cons <$> (check item).under (.item index) <*> itemsFrom check (index + 1) items

/-- A list whose items pass the check. -/
def list {α : Type} (check : Json → Checked α) : Json → Checked (List α)
  | .list items => itemsFrom check 0 items
  | _ => .complain .notList

/-! ## Records -/

/-- A field that must be present. -/
def required {α : Type} (name : String) (check : Json → Checked α) (fields : Fields) :
    Checked α :=
  match fields.get? name with
  | some value => (check value).under (.field name)
  | none => (Checked.complain .missing).under (.field name)

/-- A field with a value of its own when it is absent. -/
def optional {α : Type} (name : String) (default_ : α) (check : Json → Checked α)
    (fields : Fields) : Checked α :=
  match fields.get? name with
  | some value => (check value).under (.field name)
  | none => .fine default_

/-- A field that can only hold one word, which it also has when it is absent. -/
def tag (name word : String) (fields : Fields) : Checked Unit :=
  optional name () (wordOf .notLiteral [(word, ())]) fields

/-- A record, from the fields of an object. -/
def record {α : Type} (build : Fields → Checked α) : Json → Checked α
  | .object fields => build fields
  | _ => .complain .notRecord

end WebPilot.Check
