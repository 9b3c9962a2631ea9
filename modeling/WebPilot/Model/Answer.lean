import WebPilot.Decimal.Numeral
import WebPilot.Failure
import WebPilot.Json.Reader
import WebPilot.Text.Blank

/-!
# Answers that should be arguments

A model that is asked for arguments answers with a JSON object, perhaps between the lines of a code
fence.  Whatever else it answers is a fault, which names the place where reading stopped.
-/

namespace WebPilot

set_option autoImplicit false

/-- Why an answer holds no arguments. -/
inductive AnswerFault where
  /-- Reading stopped at `place`, with the given line and column. -/
  | notJson (trouble : Json.Trouble) (line column place : Nat)
  /-- The value read is no object. -/
  | notObject (kind : String)
  /-- An integer has too many digits. -/
  | tooLong (digits : Nat)
  /-- Lists or objects nest too deep; the one at which reading stopped may be a list. -/
  | tooDeep (isList : Bool)
  deriving DecidableEq, Repr

namespace AnswerFault

/-- What is said of a trouble. -/
def phrase : Json.Trouble → String
  | .byteOrderMark => "Unexpected UTF-8 BOM (decode using utf-8-sig)"
  | .value | .half | .depth | .digits _ => "Expecting value"
  | .extra => "Extra data"
  | .name => "Expecting property name enclosed in double quotes"
  | .colon => "Expecting ':' delimiter"
  | .comma => "Expecting ',' delimiter"
  | .control => "Invalid control character at"
  | .openText => "Unterminated string starting at"
  | .escape => "Invalid \\escape"
  | .unitEscape => "Invalid \\uXXXX escape"

/-- The fault as a failure.  Only an answer that nests too deep is more than a bad value. -/
def failure : AnswerFault → Failure
  | notJson trouble line column place =>
    .badValue (s!"Model answer is not valid JSON: {phrase trouble}: " ++
      s!"line {line} column {column} (char {place})")
  | notObject kind => .badValue s!"Model answer is a {kind}, expected a JSON object"
  | tooLong digits => .badValue (Decimal.NumeralFault.message (.tooLong digits))
  | tooDeep isList => .tooDeepToRead (if isList then "array" else "object")

/-- The fault that a reading of a text met. -/
def ofFault (text : List Char) (fault : Json.Fault) : AnswerFault :=
  match fault.trouble with
  | .digits count => tooLong count
  | .depth => tooDeep (fault.rest.head? = some '[')
  | trouble =>
    let place := text.length - fault.rest.length
    let before := text.take place
    let line := before.countP (· = '\n') + 1
    let column := (before.reverse.takeWhile (· ≠ '\n')).length + 1
    notJson trouble line column place

end AnswerFault

/-- The three marks that open and close a fence. -/
def fenceMarks : List Char :=
  List.replicate 3 (Char.ofNat 0x60)

/-- The text inside a fence; a text that is not fenced as it stands. -/
def unfence (cs : List Char) : List Char :=
  if fenceMarks.isPrefixOf cs then
    let rest := cs.drop 3
    let body := if "json".toList.isPrefixOf rest then rest.drop 4 else rest
    if fenceMarks.isSuffixOf body then Text.trim (body.take (body.length - 3)) else cs
  else cs

/-- Reads the arguments that an answer holds. -/
def readArguments (answer : String) : Except AnswerFault Fields :=
  let text := unfence (Text.trim answer.toList)
  match Json.readAll .answer text with
  | .error fault => .error (.ofFault text fault)
  | .ok (.object fields) => .ok fields
  | .ok value => .error (.notObject value.kindWord)

end WebPilot
