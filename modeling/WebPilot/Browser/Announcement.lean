import WebPilot.Text.Blank
import WebPilot.Text.Pieces
import WebPilot.Text.Utf8

/-!
# Listening for a browser's announcement

A browser that is ready says so in a line of its error output, with the address of its control
socket.  The output is read line by line; a line without an end counts only when the output has
ended, and a line that is too long breaks the listener.

Main definition: `listen`, a function of all the bytes that were written.
-/

namespace WebPilot.Browser

set_option autoImplicit false

/-- The words before the address. -/
def announcementWords : List Char :=
  "DevTools listening on ".toList

/-- How an address of a control socket starts. -/
def socketStart : List Char :=
  "ws://".toList

/-- The address at the start of a text that follows the announcing words. -/
def addressAt? (cs : List Char) : Option String :=
  if socketStart.isPrefixOf cs then
    let tail := (cs.drop socketStart.length).takeWhile (!Text.isBlank ·)
    if tail.isEmpty then none else some (String.ofList (socketStart ++ tail))
  else none

/-- The first address that a text announces. -/
def announced? : List Char → Option String
  | [] => none
  | c :: rest =>
    let here := if announcementWords.isPrefixOf (c :: rest) then
        addressAt? ((c :: rest).drop announcementWords.length)
      else none
    here.or (announced? rest)

/-- The address that a line of output announces. -/
def lineAddress? (bytes : List UInt8) : Option String :=
  announced? (Text.dropRight Text.isBlank (Text.Utf8.decodeLossy bytes))

/-- The longest line that is read, in bytes. -/
def maxLineBytes : Nat := 65536

/-- What the listener does once it has read all there is. -/
inductive ListenerState where
  | waiting
  | finished
  | broken (reason : String)
  deriving DecidableEq, Repr

/-- What was heard, and what the listener does then. -/
structure Heard where
  address : Option String
  state : ListenerState
  deriving DecidableEq, Repr

/-- Listens to lines that have ended, then to what follows the last of them. -/
def listenTo (ended : Bool) (address : Option String) : List (List UInt8) → Heard
  | [] => ⟨address, if ended then .finished else .waiting⟩
  | [last] =>
    if maxLineBytes < last.length then
      ⟨address, .broken "Separator is not found, and chunk exceed the limit"⟩
    else if ended then ⟨address.or (lineAddress? last), .finished⟩
    else ⟨address, .waiting⟩
  | line :: rest =>
    if maxLineBytes < line.length then
      ⟨address, .broken "Separator is found, but chunk is longer than limit"⟩
    else listenTo ended (address.or (lineAddress? line)) rest

/-- Listens to everything that was written, in whichever pieces it came. -/
def listen (chunks : List (List UInt8)) (ended : Bool) : Heard :=
  listenTo ended none (Text.splitOn 10 chunks.flatten)

end WebPilot.Browser
