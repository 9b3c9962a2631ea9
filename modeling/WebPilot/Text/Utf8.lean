import WebPilot.Text.Hex

/-!
# Text as bytes

Characters are written in one to four bytes.  Reading is one scan that yields characters and
damaged stretches; the strict reading stops at the first damage and says where and why, the
lenient one puts a replacement character for each damaged stretch.

A damaged stretch is as long as the bytes that could still have begun a character.
-/

namespace WebPilot.Text.Utf8

set_option autoImplicit false

/-! ## Writing -/

/-- The continuation byte for the lowest six bits. -/
def continuation (n : Nat) : UInt8 :=
  UInt8.ofNat (0x80 + n % 64)

/-- The bytes of one character. -/
def encodeChar (c : Char) : List UInt8 :=
  let n := c.toNat
  if n < 0x80 then [UInt8.ofNat n]
  else if n < 0x800 then [UInt8.ofNat (0xc0 + n / 64), continuation n]
  else if n < 0x10000 then
    [UInt8.ofNat (0xe0 + n / 4096), continuation (n / 64), continuation n]
  else
    [UInt8.ofNat (0xf0 + n / 262144), continuation (n / 4096), continuation (n / 64),
      continuation n]

/-- The bytes of a text. -/
def encode (s : String) : List UInt8 :=
  s.toList.flatMap encodeChar

/-! ## Reading -/

/-- Why a stretch of bytes is no character. -/
inductive Damage where
  | start
  | continuation
  | cut
  deriving DecidableEq, Repr

/-- A stretch of the input: a character, or the bytes from `first` up to `stop`, which are none. -/
inductive Piece where
  | char (c : Char)
  | damaged (first stop : Nat) (lead : UInt8) (damage : Damage)
  deriving DecidableEq, Repr

/-- A character under way: the first byte and its place, the bytes read and still missing, the
bounds of the next byte, and the bits read. -/
structure Open where
  lead : UInt8
  first : Nat
  taken : Nat
  missing : Nat
  low : Nat
  high : Nat
  bits : Nat
  deriving DecidableEq, Repr

/-- What a first byte announces. -/
inductive Start where
  | whole (c : Char)
  | opened (o : Open)
  | refused
  deriving DecidableEq, Repr

/-- Reads a first byte.  The bounds of the second exclude overlong forms, surrogates and what lies
beyond the last code point. -/
def start (pos : Nat) (b : UInt8) : Start :=
  let n := b.toNat
  if n < 0x80 then .whole (Char.ofNat n)
  else if n < 0xc2 then .refused
  else if n < 0xe0 then .opened ⟨b, pos, 1, 1, 0x80, 0xbf, n - 0xc0⟩
  else if n < 0xf0 then
    .opened ⟨b, pos, 1, 2, if n = 0xe0 then 0xa0 else 0x80, if n = 0xed then 0x9f else 0xbf,
      n - 0xe0⟩
  else if n < 0xf5 then
    .opened ⟨b, pos, 1, 3, if n = 0xf0 then 0x90 else 0x80, if n = 0xf4 then 0x8f else 0xbf,
      n - 0xf0⟩
  else .refused

/-- The pieces of the input from place `pos` on, with a character perhaps under way. -/
def scanFrom (pos : Nat) : Option Open → List UInt8 → List Piece
  | none, [] => []
  | some o, [] => [.damaged o.first pos o.lead .cut]
  | none, b :: rest =>
    match start pos b with
    | .whole c => .char c :: scanFrom (pos + 1) none rest
    | .opened o => scanFrom (pos + 1) (some o) rest
    | .refused => .damaged pos (pos + 1) b .start :: scanFrom (pos + 1) none rest
  | some o, b :: rest =>
    if o.low ≤ b.toNat ∧ b.toNat ≤ o.high then
      let bits := o.bits * 64 + (b.toNat - 0x80)
      if o.missing ≤ 1 then .char (Char.ofNat bits) :: scanFrom (pos + 1) none rest
      else
        scanFrom (pos + 1) (some ⟨o.lead, o.first, o.taken + 1, o.missing - 1, 0x80, 0xbf, bits⟩)
          rest
    else
      .damaged o.first pos o.lead .continuation ::
        match start pos b with
        | .whole c => .char c :: scanFrom (pos + 1) none rest
        | .opened o => scanFrom (pos + 1) (some o) rest
        | .refused => .damaged pos (pos + 1) b .start :: scanFrom (pos + 1) none rest

/-- The pieces of the input. -/
def scan (bytes : List UInt8) : List Piece :=
  scanFrom 0 none bytes

/-- The first damage of an input. -/
structure Fault where
  first : Nat
  stop : Nat
  lead : UInt8
  damage : Damage
  deriving DecidableEq, Repr

/-- The text of the pieces, if none is damaged. -/
def ofPieces : List Piece → Except Fault (List Char)
  | [] => .ok []
  | .damaged first stop lead damage :: _ => .error ⟨first, stop, lead, damage⟩
  | .char c :: rest =>
    match ofPieces rest with
    | .ok cs => .ok (c :: cs)
    | .error fault => .error fault

/-- Reads bytes strictly. -/
def decode (bytes : List UInt8) : Except Fault String :=
  match ofPieces (scan bytes) with
  | .ok cs => .ok (String.ofList cs)
  | .error fault => .error fault

/-- What a reader without refusal shows for a piece. -/
def Piece.shown : Piece → Char
  | .char c => c
  | .damaged .. => Char.ofNat 0xfffd

/-- Reads bytes with a replacement character for each damaged stretch. -/
def decodeLossy (bytes : List UInt8) : List Char :=
  (scan bytes).map Piece.shown

/-- The reason in words. -/
def Damage.reason : Damage → String
  | .start => "invalid start byte"
  | .continuation => "invalid continuation byte"
  | .cut => "unexpected end of data"

/-- The fault in words: one byte is named with its value, several by their places. -/
def Fault.message (f : Fault) : String :=
  let place :=
    if f.stop = f.first + 1 then
      s!"byte 0x{String.ofList (hexDigits 2 f.lead.toNat)} in position {f.first}"
    else s!"bytes in position {f.first}-{f.stop - 1}"
  s!"'utf-8' codec can't decode {place}: {f.damage.reason}"

end WebPilot.Text.Utf8
