import WebPilot.Text.Case
import WebPilot.Text.Hex
import WebPilot.Text.Pieces
import WebPilot.Text.Quoted

/-!
# Origins of addresses

The origin of an address is its scheme and its authority, both in small letters.  Control
characters and blanks before an address are ignored, and tabs and line breaks anywhere in it.  An
address without a scheme or an authority has no origin, and a malformed authority is a fault.
-/

namespace WebPilot

set_option autoImplicit false

/-- A scheme and an authority. -/
structure Origin where
  scheme : String
  authority : String
  deriving DecidableEq, Repr

namespace Origin

/-- Why an authority is malformed. -/
inductive Fault where
  | brackets
  | futureAddress
  | notAddress (host : String)
  | shortAddress
  | disguised (authority : String)
  deriving DecidableEq, Repr

/-- The fault in words. -/
def Fault.message : Fault → String
  | brackets => "Invalid IPv6 URL"
  | futureAddress => "IPvFuture address is invalid"
  | notAddress host => s!"{Text.Quoted.ofText host} does not appear to be an IPv4 or IPv6 address"
  | shortAddress => "An IPv4 address cannot be in brackets"
  | disguised authority =>
    s!"netloc '{authority}' contains invalid characters under NFKC normalization"

/-! ## Addresses of hosts -/

/-- Whether the text is a number of one byte: up to three digits, without a needless zero. -/
def isByte (cs : List Char) : Bool :=
  !cs.isEmpty && cs.all Char.isDigit && cs.length ≤ 3 && (cs.length = 1 || cs.head? ≠ some '0') &&
    Nat.ofDigitChars 10 cs 0 ≤ 255

/-- Whether the text is an address of four bytes. -/
def isShortAddress (cs : List Char) : Bool :=
  let parts := Text.splitOn '.' cs
  parts.length = 4 && parts.all isByte

/-- Whether the text is a group of a long address: up to four hexadecimal digits. -/
def isGroup (cs : List Char) : Bool :=
  !cs.isEmpty && cs.length ≤ 4 && cs.all fun c => (Text.hexValue? c).isSome

/-- Whether the parts between colons make an address of eight groups, of which a run may be left
out between two colons. -/
def areGroups (parts : List (List Char)) : Bool :=
  let inner := parts.dropLast.drop 1
  let before := parts.take ((inner.takeWhile (!·.isEmpty)).length + 1)
  let after := parts.drop (before.length + 1)
  match inner.countP List.isEmpty with
  | 0 => parts.length = 8 && parts.all isGroup
  | 1 =>
    let high := if before.head? = some [] then before.drop 1 else before
    let low := if after.getLast? = some [] then after.dropLast else after
    let highFits := before.head? ≠ some [] || high.isEmpty
    let lowFits := after.getLast? ≠ some [] || low.isEmpty
    highFits && lowFits && high.length + low.length ≤ 7 && (high ++ low).all isGroup
  | _ => false

/-- Whether the text is an address of eight groups, perhaps with a zone. -/
def isLongAddress (cs : List Char) : Bool :=
  let zoned := Text.splitOn '%' cs
  let zoneFits := match zoned with
    | [_] => true
    | [_, zone] => !zone.isEmpty
    | _ => false
  let parts := Text.splitOn ':' (zoned.headD [])
  let last := parts.getLastD []
  let expanded? :=
    if last.contains '.' then
      if isShortAddress last then some (parts.dropLast ++ [['0'], ['0']]) else none
    else some parts
  match expanded? with
  | some expanded => zoneFits && 3 ≤ parts.length && expanded.length ≤ 9 && areGroups expanded
  | none => false

/-- Whether the text has the form of an address of a later version. -/
def isFutureAddress (cs : List Char) : Bool :=
  match cs with
  | 'v' :: rest =>
    let digits := rest.takeWhile fun c => (Text.hexValue? c).isSome
    match rest.drop digits.length with
    | '.' :: tail => !digits.isEmpty && !tail.isEmpty
    | _ => false
  | _ => false

/-- What is wrong with a host in brackets, if anything. -/
def hostFault? (host : List Char) : Option Fault :=
  if host.head? = some 'v' then
    if isFutureAddress host then none else some .futureAddress
  else if isShortAddress host then some .shortAddress
  else if isLongAddress host then none
  else some (.notAddress (String.ofList host))

/-! ## Authorities -/

/-- Characters whose plain forms hold a delimiter of addresses. -/
def disguises : List Nat :=
  [0x2047, 0x2048, 0x2049, 0x2100, 0x2101, 0x2105, 0x2106, 0x2a74, 0xfe13, 0xfe16, 0xfe55, 0xfe56,
    0xfe5f, 0xfe6b, 0xff03, 0xff0f, 0xff1a, 0xff1f, 0xff20]

/-- What follows the last character of a kind; the whole text if there is none. -/
def afterLast (mark : Char) (cs : List Char) : List Char :=
  (cs.reverse.takeWhile (· ≠ mark)).reverse

/-- What is wrong with an authority that has brackets, if anything.  Nothing may stand before the
brackets but a user, and nothing after them but a port. -/
def bracketFault? (authority : List Char) : Option Fault :=
  let host := afterLast '@' authority
  if host.contains '[' then
    let inside := host.dropWhile (· ≠ '[')
    let name := (inside.drop 1).takeWhile (· ≠ ']')
    let port := inside.drop (name.length + 2)
    if inside.length < host.length then some .brackets
    else if !port.isEmpty && port.head? != some ':' then some .brackets
    else hostFault? name
  else hostFault? (host.takeWhile (· ≠ ':'))

/-- What is wrong with an authority, if anything. -/
def authorityFault? (authority : List Char) : Option Fault :=
  let opens := authority.contains '['
  let closes := authority.contains ']'
  if opens != closes then some .brackets
  else
    match (if opens then bracketFault? authority else none) with
    | some fault => some fault
    | none =>
      if authority.any fun c => disguises.contains c.toNat then
        some (.disguised (String.ofList authority))
      else none

/-- The characters of a scheme. -/
def isSchemeChar (c : Char) : Bool :=
  c.isAlphanum || c == '+' || c == '-' || c == '.'

/-- The scheme of an address and what follows its colon. -/
def splitScheme (cs : List Char) : List Char × List Char :=
  let scheme := cs.takeWhile (· ≠ ':')
  let rest := cs.drop scheme.length
  if rest.head? = some ':' ∧ (scheme.head?.any Char.isAlpha) = true ∧ scheme.all isSchemeChar then
    (scheme.map Char.toLower, rest.drop 1)
  else ([], cs)

/-- The authority of what follows a scheme; empty if there is none. -/
def authorityOf : List Char → List Char
  | '/' :: '/' :: rest => rest.takeWhile fun c => c != '/' && c != '?' && c != '#'
  | _ => []

/-- The address without what is ignored in it. -/
def clean (cs : List Char) : List Char :=
  (cs.dropWhile fun c => c.toNat ≤ 0x20).filter fun c => c != '\t' && c != '\r' && c != '\n'

/-- The origin of an address, if it has one. -/
def ofAddress (address : String) : Except Fault (Option Origin) :=
  let parts := splitScheme (clean address.toList)
  let authority := authorityOf parts.2
  match authorityFault? authority with
  | some fault => .error fault
  | none =>
    if parts.1.isEmpty || authority.isEmpty then .ok none
    else .ok (some ⟨String.ofList parts.1, Text.lower (String.ofList authority)⟩)

/-- The origin as text. -/
def text (o : Origin) : String :=
  s!"{o.scheme}://{o.authority}"

end Origin

end WebPilot
