import WebPilot.Environment.Basic
import WebPilot.Text.Blank

/-!
# Files of settings

A file of settings has a binding a line: a name, an equals sign, and a value that may be quoted and
may then go over several lines.  Names may follow the word `export`, comments start with a hash, and
a line that is no binding is skipped.  Values refer to other settings as `$` with a name in braces,
and may say what stands in for an absent one.
-/

namespace WebPilot.Environment

set_option autoImplicit false

/-- Whether a character ends a line of the file. -/
def endsLine (c : Char) : Bool :=
  c == '\n' || c == '\r'

/-- Whether a character is a blank inside a line. -/
def isInlineBlank (c : Char) : Bool :=
  Text.isBlank c && !endsLine c

/-- Skips the blanks inside a line. -/
def skipInline (cs : List Char) : List Char :=
  cs.dropWhile isInlineBlank

/-- The rest after one line break; none if the text goes on without one. -/
def afterBreak? : List Char → Option (List Char)
  | [] => some []
  | '\r' :: '\n' :: rest => some rest
  | c :: rest => if endsLine c then some rest else none

/-- The rest after the line at hand. -/
def skipLine (cs : List Char) : List Char :=
  (cs.dropWhile (!endsLine ·)).drop 1

/-! ## Quoted values -/

/-- Looks for the closing quote.  A backslash takes the character after it along, whichever that
is. -/
def quoted? (quote : Char) (read : List Char) : List Char → Option (List Char × List Char)
  | [] => none
  | ['\\'] => none
  | '\\' :: c :: rest => quoted? quote (c :: '\\' :: read) rest
  | c :: rest => if c = quote then some (read.reverse, rest) else quoted? quote (c :: read) rest

/-- What a letter after a backslash stands for between double quotes. -/
def controlOf? (c : Char) : Option Char :=
  [('\\', '\\'), ('\'', '\''), ('"', '"'), ('a', Char.ofNat 7), ('b', Char.ofNat 8),
    ('f', Char.ofNat 12), ('n', '\n'), ('r', '\r'), ('t', '\t'), ('v', Char.ofNat 11)].lookup c

/-- Resolves the escapes that `meaning?` knows. -/
def unescape (meaning? : Char → Option Char) : List Char → List Char
  | [] => []
  | '\\' :: c :: rest =>
    match meaning? c with
    | some d => d :: unescape meaning? rest
    | none => '\\' :: unescape meaning? (c :: rest)
  | c :: rest => c :: unescape meaning? rest
termination_by cs => cs.length

/-- Cuts a comment off: a hash after a blank, and everything from that blank on. -/
def dropComment : (afterBlank : Bool) → List Char → List Char
  | _, [] => []
  | afterBlank, c :: rest =>
    if c = '#' ∧ afterBlank = true then [] else c :: dropComment (Text.isBlank c) rest

/-- Reads what follows an equals sign; none if it is quoted and the quote is never closed.  Blanks in
front are no part of a value, but a hash right after them starts a comment. -/
def readValue? (cs : List Char) : Option (List Char × List Char) :=
  let start := skipInline cs
  match start with
  | '\'' :: rest =>
    (quoted? '\'' [] rest).map fun (value, rest) =>
      (unescape (fun c => if c = '\\' ∨ c = '\'' then some c else none) value, rest)
  | '"' :: rest =>
    (quoted? '"' [] rest).map fun (value, rest) => (unescape controlOf? value, rest)
  | _ =>
    let line := start.takeWhile (!endsLine ·)
    let afterBlank := decide (start.length < cs.length)
    some (Text.dropRight Text.isBlank (dropComment afterBlank line), start.drop line.length)

/-- Reads a name: quoted, or up to an equals sign, a hash or a blank.  A comment has none. -/
def readName? (cs : List Char) : Option (Option (List Char) × List Char) :=
  match cs with
  | '#' :: _ => some (none, cs)
  | '\'' :: rest =>
    let name := rest.takeWhile (· ≠ '\'')
    match name, rest.drop name.length with
    | _ :: _, '\'' :: rest => some (some name, rest)
    | _, _ => none
  | _ =>
    let name := cs.takeWhile fun c => c != '=' && c != '#' && !Text.isBlank c
    if name.isEmpty then none else some (some name, cs.drop name.length)

/-- The rest after the word `export` and the blanks after it. -/
def skipExport (cs : List Char) : List Char :=
  let word := "export".toList
  let rest := cs.drop word.length
  if word.isPrefixOf cs ∧ (rest.head?.any isInlineBlank) = true then skipInline rest else cs

/-- The rest after a comment at the end of a line. -/
def skipComment (cs : List Char) : List Char :=
  match skipInline cs with
  | '#' :: rest => rest.dropWhile (!endsLine ·)
  | _ => cs

/-- A line that was read: a binding perhaps, and the rest. -/
structure ReadLine where
  name : Option (List Char) := none
  value : Option (List Char) := none
  rest : List Char

/-- Reads what stands behind a name. -/
def readBinding (name : Option (List Char)) (cs : List Char) : ReadLine :=
  let after := skipInline cs
  let valued : Option (Option (List Char) × List Char) := match after with
    | '=' :: rest => (readValue? rest).map fun (value, rest) => (some value, rest)
    | _ => some (none, after)
  match valued with
  | none => { rest := skipLine after }
  | some (value, rest) =>
    let tail := skipInline (skipComment rest)
    match afterBreak? tail with
    | some rest => ⟨name, value, rest⟩
    | none => { rest := skipLine (skipComment rest) }

/-- Reads one line. -/
def readLine (cs : List Char) : ReadLine :=
  let start := cs.dropWhile Text.isBlank
  if start.isEmpty then { rest := [] }
  else
    let named := skipExport start
    match readName? named with
    | none => { rest := skipLine named }
    | some (name, rest) => readBinding name rest

/-- The bindings of a file, in order.  A name alone is bound to nothing. -/
abbrev Bindings := List (String × Option String)

/-- Reads the bindings of a file; `fuel` bounds the lines. -/
def readLines : (fuel : Nat) → List Char → Bindings
  | 0, _ => []
  | _, [] => []
  | fuel + 1, cs =>
    let line := readLine cs
    let more := readLines fuel line.rest
    match line.name with
    | some name => (String.ofList name, line.value.map String.ofList) :: more
    | none => more

/-! ## References -/

/-- A reference to a setting at the start of a text, with what stands in for an absent one, and the
rest. -/
def reference? (cs : List Char) : Option (String × String × List Char) :=
  match cs with
  | '$' :: '\x7b' :: rest =>
    let name := rest.takeWhile fun c => c != '\x7d' && c != ':'
    match rest.drop name.length with
    | '\x7d' :: rest => some (String.ofList name, "", rest)
    | ':' :: '-' :: rest =>
      let default_ := rest.takeWhile (· ≠ '\x7d')
      match rest.drop default_.length with
      | '\x7d' :: rest => some (String.ofList name, String.ofList default_, rest)
      | _ => none
    | _ => none
  | _ => none

/-- Resolves the references of a value; `fuel` bounds its length. -/
def resolveIn (lookup : String → Option String) : (fuel : Nat) → List Char → List Char
  | 0, cs => cs
  | _, [] => []
  | fuel + 1, c :: rest =>
    match reference? (c :: rest) with
    | some (name, default_, rest) =>
      ((lookup name).getD default_).toList ++ resolveIn lookup fuel rest
    | none => c :: resolveIn lookup fuel rest

/-- Binds a name: in its place if it is there, at the end otherwise. -/
def assign (name : String) (value : Option String) : Bindings → Bindings
  | [] => [(name, value)]
  | (n, v) :: rest => if n = name then (n, value) :: rest else (n, v) :: assign name value rest

/-- Resolves bindings in order; the environment wins over what was bound before.  A name bound to
nothing is empty where it is referred to. -/
def resolveAll (env : Environment) (bound : Bindings) : Bindings → Bindings
  | [] => bound
  | (name, value) :: rest =>
    let lookup (n : String) : Option String :=
      (env.get? n).or ((bound.lookup n).map (·.getD ""))
    let resolve (v : String) : String := String.ofList (resolveIn lookup (v.length + 1) v.toList)
    resolveAll env (assign name (value.map resolve) bound) rest

/-! ## Into the environment -/

/-- Why a binding cannot be put into the environment. -/
inductive BindingFault where
  | nullByte
  | signInName
  deriving DecidableEq, Repr

/-- The fault in words. -/
def BindingFault.message : BindingFault → String
  | nullByte => "embedded null byte"
  | signInName => "illegal environment variable name"

/-- What keeps a binding out of the environment, if anything does. -/
def bindingFault? (name value : String) : Option BindingFault :=
  if name.toList.contains '\x00' || value.toList.contains '\x00' then some .nullByte
  else if name.toList.contains '=' then some .signInName
  else none

/-- Puts bindings into the environment, in order; what is set already stays, and a name bound to
nothing is left out. -/
def bindAll (env : Environment) : Bindings → Except BindingFault Environment
  | [] => .ok env
  | (_, none) :: rest => bindAll env rest
  | (name, some value) :: rest =>
    if env.any (·.1 == name) then bindAll env rest
    else match bindingFault? name value with
      | some fault => .error fault
      | none => bindAll (env ++ [(name, value)]) rest

/-- The environment after a file of settings. -/
def load (env : Environment) (text : String) : Except BindingFault Environment :=
  let cs := text.toList
  env.bindAll (resolveAll env [] (readLines (cs.length + 1) cs))

/-- The words that forbid files of settings. -/
def forbiddingWords : List String := ["1", "true", "t", "yes", "y"]

/-- Whether the environment forbids files of settings.  The case of the word means nothing, and a
long s is one. -/
def forbidsFiles (env : Environment) : Bool :=
  let fold (c : Char) : Char := if c = 'ſ' then 's' else c.toLower
  let word := String.ofList (((env.get? "PYTHON_DOTENV_DISABLED").getD "").toList.map fold)
  forbiddingWords.contains word

end WebPilot.Environment
