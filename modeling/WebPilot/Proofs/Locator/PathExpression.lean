import WebPilot.Proofs.Text.Pieces

/-!
# What path expressions say

To say what a path expression means, this module reads it from its text alone.  A scan cuts the text
into tokens, one character after the other (`Token.step`): a literal has no escapes, and ends at the
next quote of its kind, whatever was meant.  The tokens are read by the grammar of unions of steps
with one condition each, which gives back every union whose tokens it is handed
(`Union.ofTokens?_tokens`).

A term is a literal, or a call that joins literals.  **Every term that is written with closed quotes
is read as that term** (`Term.read?_written`), **and every union that is written with such terms as
that union** (`Union.read?_written`).
-/

namespace WebPilot.PathExpression

set_option autoImplicit false

/-! ## Tokens -/

/-- The tokens of path expressions. -/
inductive Token where
  | literal (value : List Char)
  | name (letters : List Char)
  | mark (c : Char)
  | descend
  deriving DecidableEq

/-- The token that a scan is in. -/
inductive Pending where
  | nothing
  | literal (quote : Char) (value : List Char)
  | name (letters : List Char)
  | slash
  deriving DecidableEq

namespace Token

/-- The white space of path expressions. -/
def blanks : List Char := [' ', '\t', '\r', '\n']

/-- The marks that are tokens of their own. -/
def marks : List Char := ['(', ')', '[', ']', '@', ',', '=', '|']

/-- A character where no token is open. -/
def start (c : Char) : Option (List Token × Pending) :=
  if c.isAlpha then some ([], .name [c])
  else if c ∈ blanks then some ([], .nothing)
  else if c = '"' ∨ c = '\'' then some ([], .literal c [])
  else if c = '/' then some ([], .slash)
  else if c ∈ marks then some ([.mark c], .nothing)
  else none

/-- One character of a scan: the tokens that it completes, and the one that is open afterwards. -/
def step : Pending → Char → Option (List Token × Pending)
  | .nothing, c => start c
  | .slash, c => if c = '/' then some ([.descend], .nothing) else none
  | .literal quote value, c =>
    if c = quote then some ([.literal value], .nothing)
    else some ([], .literal quote (value ++ [c]))
  | .name letters, c =>
    if c.isAlpha then some ([], .name (letters ++ [c]))
    else (start c).map fun next => (.name letters :: next.1, next.2)

/-- A scan of a whole text. -/
def scan (pending : Pending) : List Char → Option (List Token × Pending)
  | [] => some ([], pending)
  | c :: cs =>
    (step pending c).bind fun here =>
      (scan here.2 cs).map fun rest => (here.1 ++ rest.1, rest.2)

/-- The tokens of a text; a literal or a slash may not be left open. -/
def ofText? (cs : List Char) : Option (List Token) :=
  match scan .nothing cs with
  | some (tokens, .nothing) => some tokens
  | some (tokens, .name letters) => some (tokens ++ [.name letters])
  | _ => none

/-- A scan goes on where it has stopped. -/
theorem scan_append {cs : List Char} {pending next : Pending} {tokens : List Token}
    (first : scan pending cs = some (tokens, next)) (rest : List Char) :
    scan pending (cs ++ rest) =
      (scan next rest).map fun last => (tokens ++ last.1, last.2) := by
  induction cs generalizing pending tokens with
  | nil =>
      cases first
      rw [List.nil_append]
      cases scan next rest <;> rfl
  | cons c cs ih =>
      simp only [scan, Option.bind_eq_some_iff, Option.map_eq_some_iff, Prod.mk.injEq] at first
      obtain ⟨⟨done, between⟩, here, ⟨later, last⟩, there, rfl, rfl⟩ := first
      rw [List.cons_append, scan, here, Option.bind_some, ih there, Option.map_map]
      simp only [Function.comp_def, List.append_assoc]

/-- Texts that are scanned one behind the other. -/
theorem scan_join {cs ds : List Char} {these those : List Token}
    (first : scan .nothing cs = some (these, .nothing))
    (second : scan .nothing ds = some (those, .nothing)) :
    scan .nothing (cs ++ ds) = some (these ++ those, .nothing) := by
  rw [scan_append first, second]
  rfl

end Token

/-! ## Names -/

/-- A text that is one name. -/
structure IsName (letters : List Char) : Prop where
  filled : letters ≠ []
  alpha : ∀ c ∈ letters, c.isAlpha = true

namespace IsName

theorem of_all {letters : List Char} (filled : letters ≠ [])
    (all : letters.all Char.isAlpha = true) : IsName letters :=
  ⟨filled, List.all_eq_true.mp all⟩

/-- A name goes on as long as there are letters. -/
theorem scan_open {letters : List Char} (alpha : ∀ c ∈ letters, c.isAlpha = true)
    (seen : List Char) :
    Token.scan (.name seen) letters = some ([], .name (seen ++ letters)) := by
  induction letters generalizing seen with
  | nil => rw [Token.scan, List.append_nil]
  | cons c letters ih =>
      obtain ⟨first, others⟩ := List.forall_mem_cons.mp alpha
      rw [Token.scan, Token.step, if_pos first, Option.bind_some, ih others, List.append_assoc]
      rfl

/-- The next character that is no letter completes a name. -/
theorem scan_completes {c : Char} (other : ¬ c.isAlpha = true) (letters rest : List Char) :
    Token.scan (.name letters) (c :: rest) =
      (Token.scan .nothing (c :: rest)).map fun last => (.name letters :: last.1, last.2) := by
  rw [Token.scan, Token.scan]
  simp only [Token.step, if_neg other]
  cases Token.start c with
  | none => rfl
  | some next =>
      rw [Option.map_some, Option.bind_some, Option.bind_some, Option.map_map]
      rfl

theorem scan_before {letters rest : List Char} {c : Char} {tokens : List Token}
    (isName : IsName letters) (other : ¬ c.isAlpha = true)
    (after : Token.scan .nothing (c :: rest) = some (tokens, .nothing)) :
    Token.scan .nothing (letters ++ c :: rest) = some (.name letters :: tokens, .nothing) := by
  obtain ⟨first, more, rfl⟩ := List.exists_cons_of_ne_nil isName.filled
  obtain ⟨letter, letters⟩ := List.forall_mem_cons.mp isName.alpha
  have opens : Token.scan .nothing (first :: more) = some ([], .name (first :: more)) := by
    rw [Token.scan, Token.step, Token.start, if_pos letter, Option.bind_some, scan_open letters]
    rfl
  rw [Token.scan_append opens, scan_completes other, after]
  rfl

end IsName

/-! ## Literals -/

/-- A literal as it is written: its value stands between quotes of a kind that it does not hold. -/
structure Literal where
  quote : Char
  value : List Char
  isQuote : quote = '"' ∨ quote = '\''
  free : quote ∉ value

namespace Literal

/-- The text of a literal. -/
def text (l : Literal) : List Char :=
  l.quote :: l.value ++ [l.quote]

/-- An open literal goes on to the next quote of its kind. -/
theorem scan_open {quote : Char} {value : List Char} (free : quote ∉ value) (seen : List Char) :
    Token.scan (.literal quote seen) (value ++ [quote]) =
      some ([.literal (seen ++ value)], .nothing) := by
  induction value generalizing seen with
  | nil => simp [Token.scan, Token.step]
  | cons c value ih =>
      obtain ⟨other, later⟩ := not_or.mp (fun member => free (List.mem_cons.mpr member))
      rw [List.cons_append, Token.scan, Token.step, if_neg (Ne.symm other), Option.bind_some,
        ih later, List.append_assoc]
      rfl

/-- The text of a literal is one token. -/
theorem scan_text (l : Literal) :
    Token.scan .nothing l.text = some ([.literal l.value], .nothing) := by
  have opens : Token.step .nothing l.quote = some ([], .literal l.quote []) := by
    rcases l.isQuote with double | single
    · rw [double]
      rfl
    · rw [single]
      rfl
  rw [text, List.cons_append, Token.scan, opens, Option.bind_some, scan_open l.free]
  rfl

end Literal

/-! ## Terms -/

/-- A term for a text: a literal, or a call that joins two or more. -/
inductive Term where
  | literal (value : List Char)
  | concat (first second : List Char) (more : List (List Char))
  deriving DecidableEq

namespace Term

/-- What a term evaluates to. -/
def value : Term → List Char
  | literal value => value
  | concat first second more => (first :: second :: more).flatten

/-- The term as it is written. -/
inductive Written : Term → List Char → Prop
  | literal (l : Literal) : Written (.literal l.value) l.text
  | concat (first second : Literal) (more : List Literal) :
      Written (.concat first.value second.value (more.map Literal.value))
        ("concat(".toList ++ ", ".toList.intercalate ((first :: second :: more).map Literal.text) ++
          ")".toList)

/-- The tokens of joined literals. -/
def joined (values : List (List Char)) : List Token :=
  [Token.mark ','].intercalate (values.map fun value => [.literal value])

/-- The tokens of a term. -/
def tokens : Term → List Token
  | literal value => [.literal value]
  | concat first second more =>
    .name "concat".toList :: .mark '(' :: (joined (first :: second :: more) ++ [.mark ')'])

/-- The values of joined literals. -/
def values? : List Token → Option (List (List Char))
  | [.literal value] => some [value]
  | .literal value :: .mark ',' :: rest => (values? rest).map (value :: ·)
  | _ => none

end Term

/-- The tokens in front of a closing mark at the end. -/
def closed? (c : Char) (tokens : List Token) : Option (List Token) :=
  if tokens.getLast? = some (.mark c) then some tokens.dropLast else none

theorem closed?_append (c : Char) (tokens : List Token) :
    closed? c (tokens ++ [.mark c]) = some tokens := by
  simp [closed?]

namespace Term

/-- The term with these tokens. -/
def ofTokens? : List Token → Option Term
  | [.literal value] => some (.literal value)
  | .name letters :: .mark '(' :: rest =>
    if letters = "concat".toList then
      match (closed? ')' rest).bind values? with
      | some (first :: second :: more) => some (.concat first second more)
      | _ => none
    else none
  | _ => none

/-- The term that a text is, in its entirety. -/
def read? (cs : List Char) : Option Term :=
  (Token.ofText? cs).bind ofTokens?

theorem values?_joined (first : List Char) (more : List (List Char)) :
    values? (joined (first :: more)) = some (first :: more) := by
  induction more generalizing first with
  | nil => rfl
  | cons next more ih =>
      have shape : joined (first :: next :: more) =
          .literal first :: .mark ',' :: joined (next :: more) := by
        simp only [joined, List.map_cons, List.intercalate_cons_cons]
        rfl
      rw [shape, values?, ih]
      rfl

theorem ofTokens?_tokens (term : Term) : ofTokens? term.tokens = some term := by
  cases term with
  | literal value => rfl
  | concat first second more =>
      rw [tokens, ofTokens?, if_pos rfl, closed?_append, Option.bind_some, values?_joined]

/-- Literals that are joined as a text are joined as tokens. -/
theorem scan_joined (first : Literal) (more : List Literal) :
    Token.scan .nothing (", ".toList.intercalate ((first :: more).map Literal.text)) =
      some (joined ((first :: more).map Literal.value), .nothing) := by
  induction more generalizing first with
  | nil =>
      simp only [joined, List.map_cons, List.map_nil, List.intercalate_singleton]
      exact Literal.scan_text first
  | cons next more ih =>
      have comma : Token.scan .nothing ", ".toList = some ([.mark ','], .nothing) := by decide
      have whole := Token.scan_join (Token.scan_join (Literal.scan_text first) comma) (ih next)
      simp only [joined, List.map_cons, List.intercalate_cons_cons] at whole ⊢
      exact whole

/-- A term that is written is scanned as its tokens. -/
theorem scan_written {term : Term} {cs : List Char} (written : Written term cs) :
    Token.scan .nothing cs = some (term.tokens, .nothing) := by
  cases written with
  | literal l => exact Literal.scan_text l
  | concat first second more =>
      have opening : Token.scan .nothing "concat(".toList =
          some ([.name "concat".toList, .mark '('], .nothing) := by decide
      have closing : Token.scan .nothing ")".toList = some ([.mark ')'], .nothing) := by decide
      exact Token.scan_join (Token.scan_join opening (scan_joined first (second :: more))) closing

theorem read?_written {term : Term} {cs : List Char} (written : Written term cs) :
    read? cs = some term := by
  rw [read?, Token.ofText?, scan_written written]
  exact ofTokens?_tokens term

end Term

/-! ## Steps -/

/-- What a condition looks at: the text of the element, or an attribute. -/
inductive Source where
  | text
  | attr (name : List Char)
  deriving DecidableEq

/-- A condition on an element. -/
inductive Test where
  | equals (source : Source) (term : Term)
  | contains (source : Source) (term : Term)
  deriving DecidableEq

/-- All elements of a name, anywhere in the page, that meet a condition. -/
structure Step where
  element : List Char
  test : Test
  deriving DecidableEq

/-- The elements that one of the steps finds. -/
abbrev Union := List Step

/-- The tokens of a source. -/
def Source.tokens : Source → List Token
  | text => [.name "text".toList, .mark '(', .mark ')']
  | attr name => [.mark '@', .name name]

/-- The source that the tokens begin with, and what is left. -/
def Source.read? : List Token → Option (Source × List Token)
  | .name letters :: .mark '(' :: .mark ')' :: rest =>
    if letters = "text".toList then some (.text, rest) else none
  | .mark '@' :: .name name :: rest => some (.attr name, rest)
  | _ => none

/-- The tokens of a condition. -/
def Test.tokens : Test → List Token
  | equals source term => source.tokens ++ .mark '=' :: term.tokens
  | contains source term =>
    .name "contains".toList :: .mark '(' ::
      (source.tokens ++ .mark ',' :: term.tokens ++ [.mark ')'])

/-- A source and a term with a mark between them. -/
def Test.sides? (c : Char) (tokens : List Token) : Option (Source × Term) :=
  match Source.read? tokens with
  | some (source, .mark between :: rest) =>
    if between = c then (Term.ofTokens? rest).map fun term => (source, term) else none
  | _ => none

/-- The condition with these tokens. -/
def Test.ofTokens? : List Token → Option Test
  | .name letters :: .mark '(' :: rest =>
    if letters = "contains".toList then do
      let (source, term) ← sides? ',' (← closed? ')' rest)
      some (.contains source term)
    else (sides? '=' (.name letters :: .mark '(' :: rest)).map fun (s, t) => .equals s t
  | tokens => (sides? '=' tokens).map fun (s, t) => .equals s t

/-- The tokens of a step. -/
def Step.tokens (step : Step) : List Token :=
  .descend :: .name step.element :: .mark '[' :: (step.test.tokens ++ [.mark ']'])

/-- The step with these tokens. -/
def Step.ofTokens? : List Token → Option Step
  | .descend :: .name element :: .mark '[' :: rest => do
    some ⟨element, ← Test.ofTokens? (← closed? ']' rest)⟩
  | _ => none

/-- The tokens of a union. -/
def Union.tokens (steps : Union) : List Token :=
  [Token.mark '|'].intercalate (steps.map Step.tokens)

/-- The union with these tokens. -/
def Union.ofTokens? (tokens : List Token) : Option Union :=
  (Text.splitOn (.mark '|') tokens).mapM Step.ofTokens?

/-- The union that a text is, in its entirety. -/
def Union.read? (cs : List Char) : Option Union :=
  (Token.ofText? cs).bind Union.ofTokens?

/-! ## Reading the tokens back -/

theorem Source.read?_tokens (source : Source) (rest : List Token) :
    Source.read? (source.tokens ++ rest) = some (source, rest) := by
  cases source with
  | text => rfl
  | attr name => rfl

theorem Test.sides?_tokens (c : Char) (source : Source) (term : Term) :
    sides? c (source.tokens ++ .mark c :: term.tokens) = some (source, term) := by
  rw [sides?, Source.read?_tokens]
  simp [Term.ofTokens?_tokens]

theorem Test.ofTokens?_tokens (test : Test) : Test.ofTokens? test.tokens = some test := by
  cases test with
  | equals source term =>
      have sides := sides?_tokens '=' source term
      cases source with
      | text =>
          have other : "text".toList ≠ "contains".toList := by decide
          simp only [Test.tokens, Source.tokens, List.cons_append] at sides ⊢
          rw [Test.ofTokens?, if_neg other, sides]
          rfl
      | attr name =>
          simp only [Test.tokens, Source.tokens, List.cons_append] at sides ⊢
          rw [Test.ofTokens?, sides]
          · rfl
          · rintro _ _ ⟨⟩
  | contains source term =>
      rw [Test.tokens, Test.ofTokens?, if_pos rfl, closed?_append]
      simp [sides?_tokens]

theorem Step.ofTokens?_tokens (step : Step) : Step.ofTokens? step.tokens = some step := by
  rw [Step.tokens, Step.ofTokens?, closed?_append]
  simp [Test.ofTokens?_tokens]

/-- No step has the mark of unions among its tokens. -/
theorem Step.notMem_tokens (step : Step) : Token.mark '|' ∉ step.tokens := by
  have term (t : Term) : Token.mark '|' ∉ t.tokens := by
    cases t with
    | literal value => simp [Term.tokens]
    | concat first second more =>
        have other : Token.mark '|' ≠ Token.mark ',' := by decide
        simp [Term.tokens, Term.joined, Text.mem_intercalate_iff other]
  have source (s : Source) : Token.mark '|' ∉ s.tokens := by
    cases s <;> simp [Source.tokens]
  have test : Token.mark '|' ∉ step.test.tokens := by
    cases step.test <;> simp [Test.tokens, term, source]
  simp [Step.tokens, test]

/-- Every union is read from its tokens. -/
theorem Union.ofTokens?_tokens {steps : Union} (filled : steps ≠ []) :
    Union.ofTokens? (Union.tokens steps) = some steps := by
  have free : ∀ piece ∈ steps.map Step.tokens, Token.mark '|' ∉ piece := by
    intro piece member
    obtain ⟨step, -, rfl⟩ := List.mem_map.mp member
    exact step.notMem_tokens
  rw [Union.ofTokens?, Union.tokens,
    Text.splitOn_intercalate (fun none => filled (List.map_eq_nil_iff.mp none)) free]
  clear filled free
  induction steps with
  | nil => rfl
  | cons step steps ih =>
      rw [List.map_cons, List.mapM_cons, Step.ofTokens?_tokens, ih]
      rfl

/-! ## Queries as they are written -/

inductive Source.Written : Source → List Char → Prop
  | text : Written .text "text()".toList
  | attr {name : List Char} (isName : IsName name) : Written (.attr name) ('@' :: name)

inductive Test.Written : Test → List Char → Prop
  | equals {source : Source} {term : Term} {ss ts : List Char} (left : source.Written ss)
      (right : term.Written ts) : Written (.equals source term) (ss ++ '=' :: ts)
  | contains {source : Source} {term : Term} {ss ts : List Char} (left : source.Written ss)
      (right : term.Written ts) :
      Written (.contains source term) ("contains(".toList ++ (ss ++ ',' :: ' ' :: (ts ++ [')'])))

inductive Step.Written : Step → List Char → Prop
  | step {element : List Char} {test : Test} {ts : List Char} (isName : IsName element)
      (condition : test.Written ts) :
      Written ⟨element, test⟩ ("//".toList ++ (element ++ '[' :: (ts ++ [']'])))

inductive Union.Written : Union → List Char → Prop
  | step {step : Step} {cs : List Char} (only : step.Written cs) : Written [step] cs
  | union {step : Step} {steps : Union} {cs ds : List Char} (first : step.Written cs)
      (others : Union.Written steps ds) : Written (step :: steps) (cs ++ (" | ".toList ++ ds))

theorem Union.Written.filled {steps : Union} {cs : List Char} (written : Union.Written steps cs) :
    steps ≠ [] := by
  cases written <;> exact List.cons_ne_nil _ _

/-- A character that is a token of its own, before other tokens. -/
theorem Token.scan_mark {c : Char} {cs : List Char} {tokens : List Token}
    (mark : Token.start c = some ([.mark c], .nothing))
    (after : Token.scan .nothing cs = some (tokens, .nothing)) :
    Token.scan .nothing (c :: cs) = some (.mark c :: tokens, .nothing) := by
  rw [Token.scan, Token.step, mark, Option.bind_some, after]
  rfl

theorem Source.scan_written {source : Source} {ss rest : List Char} {c : Char}
    {tokens : List Token} (written : source.Written ss) (other : ¬ c.isAlpha = true)
    (after : Token.scan .nothing (c :: rest) = some (tokens, .nothing)) :
    Token.scan .nothing (ss ++ c :: rest) = some (source.tokens ++ tokens, .nothing) := by
  cases written with
  | text =>
      have call : Token.scan .nothing "text()".toList = some (Source.text.tokens, .nothing) := by
        decide
      exact Token.scan_join call after
  | attr isName => exact Token.scan_mark (by decide) (isName.scan_before other after)

theorem Test.scan_written {test : Test} {cs : List Char} (written : test.Written cs) :
    Token.scan .nothing cs = some (test.tokens, .nothing) := by
  cases written with
  | equals left right =>
      have term := Token.scan_mark (c := '=') (by decide) (Term.scan_written right)
      exact Source.scan_written left (by decide) term
  | contains left right =>
      have call : Token.scan .nothing "contains(".toList =
          some ([.name "contains".toList, .mark '('], .nothing) := by decide
      have blank : Token.scan .nothing [' '] = some ([], .nothing) := by decide
      have closing : Token.scan .nothing [')'] = some ([.mark ')'], .nothing) := by decide
      have term := Token.scan_join (Term.scan_written right) closing
      have sides := Token.scan_mark (c := ',') (by decide) (Token.scan_join blank term)
      have whole := Token.scan_join call (Source.scan_written left (by decide) sides)
      simpa [Test.tokens] using whole

theorem Step.scan_written {step : Step} {cs : List Char} (written : step.Written cs) :
    Token.scan .nothing cs = some (step.tokens, .nothing) := by
  cases written with
  | step isName condition =>
      have descends : Token.scan .nothing "//".toList = some ([.descend], .nothing) := by decide
      have closing : Token.scan .nothing [']'] = some ([.mark ']'], .nothing) := by decide
      have test := Token.scan_join (Test.scan_written condition) closing
      have inside := Token.scan_mark (c := '[') (by decide) test
      exact Token.scan_join descends (isName.scan_before (by decide) inside)

theorem Union.scan_written {steps : Union} {cs : List Char} (written : Union.Written steps cs) :
    Token.scan .nothing cs = some (Union.tokens steps, .nothing) := by
  induction written with
  | @step step cs only =>
      rw [Union.tokens, List.map_cons, List.map_nil, List.intercalate_singleton]
      exact Step.scan_written only
  | @union step steps cs ds first others ih =>
      have between : Token.scan .nothing " | ".toList = some ([.mark '|'], .nothing) := by decide
      have whole := Token.scan_join (Step.scan_written first) (Token.scan_join between ih)
      obtain ⟨next, more, rfl⟩ := List.exists_cons_of_ne_nil others.filled
      rw [whole]
      simp only [Union.tokens, List.map_cons, List.intercalate_cons_cons, List.append_assoc]

/-- Every union that is written is read. -/
theorem Union.read?_written {steps : Union} {cs : List Char} (written : Union.Written steps cs) :
    Union.read? cs = some steps := by
  rw [Union.read?, Token.ofText?, Union.scan_written written]
  exact Union.ofTokens?_tokens written.filled

end WebPilot.PathExpression
