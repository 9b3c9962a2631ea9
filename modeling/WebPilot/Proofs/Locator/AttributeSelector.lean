import WebPilot.Locator.Candidate
import WebPilot.Text.Hex

/-!
# No value breaks out of its string, but for two line breaks

To say what a quoted string of a selector means, this module reads it from its text alone.  The text
is prepared first: there is one kind of line break (`prepare`).  A scan then cuts it into tokens,
one character after the other (`Token.step`).  Within a string a backslash takes the next character
along; hexadecimal digits behind it stand for a code point, and one blank after them belongs to
them.  A line break that is not escaped breaks the string off.

What is escaped is read back as it was, whatever stands next to it (`scan_escaped`).  But carriage
returns and form feeds are not escaped, and become line breaks only when the text is prepared.  **So
the text for a value is one string that means the value exactly if the value holds neither of
them**, and the same holds of the selectors by attribute that are made of it
(`reads_selectorString_iff`).
-/

namespace WebPilot.Locator

set_option autoImplicit false

namespace AttributeSelector

/-! ## Preparing -/

/-- What stands in the place of a character that cannot be. -/
def replacement : Char := Char.ofNat 0xfffd

/-- The text with one kind of line break, and without the null character. -/
def prepare : List Char → List Char
  | [] => []
  | '\r' :: '\n' :: rest => '\n' :: prepare rest
  | c :: rest =>
    (if c = '\r' ∨ c = '\x0c' then '\n' else if c = '\x00' then replacement else c) :: prepare rest

/-- Characters that are read as they are. -/
def Plain (cs : List Char) : Prop :=
  ∀ c ∈ cs, c ≠ '\r' ∧ c ≠ '\x0c' ∧ c ≠ '\x00'

instance (cs : List Char) : Decidable (Plain cs) :=
  List.decidableBAll _ cs

theorem plain_append {cs ds : List Char} : Plain (cs ++ ds) ↔ Plain cs ∧ Plain ds :=
  List.forall_mem_append

/-- What is plain is left as it is, and so is what follows it prepared on its own. -/
theorem prepare_append {cs : List Char} (plain : Plain cs) (rest : List Char) :
    prepare (cs ++ rest) = cs ++ prepare rest := by
  induction cs with
  | nil => rfl
  | cons c cs ih =>
      obtain ⟨⟨notReturn, notFeed, notNull⟩, others⟩ := List.forall_mem_cons.mp plain
      rw [List.cons_append, prepare]
      · rw [if_neg (by simp [notReturn, notFeed]), if_neg notNull, ih others, List.cons_append]
      · rintro _ rfl
        exact absurd rfl notReturn

theorem prepare_of_plain {cs : List Char} (plain : Plain cs) : prepare cs = cs := by
  have same := prepare_append plain []
  rwa [List.append_nil, prepare, List.append_nil] at same

/-- A carriage return and a form feed are line breaks. -/
theorem prepare_break {c : Char} (breaks : c = '\r' ∨ c = '\x0c') (rest : List Char) :
    ∃ later, prepare (c :: rest) = '\n' :: later := by
  unfold prepare
  split
  · contradiction
  · exact ⟨_, rfl⟩
  · rename_i same
    obtain ⟨rfl, rfl⟩ := List.cons.inj same
    exact ⟨_, by rw [if_pos breaks]⟩

/-! ## Tokens -/

/-- The tokens of selectors, as far as those by attribute have them. -/
inductive Token where
  | blank
  | name (letters : List Char)
  | string (value : List Char)
  /-- A string that a line break has broken off. -/
  | broken
  /-- A string that is not closed before the end of the text. -/
  | unclosed (value : List Char)
  | mark (c : Char)
  deriving DecidableEq

/-- The token that a scan is in. -/
inductive Pending where
  | nothing
  | name (letters : List Char)
  | string (quote : Char) (value : List Char)
  /-- Behind a backslash. -/
  | escape (quote : Char) (value : List Char)
  /-- Behind a backslash and digits. -/
  | code (quote : Char) (value digits : List Char)
  deriving DecidableEq

namespace Token

/-- The blanks of prepared texts. -/
def blanks : List Char := [' ', '\t', '\n']

/-- The characters that a name begins with. -/
def isNameStart (c : Char) : Bool :=
  c.isAlpha || c == '_' || 0x80 ≤ c.toNat

/-- The characters that a name goes on with. -/
def isNameChar (c : Char) : Bool :=
  isNameStart c || c.isDigit || c == '-'

/-- Whether a character is a hexadecimal digit. -/
def isHex (c : Char) : Bool :=
  (Text.hexValue? c).isSome

/-- The character for a code point in digits. -/
def denoted (digits : List Char) : Char :=
  let n := digits.foldl (fun n c => 16 * n + (Text.hexValue? c).getD 0) 0
  if n = 0 ∨ (0xd800 ≤ n ∧ n ≤ 0xdfff) ∨ 0x10ffff < n then replacement else Char.ofNat n

/-- A character where no token is open. -/
def start (c : Char) : List Token × Pending :=
  if isNameStart c then ([], .name [c])
  else if c ∈ blanks then ([.blank], .nothing)
  else if c = '"' ∨ c = '\'' then ([], .string c [])
  else ([.mark c], .nothing)

/-- A character of a string. -/
def within (quote : Char) (value : List Char) (c : Char) : List Token × Pending :=
  if c = quote then ([.string value], .nothing)
  else if c = '\n' then ([.broken, .blank], .nothing)
  else if c = '\\' then ([], .escape quote value)
  else ([], .string quote (value ++ [c]))

/-- One character of a scan: the tokens that it completes, and the one that is open afterwards. -/
def step : Pending → Char → List Token × Pending
  | .nothing, c => start c
  | .name letters, c =>
    if isNameChar c then ([], .name (letters ++ [c]))
    else
      let next := start c
      (.name letters :: next.1, next.2)
  | .string quote value, c => within quote value c
  | .escape quote value, c =>
    -- An escaped line break is no part of the value.
    if c = '\n' then ([], .string quote value)
    else if isHex c then ([], .code quote value [c])
    else ([], .string quote (value ++ [c]))
  | .code quote value digits, c =>
    if isHex c ∧ digits.length < 6 then ([], .code quote value (digits ++ [c]))
    else if c ∈ blanks then ([], .string quote (value ++ [denoted digits]))
    else within quote (value ++ [denoted digits]) c

/-- A scan of a prepared text. -/
def scan (pending : Pending) : List Char → List Token × Pending
  | [] => ([], pending)
  | c :: cs =>
    let here := step pending c
    let rest := scan here.2 cs
    (here.1 ++ rest.1, rest.2)

/-- The tokens that the end of a text leaves. -/
def atEnd : Pending → List Token
  | .nothing => []
  | .name letters => [.name letters]
  | .string _ value => [.unclosed value]
  | .escape _ value => [.unclosed value]
  | .code _ value digits => [.unclosed (value ++ [denoted digits])]

/-- The tokens of a text. -/
def ofText (cs : List Char) : List Token :=
  let scanned := scan .nothing (prepare cs)
  scanned.1 ++ atEnd scanned.2

/-- A scan goes on where it has stopped. -/
theorem scan_append {cs : List Char} {pending next : Pending} {tokens : List Token}
    (first : scan pending cs = (tokens, next)) (rest : List Char) :
    scan pending (cs ++ rest) = (tokens ++ (scan next rest).1, (scan next rest).2) := by
  induction cs generalizing pending tokens with
  | nil =>
      cases first
      rfl
  | cons c cs ih =>
      rcases later : scan (step pending c).2 cs with ⟨those, last⟩
      rw [scan, later] at first
      cases first
      rw [List.cons_append, scan, ih later, List.append_assoc]

/-- **A character of a value is read back**, whatever comes next. -/
theorem scan_selectorChar (seen : List Char) (c : Char) :
    scan (.string '"' seen) (selectorChar c) = ([], .string '"' (seen ++ [c])) := by
  unfold selectorChar
  split
  · subst c
    rfl
  split
  · subst c
    rfl
  split
  · subst c
    -- The blank belongs to the digit, so that no digit of the value can.
    rfl
  · rename_i notBackslash notQuote notBreak
    simp only [scan, step, within, if_neg notQuote, if_neg notBreak, if_neg notBackslash,
      List.append_nil]

/-- What is escaped is read back. -/
theorem scan_escaped (value seen : List Char) :
    scan (.string '"' seen) (value.flatMap selectorChar) = ([], .string '"' (seen ++ value)) := by
  induction value generalizing seen with
  | nil => rw [List.flatMap_nil, scan, List.append_nil]
  | cons c value ih =>
      rw [List.flatMap_cons, scan_append (scan_selectorChar seen c), ih, List.append_assoc]
      rfl

/-- The string for a value is one token. -/
theorem scan_closed (value rest : List Char) :
    scan .nothing ('"' :: (value.flatMap selectorChar ++ '"' :: rest)) =
      (.string value :: (scan .nothing rest).1, (scan .nothing rest).2) := by
  have inside : scan (.string '"' []) (value.flatMap selectorChar ++ '"' :: rest) =
      (.string value :: (scan .nothing rest).1, (scan .nothing rest).2) :=
    scan_append (scan_escaped value []) ('"' :: rest)
  rw [scan]
  exact inside

/-- A line break within a string breaks it off. -/
theorem scan_brokenOff (value rest : List Char) :
    scan .nothing ('"' :: (value.flatMap selectorChar ++ '\n' :: rest)) =
      (.broken :: .blank :: (scan .nothing rest).1, (scan .nothing rest).2) := by
  have inside : scan (.string '"' []) (value.flatMap selectorChar ++ '\n' :: rest) =
      (.broken :: .blank :: (scan .nothing rest).1, (scan .nothing rest).2) :=
    scan_append (scan_escaped value []) ('\n' :: rest)
  rw [scan]
  exact inside

end Token

/-! ## Selectors by attribute -/

/-- How an attribute is compared with a value. -/
inductive Comparison where
  /-- The attribute is the value. -/
  | equals
  /-- The value occurs in the attribute. -/
  | contains
  deriving DecidableEq

end AttributeSelector

/-- The elements of which an attribute compares so with a value. -/
structure AttributeSelector where
  name : List Char
  comparison : AttributeSelector.Comparison
  value : List Char
  deriving DecidableEq

namespace AttributeSelector

/-- The selector with these tokens. -/
def ofTokens? : List Token → Option AttributeSelector
  | [.mark '[', .name name, .mark '=', .string value, .mark ']'] => some ⟨name, .equals, value⟩
  | [.mark '[', .name name, .mark '*', .mark '=', .string value, .mark ']'] =>
    some ⟨name, .contains, value⟩
  | _ => none

/-- The selector that a text is, in its entirety. -/
def read? (cs : List Char) : Option AttributeSelector :=
  ofTokens? (Token.ofText cs)

/-- The text in front of the value. -/
def opening (name : List Char) : Comparison → List Char
  | .equals => '[' :: name ++ ['=']
  | .contains => '[' :: name ++ ['*', '=']

/-- The tokens in front of the value. -/
def openingTokens (name : List Char) : Comparison → List Token
  | .equals => [.mark '[', .name name, .mark '=']
  | .contains => [.mark '[', .name name, .mark '*', .mark '=']

theorem ofTokens?_string (name value : List Char) (comparison : Comparison) :
    ofTokens? (openingTokens name comparison ++ [.string value, .mark ']']) =
      some ⟨name, comparison, value⟩ := by
  cases comparison <;> rfl

theorem ofTokens?_broken (name : List Char) (comparison : Comparison) (rest : List Token) :
    ofTokens? (openingTokens name comparison ++ .broken :: rest) = none := by
  cases comparison <;> rfl

/-! ## Values as they are escaped -/

/-- A value as a quoted string. -/
def quoted (value : List Char) : List Char :=
  '"' :: (value.flatMap selectorChar ++ ['"'])

theorem toList_selectorString (value : String) :
    (selectorString value).toList = quoted value.toList := by
  rw [selectorString, String.toList_ofList]
  rfl

/-- A value without carriage returns and form feeds. -/
def Unbroken (value : List Char) : Prop :=
  '\r' ∉ value ∧ '\x0c' ∉ value

instance (value : List Char) : Decidable (Unbroken value) :=
  inferInstanceAs (Decidable (_ ∧ _))

variable {value : List Char}

/-- An unbroken value is plain. -/
theorem plain_of_unbroken (noNull : '\x00' ∉ value) (unbroken : Unbroken value) : Plain value := by
  intro c member
  exact ⟨fun same => unbroken.1 (same ▸ member), fun same => unbroken.2 (same ▸ member),
    fun same => noNull (same ▸ member)⟩

/-- Of carriage returns and form feeds in a value one is the first. -/
theorem exists_break (noNull : '\x00' ∉ value) (broken : ¬ Unbroken value) :
    ∃ before c after, value = before ++ c :: after ∧ Plain before ∧ (c = '\r' ∨ c = '\x0c') := by
  induction value with
  | nil => exact absurd ⟨List.not_mem_nil, List.not_mem_nil⟩ broken
  | cons c value ih =>
      have notNull : c ≠ '\x00' := Ne.symm (List.ne_of_not_mem_cons noNull)
      by_cases breaks : c = '\r' ∨ c = '\x0c'
      · exact ⟨[], c, value, rfl, nofun, breaks⟩
      · obtain ⟨notReturn, notFeed⟩ := not_or.mp breaks
        have later : ¬ Unbroken value := fun unbroken =>
          broken ⟨List.not_mem_cons_of_ne_of_not_mem (Ne.symm notReturn) unbroken.1,
            List.not_mem_cons_of_ne_of_not_mem (Ne.symm notFeed) unbroken.2⟩
        obtain ⟨before, d, after, rfl, plain, breaks⟩ :=
          ih (List.not_mem_of_not_mem_cons noNull) later
        have here : c ≠ '\r' ∧ c ≠ '\x0c' ∧ c ≠ '\x00' := ⟨notReturn, notFeed, notNull⟩
        exact ⟨c :: before, d, after, rfl, List.forall_mem_cons.mpr ⟨here, plain⟩, breaks⟩

/-- What stands for a plain value is plain. -/
theorem plain_escaped (plain : Plain value) : Plain (value.flatMap selectorChar) := by
  intro c member
  obtain ⟨original, inside, among⟩ := List.mem_flatMap.mp member
  unfold selectorChar at among
  split at among
  · exact (by decide : Plain ['\\', '\\']) c among
  split at among
  · exact (by decide : Plain ['\\', '"']) c among
  split at among
  · exact (by decide : Plain ['\\', 'a', ' ']) c among
  · obtain rfl := List.mem_singleton.mp among
    exact plain c inside

/-! ## Values between other tokens -/

section

variable {before : List Char} {tokens : List Token}
  (opens : Token.scan .nothing before = (tokens, .nothing)) (plain : Plain before)

include opens plain

/-- The tokens of a text in which the string for a plain value stands between others. -/
theorem ofText_plain (unbroken : Plain value) {after : List Char} (closing : Plain after) :
    Token.ofText (before ++ quoted value ++ after) =
      tokens ++ .string value :: Token.ofText after := by
  have quote : Plain ['"'] := by decide
  have between : Plain (quoted value) := List.forall_mem_cons.mpr
    ⟨quote _ List.mem_cons_self, plain_append.mpr ⟨plain_escaped unbroken, quote⟩⟩
  have whole := plain_append.mpr ⟨plain_append.mpr ⟨plain, between⟩, closing⟩
  simp only [Token.ofText, prepare_of_plain whole, prepare_of_plain closing]
  rw [List.append_assoc, Token.scan_append opens]
  simp only [quoted, List.cons_append, List.append_assoc, List.nil_append, Token.scan_closed]

/-- The tokens of a text in which a broken value stands between others. -/
theorem ofText_broken (noNull : '\x00' ∉ value) (broken : ¬ Unbroken value) (after : List Char) :
    ∃ rest, Token.ofText (before ++ quoted value ++ after) = tokens ++ .broken :: rest := by
  obtain ⟨first, c, later, rfl, plainFirst, breaks⟩ := exists_break noNull broken
  have itself : selectorChar c = [c] := by
    rcases breaks with rfl | rfl <;> rfl
  have quote : Plain ['"'] := by decide
  have plainOpen : Plain (before ++ '"' :: first.flatMap selectorChar) :=
    plain_append.mpr ⟨plain, List.forall_mem_cons.mpr
      ⟨quote _ List.mem_cons_self, plain_escaped plainFirst⟩⟩
  have shape : before ++ quoted (first ++ c :: later) ++ after =
      before ++ '"' :: first.flatMap selectorChar ++
        c :: (later.flatMap selectorChar ++ '"' :: after) := by
    simp [quoted, itself]
  obtain ⟨rest, prepared⟩ := prepare_break breaks (later.flatMap selectorChar ++ '"' :: after)
  refine ⟨.blank :: (Token.scan .nothing rest).1 ++ Token.atEnd (Token.scan .nothing rest).2, ?_⟩
  simp only [Token.ofText, shape, prepare_append plainOpen, prepared]
  rw [List.append_assoc, Token.scan_append opens]
  simp only [List.cons_append, Token.scan_brokenOff, List.append_assoc]

end

/-- The string for a value is one token that means the value exactly if the value is unbroken. -/
theorem ofText_quoted_iff (noNull : '\x00' ∉ value) :
    Token.ofText (quoted value) = [.string value] ↔ Unbroken value := by
  have alone : Token.scan .nothing [] = ([], .nothing) := rfl
  constructor
  · intro reads
    refine Decidable.byContradiction fun broken => ?_
    obtain ⟨rest, breaks⟩ := ofText_broken alone nofun noNull broken []
    rw [List.nil_append, List.append_nil, reads] at breaks
    cases breaks
  · intro unbroken
    have plain := plain_of_unbroken noNull unbroken
    have closing : Plain [] := nofun
    have reads := ofText_plain alone nofun plain closing
    rwa [List.nil_append, List.append_nil] at reads

/-- A selector that is made of the string for a value is read with the value exactly if the value is
unbroken. -/
theorem read?_iff {name : List Char} {comparison : Comparison}
    (opens : Token.scan .nothing (opening name comparison) =
      (openingTokens name comparison, .nothing))
    (plain : Plain (opening name comparison)) (noNull : '\x00' ∉ value) :
    read? (opening name comparison ++ quoted value ++ [']']) = some ⟨name, comparison, value⟩ ↔
      Unbroken value := by
  constructor
  · intro reads
    refine Decidable.byContradiction fun broken => ?_
    obtain ⟨rest, breaks⟩ := ofText_broken opens plain noNull broken [']']
    rw [read?, breaks, ofTokens?_broken] at reads
    cases reads
  · intro unbroken
    have whole := plain_of_unbroken noNull unbroken
    rw [read?, ofText_plain opens plain whole (by decide)]
    exact ofTokens?_string name value comparison

end AttributeSelector

open AttributeSelector

/-- The strategies that look at an attribute: which one, and how it compares with the
description. -/
def attributeStrategies : List (Strategy × String × Comparison) :=
  [(.ariaLabel, "aria-label", .equals), (.ariaLabelPartial, "aria-label", .contains),
    (.nameAttribute, "name", .equals), (.placeholder, "placeholder", .equals)]

/-- The openings of these selectors are read as such. -/
theorem openings_read : ∀ place ∈ attributeStrategies,
    Plain (opening place.2.1.toList place.2.2) ∧
      Token.scan .nothing (opening place.2.1.toList place.2.2) =
        (openingTokens place.2.1.toList place.2.2, .nothing) := by
  decide

/-- These selectors are made of the string for the description. -/
theorem exists_attributeText (description : String) : ∀ place ∈ attributeStrategies,
    ∃ text, (candidates description).lookup place.1 = some ⟨.css, text⟩ ∧
      text.toList =
        opening place.2.1.toList place.2.2 ++ quoted description.toList ++ [']'] := by
  simp only [attributeStrategies, List.forall_mem_cons, ← toList_selectorString]
  refine ⟨⟨_, rfl, ?_⟩, ⟨_, rfl, ?_⟩, ⟨_, rfl, ?_⟩, ⟨_, rfl, ?_⟩, nofun⟩
  all_goals simp [opening, toString]

/-- **Values without carriage returns and form feeds are quoted faithfully, and no others.**  The
text for such a value is one string that means the value, and the selectors by attribute that are
made of it compare the attribute with the value. -/
theorem reads_selectorString_iff (value : String) (noNull : '\x00' ∉ value.toList) :
    (Token.ofText (selectorString value).toList = [.string value.toList] ↔
      Unbroken value.toList) ∧
    ∀ strategy name comparison, (strategy, name, comparison) ∈ attributeStrategies →
      ∃ text, (candidates value).lookup strategy = some ⟨.css, text⟩ ∧
        (read? text.toList = some ⟨name.toList, comparison, value.toList⟩ ↔
          Unbroken value.toList) := by
  refine ⟨?_, fun strategy name comparison member => ?_⟩
  · rw [toList_selectorString]
    exact ofText_quoted_iff noNull
  · obtain ⟨plain, opens⟩ := openings_read _ member
    obtain ⟨text, among, shape⟩ := exists_attributeText value _ member
    refine ⟨text, among, ?_⟩
    rw [shape]
    exact read?_iff opens plain noNull

/-- The string for a hard value, in which a line break stands before a digit. -/
theorem reads_selectorString_hard :
    '\x00' ∉ "a\nb \\\"c".toList ∧
      Token.ofText (selectorString "a\nb \\\"c").toList = [.string "a\nb \\\"c".toList] ∧
      ∃ text, (candidates "a\nb \\\"c").lookup .placeholder = some ⟨.css, text⟩ ∧
        read? text.toList = some ⟨"placeholder".toList, .equals, "a\nb \\\"c".toList⟩ := by
  have noNull : '\x00' ∉ "a\nb \\\"c".toList := by decide
  have unbroken : Unbroken "a\nb \\\"c".toList := by decide
  obtain ⟨string, selectors⟩ := reads_selectorString_iff "a\nb \\\"c" noNull
  obtain ⟨text, among, reads⟩ := selectors .placeholder "placeholder" .equals (by decide)
  exact ⟨noNull, string.mpr unbroken, text, among, reads.mpr unbroken⟩

/-- **A carriage return breaks the string off**, and the selectors that are made of it are none. -/
theorem carriageReturn_breaks_string :
    '\x00' ∉ "a\rb".toList ∧
      Token.ofText (selectorString "a\rb").toList ≠ [.string "a\rb".toList] ∧
      ∃ text, (candidates "a\rb").lookup .ariaLabel = some ⟨.css, text⟩ ∧
        read? text.toList = none :=
  ⟨by decide, by decide, _, rfl, by decide⟩

end WebPilot.Locator
