import WebPilot.Locator.Candidate
import WebPilot.Proofs.Locator.PathExpression

/-!
# No value breaks out of its literal

A value with one kind of quotes at most stands between quotes of the other kind.  A value with both
is cut at its double quotes, and a call joins literals for the pieces and for the quotes
(`written_concat`).  **So the text for a value is one term and nothing else, the term evaluates to
the value, and both queries by text have the structure that is meant, with the term in three
places** (`read_pathLiteral`).
-/

namespace WebPilot.Locator

open PathExpression

set_option autoImplicit false

/-! ## The text for a value -/

/-- Values that do not hold a quote are the values of literals between such quotes. -/
theorem exists_literals {quote : Char} (isQuote : quote = '"' ∨ quote = '\'')
    {values : List (List Char)} (free : ∀ value ∈ values, quote ∉ value) :
    ∃ literals : List Literal, literals.map Literal.value = values ∧
      literals.map Literal.text = values.map (literalBetween quote) := by
  induction values with
  | nil => exact ⟨[], rfl, rfl⟩
  | cons value values ih =>
      obtain ⟨first, others⟩ := List.forall_mem_cons.mp free
      obtain ⟨literals, same, texts⟩ := ih others
      refine ⟨⟨quote, value, isQuote, first⟩ :: literals, ?_, ?_⟩
      · rw [List.map_cons, same]
      · rw [List.map_cons, texts]
        rfl

/-- A text that is cut at its double quotes, with literals for the pieces and the quotes. -/
theorem written_concat {cs : List Char} (double : '"' ∈ cs) :
    ∃ term : Term, term.value = cs ∧ term.Written ("concat(".toList ++
      Text.joinWith ([',', ' '] ++ literalBetween '\'' ['"'] ++ [',', ' '])
        ((Text.splitOn '"' cs).map (literalBetween '"')) ++ [')']) := by
  have free : ∀ piece ∈ Text.splitOn '"' cs, '"' ∉ piece := by
    intro piece member
    exact Text.notMem_of_mem_splitOn member
  obtain ⟨literals, values, texts⟩ := exists_literals (.inl rfl) free
  obtain ⟨piece, another, pieces, cut⟩ := Text.splitOn_of_mem double
  let quoted : Literal := ⟨'\'', ['"'], .inr rfl, by decide⟩
  obtain ⟨first, second, more, shape⟩ :
      ∃ first second more, literals.intersperse quoted = first :: second :: more := by
    rw [cut] at values
    match literals, values with
    | first :: second :: more, _ =>
        exact ⟨first, quoted, (second :: more).intersperse quoted,
          List.intersperse_cons_cons⟩
  refine ⟨.concat first.value second.value (more.map Literal.value), ?_, ?_⟩
  · calc ((first :: second :: more).map Literal.value).flatten
        = ((literals.map Literal.value).intersperse ['"']).flatten := by
          rw [← shape, Text.map_intersperse]
      _ = ['"'].intercalate (Text.splitOn '"' cs) := by
          rw [values]
          rfl
      _ = cs := Text.intercalate_splitOn '"' cs
  · have written := Term.Written.concat first second more
    rw [← shape, Text.map_intersperse, texts, Text.intercalate_intersperse] at written
    rw [Text.joinWith_eq_intercalate]
    exact written

/-- The text for a value is that of a term that evaluates to the value. -/
theorem written_pathLiteral (value : String) :
    ∃ term : Term, term.value = value.toList ∧ term.Written (pathLiteral value).toList := by
  rw [pathLiteral, String.toList_ofList]
  split
  · rename_i noDouble
    have free : '"' ∉ value.toList := by simpa using noDouble
    exact ⟨.literal value.toList, rfl, .literal ⟨'"', value.toList, .inl rfl, free⟩⟩
  · rename_i double
    split
    · rename_i noSingle
      have free : '\'' ∉ value.toList := by simpa using noSingle
      exact ⟨.literal value.toList, rfl, .literal ⟨'\'', value.toList, .inr rfl, free⟩⟩
    · exact written_concat (by simpa using double)

/-! ## The queries by text -/

/-- The elements that show a text: buttons and links by what they say, fields by their value. -/
def showing (test : Source → Test) : Union :=
  [⟨"button".toList, test .text⟩, ⟨"a".toList, test .text⟩,
    ⟨"input".toList, test (.attr "value".toList)⟩]

/-- The union over these elements is written with the same condition on each source. -/
theorem written_showing {test : Source → Test} {write : List Char → List Char}
    (writes : ∀ {source ss}, source.Written ss → (test source).Written (write ss)) :
    Union.Written (showing test)
      ("//".toList ++ ("button".toList ++ '[' :: (write "text()".toList ++ [']'])) ++
        (" | ".toList ++
          ("//".toList ++ ("a".toList ++ '[' :: (write "text()".toList ++ [']'])) ++
            (" | ".toList ++
              ("//".toList ++ ("input".toList ++ '[' :: (write "@value".toList ++ [']']))))))) := by
  have isButton : IsName "button".toList := .of_all (by decide) (by decide)
  have isLink : IsName "a".toList := .of_all (by decide) (by decide)
  have isField : IsName "input".toList := .of_all (by decide) (by decide)
  have isValue : IsName "value".toList := .of_all (by decide) (by decide)
  have button := Step.Written.step isButton (writes .text)
  have link := Step.Written.step isLink (writes .text)
  have field := Step.Written.step isField (writes (.attr isValue))
  exact .union button (.union link (.step field))

/-- The text for a description is one term, which evaluates to the description, and the queries by
text have the structure that is meant, with that term in three places. -/
theorem read_pathLiteral (description : String) :
    ∃ term : Term, ∃ exact part : String,
      term.Written (pathLiteral description).toList ∧
      Term.read? (pathLiteral description).toList = some term ∧
      term.value = description.toList ∧
      (candidates description).lookup .exactText = some ⟨.xpath, exact⟩ ∧
      Union.read? exact.toList = some (showing (.equals · term)) ∧
      (candidates description).lookup .partialText = some ⟨.xpath, part⟩ ∧
      Union.read? part.toList = some (showing (.contains · term)) := by
  obtain ⟨term, value, written⟩ := written_pathLiteral description
  have exact := written_showing fun source => Test.Written.equals source written
  have part := written_showing fun source => Test.Written.contains source written
  refine ⟨term, _, _, written, Term.read?_written written, value, rfl, ?_, rfl, ?_⟩
  · rw [← Union.read?_written exact]
    apply congrArg Union.read?
    simp [toString]
  · rw [← Union.read?_written part]
    apply congrArg Union.read?
    simp [toString]

-- The quotes of this text would close a literal that was put around it.
example : Term.read? (pathLiteral "it's \"x\"").toList =
    some (.concat "it's ".toList ['"'] ["x".toList, ['"'], []]) := by decide

example : Term.read? (literalBetween '\'' "it' or 'x".toList) = none := by decide

end WebPilot.Locator
