import WebPilot.Model.Answer
import WebPilot.Proofs.Json.RoundTrip
import WebPilot.Proofs.Text.Pieces

/-!
# Answers are read back

A model presents its arguments bare or in a fence, with a language or none, and with blanks around
them and inside the fence (`Presents`).  A fence ends with the last marks of the answer, whatever
marks the text inside it holds, so **a text that starts and ends with a brace is read alike however
it is presented**, and the fault is the same if it is no JSON (`readArguments_of_presents`).

A text that lays out an object starts and ends with a brace, whatever gaps stand between its tokens
and however its characters are spelled.  What is written of the object is such a text, on one line
or with any indentation.  **So an object without floating-point numbers is read back from each of
its texts, with its fields in their order, however the text is presented**
(`readArguments_presented`).
-/

namespace WebPilot

set_option autoImplicit false

/-! ## Presenting a text -/

/-- Nothing but blanks. -/
def Blanks (cs : List Char) : Prop :=
  ∀ c ∈ cs, Text.isBlank c = true

theorem blanks_of_all {cs : List Char} (all : cs.all Text.isBlank = true) : Blanks cs :=
  List.all_eq_true.mp all

/-- The languages that a fence may name. -/
def languages : List (List Char) := [[], "json".toList]

/-- A fence with a language and what stands inside. -/
def fence (language inside : List Char) : List Char :=
  fenceMarks ++ (language ++ (inside ++ fenceMarks))

/-- The answer is the text, bare or in a fence, with blanks around it. -/
inductive Presents (text : List Char) : List Char → Prop
  | bare {before after : List Char} (blank : Blanks before) (blank' : Blanks after) :
      Presents text (before ++ text ++ after)
  | fenced {language before first last after : List Char} (known : language ∈ languages)
      (blank : Blanks before) (blankFirst : Blanks first) (blankLast : Blanks last)
      (blank' : Blanks after) :
      Presents text (before ++ fence language (first ++ text ++ last) ++ after)

/-- The text starts with an opening brace and ends with a closing one. -/
structure Braced (text : List Char) : Prop where
  opens : text.head? = some '\x7b'
  closes : text.getLast? = some '\x7d'

namespace Braced

variable {text : List Char} (braced : Braced text)

include braced

theorem filled : text ≠ [] := by
  rintro rfl
  cases braced.opens

/-- Blanks around a text in braces are trimmed, and nothing else. -/
theorem trim {before after : List Char} (blank : Blanks before) (blank' : Blanks after) :
    Text.trim (before ++ text ++ after) = text := by
  apply Text.trimBy_append braced.filled blank blank'
  · intro c head
    rw [Option.mem_unique head braced.opens]
    decide
  · intro c last
    rw [Option.mem_unique last braced.closes]
    decide

/-- A text in braces is not fenced. -/
theorem unfence_eq : unfence text = text := by
  obtain ⟨c, cs, rfl⟩ := List.exists_cons_of_ne_nil braced.filled
  have brace : c = '\x7b' := Option.some.inj braced.opens
  rw [brace]
  rfl

/-- No language goes on with what stands inside a fence. -/
theorem head_ne {first last : List Char} (blank : Blanks first) :
    (first ++ text ++ last).head? ≠ some 'j' := by
  cases first with
  | nil =>
      obtain ⟨c, cs, rfl⟩ := List.exists_cons_of_ne_nil braced.filled
      have brace : c = '\x7b' := Option.some.inj braced.opens
      rw [brace]
      exact fun same => absurd (Option.some.inj same) (by decide)
  | cons c first =>
      intro same
      have letter : c = 'j' := Option.some.inj same
      have isBlank := blank c List.mem_cons_self
      rw [letter] at isBlank
      exact absurd isBlank (by decide)

end Braced

/-- The language of a fence is cut off. -/
theorem cut_language {language inside : List Char} (known : language ∈ languages)
    (other : inside.head? ≠ some 'j') :
    (if "json".toList.isPrefixOf (language ++ inside) then (language ++ inside).drop 4
      else language ++ inside) = inside := by
  simp only [languages, List.mem_cons, List.not_mem_nil, or_false] at known
  rcases known with rfl | rfl
  · rw [List.nil_append, if_neg]
    intro named
    obtain ⟨rest, rfl⟩ := List.isPrefixOf_iff_prefix.mp named
    exact other rfl
  · rw [if_pos (List.isPrefixOf_iff_prefix.mpr (List.prefix_append _ _))]
    rfl

/-- A fence ends with its last marks, whatever stands inside. -/
theorem unfence_fence {language inside : List Char} (known : language ∈ languages)
    (other : (inside ++ fenceMarks).head? ≠ some 'j') :
    unfence (fence language inside) = Text.trim inside := by
  have begins : fenceMarks.isPrefixOf (fence language inside) = true :=
    List.isPrefixOf_iff_prefix.mpr (List.prefix_append _ _)
  have rest : (fence language inside).drop 3 = language ++ (inside ++ fenceMarks) := rfl
  have ends : fenceMarks.isSuffixOf (inside ++ fenceMarks) = true :=
    List.isSuffixOf_iff_suffix.mpr (List.suffix_append _ _)
  have taken : (inside ++ fenceMarks).take ((inside ++ fenceMarks).length - 3) = inside := by
    rw [List.length_append]
    exact List.take_left
  unfold unfence
  simp only [begins, rest, cut_language known other, ends, taken, if_true]

/-- A fence is no blank at either end. -/
theorem trim_fence {language inside before after : List Char} (blank : Blanks before)
    (blank' : Blanks after) :
    Text.trim (before ++ fence language inside ++ after) = fence language inside := by
  apply Text.trimBy_append (List.cons_ne_nil _ _) blank blank'
  · rintro _ ⟨⟩
    decide
  · intro c last
    have mark : (fence language inside).getLast? = some (Char.ofNat 0x60) := by
      rw [fence, List.getLast?_append, List.getLast?_append, List.getLast?_append]
      rfl
    rw [Option.mem_unique last mark]
    decide

/-- **A text in braces is what is read of an answer that presents it.** -/
theorem unfence_of_presents {text answer : List Char} (braced : Braced text)
    (presents : Presents text answer) : unfence (Text.trim answer) = text := by
  cases presents with
  | bare blank blank' => rw [braced.trim blank blank', braced.unfence_eq]
  | @fenced language before first last after known blank blankFirst blankLast blank' =>
      have other : (first ++ text ++ last ++ fenceMarks).head? ≠ some 'j' := by
        rw [List.append_assoc]
        exact braced.head_ne blankFirst
      rw [trim_fence blank blank', unfence_fence known other,
        braced.trim blankFirst blankLast]

/-- A text in braces is read alike however it is presented. -/
theorem readArguments_of_presents {text answer : List Char} (braced : Braced text)
    (presents : Presents text answer) :
    readArguments (String.ofList answer) = readArguments (String.ofList text) := by
  have plain : Presents text ([] ++ text ++ []) :=
    .bare (List.forall_mem_nil _) (List.forall_mem_nil _)
  have bare := unfence_of_presents braced plain
  rw [List.nil_append, List.append_nil] at bare
  unfold readArguments
  rw [String.toList_ofList, String.toList_ofList, unfence_of_presents braced presents, bare]

/-! ## Objects -/

namespace Json

/-- A text that lays out an object is in braces. -/
theorem Laid.braced {fields : Fields} {text : List Char} (laid : Laid (.object fields) text) :
    Braced text := by
  cases laid with
  | emptyObject isGap =>
      refine ⟨rfl, ?_⟩
      rw [List.getLast?_cons, List.getLast?_append]
      rfl
  | object isGap inside =>
      refine ⟨rfl, ?_⟩
      rw [List.getLast?_cons, List.getLast?_append, List.getLast?_append]
      rfl

namespace Dialect

theorem admits_answer (digits : Nat) : answer.admits digits = decide (digits ≤ 4300) := by
  unfold admits
  simp only [answer, Option.any_none, Option.any_some, Bool.or_false, ← decide_not, Nat.not_lt]

theorem fits_answer : answer.Fits 980 := by
  rintro _ ⟨⟩
  exact Nat.le_refl 980

end Dialect

end Json

/-- An object is read back from whatever presents a text that lays it out. -/
theorem readArguments_laid {fields : Fields}
    (storable : Json.storable 980 (.object fields) = true)
    (short : Json.longestInt (.object fields) ≤ 4300) {text answer : List Char}
    (laid : Json.Laid (.object fields) text) (presents : Presents text answer) :
    readArguments (String.ofList answer) = .ok fields := by
  have admitted : Json.Dialect.answer.admits (Json.longestInt (.object fields)) = true := by
    rw [Json.Dialect.admits_answer]
    exact decide_eq_true short
  have read := Json.readAll_laid laid storable admitted Json.Dialect.fits_answer
  unfold readArguments
  rw [String.toList_ofList, unfence_of_presents laid.braced presents]
  simp only [read]

/-- An object is read back, with its fields in order, from every answer that presents what is
written of it, or any other text that lays it out.  And a text in braces is read alike, with the
same fault if it is no object, from every answer that presents it. -/
theorem readArguments_presented :
    (∀ fields : Fields, Json.storable 980 (.object fields) = true →
      Json.longestInt (.object fields) ≤ 4300 →
      (∀ indent answer,
        Presents (Json.writeAt (Json.Style.dumped indent) 0 (.object fields)) answer →
          readArguments (String.ofList answer) = .ok fields) ∧
      ∀ text answer, Json.Laid (.object fields) text → Presents text answer →
        readArguments (String.ofList answer) = .ok fields) ∧
    ∀ text answer other, Braced text → Presents text answer → Presents text other →
      readArguments (String.ofList answer) = readArguments (String.ofList other) := by
  constructor
  · intro fields storable short
    constructor
    · intro indent answer presents
      have laid := Json.laid_writeAt (Json.Style.Spaced.dumped indent) (.object fields) 0 storable
      exact readArguments_laid storable short laid presents
    · intro text answer laid presents
      exact readArguments_laid storable short laid presents
  · intro text answer other braced presents presents'
    rw [readArguments_of_presents braced presents, readArguments_of_presents braced presents']

/-- Fields with the marks of a fence, a brace and a character that takes two escapes. -/
def fencedFields : Fields :=
  [("\x60\x60\x60", .text "\x60\x60\x60json\n\x7b\x7d\n\x60\x60\x60"),
    ("numbers", .list [.int (-12), .object [("😀", .text "\"é\"")]]), ("last", .null)]

theorem readArguments_fencedFields :
    Json.storable 980 (.object fencedFields) = true ∧
      Json.longestInt (.object fencedFields) ≤ 4300 ∧
      readArguments (String.ofList ("\n".toList ++ fence "json".toList ("\n".toList ++
        Json.writeAt (Json.Style.dumped (some 2)) 0 (.object fencedFields) ++ " \n".toList) ++
          " ".toList)) = .ok fencedFields ∧
      readArguments (String.ofList ([] ++ fence [] ([] ++ "\x7b]\x7d".toList ++ []) ++ [])) =
        readArguments (String.ofList ([] ++ "\x7b]\x7d".toList ++ [])) := by
  have storable : Json.storable 980 (.object fencedFields) = true := by decide
  have short : Json.longestInt (.object fencedFields) ≤ 4300 := by decide
  have none : Blanks [] := List.forall_mem_nil _
  have line : Blanks "\n".toList := blanks_of_all (by decide)
  have blank : Blanks " ".toList := blanks_of_all (by decide)
  have both : Blanks " \n".toList := blanks_of_all (by decide)
  refine ⟨storable, short, ?_, ?_⟩
  · apply (readArguments_presented.1 fencedFields storable short).1 (some 2)
    exact .fenced (by decide) line line both blank
  · exact readArguments_presented.2 "\x7b]\x7d".toList _ _ ⟨by decide, by decide⟩
      (.fenced (by decide) none none none none) (.bare none none)

end WebPilot
