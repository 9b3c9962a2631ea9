import Mathlib.Data.List.TakeWhile
import WebPilot.Text.Markup

/-!
# The tags of texts

What the tags of a text are does not depend on where they stand (`readTags`).  A text that follows
another leaves the tags of that one alone, as long as it closes no bracket that was left open there
(`readTags_append`), and a text without an opening bracket has none (`readTags_bare_append`).

**An escaped text has no tags** (`tags_escape`): each bracket that would open one stands behind an
odd number of backslashes.
-/

namespace WebPilot.Text.Markup

set_option autoImplicit false

/-! ## Brackets -/

/-- Square brackets. -/
def isBracket (c : Char) : Bool :=
  c == '[' || c == ']'

/-- Whether a character can be the first of a tag. -/
def startsTag (c : Char) : Bool :=
  decide ('a' ≤ c ∧ c ≤ 'z') || c == '#' || c == '/' || c == '@'

/-- A tag is open until the first bracket behind it. -/
theorem opensTag_cons (c : Char) (rest : List Char) :
    opensTag (c :: rest) = (startsTag c && rest.find? isBracket == some ']') := by
  have others : (fun d => !isBracket d) = fun d : Char => d != '[' && d != ']' := by
    funext d
    rw [isBracket, Bool.not_or, bne, bne]
  rw [List.find?_eq_head?_dropWhile_not, others, opensTag, startsTag]

/-- No tag starts with a bracket. -/
theorem isBracket_of_startsTag {c : Char} (starts : startsTag c = true) : isBracket c = false := by
  rw [isBracket, Bool.or_eq_false_iff, beq_eq_false_iff_ne, beq_eq_false_iff_ne]
  constructor <;>
  · rintro rfl
    exact absurd starts (by decide)

variable {slashes : Nat} {cs before after : List Char}

/-- An open tag is closed in the text. -/
theorem mem_of_opensTag (opens : opensTag cs = true) : ']' ∈ cs := by
  cases cs with
  | nil => cases opens
  | cons c rest =>
      rw [opensTag_cons, Bool.and_eq_true, beq_iff_eq] at opens
      exact List.mem_cons_of_mem c (List.mem_of_find?_eq_some opens.2)

/-- What closes no bracket begins no tag where nothing was begun. -/
theorem opensTag_of_unclosing (unclosing : after.find? isBracket ≠ some ']') :
    opensTag after = false := by
  cases after with
  | nil => rfl
  | cons c rest =>
      rw [opensTag_cons, Bool.and_eq_false_imp]
      intro starts
      rw [List.find?_cons, isBracket_of_startsTag starts] at unclosing
      exact beq_eq_false_iff_ne.mpr unclosing

/-- What follows a text opens no tag in it, unless it closes a bracket. -/
theorem opensTag_append (cs : List Char) (unclosing : after.find? isBracket ≠ some ']') :
    opensTag (cs ++ after) = opensTag cs := by
  cases cs with
  | nil => exact opensTag_of_unclosing unclosing
  | cons c rest =>
      rw [List.cons_append, opensTag_cons, opensTag_cons, List.find?_append]
      cases rest.find? isBracket with
      | some bracket => rfl
      | none => rw [Option.none_or, beq_eq_false_iff_ne.mpr unclosing]; rfl

/-- What stands in front of a bracket that is there is not changed by a tail. -/
theorem takeWhile_append_of_mem {c : Char} (member : c ∈ cs) (tail : List Char) :
    (cs ++ tail).takeWhile (· ≠ c) = cs.takeWhile (· ≠ c) := by
  induction cs with
  | nil => exact absurd member List.not_mem_nil
  | cons d cs ih =>
      rw [List.cons_append, List.takeWhile_cons, List.takeWhile_cons]
      by_cases here : d = c
      · rw [decide_eq_false (not_not.mpr here)]
        rfl
      · rw [ih ((List.mem_cons.mp member).resolve_left (Ne.symm here))]

/-! ## Tags without their places -/

/-- The tags of the characters after a run of `slashes` backslashes. -/
def readTags (slashes : Nat) : List Char → List Tag
  | [] => []
  | c :: rest =>
    if c = '\\' then readTags (slashes + 1) rest
    else if c = '[' ∧ opensTag rest = true ∧ slashes % 2 = 0 then
      .ofChars (rest.takeWhile (· ≠ ']')) :: readTags 0 rest
    else readTags 0 rest

/-- Tags are the same wherever they stand. -/
theorem map_tagsFrom (place slashes : Nat) (cs : List Char) :
    (tagsFrom place slashes cs).map Prod.snd = readTags slashes cs := by
  induction cs generalizing place slashes with
  | nil => rfl
  | cons c rest ih =>
      rw [tagsFrom, readTags]
      split
      · exact ih _ _
      · split
        · rw [List.map_cons, ih]
        · exact ih _ _

/-- The backslashes at the end of characters after a run of `slashes` backslashes. -/
def slashesAfter (slashes : Nat) : List Char → Nat
  | [] => slashes
  | c :: rest => slashesAfter (if c = '\\' then slashes + 1 else 0) rest

theorem slashesAfter_append (slashes : Nat) (before after : List Char) :
    slashesAfter slashes (before ++ after) = slashesAfter (slashesAfter slashes before) after := by
  induction before generalizing slashes with
  | nil => rfl
  | cons c rest ih => exact ih _

theorem slashesAfter_replicate (slashes count : Nat) :
    slashesAfter slashes (List.replicate count '\\') = slashes + count := by
  induction count generalizing slashes with
  | zero => rfl
  | succ count ih =>
      rw [List.replicate_succ, slashesAfter, if_pos rfl, ih]
      omega

/-- **A text without an opening bracket has no tags.** -/
theorem readTags_bare_append (bare : '[' ∉ before) (cs : List Char) :
    readTags slashes (before ++ cs) = readTags (slashesAfter slashes before) cs := by
  induction before generalizing slashes with
  | nil => rfl
  | cons c rest ih =>
      simp only [List.mem_cons, not_or] at bare
      rw [List.cons_append, readTags, slashesAfter]
      by_cases slash : c = '\\'
      · rw [if_pos slash, if_pos slash, ih bare.2]
      · rw [if_neg slash, if_neg slash, if_neg fun live => bare.1 live.1.symm, ih bare.2]

theorem readTags_bare (bare : '[' ∉ cs) : readTags slashes cs = [] := by
  rw [← List.append_nil cs, readTags_bare_append bare]
  rfl

/-- **What follows a text leaves the tags of the text alone**, unless it closes a bracket. -/
theorem readTags_append (cs : List Char) (unclosing : after.find? isBracket ≠ some ']') :
    readTags slashes (cs ++ after) =
      readTags slashes cs ++ readTags (slashesAfter slashes cs) after := by
  induction cs generalizing slashes with
  | nil => rfl
  | cons c rest ih =>
      rw [List.cons_append, readTags, readTags, slashesAfter, ih, ih,
        opensTag_append rest unclosing]
      by_cases slash : c = '\\'
      · rw [if_pos slash, if_pos slash, if_pos slash]
      · rw [if_neg slash, if_neg slash, if_neg slash]
        by_cases live : c = '[' ∧ opensTag rest = true ∧ slashes % 2 = 0
        · rw [if_pos live, if_pos live, takeWhile_append_of_mem (mem_of_opensTag live.2.1),
            List.cons_append]
        · rw [if_neg live, if_neg live]

/-- A tag that is written out is read, unless it stands behind an odd number of backslashes. -/
theorem readTags_tag {first : Char} {name : List Char} (starts : startsTag first = true)
    (plain : ∀ c ∈ name, isBracket c = false) (slashes : Nat) (rest : List Char) :
    readTags slashes ('[' :: (first :: name ++ ']' :: rest)) =
      (if slashes % 2 = 0 then [.ofChars (first :: name)] else []) ++ readTags 0 rest := by
  have plain : ∀ c ∈ first :: name, isBracket c = false :=
    List.forall_mem_cons.mpr ⟨isBracket_of_startsTag starts, plain⟩
  have opens : opensTag (first :: name ++ ']' :: rest) = true := by
    rw [List.cons_append, opensTag_cons, starts, List.find?_append,
      List.find?_eq_none.mpr fun c member => by simp [plain c (List.mem_cons_of_mem _ member)]]
    rfl
  have inside : (first :: name ++ ']' :: rest).takeWhile (· ≠ ']') = first :: name := by
    rw [List.takeWhile_append_of_pos, List.takeWhile_cons, if_neg (by decide), List.append_nil]
    intro c member
    refine decide_eq_true ?_
    rintro rfl
    cases plain _ member
  have bare : '[' ∉ first :: name ++ [']'] := by
    intro member
    rcases List.mem_append.mp member with named | closing
    · cases plain _ named
    · cases List.mem_singleton.mp closing
  have behind : readTags 0 (first :: name ++ ']' :: rest) = readTags 0 rest := by
    have whole : first :: name ++ ']' :: rest = first :: name ++ [']'] ++ rest := by
      rw [List.append_assoc, List.singleton_append]
    rw [whole, readTags_bare_append bare, slashesAfter_append]
    rfl
  rw [readTags, if_neg (by decide), inside, behind]
  by_cases even : slashes % 2 = 0
  · rw [if_pos ⟨rfl, opens, even⟩, if_pos even]
    rfl
  · rw [if_neg fun live => even live.2.2, if_neg even]
    rfl

/-- A tag without an equals sign is a name. -/
theorem ofChars_of_notMem (name : '=' ∉ cs) : Tag.ofChars cs = ⟨String.ofList cs, none⟩ := by
  have whole : cutAt? ['='] cs = none := by
    induction cs with
    | nil => rfl
    | cons c rest ih =>
        simp only [List.mem_cons, not_or] at name
        rw [cutAt?, ih name.2, List.isPrefixOf, beq_eq_false_iff_ne.mpr name.1]
        rfl
  rw [Tag.ofChars, whole]

/-! ## Escaped texts -/

/-- Backslashes are no brackets. -/
theorem find?_replicate_append (count : Nat) (cs : List Char) :
    (List.replicate count '\\' ++ cs).find? isBracket = cs.find? isBracket := by
  have free : (List.replicate count '\\').find? isBracket = none := by
    refine List.find?_eq_none.mpr fun c member => ?_
    rw [List.eq_of_mem_replicate member]
    decide
  rw [List.find?_append, free, Option.none_or]

/-- Escaping leaves the brackets where they are. -/
theorem find?_escapeFrom (slashes : Nat) (cs : List Char) :
    (escapeFrom slashes cs).find? isBracket = cs.find? isBracket := by
  induction cs generalizing slashes with
  | nil =>
      have only := find?_replicate_append slashes []
      rwa [List.append_nil] at only
  | cons c rest ih =>
      rw [escapeFrom]
      by_cases slash : c = '\\'
      · rw [if_pos slash, ih, slash]
        rfl
      · rw [if_neg slash]
        split <;> rw [find?_replicate_append, List.find?_cons, List.find?_cons, ih]

/-- An escaped text starts with a backslash if it comes after one. -/
theorem opensTag_escapeFrom_succ (slashes : Nat) (cs : List Char) :
    opensTag (escapeFrom (slashes + 1) cs) = false := by
  induction cs generalizing slashes with
  | nil => rfl
  | cons c rest ih =>
      rw [escapeFrom]
      split
      · exact ih _
      · split <;> rfl

/-- A text that does not open a tag does not do so when it is escaped. -/
theorem opensTag_escapeFrom (cs : List Char) (closed : opensTag cs = false) :
    opensTag (escapeFrom 0 cs) = false := by
  cases cs with
  | nil => rfl
  | cons c rest =>
      rw [escapeFrom]
      split
      · exact opensTag_escapeFrom_succ _ _
      · split
        · rfl
        · rw [List.replicate_zero, List.nil_append, opensTag_cons, find?_escapeFrom,
            ← opensTag_cons, closed]

/-- Each bracket of an escaped text that could open a tag is escaped. -/
theorem readTags_escapeFrom (slashes : Nat) (cs : List Char) :
    readTags 0 (escapeFrom slashes cs) = [] := by
  have bare (count : Nat) : '[' ∉ List.replicate count '\\' := by
    intro member
    cases List.eq_of_mem_replicate member
  induction cs generalizing slashes with
  | nil => exact readTags_bare (bare slashes)
  | cons c rest ih =>
      rw [escapeFrom]
      by_cases slash : c = '\\'
      · rw [if_pos slash]
        exact ih _
      · rw [if_neg slash]
        by_cases tag : c = '[' ∧ opensTag rest = true
        · rw [if_pos tag, readTags_bare_append (bare _), slashesAfter_replicate, readTags,
            if_neg slash, if_neg, ih]
          omega
        · rw [if_neg tag, readTags_bare_append (bare _), slashesAfter_replicate, readTags,
            if_neg slash, if_neg, ih]
          rintro ⟨bracket, opens, _⟩
          have still := opensTag_escapeFrom rest (Bool.eq_false_iff.mpr fun opens =>
            tag ⟨bracket, opens⟩)
          cases still.symm.trans opens

/-- **An escaped text has no tags.** -/
theorem tags_escape (s : String) : tags (escape s) = [] := by
  rw [← List.map_eq_nil_iff (f := Prod.snd), tags, map_tagsFrom, escape, String.toList_ofList,
    closeEnd]
  have escaped := readTags_escapeFrom 0 s.toList
  split
  · exact escaped
  · rw [readTags_append _ (by decide), escaped]
    rfl
  · exact escaped

end WebPilot.Text.Markup
