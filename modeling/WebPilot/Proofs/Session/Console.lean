import WebPilot.Proofs.Text.Markup
import WebPilot.Proofs.Text.Pieces
import WebPilot.Session.Console

/-!
# What a console takes

A console takes a line if each of its tags can be followed, wherever it stands, and means something
to it (`Console.refusal?_eq_none_iff`).  Tags that can be followed alone can be followed when others
are open around them (`Console.Reads.inside`).

**So a console takes every escaped text** (`Console.refusal?_escape`), **and what it takes it takes
in each style that it knows** (`Console.refusal?_styled`).
-/

namespace WebPilot

set_option autoImplicit false

open Text.Markup

namespace Console

variable {console : Console}

/-! ## Following tags -/

/-- What a tag does to what is open, wherever it stands. -/
inductive Follows (console : Console) (opened : List Opened) (tag : Tag) : List Opened → Prop
  /-- It opens something. -/
  | opens {mark : Mark} (opening : tag.closes? = none)
      (known : console.markOf tag.name = .ok mark) :
      Follows console opened tag ((mark, tag.parameters) :: opened)
  /-- It closes what was opened last. -/
  | closesLast {last : Opened} {others next : List Opened} (closing : tag.closes? = some "")
      (shape : opened = last :: others) (closed : console.close last others = .ok next) :
      Follows console opened tag next
  /-- It closes the last thing with its name. -/
  | closesNamed {name : String} {mark : Mark} {last : Opened} {next : List Opened}
      (closing : tag.closes? = some name) (named : name ≠ "")
      (known : console.markOf name = .ok mark) (found : opened.find? (·.1 = mark) = some last)
      (closed : console.close last (opened.eraseP (·.1 = mark)) = .ok next) :
      Follows console opened tag next

variable {opened next last : List Opened} {tag : Tag} {rest more : List Tag}

theorem follow_opening (opening : tag.closes? = none) (place : Nat) :
    console.follow opened (place, tag) =
      (console.markOf tag.name).map fun mark => (mark, tag.parameters) :: opened := by
  simp only [follow, opening]
  rfl

theorem follow_last (closing : tag.closes? = some "") (place : Nat) (last : Opened) :
    console.follow (last :: opened) (place, tag) = console.close last opened := by
  simp only [follow, closing]

theorem follow_nothing (closing : tag.closes? = some "") (place : Nat) :
    ∃ failure, console.follow [] (place, tag) = .error failure := by
  simp only [follow, closing]
  exact ⟨_, rfl⟩

theorem follow_named {name : String} (closing : tag.closes? = some name) (named : name ≠ "")
    (place : Nat) :
    console.follow opened (place, tag) = (console.markOf name).bind fun mark =>
      match opened.find? (·.1 = mark) with
      | none => .error (.markup
          s!"closing tag '{tag.text}' at position {place} doesn't match any open tag")
      | some last => console.close last (opened.eraseP (·.1 = mark)) := by
  simp only [follow, closing]
  rfl

/-- Whether a tag can be followed does not depend on its place. -/
theorem follow_eq_ok_iff (place : Nat) :
    console.follow opened (place, tag) = .ok next ↔ Follows console opened tag next := by
  constructor
  · intro followed
    match closing : tag.closes? with
    | none =>
        rw [follow_opening closing] at followed
        cases known : console.markOf tag.name with
        | error failure => rw [known] at followed; cases followed
        | ok mark =>
            rw [known] at followed
            cases followed
            exact .opens closing known
    | some name =>
        by_cases named : name = ""
        · subst named
          cases opened with
          | nil =>
              obtain ⟨_, failed⟩ : ∃ failure, console.follow [] (place, tag) = .error failure :=
                follow_nothing closing place
              cases failed.symm.trans followed
          | cons last others =>
              rw [follow_last closing] at followed
              exact .closesLast closing rfl followed
        · rw [follow_named closing named] at followed
          cases known : console.markOf name with
          | error failure => rw [known] at followed; cases followed
          | ok mark =>
              rw [known, Except.bind] at followed
              cases found : opened.find? (·.1 = mark) with
              | none => rw [found] at followed; cases followed
              | some last =>
                  rw [found] at followed
                  exact .closesNamed closing named known found followed
  · rintro (⟨opening, known⟩ | ⟨closing, rfl, closed⟩ | ⟨closing, named, known, found, closed⟩)
    · rw [follow_opening opening, known]
      rfl
    · rw [follow_last closing, closed]
    · rw [follow_named closing named, known, Except.bind, found]
      exact closed

/-- What is open around leaves the closing of a tag alone. -/
theorem close_below {below : List Opened} {closed : Opened}
    (done : console.close closed opened = .ok next) :
    console.close closed (opened ++ below) = .ok (next ++ below) := by
  simp only [close] at done ⊢
  generalize Option.bind _ console.handlerFault? = report? at done ⊢
  cases report? with
  | some report => cases done
  | none =>
      cases done
      rfl

theorem Follows.inside (below : List Opened) (followed : Follows console opened tag next) :
    Follows console (opened ++ below) tag (next ++ below) := by
  cases followed with
  | opens opening known => exact .opens opening known
  | closesLast closing shape closed =>
      exact .closesLast closing (by rw [shape]; rfl) (close_below closed)
  | @closesNamed _ mark _ _ closing named known found closed =>
      have erased : (opened ++ below).eraseP (·.1 = mark) =
          opened.eraseP (·.1 = mark) ++ below :=
        List.eraseP_append_left (List.find?_some found) below (List.mem_of_find?_eq_some found)
      refine .closesNamed closing named known ?_ (erased ▸ close_below closed)
      rw [List.find?_append, found]
      rfl

/-- What tags do to what is open, one after the other. -/
inductive Reads (console : Console) : List Opened → List Tag → List Opened → Prop
  | nil (opened : List Opened) : Reads console opened [] opened
  | cons {opened next last : List Opened} {tag : Tag} {rest : List Tag}
      (first : Follows console opened tag next) (others : Reads console next rest last) :
      Reads console opened (tag :: rest) last

theorem foldlM_eq_ok_iff (placed : List (Nat × Tag)) :
    placed.foldlM console.follow opened = .ok last ↔
      Reads console opened (placed.map Prod.snd) last := by
  induction placed generalizing opened with
  | nil =>
      rw [List.foldlM_nil, List.map_nil]
      constructor
      · rintro ⟨⟩
        exact .nil _
      · rintro ⟨⟩
        rfl
  | cons first rest ih =>
      rw [List.foldlM_cons, List.map_cons]
      constructor
      · intro folded
        cases followed : console.follow opened first with
        | error failure => rw [followed] at folded; cases folded
        | ok next =>
            rw [followed] at folded
            exact .cons ((follow_eq_ok_iff first.1).mp followed) (ih.mp folded)
      · intro reads
        cases reads with
        | cons followed others =>
            rw [(follow_eq_ok_iff first.1).mpr followed]
            exact ih.mpr others

/-- **Tags that can be followed alone can be followed inside others.** -/
theorem Reads.inside (below : List Opened) (reads : Reads console opened rest last) :
    Reads console (opened ++ below) rest (last ++ below) := by
  induction reads with
  | nil opened => exact .nil _
  | cons first _ ih => exact .cons (first.inside below) ih

theorem Reads.append {final : List Opened} (reads : Reads console opened rest last)
    (then_ : Reads console last more final) : Reads console opened (rest ++ more) final := by
  induction reads with
  | nil opened => exact then_
  | cons first _ ih => exact .cons first (ih then_)

/-! ## Lines -/

/-- A console takes a line exactly if its tags can be followed and mean something. -/
theorem refusal?_eq_none_iff (markup : String) :
    console.refusal? markup = none ↔
      (∃ last, Reads console [] (readTags 0 markup.toList) last) ∧
        ∀ tag ∈ readTags 0 markup.toList, console.fault? tag = none := by
  rw [← map_tagsFrom 0, ← tags, List.forall_mem_map, refusal?]
  cases folded : (tags markup).foldlM console.follow [] with
  | error failure =>
      refine iff_of_false (Option.some_ne_none failure) ?_
      rintro ⟨⟨last, reads⟩, _⟩
      cases folded.symm.trans ((foldlM_eq_ok_iff _).mpr reads)
  | ok last =>
      rw [List.findSome?_eq_none_iff]
      exact ⟨fun unfaulted => ⟨⟨last, (foldlM_eq_ok_iff _).mp folded⟩, unfaulted⟩, And.right⟩

/-- Lines with the same tags are both taken or both refused. -/
theorem refusal?_eq_none_congr {markup other : String}
    (same : readTags 0 markup.toList = readTags 0 other.toList) :
    console.refusal? markup = none ↔ console.refusal? other = none := by
  rw [refusal?_eq_none_iff, refusal?_eq_none_iff, same]

/-- **Every console takes an escaped text.** -/
theorem refusal?_escape (s : String) : console.refusal? (escape s) = none := by
  rw [refusal?, tags_escape]
  rfl

/-! ## Styles -/

/-- A text in a style. -/
def inStyle (name text : String) : String :=
  s!"[{name}]{text}[/{name}]"

/-- A name that can stand in a tag as it is, and opens a style there. -/
structure IsStyle (name : String) : Prop where
  starts : ∃ first rest, name.toList = first :: rest ∧ 'a' ≤ first ∧ first ≤ 'z'
  plain : ∀ c ∈ name.toList, isBracket c = false ∧ c ≠ '='
  trimmed : Text.trim name.toList = name.toList

/-- The console knows a style, and can show something in it. -/
structure Knows (console : Console) (name : String) : Prop where
  mark : ∃ mark, console.markOf name = .ok mark
  shows : console.fault? ⟨name, none⟩ = none

namespace IsStyle

variable {name : String} (style : IsStyle name)

include style

theorem ne_empty : name ≠ "" := by
  rintro rfl
  obtain ⟨_, _, shape, _⟩ := style.starts
  cases shape

theorem opens : Tag.closes? ⟨name, none⟩ = none := by
  obtain ⟨first, rest, shape, letter⟩ := style.starts
  have plain : first ≠ '/' := by
    rintro rfl
    exact absurd letter (by decide)
  simp only [Tag.closes?, shape]
  split
  next same => exact absurd (List.cons.inj same).1 plain
  next => rfl

/-- A style is not a handler, so nothing can be wrong when it is closed. -/
theorem close {mark : Mark} (known : console.markOf name = .ok mark) {closed : Opened}
    (same : closed.1 = mark) : console.close closed opened = .ok opened := by
  obtain ⟨first, rest, shape, letter⟩ := style.starts
  have plain : namesHandler name = false := by
    rw [namesHandler, Text.startsWith, shape]
    change ('@' == first && _) = false
    rw [beq_eq_false_iff_ne.mpr, Bool.false_and]
    rintro rfl
    exact absurd letter (by decide)
  have isHandler : mark.isHandler = false := by
    unfold markOf at known
    cases meaning : console.styleOf name with
    | error failure => rw [meaning] at known; cases known
    | ok meant =>
        rw [meaning] at known
        cases known
        exact plain
  rw [Console.close, same, isHandler]
  rfl

theorem closes : Tag.closes? ⟨"/" ++ name, none⟩ = some name := by
  rw [Tag.closes?, String.toList_append]
  change some (String.ofList (Text.trim name.toList)) = _
  rw [style.trimmed, String.ofList_toList]

/-- The tags of a text in a style are that of the style, those of the text, and that which closes the
style, if it does not stand behind an odd number of backslashes. -/
theorem readTags (inner : String) :
    Text.Markup.readTags 0 (inStyle name inner).toList =
      ⟨name, none⟩ :: (Text.Markup.readTags 0 inner.toList ++
        if slashesAfter 0 inner.toList % 2 = 0 then [⟨"/" ++ name, none⟩] else []) := by
  obtain ⟨first, rest, shape, letter⟩ := style.starts
  have starts : startsTag first = true := by
    rw [startsTag, decide_eq_true letter]
    rfl
  have brackets : ∀ c ∈ name.toList, isBracket c = false := fun c member =>
    (style.plain c member).1
  have others : '=' ∉ name.toList := fun member => (style.plain _ member).2 rfl
  have written : (inStyle name inner).toList =
      '[' :: (name.toList ++ ']' :: (inner.toList ++ '[' :: ('/' :: name.toList ++ [']']))) := by
    change ("[" ++ name ++ "]" ++ inner ++ "[/" ++ name ++ "]").toList = _
    simp
  have opening := readTags_tag starts
    (fun c member => brackets c (shape ▸ List.mem_cons_of_mem first member)) 0
    (inner.toList ++ '[' :: ('/' :: name.toList ++ [']']))
  rw [← shape, ofChars_of_notMem others, String.ofList_toList] at opening
  have slash : startsTag '/' = true := by decide
  have closing := readTags_tag slash brackets (slashesAfter 0 inner.toList) []
  have slashed : Tag.ofChars ('/' :: name.toList) = ⟨"/" ++ name, none⟩ := by
    rw [ofChars_of_notMem (by simpa using others), ← List.singleton_append, String.ofList_append,
      String.ofList_toList]
  rw [slashed] at closing
  have begins : ('[' :: ('/' :: name.toList ++ [']'])).find? isBracket = some '[' := rfl
  rw [written, opening, readTags_append _ (by rw [begins]; decide), closing]
  exact congrArg (_ :: ·) (congrArg (_ ++ ·) (List.append_nil _))

end IsStyle

/-- A console that takes a text in a style knows the style. -/
theorem knows_of_styled {name inner : String} (style : IsStyle name)
    (taken : console.refusal? (inStyle name inner) = none) : console.Knows name := by
  rw [refusal?_eq_none_iff, style.readTags, List.forall_mem_cons] at taken
  obtain ⟨⟨last, reads⟩, shows, _⟩ := taken
  refine ⟨?_, shows⟩
  cases reads with
  | cons first _ =>
      cases first with
      | opens _ known => exact ⟨_, known⟩
      | closesLast closing | closesNamed closing => cases style.opens.symm.trans closing

/-- **What a console takes it takes in each style that it knows.** -/
theorem refusal?_styled {name inner : String} (style : IsStyle name)
    (knows : console.Knows name) (taken : console.refusal? inner = none) :
    console.refusal? (inStyle name inner) = none := by
  obtain ⟨⟨mark, known⟩, shows⟩ := knows
  obtain ⟨⟨last, reads⟩, unfaulted⟩ := (refusal?_eq_none_iff inner).mp taken
  have around := reads.inside [(mark, none)]
  obtain ⟨final, closed⟩ :
      ∃ final, Follows console (last ++ [(mark, none)]) ⟨"/" ++ name, none⟩ final := by
    obtain ⟨found, first⟩ : ∃ found : Opened,
        (last ++ [(mark, none)]).find? (·.1 = mark) = some found := by
      rw [← Option.isSome_iff_exists, List.find?_isSome]
      exact ⟨(mark, none), List.mem_append_right _ List.mem_cons_self, decide_eq_true rfl⟩
    have same : found.1 = mark := by simpa using List.find?_some first
    exact ⟨_, .closesNamed style.closes style.ne_empty known first (style.close known same)⟩
  rw [refusal?_eq_none_iff, style.readTags]
  split
  · refine ⟨⟨final, .cons (.opens style.opens known) (around.append (.cons closed (.nil _)))⟩, ?_⟩
    simp only [List.forall_mem_cons, List.forall_mem_append]
    refine ⟨shows, unfaulted, ?_, List.forall_mem_nil _⟩
    rw [fault?, style.closes]
    rfl
  · rw [List.append_nil]
    exact ⟨⟨_, .cons (.opens style.opens known) around⟩,
      List.forall_mem_cons.mpr ⟨shows, unfaulted⟩⟩

end Console

end WebPilot
