import WebPilot.Proofs.Json.Scalar
import WebPilot.Proofs.Json.Text

/-!
# Values laid out in texts

A text lays a value out if it consists of the value's tokens with gaps between them: any blanks, in
any number.  Its texts may be spelled in any way, and its integers are the digits that are written
of them.  Such a text starts with a character that a reader takes for no gap and for no end
(`Laid.head`).  **Whatever a style decides about gaps, lines and characters, a value that has only
integers for numbers is laid out in what is written of it** (`laid_writeAt`).
-/

namespace WebPilot.Json

set_option autoImplicit false

/-! ## Gaps -/

/-- Nothing but blanks that may stand between tokens. -/
def Gap (cs : List Char) : Prop :=
  ∀ c ∈ cs, isGap c = true

namespace Gap

variable {gap : List Char}

theorem nil : Gap [] := nofun

theorem blank : Gap [' '] := by
  intro c member
  rw [List.mem_singleton.mp member]
  rfl

/-- A gap is skipped. -/
theorem skip (isGap : Gap gap) {c : Char} (visible : Json.isGap c = false) (cs : List Char) :
    skipGap (gap ++ c :: cs) = c :: cs := by
  unfold skipGap
  rw [List.dropWhile_append_of_pos isGap, List.dropWhile_cons, if_neg (by simp [visible])]

/-- Whatever can follow a value can follow it behind a gap. -/
theorem closes (isGap : Gap gap) {rest : List Char} (closes : Closes rest) :
    Closes (gap ++ rest) := by
  cases gap with
  | nil => exact closes
  | cons c gap => exact closes_cons (mem_closers_of_gap (isGap c List.mem_cons_self)) _

end Gap

/-! ## Layouts -/

mutual

/-- The text lays the value out. -/
inductive Laid : Json → List Char → Prop
  | null : Laid .null "null".toList
  | bool (b : Bool) : Laid (.bool b) (if b then "true".toList else "false".toList)
  | int (n : Int) : Laid (.int n) (Decimal.intDigits n)
  | text {s : String} {cs : List Char} (spelled : SpelledText s cs) : Laid (.text s) cs
  | emptyList {gap : List Char} (isGap : Gap gap) :
      Laid (.list []) ('[' :: (gap ++ [']']))
  | list {gap cs : List Char} {items : List Json} (isGap : Gap gap)
      (inside : LaidItems items cs) :
      Laid (.list items) ('[' :: (gap ++ (cs ++ [']'])))
  | emptyObject {gap : List Char} (isGap : Gap gap) :
      Laid (.object []) ('\x7b' :: (gap ++ ['\x7d']))
  | object {gap cs : List Char} {fields : List (String × Json)} (isGap : Gap gap)
      (inside : LaidFields fields cs) :
      Laid (.object fields) ('\x7b' :: (gap ++ (cs ++ ['\x7d'])))

/-- The text lays out items with commas between them, up to the end of their list. -/
inductive LaidItems : List Json → List Char → Prop
  | last {item : Json} {cs after : List Char} (laid : Laid item cs)
      (isGap : Gap after) : LaidItems [item] (cs ++ after)
  | next {item : Json} {items : List Json} {cs ds before after : List Char}
      (laid : Laid item cs) (isGap : Gap before) (isGap' : Gap after)
      (others : LaidItems items ds) :
      LaidItems (item :: items) (cs ++ (before ++ ',' :: (after ++ ds)))

/-- The text lays out fields with commas between them, up to the end of their object. -/
inductive LaidFields : List (String × Json) → List Char → Prop
  | last {name : String} {value : Json} {cs after : List Char}
      (laid : LaidField name value cs) (isGap : Gap after) :
      LaidFields [(name, value)] (cs ++ after)
  | next {name : String} {value : Json} {fields : List (String × Json)}
      {cs ds before after : List Char} (laid : LaidField name value cs)
      (isGap : Gap before) (isGap' : Gap after) (others : LaidFields fields ds) :
      LaidFields ((name, value) :: fields) (cs ++ (before ++ ',' :: (after ++ ds)))

/-- The text lays out a name and its value. -/
inductive LaidField : String → Json → List Char → Prop
  | field {name : String} {value : Json} {ns cs before after : List Char}
      (spelled : SpelledText name ns) (isGap : Gap before) (isGap' : Gap after)
      (laid : Laid value cs) : LaidField name value (ns ++ (before ++ ':' :: (after ++ cs)))

end

variable {cs : List Char}

/-- A text with a value starts with a character that is no gap, closes no list and is no mark of
the byte order. -/
theorem Laid.head {value : Json} (laid : Laid value cs) :
    ∃ c rest, cs = c :: rest ∧ isGap c = false ∧ c ≠ ']' ∧ c ≠ Char.ofNat 0xfeff := by
  cases laid with
  | null => exact ⟨_, _, rfl, by decide⟩
  | bool b => cases b <;> exact ⟨_, _, rfl, by decide⟩
  | int n =>
      obtain ⟨c, rest, digits, digit⟩ := exists_cons_natDigits n.natAbs
      have visible : isGap c = false := by
        rw [Bool.eq_false_iff]
        intro gap
        rw [(plain_of_closer (mem_closers_of_gap gap)).1] at digit
        cases digit
      have others : c ≠ ']' ∧ c ≠ Char.ofNat 0xfeff := by
        constructor <;> (rintro rfl; revert digit; decide)
      unfold Decimal.intDigits
      split
      · exact ⟨'-', _, rfl, by decide⟩
      · exact ⟨c, rest, digits, visible, others⟩
  | text spelled =>
      cases spelled
      exact ⟨_, _, rfl, by decide⟩
  | emptyList => exact ⟨_, _, rfl, by decide⟩
  | list => exact ⟨_, _, rfl, by decide⟩
  | emptyObject => exact ⟨_, _, rfl, by decide⟩
  | object => exact ⟨_, _, rfl, by decide⟩

theorem LaidItems.head {items : List Json} (laid : LaidItems items cs) :
    ∃ c rest, cs = c :: rest ∧ isGap c = false ∧ c ≠ ']' := by
  cases laid with
  | last laid isGap =>
      obtain ⟨c, rest, rfl, visible, inside, -⟩ := laid.head
      exact ⟨c, _, rfl, visible, inside⟩
  | next laid isGap isGap' others =>
      obtain ⟨c, rest, rfl, visible, inside, -⟩ := laid.head
      exact ⟨c, _, rfl, visible, inside⟩

theorem LaidFields.head {fields : List (String × Json)} (laid : LaidFields fields cs) :
    ∃ rest, cs = '"' :: rest := by
  cases laid with
  | last laid isGap =>
      obtain ⟨⟨spelled⟩, -, -, -⟩ := laid
      exact ⟨_, rfl⟩
  | next laid isGap isGap' others =>
      obtain ⟨⟨spelled⟩, -, -, -⟩ := laid
      exact ⟨_, rfl⟩

/-! ## What is written -/

/-- The style of one line, or of lines with an indentation. -/
def Style.dumped (indent : Option Nat) : Style :=
  { Style.line with indent := indent }

/-- The style has nothing but gaps between tokens. -/
structure Style.Spaced (style : Style) : Prop where
  items : Gap style.itemGap.toList
  colons : Gap style.colonGap.toList

namespace Style.Spaced

variable {style : Style}

theorem file : Style.file.Spaced :=
  ⟨Gap.nil, Gap.blank⟩

theorem dumped (indent : Option Nat) : (Style.dumped indent).Spaced := by
  constructor
  · show Gap " ".toList
    exact Gap.blank
  · show Gap " ".toList
    exact Gap.blank

theorem lineBreak (style : Style) (depth : Nat) : Gap (style.lineBreak depth) := by
  unfold Style.lineBreak
  split
  · exact Gap.nil
  · intro c member
    rcases List.mem_cons.mp member with rfl | blank
    · rfl
    · rw [List.eq_of_mem_replicate blank]
      rfl

theorem afterComma (spaced : style.Spaced) (depth : Nat) : Gap (style.afterComma depth) := by
  unfold Style.afterComma
  split
  · exact spaced.items
  · exact lineBreak style depth

end Style.Spaced

mutual

/-- Whether a value has only integers for numbers, distinct names in its objects, and at most `room`
containers inside each other. -/
def storable (room : Nat) : Json → Bool
  | float _ => false
  | list items => decide (0 < room) && storableItems (room - 1) items
  | object fields =>
    decide (0 < room) && decide (Fields.names fields).Nodup && storableFields (room - 1) fields
  | _ => true

/-- Whether all items of a list are storable. -/
def storableItems (room : Nat) : List Json → Bool
  | [] => true
  | item :: items => storable room item && storableItems room items

/-- Whether the values of all fields are storable. -/
def storableFields (room : Nat) : List (String × Json) → Bool
  | [] => true
  | (_, value) :: fields => storable room value && storableFields room fields

end

section Writing

variable {style : Style} (spaced : style.Spaced)

include spaced

mutual

/-- **A storable value is laid out in what is written of it.** -/
theorem laid_writeAt (value : Json) {room : Nat} (depth : Nat)
    (storable : storable room value = true) :
    Laid value (writeAt style depth value) := by
  match value with
  | .null => exact .null
  | .bool b => cases b <;> exact .bool _
  | .int n => exact .int n
  | .float x => cases storable
  | .text s => exact .text (spelled_writeText _ s)
  | .list [] => exact .emptyList Gap.nil
  | .list (item :: items) =>
      simp only [Json.storable, storableItems, Bool.and_eq_true] at storable
      have inside := laidItems_writeItems items (depth + 1) storable.2.2
        (laid_writeAt item (depth + 1) storable.2.1) (Style.Spaced.lineBreak style depth)
      have laid := Laid.list (Style.Spaced.lineBreak style (depth + 1)) inside
      rw [writeAt]
      simpa only [List.append_assoc, List.cons_append, List.nil_append] using laid
  | .object [] => exact .emptyObject Gap.nil
  | .object ((name, value) :: fields) =>
      simp only [Json.storable, storableFields, Bool.and_eq_true] at storable
      have first := LaidField.field (spelled_writeText style.asciiOnly name) Gap.nil spaced.colons
        (laid_writeAt value (depth + 1) storable.2.1)
      have inside := laidFields_writeFields fields (depth + 1) storable.2.2 first
        (Style.Spaced.lineBreak style depth)
      have laid := Laid.object (Style.Spaced.lineBreak style (depth + 1)) inside
      rw [writeAt]
      simpa only [List.append_assoc, List.cons_append, List.nil_append] using laid

/-- An item and those after it, up to the gap in front of the end. -/
theorem laidItems_writeItems (items : List Json) {room : Nat} (depth : Nat)
    (storable : storableItems room items = true) {item : Json} {cs after : List Char}
    (first : Laid item cs) (isGap : Gap after) :
    LaidItems (item :: items) (cs ++ (writeItems style depth items ++ after)) := by
  match items with
  | [] => exact .last first isGap
  | next :: items =>
      simp only [storableItems, Bool.and_eq_true] at storable
      have others := laidItems_writeItems items depth storable.2
        (laid_writeAt next depth storable.1) isGap
      have laid := LaidItems.next first Gap.nil (spaced.afterComma depth) others
      rw [writeItems]
      simpa only [List.append_assoc, List.cons_append, List.nil_append] using laid

/-- A field and those after it, up to the gap in front of the end. -/
theorem laidFields_writeFields (fields : List (String × Json)) {room : Nat} (depth : Nat)
    (storable : storableFields room fields = true) {name : String} {value : Json}
    {cs after : List Char} (first : LaidField name value cs) (isGap : Gap after) :
    LaidFields ((name, value) :: fields)
      (cs ++ (writeFields style depth fields ++ after)) := by
  match fields with
  | [] => exact .last first isGap
  | (other, next) :: fields =>
      simp only [storableFields, Bool.and_eq_true] at storable
      have second := LaidField.field (spelled_writeText style.asciiOnly other) Gap.nil spaced.colons
        (laid_writeAt next depth storable.1)
      have others := laidFields_writeFields fields depth storable.2 second isGap
      have laid := LaidFields.next first Gap.nil (spaced.afterComma depth) others
      rw [writeFields]
      simpa only [List.append_assoc, List.cons_append, List.nil_append] using laid

end

end Writing

end WebPilot.Json
