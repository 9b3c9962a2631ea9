import Mathlib.Data.List.Nodup
import WebPilot.Decimal.Numeral
import WebPilot.Proofs.Json.Laid
import WebPilot.Proofs.Json.Text

/-!
# Values survive writing and reading

A value that is laid out in a text is read back from it, whatever closes it and whatever gaps stand
between its tokens (`readValue_laid`), and so **a text that lays out a value is read as that value**
(`readAll_laid`).  This needs what a reader admits (`storable`): no numbers but integers, none of
them too long, no name twice in an object, and no more containers inside each other than the limit
of the dialect.  In particular, a record file holds the value that was written to it
(`readAll_writeAt`).

The reader has two loops, for items and for fields.  The lemma about a loop says what the loop makes
of what is left to read, and is proved by induction on the items or fields that it has yet to read.
-/

namespace WebPilot.Json

set_option autoImplicit false

/-! ## Fields -/

/-- A name that is not there goes to the end. -/
theorem put_of_fresh {name : String} (value : Json) {fields : Fields}
    (fresh : name ∉ Fields.names fields) :
    Fields.put name value fields = fields ++ [(name, value)] := by
  induction fields with
  | nil => rfl
  | cons field fields ih =>
      obtain ⟨n, v⟩ := field
      simp only [Fields.names, List.map_cons, List.mem_cons, not_or] at fresh
      rw [Fields.put, if_neg (Ne.symm fresh.1), ih fresh.2, List.cons_append]

/-- Pairs with distinct names are the fields of their object. -/
theorem ofPairs_of_distinct {pairs : Fields} (distinct : (Fields.names pairs).Nodup) :
    Fields.ofPairs pairs = pairs := by
  have grows (done rest : Fields) (distinct : (Fields.names (done ++ rest)).Nodup) :
      rest.foldl (fun fields pair => Fields.put pair.1 pair.2 fields) done = done ++ rest := by
    induction rest generalizing done with
    | nil => simp
    | cons pair rest ih =>
        have fresh : pair.1 ∉ Fields.names done := by
          simp only [Fields.names, List.map_append, List.map_cons] at distinct
          exact fun member => (List.nodup_append.mp distinct).2.2 _ member _ (by simp) rfl
        rw [List.foldl_cons, put_of_fresh pair.2 fresh, ih]
        · simp
        · simpa using distinct
  exact grows [] pairs distinct

/-! ## Steps of the reader -/

section Steps

variable {d : Dialect} {fuel depth : Nat} {gap rest : List Char}

theorem skipGap_cons {c : Char} (visible : isGap c = false) (cs : List Char) :
    skipGap (c :: cs) = c :: cs :=
  Gap.nil.skip visible cs

/-- A value that starts like no text and no container is a scalar. -/
theorem readValue_scalar {c : Char} (noText : c ≠ '"') (noList : c ≠ '[') (noObject : c ≠ '\x7b')
    (cs : List Char) : readValue d (fuel + 1) depth (c :: cs) = readScalar d (c :: cs) := by
  simp only [readValue, noText, noList, noObject, if_false]

/-- A written integer is read as a scalar. -/
theorem readValue_intDigits (n : Int) (rest : List Char) :
    readValue d (fuel + 1) depth (Decimal.intDigits n ++ rest) =
      readScalar d (Decimal.intDigits n ++ rest) := by
  obtain ⟨c, cs, digits, digit⟩ := exists_cons_natDigits n.natAbs
  have plain : c ≠ '"' ∧ c ≠ '[' ∧ c ≠ '\x7b' := by
    refine ⟨?_, ?_, ?_⟩ <;> (rintro rfl; revert digit; decide)
  unfold Decimal.intDigits
  split
  · exact readValue_scalar (by decide) (by decide) (by decide) _
  · rw [digits]
    exact readValue_scalar plain.1 plain.2.1 plain.2.2 _

/-- A truth value is read back. -/
theorem readValue_bool (b : Bool) (rest : List Char) :
    readValue d (fuel + 1) depth ((if b then "true".toList else "false".toList) ++ rest) =
      .ok (.bool b, rest) := by
  rw [← readScalar_bool d b rest]
  cases b <;> exact readValue_scalar (by decide) (by decide) (by decide) _

/-- A text is read back. -/
theorem readValue_text {s : String} {cs : List Char} (spelled : SpelledText s cs)
    (rest : List Char) : readValue d (fuel + 1) depth (cs ++ rest) = .ok (.text s, rest) := by
  obtain ⟨spelled⟩ := spelled
  rw [List.cons_append, List.append_assoc, List.singleton_append, readValue, if_pos rfl,
    spelled.readText]

section Containers

variable (room : d.maxDepth.any (· ≤ depth) = false) (isGap : Gap gap)

include room isGap

theorem readValue_emptyList :
    readValue d (fuel + 1) depth ('[' :: (gap ++ [']'] ++ rest)) = .ok (.list [], rest) := by
  have closing : Json.isGap ']' = false := rfl
  rw [List.append_assoc, List.singleton_append, readValue]
  simp only [room, isGap.skip closing, Char.reduceEq, if_false, if_true, Bool.false_eq_true]

theorem readValue_emptyObject :
    readValue d (fuel + 1) depth ('\x7b' :: (gap ++ ['\x7d'] ++ rest)) =
      .ok (.object [], rest) := by
  have closing : Json.isGap '\x7d' = false := rfl
  rw [List.append_assoc, List.singleton_append, readValue]
  simp only [room, isGap.skip closing, Char.reduceEq, if_false, if_true, Bool.false_eq_true]

/-- The step into a list that is not empty. -/
theorem readValue_list {items : List Json} {cs : List Char}
    (laid : LaidItems items cs) :
    readValue d (fuel + 1) depth ('[' :: (gap ++ (cs ++ rest))) =
      readItems d fuel (depth + 1) [] (cs ++ rest) := by
  obtain ⟨c, cs, rfl, visible, inside⟩ := laid.head
  rw [readValue]
  simp only [room, List.cons_append, isGap.skip visible, Char.reduceEq, if_false, if_true,
    Bool.false_eq_true]
  split
  · rename_i same
    exact absurd (List.cons.inj same).1 inside
  · rfl

/-- The step into an object that is not empty. -/
theorem readValue_object {fields : List (String × Json)} {cs : List Char}
    (laid : LaidFields fields cs) :
    readValue d (fuel + 1) depth ('\x7b' :: (gap ++ (cs ++ rest))) =
      readFields d fuel (depth + 1) [] (cs ++ rest) := by
  obtain ⟨cs, rfl⟩ := laid.head
  have visible : Json.isGap '"' = false := rfl
  rw [readValue]
  simp only [room, List.cons_append, isGap.skip visible, Char.reduceEq, if_false, if_true,
    Bool.false_eq_true]
  rfl

end Containers

/-- The end of a list. -/
theorem readItems_last {read : List Json} {item : Json} {cs : List Char} (isGap : Gap gap)
    (first : readValue d fuel depth cs = .ok (item, gap ++ ']' :: rest)) :
    readItems d (fuel + 1) depth read cs = .ok (.list (read.reverse ++ [item]), rest) := by
  have closing : Json.isGap ']' = false := rfl
  rw [readItems, first]
  simp only [isGap.skip closing, List.reverse_cons]

/-- The step to another item. -/
theorem readItems_next {read items : List Json} {item : Json} {cs ds after : List Char}
    (isGap : Gap gap) (isGap' : Gap after) (laid : LaidItems items ds)
    (first : readValue d fuel depth cs = .ok (item, gap ++ ',' :: (after ++ (ds ++ rest)))) :
    readItems d (fuel + 1) depth read cs =
      readItems d fuel depth (item :: read) (ds ++ rest) := by
  obtain ⟨c, ds, rfl, visible, -⟩ := laid.head
  have comma : Json.isGap ',' = false := rfl
  rw [readItems, first]
  simp only [isGap.skip comma, List.cons_append, isGap'.skip visible]

section Names

variable {read : List (String × Json)} {name : String} {value : Json}
  {ns before after cs more : List Char} (spelled : SpelledText name ns) (isGap : Gap before)
  (isGap' : Gap after) (laid : Laid value cs)

include spelled isGap isGap' laid

/-- The end of an object. -/
theorem readFields_last (ends : Gap gap)
    (first : readValue d fuel depth (cs ++ more) = .ok (value, gap ++ '\x7d' :: rest)) :
    readFields d (fuel + 1) depth read
        (ns ++ (before ++ ':' :: (after ++ (cs ++ more)))) =
      .ok (.object (Fields.ofPairs (read.reverse ++ [(name, value)])), rest) := by
  obtain ⟨c, cs, rfl, visible, -⟩ := laid.head
  obtain ⟨spelled⟩ := spelled
  have colon : Json.isGap ':' = false := rfl
  have closing : Json.isGap '\x7d' = false := rfl
  rw [List.cons_append] at first
  rw [List.cons_append, List.append_assoc, List.singleton_append, readFields]
  simp only [spelled.readText, isGap.skip colon, isGap'.skip visible, List.cons_append, first,
    ends.skip closing, List.reverse_cons]

/-- The step to another field. -/
theorem readFields_next {fields : List (String × Json)} {ds next : List Char} (ends : Gap gap)
    (begins : Gap next) (others : LaidFields fields ds)
    (first : readValue d fuel depth (cs ++ more) =
      .ok (value, gap ++ ',' :: (next ++ (ds ++ rest)))) :
    readFields d (fuel + 1) depth read
        (ns ++ (before ++ ':' :: (after ++ (cs ++ more)))) =
      readFields d fuel depth ((name, value) :: read) (ds ++ rest) := by
  obtain ⟨c, cs, rfl, visible, -⟩ := laid.head
  obtain ⟨spelled⟩ := spelled
  obtain ⟨ds, rfl⟩ := others.head
  have colon : Json.isGap ':' = false := rfl
  have comma : Json.isGap ',' = false := rfl
  have quote : Json.isGap '"' = false := rfl
  rw [List.cons_append] at first
  rw [List.cons_append, List.append_assoc, List.singleton_append, readFields]
  simp only [spelled.readText, isGap.skip colon, isGap'.skip visible, List.cons_append, first,
    ends.skip comma, begins.skip quote]

/-- A fault in a value is one of the object. -/
theorem readFields_fault {fault : Fault}
    (first : readValue d fuel depth (cs ++ more) = .error fault) :
    readFields d (fuel + 1) depth read
      (ns ++ (before ++ ':' :: (after ++ (cs ++ more)))) = .error fault := by
  obtain ⟨c, cs, rfl, visible, -⟩ := laid.head
  obtain ⟨spelled⟩ := spelled
  have colon : Json.isGap ':' = false := rfl
  rw [List.cons_append] at first
  rw [List.cons_append, List.append_assoc, List.singleton_append, readFields]
  simp only [spelled.readText, isGap.skip colon, isGap'.skip visible, List.cons_append, first]

end Names

end Steps

/-! ## Reading what is laid out -/

/-- The dialect admits this many containers inside each other. -/
def Dialect.Fits (d : Dialect) (containers : Nat) : Prop :=
  ∀ most ∈ d.maxDepth, containers ≤ most

namespace Dialect.Fits

variable {d : Dialect} {depth room : Nat}

theorem any (fits : d.Fits (depth + room)) (some : 0 < room) :
    d.maxDepth.any (· ≤ depth) = false := by
  cases limit : d.maxDepth with
  | none => rfl
  | some most =>
      have bound := fits most limit
      exact decide_eq_false (by omega)

theorem deeper (fits : d.Fits (depth + room)) (some : 0 < room) :
    d.Fits (depth + 1 + (room - 1)) := by
  have same : depth + 1 + (room - 1) = depth + room := by omega
  rwa [same]

end Dialect.Fits

section Reading

variable {d : Dialect}

mutual

/-- **A value that is laid out is read back**, if there is room for its containers and fuel for its
text. -/
theorem readValue_laid (value : Json) {cs : List Char} (laid : Laid value cs)
    {room : Nat} (depth fuel : Nat) (rest : List Char) (storable : storable room value = true)
    (short : d.admits (longestInt value) = true) (fits : d.Fits (depth + room))
    (fueled : cs.length < fuel) (closes : Closes rest) :
    readValue d fuel depth (cs ++ rest) = .ok (value, rest) := by
  obtain ⟨fuel, rfl⟩ : ∃ more, fuel = more + 1 := ⟨fuel - 1, by omega⟩
  match value, laid with
  | _, .null =>
      rw [← readScalar_null d rest]
      exact readValue_scalar (by decide) (by decide) (by decide) _
  | _, .bool b => exact readValue_bool b rest
  | _, .int n => rw [readValue_intDigits, readScalar_intDigits closes short]
  | _, .text spelled => exact readValue_text spelled rest
  | _, .emptyList isGap =>
      simp only [Json.storable, Bool.and_eq_true, decide_eq_true_eq] at storable
      exact readValue_emptyList (fits.any storable.1) isGap
  | .list items, .list isGap inside =>
      simp only [Json.storable, Bool.and_eq_true, decide_eq_true_eq] at storable
      simp only [List.length_cons, List.length_append, List.length_nil] at fueled
      have loop := readItems_laid items inside (depth + 1) fuel [] rest storable.2 short
        (fits.deeper storable.1) (by omega)
      simp only [List.cons_append, List.append_assoc, List.nil_append] at loop ⊢
      rw [readValue_list (fits.any storable.1) isGap inside, loop, List.reverse_nil,
        List.nil_append]
  | _, .emptyObject isGap =>
      simp only [Json.storable, Bool.and_eq_true, decide_eq_true_eq] at storable
      exact readValue_emptyObject (fits.any storable.1.1) isGap
  | .object fields, .object isGap inside =>
      simp only [Json.storable, Bool.and_eq_true, decide_eq_true_eq] at storable
      simp only [List.length_cons, List.length_append, List.length_nil] at fueled
      have loop := readFields_laid fields inside (depth + 1) fuel [] rest storable.2 short
        (fits.deeper storable.1.1) (by omega)
      simp only [List.cons_append, List.append_assoc, List.nil_append] at loop ⊢
      rw [readValue_object (fits.any storable.1.1) isGap inside, loop, List.reverse_nil,
        List.nil_append, ofPairs_of_distinct storable.1.2]

/-- The loop for items. -/
theorem readItems_laid (items : List Json) {cs : List Char} (laid : LaidItems items cs)
    {room : Nat} (depth fuel : Nat) (read : List Json) (rest : List Char)
    (storable : storableItems room items = true)
    (short : d.admits (longestIntOfItems items) = true) (fits : d.Fits (depth + room))
    (fueled : cs.length + 1 < fuel) :
    readItems d fuel depth read (cs ++ ']' :: rest) =
      .ok (.list (read.reverse ++ items), rest) := by
  obtain ⟨fuel, rfl⟩ : ∃ more, fuel = more + 1 := ⟨fuel - 1, by omega⟩
  match items, laid with
  | [item], @LaidItems.last _ cs after first isGap =>
      simp only [storableItems, Bool.and_true] at storable
      simp only [longestIntOfItems, Nat.max_zero] at short
      simp only [List.length_append] at fueled
      have value := readValue_laid item first depth fuel (after ++ ']' :: rest) storable short fits
        (by omega) (isGap.closes (closes_cons (by decide) rest))
      rw [List.append_assoc, readItems_last isGap value]
  | item :: items, @LaidItems.next _ _ cs ds before after first isGap isGap' others =>
      simp only [storableItems, Bool.and_eq_true] at storable
      simp only [longestIntOfItems, Dialect.admits_max, Bool.and_eq_true] at short
      simp only [List.length_append, List.length_cons] at fueled
      have value := readValue_laid item first depth fuel
        (before ++ ',' :: (after ++ (ds ++ ']' :: rest))) storable.1 short.1 fits (by omega)
        (isGap.closes (closes_cons (by decide) _))
      have loop := readItems_laid items others depth fuel (item :: read) rest storable.2 short.2
        fits (by omega)
      simp only [List.cons_append, List.append_assoc]
      rw [readItems_next isGap isGap' others value, loop, List.reverse_cons, List.append_assoc,
        List.singleton_append]

/-- The loop for fields. -/
theorem readFields_laid (fields : List (String × Json)) {cs : List Char}
    (laid : LaidFields fields cs) {room : Nat} (depth fuel : Nat)
    (read : List (String × Json)) (rest : List Char) (storable : storableFields room fields = true)
    (short : d.admits (longestIntOfFields fields) = true) (fits : d.Fits (depth + room))
    (fueled : cs.length + 1 < fuel) :
    readFields d fuel depth read (cs ++ '\x7d' :: rest) =
      .ok (.object (Fields.ofPairs (read.reverse ++ fields)), rest) := by
  obtain ⟨fuel, rfl⟩ : ∃ more, fuel = more + 1 := ⟨fuel - 1, by omega⟩
  match fields, laid with
  | [(name, value)], @LaidFields.last _ _ _ after field isGap =>
      cases field with
      | field spelled left right first =>
          simp only [storableFields, Bool.and_true] at storable
          simp only [longestIntOfFields, Nat.max_zero] at short
          simp only [List.length_append, List.length_cons] at fueled
          have inner := readValue_laid value first depth fuel (after ++ '\x7d' :: rest) storable
            short fits (by omega) (isGap.closes (closes_cons (by decide) rest))
          simp only [List.cons_append, List.append_assoc]
          rw [readFields_last spelled left right first isGap inner]
  | (name, value) :: fields, @LaidFields.next _ _ _ _ ds before after field isGap isGap' others =>
      cases field with
      | field spelled left right first =>
          simp only [storableFields, Bool.and_eq_true] at storable
          simp only [longestIntOfFields, Dialect.admits_max, Bool.and_eq_true] at short
          simp only [List.length_append, List.length_cons] at fueled
          have inner := readValue_laid value first depth fuel
            (before ++ ',' :: (after ++ (ds ++ '\x7d' :: rest))) storable.1 short.1 fits (by omega)
            (isGap.closes (closes_cons (by decide) _))
          have loop := readFields_laid fields others depth fuel ((name, value) :: read) rest
            storable.2 short.2 fits (by omega)
          simp only [List.cons_append, List.append_assoc]
          rw [readFields_next spelled left right first isGap isGap' others inner, loop,
            List.reverse_cons, List.append_assoc, List.singleton_append]

end

/-- **A text that lays out a value is read as that value.** -/
theorem readAll_laid {value : Json} {cs : List Char} (laid : Laid value cs) {room : Nat}
    (storable : storable room value = true) (short : d.admits (longestInt value) = true)
    (fits : d.Fits room) : readAll d cs = .ok value := by
  have read := readValue_laid value laid 0 (cs.length + 1) [] storable short
    (by rwa [Nat.zero_add]) (by omega) closes_nil
  obtain ⟨c, cs, rfl, visible, -, unmarked⟩ := laid.head
  have other : (c :: cs).head? ≠ some (Char.ofNat 0xfeff) := by
    intro same
    exact unmarked (Option.some.inj same)
  rw [List.append_nil] at read
  rw [readAll, if_neg other, skipGap_cons visible, read]
  rfl

end Reading

/-! ## Record files -/

namespace Dialect

/-- An integer that is not longer than a numeral is admitted in a record. -/
theorem admits_record (digits : Nat) :
    record.admits digits = decide (digits ≤ Decimal.maxIntegerDigits) := by
  unfold admits
  simp only [record, Option.any_none, Option.any_some, Bool.false_or, ← decide_not, Nat.not_lt]
  rfl

theorem fits_record : record.Fits 200 := by
  rintro _ ⟨⟩
  exact Nat.le_refl 200

end Dialect

/-- **A record file holds the value that was written to it.** -/
theorem readAll_writeAt {value : Json} (storable : storable 200 value = true)
    (short : longestInt value ≤ Decimal.maxIntegerDigits) :
    readAll .record (writeAt .file 0 value) = .ok value := by
  apply readAll_laid (laid_writeAt Style.Spaced.file value 0 storable) storable
  · rw [Dialect.admits_record]
    exact decide_eq_true short
  · exact Dialect.fits_record

/-! ## Carriage returns -/

theorem lineBreak_file (depth : Nat) :
    Style.file.lineBreak depth = '\n' :: List.replicate (2 * depth) ' ' := rfl

theorem asciiOnly_file : Style.file.asciiOnly = false := rfl

theorem colonGap_file : Style.file.colonGap.toList = [' '] := rfl

theorem afterComma_file (depth : Nat) :
    Style.file.afterComma depth = Style.file.lineBreak depth := rfl

theorem hexDigit_ne_return : ∀ d < 16, Text.hexDigit d ≠ '\r' := by
  decide

theorem return_notMem_hexDigits (width n : Nat) : '\r' ∉ Text.hexDigits width n := by
  induction width generalizing n with
  | zero => simp [Text.hexDigits]
  | succ width ih =>
      simp only [Text.hexDigits, List.mem_append, List.mem_singleton, not_or]
      exact ⟨ih _, (hexDigit_ne_return _ (Nat.mod_lt _ (by decide))).symm⟩

theorem return_notMem_unitEscape (unit : Nat) : '\r' ∉ unitEscape unit := by
  simp [unitEscape, return_notMem_hexDigits]

theorem return_ne_of_shortEscape {letter c : Char} (escape : shortEscape? letter = some c) :
    letter ≠ '\r' := by
  rintro rfl
  cases escape

/-- A carriage return never stands for itself. -/
theorem return_notMem_spelled {c : Char} {cs : List Char} (spelled : Spelled c cs) :
    '\r' ∉ cs := by
  cases spelled with
  | plain quote slash control =>
      intro member
      rw [← List.mem_singleton.mp member] at control
      exact control (by decide)
  | short escape => simpa using (return_ne_of_shortEscape escape).symm
  | unit small => exact return_notMem_unitEscape _
  | pair large =>
      rw [List.mem_append, not_or]
      exact ⟨return_notMem_unitEscape _, return_notMem_unitEscape _⟩

theorem return_notMem_writeChar (c : Char) : '\r' ∉ writeChar false c :=
  return_notMem_spelled (spelled_writeChar false c)

theorem return_notMem_writeText (s : String) : '\r' ∉ writeText false s := by
  simp [writeText, return_notMem_writeChar]

theorem return_notMem_lineBreak (depth : Nat) : '\r' ∉ Style.file.lineBreak depth := by
  simp [lineBreak_file]

theorem return_notMem_intDigits (n : Int) : '\r' ∉ Decimal.intDigits n := by
  have digits : '\r' ∉ Decimal.natDigits n.natAbs := fun member =>
    absurd (isDigit_of_mem_natDigits member) (by decide)
  unfold Decimal.intDigits
  split <;> simp [digits]

mutual

/-- No storable value is written with a carriage return. -/
theorem return_notMem_writeAt (value : Json) {room : Nat} (at_ : Nat)
    (storable : storable room value = true) : '\r' ∉ writeAt .file at_ value := by
  match value with
  | .null => simp [writeAt]
  | .bool b => cases b <;> simp [writeAt]
  | .int n => exact return_notMem_intDigits n
  | .float x => cases storable
  | .text s => exact return_notMem_writeText s
  | .list [] => simp [writeAt]
  | .list (item :: items) =>
      simp only [Json.storable, storableItems, Bool.and_eq_true] at storable
      simp [writeAt, return_notMem_lineBreak,
        return_notMem_writeAt item (at_ + 1) storable.2.1,
        return_notMem_writeItems items (at_ + 1) storable.2.2]
  | .object [] => simp [writeAt]
  | .object ((name, value) :: fields) =>
      simp only [Json.storable, storableFields, Bool.and_eq_true] at storable
      simp [writeAt, return_notMem_lineBreak, asciiOnly_file, colonGap_file,
        return_notMem_writeText, return_notMem_writeAt value (at_ + 1) storable.2.1,
        return_notMem_writeFields fields (at_ + 1) storable.2.2]

theorem return_notMem_writeItems (items : List Json) {room : Nat} (at_ : Nat)
    (storable : storableItems room items = true) : '\r' ∉ writeItems .file at_ items := by
  match items with
  | [] => simp [writeItems]
  | item :: items =>
      simp only [storableItems, Bool.and_eq_true] at storable
      simp [writeItems, afterComma_file, return_notMem_lineBreak,
        return_notMem_writeAt item at_ storable.1, return_notMem_writeItems items at_ storable.2]

theorem return_notMem_writeFields (fields : List (String × Json)) {room : Nat} (at_ : Nat)
    (storable : storableFields room fields = true) : '\r' ∉ writeFields .file at_ fields := by
  match fields with
  | [] => simp [writeFields]
  | (name, value) :: fields =>
      simp only [storableFields, Bool.and_eq_true] at storable
      simp [writeFields, afterComma_file, return_notMem_lineBreak, asciiOnly_file, colonGap_file,
        return_notMem_writeText, return_notMem_writeAt value at_ storable.1,
        return_notMem_writeFields fields at_ storable.2]

end

end WebPilot.Json
