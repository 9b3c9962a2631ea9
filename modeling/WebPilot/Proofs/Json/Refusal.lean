import WebPilot.Proofs.Json.RoundTrip

/-!
# Integers that are too long are refused

A record file can be written with an integer of any length, but a reader admits no integer with more
digits than the limit of its dialect.  Reading stops at the first such integer, and nothing that was
read before it is kept: **a value with an integer that is too long is not read back**
(`readValue_tooLong`), however deep the integer lies, and so a record file with one is not read
(`readAll_tooLong`).

The loops for items and for fields stop in their first item or field, or go on to a later one in
which they stop.
-/

namespace WebPilot.Json

set_option autoImplicit false

/-- Reading met a fault. -/
def Stops {α : Type} (read : Read α) : Prop :=
  ∃ fault, read = .error fault

variable {d : Dialect} {fuel depth : Nat} {rest : List Char}

/-! ## Steps -/

/-- Reading stops at an integer that is too long. -/
theorem readValue_tooLongInt {n : Int} (closes : Closes rest)
    (long : d.admits (longestInt (.int n)) = false) :
    Stops (readValue d (fuel + 1) depth (Decimal.intDigits n ++ rest)) := by
  obtain ⟨fault, stops⟩ := readScalar_tooLong closes long
  exact ⟨fault, by rw [readValue_intDigits, stops]⟩

/-- A list stops where its first item does. -/
theorem readItems_stops (read : List Json) {cs : List Char}
    (first : Stops (readValue d fuel depth cs)) : Stops (readItems d (fuel + 1) depth read cs) := by
  obtain ⟨fault, first⟩ := first
  exact ⟨fault, by rw [readItems, first]⟩

/-- An object stops where its first value does. -/
theorem readFields_stops (read : List (String × Json)) {name : String} {value : Json}
    {ns before after cs : List Char} (spelled : SpelledText name ns) (isGap : Gap before)
    (isGap' : Gap after) (laid : Laid value cs)
    (first : Stops (readValue d fuel depth (cs ++ rest))) :
    Stops (readFields d (fuel + 1) depth read
      (ns ++ (before ++ ':' :: (after ++ (cs ++ rest))))) := by
  obtain ⟨fault, first⟩ := first
  exact ⟨fault, readFields_fault spelled isGap isGap' laid first⟩

/-! ## Values -/

mutual

/-- **Reading a value that is laid out stops if one of its integers is too long.** -/
theorem readValue_tooLong (value : Json) {cs : List Char} (laid : Laid value cs) {room : Nat}
    (depth fuel : Nat) (rest : List Char) (storable : storable room value = true)
    (long : d.admits (longestInt value) = false) (fits : d.Fits (depth + room))
    (fueled : cs.length < fuel) (closes : Closes rest) :
    Stops (readValue d fuel depth (cs ++ rest)) := by
  obtain ⟨fuel, rfl⟩ : ∃ more, fuel = more + 1 := ⟨fuel - 1, by omega⟩
  have nothing : d.admits 0 = true := d.admits_zero
  match value, laid with
  | _, .null | _, .bool _ | _, .text _ | _, .emptyList _ | _, .emptyObject _ =>
      exact absurd (long.symm.trans nothing) (by decide)
  | _, .int n => exact readValue_tooLongInt closes long
  | .list items, @Laid.list gap cs _ isGap inside =>
      simp only [Json.storable, Bool.and_eq_true, decide_eq_true_eq] at storable
      simp only [List.length_cons, List.length_append, List.length_nil] at fueled
      have loop := readItems_tooLong items inside (depth + 1) fuel [] rest storable.2 long
        (fits.deeper storable.1) (by omega)
      simp only [List.cons_append, List.append_assoc, List.nil_append]
      rwa [readValue_list (fits.any storable.1) isGap inside]
  | .object fields, @Laid.object gap cs _ isGap inside =>
      simp only [Json.storable, Bool.and_eq_true, decide_eq_true_eq] at storable
      simp only [List.length_cons, List.length_append, List.length_nil] at fueled
      have loop := readFields_tooLong fields inside (depth + 1) fuel [] rest storable.2 long
        (fits.deeper storable.1.1) (by omega)
      simp only [List.cons_append, List.append_assoc, List.nil_append]
      rwa [readValue_object (fits.any storable.1.1) isGap inside]

/-- The loop for items stops if an integer in one of them is too long. -/
theorem readItems_tooLong (items : List Json) {cs : List Char} (laid : LaidItems items cs)
    {room : Nat} (depth fuel : Nat) (read : List Json) (rest : List Char)
    (storable : storableItems room items = true)
    (long : d.admits (longestIntOfItems items) = false) (fits : d.Fits (depth + room))
    (fueled : cs.length + 1 < fuel) :
    Stops (readItems d fuel depth read (cs ++ ']' :: rest)) := by
  obtain ⟨fuel, rfl⟩ : ∃ more, fuel = more + 1 := ⟨fuel - 1, by omega⟩
  match items, laid with
  | [item], @LaidItems.last _ cs after first isGap =>
      simp only [storableItems, Bool.and_true] at storable
      simp only [longestIntOfItems, Nat.max_zero] at long
      simp only [List.length_append] at fueled
      rw [List.append_assoc]
      apply readItems_stops
      exact readValue_tooLong item first depth fuel _ storable long fits (by omega)
        (isGap.closes (closes_cons (by decide) rest))
  | item :: items, @LaidItems.next _ _ cs ds before after first isGap isGap' others =>
      simp only [storableItems, Bool.and_eq_true] at storable
      simp only [longestIntOfItems, Dialect.admits_max] at long
      simp only [List.length_append, List.length_cons] at fueled
      simp only [List.cons_append, List.append_assoc]
      have closes : Closes (before ++ ',' :: (after ++ (ds ++ ']' :: rest))) :=
        isGap.closes (closes_cons (by decide) _)
      cases here : d.admits (longestInt item) with
      | false =>
          apply readItems_stops
          exact readValue_tooLong item first depth fuel _ storable.1 here fits (by omega) closes
      | true =>
          rw [here, Bool.true_and] at long
          have value := readValue_laid item first depth fuel _ storable.1 here fits (by omega)
            closes
          rw [readItems_next isGap isGap' others value]
          exact readItems_tooLong items others depth fuel _ rest storable.2 long fits (by omega)

/-- The loop for fields stops if an integer in one of them is too long. -/
theorem readFields_tooLong (fields : List (String × Json)) {cs : List Char}
    (laid : LaidFields fields cs) {room : Nat} (depth fuel : Nat)
    (read : List (String × Json)) (rest : List Char) (storable : storableFields room fields = true)
    (long : d.admits (longestIntOfFields fields) = false) (fits : d.Fits (depth + room))
    (fueled : cs.length + 1 < fuel) :
    Stops (readFields d fuel depth read (cs ++ '\x7d' :: rest)) := by
  obtain ⟨fuel, rfl⟩ : ∃ more, fuel = more + 1 := ⟨fuel - 1, by omega⟩
  match fields, laid with
  | [(name, value)], @LaidFields.last _ _ _ after field isGap =>
      cases field with
      | field spelled left right first =>
          simp only [storableFields, Bool.and_true] at storable
          simp only [longestIntOfFields, Nat.max_zero] at long
          simp only [List.length_append, List.length_cons] at fueled
          simp only [List.cons_append, List.append_assoc]
          apply readFields_stops read spelled left right first
          exact readValue_tooLong value first depth fuel _ storable long fits (by omega)
            (isGap.closes (closes_cons (by decide) rest))
  | (name, value) :: fields, @LaidFields.next _ _ _ _ ds before after field isGap isGap' others =>
      cases field with
      | field spelled left right first =>
          simp only [storableFields, Bool.and_eq_true] at storable
          simp only [longestIntOfFields, Dialect.admits_max] at long
          simp only [List.length_append, List.length_cons] at fueled
          simp only [List.cons_append, List.append_assoc]
          have closes : Closes (before ++ ',' :: (after ++ (ds ++ '\x7d' :: rest))) :=
            isGap.closes (closes_cons (by decide) _)
          cases here : d.admits (longestInt value) with
          | false =>
              apply readFields_stops read spelled left right first
              exact readValue_tooLong value first depth fuel _ storable.1 here fits (by omega)
                closes
          | true =>
              rw [here, Bool.true_and] at long
              have inner := readValue_laid value first depth fuel _ storable.1 here fits (by omega)
                closes
              rw [readFields_next spelled left right first isGap isGap' others inner]
              exact readFields_tooLong fields others depth fuel _ rest storable.2 long fits
                (by omega)

end

/-- **A record file with an integer that is too long is not read.** -/
theorem readAll_tooLong {value : Json} (storable : storable 200 value = true)
    (long : Decimal.maxIntegerDigits < longestInt value) :
    ∃ fault, readAll .record (writeAt .file 0 value) = .error fault := by
  have refused : Dialect.record.admits (longestInt value) = false := by
    rw [Dialect.admits_record]
    exact decide_eq_false (Nat.not_le.mpr long)
  have laid := laid_writeAt Style.Spaced.file value 0 storable
  obtain ⟨fault, stops⟩ := readValue_tooLong value laid 0 _ [] storable refused
    Dialect.fits_record (Nat.lt_succ_self _) closes_nil
  obtain ⟨c, cs, text, visible, -, unmarked⟩ := laid.head
  rw [List.append_nil] at stops
  rw [text] at stops ⊢
  have other : (c :: cs).head? ≠ some (Char.ofNat 0xfeff) := by
    intro same
    exact unmarked (Option.some.inj same)
  refine ⟨fault, ?_⟩
  rw [readAll, if_neg other, skipGap_cons visible, stops]

end WebPilot.Json
