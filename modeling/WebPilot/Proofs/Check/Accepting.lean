import WebPilot.Check.Scalar

/-!
# What checks accept

A check that is put together from other checks is fine where all of them are.  So what a record
accepts can be read off its fields, one by one: a field that has to be there is there and is fine,
an optional one is absent or fine.

A truth value is accepted in several spellings, and each of them stands for one value
(`Check.bool_fine_iff`).
-/

namespace WebPilot

set_option autoImplicit false

/-! ## Checked values -/

namespace Checked

variable {α β : Type}

theorem map_fine_iff {f : α → β} {a : Checked α} {b : β} :
    f <$> a = .fine b ↔ ∃ x, a = .fine x ∧ f x = b := by
  constructor
  · intro fine
    cases a with
    | fine x => exact ⟨x, rfl, Checked.fine.inj fine⟩
    | faulty issues => cases fine
  · rintro ⟨x, rfl, rfl⟩
    rfl

theorem seq_fine_iff {f : Checked (α → β)} {a : Checked α} {b : β} :
    f <*> a = .fine b ↔ ∃ g x, f = .fine g ∧ a = .fine x ∧ g x = b := by
  constructor
  · intro fine
    cases f with
    | fine g =>
        cases a with
        | fine x => exact ⟨g, x, rfl, rfl, Checked.fine.inj fine⟩
        | faulty issues => cases fine
    | faulty issues => cases a <;> cases fine
  · rintro ⟨g, x, rfl, rfl, rfl⟩
    rfl

theorem under_fine_iff {step : Step} {a : Checked α} {x : α} :
    a.under step = .fine x ↔ a = .fine x := by
  cases a with
  | fine y => exact Iff.rfl
  | faulty issues =>
      constructor
      all_goals
        intro fine
        cases fine

theorem titled_ok_iff {title : String} {a : Checked α} {x : α} :
    a.titled title = .ok x ↔ a = .fine x := by
  constructor
  · intro ok
    cases a with
    | fine y => rw [Except.ok.inj ok]
    | faulty issues => cases ok
  · rintro rfl
    rfl

end Checked

namespace Check

variable {α : Type} {name : String} {check : Json → Checked α} {fields : Fields} {x : α}

/-! ## Fields -/

/-- A field that has to be there is there, and its value is fine. -/
theorem required_fine_iff :
    required name check fields = .fine x ↔
      ∃ value, fields.get? name = some value ∧ check value = .fine x := by
  unfold required
  cases fields.get? name with
  | none => simp [Checked.complain, Checked.under]
  | some value => simp [Checked.under_fine_iff]

/-- A field that may be absent has a value of its own there, or is there and fine. -/
theorem optional_fine_iff {default_ : α} :
    optional name default_ check fields = .fine x ↔
      (fields.get? name = none ∧ x = default_) ∨
        ∃ value, fields.get? name = some value ∧ check value = .fine x := by
  unfold optional
  cases fields.get? name with
  | none => simp [eq_comm]
  | some value => simp [Checked.under_fine_iff]

/-- A field that can only hold one word is fine where it holds that word. -/
theorem tag_fine {word : String} (tagged : fields.get? name = some (.text word)) :
    tag name word fields = .fine () := by
  simp [tag, optional, tagged, wordOf, Checked.under]

/-! ## Texts -/

theorem text_fine_iff {value : Json} {s : String} : text value = .fine s ↔ value = .text s := by
  unfold text
  split
  · simp
  · rename_i other
    simp only [Checked.complain, reduceCtorEq, false_iff]
    exact other s

theorem someText_fine_iff {value : Json} {s : String} :
    someText value = .fine s ↔ value = .text s ∧ s ≠ "" := by
  constructor
  · intro fine
    cases value with
    | text t =>
        change (if t.isEmpty then _ else _) = _ at fine
        split at fine
        · cases fine
        · rename_i filled
          cases fine
          exact ⟨rfl, fun empty => filled (String.isEmpty_iff.mpr empty)⟩
    | _ => cases fine
  · rintro ⟨rfl, filled⟩
    exact if_neg fun empty => filled (String.isEmpty_iff.mp empty)

/-! ## Truth values -/

/-- The spellings of a truth value: itself, one and zero, and words in letters of any case. -/
inductive Truth : Json → Bool → Prop
  | bool (b : Bool) : Truth (.bool b) b
  | int (b : Bool) : Truth (.int (if b then 1 else 0)) b
  | float {x : Float} (b : Bool) : x.isFinite = true →
      Decimal.exactValue x = (if b then 1 else 0) → Truth (.float x) b
  | word {s : String} (b : Bool) : String.ofList (s.toList.map Char.toLower) ∈
      (if b then trueWords else falseWords) → Truth (.text s) b

theorem boolOfInt_fine_iff {n : Int} {b : Bool} :
    boolOfInt n = .fine b ↔ n = if b then 1 else 0 := by
  unfold boolOfInt
  split
  · subst n
    cases b <;> simp
  · rename_i nonzero
    split
    · subst n
      cases b <;> simp
    · rename_i other
      cases b <;> simp [Checked.complain, nonzero, other]

theorem wholeValue?_eq_some_iff {x : Float} {n : Int} :
    wholeValue? x = some n ↔ Decimal.exactValue x = n := by
  change (if (Decimal.exactValue x).den = 1 then some (Decimal.exactValue x).num else none) = _ ↔ _
  constructor
  · intro same
    split at same
    · rename_i whole
      rw [← Option.some.inj same]
      exact Rat.ext rfl whole
    · cases same
  · intro same
    rw [same]
    rfl

theorem bool_int_iff {n : Int} {b : Bool} :
    bool (.int n) = .fine b ↔ n = if b then 1 else 0 := by
  change (if fits64 n then boolOfInt n else _) = _ ↔ _
  constructor
  · intro fine
    split at fine
    · exact boolOfInt_fine_iff.mp fine
    · cases fine
  · intro same
    have fits : fits64 n = true := by
      subst same
      cases b <;> decide
    rw [if_pos fits]
    exact boolOfInt_fine_iff.mpr same

theorem bool_float_iff {x : Float} {b : Bool} :
    bool (.float x) = .fine b ↔
      x.isFinite = true ∧ Decimal.exactValue x = if b then 1 else 0 := by
  change (if !x.isFinite then _ else _) = _ ↔ _
  cases finite : x.isFinite with
  | false => simp [Checked.complain]
  | true =>
      simp only [Bool.not_true, Bool.false_eq_true, if_false, true_and]
      constructor
      · intro fine
        split at fine
        · rename_i n whole
          split at fine
          · rw [wholeValue?_eq_some_iff.mp whole, boolOfInt_fine_iff.mp fine]
            cases b <;> rfl
          · cases fine
        · cases fine
      · intro same
        have whole : wholeValue? x = some (if b then 1 else 0) := by
          rw [wholeValue?_eq_some_iff, same]
          cases b <;> rfl
        rw [whole]
        cases b <;> rfl

/-- No word stands for both truth values. -/
theorem notMem_trueWords : ∀ word ∈ falseWords, word ∉ trueWords := by
  decide

theorem bool_text_iff {s : String} {b : Bool} :
    bool (.text s) = .fine b ↔
      String.ofList (s.toList.map Char.toLower) ∈ if b then trueWords else falseWords := by
  change (if trueWords.contains (String.ofList (s.toList.map Char.toLower)) = true then _ else
    if falseWords.contains (String.ofList (s.toList.map Char.toLower)) = true then _ else _) = _ ↔ _
  generalize String.ofList (s.toList.map Char.toLower) = word
  simp only [List.contains_iff_mem]
  by_cases truth : word ∈ trueWords
  · have only : word ∉ falseWords := fun falsehood => notMem_trueWords word falsehood truth
    cases b <;> simp [truth, only]
  · by_cases falsehood : word ∈ falseWords
    · cases b <;> simp [truth, falsehood]
    · cases b <;> simp [truth, falsehood, Checked.complain]

/-- **A truth value is accepted in its spellings and in no other.** -/
theorem bool_fine_iff {value : Json} {b : Bool} : bool value = .fine b ↔ Truth value b := by
  constructor
  · intro fine
    cases value with
    | bool c =>
        rw [← Checked.fine.inj fine]
        exact .bool c
    | int n =>
        rw [bool_int_iff.mp fine]
        exact .int b
    | float x =>
        obtain ⟨finite, same⟩ := bool_float_iff.mp fine
        exact .float b finite same
    | text s => exact .word b (bool_text_iff.mp fine)
    | null | list _ | object _ => cases fine
  · intro truth
    cases truth with
    | bool => rfl
    | int => exact bool_int_iff.mpr rfl
    | float _ finite same => exact bool_float_iff.mpr ⟨finite, same⟩
    | word _ known => exact bool_text_iff.mpr known

end Check

end WebPilot
