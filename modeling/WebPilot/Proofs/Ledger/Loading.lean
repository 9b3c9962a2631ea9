import WebPilot.Ledger.Basic
import WebPilot.Proofs.Check.Accepting
import WebPilot.Proofs.Json.Limits

/-!
# What can be read of calls and ledgers

A value that is a call has the arguments of the call inside it, or the call has none
(`Invocation.arguments_of_check`).  So what limits the reader of records limits the arguments of
calls: they nest less deep than the value, and have no longer integers.  **A loaded document has no
integer that is too long to be read again** (`Ledger.short_of_load`).
-/

namespace WebPilot

set_option autoImplicit false

/-! ## Checked values -/

/-- An optional field is the checked field, or it is absent and has the value of its own. -/
theorem Check.optional_fine {α : Type} {name : String} {default_ x : α} {check : Json → Checked α}
    {fields : Fields} (fine : optional name default_ check fields = .fine x) :
    (∃ value, (name, value) ∈ fields ∧ check value = .fine x) ∨ x = default_ := by
  rcases optional_fine_iff.mp fine with ⟨_, absent⟩ | ⟨value, found, checked⟩
  · exact .inr absent
  · obtain ⟨before, after, split, _⟩ := List.lookup_eq_some_iff.mp found
    exact .inl ⟨value, by simp [split], checked⟩

namespace Invocation

variable {now : String} {value : Json} {i : Invocation}

/-- **The arguments of a call that was read are in the value**, if there are any. -/
theorem arguments_of_check (fine : check now value = .fine i) :
    ∃ fields, value = .object fields ∧
      (("arguments", .object i.arguments) ∈ fields ∨ i.arguments = []) := by
  cases value with
  | object fields =>
      obtain ⟨_, _, three, _, rfl⟩ := Checked.seq_fine_iff.mp fine
      obtain ⟨_, _, two, _, rfl⟩ := Checked.seq_fine_iff.mp three
      obtain ⟨_, arguments, one, checked, rfl⟩ := Checked.seq_fine_iff.mp two
      obtain ⟨tool, _, rfl⟩ := Checked.map_fine_iff.mp one
      refine ⟨fields, rfl, (Check.optional_fine checked).imp_left ?_⟩
      rintro ⟨found, member, isObject⟩
      cases found with
      | object _ =>
          cases isObject
          exact member
      | _ => cases isObject
  | _ => cases fine

/-- The arguments of a call that was read nest less deep than the value that it was. -/
theorem nesting_of_check (fine : check now value = .fine i) :
    Json.nestingOfFields i.arguments ≤ Json.nesting value := by
  obtain ⟨fields, rfl, member | none⟩ := arguments_of_check fine
  · have nested := Json.nestingOfFields_le_iff.mp (Nat.le_refl _) _ member
    simp only [Json.nesting] at nested ⊢
    omega
  · rw [none]
    exact Nat.zero_le _

/-- The arguments of a call that was read have no longer integers than the value that it was. -/
theorem longestInt_of_check (fine : check now value = .fine i) :
    Json.longestIntOfFields i.arguments ≤ Json.longestInt value := by
  obtain ⟨fields, rfl, member | none⟩ := arguments_of_check fine
  · exact Json.longestIntOfFields_le_iff.mp (Nat.le_refl _) _ member
  · rw [none]
    exact Nat.zero_le _

end Invocation

namespace Document

/-- The calls of a list that was read have no longer integers than its items. -/
theorem longestInt_of_checkItems {timeAt : Nat → String} {index taken : Nat} {items : List Json}
    {calls : List Invocation} (fine : checkItems timeAt index taken items = .fine calls) :
    ∀ i ∈ calls, Json.longestIntOfFields i.arguments ≤ Json.longestIntOfItems items := by
  induction items generalizing index taken calls with
  | nil =>
      cases fine
      simp
  | cons item items ih =>
      obtain ⟨_, rest, one, others, rfl⟩ := Checked.seq_fine_iff.mp fine
      obtain ⟨call, checked, rfl⟩ := Checked.map_fine_iff.mp one
      have here := Invocation.longestInt_of_check (Checked.under_fine_iff.mp checked)
      rw [Json.longestIntOfItems]
      refine List.forall_mem_cons.mpr ⟨?_, fun i member => ?_⟩
      · exact Nat.le_trans here (Nat.le_max_left _ _)
      · exact Nat.le_trans (ih others i member) (Nat.le_max_right _ _)

/-- The calls of a document that was read have no longer integers than the value that it was. -/
theorem longestInt_of_check {timeAt : Nat → String} {taken : Nat} {value : Json} {d : Document}
    (fine : check timeAt taken value = .fine d) :
    ∀ i ∈ d.commands, Json.longestIntOfFields i.arguments ≤ Json.longestInt value := by
  cases value with
  | object fields =>
      obtain ⟨commands, checked, rfl⟩ := Checked.map_fine_iff.mp fine
      intro i member
      rcases Check.optional_fine checked with ⟨found, listed, isList⟩ | rfl
      · have inside := Json.longestIntOfFields_le_iff.mp (Nat.le_refl _) _ listed
        cases found with
        | list items => exact Nat.le_trans (longestInt_of_checkItems isList i member) inside
        | _ => cases isList
      · cases member
  | _ => cases fine

end Document

namespace Ledger

variable {files : Files} {timeAt : Nat → String} {path : String} {document : Document}

/-- A document that is read is the record that the text is. -/
theorem check_of_readDocument {text : String} {taken : Nat}
    (read : readDocument timeAt text = (.ok document, taken)) :
    ∃ value, Json.readRecord? text = some value ∧
      Document.check timeAt 0 value = .fine document := by
  unfold readDocument at read
  split at read
  · cases read
  · rename_i value record
    refine ⟨value, record, ?_⟩
    cases checked : Document.check timeAt 0 value with
    | fine found =>
        rw [checked] at read
        cases read
        rfl
    | faulty issues =>
        rw [checked] at read
        cases read

/-- A document that is loaded was read from a file. -/
theorem read_of_load (loaded : (load files timeAt path).1 = .ok (some document)) :
    ∃ bytes text taken, files.read (Path.ofText path) = .ok bytes ∧
      Files.textOf bytes = .ok text ∧ readDocument timeAt text = (.ok document, taken) := by
  unfold load at loaded
  dsimp only at loaded
  split at loaded
  · cases loaded
  · cases loaded
  split at loaded
  · cases loaded
  rename_i bytes read
  split at loaded
  · cases loaded
  rename_i text decoded
  split at loaded
  · cases loaded
  · rename_i taken parsed
    cases loaded
    exact ⟨bytes, text, taken, read, decoded, parsed⟩

/-- **A loaded document has no integer that is too long to be read again.** -/
theorem short_of_load (loaded : (load files timeAt path).1 = .ok (some document)) :
    ∀ i ∈ document.commands,
      Json.longestIntOfFields i.arguments ≤ Decimal.maxIntegerDigits := by
  obtain ⟨_, _, _, _, _, parsed⟩ := read_of_load loaded
  obtain ⟨value, record, fine⟩ := check_of_readDocument parsed
  have limited : Json.longestInt value ≤ Decimal.maxIntegerDigits :=
    Json.longestInt_readAll (.inr rfl) (Json.readAll_of_readRecord? record)
  exact fun i member => Nat.le_trans (Document.longestInt_of_check fine i member) limited

end Ledger

end WebPilot
