import WebPilot.Proofs.Files.Beside
import WebPilot.Proofs.Ledger.Recording

/-!
# The files of recorded calls are numbered in order

The name of a file holds nothing but word characters, points and dashes, whatever the tool is called
(`Ledger.plain_fileName`).  So it is a single name, and what is written under it is written directly
in the crash directory.  Before its first dash it has the numeral of its number
(`Ledger.numberPart_fileName`), which recovery reads again.

A ledger goes on with a number that is larger than the last one and not less than what the clock
reads (`Ledger.record_filed`).  **So over any run of recordings the numbers are positive and grow,
whatever the clock reads, and every call is filed under the numeral of its number**
(`Ledger.recordings_in_order`).
-/

namespace WebPilot

set_option autoImplicit false

/-- A single name behind a path makes a path. -/
theorem Path.Plain.child {p : Path} (plain : p.Plain) {name : String} (isName : IsName name) :
    (p.child name).Plain where
  slashes := plain.slashes
  names := by
    intro other member
    rcases List.mem_append.mp member with inside | last
    · exact plain.names other inside
    · rw [List.mem_singleton.mp last]
      exact ⟨isName.free, isName.filled, isName.onward⟩

/-- Writing a file of a directory changes nothing but what is directly in that directory under the
file's name. -/
theorem Files.changed_of_write_child {before after : Files} {directory : Path} {name : String}
    {bytes : List UInt8} (wrote : before.write (directory.child name) bytes = .ok after)
    (onward : name ≠ "..") {here : List String} (changed : after.at? here ≠ before.at? here) :
    ∃ place, before.follow (Files.start directory) directory.names = .ok place ∧
      here = place ++ [name] := by
  have leads : before.resolve (directory.child name) = .ok here := by
    by_contra apart
    exact changed (Files.at?_write_of_ne wrote apart)
  obtain ⟨place, follows, behind, _⟩ := Files.follow_child leads
  exact ⟨place, follows, behind.trans (if_neg onward)⟩

namespace Ledger

/-! ## Names of files -/

section Names

variable {n : Int} {tool : String}

theorem isWord_digit {c : Char} (digit : c.isDigit = true) : Text.isWord c = true := by
  have small : c.toNat < 0x80 := by
    simp only [Char.isDigit, Bool.and_eq_true, decide_eq_true_eq] at digit
    have high : c.toNat ≤ 57 := digit.2
    omega
  rw [Text.isWord, if_pos small, Char.isAlphanum, digit, Bool.or_true, Bool.true_or]

/-- **The name of a file holds word characters, points and dashes only.** -/
theorem plain_fileName {c : Char} (member : c ∈ (fileName n tool).toList) :
    Text.isWord c = true ∨ c = '.' ∨ c = '-' := by
  simp only [fileName, String.toList_append, List.mem_append, String.toList_ofList] at member
  rcases member with ((numeral | dash) | safe) | ending
  · have digits (inside : c ∈ Decimal.natDigits n.natAbs) : Text.isWord c = true :=
      isWord_digit (Json.isDigit_of_mem_natDigits inside)
    unfold Decimal.intDigits at numeral
    split at numeral
    · rcases List.mem_cons.mp numeral with sign | inside
      · exact .inr (.inr sign)
      · exact .inl (digits inside)
    · exact .inl (digits numeral)
  · exact .inr (.inr (List.mem_singleton.mp dash))
  · rw [safeName, String.toList_ofList] at safe
    obtain ⟨d, _, rfl⟩ := List.mem_map.mp safe
    split
    · rename_i allowed
      simpa [or_assoc] using allowed
    · exact .inl (by decide)
  · obtain rfl | letter : c = '.' ∨ c ∈ "json".toList := List.mem_cons.mp ending
    · exact .inr (.inl rfl)
    · exact .inl (List.all_eq_true.mp (by decide : "json".toList.all Text.isWord = true) c letter)

example : fileName 17 "../étape/7" = "17-.._étape_7.json" := by decide +kernel

theorem length_fileName (n : Int) (tool : String) : 6 ≤ (fileName n tool).toList.length := by
  simp [fileName, String.toList_append]
  omega

/-- The name of a file is a single name. -/
theorem isName_fileName (n : Int) (tool : String) : Path.IsName (fileName n tool) where
  free member := by
    rcases plain_fileName member with word | point | dash
    · exact absurd word (by decide)
    · exact absurd point (by decide)
    · exact absurd dash (by decide)
  filled same := absurd (length_fileName n tool) (by rw [same]; decide)
  onward same := absurd (length_fileName n tool) (by rw [same]; decide)
  upward := fileName_ne_up n tool

/-- Before its first dash the name has the numeral of its number. -/
theorem numberPart_fileName (natural : 0 ≤ n) (tool : String) :
    numberPart (fileName n tool) = Nat.toDigits 10 n.toNat := by
  have digits : Decimal.intDigits n = Nat.toDigits 10 n.toNat := by
    rw [Decimal.intDigits, if_neg (by omega), Decimal.natDigits]
    congr 1
    omega
  have all : ∀ c ∈ Nat.toDigits 10 n.toNat, c.isDigit = true :=
    fun c member => Json.isDigit_of_mem_natDigits member
  rw [fileName, digits, numberPart_append all]

end Names

/-! ## One recording -/

/-- A call that is to be recorded, with what the clock reads then and the files as they are. -/
structure Moment where
  reading : Int
  files : Files
  call : Invocation

/-- Recording the call. -/
def Moment.record (m : Moment) (ledger : Ledger) : Recording :=
  ledger.record m.reading m.files m.call

/-- The name of the file of a recorded call, under the number that the ledger remembers. -/
def Moment.fileName (m : Moment) (r : Recording) : String :=
  Ledger.fileName r.ledger.lastNumber m.call.tool

/-- The call is filed in the directory as it was recorded: directly there, and under a name that
recovery takes for that of a call, with the numeral of a number in front. -/
structure Filed (directory : Path) (m : Moment) (r : Recording) : Prop where
  positive : 0 < r.ledger.lastNumber
  timely : m.reading ≤ r.ledger.lastNumber
  /-- The call is written to that file, if it can be. -/
  written : m.call.canWrite = true → m.files.Writable (directory.child (m.fileName r)) →
    m.files.write (directory.child (m.fileName r)) (fileBytes m.call.toJson) = .ok r.files
  /-- Nothing else is changed. -/
  confined : ∀ here, r.files.at? here ≠ m.files.at? here →
    ∃ place, m.files.follow (Files.start directory) directory.names = .ok place ∧
      here = place ++ [m.fileName r]
  isName : Path.IsName (m.fileName r)
  /-- The path of the file is read as that of the directory with one name more. -/
  path : directory.Plain →
    Path.ofText (directory.child (m.fileName r)).text = directory.child (m.fileName r)
  ending : Text.endsWith (m.fileName r) ".json" = true
  numeral : numberPart (m.fileName r) = Nat.toDigits 10 r.ledger.lastNumber.toNat
  isCallFile : isCallFile (m.fileName r) = true
  /-- Recovery reads the number off the name, if that is not too long for a name. -/
  number : Files.exceeds Files.maxNameBytes (m.fileName r) = false →
    number? (m.fileName r) = .ok r.ledger.lastNumber

/-- **A recorded call is filed under the next number.** -/
theorem record_filed {ledger : Ledger} {directory : Path}
    (kept : ledger.crashDirectory = some directory) (natural : 0 ≤ ledger.lastNumber) (m : Moment) :
    (m.record ledger).ledger.crashDirectory = some directory ∧
      ledger.lastNumber < (m.record ledger).ledger.lastNumber ∧
      Filed directory m (m.record ledger) := by
  have after := record_ledger m.reading m.files m.call kept
  have last : (m.record ledger).ledger.lastNumber = max m.reading (ledger.lastNumber + 1) :=
    congrArg Ledger.lastNumber after
  have positive : 0 < (m.record ledger).ledger.lastNumber := by omega
  have numbered := numbered_fileName (Int.le_of_lt positive) m.call.tool
  have isName : Path.IsName (m.fileName (m.record ledger)) := isName_fileName _ _
  have name : m.fileName (m.record ledger) =
      Ledger.fileName (ledger.nextNumber m.reading) m.call.tool := by
    rw [Moment.fileName, last, nextNumber]
  have filed := record_written m.reading m.files m.call kept
  simp only [← name] at filed
  refine ⟨(congrArg Ledger.crashDirectory after).trans kept, by omega, ?_⟩
  refine
    { positive
      timely := by omega
      written := fun fits writable => ?_
      confined := fun here changed => ?_
      isName
      path := fun plain => Path.ofText_text (plain.child isName)
      ending := ?_
      numeral := numberPart_fileName (Int.le_of_lt positive) _
      isCallFile := numbered.isCallFile
      number := fun short => ?_ }
  · rcases filed with ⟨_, wrote⟩ | ⟨_, refused⟩
    · exact wrote
    · exact absurd writable (refused fits)
  · -- A call that could not be written has left all files as they were.
    rcases filed with ⟨_, wrote⟩ | ⟨same, _⟩
    · exact Files.changed_of_write_child wrote isName.upward changed
    · exact absurd (congrArg (Files.at? · here) same) changed
  · have callFile := numbered.isCallFile
    simp only [Ledger.isCallFile, Bool.and_eq_true] at callFile
    exact callFile.1.1
  · have hasNumber : HasNumber (m.fileName (m.record ledger)) := numbered.hasNumber short
    exact (number?_eq hasNumber).trans
      (congrArg Except.ok (number_fileName (Int.le_of_lt positive) hasNumber))

/-! ## Runs of recordings -/

/-- What becomes of calls that are recorded one after the other, whichever way each recording
ends. -/
def recordings (ledger : Ledger) : List Moment → List (Moment × Recording)
  | [] => []
  | m :: later => (m, m.record ledger) :: recordings (m.record ledger).ledger later

theorem map_fst_recordings (ledger : Ledger) (moments : List Moment) :
    (ledger.recordings moments).map Prod.fst = moments := by
  induction moments generalizing ledger with
  | nil => rfl
  | cons m later ih => rw [recordings, List.map_cons, ih]

/-- The number of the file of each. -/
def numbers (filed : List (Moment × Recording)) : List Int :=
  filed.map fun f => f.2.ledger.lastNumber

/-- Each number is larger than the ones before, and than the last one of the ledger. -/
theorem recordings_filed {ledger : Ledger} {directory : Path}
    (kept : ledger.crashDirectory = some directory) (natural : 0 ≤ ledger.lastNumber)
    (moments : List Moment) :
    (ledger.lastNumber :: numbers (ledger.recordings moments)).Pairwise (· < ·) ∧
      ∀ f ∈ ledger.recordings moments, Filed directory f.1 f.2 := by
  induction moments generalizing ledger with
  | nil => exact ⟨List.pairwise_singleton _ _, List.forall_mem_nil _⟩
  | cons m later ih =>
      obtain ⟨kept', grows, filed⟩ := record_filed kept natural m
      obtain ⟨increasing, others⟩ := ih kept' (Int.le_of_lt filed.positive)
      refine ⟨List.pairwise_cons.mpr ⟨?_, increasing⟩, List.forall_mem_cons.mpr ⟨filed, others⟩⟩
      intro n member
      rcases List.mem_cons.mp member with rfl | next
      · exact grows
      · exact Int.lt_trans grows ((List.pairwise_cons.mp increasing).1 n next)

/-- **The files of a ledger are numbered in the order of recording.**  Over a run of recordings by a
ledger with a crash directory, whatever the tools are called, the clock reads and the files are,
each call is filed directly in the directory under the numeral of a positive number that is not less
than the reading, and the numbers grow. -/
theorem recordings_in_order (directory : Path) (invocations : List Invocation)
    (moments : List Moment) :
    let filed := ({ crashDirectory := some directory, invocations } : Ledger).recordings moments
    filed.map Prod.fst = moments ∧ (numbers filed).Pairwise (· < ·) ∧
      ∀ f ∈ filed, Filed directory f.1 f.2 := by
  intro filed
  have kept : ({ crashDirectory := some directory, invocations } : Ledger).crashDirectory =
      some directory := rfl
  obtain ⟨increasing, each⟩ := recordings_filed kept (Int.le_refl 0) moments
  exact ⟨map_fst_recordings _ moments, (List.pairwise_cons.mp increasing).2, each⟩

end Ledger

end WebPilot
