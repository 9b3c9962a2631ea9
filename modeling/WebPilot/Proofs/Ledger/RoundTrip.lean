import WebPilot.Ledger.Basic
import WebPilot.Proofs.Files.Writing
import WebPilot.Proofs.Json.Refusal
import WebPilot.Proofs.Text.Utf8

/-!
# A ledger file holds the ledger

What is stored goes through four forms: calls, values, text and bytes.  Each form is read back from
the next one, and so **a ledger that was stored is loaded again, call by call, and no time is
taken** (`Ledger.load_store`), if its arguments are what records can keep (`Invocation.Storable`).

Whether a call can be written is decided by how deep its arguments nest, and whether it can be read
again by its integers as well.  Where one of these is too long **the file is refused as a whole**
(`Ledger.load_store_tooLong`).
-/

namespace WebPilot

set_option autoImplicit false

/-! ## Bytes and text -/

theorem Text.unifyBreaks_of_notMem {cs : List Char} (free : '\r' ∉ cs) : unifyBreaks cs = cs := by
  induction cs with
  | nil => rfl
  | cons c cs ih =>
      simp only [List.mem_cons, not_or] at free
      have other : c ≠ '\r' := Ne.symm free.1
      rw [unifyBreaks]
      · rw [if_neg other, ih free.2]
      · rintro rest rfl
        exact absurd rfl other

/-- The text of a record file is what was written. -/
theorem Files.textOf_fileBytes {value : Json} {room : Nat}
    (storable : Json.storable room value = true) :
    Files.textOf (Ledger.fileBytes value) = .ok (Json.write .file value) := by
  have free := Json.return_notMem_writeAt value 0 storable
  unfold Files.textOf Ledger.fileBytes
  rw [Text.Utf8.decode_encode]
  simp only [Json.write, String.toList_ofList, Text.unifyBreaks_of_notMem free]

/-! ## Calls and documents -/

/-- The arguments are what a ledger file can keep: they lie inside three containers of its own. -/
def Invocation.Storable (i : Invocation) : Prop :=
  Json.storable 197 (.object i.arguments) = true ∧
    Json.longestIntOfFields i.arguments ≤ Decimal.maxIntegerDigits

theorem Invocation.check_toJson (i : Invocation) (now : String) :
    Invocation.check now i.toJson = .fine i := by
  rfl

theorem Invocation.timesTaken_toJson (i : Invocation) : Invocation.timesTaken i.toJson = 0 := by
  rfl

theorem Document.checkItems_toJson (timeAt : Nat → String) (commands : List Invocation)
    (index taken : Nat) :
    Document.checkItems timeAt index taken (commands.map Invocation.toJson) = .fine commands := by
  induction commands generalizing index taken with
  | nil => rfl
  | cons i commands ih =>
      rw [List.map_cons, checkItems, i.check_toJson, ih]
      rfl

theorem Document.check_toJson (timeAt : Nat → String) (d : Document) :
    Document.check timeAt 0 d.toJson = .fine d := by
  have items := Document.checkItems_toJson timeAt d.commands 0 0
  show (Document.mk <$> (Document.checkItems timeAt 0 0 (d.commands.map Invocation.toJson)).under
    (.field "commands")) = _
  rw [items]
  rfl

theorem Document.timesTaken_toJson (d : Document) : Document.timesTaken d.toJson = 0 := by
  show ((d.commands.map Invocation.toJson).map Invocation.timesTaken).foldr (· + ·) 0 = 0
  induction d.commands with
  | nil => rfl
  | cons i commands ih =>
      rw [List.map_cons, List.map_cons, List.foldr_cons, ih, i.timesTaken_toJson]

/-- The values of a document nest by three containers more than the arguments of its calls. -/
theorem Document.storable_toJson {d : Document}
    (shallow : ∀ i ∈ d.commands, Json.storable 197 (.object i.arguments) = true) :
    Json.storable 200 d.toJson = true := by
  have items (commands : List Invocation)
      (shallow : ∀ i ∈ commands, Json.storable 197 (.object i.arguments) = true) :
      Json.storableItems 198 (commands.map Invocation.toJson) = true := by
    induction commands with
    | nil => rfl
    | cons i commands ih =>
        obtain ⟨arguments, others⟩ := List.forall_mem_cons.mp shallow
        rw [List.map_cons, Json.storableItems, ih others, Bool.and_true]
        simp only [Invocation.toJson, Json.storable, Json.storableFields] at arguments ⊢
        simp only [arguments, Bool.and_true]
        simp [Fields.names]
  simp only [Document.toJson, Json.storable, Json.storableFields, items d.commands shallow,
    Bool.and_true]
  simp [Fields.names]

/-- The integers of a document are those of the arguments of its calls. -/
theorem Document.longestInt_toJson_le {d : Document} {digits : Nat} :
    Json.longestInt d.toJson ≤ digits ↔
      ∀ i ∈ d.commands, Json.longestIntOfFields i.arguments ≤ digits := by
  have items (commands : List Invocation) :
      Json.longestIntOfItems (commands.map Invocation.toJson) ≤ digits ↔
        ∀ i ∈ commands, Json.longestIntOfFields i.arguments ≤ digits := by
    induction commands with
    | nil => simp [Json.longestIntOfItems]
    | cons i commands ih =>
        rw [List.map_cons, Json.longestIntOfItems, Nat.max_le, ih, List.forall_mem_cons]
        simp [Invocation.toJson, Json.longestInt, Json.longestIntOfFields]
  rw [← items d.commands]
  simp [Document.toJson, Json.longestInt, Json.longestIntOfFields]

/-! ## Depth -/

mutual

/-- A value nests at most one deeper than its containers. -/
theorem Json.nesting_le (value : Json) {room : Nat} (storable : storable room value = true) :
    nesting value ≤ room + 1 := by
  match value with
  | .null | .bool _ | .int _ | .float _ | .text _ => simp [nesting]
  | .list items =>
      simp only [Json.storable, Bool.and_eq_true, decide_eq_true_eq] at storable
      have inside := nestingOfItems_le items storable.2
      rw [nesting]
      omega
  | .object fields =>
      simp only [Json.storable, Bool.and_eq_true, decide_eq_true_eq] at storable
      have inside := nestingOfFields_le fields storable.2
      rw [nesting]
      omega

theorem Json.nestingOfItems_le (items : List Json) {room : Nat}
    (storable : storableItems room items = true) : nestingOfItems items ≤ room + 1 := by
  match items with
  | [] => exact Nat.zero_le _
  | item :: items =>
      simp only [storableItems, Bool.and_eq_true] at storable
      exact Nat.max_le.mpr ⟨nesting_le item storable.1, nestingOfItems_le items storable.2⟩

theorem Json.nestingOfFields_le (fields : List (String × Json)) {room : Nat}
    (storable : storableFields room fields = true) : nestingOfFields fields ≤ room + 1 := by
  match fields with
  | [] => exact Nat.zero_le _
  | (_, value) :: fields =>
      simp only [storableFields, Bool.and_eq_true] at storable
      exact Nat.max_le.mpr ⟨nesting_le value storable.1, nestingOfFields_le fields storable.2⟩

end

/-- What is shallow enough to be read is shallow enough to be written. -/
theorem Invocation.canWrite_of_shallow {i : Invocation}
    (shallow : Json.storable 197 (.object i.arguments) = true) : i.canWrite = true := by
  simp only [Json.storable, Bool.and_eq_true, decide_eq_true_eq] at shallow
  have inside := Json.nestingOfFields_le i.arguments shallow.2
  exact decide_eq_true (Nat.le_trans inside (by decide))

/-! ## Files -/

namespace Ledger

/-- A ledger is stored if its calls can be written and a file can be written at the path. -/
theorem store_ok_iff {ledger : Ledger} {files : Files} {path : String} :
    (∃ files', ledger.store files path = .ok files') ↔
      ledger.invocations.all Invocation.canWrite = true ∧ files.Writable (Path.ofText path) := by
  unfold store
  constructor
  · rintro ⟨files', stored⟩
    split at stored
    · cases stored
    · rename_i canWrite
      split at stored
      · rename_i written
        obtain ⟨names, resolved, free, _⟩ := Files.write_ok written
        exact ⟨by simpa only [Bool.not_eq_true', Bool.not_eq_false] using canWrite,
          names, resolved, free⟩
      · cases stored
  · rintro ⟨canWrite, writable⟩
    obtain ⟨files', written⟩ := writable.write (fileBytes ledger.document.toJson)
    refine ⟨files', ?_⟩
    simp only [canWrite, Bool.not_true, Bool.false_eq_true, if_false, written]

/-- A ledger that can be written is refused as every file is. -/
theorem store_refused {ledger : Ledger} {files : Files} {path : String} {fault : FileFault}
    (canWrite : ledger.invocations.all Invocation.canWrite = true)
    (refused : ∀ bytes, files.write (Path.ofText path) bytes = .error fault) :
    ledger.store files path = .error (.file fault) := by
  simp only [store, canWrite, Bool.not_true, Bool.false_eq_true, if_false, refused]

/-- What is stored is written at the path. -/
theorem write_of_store {ledger : Ledger} {files files' : Files} {path : String}
    (stored : ledger.store files path = .ok files') :
    files.write (Path.ofText path) (fileBytes ledger.document.toJson) = .ok files' := by
  unfold store at stored
  split at stored
  · cases stored
  · split at stored
    · rename_i written
      cases stored
      exact written
    · cases stored

/-- Storing a ledger keeps no other file from being written. -/
theorem writable_after_store {ledger : Ledger} {files files' : Files} {path : String} {other : Path}
    (stored : ledger.store files path = .ok files') (writable : files.Writable other) :
    files'.Writable other :=
  writable.after_write (write_of_store stored)

/-- A document is read back from its text. -/
theorem readDocument_write {d : Document} (storable : ∀ i ∈ d.commands, i.Storable)
    (timeAt : Nat → String) :
    readDocument timeAt (Json.write .file d.toJson) = (.ok d, 0) := by
  have kept := Document.storable_toJson fun i member => (storable i member).1
  have short := Document.longestInt_toJson_le.mpr fun i member => (storable i member).2
  have record : Json.readRecord? (Json.write .file d.toJson) = some d.toJson := by
    unfold Json.readRecord? Json.write
    rw [String.toList_ofList, Json.readAll_writeAt kept short]
    rfl
  unfold readDocument
  rw [record]
  simp only [Document.check_toJson, Document.timesTaken_toJson, Checked.titled]

/-- What is said of a document that is not JSON. -/
def notJson : Invalid :=
  ⟨Document.title, [⟨.notJson, []⟩]⟩

/-- A document with an integer that is too long is refused. -/
theorem readDocument_tooLong {d : Document}
    (shallow : ∀ i ∈ d.commands, Json.storable 197 (.object i.arguments) = true)
    (long : ¬ ∀ i ∈ d.commands, Json.longestIntOfFields i.arguments ≤ Decimal.maxIntegerDigits)
    (timeAt : Nat → String) :
    readDocument timeAt (Json.write .file d.toJson) = (.error notJson, 0) := by
  have long : Decimal.maxIntegerDigits < Json.longestInt d.toJson :=
    Nat.lt_of_not_le fun short => long (Document.longestInt_toJson_le.mp short)
  obtain ⟨fault, stops⟩ := Json.readAll_tooLong (Document.storable_toJson shallow) long
  have record : Json.readRecord? (Json.write .file d.toJson) = none := by
    unfold Json.readRecord? Json.write
    rw [String.toList_ofList, stops]
    rfl
  unfold readDocument
  rw [record]
  rfl

/-- Storing a ledger writes its document. -/
theorem read_store {ledger : Ledger} {files files' : Files} {path : String}
    (stored : ledger.store files path = .ok files') :
    files'.find? (Path.ofText path) = .ok (some (.file (fileBytes ledger.document.toJson))) ∧
      files'.read (Path.ofText path) = .ok (fileBytes ledger.document.toJson) :=
  Files.read_write (write_of_store stored)

/-- No integer among the arguments of the calls is too long to be read. -/
def Short (ledger : Ledger) : Prop :=
  ∀ i ∈ ledger.invocations, Json.longestIntOfFields i.arguments ≤ Decimal.maxIntegerDigits

instance (ledger : Ledger) : Decidable ledger.Short :=
  inferInstanceAs (Decidable (∀ i ∈ ledger.invocations, _))

section Loading

variable {ledger : Ledger} {files files' : Files} {path : String}
  (stored : ledger.store files path = .ok files') (timeAt : Nat → String)

include stored

/-- **A ledger that was stored is loaded again.** -/
theorem load_store (storable : ∀ i ∈ ledger.invocations, i.Storable) :
    load files' timeAt path = (.ok (some ledger.document), 0) := by
  have text := Files.textOf_fileBytes (Document.storable_toJson (d := ledger.document)
    fun i member => (storable i member).1)
  have document := readDocument_write (d := ledger.document) storable timeAt
  obtain ⟨found, read⟩ := read_store stored
  unfold load
  simp only [found, read, text, document]

/-- **A ledger with an integer that is too long is stored, but not loaded again.** -/
theorem load_store_tooLong
    (shallow : ∀ i ∈ ledger.invocations, Json.storable 197 (.object i.arguments) = true)
    (long : ¬ ledger.Short) :
    load files' timeAt path =
      (.error (.ledgerFormat (Path.ofText path).text (.invalid notJson)), 0) := by
  have text := Files.textOf_fileBytes (Document.storable_toJson (d := ledger.document) shallow)
  have document := readDocument_tooLong (d := ledger.document) shallow long timeAt
  obtain ⟨found, read⟩ := read_store stored
  unfold load
  simp only [found, read, text, document]

end Loading

end Ledger

end WebPilot
