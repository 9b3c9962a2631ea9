import WebPilot.Ledger.Keeping
import WebPilot.Proofs.Ledger.RoundTrip
import WebPilot.Proofs.Session.Frame

/-!
# Saving a ledger and loading it again

A session saves its ledger with the acts that the files know nothing of: a ledger with calls in it
is saved as it stands (`Act.saveLedger_filled`), wherever a file can be written.

**What comes back depends on the integers alone** (`Act.saved_ledger_comes_back`).  If each of them
is short enough to be read, the loaded document has the same calls in the same order, and a ledger
made of them is saved with the same bytes.  One that is longer can be written, but the file is then
refused (`Act.huge_ledger_refused`).
-/

namespace WebPilot

set_option autoImplicit false

section Acts

variable {ledger : Ledger} {files : Files} {path : String} {s : Surroundings} {w w' : World}

namespace Act

/-! ## Single acts -/

/-- Reading a ledger file takes times, and does nothing else. -/
theorem loadLedger_takes (path : String) (s : Surroundings) (w : World) :
    ∃ taken, loadLedger path s w =
      ((Ledger.load w.files (fun i => s.timeAt (w.timesTaken + i)) path).1,
        { w with timesTaken := taken }) :=
  ⟨_, rfl⟩

/-- What is seen of the world but for times taken stays the same. -/
theorem loadLedger_same {γ : Type} {view : World → γ}
    (timeless : ∀ w taken, view { w with timesTaken := taken } = view w) (path : String) :
    (loadLedger path).Keeps (Same view) := by
  intro s w
  obtain ⟨taken, run⟩ := loadLedger_takes path s w
  rw [run]
  exact timeless w taken

/-- What comes back is what the file has. -/
theorem load_of_loadLedger {document? : Option Document}
    (run : loadLedger path s w = (.ok document?, w')) :
    (Ledger.load w.files (fun i => s.timeAt (w.timesTaken + i)) path).1 = .ok document? := by
  obtain ⟨taken, loads⟩ := loadLedger_takes path s w
  exact congrArg Prod.fst (loads.symm.trans run)

/-- A session reads the ledger that was stored in its files. -/
theorem loadLedger_stored (stored : ledger.store files path = .ok w.files)
    (storable : ∀ i ∈ ledger.invocations, i.Storable) (s : Surroundings) :
    loadLedger path s w =
      (.ok (some ⟨ledger.invocations⟩), { w with timesTaken := w.timesTaken + 0 }) := by
  rw [loadLedger, Ledger.load_store stored _ storable]
  rfl

/-- A session refuses the ledger in its files if an integer is too long. -/
theorem loadLedger_tooLong (stored : ledger.store files path = .ok w.files)
    (shallow : ∀ i ∈ ledger.invocations, Json.storable 197 (.object i.arguments) = true)
    (long : ¬ ledger.Short) (s : Surroundings) :
    loadLedger path s w =
      (.error (.ledgerFormat (Path.ofText path).text (.invalid Ledger.notJson)),
        { w with timesTaken := w.timesTaken + 0 }) := by
  rw [loadLedger, Ledger.load_store_tooLong stored _ shallow long]

/-- Writing a ledger changes the files and nothing else. -/
theorem storeLedger_ok (run : storeLedger ledger path s w = (.ok (), w')) :
    ∃ files, ledger.store w.files path = .ok files ∧ w' = { w with files } := by
  unfold storeLedger at run
  split at run
  · cases run
    exact ⟨_, ‹_›, rfl⟩
  · cases run

/-- A ledger that is not empty is saved as it stands. -/
theorem saveLedger_filled (learned : w.ledger.invocations ≠ []) (path : String)
    (s : Surroundings) : saveLedger path s w = storeLedger w.ledger path s w := by
  have filled : w.ledger.isEmpty = false := by simpa [Ledger.isEmpty] using learned
  simp only [saveLedger, bind_apply, see, filled, when_, done, Bool.false_eq_true, if_false]

/-- It is saved if it can be stored. -/
theorem saveLedger_stored (learned : w.ledger.invocations ≠ [])
    (stored : w.ledger.store w.files path = .ok files) (s : Surroundings) :
    saveLedger path s w = (.ok (), { w with files }) := by
  rw [saveLedger_filled learned]
  unfold storeLedger
  rw [stored]

/-- What was saved is the ledger, stored in the files. -/
theorem saveLedger_ok (learned : w.ledger.invocations ≠ [])
    (run : saveLedger path s w = (.ok (), w')) :
    w.ledger.store w.files path = .ok w'.files := by
  rw [saveLedger_filled learned] at run
  obtain ⟨files, stored, rfl⟩ := storeLedger_ok run
  exact stored

/-- Calls that are shallow enough to be read are saved wherever a file can be written. -/
theorem saves_iff (learned : w.ledger.invocations ≠ [])
    (shallow : ∀ i ∈ w.ledger.invocations, Json.storable 197 (.object i.arguments) = true) :
    (∃ saved, saveLedger path s w = (.ok (), saved)) ↔ w.files.Writable (Path.ofText path) := by
  have canWrite : w.ledger.invocations.all Invocation.canWrite = true :=
    List.all_eq_true.mpr fun i member => Invocation.canWrite_of_shallow (shallow i member)
  constructor
  · rintro ⟨saved, run⟩
    exact (Ledger.store_ok_iff.mp ⟨_, saveLedger_ok learned run⟩).2
  · intro writable
    obtain ⟨files, stored⟩ := Ledger.store_ok_iff.mpr ⟨canWrite, writable⟩
    exact ⟨_, saveLedger_stored learned stored s⟩

end Act

/-! ## Saving and loading -/

namespace Act

/-- What was saved is the document of the calls. -/
theorem read_saved (learned : w.ledger.invocations ≠ [])
    (run : saveLedger path s w = (.ok (), w')) :
    w'.files.read (Path.ofText path) = .ok (Ledger.fileBytes w.ledger.document.toJson) :=
  (Ledger.read_store (saveLedger_ok learned run)).2

/-- What becomes of a stored ledger when it is loaded is decided by its integers. -/
theorem loadLedger_eq (stored : ledger.store files path = .ok w.files)
    (shallow : ∀ i ∈ ledger.invocations, Json.storable 197 (.object i.arguments) = true)
    (s : Surroundings) :
    (loadLedger path s w).1 =
      if ledger.Short then .ok (some ledger.document)
      else .error (.ledgerFormat (Path.ofText path).text (.invalid Ledger.notJson)) := by
  split
  · rename_i short
    rw [loadLedger_stored stored (fun i member => ⟨shallow i member, short i member⟩)]
    rfl
  · rename_i long
    rw [loadLedger_tooLong stored shallow long]

/-- **A ledger that is saved comes back, unless an integer in it is too long to be read.**  It is
saved wherever a file can be written.  Whenever the file is loaded, the document has the calls of
the ledger, with all that they were recorded with; and a ledger that is made of the calls of a
document loaded from it is saved anywhere with the same bytes. -/
theorem saved_ledger_comes_back (learned : w.ledger.invocations ≠ [])
    (shallow : ∀ i ∈ w.ledger.invocations, Json.storable 197 (.object i.arguments) = true) :
    ((∃ saved, saveLedger path s w = (.ok (), saved)) ↔ w.files.Writable (Path.ofText path)) ∧
    ∀ saved, saveLedger path s w = (.ok (), saved) →
      (∀ s', (loadLedger path s' saved).1 =
        if w.ledger.Short then .ok (some ⟨w.ledger.invocations⟩)
        else .error (.ledgerFormat (Path.ofText path).text (.invalid Ledger.notJson))) ∧
      ∀ s' document loaded, loadLedger path s' saved = (.ok (some document), loaded) →
        ∀ v copy, v.ledger.invocations = document.commands →
          v.files.Writable (Path.ofText copy) →
          ∃ again bytes, saveLedger copy s' v = (.ok (), again) ∧
            saved.files.read (Path.ofText path) = .ok bytes ∧
            again.files.read (Path.ofText copy) = .ok bytes := by
  refine ⟨saves_iff learned shallow, fun saved saves => ?_⟩
  have comes := loadLedger_eq (saveLedger_ok learned saves) shallow
  refine ⟨comes, fun s' document loaded loads v copy same writable => ?_⟩
  have same : v.ledger.invocations = w.ledger.invocations := by
    have found := comes s'
    rw [loads] at found
    split at found
    · cases found
      exact same
    · cases found
  obtain ⟨again, copies⟩ := (saves_iff (s := s') (same ▸ learned) (same ▸ shallow)).mpr writable
  have copied := read_saved (same ▸ learned) copies
  have document : v.ledger.document = w.ledger.document := congrArg Document.mk same
  rw [document] at copied
  exact ⟨again, _, copies, read_saved learned saves, copied⟩

end Act

end Acts

/-! ## Samples -/

namespace Sample

/-- What a session finds where nothing happens. -/
def surroundings : Surroundings where
  timeAt _ := "now"
  readingAt _ := 0
  confirmationAt _ := .usual
  interruptsEntry := false
  startedAt := "start"
  temporary := ⟨0, ["tmp"]⟩

/-- A look at what is there. -/
def look : Invocation :=
  ⟨"look", [], "done", "now"⟩

/-- A ledger with nothing else in it. -/
def ledger : Ledger :=
  { invocations := [look] }

theorem filled : ledger.invocations ≠ [] :=
  nofun

theorem storable : ∀ i ∈ ledger.invocations, i.Storable :=
  List.forall_mem_singleton.mpr
    ⟨by simp [look, Json.storable, Json.storableFields, Fields.names], by decide⟩

/-- Where there are no files, a file can be written under any name that is short enough. -/
theorem writable {name : String} (isName : Path.IsName name) (visible : '\x00' ∉ name.toList)
    (short : Files.exceeds Files.maxNameBytes name = false) :
    Files.empty.Writable (Path.ofText name) :=
  (Files.writable_name isName).mpr ⟨visible, short, by simp [Files.empty]⟩

theorem stores {name : String} (writable : Files.empty.Writable (Path.ofText name)) :
    ∃ files, ledger.store .empty name = .ok files :=
  Ledger.store_ok_iff.mpr ⟨rfl, writable⟩

theorem isName_look : Path.IsName "look" :=
  ⟨by decide, by decide, by decide, by decide⟩

theorem writable_look : Files.empty.Writable (Path.ofText "look") :=
  writable isName_look (by decide) (by decide)

/-- A search whose arguments are of every kind that is kept. -/
def search : Invocation :=
  ⟨"search",
    [("query", .text "say \"hi\"\n"), ("page", .int (-3)),
      ("flags", .list [.bool true, .null, .object []])],
    "found\tnothing", "now"⟩

/-- A world in which that search is all that was learned. -/
def searched : World :=
  { World.fresh with ledger := { invocations := [search] } }

theorem shallow_searched :
    ∀ i ∈ searched.ledger.invocations, Json.storable 197 (.object i.arguments) = true :=
  List.forall_mem_singleton.mpr
    (by simp [search, Json.storable, Json.storableFields, Json.storableItems, Fields.names])

theorem storable_number (n : Int) : Json.storable 197 (.object [("n", .int n)]) = true := by
  simp [Json.storable, Json.storableFields, Fields.names]

/-- A call with an integer of four thousand and three hundred and one digits. -/
def huge : Invocation :=
  ⟨"look", [("n", .int (.ofNat (Nat.pow 10 Decimal.maxIntegerDigits)))], "done", "now"⟩

/-- A world in which that call is all that was learned. -/
def overgrown : World :=
  { World.fresh with ledger := { invocations := [huge] } }

theorem shallow_overgrown :
    ∀ i ∈ overgrown.ledger.invocations, Json.storable 197 (.object i.arguments) = true :=
  List.forall_mem_singleton.mpr (storable_number _)

theorem longest_number (n : Nat) :
    Json.longestIntOfFields [("n", .int (.ofNat n))] = (Decimal.natDigits n).length := by
  rw [Json.longestIntOfFields, Json.longestIntOfFields, Nat.max_zero]
  rfl

theorem lt_length_natDigits_pow {digits : Nat} (positive : 0 < digits) :
    digits < (Decimal.natDigits (Nat.pow 10 digits)).length :=
  Nat.lt_of_not_le fun short =>
    Nat.lt_irrefl _ ((Nat.length_toDigits_le_iff (by decide) positive).mp short)

theorem long_huge : Decimal.maxIntegerDigits < Json.longestIntOfFields huge.arguments := by
  rw [huge, longest_number]
  exact lt_length_natDigits_pow (by decide)

end Sample

namespace Act

/-- A search is saved and loaded again, and saved once more with the same bytes. -/
theorem saved_search_comes_back :
    ∃ saved again bytes,
      saveLedger "look" Sample.surroundings Sample.searched = (.ok (), saved) ∧
      (loadLedger "look" Sample.surroundings saved).1 = .ok (some ⟨[Sample.search]⟩) ∧
      saveLedger "look" Sample.surroundings Sample.searched = (.ok (), again) ∧
      saved.files.read (Path.ofText "look") = .ok bytes ∧
      again.files.read (Path.ofText "look") = .ok bytes := by
  obtain ⟨saves, comes⟩ := @saved_ledger_comes_back "look" Sample.surroundings Sample.searched
    (List.cons_ne_nil _ _) Sample.shallow_searched
  obtain ⟨saved, run⟩ := saves.mpr Sample.writable_look
  obtain ⟨loads, copies⟩ := comes saved run
  have loaded : (loadLedger "look" Sample.surroundings saved).1 = .ok (some ⟨[Sample.search]⟩) :=
    loads Sample.surroundings
  obtain ⟨again, bytes, copied, first, second⟩ := copies Sample.surroundings ⟨[Sample.search]⟩ _
    (Prod.ext loaded rfl) Sample.searched "look" rfl Sample.writable_look
  exact ⟨saved, again, bytes, run, loaded, copied, first, second⟩

/-- **An integer that is too long is saved, but the file is refused when it is loaded.** -/
theorem huge_ledger_refused :
    Sample.overgrown.ledger.invocations ≠ [] ∧
      (∀ i ∈ Sample.overgrown.ledger.invocations,
        Json.storable 197 (.object i.arguments) = true) ∧
      ∃ saved, saveLedger "look" Sample.surroundings Sample.overgrown = (.ok (), saved) ∧
        (loadLedger "look" Sample.surroundings saved).1 =
          .error (.ledgerFormat "look" (.invalid Ledger.notJson)) := by
  have learned : Sample.overgrown.ledger.invocations ≠ [] := List.cons_ne_nil _ _
  obtain ⟨saved, run⟩ := (saves_iff (s := Sample.surroundings) learned
    Sample.shallow_overgrown).mpr Sample.writable_look
  refine ⟨learned, Sample.shallow_overgrown, saved, run, ?_⟩
  rw [loadLedger_tooLong (saveLedger_ok learned run) Sample.shallow_overgrown
    fun short => Nat.not_le.mpr Sample.long_huge (short Sample.huge (List.mem_singleton.mpr rfl))]
  rfl

end Act

end WebPilot
