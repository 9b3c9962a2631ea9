import WebPilot.Program.Basic
import WebPilot.Proofs.Ledger.Recording

/-!
# What damaged files do to the final save

A session that ends with an empty ledger recovers it from the crash directory before it is saved.
**If the directory is sound, damaged files are passed over, and the save succeeds wherever a file
can be written; if it is not, recovery and save fail** (`Program.final_save_recovers`).  Every
numbered file is read in its turn, and what holds a call is recovered.

A file whose bytes are no text makes a directory unsound, whatever else is in it
(`Program.undecodable_file_blocks_save`).
-/

namespace WebPilot

set_option autoImplicit false

open Ledger

namespace Program

variable {directory : Path} {place : List String} {w : World}

theorem saveLearned_empty (empty : w.ledger.invocations = []) (path : String)
    (s : Surroundings) :
    saveLearned path s w =
      (Act.recover >>= fun count => Act.when_ (count ≠ 0) (Act.saveLedger path)) s w := by
  have isEmpty : w.ledger.isEmpty = true := by simp [Ledger.isEmpty, empty]
  simp only [saveLearned, Act.bind_apply, Act.see, isEmpty, if_true]

/-- Neither the recovery of an empty ledger nor its saving comes to its end. -/
structure Blocked (s : Surroundings) (w : World) (failure : Failure) : Prop where
  recovery : (Act.recover s w).1 = .error failure
  saving (path : String) : (Act.saveLedger path s w).1 = .error failure
  final (path : String) : (saveLearned path s w).1 = .error failure

/-- What was found is saved at a path; a session that has found nothing leaves the file alone. -/
structure SavesFound (path : String) (s : Surroundings) (w : World) (found : List Invocation)
    (taken : Nat) (saved : World) : Prop where
  saves : Act.saveLedger path s w = (.ok (), saved)
  document : saved.files.read (Path.ofText path) = .ok (fileBytes (Document.toJson ⟨found⟩))
  final : saveLearned path s w =
    if found = [] then (.ok (), w.recovered [] taken) else (.ok (), saved)

/-- An empty ledger is recovered from the files with these names, which hold these calls, and can be
saved then. -/
structure RecoversFrom (directory : Path) (place : List String) (s : Surroundings) (w : World)
    (names : List String) (held : List (Option Invocation)) (taken : Nat) : Prop where
  all : names.Perm (callNames w.files place)
  sorted : names.Pairwise fun a b => number a ≤ number b
  holds : Held w.files directory (Act.timesFrom s w) names held
  recovery : Act.recover s w =
    (.ok (firsts held.reduceOption).length, w.recovered (firsts held.reduceOption) taken)
  saving (path : String) (writable : w.files.Writable (Path.ofText path)) :
    ∃ saved, SavesFound path s w (firsts held.reduceOption) taken saved

/-- What the final save of an empty ledger over a crash directory comes to. -/
structure FinalSave (directory : Path) (place : List String) (s : Surroundings) (w : World) :
    Prop where
  /-- From a sound directory all calls are recovered, in the order of their numbers, of those with
  the same time and tool the first one; a ledger is then saved wherever a file can be written. -/
  sound : Sound w.files directory place → ∃ names held taken,
    RecoversFrom directory place s w names held taken
  /-- Every numbered file is one of those that are read. -/
  read : ∀ name entry value, (name, entry) ∈ w.files.inside place → Numbered name value →
    name ∈ callNames w.files place ∧ (HasNumber name → number name = value)
  /-- From another directory neither recovery nor saving comes to its end. -/
  unsound : ¬ Sound w.files directory place → ∃ failure, Blocked s w failure

/-- Where the crash directory is not sound neither recovery nor saving comes to its end. -/
theorem final_save_fails (kept : w.ledger.KeptAt w.files directory place)
    (empty : w.ledger.invocations = []) (unsound : ¬ Sound w.files directory place)
    (s : Surroundings) : ∃ failure, Blocked s w failure := by
  obtain ⟨failure, stops⟩ := recovery_unsound kept empty unsound (Act.timesFrom s w)
  have fails := Act.recover_error stops
  rcases run : Act.recover s w with ⟨outcome, v⟩
  rw [run] at fails
  cases fails
  refine ⟨failure, congrArg Prod.fst run, fun path => ?_, fun path => ?_⟩
  · rw [Act.saveLedger_empty empty, Act.bind_apply, run]
  · rw [saveLearned_empty empty, Act.bind_apply, run]

/-- What was recovered is saved wherever a file can be written. -/
theorem saves_recovered (empty : w.ledger.invocations = []) {s : Surroundings}
    {found : List Invocation} {taken : Nat} (canWrite : ∀ i ∈ found, i.canWrite = true)
    (recovers : Act.recover s w = (.ok found.length, w.recovered found taken)) {path : String}
    (writable : w.files.Writable (Path.ofText path)) :
    ∃ saved, SavesFound path s w found taken saved := by
  have canWrite : ∀ i ∈ (w.recovered found taken).ledger.invocations, i.canWrite = true := canWrite
  obtain ⟨saved, stores, document⟩ := Act.storeLedger_writable (w := w.recovered found taken)
    canWrite writable s
  refine ⟨saved, ?_, document, ?_⟩
  · rw [Act.saveLedger_empty empty, Act.bind_of_ok recovers]
    exact stores
  · rw [saveLearned_empty empty, Act.bind_of_ok recovers]
    by_cases nothing : found = []
    · rw [if_pos nothing, nothing]
      rfl
    · have count : found.length ≠ 0 := by simpa using nothing
      rw [if_neg nothing, decide_eq_true count, Act.when_, if_pos rfl,
        Act.saveLedger_filled nothing]
      exact stores

/-- **The final save of an empty ledger depends on what is in the crash directory.** -/
theorem final_save_recovers (kept : w.ledger.KeptAt w.files directory place)
    (empty : w.ledger.invocations = []) (s : Surroundings) : FinalSave directory place s w where
  sound sound := by
    obtain ⟨names, held, taken, perm, sorted, all, recovery⟩ :=
      recovery_sound kept empty sound (Act.timesFrom s w)
    have recovers := Act.recover_ok empty recovery
    exact ⟨names, held, taken, perm, sorted, all, recovers, fun path writable =>
      saves_recovered empty
        (fun i member => canWrite_of_held all i ((firsts_sublist _).subset member)) recovers
        writable⟩
  read name entry value inside numbered := by
    have listed : name ∈ (w.files.inside place).map (·.1) := List.mem_map_of_mem inside
    exact ⟨List.mem_filter.mpr ⟨listed, numbered.isCallFile⟩, numbered.number_eq⟩
  unsound unsound := final_save_fails kept empty unsound s

end Program

/-! ## Samples -/

namespace Sample

/-- A world with an empty ledger and one file in its crash directory. -/
def crashed (name : String) (bytes : List UInt8) : World :=
  { World.fresh with
    files := ⟨[(["crashes"], .directory), (["crashes", name], .file bytes)]⟩
    ledger := { crashDirectory := some crashes } }

theorem kept_crashed (name : String) (bytes : List UInt8) :
    (crashed name bytes).ledger.KeptAt (crashed name bytes).files crashes ["crashes"] :=
  ⟨rfl, rfl, rfl⟩

theorem callNames_crashed {name : String} (isCall : isCallFile name = true)
    (bytes : List UInt8) : callNames (crashed name bytes).files ["crashes"] = [name] := by
  simp [callNames, crashed, Files.inside, isCall]

/-- The name of a file that could be that of a call. -/
def damagedName : String := "1-a.json"

theorem numbered_damagedName : Numbered damagedName 1 :=
  ⟨['1'], "a", List.cons_ne_nil _ _, List.forall_mem_singleton.mpr rfl, rfl, rfl⟩

/-- A name of the file of a look. -/
def lookName : String := "2-look.json"

theorem numbered_lookName : Numbered lookName 2 :=
  ⟨['2'], "look", List.cons_ne_nil _ _, List.forall_mem_singleton.mpr rfl, rfl, rfl⟩

/-- A world with an empty ledger, and with a damaged file and one of a look in its crash directory. -/
def damaged : World :=
  { World.fresh with
    files := ⟨[(["crashes"], .directory), (["crashes", damagedName], .file [0x7b]),
      (["crashes", lookName], .file (fileBytes look.toJson))]⟩
    ledger := { crashDirectory := some crashes } }

theorem kept_damaged : damaged.ledger.KeptAt damaged.files crashes ["crashes"] :=
  ⟨rfl, rfl, rfl⟩

theorem callNames_damaged : callNames damaged.files ["crashes"] = [damagedName, lookName] := by
  simp [callNames, damaged, Files.inside, numbered_damagedName.isCallFile,
    numbered_lookName.isCallFile]

theorem number_damagedName : number damagedName = 1 :=
  numbered_damagedName.number_eq (numbered_damagedName.hasNumber (by decide))

theorem number_lookName : number lookName = 2 :=
  numbered_lookName.number_eq (numbered_lookName.hasNumber (by decide))

theorem shallow_look : look.Shallow :=
  shallow_looks look List.mem_cons_self

theorem read_look :
    damaged.files.read (crashes.child lookName) = .ok (fileBytes look.toJson) :=
  rfl

theorem read_damaged : damaged.files.read (crashes.child damagedName) = .ok [0x7b] :=
  rfl

/-- The damaged file is no JSON. -/
theorem callIn?_damaged (now : String) :
    callIn? damaged.files crashes now damagedName = none := by
  have decoded : Files.textOf [0x7b] = .ok "\x7b" := rfl
  have unread : Json.readRecord? "\x7b" = none := by decide +kernel
  simp only [callIn?, valueIn?, read_damaged, decoded, unread]

theorem callIn?_look (now : String) : callIn? damaged.files crashes now lookName = some look := by
  rw [callIn?_call read_look shallow_look, if_pos (legible_looks look List.mem_cons_self)]

theorem sound_damaged : Sound damaged.files crashes ["crashes"] where
  numbers := by
    rw [callNames_damaged]
    simp only [List.forall_mem_cons]
    exact ⟨numbered_damagedName.hasNumber (by decide), numbered_lookName.hasNumber (by decide),
      List.forall_mem_nil _⟩
  texts := by
    rw [callNames_damaged]
    simp only [List.forall_mem_cons]
    refine ⟨fun bytes read => ?_, decodable_call read_look shallow_look, List.forall_mem_nil _⟩
    cases read_damaged.symm.trans read
    exact ⟨"\x7b", rfl⟩

/-- The files are read in the order of their numbers. -/
theorem names_damaged {names : List String} (all : names.Perm (callNames damaged.files ["crashes"]))
    (sorted : names.Pairwise fun a b => number a ≤ number b) : names = [damagedName, lookName] := by
  rw [callNames_damaged] at all
  have ordered : [damagedName, lookName].Pairwise fun a b => number a ≤ number b := by
    refine List.pairwise_pair.mpr ?_
    rw [number_damagedName, number_lookName]
    decide
  refine all.eq_of_pairwise (fun a b here there less more => ?_) sorted ordered
  have apart : ¬ number lookName ≤ number damagedName := by
    rw [number_damagedName, number_lookName]
    decide
  have here := all.mem_iff.mp here
  simp only [List.mem_cons, List.not_mem_nil, or_false] at here there
  rcases here with here | here <;> rcases there with there | there <;> subst here there
  · rfl
  · exact absurd more apart
  · exact absurd less apart
  · rfl

/-- They hold one look. -/
theorem found_damaged {timeAt : Nat → String} {held : List (Option Invocation)}
    (holds : Held damaged.files crashes timeAt [damagedName, lookName] held) :
    firsts held.reduceOption = [look] := by
  obtain ⟨first, rest, ⟨_, one⟩, others, rfl⟩ := List.forall₂_cons_left_iff.mp holds
  obtain ⟨second, last, ⟨_, two⟩, nothing, rfl⟩ := List.forall₂_cons_left_iff.mp others
  rw [callIn?_damaged] at one
  rw [callIn?_look] at two
  rw [one, two, List.forall₂_nil_left_iff.mp nothing]
  exact firsts_eq_self (List.nodup_singleton _)

theorem writable_damaged : damaged.files.Writable (Path.ofText "look") :=
  (Files.writable_name isName_look).mpr ⟨by decide, by decide, by decide⟩

/-- The first half of a character of two bytes. -/
def halfCharacter : List UInt8 := [0xc3]

theorem unsound_crashed :
    ¬ Sound (crashed damagedName halfCharacter).files crashes ["crashes"] := by
  intro sound
  have listed : damagedName ∈ callNames (crashed damagedName halfCharacter).files ["crashes"] := by
    rw [callNames_crashed numbered_damagedName.isCallFile]
    exact List.mem_singleton.mpr rfl
  obtain ⟨text, decoded⟩ := sound.texts damagedName listed halfCharacter rfl
  cases decoded

end Sample

namespace Program

/-- **A file that is no JSON is passed over**, and the look in the file after it is recovered and
saved. -/
theorem final_save_passes_over :
    Sound Sample.damaged.files Sample.crashes ["crashes"] ∧ ∃ taken saved,
      Act.recover Sample.surroundings Sample.damaged =
        (.ok 1, Sample.damaged.recovered [Sample.look] taken) ∧
      SavesFound "look" Sample.surroundings Sample.damaged [Sample.look] taken saved := by
  obtain ⟨names, held, taken, recovers⟩ :=
    (final_save_recovers Sample.kept_damaged rfl Sample.surroundings).sound Sample.sound_damaged
  have found : firsts held.reduceOption = [Sample.look] := by
    have holds := recovers.holds
    rw [Sample.names_damaged recovers.all recovers.sorted] at holds
    exact Sample.found_damaged holds
  have recovery := recovers.recovery
  obtain ⟨saved, saving⟩ := recovers.saving "look" Sample.writable_damaged
  rw [found] at recovery saving
  exact ⟨Sample.sound_damaged, taken, saved, recovery, saving⟩

/-- **A file that was cut inside a character blocks recovery and save.** -/
theorem undecodable_file_blocks_save :
    (Sample.crashed Sample.damagedName Sample.halfCharacter).ledger.KeptAt
        (Sample.crashed Sample.damagedName Sample.halfCharacter).files Sample.crashes
        ["crashes"] ∧
      (Sample.crashed Sample.damagedName Sample.halfCharacter).ledger.invocations = [] ∧
      ∃ failure, Blocked Sample.surroundings
        (Sample.crashed Sample.damagedName Sample.halfCharacter) failure := by
  have kept := Sample.kept_crashed Sample.damagedName Sample.halfCharacter
  exact ⟨kept, rfl, final_save_fails kept rfl Sample.unsound_crashed Sample.surroundings⟩

end Program

end WebPilot
