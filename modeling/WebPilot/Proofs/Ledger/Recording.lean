import WebPilot.Proofs.Files.Directory
import WebPilot.Proofs.Ledger.CrashDirectory
import WebPilot.Proofs.Session.Growth

/-!
# Recorded calls are recovered from their files

A ledger with a crash directory files every call under a number that is larger than any before,
whatever its clock reads.  So the files of a run of recordings (`Ledger.Records`), all written,
stand in the directory in the order of recording, one for each call
(`Ledger.Records.archive_of_clear`), and their numbers have the same order.

Each file holds its call, unless an integer in the call is too long to be read
(`Ledger.callIn?_call`).  **So an empty ledger over the directory recovers the legible calls in the
order of recording, of those with the same time and tool the first one**
(`Ledger.recorded_calls_come_back`), and **exactly what was recorded, if all calls are legible and
differ in time or tool** (`Ledger.crash_loses_repetitions_alone`).
-/

namespace WebPilot

set_option autoImplicit false

namespace Invocation

/-- The arguments are what the file of a call can keep: they lie inside one container of its own. -/
def Shallow (i : Invocation) : Prop :=
  Json.storable 199 (.object i.arguments) = true

/-- No integer in the arguments is too long to be read. -/
def Legible (i : Invocation) : Prop :=
  Json.longestIntOfFields i.arguments ≤ Decimal.maxIntegerDigits

instance (i : Invocation) : Decidable i.Legible :=
  inferInstanceAs (Decidable (_ ≤ _))

variable {i : Invocation}

theorem Shallow.storable (shallow : i.Shallow) : Json.storable 200 i.toJson = true := by
  have arguments : Json.storable 199 (.object i.arguments) = true := shallow
  simp only [toJson, Json.storable, Json.storableFields] at arguments ⊢
  simp only [arguments, Bool.and_true]
  simp [Fields.names]

theorem longestInt_toJson (i : Invocation) :
    Json.longestInt i.toJson = Json.longestIntOfFields i.arguments := by
  simp [toJson, Json.longestInt, Json.longestIntOfFields]

end Invocation

namespace Ledger

variable {files files' : Files} {directory : Path} {place : List String}

/-! ## The file of one call -/

section OneFile

variable {name : String} {i : Invocation}
  (read : files.read (directory.child name) = .ok (fileBytes i.toJson)) (shallow : i.Shallow)

include shallow

/-- The text of the file of a call is a record of it, if the call is legible. -/
theorem readRecord?_call :
    Json.readRecord? (Json.write .file i.toJson) = if i.Legible then some i.toJson else none := by
  unfold Json.readRecord? Json.write
  rw [String.toList_ofList]
  split
  · rename_i legible
    rw [Json.readAll_writeAt shallow.storable (i.longestInt_toJson ▸ legible)]
    rfl
  · rename_i long
    obtain ⟨fault, stops⟩ := Json.readAll_tooLong shallow.storable
      (i.longestInt_toJson ▸ Nat.lt_of_not_le long)
    rw [stops]
    rfl

include read

/-- The file of a call can be decoded. -/
theorem decodable_call : Decodable files directory name := by
  intro bytes again
  rw [← Except.ok.inj (read.symm.trans again)]
  exact ⟨_, Files.textOf_fileBytes shallow.storable⟩

theorem valueIn?_call :
    valueIn? files directory name = if i.Legible then some i.toJson else none := by
  rw [← readRecord?_call shallow]
  simp only [valueIn?, read, Files.textOf_fileBytes shallow.storable]

/-- **The file of a call holds the call, if it is legible.** -/
theorem callIn?_call (now : String) :
    callIn? files directory now name = if i.Legible then some i else none := by
  rw [callIn?, valueIn?_call read shallow]
  by_cases legible : i.Legible
  · simp only [if_pos legible, i.check_toJson]
  · simp only [if_neg legible]

/-- It says when the call was recorded. -/
theorem timesIn_call : timesIn files directory name = 0 := by
  rw [timesIn, valueIn?_call read shallow]
  by_cases legible : i.Legible
  · simp only [if_pos legible, i.timesTaken_toJson]
  · simp only [if_neg legible]

end OneFile

/-! ## The files of a run -/

/-- The entry of a call in its directory, under its number. -/
def entryOf (filed : Int × Invocation) : String × Entry :=
  (fileName filed.1 filed.2.tool, .file (fileBytes filed.2.toJson))

/-- The directory is there and has the files of these calls, each under its number, in this order,
and nothing else; each can be read, and the numbers grow. -/
structure Archive (files : Files) (directory : Path) (place : List String)
    (filed : List (Int × Invocation)) : Prop where
  leads : files.resolve directory = .ok place
  there : files.at? place = some .directory
  listed : files.inside place = filed.map entryOf
  readable : ∀ f ∈ filed,
    files.read (directory.child (fileName f.1 f.2.tool)) = .ok (fileBytes f.2.toJson)
  numbers : ∀ f ∈ filed, 0 ≤ f.1 ∧ HasNumber (fileName f.1 f.2.tool)
  increasing : (filed.map Prod.fst).Pairwise (· < ·)

namespace Archive

variable {filed : List (Int × Invocation)} (archive : Archive files directory place filed)

include archive

/-- **A call that is filed under a larger number is added at the end.** -/
theorem add {n : Int} {i : Invocation} (natural : 0 ≤ n) (larger : ∀ f ∈ filed, f.1 < n)
    (written : files.write (directory.child (fileName n i.tool)) (fileBytes i.toJson) =
      .ok files') : Archive files' directory place (filed ++ [(n, i)]) := by
  have other : ∀ f ∈ filed, fileName f.1 f.2.tool ≠ fileName n i.tool := by
    intro f member same
    have numbers := fileName_injective (archive.numbers f member).1 natural same
    have less := larger f member
    omega
  have fresh : fileName n i.tool ∉ (files.inside place).map Prod.fst := by
    rw [archive.listed, List.map_map]
    intro member
    obtain ⟨f, earlier, same⟩ := List.mem_map.mp member
    exact other f earlier same
  obtain ⟨short, leads, there, listed, undisturbed⟩ := Files.write_child archive.leads archive.there
    (fileName_ne_up n i.tool) fresh written
  refine ⟨leads, there, ?_, ?_, ?_, ?_⟩
  · rw [listed, archive.listed, List.map_append]
    rfl
  · intro f member
    rcases List.mem_append.mp member with earlier | last
    · exact undisturbed _ _ (fileName_ne_up _ _) (other f earlier) (archive.readable f earlier)
    · rw [List.mem_singleton.mp last]
      exact (Files.read_write written).2
  · intro f member
    rcases List.mem_append.mp member with earlier | last
    · exact archive.numbers f earlier
    · rw [List.mem_singleton.mp last]
      exact ⟨natural, (numbered_fileName natural i.tool).hasNumber short⟩
  · rw [List.map_append, List.pairwise_append]
    refine ⟨archive.increasing, List.pairwise_singleton _ _, fun m earlier last same => ?_⟩
    obtain ⟨f, member, rfl⟩ := List.mem_map.mp earlier
    rw [List.mem_singleton.mp same]
    exact larger f member

/-- The files of an archive are files of calls. -/
theorem callNames_eq :
    callNames files place = filed.map fun f => fileName f.1 f.2.tool := by
  rw [callNames, archive.listed, List.map_map, List.filter_eq_self.mpr]
  · rfl
  · intro name member
    obtain ⟨f, listed, rfl⟩ := List.mem_map.mp member
    exact (numbered_fileName (archive.numbers f listed).1 f.2.tool).isCallFile

/-- The files of an archive are read in their order. -/
theorem callFiles_eq :
    callFiles files place = .ok (filed.map fun f => fileName f.1 f.2.tool) := by
  have numbers : ∀ name ∈ callNames files place, HasNumber name := by
    rw [archive.callNames_eq]
    intro name member
    obtain ⟨f, listed, rfl⟩ := List.mem_map.mp member
    exact (archive.numbers f listed).2
  have sorted : (callNames files place).Pairwise fun a b => number a ≤ number b := by
    have increasing := List.pairwise_map.mp archive.increasing
    rw [archive.callNames_eq, List.pairwise_map]
    refine increasing.imp_of_mem fun {a b} first second less => ?_
    obtain ⟨natural, hasNumber⟩ := archive.numbers a first
    obtain ⟨natural', hasNumber'⟩ := archive.numbers b second
    rw [number_fileName natural hasNumber, number_fileName natural' hasNumber']
    omega
  rw [callFiles_of_sorted numbers sorted, archive.callNames_eq]

end Archive

/-- Calls in readable files are recovered one by one. -/
theorem recoverFrom_calls {filed : List (Int × Invocation)}
    (readable : ∀ f ∈ filed,
      files.read (directory.child (fileName f.1 f.2.tool)) = .ok (fileBytes f.2.toJson))
    (shallow : ∀ f ∈ filed, f.2.Shallow) (timeAt : Nat → String) (taken : Nat)
    (found : List Invocation) :
    recoverFrom files directory timeAt taken found
        (filed.map fun f => fileName f.1 f.2.tool) =
      ⟨joined found ((filed.map Prod.snd).filter Invocation.Legible), taken, none⟩ := by
  induction filed generalizing found with
  | nil => rw [List.map_nil, recoverFrom, List.map_nil, List.filter_nil, joined_done]
  | cons f filed ih =>
      obtain ⟨read, reads⟩ := List.forall_mem_cons.mp readable
      obtain ⟨first, others⟩ := List.forall_mem_cons.mp shallow
      have calls : (if f.2.Legible then some f.2 else none).toList ++
          (filed.map Prod.snd).filter Invocation.Legible =
          ((f :: filed).map Prod.snd).filter Invocation.Legible := by
        by_cases legible : f.2.Legible <;> simp [legible]
      rw [List.map_cons, recoverFrom_cons (decodable_call read first), timesIn_call read first,
        callIn?_call read first, Nat.add_zero, ih reads others, joined_withCall, calls]

/-- **An archive is recovered in its order**, of the calls with the same time and tool the first
one, and no time is taken. -/
theorem Archive.recovery {filed : List (Int × Invocation)}
    (archive : Archive files directory place filed) (shallow : ∀ f ∈ filed, f.2.Shallow)
    {ledger : Ledger} (kept : ledger.crashDirectory = some directory)
    (empty : ledger.invocations = []) (timeAt : Nat → String) :
    ledger.recovery files timeAt =
      ⟨firsts ((filed.map Prod.snd).filter Invocation.Legible), 0, none⟩ := by
  rw [recovery_eq ⟨kept, archive.leads, archive.there⟩ empty, archive.callFiles_eq]
  simp only
  rw [recoverFrom_calls archive.readable shallow, joined_nil]

/-! ## Runs of recordings -/

/-- The file of the call was written when it was recorded. -/
def Written (i : Invocation) (s : Surroundings) (w w' : World) : Prop :=
  ∃ directory, w.ledger.crashDirectory = some directory ∧
    w.files.write
      (directory.child (fileName (w.ledger.nextNumber (s.readingAt w.readingsTaken)) i.tool))
      (fileBytes i.toJson) = .ok w'.files

/-- A run in which these calls are recorded, one after the other, and the file of each is written.
In between files and ledger are left alone. -/
inductive Records (s : Surroundings) : World → List Invocation → World → Prop
  | done {w w' : World} (same : Same World.kept w w') : Records s w [] w'
  | call {w u v w' : World} {i : Invocation} {calls : List Invocation}
      (same : Same World.kept w u) (recorded : Act.record i s u = (.ok (), v))
      (written : Written i s u v) (later : Records s v calls w') : Records s w (i :: calls) w'

/-- A recorded call takes the next number. -/
theorem record_ledger {ledger : Ledger} {directory : Path} (reading : Int) (files : Files)
    (i : Invocation) (kept : ledger.crashDirectory = some directory) :
    (ledger.record reading files i).ledger =
      { ledger.append i with lastNumber := ledger.nextNumber reading } := by
  unfold record
  simp only [append, kept]
  split <;> rfl

/-- The file of a recorded call is written under its number, unless the call nests too deep or the
system refuses the file. -/
theorem record_written {ledger : Ledger} {directory : Path} (reading : Int) (files : Files)
    (i : Invocation) (kept : ledger.crashDirectory = some directory) :
    let path := directory.child (fileName (ledger.nextNumber reading) i.tool)
    (i.canWrite = true ∧
        files.write path (fileBytes i.toJson) = .ok (ledger.record reading files i).files) ∨
      ((ledger.record reading files i).files = files ∧
        (i.canWrite = true → ¬ files.Writable path)) := by
  intro path
  have same : (ledger.append i).nextNumber reading = ledger.nextNumber reading := rfl
  have kept' : (ledger.append i).crashDirectory = some directory := kept
  cases fits : i.canWrite with
  | false => simp [record, kept', writeCall, fits]
  | true =>
      cases written : files.write path (fileBytes i.toJson) with
      | ok files' => simp [record, kept', same, writeCall, fits, path, written]
      | error fault =>
          have refused : ¬ files.Writable path := fun writable => by
            obtain ⟨_, succeeds⟩ := writable.write (fileBytes i.toJson)
            cases written.symm.trans succeeds
          refine .inr ⟨?_, fun _ => refused⟩
          cases system : fault.isSystem <;>
            simp [record, kept', same, writeCall, fits, path, written, system]

/-- The ledger and the files after a call was recorded. -/
theorem record_world (i : Invocation) (s : Surroundings) (w : World) :
    (Act.record i s w).2.ledger =
        (w.ledger.record (s.readingAt w.readingsTaken) w.files i).ledger ∧
      (Act.record i s w).2.files =
        (w.ledger.record (s.readingAt w.readingsTaken) w.files i).files := by
  simp only [Act.record]
  split <;> exact ⟨rfl, rfl⟩

/-- A recording keeps the crash directory and remembers the number of its file. -/
theorem record_numbers {i : Invocation} {s : Surroundings} {w w' : World} {directory : Path}
    (kept : w.ledger.crashDirectory = some directory)
    (recorded : Act.record i s w = (.ok (), w')) :
    w'.ledger.crashDirectory = some directory ∧
      w'.ledger.lastNumber = w.ledger.nextNumber (s.readingAt w.readingsTaken) := by
  have ledger := (record_world i s w).1
  rw [recorded, record_ledger _ _ _ kept] at ledger
  rw [ledger]
  exact ⟨kept, rfl⟩

namespace Records

variable {s : Surroundings} {w w' : World} {calls : List Invocation}

/-- **Each recording adds one file to the archive, under a number of its own.** -/
theorem archive (records : Records s w calls w') {filed : List (Int × Invocation)}
    (kept : w.ledger.crashDirectory = some directory)
    (archive : Archive w.files directory place filed) (natural : 0 ≤ w.ledger.lastNumber)
    (bounded : ∀ f ∈ filed, f.1 ≤ w.ledger.lastNumber) :
    ∃ more, more.map Prod.snd = calls ∧ Archive w'.files directory place (filed ++ more) := by
  induction records generalizing filed with
  | @done w w' same =>
      have files : w'.files = w.files := same.map Prod.fst
      rw [← files] at archive
      exact ⟨[], rfl, by rwa [List.append_nil]⟩
  | @call w u v w' i calls same recorded written later ih =>
      have ledger : u.ledger = w.ledger := same.map Prod.snd
      have files : u.files = w.files := same.map Prod.fst
      rw [← ledger] at kept natural bounded
      rw [← files] at archive
      obtain ⟨kept', last⟩ := record_numbers kept recorded
      obtain ⟨directory', kept'', write⟩ := written
      obtain rfl : directory = directory' := Option.some.inj (kept.symm.trans kept'')
      rw [← last] at write
      have grows : u.ledger.lastNumber < v.ledger.lastNumber := by
        rw [last, nextNumber]
        omega
      have larger : ∀ f ∈ filed, f.1 < v.ledger.lastNumber := fun f member =>
        Int.lt_of_le_of_lt (bounded f member) grows
      have added := archive.add (Int.le_trans natural (Int.le_of_lt grows)) larger write
      obtain ⟨more, same, whole⟩ := ih kept' added (by omega) fun f member => by
        rcases List.mem_append.mp member with earlier | here
        · exact Int.le_of_lt (larger f earlier)
        · exact Int.le_of_eq (congrArg Prod.fst (List.mem_singleton.mp here))
      refine ⟨(v.ledger.lastNumber, i) :: more, by rw [List.map_cons, same], ?_⟩
      rw [List.append_cons]
      exact whole

/-- After a run of recordings into an empty directory the directory is an archive of the calls. -/
theorem archive_of_clear (records : Records s w calls w')
    (kept : w.ledger.KeptAt w.files directory place) (clear : w.files.inside place = [])
    (natural : 0 ≤ w.ledger.lastNumber) :
    ∃ filed : List (Int × Invocation), filed.map Prod.snd = calls ∧
      Archive w'.files directory place filed := by
  have empty : Archive w.files directory place [] :=
    ⟨kept.leads, kept.there, clear, by simp, by simp, .nil⟩
  obtain ⟨filed, same, archive⟩ := records.archive kept.kept empty natural (by simp)
  exact ⟨filed, same, archive⟩

/-- What an empty ledger recovers after a run of recordings into an empty directory. -/
theorem recovers (records : Records s w calls w')
    (kept : w.ledger.KeptAt w.files directory place) (clear : w.files.inside place = [])
    (natural : 0 ≤ w.ledger.lastNumber) (shallow : ∀ i ∈ calls, i.Shallow)
    (s' : Surroundings) {v : World} (files : v.files = w'.files)
    (kept' : v.ledger.crashDirectory = some directory) (empty : v.ledger.invocations = []) :
    Act.recover s' v = (.ok (firsts (calls.filter Invocation.Legible)).length,
      v.recovered (firsts (calls.filter Invocation.Legible)) 0) := by
  obtain ⟨filed, rfl, archive⟩ := records.archive_of_clear kept clear natural
  rw [← files] at archive
  refine Act.recover_ok empty (archive.recovery (fun f member => ?_) kept' empty _)
  exact shallow f.2 (List.mem_map_of_mem member)

end Records

/-! ## Recovering what was recorded -/

section Recovered

variable {s : Surroundings} {w w' : World} {calls : List Invocation}

/-- **Recorded calls come back.**  After a run of recordings into an empty crash directory the
directory has one file for each call, in the order of recording.  An empty ledger over the directory
recovers the legible calls in that order, of those with the same time and tool the first one, with
all that they were recorded with; and it recovers nothing more when it is recovered again. -/
theorem recorded_calls_come_back (kept : w.ledger.KeptAt w.files directory place)
    (clear : w.files.inside place = []) (natural : 0 ≤ w.ledger.lastNumber)
    (shallow : ∀ i ∈ calls, i.Shallow) (records : Records s w calls w') :
    (∃ filed : List (Int × Invocation), filed.map Prod.snd = calls ∧
      (filed.map Prod.fst).Pairwise (· < ·) ∧
      w'.files.inside place = filed.map entryOf) ∧
    ∀ s' v, v.files = w'.files → v.ledger.crashDirectory = some directory →
      v.ledger.invocations = [] →
      Act.recover s' v = (.ok (firsts (calls.filter Invocation.Legible)).length,
        v.recovered (firsts (calls.filter Invocation.Legible)) 0) ∧
      ∀ s'', Act.recover s'' (v.recovered (firsts (calls.filter Invocation.Legible)) 0) =
        (.ok 0, v.recovered (firsts (calls.filter Invocation.Legible)) 0) := by
  constructor
  · obtain ⟨filed, same, archive⟩ := records.archive_of_clear kept clear natural
    exact ⟨filed, same, archive.increasing, archive.listed⟩
  · intro s' v files kept' empty
    refine ⟨records.recovers kept clear natural shallow s' files kept' empty, fun s'' => ?_⟩
    by_cases nothing : firsts (calls.filter Invocation.Legible) = []
    · have again := records.recovers (v := v.recovered [] 0) kept clear natural shallow s''
        files kept' rfl
      rw [nothing] at again ⊢
      exact again
    · exact Act.recover_filled nothing s''

/-- **A crash loses repetitions alone.**  After a run of recordings into an empty crash directory an
empty ledger over it recovers calls of the run in the order of recording, no two with the same time
and tool, and for each legible call one with its time and tool; and it recovers exactly what was
recorded if and only if all calls are legible and differ in time or tool. -/
theorem crash_loses_repetitions_alone (kept : w.ledger.KeptAt w.files directory place)
    (clear : w.files.inside place = []) (natural : 0 ≤ w.ledger.lastNumber)
    (shallow : ∀ i ∈ calls, i.Shallow) (records : Records s w calls w') :
    ∃ found, (∀ s' v, v.files = w'.files → v.ledger.crashDirectory = some directory →
        v.ledger.invocations = [] →
        Act.recover s' v = (.ok found.length, v.recovered found 0)) ∧
      found.Sublist calls ∧ (found.map Invocation.key).Nodup ∧
      (∀ i ∈ calls, i.Legible → ∃ j ∈ found, j.key = i.key) ∧
      (found = calls ↔ (calls.map Invocation.key).Nodup ∧ ∀ i ∈ calls, i.Legible) := by
  refine ⟨firsts (calls.filter Invocation.Legible),
    fun s' v files kept' empty => records.recovers kept clear natural shallow s' files kept' empty,
    (firsts_sublist _).trans List.filter_sublist, nodup_firsts _,
    fun i member legible => exists_firsts (List.mem_filter.mpr ⟨member, decide_eq_true legible⟩),
    fun same => ⟨?_, fun i member => ?_⟩, fun ⟨distinct, legible⟩ => ?_⟩
  · rw [← same]
    exact nodup_firsts _
  · rw [← same] at member
    exact of_decide_eq_true (List.mem_filter.mp ((firsts_sublist _).subset member)).2
  · rw [List.filter_eq_self.mpr fun i member => decide_eq_true (legible i member)]
    exact firsts_eq_self distinct

end Recovered

end Ledger

/-! ## Samples -/

namespace Sample

/-- A world with an empty ledger over an empty crash directory. -/
def recording : World :=
  { World.fresh with
    files := ⟨[(["crashes"], .directory)]⟩
    ledger := { crashDirectory := some crashes } }

theorem kept_recording : recording.ledger.KeptAt recording.files crashes ["crashes"] :=
  ⟨rfl, rfl, rfl⟩

/-- The world after a call was recorded. -/
def afterCall (i : Invocation) (w : World) : World :=
  (Act.record i surroundings w).2

/-- A second look at the same time, which finds something else. -/
def lookAgain : Invocation :=
  { look with result := "changed" }

/-- The world after both looks. -/
def twoLooks : World :=
  afterCall lookAgain (afterCall look recording)

/-- The world in which an empty ledger is opened over the crash directory that was left. -/
def reopened (w : World) : World :=
  { w with ledger := { crashDirectory := some crashes } }

/-- A look at another time, which finds something else. -/
def lookLater : Invocation :=
  { lookAgain with timestamp := "later" }

/-- The world after a look, a search and another look. -/
def errands : World :=
  afterCall lookLater (afterCall search (afterCall look recording))

theorem records_looks :
    Ledger.Records surroundings recording [look, lookAgain] twoLooks :=
  .call rfl (Prod.ext rfl rfl) ⟨_, rfl, rfl⟩
    (.call rfl (Prod.ext rfl rfl) ⟨_, rfl, rfl⟩ (.done rfl))

theorem records_errands :
    Ledger.Records surroundings recording [look, search, lookLater] errands :=
  .call rfl (Prod.ext rfl rfl) ⟨_, rfl, rfl⟩ (.call rfl (Prod.ext rfl rfl) ⟨_, rfl, rfl⟩
    (.call rfl (Prod.ext rfl rfl) ⟨_, rfl, rfl⟩ (.done rfl)))

theorem records_huge : Ledger.Records surroundings recording [huge] (afterCall huge recording) :=
  .call rfl (Prod.ext rfl rfl) ⟨_, rfl, rfl⟩ (.done rfl)

theorem shallow_looks : ∀ i ∈ [look, lookAgain], i.Shallow := by
  simp [look, lookAgain, Invocation.Shallow, Json.storable, Json.storableFields, Fields.names]

theorem legible_looks : ∀ i ∈ [look, lookAgain], i.Legible := by
  simp [look, lookAgain, Invocation.Legible, Json.longestIntOfFields]

theorem shallow_errands : ∀ i ∈ [look, search, lookLater], i.Shallow := by
  simp [look, search, lookLater, lookAgain, Invocation.Shallow, Json.storable, Json.storableItems,
    Json.storableFields, Fields.names]

theorem legible_errands : ∀ i ∈ [look, search, lookLater], i.Legible := by
  decide

/-- Two looks at the same time count as one. -/
theorem firsts_looks :
    Ledger.firsts ([look, lookAgain].filter Invocation.Legible) = [look] := by
  rw [List.filter_eq_self.mpr fun i member => decide_eq_true (legible_looks i member)]
  rfl

theorem shallow_number (n : Int) :
    (Invocation.mk "look" [("n", .int n)] "done" "now").Shallow := by
  simp [Invocation.Shallow, Json.storable, Json.storableFields, Fields.names]

theorem shallow_huge : huge.Shallow :=
  shallow_number _

theorem illegible_huge : ¬ huge.Legible :=
  Nat.not_le.mpr long_huge

end Sample

namespace Ledger

open Sample

/-- Two looks at the same time: both are filed, and the first one comes back. -/
theorem recorded_looks_come_back :
    (∃ filed : List (Int × Invocation), filed.map Prod.snd = [look, lookAgain] ∧
      twoLooks.files.inside ["crashes"] = filed.map entryOf) ∧
    Act.recover surroundings (reopened twoLooks) =
      (.ok 1, (reopened twoLooks).recovered [look] 0) := by
  obtain ⟨⟨filed, same, _, listed⟩, comes⟩ := recorded_calls_come_back kept_recording rfl
    (Int.le_refl 0) shallow_looks records_looks
  obtain ⟨recovers, _⟩ := comes surroundings (reopened twoLooks) rfl rfl rfl
  rw [firsts_looks] at recovers
  exact ⟨⟨filed, same, listed⟩, recovers⟩

/-- **A call with an integer that is too long is filed, but does not come back.** -/
theorem huge_call_not_recovered :
    recording.ledger.KeptAt recording.files crashes ["crashes"] ∧
      recording.files.inside ["crashes"] = [] ∧ huge.Shallow ∧
      Records surroundings recording [huge] (afterCall huge recording) ∧ firsts [huge] = [huge] ∧
      Act.recover surroundings (reopened (afterCall huge recording)) =
        (.ok 0, (reopened (afterCall huge recording)).recovered [] 0) := by
  have shallow : ∀ i ∈ [huge], i.Shallow := List.forall_mem_singleton.mpr shallow_huge
  have recovers := records_huge.recovers (v := reopened (afterCall huge recording))
    kept_recording rfl (Int.le_refl 0) shallow surroundings rfl rfl rfl
  have survivors : firsts ([huge].filter Invocation.Legible) = [] := by
    rw [List.filter_cons_of_neg (by simpa using illegible_huge)]
    rfl
  rw [survivors] at recovers
  exact ⟨kept_recording, rfl, shallow_huge, records_huge, rfl, recovers⟩

/-- Two looks at different times, with other findings, and a search between them are recovered
exactly. -/
theorem crash_loses_no_call :
    Act.recover surroundings (reopened errands) =
      (.ok 3, (reopened errands).recovered [look, search, lookLater] 0) := by
  obtain ⟨found, recovers, _, _, _, exactly⟩ := crash_loses_repetitions_alone kept_recording rfl
    (Int.le_refl 0) shallow_errands records_errands
  obtain rfl : found = [look, search, lookLater] := exactly.mpr ⟨by decide, legible_errands⟩
  exact recovers surroundings (reopened errands) rfl rfl rfl

/-- **Of two looks at the same time that found different things a crash loses one.** -/
theorem crash_loses_second_look :
    recording.ledger.KeptAt recording.files crashes ["crashes"] ∧
      recording.files.inside ["crashes"] = [] ∧ (∀ i ∈ [look, lookAgain], i.Shallow) ∧
      Records surroundings recording [look, lookAgain] twoLooks ∧
      look.result ≠ lookAgain.result ∧
      Act.recover surroundings (reopened twoLooks) =
        (.ok 1, (reopened twoLooks).recovered [look] 0) := by
  have recovers := records_looks.recovers (v := reopened twoLooks) kept_recording rfl
    (Int.le_refl 0) shallow_looks surroundings rfl rfl rfl
  rw [firsts_looks] at recovers
  exact ⟨kept_recording, rfl, shallow_looks, records_looks, by decide, recovers⟩

end Ledger

end WebPilot
