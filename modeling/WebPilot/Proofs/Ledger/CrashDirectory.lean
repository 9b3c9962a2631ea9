import Mathlib.Data.List.ReduceOption
import WebPilot.Proofs.Ledger.FileNames
import WebPilot.Proofs.Ledger.Keeping
import WebPilot.Proofs.Ledger.Loading
import WebPilot.Proofs.Ledger.Recovery

/-!
# What is recovered from a crash directory

An empty ledger over a crash directory reads the files of calls in the order of their numbers.  Two
things end the recovery before its end: a name whose digits make no number, and a file whose bytes
are no text.  Where there are none of these the directory is *sound* (`Ledger.Sound`).

**From a sound directory every file that holds a call is recovered, and no other file gets in the
way** (`Ledger.recovery_sound`): the calls come in the order of their numbers, and of calls with the
same time and tool the first one is kept (`Ledger.firsts`).  **From a directory that is not sound
nothing is recovered to the end** (`Ledger.recovery_unsound`).

Whatever was recovered can be written again, for the reader of records admits less nesting than
their writer.
-/

namespace WebPilot

set_option autoImplicit false

namespace Ledger

/-! ## First calls -/

/-- The calls without those that have the time and the tool of an earlier one. -/
def firsts (calls : List Invocation) : List Invocation :=
  calls.eraseDupsBy fun i j => i.key == j.key

theorem firsts_nil : firsts [] = [] := rfl

theorem firsts_cons (i : Invocation) (calls : List Invocation) :
    firsts (i :: calls) = i :: firsts (calls.filter fun j => j.key ≠ i.key) := by
  rw [firsts, List.eraseDupsBy_cons]
  simp only [beq_eq_false_iff_ne]
  rfl

/-- A call is kept if no call before it has its time and tool. -/
theorem firsts_induction {motive : List Invocation → Prop} (nil : motive [])
    (cons : ∀ i calls, motive (calls.filter fun j => j.key ≠ i.key) → motive (i :: calls)) :
    ∀ calls, motive calls
  | [] => nil
  | i :: calls => cons i calls (firsts_induction nil cons _)
  termination_by calls => calls.length
  decreasing_by exact Nat.lt_succ_of_le (List.length_filter_le _ _)

/-- First calls stay in their order. -/
theorem firsts_sublist (calls : List Invocation) : (firsts calls).Sublist calls := by
  induction calls using firsts_induction with
  | nil => exact .slnil
  | cons i calls ih =>
      rw [firsts_cons]
      exact (ih.trans List.filter_sublist).cons_cons i

/-- For every call there is a first one with its time and tool. -/
theorem exists_firsts {calls : List Invocation} {i : Invocation} (member : i ∈ calls) :
    ∃ first ∈ firsts calls, first.key = i.key := by
  induction calls using firsts_induction with
  | nil => exact absurd member List.not_mem_nil
  | cons j calls ih =>
      rw [firsts_cons]
      by_cases same : i.key = j.key
      · exact ⟨j, List.mem_cons_self, same.symm⟩
      · have later := (List.mem_cons.mp member).resolve_left fun here => same (here ▸ rfl)
        obtain ⟨first, kept, key⟩ := ih (List.mem_filter.mpr ⟨later, decide_eq_true same⟩)
        exact ⟨first, List.mem_cons_of_mem _ kept, key⟩

/-- First calls differ in time or tool. -/
theorem nodup_firsts (calls : List Invocation) :
    ((firsts calls).map Invocation.key).Nodup := by
  induction calls using firsts_induction with
  | nil => exact .nil
  | cons i calls ih =>
      rw [firsts_cons, List.map_cons, List.nodup_cons]
      refine ⟨fun member => ?_, ih⟩
      obtain ⟨j, kept, same⟩ := List.mem_map.mp member
      have other := (List.mem_filter.mp ((firsts_sublist _).subset kept)).2
      exact of_decide_eq_true other same

/-- All calls are first ones if any two differ in time or tool. -/
theorem firsts_eq_self {calls : List Invocation}
    (distinct : (calls.map Invocation.key).Nodup) : firsts calls = calls := by
  induction calls with
  | nil => rfl
  | cons i calls ih =>
      obtain ⟨new, others⟩ := List.nodup_cons.mp distinct
      have all : (calls.filter fun j => j.key ≠ i.key) = calls :=
        List.filter_eq_self.mpr fun j member =>
          decide_eq_true fun same => new (same ▸ List.mem_map_of_mem member)
      rw [firsts_cons, all, ih others]

/-- Calls that follow others, if those are already without repetitions. -/
def joined (found calls : List Invocation) : List Invocation :=
  found ++ firsts (calls.filter fun i => i.key ∉ found.map Invocation.key)

theorem joined_nil (calls : List Invocation) : joined [] calls = firsts calls := by
  simp [joined]

theorem joined_done (found : List Invocation) : joined found [] = found := by
  rw [joined, List.filter_nil, firsts_nil, List.append_nil]

/-- What was found, with one more call if its time and tool are new. -/
def withCall (found : List Invocation) : Option Invocation → List Invocation
  | none => found
  | some i => if i.key ∈ found.map Invocation.key then found else found ++ [i]

/-- Calls that are joined may be joined one by one. -/
theorem joined_withCall (found : List Invocation) (call? : Option Invocation)
    (calls : List Invocation) :
    joined (withCall found call?) calls = joined found (call?.toList ++ calls) := by
  cases call? with
  | none => rfl
  | some i =>
      simp only [withCall, Option.toList_some, List.cons_append, List.nil_append]
      by_cases seen : i.key ∈ found.map Invocation.key
      · rw [if_pos seen, joined, joined, List.filter_cons_of_neg (by simpa using seen)]
      · have both : (calls.filter fun j => j.key ∉ found.map Invocation.key).filter
            (fun j => j.key ≠ i.key) =
            calls.filter fun j => j.key ∉ (found ++ [i]).map Invocation.key := by
          rw [List.filter_filter]
          refine List.filter_congr fun j _ => ?_
          simp [and_comm]
        rw [if_neg seen, joined, joined, List.filter_cons_of_pos (by simpa using seen),
          firsts_cons, both, List.append_assoc]
        rfl

/-! ## Files that hold calls -/

section Files

variable {files : Files} {directory : Path} {place : List String}

/-- The value that a file holds, if it can be read and decoded and is a record. -/
def valueIn? (files : Files) (directory : Path) (name : String) : Option Json :=
  match files.read (directory.child name) with
  | .error _ => none
  | .ok bytes =>
    match Files.textOf bytes with
    | .error _ => none
    | .ok text => Json.readRecord? text

/-- The call that a file holds, if it holds one; `now` is the time for one without a timestamp. -/
def callIn? (files : Files) (directory : Path) (now name : String) : Option Invocation :=
  match valueIn? files directory name with
  | none => none
  | some value =>
    match Invocation.check now value with
    | .faulty _ => none
    | .fine i => some i

/-- How many times the check of a file takes. -/
def timesIn (files : Files) (directory : Path) (name : String) : Nat :=
  match valueIn? files directory name with
  | none => 0
  | some value => Invocation.timesTaken value

/-- The file cannot be read, or its bytes are a text. -/
def Decodable (files : Files) (directory : Path) (name : String) : Prop :=
  ∀ bytes, files.read (directory.child name) = .ok bytes → ∃ text, Files.textOf bytes = .ok text

/-- The value of a file nests by no more than the reader admits. -/
theorem nesting_valueIn? {name : String} {value : Json}
    (holds : valueIn? files directory name = some value) : Json.nesting value ≤ 201 := by
  unfold valueIn? at holds
  split at holds
  · cases holds
  · split at holds
    · cases holds
    · exact Json.nesting_readRecord? holds

/-- So a call from a file can be written again. -/
theorem canWrite_of_callIn? {now name : String} {i : Invocation}
    (holds : callIn? files directory now name = some i) : i.canWrite = true := by
  unfold callIn? at holds
  split at holds
  · cases holds
  · rename_i value found
    split at holds
    · cases holds
    · rename_i fine
      cases holds
      have inside := Invocation.nesting_of_check fine
      have whole := nesting_valueIn? found
      exact decide_eq_true (Nat.le_trans inside (Nat.le_trans whole (by decide)))

/-- **A file that can be decoded is passed over up to the call that it holds.** -/
theorem recoverFrom_cons {name : String} (decodable : Decodable files directory name)
    (timeAt : Nat → String) (taken : Nat) (found : List Invocation) (names : List String) :
    recoverFrom files directory timeAt taken found (name :: names) =
      recoverFrom files directory timeAt (taken + timesIn files directory name)
        (withCall found (callIn? files directory (timeAt taken) name)) names := by
  cases read : files.read (directory.child name) with
  | error _ => simp only [recoverFrom, timesIn, callIn?, valueIn?, read, withCall, Nat.add_zero]
  | ok bytes =>
      obtain ⟨text, decoded⟩ := decodable bytes read
      cases record : Json.readRecord? text with
      | none =>
          simp only [recoverFrom, timesIn, callIn?, valueIn?, read, decoded, record, withCall,
            Nat.add_zero]
      | some value =>
          cases checked : Invocation.check (timeAt taken) value <;>
            simp only [recoverFrom, timesIn, callIn?, valueIn?, read, decoded, record, checked,
              withCall, List.contains_iff_mem]

/-- A file that can be read, but not as text, ends the recovery. -/
theorem recoverFrom_undecodable {name : String} (broken : ¬ Decodable files directory name)
    (timeAt : Nat → String) (taken : Nat) (found : List Invocation) (names : List String) :
    ∃ fault, recoverFrom files directory timeAt taken found (name :: names) =
      ⟨found, taken, some (.undecodable fault)⟩ := by
  simp only [Decodable, not_forall] at broken
  obtain ⟨bytes, read, noText⟩ := broken
  cases decoded : Files.textOf bytes with
  | ok text => exact absurd ⟨text, decoded⟩ noText
  | error fault => exact ⟨fault, by simp only [recoverFrom, read, decoded]⟩

/-- What the files with the names hold, one by one, if a call without a timestamp may have any time
that is read off the clock. -/
def Held (files : Files) (directory : Path) (timeAt : Nat → String) (names : List String)
    (held : List (Option Invocation)) : Prop :=
  List.Forall₂ (fun name call? => ∃ n, call? = callIn? files directory (timeAt n) name) names held

theorem reduceOption_cons {α : Type} (a? : Option α) (rest : List (Option α)) :
    (a? :: rest).reduceOption = a?.toList ++ rest.reduceOption := by
  cases a? <;> rfl

/-- **Files of which each can be decoded are recovered to the end.** -/
theorem recoverFrom_decodable {names : List String}
    (decodable : ∀ name ∈ names, Decodable files directory name) (timeAt : Nat → String)
    (taken : Nat) (found : List Invocation) :
    ∃ held taken', Held files directory timeAt names held ∧
      recoverFrom files directory timeAt taken found names =
        ⟨joined found held.reduceOption, taken', none⟩ := by
  induction names generalizing taken found with
  | nil => exact ⟨[], taken, .nil, by rw [List.reduceOption_nil, joined_done, recoverFrom]⟩
  | cons name names ih =>
      obtain ⟨first, others⟩ := List.forall_mem_cons.mp decodable
      obtain ⟨held, last, all, run⟩ := ih others _ (withCall found _)
      refine ⟨callIn? files directory (timeAt taken) name :: held, last,
        .cons ⟨taken, rfl⟩ all, ?_⟩
      rw [recoverFrom_cons first, run, joined_withCall, reduceOption_cons]

/-- One file that cannot be decoded is enough to end the recovery. -/
theorem recoverFrom_broken {names : List String}
    (broken : ¬ ∀ name ∈ names, Decodable files directory name) (timeAt : Nat → String)
    (taken : Nat) (found : List Invocation) :
    ∃ failure, (recoverFrom files directory timeAt taken found names).failure = some failure := by
  induction names generalizing taken found with
  | nil => exact absurd (by simp) broken
  | cons name names ih =>
      by_cases first : Decodable files directory name
      · rw [recoverFrom_cons first]
        exact ih (fun others => broken (List.forall_mem_cons.mpr ⟨first, others⟩)) _ _
      · obtain ⟨fault, stops⟩ := recoverFrom_undecodable first timeAt taken found names
        exact ⟨_, congrArg Recovery.failure stops⟩

/-! ## The order of the files -/

/-- The names of the files of calls in a directory, as the directory lists them. -/
def callNames (files : Files) (place : List String) : List String :=
  ((files.inside place).map (·.1)).filter isCallFile

theorem numbered_ok {names : List String} (numbers : ∀ name ∈ names, HasNumber name) :
    numbered names = .ok (names.map fun name => (number name, name)) := by
  induction names with
  | nil => rfl
  | cons name names ih =>
      obtain ⟨first, others⟩ := List.forall_mem_cons.mp numbers
      have here : Decimal.readInt (String.ofList (numberPart name)) = .ok (number name) :=
        number?_eq first
      simp only [numbered, here, ih others, List.map_cons]

theorem numbered_error {names : List String} (broken : ¬ ∀ name ∈ names, HasNumber name) :
    ∃ fault, numbered names = .error fault := by
  induction names with
  | nil => exact absurd (by simp) broken
  | cons name names ih =>
      cases here : Decimal.readInt (String.ofList (numberPart name)) with
      | error fault => exact ⟨fault, by simp only [numbered, here]⟩
      | ok n =>
          obtain ⟨fault, later⟩ :=
            ih fun others => broken (List.forall_mem_cons.mpr ⟨⟨n, here⟩, others⟩)
          exact ⟨fault, by simp only [numbered, here, later]⟩

/-- The files of calls are read in the order of their numbers. -/
theorem callFiles_eq (numbers : ∀ name ∈ callNames files place, HasNumber name) :
    callFiles files place =
      .ok ((callNames files place).mergeSort fun a b => decide (number a ≤ number b)) := by
  have sorts := List.map_mergeSort (r := fun a b => decide (number a ≤ number b))
    (s := fun a b : Int × String => decide (a.1 ≤ b.1)) (f := fun name => (number name, name))
    (l := callNames files place) fun _ _ _ _ => rfl
  simp only [callFiles]
  rw [← callNames, numbered_ok numbers]
  simp only [← sorts, List.map_map]
  exact congrArg Except.ok (List.map_id _)

/-- **The files of calls are read one by one in the order of their numbers.** -/
theorem callFiles_ok (numbers : ∀ name ∈ callNames files place, HasNumber name) :
    ∃ names, callFiles files place = .ok names ∧ names.Perm (callNames files place) ∧
      names.Pairwise fun a b => number a ≤ number b := by
  have sorted := List.pairwise_mergeSort
    (fun (a b c : String) (first : decide (number a ≤ number b) = true)
      (second : decide (number b ≤ number c) = true) =>
      decide_eq_true (Int.le_trans (of_decide_eq_true first) (of_decide_eq_true second)))
    (fun a b => by simpa using Int.le_total (number a) (number b)) (callNames files place)
  exact ⟨_, callFiles_eq numbers, List.mergeSort_perm _ _, sorted.imp of_decide_eq_true⟩

/-- Names in the order of their numbers are read as the directory lists them. -/
theorem callFiles_of_sorted (numbers : ∀ name ∈ callNames files place, HasNumber name)
    (sorted : (callNames files place).Pairwise fun a b => number a ≤ number b) :
    callFiles files place = .ok (callNames files place) := by
  rw [callFiles_eq numbers, List.mergeSort_of_pairwise (sorted.imp decide_eq_true)]

/-! ## Recovery -/

/-- The ledger has a crash directory that is there, at the place. -/
structure KeptAt (ledger : Ledger) (files : Files) (directory : Path) (place : List String) :
    Prop where
  kept : ledger.crashDirectory = some directory
  leads : files.resolve directory = .ok place
  there : files.at? place = some .directory

/-- The names of the files of calls have numbers, and the files can be decoded. -/
structure Sound (files : Files) (directory : Path) (place : List String) : Prop where
  numbers : ∀ name ∈ callNames files place, HasNumber name
  texts : ∀ name ∈ callNames files place, Decodable files directory name

variable {ledger : Ledger}

/-- An empty ledger is recovered from the files of calls in its crash directory. -/
theorem recovery_eq (kept : ledger.KeptAt files directory place)
    (empty : ledger.invocations = []) (timeAt : Nat → String) :
    ledger.recovery files timeAt =
      match callFiles files place with
      | .error fault => ⟨[], 0, some (.badValue fault.message)⟩
      | .ok names => recoverFrom files directory timeAt 0 [] names := by
  have found : files.find? directory = .ok (some .directory) := by
    rw [Files.find?, kept.leads]
    simp only [kept.there]
  have isEmpty : (!ledger.isEmpty) = false := by simp [Ledger.isEmpty, empty]
  rw [recovery, kept.kept]
  cases listed : callFiles files place <;>
    simp only [isEmpty, Bool.false_eq_true, if_false, found, kept.leads, listed]

/-- **From a sound directory all calls are recovered** in the order of their numbers, but of those
with the same time and tool only the first one. -/
theorem recovery_sound (kept : ledger.KeptAt files directory place)
    (empty : ledger.invocations = []) (sound : Sound files directory place)
    (timeAt : Nat → String) :
    ∃ names held taken, names.Perm (callNames files place) ∧
      (names.Pairwise fun a b => number a ≤ number b) ∧ Held files directory timeAt names held ∧
      ledger.recovery files timeAt = ⟨firsts held.reduceOption, taken, none⟩ := by
  obtain ⟨names, listed, perm, sorted⟩ := callFiles_ok sound.numbers
  have decodable : ∀ name ∈ names, Decodable files directory name :=
    fun name member => sound.texts name (perm.mem_iff.mp member)
  obtain ⟨held, taken, all, run⟩ := recoverFrom_decodable decodable timeAt 0 []
  refine ⟨names, held, taken, perm, sorted, all, ?_⟩
  rw [recovery_eq kept empty, listed, ← joined_nil]
  exact run

/-- **From a directory that is not sound nothing is recovered to the end.** -/
theorem recovery_unsound (kept : ledger.KeptAt files directory place)
    (empty : ledger.invocations = []) (unsound : ¬ Sound files directory place)
    (timeAt : Nat → String) : ∃ failure, (ledger.recovery files timeAt).failure = some failure := by
  rw [recovery_eq kept empty]
  by_cases numbers : ∀ name ∈ callNames files place, HasNumber name
  · obtain ⟨names, listed, perm, _⟩ := callFiles_ok numbers
    rw [listed]
    refine recoverFrom_broken (fun decodable => unsound ⟨numbers, fun name member => ?_⟩) timeAt _ _
    exact decodable name (perm.mem_iff.mpr member)
  · obtain ⟨fault, refused⟩ := numbered_error numbers
    have noFiles : callFiles files place = .error fault := by
      simp only [callFiles]
      rw [← callNames, refused]
    rw [noFiles]
    exact ⟨_, rfl⟩

/-- Whatever is recovered can be written again. -/
theorem canWrite_of_held {timeAt : Nat → String} {names : List String}
    {held : List (Option Invocation)} (all : Held files directory timeAt names held) :
    ∀ i ∈ held.reduceOption, i.canWrite = true := by
  induction all with
  | nil => simp
  | cons first _ ih =>
      obtain ⟨n, rfl⟩ := first
      intro i member
      rw [reduceOption_cons] at member
      rcases List.mem_append.mp member with here | later
      · exact canWrite_of_callIn? (Option.mem_toList.mp here)
      · exact ih i later

end Files

end Ledger

/-! ## Acts -/

/-- The world after calls were recovered into an empty ledger. -/
def World.recovered (w : World) (found : List Invocation) (taken : Nat) : World :=
  { w with
    ledger := { w.ledger with invocations := found }
    timesTaken := w.timesTaken + taken }

namespace Act

variable {s : Surroundings} {w : World} {path : String}

/-- The times that a recovery may take. -/
def timesFrom (s : Surroundings) (w : World) (i : Nat) : String :=
  s.timeAt (w.timesTaken + i)

theorem recover_ok (empty : w.ledger.invocations = []) {found : List Invocation} {taken : Nat}
    (recovery : w.ledger.recovery w.files (timesFrom s w) = ⟨found, taken, none⟩) :
    recover s w = (.ok found.length, w.recovered found taken) := by
  have same : w.ledger.recovery w.files (fun i => s.timeAt (w.timesTaken + i)) =
      ⟨found, taken, none⟩ := recovery
  simp only [recover, same, empty, List.nil_append]
  rfl

theorem recover_error {failure : Failure}
    (failing : (w.ledger.recovery w.files (timesFrom s w)).failure = some failure) :
    (recover s w).1 = .error failure := by
  have same : (w.ledger.recovery w.files (fun i => s.timeAt (w.timesTaken + i))).failure =
      some failure := failing
  simp only [recover, same]

/-- A ledger that is not empty recovers nothing. -/
theorem recover_filled (filled : w.ledger.invocations ≠ []) (s : Surroundings) :
    recover s w = (.ok 0, w) := by
  have full : (!w.ledger.isEmpty) = true := by simpa [Ledger.isEmpty] using filled
  have nothing (timeAt : Nat → String) : w.ledger.recovery w.files timeAt = ⟨[], 0, none⟩ := by
    unfold Ledger.recovery
    cases w.ledger.crashDirectory with
    | none => rfl
    | some directory => simp only [full, if_true]
  simp only [recover, nothing, List.append_nil]
  rfl

/-- An empty ledger is recovered before it is saved. -/
theorem saveLedger_empty (empty : w.ledger.invocations = []) (path : String) (s : Surroundings) :
    saveLedger path s w = (recover >>= fun _ => see (·.ledger) >>= (storeLedger · path)) s w := by
  have isEmpty : w.ledger.isEmpty = true := by simp [Ledger.isEmpty, empty]
  simp only [saveLedger, bind_apply, see, isEmpty, when_, if_true, done]
  rcases recover s w with ⟨_ | count, v⟩ <;> rfl

/-- A ledger whose calls can be written is stored wherever a file can be written. -/
theorem storeLedger_writable {ledger : Ledger}
    (canWrite : ∀ i ∈ ledger.invocations, i.canWrite = true)
    (writable : w.files.Writable (Path.ofText path)) (s : Surroundings) :
    ∃ saved, storeLedger ledger path s w = (.ok (), saved) ∧
      saved.files.read (Path.ofText path) = .ok (Ledger.fileBytes ledger.document.toJson) := by
  obtain ⟨files, stored⟩ := Ledger.store_ok_iff.mpr ⟨List.all_eq_true.mpr canWrite, writable⟩
  exact ⟨{ w with files }, by simp only [storeLedger, stored], (Ledger.read_store stored).2⟩

end Act

/-- The crash directory of the samples. -/
def Sample.crashes : Path := ⟨0, ["crashes"]⟩

end WebPilot
