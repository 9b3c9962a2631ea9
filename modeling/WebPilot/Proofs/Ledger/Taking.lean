import WebPilot.Ledger.Keeping
import WebPilot.Proofs.Ledger.FileNames
import WebPilot.Proofs.Text.Pieces
import Mathlib.Logic.Basic

/-!
# Which calls a ledger takes

A ledger with a crash directory writes a file for every call, and where the system refuses the file
the call is recorded without one.  Two things are not the system's to refuse: arguments that nest
too deep to be written, and a null byte in the path.  The name of a call's file holds none
(`Ledger.null_notMem_fileName`), so the path holds one exactly if that of the directory does.
**So recording a call fails exactly if there is a crash directory and one of the two is the case**
(`Ledger.record_takes_iff`, `Act.record_takes`).
-/

namespace WebPilot

set_option autoImplicit false

/-! ## Null bytes in paths -/

/-- A path holds a null byte if one of its names does. -/
theorem Path.null_mem_text_iff {path : Path} :
    '\x00' ∈ path.text.toList ↔ ∃ name ∈ path.names, '\x00' ∈ name.toList := by
  unfold Path.text
  split
  · rename_i empty
    simp [empty.2]
  · have other : '\x00' ≠ '/' := by decide
    have joined := Text.mem_intercalate_iff other (path.names.map String.toList)
    rw [String.toList_append, List.mem_append, String.toList_ofList, String.toList_intercalate]
    simpa using joined

theorem Path.null_mem_child_iff {directory : Path} {name : String} (free : '\x00' ∉ name.toList) :
    '\x00' ∈ (directory.child name).text.toList ↔ '\x00' ∈ directory.text.toList := by
  simp [Path.null_mem_text_iff, Path.child, or_and_right, exists_or, free]

/-- The name of a call's file holds no null byte. -/
theorem Ledger.null_notMem_fileName (n : Int) (tool : String) :
    '\x00' ∉ (fileName n tool).toList := by
  have digits : '\x00' ∉ Decimal.intDigits n := by
    intro member
    unfold Decimal.intDigits at member
    have digit : '\x00' ∉ Decimal.natDigits n.natAbs := fun inside =>
      absurd (Json.isDigit_of_mem_natDigits inside) (by decide)
    split at member
    · exact digit ((List.mem_cons.mp member).resolve_left (by decide))
    · exact digit member
  have safe : '\x00' ∉ (safeName tool).toList := by
    intro member
    rw [safeName, String.toList_ofList] at member
    obtain ⟨c, _, same⟩ := List.mem_map.mp member
    split at same
    · subst same
      exact absurd ‹_› (by decide)
    · exact absurd same (by decide)
  simp [fileName, String.toList_append, digits, safe]

/-! ## Refused files -/

namespace Files

variable {files : Files} {path : Path}

/-- A null byte is found before any place is looked up. -/
theorem follow_ne_nullByte {here names : List String} :
    files.follow here names ≠ .error .nullByte := by
  induction names generalizing here with
  | nil => exact nofun
  | cons name rest ih =>
      unfold follow
      split
      · split
        · exact nofun
        · exact ih
      · exact nofun
      · exact nofun

/-- A path with a null byte leads nowhere. -/
theorem resolve_of_null (null : '\x00' ∈ path.text.toList) :
    files.resolve path = .error ⟨.nullByte, path.text⟩ := by
  have trouble : trouble? path = some .nullByte := if_pos (by simpa using null)
  rw [resolve, trouble]

/-- No other path has the trouble of a null byte. -/
theorem isSystem_of_resolve {fault : FileFault} (free : '\x00' ∉ path.text.toList)
    (failed : files.resolve path = .error fault) : fault.isSystem = true := by
  have clear : trouble? path ≠ some .nullByte := by
    unfold trouble?
    rw [if_neg (by simpa using free)]
    split <;> exact nofun
  unfold resolve at failed
  split at failed
  · cases failed
    rename_i trouble found
    exact decide_eq_true fun same => clear (found.trans (congrArg some same))
  · split at failed
    · cases failed
    · cases failed
      rename_i trouble followed
      exact decide_eq_true fun same => follow_ne_nullByte (followed.trans (congrArg _ same))

theorem isSystem_of_write {fault : FileFault} {bytes : List UInt8}
    (free : '\x00' ∉ path.text.toList) (failed : files.write path bytes = .error fault) :
    fault.isSystem = true := by
  unfold write at failed
  split at failed
  · cases failed
    exact isSystem_of_resolve free ‹_›
  · split at failed <;> cases failed
    rfl

end Files

/-! ## Recording -/

namespace Ledger

/-- The ledger takes calls with these arguments: it keeps no files of single calls, or the arguments
can be written and the path of its directory holds no null byte. -/
def Takes (ledger : Ledger) (arguments : Fields) : Prop :=
  ∀ directory, ledger.crashDirectory = some directory →
    Json.canWriteFields arguments = true ∧ '\x00' ∉ directory.text.toList

/-- The file of a call is written or left out, unless the call cannot be written or the path holds
a null byte. -/
theorem writeCall_ok_iff (files : Files) (path : Path) (i : Invocation) :
    (∃ files', writeCall files path i = .ok files') ↔
      i.canWrite = true ∧ '\x00' ∉ path.text.toList := by
  unfold writeCall
  cases fits : i.canWrite with
  | false => simp
  | true =>
      simp only [Bool.not_true, Bool.false_eq_true, if_false, true_and]
      by_cases free : '\x00' ∈ path.text.toList
      · rw [Files.write, Files.resolve_of_null free]
        simp [free, FileFault.isSystem]
      · cases written : files.write path (fileBytes i.toJson) with
        | ok files' => simp [free]
        | error fault => simp [free, Files.isSystem_of_write free written]

/-- **A call is recorded without a failure exactly if the ledger takes its arguments.** -/
theorem record_takes_iff (ledger : Ledger) (reading : Int) (files : Files) (i : Invocation) :
    (ledger.record reading files i).failure = none ↔ ledger.Takes i.arguments := by
  unfold record Takes
  simp only [append]
  cases ledger.crashDirectory with
  | none => simp
  | some directory =>
      simp only [Option.some.injEq, forall_eq']
      generalize nextNumber _ reading = n
      have taken := writeCall_ok_iff files (directory.child (fileName n i.tool)) i
      rw [Path.null_mem_child_iff (null_notMem_fileName n i.tool)] at taken
      rw [← Invocation.canWrite, ← taken]
      cases writeCall files (directory.child (fileName n i.tool)) i <;> simp

end Ledger

/-- **Recording a call comes to its end exactly if the ledger takes its arguments.** -/
theorem Act.record_takes {i : Invocation} {s : Surroundings} {w w' : World}
    {outcome : Except Failure Unit} (run : Act.record i s w = (outcome, w')) :
    outcome = .ok () ↔ w.ledger.Takes i.arguments := by
  rw [← Ledger.record_takes_iff w.ledger (s.readingAt w.readingsTaken) w.files i]
  simp only [record] at run
  split at run <;> cases run <;> simp [*]

end WebPilot
