import WebPilot.Ledger.Keeping
import WebPilot.Proofs.Session.Growth

/-!
# Recovering nothing

A file in a crash directory is recovered if it has the name of a call's file and its text is that of
a call (`Ledger.Recoverable`).  **Where no file is, nothing is recovered**
(`Ledger.recovery_nothing`), though the recovery may fail, and then files and ledger stay as they
are (`Act.recover_nothing`).
-/

namespace WebPilot

set_option autoImplicit false

namespace Ledger

variable {files : Files} {directory : Path}

/-- A call can be recovered from the file. -/
def Recoverable (files : Files) (directory : Path) (name : String) : Prop :=
  isCallFile name = true ∧ ∃ bytes text value now i,
    files.read (directory.child name) = .ok bytes ∧ Files.textOf bytes = .ok text ∧
      Json.readRecord? text = some value ∧ Invocation.check now value = .fine i

/-- Numbering keeps the names. -/
theorem numbered_names {names : List String} {found : List (Int × String)}
    (numbers : numbered names = .ok found) : found.map Prod.snd = names := by
  induction names generalizing found with
  | nil =>
      cases numbers
      rfl
  | cons name names ih =>
      rw [numbered] at numbers
      cases number : Decimal.readInt (String.ofList (numberPart name)) with
      | error fault => rw [number] at numbers; cases numbers
      | ok n =>
          cases more : numbered names with
          | error fault => rw [number, more] at numbers; cases numbers
          | ok rest =>
              rw [number, more] at numbers
              cases numbers
              rw [List.map_cons, ih more]

/-- The files of calls have their names. -/
theorem isCallFile_of_mem {place names : List String}
    (calls : callFiles files place = .ok names) {name : String} (member : name ∈ names) :
    isCallFile name = true := by
  simp only [callFiles] at calls
  cases numbers : numbered (((files.inside place).map (·.1)).filter isCallFile) with
  | error fault => rw [numbers] at calls; cases calls
  | ok found =>
      rw [numbers] at calls
      cases calls
      obtain ⟨pair, sorted, rfl⟩ := List.mem_map.mp member
      have kept : pair.2 ∈ found.map Prod.snd :=
        List.mem_map_of_mem ((List.mergeSort_perm found _).mem_iff.mp sorted)
      rw [numbered_names numbers] at kept
      exact (List.mem_filter.mp kept).2

/-- Files from which nothing can be recovered are passed over, up to one that ends the recovery. -/
theorem recoverFrom_nothing {names : List String} {timeAt : Nat → String} {taken : Nat}
    (calls : ∀ name ∈ names, isCallFile name = true)
    (nothing : ∀ name, ¬ Recoverable files directory name) :
    (recoverFrom files directory timeAt taken [] names).found = [] := by
  induction names generalizing taken with
  | nil => rfl
  | cons name names ih =>
      obtain ⟨isCall, others⟩ := List.forall_mem_cons.mp calls
      rw [recoverFrom]
      cases read : files.read (directory.child name) with
      | error fault => exact ih others
      | ok bytes =>
          cases decoded : Files.textOf bytes with
          | error fault => simp only [decoded]
          | ok text =>
              cases record : Json.readRecord? text with
              | none => simpa only [decoded, record] using ih others
              | some value =>
                  cases checked : Invocation.check (timeAt taken) value with
                  | faulty issues =>
                      simpa only [decoded, record, checked] using ih others
                  | fine i =>
                      exact absurd
                        ⟨isCall, bytes, text, value, _, i, read, decoded, record, checked⟩
                        (nothing name)

/-- **Where no file is recoverable nothing is recovered.** -/
theorem recovery_nothing (ledger : Ledger) (timeAt : Nat → String)
    (nothing : ∀ directory, ledger.crashDirectory = some directory →
      ∀ name, ¬ Recoverable files directory name) :
    (ledger.recovery files timeAt).found = [] := by
  unfold recovery
  cases found : ledger.crashDirectory with
  | none => rfl
  | some directory =>
      dsimp only
      by_cases filled : (!ledger.isEmpty) = true
      · rw [if_pos filled]
      · rw [if_neg filled]
        split
        case h_1 => rfl
        case h_2 place _ _ =>
          cases calls : callFiles files place with
          | error fault => rfl
          | ok names =>
              exact recoverFrom_nothing (fun _ member => isCallFile_of_mem calls member)
                (nothing directory found)
        case h_3 => rfl

end Ledger

/-- A recovery of nothing leaves files and ledger alone, and finds nothing if it does not fail. -/
theorem Act.recover_nothing {s : Surroundings} {w w' : World} {outcome : Except Failure Nat}
    (nothing : ∀ directory, w.ledger.crashDirectory = some directory →
      ∀ name, ¬ Ledger.Recoverable w.files directory name)
    (run : Act.recover s w = (outcome, w')) :
    Same World.kept w w' ∧ ∀ count, outcome = .ok count → count = 0 := by
  have found := w.ledger.recovery_nothing (fun i => s.timeAt (w.timesTaken + i)) nothing
  have same : { w.ledger with invocations := w.ledger.invocations ++ [] } = w.ledger := by
    rw [List.append_nil]
  simp only [Act.recover, found, same] at run
  split at run
  · cases run
    exact ⟨rfl, nofun⟩
  · cases run
    exact ⟨rfl, fun count same => (Except.ok.inj same).symm⟩

end WebPilot
