import WebPilot.Files.Basic
import WebPilot.Proofs.Text.Pieces

/-!
# Reading what was written

Writing a file changes what one place holds and nothing else (`Files.at?_set_of_ne`).  That place
is no directory, so it does not lie on the way to any other, and least of all on the way to itself:
**the path leads to the same place afterwards, and there the bytes are read back**
(`Files.read_write`).
-/

namespace WebPilot

set_option autoImplicit false

/-! ## Names -/

namespace Path

variable {name : String}

/-- The name leads from a directory to another place in it. -/
structure IsName (name : String) : Prop where
  free : '/' ∉ name.toList
  filled : name ≠ ""
  onward : name ≠ "."
  upward : name ≠ ".."

/-- A name is a path of its own. -/
theorem ofText_name (isName : IsName name) : ofText name = ⟨0, [name]⟩ := by
  have lead : name.toList.takeWhile (· = '/') = [] := by
    cases shape : name.toList with
    | nil => rfl
    | cons c cs =>
        have other : c ≠ '/' := fun same => isName.free (by simp [shape, same])
        simp [other]
  simp only [ofText, lead, Text.splitOn_of_notMem isName.free]
  simp [isName.filled, isName.onward]

theorem text_name (name : String) : (Path.mk 0 [name]).text = name := by
  simp [text]

theorem tidy_name (isName : IsName name) : tidy name = name := by
  rw [tidy, ofText_name isName, text_name]

end Path

namespace Files

variable {files files' : Files} {path : Path} {bytes : List UInt8} {names here : List String}
  {entry : Entry}

/-! ## Setting -/

theorem lookup_set_self (entries : List (List String × Entry)) (names : List String)
    (entry : Entry) : (set names entry entries).lookup names = some entry := by
  induction entries with
  | nil => simp [set]
  | cons first rest ih =>
      obtain ⟨n, e⟩ := first
      by_cases same : n = names
      · simp [set, same]
      · have unequal : (names == n) = false := beq_eq_false_iff_ne.mpr (Ne.symm same)
        simp only [set, same, if_false, List.lookup_cons, unequal, ih]

theorem lookup_set_of_ne (entries : List (List String × Entry)) (entry : Entry)
    (other : here ≠ names) : (set names entry entries).lookup here = entries.lookup here := by
  induction entries with
  | nil => simp [set, other]
  | cons first rest ih =>
      obtain ⟨n, e⟩ := first
      by_cases same : n = names
      · subst same
        have unequal : (here == n) = false := beq_eq_false_iff_ne.mpr other
        simp only [set, if_true, List.lookup_cons, unequal]
      · simp only [set, same, if_false, List.lookup_cons, ih]

/-- Setting one place leaves the others. -/
theorem at?_set_of_ne (other : here ≠ names) :
    (Files.mk (set names entry files.entries)).at? here = files.at? here := by
  simp only [at?, lookup_set_of_ne files.entries entry other]

/-- A place that is set holds what it was set to, if it is not fixed. -/
theorem at?_set_self (files : Files) (entry : Entry) (free : isFixed names = false) :
    (Files.mk (set names entry files.entries)).at? names = some entry := by
  simp only [at?, free, Bool.false_eq_true, if_false, lookup_set_self]

/-! ## Writing -/

/-- A write that succeeds sets the place that the path leads to, which is no directory. -/
theorem write_ok (written : files.write path bytes = .ok files') :
    ∃ names, files.resolve path = .ok names ∧ files.at? names ≠ some .directory ∧
      files' = ⟨set names (.file bytes) files.entries⟩ := by
  unfold write at written
  split at written
  · cases written
  · rename_i names resolved
    split at written
    · cases written
    · rename_i free
      cases written
      exact ⟨names, resolved, fun same => free (by simp_all), rfl⟩

/-- The path leads to a place where a file can be written. -/
def Writable (files : Files) (path : Path) : Prop :=
  ∃ names, files.resolve path = .ok names ∧ files.at? names ≠ some .directory

/-- Whether a file can be written does not depend on its bytes. -/
theorem Writable.write (writable : files.Writable path) (bytes : List UInt8) :
    ∃ files', files.write path bytes = .ok files' := by
  obtain ⟨names, resolved, free⟩ := writable
  refine ⟨⟨set names (.file bytes) files.entries⟩, ?_⟩
  unfold Files.write
  simp only [resolved]

/-- Where no file can be written, the refusal does not depend on the bytes either. -/
theorem write_refused (unwritable : ¬ files.Writable path) :
    ∃ fault, ∀ bytes, files.write path bytes = .error fault := by
  unfold write
  cases resolved : files.resolve path with
  | error fault => exact ⟨fault, fun _ => rfl⟩
  | ok names =>
      have directory : files.at? names = some .directory :=
        not_not.mp fun free => unwritable ⟨names, resolved, free⟩
      exact ⟨⟨.isDirectory, path.text⟩, fun _ => by simp only [directory]⟩

/-- No way leads through a place that is no directory. -/
theorem follow_set {there : List String} (free : files.at? names ≠ some .directory)
    (rest : List String) (follows : files.follow here rest = .ok there) :
    (Files.mk (set names entry files.entries)).follow here rest = .ok there := by
  induction rest generalizing here with
  | nil => exact follows
  | cons name rest ih =>
      cases found : files.at? here with
      | none => simp [follow, found] at follows
      | some entry' =>
          cases entry' with
          | file _ => simp [follow, found] at follows
          | directory =>
              have other : here ≠ names := fun same => free (same ▸ found)
              simp only [follow, at?_set_of_ne other, found] at follows ⊢
              split at follows
              · cases follows
              · rename_i short
                rw [if_neg short]
                exact ih follows

/-- A path leads to the same place when a place that is no directory is set. -/
theorem resolve_set {there : List String} (free : files.at? names ≠ some .directory)
    (resolved : files.resolve path = .ok there) :
    (Files.mk (set names entry files.entries)).resolve path = .ok there := by
  unfold resolve at resolved ⊢
  split at resolved
  · cases resolved
  · split at resolved
    · rename_i follows
      cases resolved
      simp only [follow_set free _ follows]
    · cases resolved

/-- Where a file was written, the directories are those that were there before. -/
theorem directory_of_write (written : files.write path bytes = .ok files')
    (there : files'.at? here = some .directory) : files.at? here = some .directory := by
  obtain ⟨names, _, _, rfl⟩ := write_ok written
  by_cases same : here = names
  · subst same
    cases fixed : isFixed here with
    | false =>
        rw [at?_set_self files _ fixed] at there
        cases there
    | true => simp only [at?, fixed, if_true]
  · rwa [at?_set_of_ne same] at there

theorem follow_of_write {there : List String} (written : files.write path bytes = .ok files')
    (rest : List String) (follows : files'.follow here rest = .ok there) :
    files.follow here rest = .ok there := by
  induction rest generalizing here with
  | nil => exact follows
  | cons name rest ih =>
      rw [follow] at follows ⊢
      split at follows
      · rename_i found
        rw [directory_of_write written found]
        split at follows
        · cases follows
        · rename_i short
          simp only [if_neg short]
          exact ih follows
      · cases follows
      · cases follows

/-- Where a file was written, a path leads where it led before. -/
theorem resolve_of_write {other : Path} {there : List String}
    (written : files.write path bytes = .ok files') (leads : files'.resolve other = .ok there) :
    files.resolve other = .ok there := by
  unfold resolve at leads ⊢
  split at leads
  · cases leads
  · split at leads
    · rename_i follows
      cases leads
      simp only [follow_of_write written _ follows]
    · cases leads

/-- Writing one file keeps no other from being written. -/
theorem Writable.after_write {other : Path} (writable : files.Writable other)
    (written : files.write path bytes = .ok files') : files'.Writable other := by
  obtain ⟨there, resolved', open_⟩ := writable
  obtain ⟨names, resolved, free, rfl⟩ := write_ok written
  refine ⟨there, resolve_set free resolved', ?_⟩
  by_cases same : there = names
  · subst same
    cases fixed : isFixed there with
    | true => exact absurd (by simp [at?, fixed]) free
    | false => simp [at?_set_self files _ fixed]
  · rwa [at?_set_of_ne same]

/-- **What was written is read back.** -/
theorem read_write (written : files.write path bytes = .ok files') :
    files'.find? path = .ok (some (.file bytes)) ∧ files'.read path = .ok bytes := by
  obtain ⟨names, resolved, free, rfl⟩ := write_ok written
  have unfixed : isFixed names = false := by
    cases fixed : isFixed names with
    | false => rfl
    | true => exact absurd (by simp [at?, fixed]) free
  have again : (Files.mk (set names (.file bytes) files.entries)).resolve path = .ok names :=
    resolve_set free resolved
  have there := at?_set_self files (.file bytes) unfixed
  constructor
  · simp only [find?, again, there]
  · simp only [read, again, there]

/-- What is at other places is not changed by a write. -/
theorem at?_write_of_ne (written : files.write path bytes = .ok files')
    (apart : files.resolve path ≠ .ok here) : files'.at? here = files.at? here := by
  obtain ⟨names, resolved, _, rfl⟩ := write_ok written
  exact at?_set_of_ne fun same => apart (same ▸ resolved)

/-- What can be read at another place can still be read there after a write. -/
theorem read_write_of_ne {other : Path} {content : List UInt8}
    (written : files.write path bytes = .ok files')
    (apart : ∀ there, files.resolve other = .ok there → files.resolve path ≠ .ok there)
    (read : files.read other = .ok content) : files'.read other = .ok content := by
  unfold Files.read at read
  split at read
  · cases read
  · rename_i there leads
    have held := at?_write_of_ne written (apart there leads)
    obtain ⟨names, _, free, rfl⟩ := write_ok written
    simp only [Files.read, resolve_set free leads, held]
    exact read

/-- What can be read at another place after a write could be read there before. -/
theorem read_of_write {other : Path} {content : List UInt8}
    (written : files.write path bytes = .ok files')
    (apart : ∀ there, files.resolve other = .ok there → files.resolve path ≠ .ok there)
    (read : files'.read other = .ok content) : files.read other = .ok content := by
  unfold Files.read at read
  split at read
  · cases read
  · rename_i there leads
    have led := resolve_of_write written leads
    rw [at?_write_of_ne written (apart there led)] at read
    simp only [Files.read, led]
    exact read

/-- What does not exceed a limit does not exceed a higher one. -/
theorem exceeds_of_le {text : String} {low high : Nat} (le : low ≤ high)
    (within : exceeds low text = false) : exceeds high text = false := by
  simp only [exceeds, decide_eq_false_iff_not, Nat.not_lt] at within ⊢
  exact Nat.le_trans within le

theorem isFixed_name {name : String} (isName : Path.IsName name) : isFixed [name] = false := by
  have below : [name] ≠ root := by
    intro same
    have slash : name = "/" := (List.cons.inj same).1
    exact isName.free (slash ▸ by decide)
  simp [isFixed, below, isName.upward]

/-- A file can be written under a name in the working directory if the name can be the name of a
file and is not that of a directory. -/
theorem writable_name {name : String} (isName : Path.IsName name) :
    files.Writable (Path.ofText name) ↔ '\x00' ∉ name.toList ∧
      exceeds maxNameBytes name = false ∧ files.entries.lookup [name] ≠ some .directory := by
  have trouble : trouble? ⟨0, [name]⟩ = none ↔
      '\x00' ∉ name.toList ∧ exceeds maxPathBytes name = false := by
    rw [trouble?, Path.text_name]
    split <;> simp_all
  have there : files.at? [name] = files.entries.lookup [name] := by
    rw [at?, isFixed_name isName]
    rfl
  have step : files.follow [] [name] =
      if exceeds maxNameBytes name then .error .nameTooLong else .ok [name] := by
    have here : files.at? [] = some .directory := rfl
    simp only [follow, here, below, isName.upward, if_false, List.nil_append]
  rw [Path.ofText_name isName]
  unfold Writable resolve
  simp only [start, if_true, step]
  constructor
  · rintro ⟨names, resolved, free⟩
    cases found : trouble? ⟨0, [name]⟩ with
    | some fault => simp [found] at resolved
    | none =>
        cases long : exceeds maxNameBytes name with
        | true => simp [found, long] at resolved
        | false =>
            obtain rfl : [name] = names := by simpa [found, long] using resolved
            exact ⟨(trouble.mp found).1, rfl, there ▸ free⟩
  · rintro ⟨visible, short, free⟩
    have found : trouble? ⟨0, [name]⟩ = none :=
      trouble.mpr ⟨visible, exceeds_of_le (by decide) short⟩
    exact ⟨[name], by simp [found, short], there.symm ▸ free⟩

/-! ## Making directories -/

/-- The bytes of the file at a place, if there is one. -/
def fileAt? (files : Files) (names : List String) : Option (List UInt8) :=
  match files.at? names with
  | some (.file bytes) => some bytes
  | _ => none

/-- A directory where there was nothing is no file. -/
theorem fileAt?_set_directory (free : files.at? names = none) :
    (Files.mk (set names .directory files.entries)).fileAt? here = files.fileAt? here := by
  by_cases same : here = names
  · subst same
    have unfixed : isFixed here = false := by
      cases fixed : isFixed here with
      | false => rfl
      | true => simp [at?, fixed] at free
    simp only [fileAt?, at?_set_self files .directory unfixed, free]
  · simp only [fileAt?, at?_set_of_ne same]

theorem fileAt?_makeFrom {made : Bool} {walked there : List String} (rest : List String) :
    (files.makeFrom path made walked there rest).1.fileAt? here = files.fileAt? here := by
  induction rest generalizing files made walked there with
  | nil => rfl
  | cons name rest ih =>
      simp only [makeFrom]
      split
      · rfl
      · split
        · exact ih
        · rfl
        · rename_i free
          exact ih.trans (fileAt?_set_directory free)

/-- Making directories changes no file. -/
theorem fileAt?_makeDirectories :
    (files.makeDirectories path).1.fileAt? here = files.fileAt? here := by
  unfold makeDirectories
  split
  · rfl
  · exact fileAt?_makeFrom _

end Files

end WebPilot
