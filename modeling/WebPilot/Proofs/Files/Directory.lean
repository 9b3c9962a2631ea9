import WebPilot.Proofs.Files.Writing

/-!
# Files in a directory

A name in a directory leads to the place of the directory with the name behind it
(`Files.resolve_child`).  **Where a file with a new name is written, it comes last in the directory,
the other entries stay as they are, and what could be read in the directory still can be**
(`Files.write_child`).
-/

namespace WebPilot

set_option autoImplicit false

namespace Files

variable {files files' : Files} {directory : Path} {place here names : List String} {name : String}
  {entry : Entry} {bytes : List UInt8}

/-! ## Ways -/

/-- A way may be followed in two parts. -/
theorem follow_append (files : Files) (here first rest : List String) :
    files.follow here (first ++ rest) =
      match files.follow here first with
      | .ok there => files.follow there rest
      | .error trouble => .error trouble := by
  induction first generalizing here with
  | nil => rfl
  | cons name first ih =>
      simp only [List.cons_append, follow]
      split
      · split
        · rfl
        · exact ih _
      · rfl
      · rfl

/-- A way to a name in a directory is a way to the directory and one step. -/
theorem follow_child (resolved : files.resolve (directory.child name) = .ok names) :
    ∃ there, files.follow (start directory) directory.names = .ok there ∧
      names = below there name ∧ exceeds maxNameBytes name = false := by
  unfold resolve at resolved
  split at resolved
  · cases resolved
  · split at resolved
    · rename_i follows
      cases resolved
      rw [Path.child, follow_append] at follows
      split at follows
      · rename_i there way
        refine ⟨there, way, ?_⟩
        simp only [follow] at follows
        split at follows
        · split at follows
          · cases follows
          · rename_i short
            cases follows
            exact ⟨rfl, by simpa using short⟩
        · cases follows
        · cases follows
      · cases follows
    · cases resolved

/-- A path that leads somewhere has a way there. -/
theorem follow_of_resolve (leads : files.resolve directory = .ok place) :
    files.follow (start directory) directory.names = .ok place := by
  unfold resolve at leads
  split at leads
  · cases leads
  · split at leads
    · rename_i follows
      cases leads
      exact follows
    · cases leads

/-- A name other than the way out leads from a directory to the place behind it. -/
theorem resolve_child (leads : files.resolve directory = .ok place) (onward : name ≠ "..")
    (resolved : files.resolve (directory.child name) = .ok names) :
    names = place ++ [name] ∧ exceeds maxNameBytes name = false := by
  obtain ⟨there, follows, rfl, short⟩ := follow_child resolved
  rw [follow_of_resolve leads] at follows
  cases follows
  exact ⟨by rw [below, if_neg onward], short⟩

/-- A place that a name leads to ends in the name. -/
theorem getLast?_resolve_child (onward : name ≠ "..")
    (resolved : files.resolve (directory.child name) = .ok names) :
    names.getLast? = some name := by
  obtain ⟨there, _, rfl, _⟩ := follow_child resolved
  rw [below, if_neg onward, List.getLast?_concat]

/-- Different names lead to different places. -/
theorem below_ne {there : List String} {other : String} (onward : other ≠ "..")
    (different : name ≠ other) : below there name ≠ below there other := by
  intro same
  rw [below, below, if_neg onward] at same
  split at same
  · -- The way out leads to a shorter place, or further out.
    unfold above at same
    split at same
    · rename_i here
      subst here
      simp [root] at same
    · split at same
      · exact onward (List.cons.inj (List.append_cancel_left same)).1.symm
      · have lengths := congrArg List.length same
        simp only [List.length_dropLast, List.length_append, List.length_singleton] at lengths
        omega
  · exact different (List.cons.inj (List.append_cancel_left same)).1

/-! ## What is inside -/

/-- What is at a place in a directory is inside the directory. -/
theorem mem_inside (member : (place ++ [name], entry) ∈ files.entries) :
    (name, entry) ∈ files.inside place :=
  List.mem_filterMap.mpr ⟨_, member, by simp⟩

/-- A new place goes to the end. -/
theorem set_of_fresh {entries : List (List String × Entry)}
    (fresh : names ∉ entries.map Prod.fst) :
    set names entry entries = entries ++ [(names, entry)] := by
  induction entries with
  | nil => rfl
  | cons first rest ih =>
      simp only [List.map_cons, List.mem_cons, not_or] at fresh
      rw [set, if_neg (Ne.symm fresh.1), ih fresh.2, List.cons_append]

/-- What has a new name comes last in its directory. -/
theorem inside_set (fresh : name ∉ (files.inside place).map Prod.fst) :
    (Files.mk (set (place ++ [name]) entry files.entries)).inside place =
      files.inside place ++ [(name, entry)] := by
  have absent : place ++ [name] ∉ files.entries.map Prod.fst := by
    intro member
    obtain ⟨⟨_, old⟩, listed, rfl⟩ := List.mem_map.mp member
    exact fresh (List.mem_map_of_mem (mem_inside listed))
  rw [set_of_fresh absent, inside, List.filterMap_append]
  simp [inside]

/-! ## Writing -/

/-- What can be read in a directory still can after a file with another name was written there. -/
theorem read_write_child {other : String} {content : List UInt8} (onward : name ≠ "..")
    (upward : other ≠ "..") (different : other ≠ name)
    (written : files.write (directory.child name) bytes = .ok files')
    (read : files.read (directory.child other) = .ok content) :
    files'.read (directory.child other) = .ok content := by
  refine read_write_of_ne written (fun there leads same => ?_) read
  have lastName := getLast?_resolve_child onward same
  rw [getLast?_resolve_child upward leads] at lastName
  exact different (Option.some.inj lastName)

/-- **A file with a new name comes last in its directory**, and disturbs nothing there. -/
theorem write_child (leads : files.resolve directory = .ok place)
    (there : files.at? place = some .directory) (onward : name ≠ "..")
    (fresh : name ∉ (files.inside place).map Prod.fst)
    (written : files.write (directory.child name) bytes = .ok files') :
    exceeds maxNameBytes name = false ∧ files'.resolve directory = .ok place ∧
      files'.at? place = some .directory ∧
      files'.inside place = files.inside place ++ [(name, .file bytes)] ∧
      ∀ other content, other ≠ ".." → other ≠ name →
        files.read (directory.child other) = .ok content →
        files'.read (directory.child other) = .ok content := by
  obtain ⟨names, resolved, free, rfl⟩ := write_ok written
  obtain ⟨rfl, short⟩ := resolve_child leads onward resolved
  have apart : place ≠ place ++ [name] := fun same => by
    simpa using congrArg List.length same
  exact ⟨short, resolve_set free leads, (at?_set_of_ne apart).trans there, inside_set fresh,
    fun _ _ upward different => read_write_child onward upward different written⟩

end Files

end WebPilot
