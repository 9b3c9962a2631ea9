import WebPilot.Proofs.Files.Directory
import WebPilot.Proofs.Text.Pieces
import WebPilot.Replay.Basic

/-!
# The file beside another

A path with a suffix behind it leads to another place than the path itself.  The suffix goes to the
last name, or is a name of its own where the path ends in a slash or a point, and then the path
would have to lead to a directory (`Path.ofText_append`).  **So a file that is written beside another
leaves that one alone** (`Files.resolve_append_ne`), **and every file whose name does not have the
suffix** (`Files.getLast?_resolve_append`).
-/

namespace WebPilot

set_option autoImplicit false

/-! ## Paths -/

namespace Path

/-- A piece of a text of a path that is a name. -/
def IsPiece (name : String) : Prop :=
  '/' ∉ name.toList ∧ name ≠ "" ∧ name ≠ "."

/-- The path is what a text can be read as. -/
structure Plain (p : Path) : Prop where
  slashes : p.slashes ≤ 2
  names : ∀ name ∈ p.names, IsPiece name

theorem plain_ofText (s : String) : (ofText s).Plain where
  slashes := by
    simp only [ofText]
    split
    · exact Nat.le_refl 2
    · omega
  names := by
    intro name member
    simp only [ofText, List.mem_filter, List.mem_map, decide_eq_true_eq] at member
    obtain ⟨⟨piece, cut, rfl⟩, filled, onward⟩ := member
    refine ⟨?_, filled, onward⟩
    rw [String.toList_ofList]
    exact Text.notMem_of_mem_splitOn cut

section Texts

variable {names : List String} (pieces : ∀ name ∈ names, IsPiece name)

include pieces

/-- The names of a path do not go on with the slashes in front. -/
theorem head?_intercalate_ne :
    ∀ c ∈ (['/'].intercalate (names.map String.toList)).head?, decide (c = '/') = false := by
  cases names with
  | nil => simp [List.intercalate]
  | cons name names =>
      intro c head
      obtain ⟨⟨free, filled, _⟩, _⟩ := List.forall_mem_cons.mp pieces
      have member : c ∈ name.toList := by
        cases shape : name.toList with
        | nil => exact absurd (String.toList_eq_nil_iff.mp shape) filled
        | cons first rest =>
            cases names <;> simp_all [List.intercalate]
      exact decide_eq_false fun same => free (same ▸ member)

/-- The names of a path are its pieces. -/
theorem filter_splitOn_intercalate :
    ((Text.splitOn '/' (['/'].intercalate (names.map String.toList))).map String.ofList).filter
      (fun piece => piece ≠ "" ∧ piece ≠ ".") = names := by
  cases names with
  | nil => rfl
  | cons name rest =>
      have free : ∀ piece ∈ (name :: rest).map String.toList, '/' ∉ piece := by
        intro piece member
        obtain ⟨name', listed, rfl⟩ := List.mem_map.mp member
        exact (pieces name' listed).1
      rw [Text.splitOn_intercalate (by simp) free, List.map_map, List.filter_eq_self.mpr]
      · simp
      · intro piece member
        have listed : piece ∈ name :: rest := by simpa using member
        exact decide_eq_true (pieces piece listed).2

end Texts

/-- **A path is read back from its text.** -/
theorem ofText_text {p : Path} (plain : p.Plain) : ofText p.text = p := by
  obtain ⟨slashes, names⟩ := p
  obtain ⟨few, pieces⟩ := plain
  simp only at few pieces
  by_cases empty : slashes = 0 ∧ names = []
  · obtain ⟨rfl, rfl⟩ := empty
    rfl
  · have text : (Path.mk slashes names).text.toList =
        List.replicate slashes '/' ++ ['/'].intercalate (names.map String.toList) := by
      simp only [Path.text, if_neg empty, String.toList_append, String.toList_ofList,
        String.toList_intercalate]
      rfl
    have lead : ((List.replicate slashes '/' ++
        ['/'].intercalate (names.map String.toList)).takeWhile (· = '/')).length = slashes := by
      have all : ∀ c ∈ List.replicate slashes '/', decide (c = '/') = true := by
        intro c member
        exact decide_eq_true (List.eq_of_mem_replicate member)
      have nothing := Text.takeWhile_append [] (head?_intercalate_ne pieces)
      rw [List.nil_append, List.takeWhile_nil] at nothing
      rw [List.takeWhile_append_of_pos all, nothing, List.append_nil, List.length_replicate]
    have blank : (((List.replicate slashes ([] : List Char)).map String.ofList).filter
        fun piece => piece ≠ "" ∧ piece ≠ ".") = [] := by
      simp
    simp only [ofText, text, lead, Text.splitOn_replicate, List.map_append, List.filter_append,
      blank, filter_splitOn_intercalate pieces, List.nil_append]
    congr 1
    split <;> omega

/-- The plain form of a path is the same path. -/
theorem ofText_tidy (s : String) : ofText (tidy s) = ofText s :=
  ofText_text (plain_ofText s)

/-- **A suffix goes to the last name, or is a name in the path**, where that ends in a slash or a
point. -/
theorem ofText_append (s : String) {suffix : String} (free : '/' ∉ suffix.toList)
    (long : 1 < suffix.length) :
    ∃ directory last, ofText (s ++ suffix) = directory.child (last ++ suffix) ∧
      (ofText s = directory ∨ ofText s = directory.child last) := by
  obtain ⟨pieces, last, whole, inside, longer⟩ := Text.splitOn_append s.toList free
  have lead : (s.toList ++ suffix.toList).takeWhile (· = '/') = s.toList.takeWhile (· = '/') := by
    refine Text.takeWhile_append _ fun c head => decide_eq_false fun same => free ?_
    rw [← same]
    exact List.mem_of_head? head
  let mean (piece : String) : Bool := decide (piece ≠ "" ∧ piece ≠ ".")
  have joined : String.ofList (last ++ suffix.toList) = String.ofList last ++ suffix := by
    rw [String.ofList_append, String.ofList_toList]
  have kept : mean (String.ofList last ++ suffix) = true := by
    have length : 1 < (String.ofList last ++ suffix).length := by
      rw [String.length_append]
      omega
    refine decide_eq_true ⟨?_, ?_⟩
    · rintro same
      rw [same] at length
      exact absurd length (by decide)
    · rintro same
      rw [same] at length
      exact absurd length (by decide)
  refine ⟨⟨(ofText s).slashes, (pieces.map String.ofList).filter mean⟩, String.ofList last, ?_, ?_⟩
  · simp only [ofText, lead, String.toList_append, longer, List.map_append, List.filter_append,
      List.map_singleton, joined]
    rw [List.filter_cons_of_pos kept]
    rfl
  · simp only [ofText, whole, List.map_append, List.filter_append, List.map_singleton]
    by_cases named : mean (String.ofList last) = true
    · rw [List.filter_cons_of_pos named]
      exact .inr rfl
    · rw [List.filter_cons_of_neg named, List.filter_nil, List.append_nil]
      exact .inl rfl

/-- What follows joined texts belongs to the last one. -/
theorem intercalate_append_last (sep : List Char) (pieces : List (List Char))
    (last tail : List Char) :
    sep.intercalate (pieces ++ [last ++ tail]) = sep.intercalate (pieces ++ [last]) ++ tail := by
  induction pieces with
  | nil => simp
  | cons piece pieces ih =>
      cases pieces with
      | nil => simp [List.intercalate]
      | cons next pieces =>
          simp only [List.cons_append, List.intercalate_cons_cons, List.append_assoc] at ih ⊢
          rw [ih]

/-- What follows the text of a path belongs to its last name. -/
theorem text_child_append (p : Path) (name suffix : String) :
    (p.child (name ++ suffix)).text = (p.child name).text ++ suffix := by
  have joined : String.intercalate "/" (p.names ++ [name ++ suffix]) =
      String.intercalate "/" (p.names ++ [name]) ++ suffix := by
    apply String.toList_injective
    simp only [String.toList_append, String.toList_intercalate, List.map_append,
      List.map_singleton]
    exact intercalate_append_last _ _ _ _
  have named (name : String) :
      (p.child name).text = String.ofList (List.replicate p.slashes '/') ++
        String.intercalate "/" (p.names ++ [name]) := by
    rw [text, if_neg (by simp [child])]
    rfl
  rw [named, named, joined, String.append_assoc]

end Path

/-- The path of the file beside the file beside another. -/
theorem updatedPath_updatedPath (path : String) :
    updatedPath (updatedPath path) = updatedPath path ++ ".updated" := by
  have unslashed : '/' ∉ ".updated".toList := by decide
  obtain ⟨directory, last, longer, _⟩ := Path.ofText_append path unslashed (by decide)
  have plain := Path.plain_ofText (path ++ ".updated")
  rw [longer] at plain
  have updated : updatedPath path = (directory.child (last ++ ".updated")).text := by
    rw [updatedPath, Path.tidy, longer]
  have twice : (directory.child (last ++ ".updated" ++ ".updated")).Plain := by
    refine ⟨plain.slashes, fun name member => ?_⟩
    rcases List.mem_append.mp member with above | here
    · exact plain.names name (List.mem_append_left _ above)
    · obtain ⟨free, _, _⟩ := plain.names _ (List.mem_append_right _ List.mem_cons_self)
      rw [List.mem_singleton.mp here]
      have longer (short : String) (few : short.length < 8) :
          last ++ ".updated" ++ ".updated" ≠ short := by
        rintro rfl
        rw [String.length_append] at few
        have eight : ".updated".length = 8 := rfl
        omega
      refine ⟨?_, longer "" (by decide), longer "." (by decide)⟩
      rw [String.toList_append, List.mem_append, not_or]
      exact ⟨free, by decide⟩
  rw [updated, updatedPath, ← Path.text_child_append, Path.tidy, Path.ofText_text twice]

/-! ## Places -/

namespace Files

variable {files : Files} {path : String}

/-- The name of a file beside another is no way out. -/
theorem append_ne_up (last : String) {suffix : String} (long : 2 < suffix.length) :
    last ++ suffix ≠ ".." := by
  intro same
  have lengths := congrArg String.length same
  rw [String.length_append] at lengths
  have two : "..".length = 2 := rfl
  omega

/-- **A path with a suffix leads to another place.** -/
theorem resolve_append_ne {suffix : String} (free : '/' ∉ suffix.toList) (long : 2 < suffix.length)
    {names : List String} (leads : files.resolve (Path.ofText path) = .ok names) :
    files.resolve (Path.ofText (path ++ suffix)) ≠ .ok names := by
  obtain ⟨directory, last, longer, whole⟩ := Path.ofText_append path free (by omega)
  have onward := append_ne_up last long
  intro same
  rw [longer] at same
  obtain ⟨there, follows, place, _⟩ := follow_child same
  rcases whole with whole | whole
  · rw [whole] at leads
    rw [follow_of_resolve leads] at follows
    cases follows
    rw [below, if_neg onward] at place
    simpa using congrArg List.length place
  · rw [whole] at leads
    obtain ⟨there', follows', place', _⟩ := follow_child leads
    rw [follows'] at follows
    cases follows
    refine below_ne onward (fun equal => ?_) (place'.symm.trans place)
    have lengths := congrArg String.length equal
    rw [String.length_append] at lengths
    omega

/-- The place of a file beside another ends in the suffix. -/
theorem getLast?_resolve_append {suffix : String} (free : '/' ∉ suffix.toList)
    (long : 2 < suffix.length) {names : List String}
    (leads : files.resolve (Path.ofText (path ++ suffix)) = .ok names) :
    ∃ last, names.getLast? = some (last ++ suffix) := by
  obtain ⟨directory, last, longer, _⟩ := Path.ofText_append path free (by omega)
  rw [longer] at leads
  exact ⟨last, getLast?_resolve_child (append_ne_up last long) leads⟩

end Files

end WebPilot
