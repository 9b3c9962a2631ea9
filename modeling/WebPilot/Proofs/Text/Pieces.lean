import WebPilot.Text.Blank
import WebPilot.Text.Pieces
import Mathlib.Logic.Basic

/-!
# Pieces of texts

Cutting a text at a separator and joining the pieces with it are inverse to each other
(`intercalate_splitOn`, `splitOn_intercalate`).  The pieces do not have the separator in them
(`notMem_of_mem_splitOn`), and what stands behind the last separator belongs to the last piece
(`splitOn_append`).  Trimming takes away what surrounds a text and leaves the text alone
(`trimBy_append`).
-/

namespace WebPilot.Text

set_option autoImplicit false

section Cutting

variable {α : Type} [DecidableEq α] {sep : α} {cs tail : List α}

theorem splitOn_of_notMem (free : sep ∉ cs) : splitOn sep cs = [cs] := by
  induction cs with
  | nil => rfl
  | cons c cs ih =>
      simp only [List.mem_cons, not_or] at free
      rw [splitOn, if_neg (Ne.symm free.1), ih free.2]

/-- The pieces of a text go on where its last piece ends. -/
theorem splitOn_split (sep : α) (cs : List α) :
    ∃ pieces last, splitOn sep cs = pieces ++ [last] ∧ sep ∉ last ∧
      ∀ tail, splitOn sep (cs ++ tail) = pieces ++ splitOn sep (last ++ tail) := by
  induction cs with
  | nil => exact ⟨[], [], rfl, List.not_mem_nil, fun _ => rfl⟩
  | cons c cs ih =>
      obtain ⟨pieces, last, whole, inside, longer⟩ := ih
      by_cases here : c = sep
      · refine ⟨[] :: pieces, last, ?_, inside, fun tail => ?_⟩
        · rw [splitOn, if_pos here, whole, List.cons_append]
        · rw [List.cons_append, splitOn, if_pos here, longer, List.cons_append]
      · cases pieces with
        | nil =>
            refine ⟨[], c :: last, ?_, ?_, fun tail => ?_⟩
            · rw [splitOn, if_neg here, whole]
              rfl
            · simpa [inside] using Ne.symm here
            · rw [List.cons_append, splitOn, if_neg here, longer, List.nil_append, List.nil_append,
                List.cons_append, splitOn, if_neg here]
        | cons piece pieces =>
            refine ⟨(c :: piece) :: pieces, last, ?_, inside, fun tail => ?_⟩
            · rw [splitOn, if_neg here, whole]
              rfl
            · rw [List.cons_append, splitOn, if_neg here, longer]
              rfl

/-- A tail without a separator belongs to the last piece. -/
theorem splitOn_append (cs : List α) (free : sep ∉ tail) :
    ∃ pieces last, splitOn sep cs = pieces ++ [last] ∧ sep ∉ last ∧
      splitOn sep (cs ++ tail) = pieces ++ [last ++ tail] := by
  obtain ⟨pieces, last, whole, inside, longer⟩ := splitOn_split sep cs
  refine ⟨pieces, last, whole, inside, ?_⟩
  rw [longer, splitOn_of_notMem fun member => (List.mem_append.mp member).elim inside free]

theorem splitOn_ne_nil (sep : α) (cs : List α) : splitOn sep cs ≠ [] := by
  obtain ⟨pieces, last, whole, -⟩ := splitOn_append cs (List.not_mem_nil (a := sep))
  rw [whole]
  exact List.append_ne_nil_of_right_ne_nil _ (List.cons_ne_nil _ _)

/-- A piece is cut off at its separator. -/
theorem splitOn_cons {piece : List α} (free : sep ∉ piece) (cs : List α) :
    splitOn sep (piece ++ sep :: cs) = piece :: splitOn sep cs := by
  induction piece with
  | nil => rw [List.nil_append, splitOn, if_pos rfl]
  | cons c piece ih =>
      simp only [List.mem_cons, not_or] at free
      rw [List.cons_append, splitOn, if_neg (Ne.symm free.1), ih free.2]

/-- A start without a separator belongs to the first piece. -/
theorem splitOn_of_start {first : List α} (free : sep ∉ first) (cs : List α) :
    ∃ more pieces, splitOn sep (first ++ cs) = (first ++ more) :: pieces := by
  induction first with
  | nil =>
      obtain ⟨piece, pieces, whole⟩ := List.exists_cons_of_ne_nil (splitOn_ne_nil sep cs)
      exact ⟨piece, pieces, whole⟩
  | cons c first ih =>
      simp only [List.mem_cons, not_or] at free
      obtain ⟨more, pieces, whole⟩ := ih free.2
      refine ⟨more, pieces, ?_⟩
      rw [List.cons_append, splitOn, if_neg (Ne.symm free.1), whole]
      rfl

/-- A text is cut at each separator. -/
theorem splitOn_append_cons (cs tail : List α) :
    splitOn sep (cs ++ sep :: tail) = splitOn sep cs ++ splitOn sep tail := by
  obtain ⟨pieces, last, whole, inside, longer⟩ := splitOn_split sep cs
  rw [longer, splitOn_cons inside, whole, List.append_assoc, List.singleton_append]

/-- Pieces that are joined are cut apart again. -/
theorem splitOn_intercalate {pieces : List (List α)} (filled : pieces ≠ [])
    (free : ∀ piece ∈ pieces, sep ∉ piece) :
    splitOn sep ([sep].intercalate pieces) = pieces := by
  induction pieces with
  | nil => exact absurd rfl filled
  | cons piece pieces ih =>
      obtain ⟨first, others⟩ := List.forall_mem_cons.mp free
      cases pieces with
      | nil =>
          rw [List.intercalate_singleton]
          exact splitOn_of_notMem first
      | cons next pieces =>
          rw [List.intercalate_cons_cons, List.append_assoc, List.singleton_append,
            splitOn_cons first, ih (List.cons_ne_nil _ _) others]

/-- Separators in front are empty pieces. -/
theorem splitOn_replicate (count : Nat) (cs : List α) :
    splitOn sep (List.replicate count sep ++ cs) =
      List.replicate count [] ++ splitOn sep cs := by
  induction count with
  | zero => rfl
  | succ count ih =>
      rw [List.replicate_succ, List.cons_append, splitOn, if_pos rfl, ih, List.replicate_succ,
        List.cons_append]

/-- Pieces have no separator in them. -/
theorem notMem_of_mem_splitOn {piece : List α} (member : piece ∈ splitOn sep cs) :
    sep ∉ piece := by
  induction cs generalizing piece with
  | nil =>
      rw [List.mem_singleton.mp member]
      exact List.not_mem_nil
  | cons c cs ih =>
      rw [splitOn] at member
      split at member
      · rcases List.mem_cons.mp member with rfl | later
        · exact List.not_mem_nil
        · exact ih later
      · rename_i other
        split at member
        · rw [List.mem_singleton.mp member, List.mem_singleton]
          exact Ne.symm other
        · rename_i first rest split
          rcases List.mem_cons.mp member with rfl | later
          · have inside := ih (split ▸ List.mem_cons_self)
            simp only [List.mem_cons, not_or]
            exact ⟨Ne.symm other, inside⟩
          · exact ih (split ▸ List.mem_cons_of_mem _ later)

/-- A text that holds the separator has more than one piece. -/
theorem splitOn_of_mem (member : sep ∈ cs) :
    ∃ first second pieces, splitOn sep cs = first :: second :: pieces := by
  induction cs with
  | nil => exact absurd member List.not_mem_nil
  | cons c cs ih =>
      rw [splitOn]
      split
      · obtain ⟨piece, pieces, whole⟩ := List.exists_cons_of_ne_nil (splitOn_ne_nil sep cs)
        exact ⟨[], piece, pieces, by rw [whole]⟩
      · rename_i other
        obtain ⟨first, second, pieces, whole⟩ :=
          ih ((List.mem_cons.mp member).resolve_left (Ne.symm other))
        exact ⟨c :: first, second, pieces, by rw [whole]⟩

/-- A text that is cut apart is joined again. -/
theorem intercalate_splitOn (sep : α) (cs : List α) :
    [sep].intercalate (splitOn sep cs) = cs := by
  induction cs with
  | nil => exact List.intercalate_singleton
  | cons c cs ih =>
      obtain ⟨piece, pieces, whole⟩ := List.exists_cons_of_ne_nil (splitOn_ne_nil sep cs)
      rw [whole] at ih
      rw [splitOn, whole]
      split
      · rename_i here
        rw [List.intercalate_cons_cons, ih, here]
        rfl
      · cases pieces with
        | nil =>
            rw [List.intercalate_singleton] at ih ⊢
            rw [ih]
        | cons next pieces =>
            rw [List.intercalate_cons_cons, List.cons_append, List.cons_append, ← ih,
              List.intercalate_cons_cons]

end Cutting

section Joining

variable {α β : Type}

/-- Joined texts hold a character that does not join them if one of them does. -/
theorem mem_intercalate_iff {c sep : α} (other : c ≠ sep) (pieces : List (List α)) :
    c ∈ [sep].intercalate pieces ↔ ∃ piece ∈ pieces, c ∈ piece := by
  induction pieces with
  | nil => simp [List.intercalate]
  | cons piece rest ih =>
      cases rest with
      | nil => simp
      | cons next rest =>
          rw [List.intercalate_cons_cons, List.mem_append, List.mem_append, ih]
          simp [other]

theorem joinWith_eq_intercalate (sep : List α) (pieces : List (List α)) :
    joinWith sep pieces = sep.intercalate pieces := by
  induction pieces with
  | nil => rfl
  | cons piece pieces ih =>
      cases pieces with
      | nil => rw [joinWith, List.intercalate_singleton]
      | cons next pieces => rw [joinWith, ih, List.intercalate_cons_cons]; simp

theorem map_intersperse (f : α → β) (between : α) (pieces : List α) :
    (pieces.intersperse between).map f = (pieces.map f).intersperse (f between) := by
  induction pieces with
  | nil => rfl
  | cons piece pieces ih =>
      cases pieces with
      | nil => rfl
      | cons next pieces =>
          rw [List.intersperse_cons_cons, List.map_cons, List.map_cons, ih]
          simp only [List.map_cons, List.intersperse_cons_cons]

/-- A piece that always stands in between is a part of the separator. -/
theorem intercalate_intersperse (sep between : List α) (pieces : List (List α)) :
    sep.intercalate (pieces.intersperse between) =
      (sep ++ between ++ sep).intercalate pieces := by
  induction pieces with
  | nil => rfl
  | cons piece pieces ih =>
      cases pieces with
      | nil => rfl
      | cons next pieces =>
          have filled : (next :: pieces).intersperse between ≠ [] := by
            cases pieces <;> exact List.cons_ne_nil _ _
          obtain ⟨first, rest, shape⟩ := List.exists_cons_of_ne_nil filled
          rw [List.intersperse_cons_cons, shape]
          rw [shape] at ih
          simp only [List.intercalate_cons_cons, ih, List.append_assoc]

end Joining

/-- What stands in front of a text is not changed by a tail that does not go on with it. -/
theorem takeWhile_append {p : Char → Bool} {tail : List Char} (cs : List Char)
    (stops : ∀ c ∈ tail.head?, p c = false) :
    (cs ++ tail).takeWhile p = cs.takeWhile p := by
  induction cs with
  | nil =>
      cases tail with
      | nil => rfl
      | cons c tail => simp [stops c rfl]
  | cons c cs ih => simp only [List.cons_append, List.takeWhile_cons, ih]

section Trimming

variable {α : Type} {p : α → Bool} {before cs after : List α}

theorem dropWhile_append (all : ∀ c ∈ before, p c = true) (stops : ∀ c ∈ cs.head?, p c = false) :
    (before ++ cs).dropWhile p = cs := by
  rw [List.dropWhile_append_of_pos all]
  cases cs with
  | nil => rfl
  | cons c cs => rw [List.dropWhile_cons, stops c rfl, if_neg Bool.false_ne_true]

theorem dropRight_append (all : ∀ c ∈ after, p c = true) (stops : ∀ c ∈ cs.getLast?, p c = false) :
    dropRight p (cs ++ after) = cs := by
  rw [dropRight, List.reverse_append, dropWhile_append, List.reverse_reverse]
  · intro c member
    exact all c (List.mem_reverse.mp member)
  · rwa [List.head?_reverse]

/-- What is dropped at the end. -/
theorem dropRight_split (p : α → Bool) (cs : List α) :
    ∃ tail, cs = dropRight p cs ++ tail ∧ (∀ c ∈ tail, p c = true) ∧
      ∀ c ∈ (dropRight p cs).getLast?, p c = false := by
  refine ⟨(cs.reverse.takeWhile p).reverse, ?_, fun c member => ?_, fun c last => ?_⟩
  · rw [dropRight, ← List.reverse_append, List.takeWhile_append_dropWhile, List.reverse_reverse]
  · exact List.all_eq_true.mp List.all_takeWhile c (List.mem_reverse.mp member)
  · rw [dropRight, List.getLast?_reverse] at last
    have kept := List.head?_dropWhile_not p cs.reverse
    rw [Option.mem_def.mp last] at kept
    exact kept

/-- A text up to its last separator has the same pieces, but for the last, which is empty. -/
theorem splitOn_dropRight [DecidableEq α] (sep : α) (cs : List α) :
    splitOn sep (dropRight (· ≠ sep) cs) = (splitOn sep cs).dropLast ++ [[]] := by
  obtain ⟨tail, whole, free, last⟩ := dropRight_split (· ≠ sep) cs
  have free : sep ∉ tail := fun member => of_decide_eq_true (free sep member) rfl
  generalize dropRight (· ≠ sep) cs = kept at whole last
  subst whole
  rcases List.eq_nil_or_concat kept with rfl | ⟨before, b, rfl⟩
  · rw [List.nil_append, splitOn_of_notMem free]
    rfl
  · rw [List.concat_eq_append] at last ⊢
    obtain rfl : b = sep := by simpa using last b List.getLast?_concat
    rw [List.append_assoc, List.singleton_append, splitOn_append_cons, splitOn_append_cons,
      splitOn_of_notMem free, List.dropLast_concat]
    rfl

/-- What is trimmed is what surrounds a text. -/
theorem trimBy_append (filled : cs ≠ []) (allBefore : ∀ c ∈ before, p c = true)
    (allAfter : ∀ c ∈ after, p c = true) (starts : ∀ c ∈ cs.head?, p c = false)
    (ends : ∀ c ∈ cs.getLast?, p c = false) : trimBy p (before ++ cs ++ after) = cs := by
  have head : (cs ++ after).head? = cs.head? := by
    obtain ⟨c, cs, rfl⟩ := List.exists_cons_of_ne_nil filled
    rfl
  rw [trimBy, List.append_assoc, dropWhile_append allBefore (head ▸ starts),
    dropRight_append allAfter ends]

/-- Where nothing is to be trimmed nothing is. -/
theorem trimBy_of_none (none : ∀ c ∈ cs, p c = false) : trimBy p cs = cs := by
  cases cs with
  | nil => rfl
  | cons c cs =>
      have kept := trimBy_append (List.cons_ne_nil c cs) (List.forall_mem_nil _)
        (List.forall_mem_nil _) (fun c head => none c (List.mem_of_mem_head? head))
        (fun c last => none c (List.mem_of_mem_getLast? last))
      rwa [List.nil_append, List.append_nil] at kept

end Trimming

end WebPilot.Text
