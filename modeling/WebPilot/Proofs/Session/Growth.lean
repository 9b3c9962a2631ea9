import WebPilot.Proofs.Session.Asking

/-!
# How the ledger of a session grows

A session leaves its files and its ledger behind.  Showing, waiting and asking touch neither of
them, and nor does a call that is not recorded (`Session.execute_kept`).  A call that is recorded is
added to the ledger, and only then may a file of its own be written: **the ledger only grows, and
where it has not grown the files are the same** (`World.Grows`).
-/

namespace WebPilot

set_option autoImplicit false

/-! ## Frames -/

/-- What a session leaves behind. -/
def World.kept (w : World) : Files × Ledger :=
  (w.files, w.ledger)

/-- The ledger has grown by these calls; files were written only if there are any. -/
structure World.Learns (w : World) (new : List Invocation) (w' : World) : Prop where
  ledger : w'.ledger.invocations = w.ledger.invocations ++ new
  directory : w'.ledger.crashDirectory = w.ledger.crashDirectory
  files : new = [] → w'.files = w.files

namespace World.Learns

variable {w w' w'' : World} {new more : List Invocation}

/-- Where files and ledger stay the same nothing is learned. -/
theorem of_same (same : Same World.kept w w') : w.Learns [] w' := by
  obtain ⟨files, ledger⟩ := Prod.mk.inj same
  exact ⟨by rw [ledger, List.append_nil], by rw [ledger], fun _ => files⟩

theorem trans (before : w.Learns new w') (after : w'.Learns more w'') :
    w.Learns (new ++ more) w'' where
  ledger := by rw [after.ledger, before.ledger, List.append_assoc]
  directory := after.directory.trans before.directory
  files nothing := by
    obtain ⟨first, second⟩ := List.append_eq_nil_iff.mp nothing
    exact (after.files second).trans (before.files first)

end World.Learns

/-- The ledger grows, or it stays and so do the files. -/
def World.Grows (w w' : World) : Prop :=
  ∃ new, w.Learns new w'

instance : Frame World.Grows where
  refl _ := ⟨[], .of_same rfl⟩
  trans := fun ⟨_, before⟩ ⟨_, after⟩ => ⟨_, before.trans after⟩

/-! ## Acts -/

namespace Act

variable {α : Type}

theorem Quiet.kept {act : Act α} (quiet : act.Quiet) : act.Keeps (Same World.kept) :=
  Quiet.same (fun _ => rfl) quiet

theorem grows_of_kept {act : Act α} (kept : act.Keeps (Same World.kept)) :
    act.Keeps World.Grows :=
  kept.mono fun _ _ same => ⟨[], .of_same same⟩

theorem Quiet.grows {act : Act α} (quiet : act.Quiet) : act.Keeps World.Grows :=
  grows_of_kept quiet.kept

end Act

/-- Asking the model leaves files and ledger alone. -/
theorem ModelService.ask_kept (service : ModelService) (request : Request) :
    (service.ask request).Keeps (Same World.kept) :=
  (service.ask_unasked request).mono fun _ _ same => same.map World.kept

/-- A recorded call is what the ledger grows by. -/
theorem Act.record_learns (i : Invocation) (s : Surroundings) (w : World) :
    w.Learns [i] (Act.record i s w).2 := by
  have grown := (w.ledger.record_spec (s.readingAt w.readingsTaken) w.files i).1
  have directory : (w.ledger.record (s.readingAt w.readingsTaken) w.files i).ledger.crashDirectory =
      w.ledger.crashDirectory := by
    simp only [Ledger.record, Ledger.append]
    split
    · rfl
    · split <;> rfl
  have unwritten (nothing : [i] = []) : (Act.record i s w).2.files = w.files :=
    absurd nothing (List.cons_ne_nil i [])
  refine ⟨?_, ?_, unwritten⟩
  all_goals
    simp only [Act.record]
    split <;> assumption

namespace Session

theorem call_kept (session : Session) (tool : String) (arguments : Fields) :
    (session.call tool arguments).Keeps (Same World.kept) := by
  intro s w
  simp only [call]
  split <;> rfl

/-- A call that is not recorded leaves files and ledger alone. -/
theorem execute_kept (session : Session) (tool : String) (arguments : Fields) :
    (session.execute tool arguments false).Keeps (Same World.kept) := by
  intro s w
  rw [execute_unrecorded]
  rfl

/-- **Executing a call makes the ledger grow, if anything.** -/
theorem execute_grows (session : Session) (tool : String) (arguments : Fields) (recorded : Bool) :
    (session.execute tool arguments recorded).Keeps World.Grows := by
  have now : Act.now.Keeps World.Grows := Act.grows_of_kept fun _ _ => rfl
  unfold execute
  split
  · exact .fail _
  · exact .bind (Act.grows_of_kept (session.call_kept tool arguments)) fun _ =>
      .bind (.when_ (.bind now fun _ s w => ⟨_, Act.record_learns _ s w⟩)) fun _ => .done _

end Session

end WebPilot
