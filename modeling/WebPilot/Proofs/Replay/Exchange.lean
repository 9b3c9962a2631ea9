import WebPilot.Proofs.Replay.Reconcile
import WebPilot.Proofs.Session.Growth

/-!
# A replay exchanges the ledger at its end

While a replay goes on, it leaves the files and the ledger of the session alone
(`Replayer.replayFrom_kept`): its calls are not recorded, and the ledger that it builds is its own.
At its end it writes that ledger to a file beside the one replayed, says so, and then gives it to
the session.  **So a replay either leaves files and ledger as they were, or it has come to its end,
and the ledger of the session is the one that it built and wrote** (`Replayer.replay_ends`), with at
least one call in it.  There is one ending between the two: the ledger is in its file, and the
console refuses the line that says so, for the path in it.
-/

namespace WebPilot

set_option autoImplicit false

theorem Act.now_kept : Act.now.Keeps (Same World.kept) :=
  fun _ _ => rfl

namespace Replayer

variable (r : Replayer)

/-! ## Entries -/

theorem repair_kept (recorded previous : Invocation) :
    (r.repair recorded previous).Keeps (Same World.kept) := by
  unfold repair
  split
  · exact .done _
  · rename_i service _
    have suggests (c : RepairCase) : (service.suggest c).Keeps (Same World.kept) := by
      refine .bind (service.model.ask_kept _) fun reply => ?_
      split
      · exact .done _
      · exact .fail _
    refine .bind (.attempt (suggests _)) fun suggestion => ?_
    split
    · split
      · exact .done _
      · exact .fail _
    · refine .bind (Act.print_quiet _).kept fun _ =>
        .bind (.attempt (r.session.execute_kept _ _)) fun retried => ?_
      split
      · split
        · exact .done _
        · exact .fail _
      · exact .done _

theorem adopt_kept (recorded : Invocation) (previous? : Option Invocation) (first : Execution) :
    (r.adopt recorded previous? first).Keeps (Same World.kept) := by
  unfold adopt
  split
  · exact .done _
  · split
    · exact .done _
    · refine .bind (r.repair_kept _ _) fun repaired => ?_
      split <;> exact .done _

theorem replayOne_kept (index : Nat) (recorded : Invocation) (previous? : Option Invocation) :
    (r.replayOne index recorded previous?).Keeps (Same World.kept) := by
  refine .bind (.attempt (r.session.execute_kept _ _)) fun outcome => ?_
  split
  · split
    · exact .done _
    · exact .fail _
  · exact .bind (r.adopt_kept _ _ _) fun _ => .bind Act.now_kept fun _ => .done _

theorem replayFrom_kept (total index : Nat) (built commands : List Invocation) :
    (r.replayFrom total index built commands).Keeps (Same World.kept) := by
  induction commands generalizing index built with
  | nil => exact .done _
  | cons recorded rest ih =>
      exact .bind (.when_ (Act.sleepFor_quiet _).kept) fun _ =>
        .bind (Act.print_quiet _).kept fun _ =>
        .bind (r.replayOne_kept _ _ _) fun _ => .bind (Act.print_quiet _).kept fun _ =>
        .bind (ih _ _) fun _ => .done _

/-! ## Replays -/

/-- The calls of the ledger that a replay has built; none if it did not come to its end. -/
def built : Except Failure ReplayResult → List Invocation
  | .ok result => result.ledger.invocations
  | .error _ => []

/-- How a replay ends, between the world before and the world after. -/
inductive Ends (path : String) (s : Surroundings) (w w' : World) :
    Except Failure ReplayResult → Prop
  /-- It has not come to its end, or there was nothing to replay. -/
  | unchanged {outcome : Except Failure ReplayResult}
      (idle : ∀ result, outcome = .ok result → result.didReplay = false)
      (nothing : built outcome = []) (same : Same World.kept w w') : Ends path s w w' outcome
  /-- The ledger that it has built is in the file beside the one replayed, but the console has
  refused to say so, and the session has its own. -/
  | unannounced {ledger : Ledger} {failure : Failure} {commands : List Invocation} {loaded : World}
      (load : Act.loadLedger path s w = (.ok (some ⟨commands⟩), loaded)) (recorded : commands ≠ [])
      (refused : s.refusal? (closingLine path) = some failure)
      (stored : ledger.store w.files (updatedPath path) = .ok w'.files)
      (own : w'.ledger = w.ledger) : Ends path s w w' (.error failure)
  /-- The ledger that it has built is in the file beside the one replayed, and in the session. -/
  | exchanged {commands : List Invocation} {loaded : World} {ledger : Ledger}
      {entries : List ReplayEntry}
      (load : Act.loadLedger path s w = (.ok (some ⟨commands⟩), loaded)) (recorded : commands ≠ [])
      (opened : s.Takes (openingLine commands.length path)) (closed : s.Takes (closingLine path))
      (filled : ledger.invocations ≠ [])
      (directory : ledger.crashDirectory = w.ledger.crashDirectory)
      (unnumbered : ledger.lastNumber = 0)
      (stored : ledger.store w.files (updatedPath path) = .ok w'.files)
      (given : w'.ledger = ledger) : Ends path s w w' (.ok ⟨true, ledger, entries⟩)

variable {r} {path : String} {s : Surroundings} {w w' : World}
  {outcome : Except Failure ReplayResult}

/-- **A replay exchanges the ledger at its end or not at all.** -/
theorem replay_ends (run : r.replay path s w = (outcome, w')) : Ends path s w w' outcome := by
  rcases Act.bind_cases run with ⟨document?, loaded, loading, run⟩ | ⟨failure, loading, rfl⟩
  all_goals have before : Same World.kept w _ :=
    (Act.loadLedger_same (fun _ _ => rfl) path).run loading
  case inr => exact .unchanged nofun rfl before
  match document? with
  | none | some ⟨[]⟩ =>
      rcases Act.bind_cases run with ⟨_, _, offering, run⟩ | ⟨failure, offering, rfl⟩
      all_goals have shown := Frame.trans before ((Act.offer_quiet _).kept.run offering)
      · cases run
        exact .unchanged (by rintro _ ⟨⟩; rfl) rfl shown
      · exact .unchanged nofun rfl shown
  | some ⟨first :: rest⟩ =>
      rcases Act.bind_cases run with ⟨_, opened, offering, run⟩ | ⟨failure, offering, rfl⟩
      all_goals have shown := Frame.trans before ((Act.offer_quiet _).kept.run offering)
      case inr => exact .unchanged nofun rfl shown
      rcases Act.bind_cases run with ⟨directory, _, seen, run⟩ | ⟨_, seen, _⟩
      case inr => cases seen
      cases seen
      rcases Act.bind_cases run with ⟨⟨all, entries⟩, replayed, replaying, run⟩ |
        ⟨failure, replaying, rfl⟩
      all_goals have during : Same World.kept w _ :=
        Frame.trans shown ((r.replayFrom_kept _ _ _ _).run replaying)
      case inr => exact .unchanged nofun rfl during
      have files : replayed.files = w.files := during.map Prod.fst
      obtain ⟨news, rfl, length, _⟩ := replayFrom_spec replaying
      rcases Act.exchangeLedger_cases run with ⟨failure, _, rfl, rfl⟩ |
        ⟨_, stored, ⟨failure, refused, rfl, rfl⟩ | ⟨closed, rfl, rfl⟩⟩
      · exact .unchanged nofun rfl during
      · exact .unannounced loading (List.cons_ne_nil _ _) refused (files ▸ stored)
          (during.map Prod.snd)
      · exact .exchanged loading (List.cons_ne_nil _ _) (Act.offer_ok offering).1 closed
          (List.ne_nil_of_length_eq_add_one length)
          (congrArg (fun kept => kept.2.crashDirectory) shown) rfl (files ▸ stored) rfl

end Replayer

/-! ## What a replay learns -/

/-- No file was written, or the one beside the ledger file at a path was, and the console has refused
to say so. -/
def Surroundings.Spares (s : Surroundings) (path : String) (files files' : Files) : Prop :=
  files' = files ∨ (∃ failure, s.refusal? (closingLine path) = some failure) ∧
    ∃ bytes, files.write (Path.ofText (updatedPath path)) bytes = .ok files'

/-- The ledger has grown by these calls, some of which may have been replayed from a path; if there
are none, the files are spared. -/
structure World.LearnsFrom (s : Surroundings) (path : String) (w : World) (new : List Invocation)
    (w' : World) : Prop where
  ledger : w'.ledger.invocations = w.ledger.invocations ++ new
  directory : w'.ledger.crashDirectory = w.ledger.crashDirectory
  files : new = [] → s.Spares path w.files w'.files

namespace World

variable {s : Surroundings} {path : String} {w w' w'' : World} {new more : List Invocation}

theorem Learns.from (learns : w.Learns new w') : w.LearnsFrom s path new w' :=
  ⟨learns.ledger, learns.directory, fun nothing => .inl (learns.files nothing)⟩

/-- What is learned is learned from a world with the same files and ledger. -/
theorem LearnsFrom.of_same (same : Same World.kept w w')
    (learns : w'.LearnsFrom s path new w'') : w.LearnsFrom s path new w'' := by
  obtain ⟨files, ledger⟩ := Prod.mk.inj same
  exact ⟨ledger ▸ learns.ledger, ledger ▸ learns.directory, fun nothing =>
    files ▸ learns.files nothing⟩

theorem LearnsFrom.trans (before : w.LearnsFrom s path new w') (after : w'.Learns more w'') :
    w.LearnsFrom s path (new ++ more) w'' where
  ledger := by rw [after.ledger, before.ledger, List.append_assoc]
  directory := after.directory.trans before.directory
  files nothing := by
    obtain ⟨first, second⟩ := List.append_eq_nil_iff.mp nothing
    rw [after.files second]
    exact before.files first

end World

/-- For an empty ledger, a replay is learning what it has built. -/
theorem Replayer.replay_learns (r : Replayer) (path : String) (s : Surroundings) {w : World}
    (empty : w.ledger.invocations = []) :
    w.LearnsFrom s path (built (r.replay path s w).1) (r.replay path s w).2 := by
  rcases run : r.replay path s w with ⟨outcome, w'⟩
  cases replay_ends run with
  | unchanged idle nothing same =>
      rw [nothing]
      exact (World.Learns.of_same same).from
  | unannounced _ _ refused stored own =>
      exact ⟨by rw [own, built, List.append_nil], by rw [own], fun _ =>
        .inr ⟨⟨_, refused⟩, _, Ledger.write_of_store stored⟩⟩
  | exchanged _ _ _ _ filled directory _ _ given =>
      refine ⟨?_, ?_, fun nothing => absurd nothing filled⟩
      · rw [given, empty, List.nil_append]
        rfl
      · rw [given, directory]

end WebPilot
