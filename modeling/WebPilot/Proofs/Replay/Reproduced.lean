import Mathlib.Data.List.Forall2
import WebPilot.Proofs.Ledger.Keeping
import WebPilot.Proofs.Session.Growth
import WebPilot.Replay.Basic

/-!
# Replaying what is reproduced

What a replay makes of a recorded call is *settled* for a session if it is the same whatever
happened before (`Session.Settles`): the call comes back, without the flag of an error and with a
text that is the same as the recorded one, or it cannot be executed.  An entry that is settled is
kept as it was recorded (`Replayer.replayOne_settled`), and so are all of them, one by one
(`Replayer.replayFrom_settled`).

**A replay of settled calls asks nobody** (`Replayer.replay_settled`), **and what was stored is
settled again exactly if the file beside it can be written and the console takes the lines with its
path** (`Replayer.settles_stored`); a refusal of that file ends the replay when all calls have been
executed.  In particular, a recorded success that the session reproduces is confirmed
(`Replayer.confirms_stored_iff`).
-/

namespace WebPilot

set_option autoImplicit false

/-! ## Ledger files -/

/-- The same calls can be written. -/
theorem Invocation.canWrite_of_contents {is js : List Invocation}
    (contents : is.map Invocation.content = js.map Invocation.content) :
    is.all Invocation.canWrite = js.all Invocation.canWrite := by
  have decided (is : List Invocation) : is.all Invocation.canWrite =
      (is.map Invocation.content).all fun content => Json.canWriteFields content.2.1 := by
    rw [List.all_map]
    rfl
  rw [decided, decided, contents]

/-! ## Entries -/

/-- The recorded call comes back as it was recorded, whatever happened before. -/
def Session.Reproduces (session : Session) (i : Invocation) : Prop :=
  ∀ history, ∃ answer, session.receive history i.tool i.arguments = .answered answer ∧
    answer.flagged = false ∧ answer.render = i.result

/-- What a replay makes of a recorded call, whatever happened before. -/
inductive Session.Settles (session : Session) (i : Invocation) : ReplayStatus → Prop
  /-- It comes back with a text that is the same as the recorded one. -/
  | confirmed (answers : ∀ history, ∃ answer,
      session.receive history i.tool i.arguments = .answered answer ∧
        answer.flagged = false ∧ sameText answer.render i.result = true) :
      Settles session i .confirmed
  /-- It cannot be executed. -/
  | failed (refuses : ∀ history, ∃ failure,
      (session.receive history i.tool i.arguments).outcome i.tool i.arguments = .error failure) :
      Settles session i .failed

/-- A text is the same as itself. -/
theorem sameText_self (text : String) : sameText text text = true :=
  beq_self_eq_true (Text.Digest.ofText text)

/-- What is reproduced is confirmed. -/
theorem Session.Reproduces.settles {session : Session} {i : Invocation}
    (reproduced : session.Reproduces i) : session.Settles i .confirmed := by
  refine .confirmed fun history => ?_
  obtain ⟨answer, received, flag, result⟩ := reproduced history
  exact ⟨answer, received, flag, result ▸ sameText_self _⟩

/-- The history after recorded calls have been executed once more, in order. -/
def Session.historyAfterRepeat (session : Session) (history : List Event)
    (commands : List Invocation) : List Event :=
  commands.foldl (fun history i => session.historyAfterOne history i.tool i.arguments) history

/-- Recorded calls have been executed once more, in order; nobody was asked, and files and ledger
are as they were. -/
structure Session.Repeats (session : Session) (commands : List Invocation) (w w' : World) : Prop where
  events : w'.events = session.historyAfterRepeat w.events commands
  asked : Same World.asked w w'
  kept : Same World.kept w w'

theorem Session.Repeats.of_quiet {session : Session} {w w' : World}
    (quiet : Same World.substance w w') : session.Repeats [] w w' :=
  ⟨quiet.map World.events, quiet.map World.asked, quiet.map World.kept⟩

theorem Session.Repeats.append {session : Session} {commands more : List Invocation}
    {w w' w'' : World} (before : session.Repeats commands w w')
    (after : session.Repeats more w' w'') : session.Repeats (commands ++ more) w w'' where
  events := by
    rw [after.events, before.events, historyAfterRepeat, historyAfterRepeat, historyAfterRepeat,
      List.foldl_append]
  asked := Frame.trans before.asked after.asked
  kept := Frame.trans before.kept after.kept

/-- Exchanging the ledger fails before anything is done, or when the new ledger is in its file, or
it is done. -/
theorem Act.exchangeLedger_cases {path : String} {ledger : Ledger} {entries : List ReplayEntry}
    {s : Surroundings} {w w' : World} {outcome : Except Failure ReplayResult}
    (run : Act.exchangeLedger path ledger entries s w = (outcome, w')) :
    (∃ failure, ledger.store w.files (updatedPath path) = .error failure ∧
        outcome = .error failure ∧ w' = w) ∨
      ∃ files, ledger.store w.files (updatedPath path) = .ok files ∧
        ((∃ failure, s.refusal? (closingLine path) = some failure ∧ outcome = .error failure ∧
            w' = { w with files }) ∨
          (s.Takes (closingLine path) ∧ outcome = .ok ⟨true, ledger, entries⟩ ∧
            w' = { w with files, ledger, console := w.console ++ [closingLine path] })) := by
  rcases Act.bind_cases run with ⟨_, _, storing, run⟩ | ⟨failure, storing, rfl⟩
  · obtain ⟨files, written, rfl⟩ := Act.storeLedger_ok storing
    refine .inr ⟨files, written, ?_⟩
    rcases Act.bind_cases run with ⟨_, _, offering, run⟩ | ⟨failure, offering, rfl⟩
    · obtain ⟨taken, shown⟩ := Act.offer_ok offering
      cases shown
      cases run
      exact .inr ⟨taken, rfl, rfl⟩
    · rcases Act.offer_cases offering with ⟨_, _, impossible⟩ | ⟨_, refused, same, rfl⟩
      · cases impossible
      · cases same
        exact .inl ⟨failure, refused, rfl, rfl⟩
  · unfold Act.storeLedger at storing
    split at storing
    · cases storing
    · rename_i unwritten
      cases storing
      exact .inl ⟨failure, unwritten, rfl, rfl⟩

theorem Act.exchangeLedger_stored {path : String} {ledger : Ledger} {files : Files}
    {s : Surroundings} {w : World} (stored : ledger.store w.files (updatedPath path) = .ok files)
    (taken : s.Takes (closingLine path)) (entries : List ReplayEntry) :
    Act.exchangeLedger path ledger entries s w = (.ok ⟨true, ledger, entries⟩,
      { w with files, ledger, console := w.console ++ [closingLine path] }) := by
  have storing : Act.storeLedger ledger (updatedPath path) s w = (.ok (), { w with files }) := by
    rw [Act.storeLedger, stored]
  rw [Act.exchangeLedger, Act.bind_of_ok storing, Act.bind_apply, Act.offer_taken taken]
  rfl

/-- A ledger that was exchanged is in its file and in the session, and the console has taken the
line that says so. -/
theorem Act.exchangeLedger_ok {path : String} {ledger : Ledger} {entries : List ReplayEntry}
    {s : Surroundings} {w w' : World} {result : ReplayResult}
    (run : Act.exchangeLedger path ledger entries s w = (.ok result, w')) :
    s.Takes (closingLine path) ∧ result = ⟨true, ledger, entries⟩ ∧
      ∃ files, ledger.store w.files (updatedPath path) = .ok files ∧
        w' = { w with files, ledger, console := w.console ++ [closingLine path] } := by
  rcases Act.exchangeLedger_cases run with ⟨_, _, impossible, _⟩ |
    ⟨files, stored, ⟨_, _, impossible, _⟩ | ⟨taken, done, rfl⟩⟩
  · cases impossible
  · cases impossible
  · exact ⟨taken, Except.ok.inj done, files, stored, rfl⟩

namespace Replayer

variable {r : Replayer} {s : Surroundings} {w w' : World}

/-- A pause between entries has a length: the delay is no integer that is too large to be one. -/
def Timed (r : Replayer) : Prop :=
  r.delay.isPositive = true → r.delay.toFloat? ≠ none

/-- The pauses between so many entries have a length. -/
def Paces (r : Replayer) (entries : Nat) : Prop :=
  1 < entries → r.Timed

/-- Before an entry there is a pause, or it is the first one. -/
theorem Paces.pauses {index rest : Nat} (paces : r.Paces (index + (rest + 1)))
    (s : Surroundings) (w : World) :
    ∃ w', Act.when_ (0 < index && r.delay.isPositive) (Act.sleepFor r.delay) s w = (.ok (), w') ∧
      Same World.substance w w' := by
  have quiet : Same World.substance w
      (Act.when_ (0 < index && r.delay.isPositive) (Act.sleepFor r.delay) s w).2 :=
    (Act.Keeps.when_ (Act.sleepFor_quiet r.delay)) s w
  refine ⟨_, Prod.ext ?_ rfl, quiet⟩
  cases needed : decide (0 < index) && r.delay.isPositive with
  | false => rfl
  | true =>
      obtain ⟨later, positive⟩ := Bool.and_eq_true_iff.mp needed
      have later : 0 < index := of_decide_eq_true later
      have timed : r.Timed := paces (by omega)
      obtain ⟨seconds, length⟩ := Option.ne_none_iff_exists'.mp (timed positive)
      simp only [Act.when_, if_true, Act.sleepFor, length]
      rfl

/-- An entry that is settled has its status, and is kept as it was recorded. -/
theorem replayOne_settled {i : Invocation} {status : ReplayStatus}
    (settles : r.session.Settles i status) (index : Nat) (previous? : Option Invocation)
    (s : Surroundings) (w : World) :
    ∃ new entry w', r.replayOne index i previous? s w = (.ok (new, entry), w') ∧
      entry.status = status ∧ (entry.status = .confirmed → entry.error = none) ∧
      new.content = i.content ∧ r.session.Repeats [i] w w' := by
  cases settles with
  | confirmed answers =>
      obtain ⟨answer, received, flag, same⟩ := answers w.events
      refine ⟨{ i with timestamp := s.timeAt w.timesTaken }, ⟨index, i.tool, .confirmed, none⟩,
        { w with events := r.session.historyAfterOne w.events i.tool i.arguments,
                 timesTaken := w.timesTaken + 1 }, ?_, rfl, fun _ => rfl, rfl, ⟨rfl, rfl, rfl⟩⟩
      simp only [replayOne, Act.bind_apply, Act.attempt_apply, Session.execute_unrecorded,
        received, Reception.outcome, adopt, flag, Bool.not_false, if_true, Act.done, same, Act.now]
  | failed refuses =>
      obtain ⟨failure, refused⟩ := refuses w.events
      have execution : failure.isExecution = true := by
        cases reception : r.session.receive w.events i.tool i.arguments with
        | answered answer => cases reception ▸ refused
        | unknown | raised _ =>
            rw [reception] at refused
            cases refused
            rfl
      refine ⟨i, ⟨index, i.tool, .failed, some failure.message⟩,
        { w with events := r.session.historyAfterOne w.events i.tool i.arguments }, ?_, rfl,
        (fun confirmed => by cases confirmed), rfl, ⟨rfl, rfl, rfl⟩⟩
      simp only [replayOne, Act.bind_apply, Act.attempt_apply, Session.execute_unrecorded, refused,
        execution, if_true, Act.done]

/-! ## Replays -/

/-- **A replay of settled calls keeps them and asks nobody.** -/
theorem replayFrom_settled {commands : List Invocation} {statuses : List ReplayStatus}
    (settles : List.Forall₂ r.session.Settles commands statuses) (total index : Nat)
    (paces : r.Paces (index + commands.length)) (built : List Invocation) (s : Surroundings)
    (w : World) :
    ∃ news entries w', r.replayFrom total index built commands s w =
        (.ok (built ++ news, entries), w') ∧
      news.map Invocation.content = commands.map Invocation.content ∧
      entries.map ReplayEntry.status = statuses ∧
      (∀ e ∈ entries, e.status = .confirmed → e.error = none) ∧
      r.session.Repeats commands w w' := by
  induction settles generalizing index built w with
  | nil => exact ⟨[], [], w, by rw [List.append_nil]; rfl, rfl, rfl, by simp, .of_quiet rfl⟩
  | @cons i status commands statuses first others ih =>
      have later : r.Paces (index + 1 + commands.length) := by
        rw [Nat.add_assoc, Nat.add_comm 1]
        exact paces
      obtain ⟨waited, pauses, quiet⟩ := paces.pauses s w
      rw [replayFrom, Act.bind_of_ok pauses]
      simp only [Act.print_bind]
      obtain ⟨new, entry, replayed, one, isStatus, silent, content, repeated⟩ :=
        replayOne_settled first index built.getLast? s (waited.showing _)
      rw [Act.bind_of_ok one]
      simp only [Act.print_bind]
      obtain ⟨news, entries, w', more, contents, areStatuses, allSilent, repeats⟩ :=
        ih _ later (built ++ [new]) (replayed.showing _)
      rw [Act.bind_of_ok more]
      refine ⟨new :: news, entry :: entries, w', ?_, ?_, ?_, ?_, ?_⟩
      · rw [List.append_assoc]
        rfl
      · rw [List.map_cons, List.map_cons, content, contents]
      · rw [List.map_cons, isStatus, areStatuses]
      · exact List.forall_mem_cons.mpr ⟨silent, allSilent⟩
      · have shown (v : World) (line : String) : r.session.Repeats [] v (v.showing line) :=
          .of_quiet rfl
        exact ((Session.Repeats.of_quiet quiet).append (shown _ _)).append
          ((repeated.append (shown _ _)).append repeats)

/-- A replay whose entries come to their end is over with the exchange of the ledger. -/
theorem replay_of_entries {path : String} {commands : List Invocation} {v : World}
    {all : List Invocation × List ReplayEntry}
    (load : Act.loadLedger path s w = (.ok (some ⟨commands⟩), w')) (recorded : commands ≠ [])
    (opens : s.Takes (openingLine commands.length path))
    (replayed : r.replayFrom commands.length 0 [] commands s
      (Act.show_ (openingLine commands.length path) s w').2 = (.ok all, v)) :
    r.replay path s w = Act.exchangeLedger path
      { crashDirectory := w'.ledger.crashDirectory, invocations := all.1 } all.2 s v := by
  obtain ⟨first, rest, rfl⟩ := List.exists_cons_of_ne_nil recorded
  have offered : Act.offer (openingLine (first :: rest).length path) s w' =
      (.ok (), (Act.show_ (openingLine (first :: rest).length path) s w').2) :=
    Act.offer_taken opens w'
  rw [replay, Act.bind_of_ok load]
  simp only
  rw [Act.bind_of_ok offered, Act.bind_apply]
  simp only [Act.see]
  rw [Act.bind_of_ok replayed]
  rfl

/-- **A replay of settled calls keeps them all.**  If the console takes its first line, it executes
every call once more and asks nobody; what is left to do then is to exchange the ledger. -/
theorem replay_settled {path : String} {commands : List Invocation}
    {statuses : List ReplayStatus} (paces : r.Paces commands.length)
    (load : Act.loadLedger path s w = (.ok (some ⟨commands⟩), w')) (recorded : commands ≠ [])
    (opens : s.Takes (openingLine commands.length path))
    (settles : List.Forall₂ r.session.Settles commands statuses) :
    ∃ (ledger : Ledger) (entries : List ReplayEntry) (v : World),
      ledger.invocations.map Invocation.content = commands.map Invocation.content ∧
      entries.map ReplayEntry.status = statuses ∧
      (∀ e ∈ entries, e.status = .confirmed → e.error = none) ∧
      r.session.Repeats commands w v ∧
      r.replay path s w = Act.exchangeLedger path ledger entries s v := by
  have loading : r.session.Repeats [] w w' := by
    obtain ⟨taken, loads⟩ := Act.loadLedger_takes path s w
    obtain ⟨_, rfl⟩ := Prod.mk.inj (load.symm.trans loads)
    exact ⟨rfl, rfl, rfl⟩
  let opened := (Act.show_ (openingLine commands.length path) s w').2
  obtain ⟨news, entries, v, replayed, contents, areStatuses, silent, repeats⟩ :=
    replayFrom_settled settles commands.length 0 (by rwa [Nat.zero_add]) [] s opened
  have shown : r.session.Repeats [] w' opened := .of_quiet rfl
  exact ⟨_, entries, v, contents, areStatuses, silent, (loading.append shown).append repeats,
    replay_of_entries load recorded opens replayed⟩

/-- A replay whose first line is refused has only read the ledger file. -/
theorem replay_unopened {path : String} {commands : List Invocation} {failure : Failure}
    (load : Act.loadLedger path s w = (.ok (some ⟨commands⟩), w')) (recorded : commands ≠ [])
    (refused : s.refusal? (openingLine commands.length path) = some failure) :
    r.replay path s w = (.error failure, w') := by
  obtain ⟨first, rest, rfl⟩ := List.exists_cons_of_ne_nil recorded
  rw [replay, Act.bind_of_ok load]
  simp only
  rw [Act.bind_apply, Act.offer_refused refused]

/-- The replay of a ledger file comes to its end and gives its entries these statuses, no confirmed
one with an error, and its ledger has the calls that were kept. -/
def Completes (r : Replayer) (path : String) (s : Surroundings) (w : World)
    (kept : List Invocation) (statuses : List ReplayStatus) : Prop :=
  ∃ result w', r.replay path s w = (.ok result, w') ∧ result.didReplay = true ∧
    result.entries.map ReplayEntry.status = statuses ∧
    (∀ e ∈ result.entries, e.status = .confirmed → e.error = none) ∧
    result.ledger.invocations.map Invocation.content = kept.map Invocation.content

/-- A replay that fails does not come to its end. -/
theorem not_completes_of_error {path : String} {kept : List Invocation}
    {statuses : List ReplayStatus} {failure : Failure}
    (run : r.replay path s w = (.error failure, w')) : ¬ r.Completes path s w kept statuses := by
  rintro ⟨_, _, replayed, _⟩
  cases run.symm.trans replayed

/-- The replay of a ledger file ends with the refusal of the file beside it: all calls have been
executed once more, nobody was asked, and the session keeps its files and its ledger. -/
structure EndsRefused (r : Replayer) (path : String) (s : Surroundings) (w : World)
    (commands : List Invocation) : Prop where
  refused : ∃ fault, (∀ bytes, w.files.write (Path.ofText (updatedPath path)) bytes =
      .error fault) ∧ (r.replay path s w).1 = .error (.file fault)
  repeats : r.session.Repeats commands w (r.replay path s w).2

/-- What the replay of a ledger file of settled calls comes to. -/
structure Settling (r : Replayer) (path : String) (s : Surroundings) (w : World)
    (kept : List Invocation) (statuses : List ReplayStatus) : Prop where
  /-- Nobody is asked, however it ends. -/
  unasked : Same World.asked w (r.replay path s w).2
  /-- It comes to its end exactly if the file beside can be written, and if the console takes the
  lines with the path. -/
  completes : r.Completes path s w kept statuses ↔
    s.Takes (openingLine kept.length path) ∧
      w.files.Writable (Path.ofText (updatedPath path)) ∧ s.Takes (closingLine path)
  /-- If that file cannot be written, the refusal ends the replay. -/
  refused : s.Takes (openingLine kept.length path) →
    ¬ w.files.Writable (Path.ofText (updatedPath path)) → r.EndsRefused path s w kept

/-- **A stored ledger of settled calls is replayed without asking anybody**, and the replay comes to
its end exactly if the file beside it can be written and the console takes the lines with its
path. -/
theorem settles_stored {ledger : Ledger} {files : Files} {path : String}
    {statuses : List ReplayStatus} (paces : r.Paces ledger.invocations.length)
    (stored : ledger.store files path = .ok w.files) (learned : ledger.invocations ≠ [])
    (storable : ∀ i ∈ ledger.invocations, i.Storable)
    (settles : List.Forall₂ r.session.Settles ledger.invocations statuses) :
    r.Settling path s w ledger.invocations statuses := by
  have load := Act.loadLedger_stored stored storable s
  cases opening : s.refusal? (openingLine ledger.invocations.length path) with
  | some failure =>
      have run := replay_unopened (r := r) load learned opening
      have closed : ¬ s.Takes (openingLine ledger.invocations.length path) := by
        rw [Surroundings.Takes, opening]
        exact nofun
      exact {
        unasked := by rw [run]; rfl
        completes := iff_of_false (not_completes_of_error run) fun taken => closed taken.1
        refused := fun taken => absurd taken closed }
  | none =>
      obtain ⟨built, entries, v, contents, areStatuses, silent, repeats, run⟩ :=
        replay_settled paces load learned opening settles
      have canWrite : built.invocations.all Invocation.canWrite = true := by
        rw [Invocation.canWrite_of_contents contents]
        exact (Ledger.store_ok_iff.mp ⟨_, stored⟩).1
      have files : v.files = w.files := repeats.kept.map Prod.fst
      rcases ends : Act.exchangeLedger path built entries s v with ⟨outcome, v'⟩
      rw [ends] at run
      rcases Act.exchangeLedger_cases ends with ⟨failure, unwritten, rfl, rfl⟩ |
        ⟨files', written, announced⟩
      · rw [files] at unwritten
        have unwritable : ¬ w.files.Writable (Path.ofText (updatedPath path)) := by
          intro writable
          obtain ⟨_, written⟩ := Ledger.store_ok_iff.mpr ⟨canWrite, writable⟩
          cases unwritten.symm.trans written
        obtain ⟨fault, refuses⟩ := Files.write_refused unwritable
        cases unwritten.symm.trans (Ledger.store_refused canWrite refuses)
        exact {
          unasked := by rw [run]; exact repeats.asked
          completes := iff_of_false (not_completes_of_error run) fun taken => unwritable taken.2.1
          refused := fun _ _ => ⟨⟨fault, refuses, by rw [run]⟩, by rwa [run]⟩ }
      · rw [files] at written
        have writable := (Ledger.store_ok_iff.mp ⟨files', written⟩).2
        rcases announced with ⟨failure, refused, rfl, rfl⟩ | ⟨taken, rfl, rfl⟩
        · exact {
            unasked := by rw [run]; exact repeats.asked
            completes := iff_of_false (not_completes_of_error run) fun taken => by
              cases refused.symm.trans taken.2.2
            refused := fun _ unwritable => absurd writable unwritable }
        · exact {
            unasked := by rw [run]; exact repeats.asked
            completes := iff_of_true ⟨_, _, run, rfl, areStatuses, silent, contents⟩
              ⟨opening, writable, taken⟩
            refused := fun _ unwritable => absurd writable unwritable }

/-- The replay of a ledger file comes to its end and confirms every entry without an error, it asks
the model nothing, and its ledger has the calls that were learned. -/
def Confirms (r : Replayer) (path : String) (s : Surroundings) (w : World)
    (learned : List Invocation) : Prop :=
  ∃ result w', r.replay path s w = (.ok result, w') ∧ result.didReplay = true ∧
    result.entries.length = learned.length ∧
    (∀ e ∈ result.entries, e.status = .confirmed ∧ e.error = none) ∧
    Same World.asked w w' ∧
    result.ledger.invocations.map Invocation.content = learned.map Invocation.content

/-- A stored ledger of reproduced calls is settled, with every entry confirmed. -/
theorem settles_reproduced {ledger : Ledger} {files : Files} {path : String} (timed : r.Timed)
    (stored : ledger.store files path = .ok w.files) (learned : ledger.invocations ≠ [])
    (storable : ∀ i ∈ ledger.invocations, i.Storable)
    (reproduced : ∀ i ∈ ledger.invocations, r.session.Reproduces i) :
    r.Settling path s w ledger.invocations (ledger.invocations.map fun _ => .confirmed) :=
  settles_stored (fun _ => timed) stored learned storable (List.forall₂_map_right_iff.mpr
    (List.forall₂_same.mpr fun i member => (reproduced i member).settles))

/-- **A stored ledger of reproduced calls is confirmed by a replay exactly if the file beside it can
be written and the console takes the lines with its path.** -/
theorem confirms_stored_iff {ledger : Ledger} {files : Files} {path : String} (timed : r.Timed)
    (stored : ledger.store files path = .ok w.files) (learned : ledger.invocations ≠ [])
    (storable : ∀ i ∈ ledger.invocations, i.Storable)
    (reproduced : ∀ i ∈ ledger.invocations, r.session.Reproduces i) :
    r.Confirms path s w ledger.invocations ↔
      s.Takes (openingLine ledger.invocations.length path) ∧
        w.files.Writable (Path.ofText (updatedPath path)) ∧ s.Takes (closingLine path) := by
  have settling := settles_reproduced (s := s) timed stored learned storable reproduced
  rw [← settling.completes]
  constructor
  · rintro ⟨result, w', run, did, length, confirmed, _, contents⟩
    refine ⟨result, w', run, did, ?_, fun e member _ => (confirmed e member).2, contents⟩
    rw [List.map_const', ← length, List.eq_replicate_iff]
    exact ⟨List.length_map _, List.forall_mem_map.mpr fun e member => (confirmed e member).1⟩
  · rintro ⟨result, w', run, did, statuses, silent, contents⟩
    have asked := settling.unasked
    rw [run] at asked
    rw [List.map_const', List.eq_replicate_iff, List.length_map] at statuses
    obtain ⟨length, confirmed⟩ := statuses
    refine ⟨result, w', run, did, length, fun e member => ?_, asked, contents⟩
    have isConfirmed := confirmed _ (List.mem_map_of_mem member)
    exact ⟨isConfirmed, silent e member isConfirmed⟩

end Replayer

/-! ## A sample -/

namespace Sample

/-- A backend that answers every call with the same text. -/
def backend : Backend where
  tools := .ok [{ name := "look" }]
  call _ tool arguments := ([.call tool arguments], .ok (.ofText "done"))

/-- A session in which one can look. -/
def session : Session :=
  { backend, catalog := .ofTools [{ name := "look" }] }

/-- A replayer that asks nobody. -/
def replayer : Replayer where
  session
  repairs := none

/-- Every line is taken where lines are only kept. -/
theorem takes (line : Line) : surroundings.Takes line :=
  rfl

theorem timed : replayer.Timed :=
  fun _ => nofun

theorem reproduces : ∀ i ∈ ledger.invocations, session.Reproduces i :=
  List.forall_mem_singleton.mpr fun _ => ⟨.ofText "done", rfl, rfl, rfl⟩

/-- It is stored under a short name, with room for the file beside it. -/
theorem stores_look :
    ∃ files, ledger.store .empty "look" = .ok files ∧
      files.Writable (Path.ofText (updatedPath "look")) := by
  have beside : Path.IsName "look.updated" := ⟨by decide, by decide, by decide, by decide⟩
  have updated : updatedPath "look" = "look.updated" := Path.tidy_name beside
  obtain ⟨files, stored⟩ := stores writable_look
  refine ⟨files, stored, ?_⟩
  rw [updated]
  exact Ledger.writable_after_store stored (writable beside (by decide) (by decide))

end Sample

end WebPilot
