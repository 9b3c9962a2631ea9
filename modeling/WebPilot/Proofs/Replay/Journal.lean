import WebPilot.Proofs.Ledger.Recording
import WebPilot.Proofs.Replay.AllOrNothing

/-!
# The files of a session with replays

A ledger files its calls under numbers that only grow, whatever the clock reads.  But a replay
exchanges the ledger of the session, and the new one starts its numbers again, in the same
directory.  Its first number is what the clock reads then.

**So the numbers of a session grow exactly if the first call after every exchange is filed at a
reading larger than all numbers before; and then no file of a call is ever written again**
(`Deed.journal_keeps_files`).  If the clock stands still or goes back, a call that is filed after a
replay takes the place of an earlier one (`Deed.journal_overwrites`).
-/

namespace WebPilot

set_option autoImplicit false

/-! ## Deeds -/

/-- A call that is filed: its number, what the clock read, and whether the ledger had filed no call
before. -/
structure Filing where
  number : Int
  reading : Int
  isFirst : Bool
  call : Invocation

/-- The name of its file. -/
def Filing.name (f : Filing) : String :=
  Ledger.fileName f.number f.call.tool

/-- The calls that are the first ones of their ledgers are filed at readings larger than all numbers
before. -/
def Timely (filings : List Filing) : Prop :=
  filings.Pairwise fun earlier later => later.isFirst = true → earlier.number < later.reading

/-- What can be done in a session with its ledger: calls are executed and recorded, and ledger files
are replayed. -/
inductive Deed where
  | call (tool : String) (arguments : Fields)
  | replay (replayer : Replayer) (path : String)

namespace Deed

section Runs

variable (session : Session) (s : Surroundings)

/-- The world after a deed, whichever way it ends. -/
def after (w : World) : Deed → World
  | call tool arguments => (session.execute tool arguments true s w).2
  | replay replayer path => (replayer.replay path s w).2

/-- What a deed files: a call that comes back without the flag of an error. -/
def filing? (w : World) : Deed → Option Filing
  | call tool arguments =>
    (session.receive w.events tool arguments).success?.map fun text =>
      { number := w.ledger.nextNumber (s.readingAt w.readingsTaken)
        reading := s.readingAt w.readingsTaken
        isFirst := decide (w.ledger.lastNumber = 0)
        call := ⟨tool, arguments, text, s.timeAt w.timesTaken⟩ }
  | replay _ _ => none

/-- The world after some deeds. -/
def afterAll (w : World) : List Deed → World
  | [] => w
  | d :: deeds => afterAll (d.after session s w) deeds

/-- What some deeds file, in order. -/
def journal (w : World) : List Deed → List Filing
  | [] => []
  | d :: deeds => (d.filing? session s w).toList ++ journal (d.after session s w) deeds

theorem afterAll_append (w : World) (deeds more : List Deed) :
    afterAll session s w (deeds ++ more) =
      afterAll session s (afterAll session s w deeds) more := by
  induction deeds generalizing w with
  | nil => rfl
  | cons d deeds ih => exact ih _

theorem journal_append (w : World) (deeds more : List Deed) :
    journal session s w (deeds ++ more) =
      journal session s w deeds ++ journal session s (afterAll session s w deeds) more := by
  induction deeds generalizing w with
  | nil => rfl
  | cons d deeds ih => rw [List.cons_append, journal, ih, journal, afterAll, List.append_assoc]

end Runs

/-! ## What a deed does -/

/-- What a deed can do to ledger and files, over a crash directory. -/
inductive Does (directory : Path) (w w' : World) : Option Filing → Prop
  /-- It leaves both alone. -/
  | nothing (same : Same World.kept w w') : Does directory w w' none
  /-- It files a call under the next number, unless it nests too deep or the system refuses the
  file. -/
  | files {f : Filing} (number : f.number = max f.reading (w.ledger.lastNumber + 1))
      (isFirst : f.isFirst = decide (w.ledger.lastNumber = 0))
      (kept : w'.ledger.crashDirectory = some directory)
      (last : w'.ledger.lastNumber = f.number)
      (filed : (f.call.canWrite = true ∧
          w.files.write (directory.child f.name) (Ledger.fileBytes f.call.toJson) = .ok w'.files) ∨
        (w'.files = w.files ∧
          (f.call.canWrite = true → ¬ w.files.Writable (directory.child f.name)))) :
      Does directory w w' (some f)
  /-- It writes a ledger beside another, but does not exchange the own one for it. -/
  | writes {path : String} {ledger : Ledger} (own : w'.ledger = w.ledger)
      (stored : ledger.store w.files (updatedPath path) = .ok w'.files) :
      Does directory w w' none
  /-- It exchanges the ledger for one without a number, which it has written beside another. -/
  | exchanges {path : String} {ledger : Ledger}
      (kept : w'.ledger.crashDirectory = some directory)
      (unnumbered : w'.ledger.lastNumber = 0)
      (stored : ledger.store w.files (updatedPath path) = .ok w'.files) :
      Does directory w w' none

variable {session : Session} {s : Surroundings} {w : World} {directory : Path}
  {deeds : List Deed}

/-- **One deed.** -/
theorem does (session : Session) (s : Surroundings)
    (kept : w.ledger.crashDirectory = some directory) (d : Deed) :
    Does directory w (d.after session s w) (d.filing? session s w) := by
  cases d with
  | replay replayer path =>
      rw [after, filing?]
      rcases run : replayer.replay path s w with ⟨outcome, w'⟩
      cases Replayer.replay_ends run with
      | unchanged _ _ same => exact .nothing same
      | unannounced _ _ _ stored own => exact .writes own stored
      | exchanged _ _ _ _ _ directory' unnumbered stored given =>
          refine .exchanges ?_ ?_ stored
          · rw [given, directory', kept]
          · rw [given, unnumbered]
  | call tool arguments =>
      rw [after, filing?, session.execute_recorded]
      cases success : (session.receive w.events tool arguments).success? with
      | none => exact .nothing rfl
      | some text =>
          let i : Invocation := ⟨tool, arguments, text, s.timeAt w.timesTaken⟩
          let met : World :=
            { w with
              events := session.historyAfterOne w.events tool arguments
              timesTaken := w.timesTaken + 1 }
          obtain ⟨ledger, files⟩ := Ledger.record_world i s met
          rw [Ledger.record_ledger _ _ _ kept] at ledger
          refine .files rfl rfl ?_ ?_ ?_
          · exact (congrArg Ledger.crashDirectory ledger).trans kept
          · exact congrArg Ledger.lastNumber ledger
          · have written := Ledger.record_written (s.readingAt met.readingsTaken) met.files i kept
            rw [← files] at written
            exact written

namespace Does

variable {w' : World} {filing? : Option Filing} (does : Does directory w w' filing?)

include does

/-- The crash directory stays. -/
theorem crashDirectory (kept : w.ledger.crashDirectory = some directory) :
    w'.ledger.crashDirectory = some directory := by
  cases does with
  | nothing same =>
      have ledger : w'.ledger = w.ledger := same.map Prod.snd
      rw [ledger, kept]
  | writes own _ => rw [own, kept]
  | files _ _ kept' _ _ => exact kept'
  | exchanges kept' _ _ => exact kept'

/-- Numbers are natural. -/
theorem natural (natural : 0 ≤ w.ledger.lastNumber) : 0 ≤ w'.ledger.lastNumber := by
  cases does with
  | nothing same =>
      have ledger : w'.ledger = w.ledger := same.map Prod.snd
      rwa [ledger]
  | writes own _ => rwa [own]
  | files number _ _ last _ => omega
  | exchanges _ unnumbered _ => exact Int.le_of_eq unnumbered.symm

/-- What has been written of a call can still be read, if no call of its name is filed. -/
theorem read {name : String} {content : List UInt8} (named : ∃ n tool, name = Ledger.fileName n tool)
    (other : ∀ f ∈ filing?, f.name ≠ name)
    (read : w.files.read (directory.child name) = .ok content) :
    w'.files.read (directory.child name) = .ok content := by
  obtain ⟨n, tool, rfl⟩ := named
  cases does with
  | nothing same =>
      have files : w'.files = w.files := same.map Prod.fst
      rwa [files]
  | @files f _ _ _ _ filed =>
      rcases filed with ⟨_, written⟩ | ⟨same, _⟩
      · exact Files.read_write_child (Ledger.fileName_ne_up _ _) (Ledger.fileName_ne_up _ _)
          (Ne.symm (other f rfl)) written read
      · rwa [same]
  | writes _ stored | exchanges _ _ stored =>
      exact Files.read_write_of_ne (Ledger.write_of_store stored)
        (fun _ leads => Files.resolve_child_ne_updated (Ledger.endsWith_fileName n tool) leads) read

end Does

/-! ## Numbers -/

/-- A call gets a number that is not zero, and the first of a ledger gets what the clock reads. -/
theorem number_of_mem_journal (kept : w.ledger.crashDirectory = some directory)
    (natural : 0 ≤ w.ledger.lastNumber) {f : Filing} (member : f ∈ journal session s w deeds) :
    0 < f.number ∧ (f.isFirst = true → f.number = max f.reading 1) := by
  induction deeds generalizing w with
  | nil => cases member
  | cons d deeds ih =>
      have does := d.does session s kept
      rw [journal, List.mem_append] at member
      rcases member with here | later
      · have files := Option.mem_toList.mp here
        rw [files] at does
        cases does with
        | files number isFirst _ _ _ =>
            refine ⟨by omega, fun first => ?_⟩
            have unnumbered : w.ledger.lastNumber = 0 := of_decide_eq_true (isFirst ▸ first)
            rw [number, unnumbered]
            rfl
      · exact ih (does.crashDirectory kept) (does.natural natural) later

/-- The ledger remembers the largest number of these, or none. -/
def Covers (w : World) (past : List Filing) : Prop :=
  w.ledger.lastNumber ≠ 0 → ∀ f ∈ past, f.number ≤ w.ledger.lastNumber

section Covered

variable {w' : World} {filing? : Option Filing} {past : List Filing}
  (does : Does directory w w' filing?) (covered : Covers w past)
  (timely : Timely (past ++ filing?.toList))

include does covered timely

/-- A call that is filed in time gets a number larger than all before. -/
theorem Does.larger {f : Filing} (member : f ∈ filing?) : ∀ a ∈ past, a.number < f.number := by
  intro a earlier
  cases does with
  | nothing _ | writes _ _ | exchanges _ _ _ => cases member
  | files number isFirst _ _ _ =>
      obtain rfl := Option.some.inj member
      by_cases unnumbered : w.ledger.lastNumber = 0
      · have first := (List.pairwise_append.mp timely).2.2 a earlier _ (List.mem_singleton.mpr rfl)
        have less := first (isFirst.trans (decide_eq_true unnumbered))
        omega
      · have less := covered unnumbered a earlier
        omega

/-- It is remembered, until the ledger is exchanged. -/
theorem Does.covers : Covers w' (past ++ filing?.toList) := by
  intro numbered
  have larger {f : Filing} (filed : f ∈ filing?) := does.larger covered timely filed
  cases does with
  | nothing same =>
      have ledger : w'.ledger = w.ledger := same.map Prod.snd
      rw [ledger] at numbered ⊢
      simpa using covered numbered
  | writes own _ =>
      rw [own] at numbered ⊢
      simpa using covered numbered
  | @files f _ _ _ last _ =>
      intro a member
      rw [last]
      rcases List.mem_append.mp member with earlier | here
      · exact Int.le_of_lt (larger rfl a earlier)
      · exact Int.le_of_eq (congrArg Filing.number (List.mem_singleton.mp here))
  | exchanges _ unnumbered _ => exact absurd unnumbered numbered

end Covered

/-- **Calls that are filed in time have growing numbers.** -/
theorem increasing_of_timely (past : List Filing)
    (kept : w.ledger.crashDirectory = some directory) (covered : Covers w past)
    (timely : Timely (past ++ journal session s w deeds))
    (increasing : (past.map Filing.number).Pairwise (· < ·)) :
    ((past ++ journal session s w deeds).map Filing.number).Pairwise (· < ·) := by
  induction deeds generalizing w past with
  | nil => rwa [journal, List.append_nil]
  | cons d deeds ih =>
      have does := d.does session s kept
      rw [journal, ← List.append_assoc] at timely ⊢
      have soFar := (List.pairwise_append.mp timely).1
      refine ih _ (does.crashDirectory kept) (does.covers covered soFar) timely ?_
      rw [List.map_append, List.pairwise_append]
      refine ⟨increasing, ?_, ?_⟩
      · cases d.filing? session s w with
        | none => exact .nil
        | some f => exact List.pairwise_singleton _ _
      · intro m earlier n here
        obtain ⟨a, before, rfl⟩ := List.mem_map.mp earlier
        obtain ⟨f, filed, rfl⟩ := List.mem_map.mp here
        exact does.larger covered soFar (Option.mem_toList.mp filed) a before

/-- **The numbers of a session grow exactly if its calls are filed in time.** -/
theorem increasing_iff_timely (session : Session) (s : Surroundings) (deeds : List Deed)
    (kept : w.ledger.crashDirectory = some directory) (natural : 0 ≤ w.ledger.lastNumber) :
    ((journal session s w deeds).map Filing.number).Pairwise (· < ·) ↔
      Timely (journal session s w deeds) := by
  constructor
  · intro increasing
    refine (List.pairwise_map.mp increasing).imp_of_mem fun {a b} earlier later less first => ?_
    have positive := (number_of_mem_journal kept natural earlier).1
    have number := (number_of_mem_journal kept natural later).2 first
    omega
  · intro timely
    exact increasing_of_timely [] kept (fun _ => nofun) timely .nil

/-- Calls with growing numbers are filed under different names. -/
theorem nodup_names (kept : w.ledger.crashDirectory = some directory)
    (natural : 0 ≤ w.ledger.lastNumber)
    (increasing : ((journal session s w deeds).map Filing.number).Pairwise (· < ·)) :
    ((journal session s w deeds).map Filing.name).Nodup := by
  rw [List.pairwise_map] at increasing
  refine List.pairwise_map.mpr (increasing.imp_of_mem fun {a b} earlier later less same => ?_)
  have first := (number_of_mem_journal kept natural earlier).1
  have second := (number_of_mem_journal kept natural later).1
  have numbers := Ledger.fileName_injective (Int.le_of_lt first) (Int.le_of_lt second) same
  omega

/-! ## Files -/

/-- What has been written of a call can be read as long as no call of its name is filed. -/
theorem read_afterAll {name : String} {content : List UInt8}
    (named : ∃ n tool, name = Ledger.fileName n tool)
    (kept : w.ledger.crashDirectory = some directory)
    (other : ∀ f ∈ journal session s w deeds, f.name ≠ name)
    (read : w.files.read (directory.child name) = .ok content) :
    (afterAll session s w deeds).files.read (directory.child name) = .ok content := by
  induction deeds generalizing w with
  | nil => exact read
  | cons d deeds ih =>
      have does := d.does session s kept
      rw [journal] at other
      obtain ⟨here, later⟩ := List.forall_mem_append.mp other
      refine ih (does.crashDirectory kept) later (does.read named (fun f filed => ?_) read)
      exact here f (Option.mem_toList.mpr filed)

theorem crashDirectory_afterAll (session : Session) (s : Surroundings) (deeds : List Deed)
    (kept : w.ledger.crashDirectory = some directory) :
    (afterAll session s w deeds).ledger.crashDirectory = some directory := by
  induction deeds generalizing w with
  | nil => exact kept
  | cons d deeds ih =>
      exact ih ((d.does session s kept).crashDirectory kept)

/-- **The numbers of a session grow exactly if its calls are filed in time, and then no file of a
call is ever written again.**  That is, the names are all different, and a call whose file the
system admits is in that file at the end of the session. -/
theorem journal_keeps_files (session : Session) (s : Surroundings) (deeds : List Deed)
    (kept : w.ledger.crashDirectory = some directory) (natural : 0 ≤ w.ledger.lastNumber) :
    (((journal session s w deeds).map Filing.number).Pairwise (· < ·) ↔
        Timely (journal session s w deeds)) ∧
      (Timely (journal session s w deeds) →
        ((journal session s w deeds).map Filing.name).Nodup ∧
        ∀ earlier d later f, deeds = earlier ++ d :: later →
          d.filing? session s (afterAll session s w earlier) = some f →
          f.call.canWrite = true →
          (afterAll session s w earlier).files.Writable (directory.child f.name) →
          (afterAll session s w deeds).files.read (directory.child f.name) =
            .ok (Ledger.fileBytes f.call.toJson)) := by
  have increasing := increasing_iff_timely session s deeds kept
    natural
  refine ⟨increasing, fun timely => ?_⟩
  have nodup := nodup_names kept natural (increasing.mpr timely)
  refine ⟨nodup, ?_⟩
  rintro earlier d later f rfl filed fits writable
  have kept' := crashDirectory_afterAll session s earlier kept
  have does := d.does session s kept'
  have other : ∀ g ∈ journal session s (d.after session s (afterAll session s w earlier)) later,
      g.name ≠ f.name := by
    intro g member same
    rw [journal_append, journal, filed, List.map_append, List.map_append] at nodup
    have apart := (List.nodup_append.mp (List.nodup_append.mp nodup).2.1).2.2
    exact apart f.name (List.mem_singleton.mpr rfl) g.name (List.mem_map_of_mem member) same.symm
  rw [afterAll_append, afterAll]
  refine read_afterAll ⟨_, _, rfl⟩ (does.crashDirectory kept') other ?_
  rw [filed] at does
  cases does with
  | files _ _ _ _ done =>
      rcases done with ⟨_, written⟩ | ⟨_, refused⟩
      · exact (Files.read_write written).2
      · exact absurd writable (refused fits)

end Deed

/-! ## A sample -/

namespace Sample

/-- A world over an empty crash directory, with the ledger of a look in a file. -/
def relearning : World :=
  { recording with
    files := ⟨recording.files.entries ++
      [(["look"], .file (Ledger.fileBytes ledger.document.toJson))]⟩ }

/-- The world after a look there. -/
def relearned : World :=
  (Deed.call "look" []).after session surroundings relearning

theorem relearned_files :
    relearned.files = ⟨[(["crashes"], .directory),
      (["look"], .file (Ledger.fileBytes ledger.document.toJson)),
      (["crashes", "1-look.json"], .file (Ledger.fileBytes look.toJson))]⟩ :=
  rfl

theorem stored_relearned : ledger.store relearned.files "look" = .ok relearned.files := by
  rw [relearned_files]
  rfl

theorem writable_relearned :
    relearned.files.Writable (Path.ofText (updatedPath "look")) := by
  have isName : Path.IsName "look.updated" := ⟨by decide, by decide, by decide, by decide⟩
  have updated : updatedPath "look" = "look.updated" := Path.tidy_name isName
  have free : relearned.files.entries.lookup ["look.updated"] = none := rfl
  rw [updated]
  refine (Files.writable_name isName).mpr ⟨by decide, by decide, ?_⟩
  rw [free]
  exact nofun

/-- The file of the look can be written again. -/
theorem rewritable_relearned :
    relearned.files.Writable (crashes.child (Ledger.fileName 1 "look")) :=
  ⟨["crashes", "1-look.json"], rfl, nofun⟩

/-- What a session finds whose clock goes on. -/
def moving : Surroundings :=
  { surroundings with readingAt := fun taken => taken + 1 }

end Sample

/-- A replay that comes to its end has read no number off the clock. -/
theorem Replayer.readingsTaken_of_replay {r : Replayer} {path : String} {s : Surroundings}
    {w w' : World} {result : ReplayResult} (run : r.replay path s w = (.ok result, w')) :
    w'.readingsTaken = w.readingsTaken := by
  obtain ⟨document?, loaded, loading, run⟩ := Act.bind_ok run
  have before : Same World.readingsTaken w loaded :=
    (Act.loadLedger_same (fun _ _ => rfl) path).run loading
  have offers {line : Line} {v v' : World} (offering : Act.offer line s v = (.ok (), v')) :
      Same World.readingsTaken v v' :=
    ((Act.offer_still line).run offering).map World.readingsTaken
  match document? with
  | none | some ⟨[]⟩ =>
      obtain ⟨_, _, offering, run⟩ := Act.bind_ok run
      cases run
      exact Frame.trans before (offers offering)
  | some ⟨first :: rest⟩ =>
      obtain ⟨_, _, offering, run⟩ := Act.bind_ok run
      obtain ⟨directory, _, seen, run⟩ := Act.bind_ok run
      cases seen
      obtain ⟨all, replayed, replaying, run⟩ := Act.bind_ok run
      obtain ⟨_, _, _, _, beside, _⟩ := replayFrom_spec replaying
      obtain ⟨_, _, _, _, rfl⟩ := Act.exchangeLedger_ok run
      exact Frame.trans before (Frame.trans (offers offering) (beside.map World.readingsTaken))

namespace Sample

/-- The replay of the ledger file exchanges the ledger. -/
theorem relearned_exchanged {s : Surroundings} (takes : ∀ line, s.Takes line) :
    ∃ w', (Deed.replay replayer "look").after session s relearned = w' ∧
      w'.ledger.crashDirectory = some crashes ∧ w'.ledger.lastNumber = 0 ∧
      w'.readingsTaken = relearned.readingsTaken ∧
      w'.files.Writable (crashes.child (Ledger.fileName 1 "look")) := by
  obtain ⟨result, w', run, did, _⟩ := (Replayer.confirms_stored_iff (s := s) timed
    stored_relearned filled storable reproduces).mpr ⟨takes _, writable_relearned, takes _⟩
  refine ⟨w', by rw [Deed.after, run], ?_⟩
  cases Replayer.replay_ends run with
  | unchanged idle _ _ => cases (idle _ rfl).symm.trans did
  | exchanged _ _ _ _ _ directory unnumbered stored given =>
      refine ⟨?_, ?_, Replayer.readingsTaken_of_replay run,
        Ledger.writable_after_store stored rewritable_relearned⟩
      · rw [given, directory]
        rfl
      · rw [given, unnumbered]

end Sample

namespace Deed

open Sample

/-- One looks, replays a ledger file and looks again, while the clock goes on: the second look is
filed under a larger number, and the first one is in its file at the end. -/
theorem journal_keeps_relearned :
    ∃ f g, journal session moving relearning
        [.call "look" [], .replay replayer "look", .call "look" []] = [f, g] ∧
      f.number < g.number ∧
      (afterAll session moving relearning
        [.call "look" [], .replay replayer "look", .call "look" []]).files.read
        (crashes.child f.name) = .ok (Ledger.fileBytes f.call.toJson) := by
  obtain ⟨replayed, run, kept, unnumbered, readings, writable⟩ :=
    relearned_exchanged (s := moving) fun _ => rfl
  have first : (Deed.call "look" []).filing? session moving relearning =
      some ⟨1, 1, true, look⟩ := rfl
  have learned : (Deed.call "look" []).after session moving relearning = relearned := rfl
  obtain ⟨g, filed, reading⟩ : ∃ g,
      (Deed.call "look" []).filing? session moving replayed = some g ∧ g.reading = 2 := by
    refine ⟨_, rfl, ?_⟩
    show ((replayed.readingsTaken : Int) + 1) = 2
    rw [readings]
    rfl
  have journaled : journal session moving relearning
      [.call "look" [], .replay replayer "look", .call "look" []] =
      [⟨1, 1, true, look⟩, g] := by
    rw [journal, journal, journal, journal, first, learned, run, filed]
    rfl
  obtain ⟨increasing, keeps⟩ := @journal_keeps_files relearning crashes session moving
    [.call "look" [], .replay replayer "look", .call "look" []] rfl (Int.le_refl 0)
  rw [journaled] at increasing keeps ⊢
  have timely : Timely [⟨1, 1, true, look⟩, g] := by
    refine List.pairwise_pair.mpr fun _ => ?_
    rw [reading]
    decide
  exact ⟨_, g, rfl, (List.pairwise_cons.mp (increasing.mpr timely)).1 _ List.mem_cons_self,
    (keeps timely).2 [] _ _ _ rfl first rfl ⟨["crashes", "1-look.json"], rfl, nofun⟩⟩

/-- **A call that is filed after a replay may take the place of an earlier one.**  The clock stands
still while one looks, replays a ledger file and looks again with other arguments: both looks are
filed under the same number, and at the end the file has the second one. -/
theorem journal_overwrites :
    ∃ f g, relearning.ledger = { crashDirectory := some crashes } ∧
      journal session surroundings relearning
        [.call "look" [], .replay replayer "look", .call "look" [("again", .bool true)]] = [f, g] ∧
      f.number = g.number ∧ f.name = g.name ∧ f.call.arguments ≠ g.call.arguments ∧
      (afterAll session surroundings relearning
        [.call "look" [], .replay replayer "look",
          .call "look" [("again", .bool true)]]).files.read (crashes.child f.name) =
        .ok (Ledger.fileBytes g.call.toJson) := by
  obtain ⟨replayed, run, kept, unnumbered, _, writable⟩ := relearned_exchanged takes
  let again : Deed := .call "look" [("again", .bool true)]
  obtain ⟨g, filed, number, tool, arguments⟩ :
      ∃ g, again.filing? session surroundings replayed = some g ∧
        g.number = 1 ∧ g.call.tool = "look" ∧ g.call.arguments = [("again", .bool true)] := by
    refine ⟨_, rfl, ?_, rfl, rfl⟩
    show max 0 (replayed.ledger.lastNumber + 1) = 1
    rw [unnumbered]
    rfl
  have name : g.name = Ledger.fileName 1 "look" := by
    rw [Filing.name, number, tool]
  have fits : g.call.canWrite = true := by
    rw [Invocation.canWrite, arguments]
    decide
  have first : (Deed.call "look" []).filing? session surroundings relearning =
      some ⟨1, 0, true, look⟩ := rfl
  have second : (Deed.replay replayer "look").after session surroundings
      ((Deed.call "look" []).after session surroundings relearning) = replayed := run
  have does := again.does session surroundings kept
  rw [filed] at does
  refine ⟨⟨1, 0, true, look⟩, g, rfl, ?_, number.symm, name.symm, ?_, ?_⟩
  · rw [journal, journal, journal, journal, first, second, filed]
    rfl
  · rw [arguments]
    exact (List.cons_ne_nil _ _).symm
  · have same : Filing.name ⟨1, 0, true, look⟩ = g.name := name.symm
    rw [same, afterAll, afterAll, second, afterAll, afterAll]
    cases does with
    | files _ _ _ _ done =>
        rcases done with ⟨_, written⟩ | ⟨_, refused⟩
        · exact (Files.read_write written).2
        · exact absurd (name ▸ writable) (refused fits)

end Deed

end WebPilot
