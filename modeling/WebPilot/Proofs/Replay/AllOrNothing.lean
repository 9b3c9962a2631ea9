import WebPilot.Proofs.Files.Beside
import WebPilot.Proofs.Ledger.FileNames
import WebPilot.Proofs.Ledger.Loading
import WebPilot.Proofs.Replay.Exchange

/-!
# A replay is all or nothing

A replay writes one file, the one beside the ledger file that it replays, and writes it last.  The
place of that file is never the place of the ledger file itself (`Files.resolve_updated_ne`), and
its name is never that of the file of a single call (`Ledger.ne_append_of_json`).

**Whichever way a replay ends, it has done all or nothing, but for one**
(`Replayer.replay_all_or_nothing`).  Either the new ledger is in its file and in the session, or the
session has the same ledger and the files are as they were.  Where there is nothing to replay,
nothing is called, nobody is asked, and there are no pauses.

The exception is due to the line that says where the new ledger was written: the path stands in it
as it is, and if a console reads a tag in it that closes nothing, the replay fails between the file
and the session (`Replayer.tagged_path_splits_replay`).
-/

namespace WebPilot

set_option autoImplicit false

/-! ## The file beside a ledger file -/

/-- The path of the file beside another is the path with the suffix. -/
theorem ofText_updatedPath (path : String) :
    Path.ofText (updatedPath path) = Path.ofText (path ++ ".updated") :=
  Path.ofText_tidy _

namespace Files

variable {files files' : Files} {path : String}

/-- The files are the same but for the place that a path leads to. -/
def SameBut (path : Path) (files files' : Files) : Prop :=
  ∀ place, files.resolve path ≠ .ok place → files'.at? place = files.at? place

theorem SameBut.of_write {path : Path} {bytes : List UInt8}
    (written : files.write path bytes = .ok files') : SameBut path files files' :=
  fun _ apart => at?_write_of_ne written apart

/-- The file beside another is at another place. -/
theorem resolve_updated_ne {names : List String}
    (leads : files.resolve (Path.ofText path) = .ok names) :
    files.resolve (Path.ofText (updatedPath path)) ≠ .ok names := by
  rw [ofText_updatedPath]
  exact resolve_append_ne (by decide) (by decide) leads

/-- Its name has the suffix. -/
theorem getLast?_resolve_updated {names : List String}
    (leads : files.resolve (Path.ofText (updatedPath path)) = .ok names) :
    ∃ last, names.getLast? = some (last ++ ".updated") := by
  rw [ofText_updatedPath] at leads
  exact getLast?_resolve_append (by decide) (by decide) leads

end Files

/-- The file of a call has another suffix. -/
theorem Ledger.ne_append_of_json {name : String} (json : Text.endsWith name ".json" = true)
    (last : String) : name ≠ last ++ ".updated" := by
  rintro rfl
  obtain ⟨before, same⟩ := List.isSuffixOf_iff_suffix.mp json
  have ends := congrArg List.getLast? same
  rw [String.toList_append, List.getLast?_append, List.getLast?_append] at ends
  cases ends

theorem Ledger.endsWith_fileName (number : Int) (tool : String) :
    Text.endsWith (fileName number tool) ".json" = true := by
  rw [Text.endsWith, List.isSuffixOf_iff_suffix, fileName, String.toList_append]
  exact List.suffix_append _ _

/-- The file beside a ledger file is not the file of a call. -/
theorem Files.resolve_child_ne_updated {files : Files} {directory : Path} {name path : String}
    (json : Text.endsWith name ".json" = true) {there : List String}
    (leads : files.resolve (directory.child name) = .ok there) :
    files.resolve (Path.ofText (updatedPath path)) ≠ .ok there := by
  intro same
  have onward : name ≠ ".." := by
    rintro rfl
    cases json
  obtain ⟨last, named⟩ := getLast?_resolve_updated same
  rw [getLast?_resolve_child onward leads] at named
  exact Ledger.ne_append_of_json json last (Option.some.inj named)

/-! ## All or nothing -/

/-- What is done to parties outside, and the pauses. -/
def World.dealings (w : World) :
    List Event × (List Request × List Hosted.Submission) × List Float :=
  (w.events, w.asked, w.sleeps)

/-- The new ledger is in the file beside the one replayed, but the console has refused the line that
says so, and that has ended the replay. -/
structure Unannounced (path : String) (s : Surroundings) (w w' : World)
    (outcome : Except Failure ReplayResult) : Prop where
  refused : ∃ failure, s.refusal? (closingLine path) = some failure ∧ outcome = .error failure
  stored : ∃ ledger : Ledger, ledger.store w.files (updatedPath path) = .ok w'.files

/-- What a replay of a path has done when it has ended, in any way. -/
structure AllOrNothing (path : String) (s : Surroundings) (w w' : World)
    (outcome : Except Failure ReplayResult) : Prop where
  /-- The file that was replayed has the bytes that it had. -/
  source : w'.files.read (Path.ofText path) = w.files.read (Path.ofText path)
  /-- Nothing is written but the file beside it. -/
  others : w.files.SameBut (Path.ofText (updatedPath path)) w'.files
  /-- No file of a single call is written. -/
  calls : ∀ place number tool, place.getLast? = some (Ledger.fileName number tool) →
    w'.files.at? place = w.files.at? place
  /-- If it did replay, the new ledger is in the session and in the file beside. -/
  all : ∀ result, outcome = .ok result → result.didReplay = true →
    w'.ledger = result.ledger ∧
      w'.files.read (Path.ofText (updatedPath path)) =
        .ok (Ledger.fileBytes result.ledger.document.toJson)
  /-- If it did not, or failed, the ledger of the session and all files are as they were, unless the
  console has refused the line about the file beside. -/
  nothing : (∀ result, outcome = .ok result → result.didReplay = false) →
    w'.ledger = w.ledger ∧ (w'.files = w.files ∨ Unannounced path s w w' outcome)
  /-- Without recorded calls in a sound ledger file it does not replay, and no call, no request and
  no pause is made. -/
  idle : (∀ document, (Act.loadLedger path s w).1 = .ok (some document) →
      document.commands = []) →
    (∀ result, outcome = .ok result → result.didReplay = false) ∧ Same World.dealings w w'

namespace Replayer

variable {r : Replayer} {path : String} {s : Surroundings} {w w' : World}
  {outcome : Except Failure ReplayResult}

/-- Where there is nothing to replay, nothing is done. -/
theorem replay_idle (run : r.replay path s w = (outcome, w'))
    (idle : ∀ document, (Act.loadLedger path s w).1 = .ok (some document) →
      document.commands = []) :
    (∀ result, outcome = .ok result → result.didReplay = false) ∧ Same World.dealings w w' := by
  rcases Act.bind_cases run with ⟨document?, loaded, loading, rest⟩ | ⟨failure, loading, rfl⟩
  all_goals have before : Same World.dealings w _ :=
    (Act.loadLedger_same (fun _ _ => rfl) path).run loading
  · match document? with
    | none | some ⟨[]⟩ =>
        rcases Act.bind_cases rest with ⟨_, _, offering, rest⟩ | ⟨failure, offering, rfl⟩
        all_goals have shown : Same World.dealings w _ :=
          Frame.trans before (((Act.offer_still _).run offering).map World.dealings)
        · cases rest
          exact ⟨by rintro _ ⟨⟩; rfl, shown⟩
        · exact ⟨nofun, shown⟩
    | some ⟨first :: others⟩ => cases idle _ (congrArg Prod.fst loading)
  · exact ⟨nofun, before⟩

/-- A replay that has written the file beside has written nothing else. -/
theorem others_of_write {bytes : List UInt8} {document : Document}
    (loaded : (Act.loadLedger path s w).1 = .ok (some document))
    (written : w.files.write (Path.ofText (updatedPath path)) bytes = .ok w'.files) :
    w'.files.read (Path.ofText path) = w.files.read (Path.ofText path) ∧
      w.files.SameBut (Path.ofText (updatedPath path)) w'.files ∧
      ∀ place number tool, place.getLast? = some (Ledger.fileName number tool) →
        w'.files.at? place = w.files.at? place := by
  obtain ⟨content, _, _, read, _⟩ := Ledger.read_of_load (Act.load_of_loadLedger (Prod.ext loaded rfl))
  refine ⟨?_, .of_write written, fun place number tool last => ?_⟩
  · exact (Files.read_write_of_ne written (fun _ leads => Files.resolve_updated_ne leads) read).trans
      read.symm
  · refine Files.at?_write_of_ne written fun leads => ?_
    obtain ⟨name, named⟩ := Files.getLast?_resolve_updated leads
    exact Ledger.ne_append_of_json (Ledger.endsWith_fileName number tool) name
      (Option.some.inj (last.symm.trans named))

/-- **A replay is all or nothing, whichever way it ends**, but where the console refuses the line
about the file that it has written. -/
theorem replay_all_or_nothing (r : Replayer) (path : String) (s : Surroundings) (w : World) :
    AllOrNothing path s w (r.replay path s w).2 (r.replay path s w).1 := by
  rcases run : r.replay path s w with ⟨outcome, w'⟩
  have idle := replay_idle run
  cases replay_ends run with
  | unchanged unreplayed _ same =>
      have files : w'.files = w.files := same.map Prod.fst
      have ledger : w'.ledger = w.ledger := same.map Prod.snd
      exact {
        source := by rw [files]
        others := fun _ _ => by rw [files]
        calls := fun _ _ _ _ => by rw [files]
        all := fun result ended replayed => by
          cases (unreplayed result ended).symm.trans replayed
        nothing := fun _ => ⟨ledger, .inl files⟩
        idle }
  | unannounced load _ refused stored own =>
      obtain ⟨source, others, calls⟩ :=
        others_of_write (congrArg Prod.fst load) (Ledger.write_of_store stored)
      exact {
        source, others, calls
        all := nofun
        nothing := fun _ => ⟨own, .inr ⟨⟨_, refused, rfl⟩, _, stored⟩⟩
        idle }
  | exchanged load _ _ _ _ _ _ stored given =>
      obtain ⟨source, others, calls⟩ :=
        others_of_write (congrArg Prod.fst load) (Ledger.write_of_store stored)
      exact {
        source, others, calls
        all := by
          rintro _ ⟨⟩ _
          exact ⟨given, (Ledger.read_store stored).2⟩
        nothing := fun unreplayed => nomatch unreplayed _ rfl
        idle }

end Replayer

/-! ## A path with tags -/

namespace Sample

/-- A console to which every name is a style. -/
def anyStyle : Console where
  styleOf name := .ok name
  styleFault? _ := none
  handlerFault? _ := none

/-- What a session at that console finds. -/
def styled : Surroundings :=
  { surroundings with console := some anyStyle }

/-- A path whose tags are in order behind an open tag, but not alone. -/
def taggedPath : String := "a[/bold]b[bold]c.json"

/-- A world with the ledger of a look there. -/
def tagged : World :=
  { World.fresh with
    files := ⟨[(["a["], .directory),
      (["a[", "bold]b[bold]c.json"], .file (Ledger.fileBytes ledger.document.toJson))]⟩ }

theorem stored_tagged : ledger.store ⟨[(["a["], .directory)]⟩ taggedPath = .ok tagged.files :=
  rfl

theorem writable_tagged : tagged.files.Writable (Path.ofText (updatedPath taggedPath)) :=
  ⟨["a[", "bold]b[bold]c.json.updated"], rfl, nofun⟩

theorem opens_tagged : styled.Takes (openingLine ledger.invocations.length taggedPath) :=
  rfl

theorem refuses_tagged : styled.refusal? (closingLine taggedPath) =
    some (.markup "closing tag '[/bold]' at position 27 doesn't match any open tag") := by
  decide +kernel

end Sample

/-- **A path with a tag that closes nothing splits a replay.**  The console refuses the line about
the file that was written, so the new ledger is in its file and the session keeps its own. -/
theorem Replayer.tagged_path_splits_replay : ∃ w',
    (Act.loadLedger Sample.taggedPath Sample.styled Sample.tagged).1 =
      .ok (some ⟨[Sample.look]⟩) ∧
    Sample.replayer.replay Sample.taggedPath Sample.styled Sample.tagged =
      (.error (.markup "closing tag '[/bold]' at position 27 doesn't match any open tag"), w') ∧
    w'.ledger = Sample.tagged.ledger ∧
    Sample.tagged.files.find? (Path.ofText (updatedPath Sample.taggedPath)) = .ok none ∧
    ∃ ledger : Ledger, ledger.invocations.map Invocation.content = [Sample.look.content] ∧
      w'.files.read (Path.ofText (updatedPath Sample.taggedPath)) =
        .ok (Ledger.fileBytes ledger.document.toJson) := by
  have load : Act.loadLedger Sample.taggedPath Sample.styled Sample.tagged =
      (.ok (some ⟨[Sample.look]⟩), _) :=
    Act.loadLedger_stored Sample.stored_tagged Sample.storable Sample.styled
  obtain ⟨built, entries, v, contents, _, _, repeats, run⟩ :=
    replay_settled (r := Sample.replayer) (fun _ => Sample.timed) load (List.cons_ne_nil _ _)
      Sample.opens_tagged (.cons (Sample.reproduces _ (List.mem_singleton.mpr rfl)).settles .nil)
  have canWrite : built.invocations.all Invocation.canWrite = true := by
    rw [Invocation.canWrite_of_contents contents]
    exact (Ledger.store_ok_iff.mp ⟨_, Sample.stored_tagged⟩).1
  have files : v.files = Sample.tagged.files := repeats.kept.map Prod.fst
  obtain ⟨files', stored⟩ := Ledger.store_ok_iff.mpr ⟨canWrite, files ▸ Sample.writable_tagged⟩
  rcases ends : Act.exchangeLedger Sample.taggedPath built entries Sample.styled v with
    ⟨outcome, w'⟩
  rcases Act.exchangeLedger_cases ends with ⟨_, unwritten, _⟩ |
    ⟨files', stored, ⟨failure, refused, rfl, rfl⟩ | ⟨taken, _⟩⟩
  · cases unwritten.symm.trans stored
  · cases refused.symm.trans Sample.refuses_tagged
    exact ⟨_, congrArg Prod.fst load, run.trans ends, repeats.kept.map Prod.snd, rfl, built,
      contents, (Ledger.read_store stored).2⟩
  · cases taken.symm.trans Sample.refuses_tagged

end WebPilot
