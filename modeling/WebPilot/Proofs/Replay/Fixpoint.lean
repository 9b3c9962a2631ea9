import WebPilot.Proofs.Files.Beside
import WebPilot.Proofs.Ledger.Loading
import WebPilot.Proofs.Replay.Exchange
import WebPilot.Proofs.Replay.Learned
import WebPilot.Proofs.Session.Console

/-!
# Replaying what was replayed

Over a stable backend, a replay leaves a ledger of which every call is settled
(`Reconciled.settles`): a call that could not be executed will not be, and a text that was adopted
will come back, be it of the recorded call or of a repaired one.  The exception is a call that came
back with an error which nobody repaired.

The ledger has been through a file once, and the arguments of a repair through the reader of
answers, so none of its integers is too long to be read again (`Reconciled.short`).

**So where no error was left, replaying the file that a replay has written changes nothing more**
(`Replayer.replayed_settles`): what failed fails again, everything else is confirmed, and nobody is
asked.
-/

namespace WebPilot

set_option autoImplicit false

/-- What a status becomes when the entry is replayed once more. -/
def ReplayStatus.settled : ReplayStatus → ReplayStatus
  | failed => failed
  | confirmed | updated | repaired => confirmed

/-- The entry could not be executed, or was without an error in the end. -/
def ReplayEntry.Sound (e : ReplayEntry) : Prop :=
  e.status = .failed ∨ e.error = none

/-! ## Stable sessions -/

/-- A success is an answer without the flag of an error. -/
theorem Reception.answered_of_success? {reception : Reception} {text : String}
    (success : reception.success? = some text) :
    ∃ answer, reception = .answered answer ∧ answer.flagged = false ∧ answer.render = text := by
  cases reception with
  | unknown | raised _ => cases success
  | answered answer =>
      cases flag : answer.flagged with
      | true => simp [success?, flag] at success
      | false =>
          have text : answer.render = text := by simpa [success?, flag] using success
          exact ⟨answer, rfl, flag, text⟩

namespace Session

variable {session : Session} {history : List Event} {i : Invocation}

/-- A call that came back once as it is recorded does so always. -/
theorem settles_of_answered (stable : session.backend.Stable) {answer : ToolAnswer}
    (received : session.receive history i.tool i.arguments = .answered answer)
    (flag : answer.flagged = false) (same : sameText answer.render i.result = true) :
    session.Settles i .confirmed := by
  refine .confirmed fun other => ⟨answer, ?_, flag, same⟩
  rw [receive_stable stable other history, received]

/-- A call that could not be executed once never can. -/
theorem settles_of_refused (stable : session.backend.Stable) {failure : Failure}
    (refused : (session.receive history i.tool i.arguments).outcome i.tool i.arguments =
      .error failure) : session.Settles i .failed := by
  refine .failed fun other => ⟨failure, ?_⟩
  rw [receive_stable stable other history, refused]

end Session

/-! ## Entries -/

/-- The result that is kept is the same as the text that came back. -/
theorem Kept.same {recorded new : Invocation} {answer : ToolAnswer}
    {adopted? : Option (Fields × String)} {entry : ReplayEntry}
    (kept : Kept recorded answer adopted? new entry) :
    sameText (finalText answer adopted?) new.result = true := by
  rw [kept.result]
  split
  · assumption
  · exact sameText_self _

section Entries

variable {r : Replayer} {s : Surroundings} {recorded new : Invocation}
  {previous? : Option Invocation} {entry : ReplayEntry} {w w' : World}

/-- What is adopted was suggested in an answer, and succeeded. -/
theorem Replayer.Repairs.adopted {flagged : Bool} {adopted? : Option (Fields × String)}
    (repairs : r.Repairs s recorded previous? flagged w w' adopted?) {arguments : Fields}
    {text : String} (adopts : adopted? = some (arguments, text)) :
    (∃ reply : Reply, readArguments reply.content = .ok arguments) ∧
      ∃ history, (r.session.receive history recorded.tool arguments).success? = some text := by
  cases repairs with
  | spared => cases adopts
  | @asked _ _ _ _ answer _ _ _ _ _ _ _ =>
      obtain ⟨suggestion, suggested, found⟩ := Option.bind_eq_some_iff.mp adopts
      obtain ⟨came, success, pair⟩ := Option.map_eq_some_iff.mp found
      cases pair
      refine ⟨?_, w.events, success⟩
      cases answer with
      | error failure => cases suggested
      | ok reply =>
          refine ⟨reply, ?_⟩
          cases read : readArguments reply.content with
          | ok fields => simpa [suggested?, read, Except.toOption] using suggested
          | error fault => simp [suggested?, read, Except.toOption] at suggested

/-- The call that is kept came back, without an error if none was left. -/
theorem Kept.answers {first : World} {answer : ToolAnswer} {adopted? : Option (Fields × String)}
    (answered : r.session.receive w.events recorded.tool recorded.arguments = .answered answer)
    (repairs : r.Repairs s recorded previous? answer.flagged first w' adopted?)
    (kept : Kept recorded answer adopted? new entry) (silent : entry.error = none) :
    ∃ history last, r.session.receive history new.tool new.arguments = .answered last ∧
      last.flagged = false ∧ last.render = finalText answer adopted? := by
  rw [kept.tool, kept.arguments]
  cases adopts : adopted? with
  | none =>
      have flag : answer.flagged = false := by
        have error := kept.error
        rw [silent, adopts] at error
        simpa using error
      exact ⟨w.events, answer, answered, flag, rfl⟩
  | some pair =>
      obtain ⟨arguments, text⟩ := pair
      obtain ⟨_, history, success⟩ := repairs.adopted adopts
      obtain ⟨last, received, flag, text⟩ := Reception.answered_of_success? success
      exact ⟨history, last, received, flag, text⟩

/-- **An entry that leaves no error leaves a settled call.** -/
theorem Reconciled.settles (stable : r.session.backend.Stable)
    (reconciled : Reconciled r s recorded previous? w w' new entry) (sound : entry.Sound) :
    r.session.Settles new entry.status.settled := by
  cases reconciled with
  | failed raised status _ _ _ =>
      rw [status]
      exact Session.settles_of_refused stable raised
  | executed answered repairs _ _ _ _ kept =>
      have executed : entry.status ≠ .failed ∧ entry.status.settled = .confirmed := by
        rw [kept.status]
        split
        · exact ⟨nofun, rfl⟩
        · split <;> exact ⟨nofun, rfl⟩
      rw [executed.2]
      obtain ⟨history, last, received, flag, text⟩ :=
        kept.answers answered repairs (sound.resolve_left executed.1)
      exact Session.settles_of_answered stable received flag (text ▸ kept.same)

/-- Arguments that are read off an answer have no integer that is too long to be read again. -/
theorem short_of_readArguments {answer : String} {arguments : Fields}
    (read : readArguments answer = .ok arguments) :
    Json.longestIntOfFields arguments ≤ Decimal.maxIntegerDigits := by
  unfold readArguments at read
  simp only at read
  split at read
  · cases read
  · rename_i whole
    cases read
    exact Json.longestInt_readAll (.inl rfl) whole
  · cases read

/-- **An entry whose integers could be read leaves a call whose integers can.** -/
theorem Reconciled.short (reconciled : Reconciled r s recorded previous? w w' new entry)
    (short : Json.longestIntOfFields recorded.arguments ≤ Decimal.maxIntegerDigits) :
    Json.longestIntOfFields new.arguments ≤ Decimal.maxIntegerDigits := by
  cases reconciled with
  | failed => exact short
  | @executed _ adopted? _ _ _ _ repairs _ _ _ _ kept =>
      rw [kept.arguments]
      cases adopts : adopted? with
      | none => exact short
      | some pair =>
          obtain ⟨arguments, text⟩ := pair
          obtain ⟨⟨_, read⟩, _⟩ := repairs.adopted adopts
          exact short_of_readArguments read

end Entries

/-! ## Pauses -/

namespace Replayer

variable {r : Replayer} {s : Surroundings} {w w' : World} {commands : List Invocation}
  {all : List Invocation × List ReplayEntry}

/-- An entry behind another one is reached after a pause. -/
theorem timed_of_replayFrom {total index : Nat} {built : List Invocation} (later : 0 < index)
    (left : commands ≠ []) (run : r.replayFrom total index built commands s w = (.ok all, w')) :
    r.Timed := by
  obtain ⟨first, rest, rfl⟩ := List.exists_cons_of_ne_nil left
  obtain ⟨_, waited, waiting, _⟩ := Act.bind_ok run
  intro positive endless
  simp only [decide_eq_true later, positive, Bool.and_self, Act.when_, if_true, Act.sleepFor,
    endless] at waiting
  cases waiting

/-- Entries that have all been replayed have been reached after pauses. -/
theorem paces_of_replayFrom {total : Nat} {built : List Invocation}
    (run : r.replayFrom total 0 built commands s w = (.ok all, w')) :
    r.Paces commands.length := by
  intro several
  cases commands with
  | nil => exact absurd several (by decide)
  | cons first rest =>
      have more : rest ≠ [] := by
        rintro rfl
        exact Nat.lt_irrefl 1 several
      obtain ⟨_, waited, _, run⟩ := Act.bind_ok run
      simp only [Act.print_bind] at run
      obtain ⟨one, replayed, _, run⟩ := Act.bind_ok run
      simp only [Act.print_bind] at run
      obtain ⟨others, last, run, _⟩ := Act.bind_ok run
      exact timed_of_replayFrom (Nat.succ_pos 0) more run

/-- A replay that comes to its end has made all its pauses. -/
theorem paces_of_replay {path : String} {loaded : World} {result : ReplayResult}
    (load : Act.loadLedger path s w = (.ok (some ⟨commands⟩), loaded)) (recorded : commands ≠ [])
    (run : r.replay path s w = (.ok result, w')) : r.Paces commands.length := by
  obtain ⟨first, rest, rfl⟩ := List.exists_cons_of_ne_nil recorded
  rw [replay, Act.bind_of_ok load] at run
  obtain ⟨_, _, _, run⟩ := Act.bind_ok run
  obtain ⟨directory, _, seen, run⟩ := Act.bind_ok run
  cases seen
  obtain ⟨all, middle, replayed, _⟩ := Act.bind_ok run
  exact paces_of_replayFrom replayed

end Replayer

/-! ## Lines with a path -/

section Lines

open Text.Markup

/-- The path of a file and that of the file beside it have the same tags. -/
theorem readTags_updated (path : String) :
    readTags 0 (path ++ ".updated").toList = readTags 0 path.toList := by
  have bare : '[' ∉ ".updated".toList := by decide
  rw [String.toList_append, readTags_append _ (by decide), readTags_bare bare, List.append_nil]

/-- The line about the file that a replay has written has the tags of its path. -/
theorem readTags_closingLine (path : String) :
    readTags 0 (closingLine path).markup.toList = readTags 0 (updatedPath path).toList := by
  change readTags 0 ("Updated ledger written to " ++ updatedPath path).toList = _
  have bare : '[' ∉ "Updated ledger written to ".toList := by decide
  rw [String.toList_append, readTags_bare_append bare]
  rfl

/-- What is said before a replay, without its style. -/
def openingText (total : Nat) (path : String) : String :=
  s!"Replaying {total} recorded commands from {path}"

theorem markup_openingLine (total : Nat) (path : String) :
    (openingLine total path).markup = Console.inStyle "bold" (openingText total path) := by
  change "[bold]Replaying " ++ toString total ++ " recorded commands from " ++ path ++ "[/bold]" =
    "[" ++ "bold" ++ "]" ++ ("Replaying " ++ toString total ++ " recorded commands from " ++ path) ++
      "[/" ++ "bold" ++ "]"
  apply String.toList_injective
  simp

/-- It has the tags of the path. -/
theorem readTags_openingText (total : Nat) (path : String) :
    readTags 0 (openingText total path).toList = readTags 0 path.toList := by
  change readTags 0 ("Replaying " ++ toString total ++ " recorded commands from " ++ path).toList = _
  have bare : '[' ∉ ("Replaying " ++ toString total ++ " recorded commands from ").toList := by
    simp only [String.toList_append, List.mem_append, not_or]
    refine ⟨⟨by decide, fun member => ?_⟩, by decide⟩
    rw [Nat.toString_eq_repr, Nat.toList_repr] at member
    exact absurd (Nat.isDigit_of_mem_toDigits (by decide) (by decide) member) (by decide)
  rw [String.toList_append, readTags_bare_append bare, String.toList_append, slashesAfter_append]
  rfl

theorem isStyle_bold : Console.IsStyle "bold" where
  starts := ⟨'b', _, rfl, by decide⟩
  plain c member := by
    have all : "bold".toList.all (fun c => !isBracket c && c != '=') = true := by decide
    simpa using List.all_eq_true.mp all c member
  trimmed := by decide

end Lines

/-- **A console that has taken the lines of a replay takes those of the replay of its file.** -/
theorem Surroundings.takes_again {s s' : Surroundings} {total : Nat} {path : String}
    (opened : s.Takes (openingLine total path)) (closed : s.Takes (closingLine path))
    (same : s'.console = s.console) (total' : Nat) :
    s'.Takes (openingLine total' (updatedPath path)) ∧
      s'.Takes (closingLine (updatedPath path)) := by
  unfold Takes refusal? at opened closed ⊢
  rw [same]
  generalize s.console = console? at opened closed ⊢
  cases console? with
  | none => exact ⟨rfl, rfl⟩
  | some console =>
      simp only [Option.bind_some] at opened closed ⊢
      rw [markup_openingLine] at opened ⊢
      have inside : console.refusal? (openingText total' (updatedPath path)) = none :=
        (Console.refusal?_eq_none_congr
          ((readTags_openingText _ _).trans (readTags_closingLine path).symm)).mpr closed
      refine ⟨Console.refusal?_styled isStyle_bold
        (Console.knows_of_styled isStyle_bold opened) inside, ?_⟩
      refine (Console.refusal?_eq_none_congr ?_).mpr closed
      rw [readTags_closingLine, readTags_closingLine, updatedPath_updatedPath, readTags_updated]

/-! ## Replays -/

namespace Replayer

variable {r : Replayer} {s : Surroundings} {path : String} {w w' : World} {result : ReplayResult}

/-- What a replay that came to its end has done. -/
structure Replayed (r : Replayer) (path : String) (s : Surroundings) (w w' : World)
    (result : ReplayResult) : Prop where
  filled : result.ledger.invocations ≠ []
  paces : r.Paces result.ledger.invocations.length
  opened : s.Takes (openingLine result.ledger.invocations.length path)
  closed : s.Takes (closingLine path)
  stored : result.ledger.store w.files (updatedPath path) = .ok w'.files
  length : result.entries.length = result.ledger.invocations.length
  reconciled : ∀ (i : Nat) new entry,
    result.ledger.invocations[i]? = some new → result.entries[i]? = some entry →
    ∃ recorded previous? before after, Reconciled r s recorded previous? before after new entry ∧
      Json.longestIntOfFields recorded.arguments ≤ Decimal.maxIntegerDigits

/-- A replay that came to its end has done so. -/
theorem replay_entries (run : r.replay path s w = (.ok result, w'))
    (replayed : result.didReplay = true) : Replayed r path s w w' result := by
  cases replay_ends run with
  | unchanged idle _ _ => cases (idle _ rfl).symm.trans replayed
  | @exchanged commands loaded ledger entries load recorded opened closed filled _ _ stored _ =>
      obtain ⟨_, length, length', worlds, _, _, each⟩ := replay_reconciles load recorded run
      refine ⟨filled, length' ▸ paces_of_replay load recorded run, length' ▸ opened, closed,
        stored, length.trans length'.symm, fun i new entry at_new at_entry => ?_⟩
      have inside : i < commands.length :=
        length' ▸ (List.getElem?_eq_some_iff.mp at_new).1
      have at_ := List.getElem?_eq_getElem inside
      exact ⟨_, _, _, _, (each i _ new entry at_ at_new at_entry).2.2,
        Ledger.short_of_load (Act.load_of_loadLedger load) _ (List.getElem_mem inside)⟩

/-- **Replaying what a replay has written changes nothing more.**  If the entries of a replay over a
stable backend have all failed or are without an error, then another replay, of the file that it has
written, marks as failed what had failed, confirms everything else, and asks nobody.  It comes to
its end exactly if the file beside that one can be written and the console takes the lines with the
path; a console like that of the first replay takes them. -/
theorem replayed_settles {r' : Replayer} {s' : Surroundings} {v : World}
    (stable : r.session.backend.Stable) (run : r.replay path s w = (.ok result, w'))
    (replayed : result.didReplay = true) (sound : ∀ e ∈ result.entries, e.Sound)
    (storable : ∀ i ∈ result.ledger.invocations,
      Json.storable 197 (.object i.arguments) = true)
    (same : r'.session = r.session) (pauses : r'.delay = r.delay ∨ r'.Timed)
    (files : v.files = w'.files) :
    r'.Settling (updatedPath path) s' v result.ledger.invocations
        (result.entries.map fun e => e.status.settled) ∧
      (s'.console = s.console →
        s'.Takes (openingLine result.ledger.invocations.length (updatedPath path)) ∧
          s'.Takes (closingLine (updatedPath path))) := by
  obtain ⟨filled, paces, opened, closed, stored, length, each⟩ := replay_entries run replayed
  rw [← files] at stored
  have paces : r'.Paces result.ledger.invocations.length := by
    intro several
    rcases pauses with delay | timed
    · have timed := paces several
      unfold Timed at timed ⊢
      rwa [delay]
    · exact timed
  refine ⟨settles_stored paces stored filled (fun i member => ⟨storable i member, ?_⟩) ?_,
    fun console => Surroundings.takes_again opened closed console _⟩
  · obtain ⟨n, inside, rfl⟩ := List.mem_iff_getElem.mp member
    obtain ⟨_, _, _, _, reconciled, short⟩ := each n _ _ (List.getElem?_eq_getElem inside)
      (List.getElem?_eq_getElem (length ▸ inside))
    exact reconciled.short short
  · rw [same, List.forall₂_map_right_iff]
    refine List.forall₂_iff_get.mpr ⟨length.symm, fun n inside inside' => ?_⟩
    obtain ⟨_, _, _, _, reconciled, _⟩ := each n _ _ (List.getElem?_eq_getElem inside)
      (List.getElem?_eq_getElem inside')
    exact reconciled.settles stable (sound _ (List.getElem_mem inside'))

end Replayer

/-! ## Samples -/

namespace Sample

/-- Where nothing stands beside it, the ledger of a look is stored under a name and replayed, and
the look is confirmed. -/
theorem replays {name : String} (isName : Path.IsName name) (visible : '\x00' ∉ name.toList)
    (short : Files.exceeds Files.maxNameBytes name = false)
    (beside : Files.empty.Writable (Path.ofText (updatedPath name))) :
    ∃ w w' result, replayer.replay name surroundings w = (.ok result, w') ∧
      result.didReplay = true ∧ (∀ e ∈ result.entries, e.Sound) ∧
      (∀ i ∈ result.ledger.invocations, Json.storable 197 (.object i.arguments) = true) ∧
      ∀ other, Files.empty.Writable other → w'.files.Writable other := by
  obtain ⟨files, stored⟩ := stores (writable isName visible short)
  let w : World := { World.fresh with files }
  have stored : ledger.store .empty name = .ok w.files := stored
  have room := Ledger.writable_after_store stored beside
  obtain ⟨result, w', run, did, _, confirmed, _, contents⟩ :=
    (Replayer.confirms_stored_iff (s := surroundings) timed stored filled storable reproduces).mpr
      ⟨takes _, room, takes _⟩
  have again := (Replayer.replay_entries run did).stored
  refine ⟨w, w', result, run, did, fun e member => .inr (confirmed e member).2, ?_, ?_⟩
  · intro i member
    have listed := List.mem_map_of_mem (f := Invocation.content) member
    rw [contents] at listed
    have same : i.content = look.content := List.mem_singleton.mp listed
    have arguments : i.arguments = look.arguments := congrArg (fun content => content.2.1) same
    rw [arguments]
    exact (storable look (List.mem_singleton.mpr rfl)).1
  · intro other open_
    exact Ledger.writable_after_store again (Ledger.writable_after_store stored open_)

theorem stable_bareSite : bareSite.Stable :=
  fun _ _ _ _ => rfl

end Sample

namespace Replayer

/-- A replayed tour is replayed once more: what had failed fails again, and everything else is
confirmed. -/
theorem replayed_tour_settles :
    ∃ result w', Sample.guide.replay "tour" Sample.surroundings Sample.touring = (.ok result, w') ∧
      result.entries.map ReplayEntry.status = [.confirmed, .updated, .repaired, .failed] ∧
      Sample.guide.Completes "tour.updated" Sample.surroundings
        { World.fresh with files := w'.files } result.ledger.invocations
        [.confirmed, .confirmed, .confirmed, .failed] := by
  have first : updatedPath "tour" = "tour.updated" :=
    Path.tidy_name ⟨by decide, by decide, by decide, by decide⟩
  have isName : Path.IsName "tour.updated.updated" :=
    ⟨by decide, by decide, by decide, by decide⟩
  have second : updatedPath "tour.updated" = "tour.updated.updated" := Path.tidy_name isName
  have more : Files.empty.Writable (Path.ofText (updatedPath "tour.updated")) := by
    rw [second]
    exact Sample.writable isName (by decide) (by decide)
  obtain ⟨result, w', run, did, entries, storable, room⟩ := Sample.replays_tour
  have sound : ∀ e ∈ result.entries, e.Sound := by
    rw [entries]
    simp [Sample.tourEntries, ReplayEntry.Sound]
  obtain ⟨settling, takes⟩ := @replayed_settles Sample.guide Sample.surroundings "tour"
    Sample.touring w' result Sample.guide Sample.surroundings
    { World.fresh with files := w'.files } Sample.stable_bareSite run did sound storable rfl (.inl rfl)
    rfl
  rw [first] at settling takes
  obtain ⟨opens, closes⟩ := takes rfl
  have completes := settling.completes.mpr ⟨opens, room _ more, closes⟩
  rw [entries] at completes
  exact ⟨result, w', run, by rw [entries]; rfl, completes⟩

/-- **A name that leaves room for one ending only is replayed from once.**  The replay of the file
that the first replay has written does not come to its end, for its own file cannot be written. -/
theorem tightName_not_settled :
    Sample.replayer.session.backend.Stable ∧ ∃ w w' result,
      Sample.replayer.replay (Sample.nameOf 240) Sample.surroundings w = (.ok result, w') ∧
      result.didReplay = true ∧ (∀ e ∈ result.entries, e.Sound) ∧
      (∀ i ∈ result.ledger.invocations, Json.storable 197 (.object i.arguments) = true) ∧
      ¬ Sample.replayer.Completes (updatedPath (Sample.nameOf 240)) Sample.surroundings
        { World.fresh with files := w'.files } result.ledger.invocations
        (result.entries.map fun e => e.status.settled) := by
  have isName (ending : String) (free : '/' ∉ ending.toList) :
      Path.IsName (Sample.nameOf 240 ++ ending) := Sample.isName_nameOf (by decide) free
  have plain : Path.IsName (Sample.nameOf 240) := by
    simpa using isName "" (by decide)
  have long (ending : String) : Files.exceeds Files.maxNameBytes (Sample.nameOf 240 ++ ending) =
      decide (255 < 240 + (Text.Utf8.encode ending).length) := by
    rw [Files.exceeds, Sample.length_encode_nameOf]
    rfl
  have short : Files.exceeds Files.maxNameBytes (Sample.nameOf 240) = false := by
    rw [← String.append_empty (s := Sample.nameOf 240), long]
    rfl
  have first : updatedPath (Sample.nameOf 240) = Sample.nameOf 240 ++ ".updated" :=
    Path.tidy_name (isName ".updated" (by decide))
  have second : updatedPath (Sample.nameOf 240 ++ ".updated") =
      Sample.nameOf 240 ++ ".updated.updated" := by
    have name := isName ".updated.updated" (by decide)
    rw [updatedPath, String.append_assoc]
    exact Path.tidy_name name
  have beside : Files.empty.Writable (Path.ofText (updatedPath (Sample.nameOf 240))) := by
    rw [first]
    refine Sample.writable (isName _ (by decide)) ?_ (long _)
    rw [String.toList_append, List.mem_append, not_or]
    exact ⟨Sample.visible_nameOf 240, by decide⟩
  obtain ⟨w, w', result, run, did, sound, storable, _⟩ :=
    Sample.replays plain (Sample.visible_nameOf 240) short beside
  refine ⟨Sample.stable, w, w', result, run, did, sound, storable, fun completes => ?_⟩
  obtain ⟨again, v', rerun, did', _⟩ := completes
  have stored := (replay_entries rerun did').stored
  have writable := (Ledger.store_ok_iff.mp ⟨_, stored⟩).2
  rw [first, second, Files.writable_name (isName _ (by decide)), long] at writable
  cases writable.2.1

end Replayer

end WebPilot
