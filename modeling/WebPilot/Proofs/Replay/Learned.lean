import WebPilot.Proofs.Conversation.Learning
import WebPilot.Proofs.Replay.Reproduced

/-!
# What a conversation learns can be replayed

A backend is stable when its answer to a call depends on the tool and the arguments alone.  Over
such a backend what a conversation records is reproduced (`Session.Executes.reproduces`), and its
arguments have been shown before, so that a file can keep them.

**So a ledger that a conversation has filled, and that was written to a file, is confirmed by a
replay from there, if only the file beside it can be written and the console takes the lines with
its path** (`Replayer.confirms_learned`).  If that file cannot be written, the replay ends with the
refusal when it has executed all calls, and the session keeps its files and its ledger.
-/

namespace WebPilot

set_option autoImplicit false

/-! ## What is recorded -/

namespace Session

variable {session : Session} {w w' : World} {calls : List ToolCall}

/-- Over a stable backend all histories are alike. -/
theorem receive_stable (stable : session.backend.Stable) (h h' : List Event) (tool : String)
    (arguments : Fields) :
    session.receive h tool arguments = session.receive h' tool arguments := by
  unfold receive
  rw [stable h h' tool arguments]

/-- What was recorded of executed calls is reproduced over a stable backend, and it has the
arguments of a call that was executed. -/
theorem Executes.reproduces (executes : session.Executes w calls w')
    (empty : w.ledger.invocations = []) (stable : session.backend.Stable) {i : Invocation}
    (member : i ∈ w'.ledger.invocations) :
    session.Reproduces i ∧ ∃ call ∈ calls, call.arguments = i.arguments := by
  obtain ⟨recorded, grown, kept⟩ := executes.ledger
  rw [grown, empty, List.nil_append] at member
  have listed := List.mem_map_of_mem (f := Invocation.content) member
  rw [kept] at listed
  obtain ⟨e, executed, success⟩ := List.mem_filterMap.mp listed
  obtain ⟨earlier, received⟩ := session.receive_of_mem_executed executed
  cases reception : e.reception with
  | unknown => simp [Executed.kept?, reception, Reception.success?] at success
  | raised message => simp [Executed.kept?, reception, Reception.success?] at success
  | answered answer =>
      cases flag : answer.flagged with
      | true => simp [Executed.kept?, reception, Reception.success?, flag] at success
      | false =>
          simp only [Executed.kept?, reception, Reception.success?, flag, Invocation.content,
            Option.map_some, Bool.false_eq_true, if_false, Option.some.injEq, Prod.mk.injEq]
            at success
          obtain ⟨tool, arguments, result⟩ := success
          refine ⟨fun history => ⟨answer, ?_, flag, result⟩, e.call, ?_, arguments⟩
          · rw [← tool, ← arguments, receive_stable stable history earlier, ← received, reception]
          · rw [← session.map_call_executed w.events calls]
            exact List.mem_map_of_mem executed

end Session

/-- Arguments that can be shown have no integer that is too long to be read. -/
theorem ToolCall.Shown.short {room : Nat} {call : ToolCall} (shown : call.Shown room) :
    Json.longestIntOfFields call.arguments ≤ Decimal.maxIntegerDigits := by
  obtain ⟨text, written⟩ := shown
  unfold argumentText Json.writeShown at written
  split at written
  · rename_i unfaulted
    exact ((Json.shownFault?_eq_none_iff _ _).mp unfaulted).2
  · cases written

/-! ## A sample -/

namespace Sample

/-- A model that looks once. -/
def model : ModelService :=
  .direct fun before _ => .ok
    (if before.isEmpty then { content := "", toolCalls := [⟨"first", "look", []⟩] }
      else { content := "bye" })

/-- A conversation that looks once. -/
def runtime : Runtime where
  session
  model
  tools := session.catalog.definitions
  settings := { iterationDelay := .whole 0 }

/-- The world after that conversation. -/
def after : World :=
  (converse runtime "task" surroundings .fresh).2

theorem ledger_after : after.ledger = ledger := by
  rfl

theorem files_after : after.files = .empty := by
  rfl

theorem stable : backend.Stable :=
  fun _ _ _ _ => rfl

/-- What was learned is saved. -/
theorem saves {name : String} {files : Files} (stored : ledger.store .empty name = .ok files) :
    Act.saveLedger name surroundings after = (.ok (), { after with files }) := by
  have learned : after.ledger.invocations ≠ [] := ledger_after ▸ filled
  refine Act.saveLedger_stored learned ?_ surroundings
  rw [ledger_after, files_after, stored]

/-- A name of a given length. -/
def nameOf (length : Nat) : String :=
  String.ofList (List.replicate length 'a')

theorem isName_nameOf {length : Nat} {ending : String} (long : 2 < length)
    (free : '/' ∉ ending.toList) : Path.IsName (nameOf length ++ ending) := by
  have longer : 2 < (nameOf length ++ ending).length := by
    simp only [nameOf, String.length_append, String.length_ofList, List.length_replicate]
    omega
  refine ⟨?_, ?_, ?_, ?_⟩
  · simpa [nameOf] using free
  all_goals
    intro same
    rw [same] at longer
    exact absurd longer (by decide)

theorem visible_nameOf (length : Nat) : '\x00' ∉ (nameOf length).toList := by
  simp [nameOf]

theorem length_encode_nameOf (length : Nat) (ending : String) :
    (Text.Utf8.encode (nameOf length ++ ending)).length =
      length + (Text.Utf8.encode ending).length := by
  have width : Text.Utf8.encodeChar 'a' = [97] := rfl
  simp [nameOf, Text.Utf8.encode, width]

/-- A name that leaves no room for an ending. -/
def longName : String :=
  nameOf 250

end Sample

/-! ## What is replayed -/

namespace Replayer

/-- **What a conversation learns is confirmed by a replay.**  The conversation has a stable backend
and an empty ledger, and ends in any way; what it learned, with arguments that files can keep, is
saved at a path, and replayed from there in another session over the same backend.  That comes to
its end exactly if the file beside the path can be written and the console takes the lines with the
path.  If the file cannot be written, the refusal ends the replay, after all calls and with nothing
replaced. -/
theorem confirms_learned {rt : Runtime} {r : Replayer} {s s' : Surroundings} {task path : String}
    {w saved v : World} (stable : rt.session.backend.Stable) (fresh : w.ledger.invocations = [])
    (learned : (converse rt task s w).2.ledger.invocations ≠ [])
    (storable : ∀ i ∈ (converse rt task s w).2.ledger.invocations,
      Json.storable 197 (.object i.arguments) = true)
    (saves : Act.saveLedger path s (converse rt task s w).2 = (.ok (), saved))
    (same : r.session = rt.session) (files : v.files = saved.files) (timed : r.Timed) :
    (r.Confirms path s' v (converse rt task s w).2.ledger.invocations ↔
      s'.Takes (openingLine (converse rt task s w).2.ledger.invocations.length path) ∧
        v.files.Writable (Path.ofText (updatedPath path)) ∧ s'.Takes (closingLine path)) ∧
    (s'.Takes (openingLine (converse rt task s w).2.ledger.invocations.length path) →
      ¬ v.files.Writable (Path.ofText (updatedPath path)) →
      r.EndsRefused path s' v (converse rt task s w).2.ledger.invocations) := by
  rcases run : converse rt task s w with ⟨outcome, w'⟩
  rw [run] at learned storable saves
  obtain ⟨b, calls, _, _, _, _, executes, shown⟩ := Boundary.converse_executes run
  rw [Act.saveLedger_filled learned] at saves
  obtain ⟨files', stored, rfl⟩ := Act.storeLedger_ok saves
  have stored : w'.ledger.store w'.files path = .ok v.files := files ▸ stored
  have storable : ∀ i ∈ w'.ledger.invocations, i.Storable := by
    intro i member
    obtain ⟨_, call, asked, arguments⟩ := executes.reproduces fresh stable member
    exact ⟨storable i member, arguments ▸ (shown call asked).short⟩
  have reproduced : ∀ i ∈ w'.ledger.invocations, r.session.Reproduces i :=
    fun i member => same ▸ (executes.reproduces fresh stable member).1
  exact ⟨confirms_stored_iff timed stored learned storable reproduced,
    (settles_reproduced timed stored learned storable reproduced).refused⟩

/-- What a conversation that looks once learns is saved, and confirmed by a replay. -/
theorem confirms_learned_look :
    ∃ saved, Act.saveLedger "look" Sample.surroundings Sample.after = (.ok (), saved) ∧
      Sample.replayer.Confirms "look" Sample.surroundings { World.fresh with files := saved.files }
        Sample.after.ledger.invocations := by
  obtain ⟨files, stored, beside⟩ := Sample.stores_look
  have filled : Sample.after.ledger.invocations ≠ [] := Sample.ledger_after ▸ Sample.filled
  have storable (i) (member : i ∈ Sample.after.ledger.invocations) :
      Json.storable 197 (.object i.arguments) = true :=
    (Sample.storable i (Sample.ledger_after ▸ member)).1
  have confirmed := @confirms_learned Sample.runtime Sample.replayer Sample.surroundings
    Sample.surroundings "task" "look" .fresh { Sample.after with files } { World.fresh with files }
    Sample.stable rfl filled storable (Sample.saves stored) rfl rfl Sample.timed
  exact ⟨_, Sample.saves stored, confirmed.1.mpr ⟨Sample.takes _, beside, Sample.takes _⟩⟩

/-- **A name that leaves no room for an ending is not replayed from.**  What a conversation that
looks once learns is saved under it, but the file beside it cannot be written. -/
theorem longName_not_confirmed :
    Sample.runtime.session.backend.Stable ∧ World.fresh.ledger.invocations = [] ∧
      Sample.replayer.session = Sample.runtime.session ∧ Sample.replayer.Timed ∧
      Sample.after.ledger.invocations ≠ [] ∧
      (∀ i ∈ Sample.after.ledger.invocations, Json.storable 197 (.object i.arguments) = true) ∧
      ∃ saved, Act.saveLedger Sample.longName Sample.surroundings Sample.after = (.ok (), saved) ∧
        ¬ Sample.replayer.Confirms Sample.longName Sample.surroundings
          { World.fresh with files := saved.files } Sample.after.ledger.invocations := by
  rw [Sample.ledger_after]
  refine ⟨Sample.stable, rfl, rfl, Sample.timed, Sample.filled,
    fun i member => (Sample.storable i member).1, ?_⟩
  have long (ending : String) : Files.exceeds Files.maxNameBytes (Sample.longName ++ ending) =
      decide (255 < 250 + (Text.Utf8.encode ending).length) := by
    rw [Files.exceeds, Sample.longName, Sample.length_encode_nameOf]
    rfl
  have plain : Sample.longName ++ "" = Sample.longName := String.append_empty
  have isName : Path.IsName Sample.longName :=
    plain ▸ Sample.isName_nameOf (by decide) (by decide)
  have beside : Path.IsName (Sample.longName ++ ".updated") :=
    Sample.isName_nameOf (by decide) (by decide)
  have updated : updatedPath Sample.longName = Sample.longName ++ ".updated" :=
    Path.tidy_name beside
  have short : Files.exceeds Files.maxNameBytes Sample.longName = false :=
    plain ▸ long ""
  obtain ⟨files, stored⟩ :=
    Sample.stores (Sample.writable isName (Sample.visible_nameOf 250) short)
  refine ⟨_, Sample.saves stored, fun confirmed => ?_⟩
  have writable := (@confirms_stored_iff Sample.replayer Sample.surroundings
    { World.fresh with files } Sample.ledger .empty Sample.longName Sample.timed stored
    Sample.filled Sample.storable Sample.reproduces).mp confirmed |>.2.1
  rw [updated, Files.writable_name beside, long] at writable
  cases writable.2.1

end Replayer

end WebPilot
