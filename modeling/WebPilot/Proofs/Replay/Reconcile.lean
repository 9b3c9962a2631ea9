import WebPilot.Proofs.Replay.Reproduced

/-!
# How a replay reconciles an entry

A replayed call either could not be executed, and then the recorded call is kept as it is
(`Reconciled.failed`), or it came back, and then the new ledger gets what came back
(`Reconciled.executed`).  A call that came back with the flag of an error, with another call before
it and someone to ask, is asked about exactly once; what is suggested is tried exactly once, and
adopted if that brings a success (`Replayer.Repairs`).

**Every entry of a replay that returns is reconciled** (`Replayer.replay_reconciles`), with the
predecessor that the new ledger holds at that moment.
-/

namespace WebPilot

set_option autoImplicit false

/-! ## Frames -/

/-- The world but for what replaying a call changes before its result is written. -/
def World.beside (w : World) : World :=
  { w.unasked with events := [], timesTaken := 0 }

theorem Same.beside_of_unasked {w w' : World} (same : Same World.unasked w w') :
    Same World.beside w w' :=
  same.map World.beside

/-- Worlds with one more in front of them. -/
def World.before (w : World) (worlds : Nat → World) : Nat → World
  | 0 => w
  | i + 1 => worlds i

/-! ## Repairs -/

/-- The arguments that an answer to a repair request suggests. -/
def suggested? : Except Failure Reply → Option Fields
  | .error _ => none
  | .ok reply => (readArguments reply.content).toOption

namespace Replayer

/-- What is adopted of an answer: the suggested arguments and the text that comes back, if the one
execution with them succeeds. -/
def adopted? (r : Replayer) (history : List Event) (tool : String)
    (answer : Except Failure Reply) : Option (Fields × String) :=
  (suggested? answer).bind fun arguments =>
    (r.session.receive history tool arguments).success?.map fun text => (arguments, text)

/-- The history after trying what an answer suggests. -/
def historyAfterRetry (r : Replayer) (history : List Event) (tool : String)
    (answer : Except Failure Reply) : List Event :=
  match suggested? answer with
  | some arguments => r.session.historyAfterOne history tool arguments
  | none => history

/-- What is asked about a call that no longer works. -/
def question (recorded previous : Invocation) (service : RepairService) : Request :=
  (RepairCase.mk recorded.tool recorded.arguments previous.result recorded.result).request
    service.temperature

/-- Whether and how a repair is looked for after a first execution, between the world after it and
the world in which the repair is settled; and what is adopted. -/
inductive Repairs (r : Replayer) (s : Surroundings) (recorded : Invocation)
    (previous? : Option Invocation) (flagged : Bool) (w w' : World) :
    Option (Fields × String) → Prop
  /-- Nobody is asked: there is no error, or no call before, or no service. -/
  | spared (reason : flagged = false ∨ previous? = none ∨ r.repairs = none)
      (asked : Same World.asked w w') (events : w'.events = w.events) :
      Repairs r s recorded previous? flagged w w' none
  /-- The service is asked once, and its suggestion is tried once. -/
  | asked {previous : Invocation} {service : RepairService} {before after : World}
      {answer : Except Failure Reply} (error : flagged = true)
      (predecessor : previous? = some previous) (present : r.repairs = some service)
      (earlier : Same World.asked w before)
      (ask : service.model.ask (question recorded previous service) s before = (answer, after))
      (later : Same World.asked after w')
      (events : w'.events = r.historyAfterRetry w.events recorded.tool answer) :
      Repairs r s recorded previous? flagged w w' (r.adopted? w.events recorded.tool answer)

end Replayer

/-! ## Entries -/

/-- The text that a call finally came back with. -/
def finalText (answer : ToolAnswer) (adopted? : Option (Fields × String)) : String :=
  (adopted?.map Prod.snd).getD answer.render

/-- What the new ledger and the report say of a call that came back. -/
structure Kept (recorded : Invocation) (answer : ToolAnswer)
    (adopted? : Option (Fields × String)) (new : Invocation) (entry : ReplayEntry) : Prop where
  tool : new.tool = recorded.tool
  arguments : new.arguments = (adopted?.map Prod.fst).getD recorded.arguments
  result : new.result =
    if sameText (finalText answer adopted?) recorded.result then recorded.result
    else finalText answer adopted?
  status : entry.status =
    if sameText (finalText answer adopted?) recorded.result then .confirmed
    else if adopted?.isSome then .repaired else .updated
  error : entry.error =
    if answer.flagged && adopted?.isNone then some answer.render else none
  /-- Where the digests tell these two texts apart, the result is the text that came back, and
  confirmed is what has the recorded one. -/
  faithful :
    (sameText (finalText answer adopted?) recorded.result = true →
        finalText answer adopted? = recorded.result) →
      new.result = finalText answer adopted? ∧
        (entry.status = .confirmed ↔ finalText answer adopted? = recorded.result)

/-- A call that came back is kept faithfully as soon as result and status are chosen by the
digests. -/
theorem Kept.ofFields {recorded new : Invocation} {answer : ToolAnswer}
    {adopted? : Option (Fields × String)} {entry : ReplayEntry}
    (tool : new.tool = recorded.tool)
    (arguments : new.arguments = (adopted?.map Prod.fst).getD recorded.arguments)
    (result : new.result =
      if sameText (finalText answer adopted?) recorded.result then recorded.result
      else finalText answer adopted?)
    (status : entry.status =
      if sameText (finalText answer adopted?) recorded.result then .confirmed
      else if adopted?.isSome then .repaired else .updated)
    (error : entry.error =
      if answer.flagged && adopted?.isNone then some answer.render else none) :
    Kept recorded answer adopted? new entry := by
  refine ⟨tool, arguments, result, status, error, fun apart => ?_⟩
  rw [result, status]
  by_cases same : sameText (finalText answer adopted?) recorded.result = true
  · have equal := apart same
    rw [if_pos same, if_pos same]
    exact ⟨equal.symm, fun _ => equal, fun _ => rfl⟩
  · have differ : finalText answer adopted? ≠ recorded.result := by
      intro equal
      rw [equal] at same
      exact same (sameText_self _)
    rw [if_neg same, if_neg same]
    refine ⟨rfl, fun confirmed => ?_, fun equal => absurd equal differ⟩
    split at confirmed <;> cases confirmed

/-- How one entry is reconciled: the recorded call with the call before it in the new ledger, the
worlds before and after, the new call and the report. -/
inductive Reconciled (r : Replayer) (s : Surroundings) (recorded : Invocation)
    (previous? : Option Invocation) (w w' : World) : Invocation → ReplayEntry → Prop
  /-- The call could not be executed; the recorded one is kept, with its time. -/
  | failed {entry : ReplayEntry} {failure : Failure}
      (raised : (r.session.receive w.events recorded.tool recorded.arguments).outcome recorded.tool
        recorded.arguments = .error failure)
      (status : entry.status = .failed) (error : entry.error = some failure.message)
      (asked : Same World.asked w w')
      (events : w'.events =
        r.session.historyAfterOne w.events recorded.tool recorded.arguments) :
      Reconciled r s recorded previous? w w' recorded entry
  /-- The call came back; what came back is kept, with a time of its own. -/
  | executed {answer : ToolAnswer} {adopted? : Option (Fields × String)} {first : World}
      {new : Invocation} {entry : ReplayEntry}
      (answered : r.session.receive w.events recorded.tool recorded.arguments = .answered answer)
      (repairs : r.Repairs s recorded previous? answer.flagged first w' adopted?)
      (met : first.events =
        r.session.historyAfterOne w.events recorded.tool recorded.arguments)
      (unasked : Same World.asked w first)
      (time : new.timestamp = s.timeAt w.timesTaken) (fresh : w'.timesTaken = w.timesTaken + 1)
      (kept : Kept recorded answer adopted? new entry) :
      Reconciled r s recorded previous? w w' new entry

/-! ## Frames of entries -/

section Frames

variable {r : Replayer} {s : Surroundings} {recorded new : Invocation}
  {previous? : Option Invocation} {entry : ReplayEntry} {v w w' : World}

theorem Replayer.Repairs.same_right {flagged : Bool} {adopted? : Option (Fields × String)}
    (repairs : r.Repairs s recorded previous? flagged w w' adopted?)
    (asked : Same World.asked w' v) (events : v.events = w'.events) :
    r.Repairs s recorded previous? flagged w v adopted? := by
  cases repairs with
  | spared reason before same =>
      exact .spared reason (Frame.trans before asked) (events.trans same)
  | asked error predecessor present earlier ask later tried =>
      exact .asked error predecessor present earlier ask (Frame.trans later asked)
        (events.trans tried)

/-- A quiet act before an entry. -/
theorem Reconciled.same_left (same : Same World.substance v w)
    (reconciled : Reconciled r s recorded previous? w w' new entry) :
    Reconciled r s recorded previous? v w' new entry := by
  have events : w.events = v.events := same.map World.events
  have times : w.timesTaken = v.timesTaken := same.map World.timesTaken
  have asked : Same World.asked v w := same.map World.asked
  cases reconciled with
  | failed raised status error later met =>
      rw [events] at raised met
      exact .failed raised status error (Frame.trans asked later) met
  | executed answered repairs met later time fresh kept =>
      rw [events] at answered met
      rw [times] at time fresh
      exact .executed answered repairs met (Frame.trans asked later) time fresh kept

/-- A quiet act after an entry. -/
theorem Reconciled.same_right (reconciled : Reconciled r s recorded previous? w w' new entry)
    (same : Same World.substance w' v) : Reconciled r s recorded previous? w v new entry := by
  have events : v.events = w'.events := same.map World.events
  have times : v.timesTaken = w'.timesTaken := same.map World.timesTaken
  have asked : Same World.asked w' v := same.map World.asked
  cases reconciled with
  | failed raised status error before met =>
      exact .failed raised status error (Frame.trans before asked) (events.trans met)
  | executed answered repairs met before time fresh kept =>
      exact .executed answered (repairs.same_right asked events) met before time
        (times.trans fresh) kept

end Frames

/-! ## The acts -/

namespace Replayer

variable {r : Replayer} {s : Surroundings} {w w' : World} {recorded : Invocation}

/-- A suggestion is what an answer suggests, or a failure. -/
theorem suggest_apply (service : RepairService) (recorded previous : Invocation) (s : Surroundings)
    (w : World) :
    ∃ outcome : Except Failure Fields,
      service.suggest ⟨recorded.tool, recorded.arguments, previous.result, recorded.result⟩ s w =
        (outcome, (service.model.ask (question recorded previous service) s w).2) ∧
      outcome.toOption =
        suggested? (service.model.ask (question recorded previous service) s w).1 := by
  unfold RepairService.suggest question
  rw [Act.bind_apply]
  rcases service.model.ask _ s w with ⟨_ | reply, after⟩
  · exact ⟨_, rfl, rfl⟩
  · cases read : readArguments reply.content with
    | ok fields =>
        refine ⟨.ok fields, by simp only [read, Act.done], ?_⟩
        simp only [suggested?, read]
        rfl
    | error fault =>
        refine ⟨.error fault.failure, by simp only [read, Act.fail], ?_⟩
        simp only [suggested?, read]
        rfl

/-- A repair that comes to its end has asked once and tried the suggestion once. -/
theorem repair_spec {service : RepairService} {previous : Invocation} {after : World}
    {answer : Except Failure Reply} {result : Option (Fields × Execution)}
    (present : r.repairs = some service)
    (ask : service.model.ask (question recorded previous service) s w = (answer, after))
    (run : r.repair recorded previous s w = (.ok result, w')) :
    result.map (fun p => (p.1, p.2.text)) = r.adopted? w.events recorded.tool answer ∧
      Same World.asked after w' ∧
      w'.events = r.historyAfterRetry w.events recorded.tool answer ∧
      w'.timesTaken = w.timesTaken ∧ Same World.beside w w' := by
  obtain ⟨outcome, suggests, suggestion⟩ := suggest_apply service recorded previous s w
  rw [ask] at suggests suggestion
  have unasked : Same World.unasked w after := (service.model.ask_unasked _).run ask
  have events : after.events = w.events := unasked.map World.events
  have times : after.timesTaken = w.timesTaken := unasked.map World.timesTaken
  unfold repair at run
  simp only [present, Act.bind_apply, Act.attempt_apply, suggests] at run
  cases outcome with
  | error failure =>
      have none : suggested? answer = none := suggestion.symm
      by_cases forgiven : (failure.isModelService || failure.isBadValue) = true
      · simp only [forgiven, if_true] at run
        cases run
        refine ⟨?_, rfl, ?_, times, unasked.beside_of_unasked⟩
        · simp [adopted?, none]
        · simp [historyAfterRetry, none, events]
      · simp only [forgiven] at run
        cases run
  | ok arguments =>
      have some : suggested? answer = some arguments := suggestion.symm
      simp only [Act.bind_apply, Act.attempt_apply, Act.print_apply, Session.execute_unrecorded,
        World.events_showing, events] at run
      have history : r.historyAfterRetry w.events recorded.tool answer =
          r.session.historyAfterOne w.events recorded.tool arguments := by
        simp only [historyAfterRetry, some]
      rw [history]
      cases reception : r.session.receive w.events recorded.tool arguments with
      | unknown | raised _ =>
          simp only [reception, Reception.outcome, Failure.isExecution] at run
          cases run
          refine ⟨?_, rfl, rfl, times, unasked.beside_of_unasked⟩
          simp [adopted?, some, reception, Reception.success?]
      | answered retried =>
          simp only [reception, Reception.outcome] at run
          cases run
          refine ⟨?_, rfl, rfl, times, unasked.beside_of_unasked⟩
          cases flag : retried.flagged <;>
            simp [adopted?, some, reception, Reception.success?, flag]

/-- What is adopted after a first execution is that one, or a repair of it. -/
theorem adopt_spec {previous? : Option Invocation} {first : Execution} {adopted : Adopted}
    (run : r.adopt recorded previous? first s w = (.ok adopted, w')) :
    ∃ adopted?, r.Repairs s recorded previous? first.flagged w w' adopted? ∧
      adopted.arguments = (adopted?.map Prod.fst).getD recorded.arguments ∧
      adopted.text = (adopted?.map Prod.snd).getD first.text ∧
      adopted.repaired = adopted?.isSome ∧
      adopted.error = (if first.flagged && adopted?.isNone then some first.text else none) ∧
      w'.timesTaken = w.timesTaken ∧ Same World.beside w w' := by
  unfold adopt at run
  cases flag : first.flagged with
  | false =>
      simp only [flag] at run
      cases run
      exact ⟨none, .spared (.inl rfl) rfl rfl, rfl, rfl, rfl, rfl, rfl, rfl⟩
  | true =>
      simp only [flag] at run
      cases previous? with
      | none =>
          cases run
          exact ⟨none, .spared (.inr (.inl rfl)) rfl rfl, rfl, rfl, rfl, rfl, rfl, rfl⟩
      | some previous =>
          obtain ⟨result, middle, repairing, rest⟩ := Act.bind_ok run
          cases present : r.repairs with
          | none =>
              simp only [repair, present] at repairing
              cases repairing
              cases rest
              exact ⟨none, .spared (.inr (.inr present)) rfl rfl, rfl, rfl, rfl, rfl, rfl, rfl⟩
          | some service =>
              rcases ask : service.model.ask (question recorded previous service) s w with
                ⟨answer, after⟩
              obtain ⟨adopts, asked, events, times, beside⟩ := repair_spec present ask repairing
              have repairs {w' : World} (same : w' = middle) :
                  r.Repairs s recorded (some previous) true w w'
                    (r.adopted? w.events recorded.tool answer) :=
                same ▸ .asked rfl rfl present rfl ask asked events
              cases result with
              | none =>
                  cases rest
                  rw [Option.map_none] at adopts
                  rw [← adopts] at repairs
                  exact ⟨none, repairs rfl, rfl, rfl, rfl, rfl, times, beside⟩
              | some pair =>
                  cases rest
                  rw [Option.map_some] at adopts
                  rw [← adopts] at repairs
                  exact ⟨some (pair.1, pair.2.text), repairs rfl, rfl, rfl, rfl, rfl, times, beside⟩

/-- **One entry.**  An entry that comes to its end is reconciled, and nothing beside changes. -/
theorem replayOne_spec {index : Nat} {previous? : Option Invocation} {new : Invocation}
    {entry : ReplayEntry}
    (run : r.replayOne index recorded previous? s w = (.ok (new, entry), w')) :
    Reconciled r s recorded previous? w w' new entry ∧ entry.index = index ∧
      entry.tool = recorded.tool ∧ Same World.beside w w' := by
  simp only [replayOne, Act.bind_apply, Act.attempt_apply, Session.execute_unrecorded] at run
  cases reception : r.session.receive w.events recorded.tool recorded.arguments with
  | unknown | raised _ =>
      simp only [reception, Reception.outcome, Failure.isExecution] at run
      cases run
      refine ⟨.failed ?_ rfl rfl rfl rfl, rfl, rfl, rfl⟩
      rw [reception]
      rfl
  | answered answer =>
      simp only [reception, Reception.outcome] at run
      obtain ⟨adopted, middle, adopting, rest⟩ := Act.bind_ok run
      obtain ⟨adopted?, repairs, arguments, text, repaired, error, times, beside⟩ :=
        adopt_spec adopting
      cases rest
      have text : adopted.text = finalText answer adopted? := text
      have repairs := repairs.same_right (v := { middle with timesTaken := middle.timesTaken + 1 })
        rfl rfl
      refine ⟨.executed reception repairs rfl rfl ?_ ?_ ?_, rfl, rfl, ?_⟩
      · exact congrArg s.timeAt times
      · exact congrArg (· + 1) times
      · refine .ofFields rfl arguments ?_ ?_ error
        · rw [text]
        · rw [text, repaired]
      · exact beside

/-! ## Runs -/

/-- Entries `index`, `index + 1`, … are reconciled one after the other, each with the last call that
the new ledger holds by then. -/
theorem replayFrom_spec {total index : Nat} {built all : List Invocation}
    {commands : List Invocation} {entries : List ReplayEntry}
    (run : r.replayFrom total index built commands s w = (.ok (all, entries), w')) :
    ∃ news, all = built ++ news ∧ news.length = commands.length ∧
      entries.length = commands.length ∧ Same World.beside w w' ∧
      ∃ worlds : Nat → World, worlds 0 = w ∧ worlds commands.length = w' ∧
        ∀ i recorded new entry, commands[i]? = some recorded → news[i]? = some new →
          entries[i]? = some entry →
          entry.index = index + i ∧ entry.tool = recorded.tool ∧
            Reconciled r s recorded (built ++ news.take i).getLast? (worlds i) (worlds (i + 1))
              new entry := by
  induction commands generalizing index built entries w with
  | nil =>
      cases run
      exact ⟨[], by simp, rfl, rfl, rfl, fun _ => w', rfl, rfl, by simp⟩
  | cons first rest ih =>
      obtain ⟨_, waited, waiting, run⟩ := Act.bind_ok run
      have pause : Same World.substance w waited :=
        (Act.Keeps.when_ (Act.sleepFor_quiet r.delay)).run waiting
      have pause (shown : String) : Same World.substance w (waited.showing shown) := pause
      simp only [Act.print_bind] at run
      obtain ⟨⟨new, entry⟩, settled, replaying, run⟩ := Act.bind_ok run
      obtain ⟨reconciled, position, tool, beside⟩ := replayOne_spec replaying
      simp only [Act.print_bind] at run
      obtain ⟨⟨all', entries'⟩, last, more, run⟩ := Act.bind_ok run
      cases run
      obtain ⟨news, rfl, length, length', beside', worlds, start, finish, each⟩ := ih more
      refine ⟨new :: news, by simp, by simp [length], by simp [length'], ?_,
        World.before w worlds, rfl, finish, ?_⟩
      · have quiet (shown : String) : Same World.beside w (waited.showing shown) :=
          (pause shown).map World.beside
        exact Frame.trans (quiet _) (Frame.trans beside beside')
      · intro i recorded new' entry' at_ at_new at_entry
        -- The first entry is the one just replayed; the others are those of the rest, one later.
        cases i with
        | zero =>
            cases at_
            cases at_new
            cases at_entry
            refine ⟨position, tool, ?_⟩
            have same : Same World.substance settled (worlds 0) := start ▸ rfl
            simpa [World.before] using (reconciled.same_left (pause _)).same_right same
        | succ i =>
            obtain ⟨position, tool, reconciled⟩ := each i recorded new' entry' at_ at_new at_entry
            refine ⟨by omega, tool, ?_⟩
            simpa [World.before] using reconciled

/-- **Every entry of a replay that returns is reconciled.**  The new ledger and the report have one
entry for each recorded call, in order, and between the world in which the ledger file was read and
the world at the end lie the worlds between the entries. -/
theorem replay_reconciles {path : String} {commands : List Invocation} {loaded : World}
    {result : ReplayResult} (load : Act.loadLedger path s w = (.ok (some ⟨commands⟩), loaded))
    (recorded : commands ≠ []) (run : r.replay path s w = (.ok result, w')) :
    result.didReplay = true ∧ result.entries.length = commands.length ∧
      result.ledger.invocations.length = commands.length ∧
      ∃ worlds : Nat → World, Same World.substance loaded (worlds 0) ∧
        Same World.asked (worlds commands.length) w' ∧
        ∀ i recorded new entry, commands[i]? = some recorded →
          result.ledger.invocations[i]? = some new → result.entries[i]? = some entry →
          entry.index = i ∧ entry.tool = recorded.tool ∧
            Reconciled r s recorded (if 0 < i then result.ledger.invocations[i - 1]? else none)
              (worlds i) (worlds (i + 1)) new entry := by
  obtain ⟨first, rest, rfl⟩ := List.exists_cons_of_ne_nil recorded
  rw [replay, Act.bind_of_ok load] at run
  obtain ⟨_, _, offering, run⟩ := Act.bind_ok run
  obtain ⟨_, shown⟩ := Act.offer_ok offering
  cases shown
  obtain ⟨directory, _, seen, run⟩ := Act.bind_ok run
  cases seen
  obtain ⟨⟨all, entries⟩, middle, replayed, run⟩ := Act.bind_ok run
  obtain ⟨_, rfl, files, _, rfl⟩ := Act.exchangeLedger_ok run
  obtain ⟨news, grown, length, length', _, worlds, start, finish, each⟩ :=
    replayFrom_spec replayed
  obtain rfl : all = news := grown
  refine ⟨rfl, length', length, worlds, ?_, ?_, ?_⟩
  · rw [start]
    rfl
  · rw [finish]
    rfl
  · intro i recorded new entry at_ at_new at_entry
    obtain ⟨position, tool, reconciled⟩ := each i recorded new entry at_ at_new at_entry
    refine ⟨by omega, tool, ?_⟩
    have inside : i ≤ all.length := Nat.le_of_lt (List.getElem?_eq_some_iff.mp at_new).1
    have previous : (all.take i).getLast? = if 0 < i then all[i - 1]? else none := by
      cases i with
      | zero => rfl
      | succ i =>
          obtain ⟨before, known⟩ : ∃ before, all[i]? = some before :=
            ⟨_, List.getElem?_eq_getElem inside⟩
          simp [List.getLast?_take, known]
    rw [← previous]
    exact reconciled

end Replayer

/-! ## A sample -/

namespace Sample

/-- What one can do on a site: look, press something, and drag something. -/
def siteTools : List Tool :=
  [{ name := "look" }, { name := "press" }, { name := "drag" }]

/-- A site on which nothing has a name, and nothing can be dragged. -/
def bareSite : Backend where
  tools := .ok siteTools
  call _ tool arguments :=
    ([.call tool arguments],
      if tool = "look" then .ok (.ofText "done")
      else if tool = "press" then
        .ok (if arguments.isEmpty then .ofText "pressed" else .ofText "no such name" true)
      else .error (.page "cannot be dragged"))

/-- A tour of another site: on this one the second look brings something else, the press comes back
with an error, and the last call fails. -/
def tour : List Invocation :=
  [⟨"look", [], "done", "2020"⟩, ⟨"look", [("far", .bool true)], "mist", "2020"⟩,
    ⟨"press", [("name", .text "a")], "clicked", "2020"⟩, ⟨"drag", [], "dragged", "2020"⟩]

/-- A replayer on the site, with a model that suggests to leave the arguments out. -/
def guide : Replayer where
  session := { backend := bareSite, catalog := .ofTools siteTools }
  repairs := some ⟨.direct fun _ _ => .ok { content := "\x7b\x7d" }, none⟩

/-- A world with the ledger of the tour in a file. -/
def touring : World :=
  { World.fresh with
    files := ⟨[(["tour"], .file (Ledger.fileBytes (Ledger.document ⟨none, tour, 0⟩).toJson))]⟩ }

theorem stored_tour : Ledger.store ⟨none, tour, 0⟩ .empty "tour" = .ok touring.files :=
  rfl

theorem storable_tour : ∀ i ∈ tour, i.Storable := by
  simp only [tour, List.forall_mem_cons]
  refine ⟨⟨rfl, by decide⟩, ⟨rfl, by decide⟩, ⟨rfl, by decide⟩, ⟨rfl, by decide⟩, by simp⟩

/-- The world after the ledger file was read. -/
def loadedTour : World :=
  { touring with timesTaken := touring.timesTaken + 0 }

theorem load_tour :
    Act.loadLedger "tour" surroundings touring = (.ok (some ⟨tour⟩), loadedTour) :=
  Act.loadLedger_stored stored_tour storable_tour surroundings

/-- The reports on the tour. -/
def tourEntries : List ReplayEntry :=
  [⟨0, "look", .confirmed, none⟩, ⟨1, "look", .updated, none⟩, ⟨2, "press", .repaired, none⟩,
    ⟨3, "drag", .failed, some "cannot be dragged"⟩]

/-- The entries of the tour are replayed with these reports, and what is built can be kept. -/
theorem toured : ∃ news v, guide.replayFrom tour.length 0 [] tour surroundings
    (Act.show_ (openingLine tour.length "tour") surroundings loadedTour).2 =
      (.ok (news, tourEntries), v) ∧
    news.all (fun i => i.canWrite && Json.storable 197 (.object i.arguments)) = true := by
  have evaluated : (match (guide.replayFrom tour.length 0 [] tour surroundings
      (Act.show_ (openingLine tour.length "tour") surroundings loadedTour).2).1 with
    | .ok (news, entries) => entries == tourEntries &&
        news.all fun i => i.canWrite && Json.storable 197 (.object i.arguments)
    | .error _ => false) = true := by
    decide +kernel
  rcases run : guide.replayFrom tour.length 0 [] tour surroundings
    (Act.show_ (openingLine tour.length "tour") surroundings loadedTour).2 with ⟨outcome, v⟩
  rw [run] at evaluated
  cases outcome with
  | error failure => cases evaluated
  | ok all =>
      obtain ⟨news, entries⟩ := all
      obtain ⟨reports, kept⟩ := Bool.and_eq_true_iff.mp evaluated
      obtain rfl : entries = tourEntries := eq_of_beq reports
      exact ⟨news, v, rfl, kept⟩

/-- The replay of the tour comes to its end. -/
theorem replays_tour : ∃ result w', guide.replay "tour" surroundings touring = (.ok result, w') ∧
    result.didReplay = true ∧ result.entries = tourEntries ∧
    (∀ i ∈ result.ledger.invocations, Json.storable 197 (.object i.arguments) = true) ∧
    ∀ other, Files.empty.Writable other → w'.files.Writable other := by
  obtain ⟨news, v, run, kept⟩ := toured
  simp only [List.all_eq_true, Bool.and_eq_true] at kept
  obtain ⟨_, rfl, _, _, beside, _⟩ := Replayer.replayFrom_spec run
  have files : v.files = touring.files := beside.map World.files
  have isName : Path.IsName "tour.updated" := ⟨by decide, by decide, by decide, by decide⟩
  have room : Files.empty.Writable (Path.ofText (updatedPath "tour")) := by
    rw [show updatedPath "tour" = "tour.updated" from Path.tidy_name isName]
    exact writable isName (by decide) (by decide)
  let built : Ledger := { crashDirectory := loadedTour.ledger.crashDirectory, invocations := news }
  obtain ⟨files', stored⟩ : ∃ files', built.store v.files (updatedPath "tour") = .ok files' := by
    refine Ledger.store_ok_iff.mpr ⟨List.all_eq_true.mpr fun i member => (kept i member).1, ?_⟩
    rw [files]
    exact Ledger.writable_after_store stored_tour room
  refine ⟨⟨true, built, tourEntries⟩, _, (Replayer.replay_of_entries load_tour
    (List.cons_ne_nil _ _) (takes _) run).trans (Act.exchangeLedger_stored stored (takes _) _),
    rfl, rfl, fun i member => (kept i member).2, fun other open_ => ?_⟩
  refine Ledger.writable_after_store stored ?_
  rw [files]
  exact Ledger.writable_after_store stored_tour open_

end Sample

namespace Replayer

/-- A tour is replayed, and each of its entries is reconciled in its own way. -/
theorem replay_reconciles_tour : ∃ result w',
    Act.loadLedger "tour" Sample.surroundings Sample.touring =
      (.ok (some ⟨Sample.tour⟩), Sample.loadedTour) ∧
    Sample.guide.replay "tour" Sample.surroundings Sample.touring = (.ok result, w') ∧
    result.entries = Sample.tourEntries ∧
    ∃ worlds : Nat → World, ∀ i recorded new entry, Sample.tour[i]? = some recorded →
      result.ledger.invocations[i]? = some new → result.entries[i]? = some entry →
      Reconciled Sample.guide Sample.surroundings recorded
        (if 0 < i then result.ledger.invocations[i - 1]? else none) (worlds i) (worlds (i + 1)) new
        entry := by
  obtain ⟨result, w', run, _, entries, _, _⟩ := Sample.replays_tour
  obtain ⟨_, _, _, worlds, _, _, each⟩ :=
    replay_reconciles Sample.load_tour (List.cons_ne_nil _ _) run
  exact ⟨result, w', Sample.load_tour, run, entries, worlds, fun i recorded new entry at_ at_new
    at_entry => (each i recorded new entry at_ at_new at_entry).2.2⟩

end Replayer

end WebPilot
