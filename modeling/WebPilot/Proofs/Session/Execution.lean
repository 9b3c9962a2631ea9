import WebPilot.Message
import WebPilot.Proofs.Session.Frame
import WebPilot.Session.Execute

/-!
# What executing calls does

Whatever a session does with a call is decided by the history of events at that moment: the catalog
may not know the tool, the backend may raise, or it answers (`Session.receive`).  A list of calls is
executed in order, each under the history that the calls before it left, and so it has one list of
receptions (`Session.executed`) and one history afterwards (`Session.historyAfter`).

`Session.Executes` is the whole effect of executed calls on the ledger and on the history: the
backend has met the calls whose tools the catalog knows, once each and in order, and the ledger has
grown by the calls that came back without the flag of an error, and by nothing else.  Executions
compose (`Executes.append`), and every run of `Session.execute` is one (`Session.execute_spec`),
also one that fails after the call has come back.
-/

namespace WebPilot

set_option autoImplicit false

/-! ## Receptions -/

/-- What becomes of a call. -/
inductive Reception where
  /-- The catalog does not know the tool. -/
  | unknown
  /-- The backend fails. -/
  | raised (message : String)
  /-- The backend answers. -/
  | answered (answer : ToolAnswer)

namespace Reception

/-- The outcome of the execution of a call that is received so. -/
def outcome (tool : String) (arguments : Fields) : Reception → Except Failure Execution
  | unknown => .error (.toolNotFound tool)
  | raised message => .error (.backendExecution tool message)
  | answered answer => .ok ⟨tool, arguments, answer.render, answer.flagged⟩

/-- The text of an answer without the flag of an error. -/
def success? : Reception → Option String
  | answered answer => if answer.flagged then none else some answer.render
  | _ => none

end Reception

/-- A call that was executed, and what became of it. -/
structure Executed where
  call : ToolCall
  reception : Reception

/-- What is kept of a call that succeeded: tool, arguments and result. -/
def Invocation.content (i : Invocation) : String × Fields × String :=
  (i.tool, i.arguments, i.result)

/-- What is kept of an executed call, if it succeeded. -/
def Executed.kept? (e : Executed) : Option (String × Fields × String) :=
  e.reception.success?.map fun text => (e.call.name, e.call.arguments, text)

namespace Session

variable (session : Session)

/-- Whether the catalog knows the tool of a call. -/
def knows (tool : String) : Bool :=
  (session.catalog.get? tool).isSome

/-- What becomes of a call under a history. -/
def receive (history : List Event) (tool : String) (arguments : Fields) : Reception :=
  if session.knows tool then
    match (session.backend.call history tool arguments).2 with
    | .ok answer => .answered answer
    | .error failure => .raised failure.message
  else .unknown

/-- The history after a call. -/
def historyAfterOne (history : List Event) (tool : String) (arguments : Fields) : List Event :=
  if session.knows tool then history ++ (session.backend.call history tool arguments).1
  else history

/-- The history after calls. -/
def historyAfter (history : List Event) : List ToolCall → List Event
  | [] => history
  | call :: rest => historyAfter (session.historyAfterOne history call.name call.arguments) rest

/-- The executed calls of a list, in order. -/
def executed (history : List Event) : List ToolCall → List Executed
  | [] => []
  | call :: rest =>
    ⟨call, session.receive history call.name call.arguments⟩ ::
      executed (session.historyAfterOne history call.name call.arguments) rest

theorem historyAfter_append (history : List Event) (calls more : List ToolCall) :
    session.historyAfter history (calls ++ more) =
      session.historyAfter (session.historyAfter history calls) more := by
  induction calls generalizing history with
  | nil => rfl
  | cons call rest ih => exact ih _

theorem executed_append (history : List Event) (calls more : List ToolCall) :
    session.executed history (calls ++ more) =
      session.executed history calls ++
        session.executed (session.historyAfter history calls) more := by
  induction calls generalizing history with
  | nil => rfl
  | cons call rest ih => exact congrArg (_ :: ·) (ih _)

/-- Every call of the list is executed, in its place. -/
theorem map_call_executed (history : List Event) (calls : List ToolCall) :
    (session.executed history calls).map Executed.call = calls := by
  induction calls generalizing history with
  | nil => rfl
  | cons call rest ih => exact congrArg (call :: ·) (ih _)

/-- What became of an executed call was decided by some history. -/
theorem receive_of_mem_executed {history : List Event} {calls : List ToolCall} {e : Executed}
    (member : e ∈ session.executed history calls) :
    ∃ earlier, e.reception = session.receive earlier e.call.name e.call.arguments := by
  induction calls generalizing history with
  | nil => cases member
  | cons call rest ih =>
      rcases List.mem_cons.mp member with rfl | later
      · exact ⟨history, rfl⟩
      · exact ih later

end Session

/-! ## Logs -/

/-- The calls that a history logs, in order. -/
def Event.logged (history : List Event) : List (String × Fields) :=
  history.filterMap fun
    | .call tool arguments => some (tool, arguments)
    | _ => none

/-- The backend logs each call it meets, once. -/
def Backend.Logs (b : Backend) : Prop :=
  ∀ history tool arguments, Event.logged (b.call history tool arguments).1 = [(tool, arguments)]

/-- A call that the catalog does not know never reaches the backend; every other one does, once and
in its place. -/
theorem Session.logged_historyAfter {session : Session} (logs : session.backend.Logs)
    (history : List Event) (calls : List ToolCall) :
    Event.logged (session.historyAfter history calls) =
      Event.logged history ++
        (calls.filter fun call => session.knows call.name).map
          fun call => (call.name, call.arguments) := by
  induction calls generalizing history with
  | nil => simp [historyAfter]
  | cons call rest ih =>
      rw [historyAfter, ih]
      cases known : session.knows call.name with
      | false => simp [historyAfterOne, known]
      | true =>
          have met := logs history call.name call.arguments
          simp only [Event.logged] at met ⊢
          simp [historyAfterOne, known, met]

namespace Session

variable (session : Session)

/-! ## The effect of executed calls -/

/-- The world afterwards is the world before, with these calls executed. -/
structure Executes (w : World) (calls : List ToolCall) (w' : World) : Prop where
  /-- The backend has met the calls that the catalog knows. -/
  events : w'.events = session.historyAfter w.events calls
  /-- The ledger has grown by the calls that succeeded. -/
  ledger : ∃ recorded, w'.ledger.invocations = w.ledger.invocations ++ recorded ∧
    recorded.map Invocation.content = (session.executed w.events calls).filterMap Executed.kept?

end Session

/-- What executing calls changes. -/
def World.worked (w : World) : List Invocation × List Event :=
  (w.ledger.invocations, w.events)

namespace Session.Executes

variable {session : Session} {w w' w'' : World} {calls more : List ToolCall}

/-- Where ledger and history stay the same no call is executed. -/
theorem of_same (same : Same World.worked w w') : session.Executes w [] w' := by
  obtain ⟨ledger, events⟩ := Prod.mk.inj same
  exact ⟨events, [], by simpa using ledger, rfl⟩

/-- **Executions compose.** -/
theorem append (before : session.Executes w calls w') (after : session.Executes w' more w'') :
    session.Executes w (calls ++ more) w'' := by
  obtain ⟨recorded, grown, kept⟩ := before.ledger
  obtain ⟨recorded', grown', kept'⟩ := after.ledger
  refine ⟨?_, recorded ++ recorded', ?_, ?_⟩
  · rw [after.events, before.events, session.historyAfter_append]
  · rw [grown', grown, List.append_assoc]
  · rw [session.executed_append, List.filterMap_append, List.map_append, kept, kept',
      before.events]

theorem same_right (before : session.Executes w calls w') (same : Same World.worked w' w'') :
    session.Executes w calls w'' := by
  simpa using before.append (of_same same)

theorem same_left (same : Same World.worked w w') (after : session.Executes w' calls w'') :
    session.Executes w calls w'' :=
  (of_same same).append after

/-- One call, from what it adds to the history and to the ledger. -/
theorem one {call : ToolCall} {recorded : List Invocation}
    (events : w'.events = session.historyAfterOne w.events call.name call.arguments)
    (grown : w'.ledger.invocations = w.ledger.invocations ++ recorded)
    (kept : recorded.map Invocation.content =
      (Executed.kept? ⟨call, session.receive w.events call.name call.arguments⟩).toList) :
    session.Executes w [call] w' := by
  refine ⟨events, recorded, grown, ?_⟩
  rw [kept, executed, executed, List.filterMap_cons]
  cases Executed.kept? ⟨call, session.receive w.events call.name call.arguments⟩ <;> rfl

end Session.Executes

/-! ## Single executions -/

/-- A recorded call is in the ledger, whether or not its file could be written; where it could not,
the failure is none of execution. -/
theorem Ledger.record_spec (ledger : Ledger) (reading : Int) (files : Files) (i : Invocation) :
    (ledger.record reading files i).ledger.invocations = ledger.invocations ++ [i] ∧
      ∀ failure, (ledger.record reading files i).failure = some failure →
        failure.isExecution = false := by
  unfold Ledger.record Ledger.append
  cases ledger.crashDirectory with
  | none => simp
  | some directory =>
      simp only [Ledger.writeCall]
      by_cases fits : i.canWrite = true
      · cases files.write
            (directory.child (Ledger.fileName (Ledger.nextNumber _ reading) i.tool))
            (Ledger.fileBytes i.toJson) with
        | ok _ => simp [fits]
        | error fault => cases system : fault.isSystem <;> simp [fits, system, Failure.isExecution]
      · simp [fits, Failure.isExecution]

theorem Act.record_spec {i : Invocation} {s : Surroundings} {w w' : World}
    {outcome : Except Failure Unit} (run : Act.record i s w = (outcome, w')) :
    w'.ledger.invocations = w.ledger.invocations ++ [i] ∧ w'.events = w.events ∧
      (outcome = .ok () ∨ ∃ failure, outcome = .error failure ∧ failure.isExecution = false) := by
  obtain ⟨grown, other⟩ := w.ledger.record_spec (s.readingAt w.readingsTaken) w.files i
  simp only [Act.record] at run
  cases failed : (w.ledger.record (s.readingAt w.readingsTaken) w.files i).failure with
  | none =>
      rw [failed] at run
      cases run
      exact ⟨grown, rfl, .inl rfl⟩
  | some failure =>
      rw [failed] at run
      cases run
      exact ⟨grown, rfl, .inr ⟨failure, rfl, other failure failed⟩⟩

namespace Session

variable {session : Session} {tool : String} {arguments : Fields} {s : Surroundings}
  {w w' : World}

/-- Recording what an answer says, if that is wanted and the answer has no flag. -/
def keep (tool : String) (arguments : Fields) (answer : ToolAnswer) (recorded : Bool) :
    Act Execution := do
  Act.when_ (!answer.flagged && recorded) (do
    let time ← Act.now
    Act.record ⟨tool, arguments, answer.render, time⟩)
  .done ⟨tool, arguments, answer.render, answer.flagged⟩

/-- Executing a call is meeting the backend, and keeping what it answers. -/
theorem execute_eq (session : Session) (tool : String) (arguments : Fields) (recorded : Bool)
    (s : Surroundings) (w : World) :
    session.execute tool arguments recorded s w =
      match session.receive w.events tool arguments with
      | .answered answer =>
        keep tool arguments answer recorded s
          { w with events := session.historyAfterOne w.events tool arguments }
      | reception =>
        (reception.outcome tool arguments,
          { w with events := session.historyAfterOne w.events tool arguments }) := by
  unfold execute receive historyAfterOne knows
  cases session.catalog.get? tool with
  | none => rfl
  | some _ =>
      show (session.call tool arguments >>= _) s w = _
      rw [Act.bind_apply, call]
      cases (session.backend.call w.events tool arguments).2 <;> rfl

/-- Without recording, executing a call is meeting the backend. -/
theorem execute_unrecorded (session : Session) (tool : String) (arguments : Fields)
    (s : Surroundings) (w : World) :
    session.execute tool arguments false s w =
      ((session.receive w.events tool arguments).outcome tool arguments,
        { w with events := session.historyAfterOne w.events tool arguments }) := by
  rw [execute_eq]
  cases session.receive w.events tool arguments with
  | unknown => rfl
  | raised message => rfl
  | answered answer => simp [keep, Act.bind_apply, Act.when_, Act.done, Reception.outcome]

/-- With recording, executing a call is meeting the backend, and recording a success. -/
theorem execute_recorded (session : Session) (tool : String) (arguments : Fields)
    (s : Surroundings) (w : World) :
    (session.execute tool arguments true s w).2 =
      match (session.receive w.events tool arguments).success? with
      | some text =>
        (Act.record ⟨tool, arguments, text, s.timeAt w.timesTaken⟩ s
          { w with
            events := session.historyAfterOne w.events tool arguments
            timesTaken := w.timesTaken + 1 }).2
      | none => { w with events := session.historyAfterOne w.events tool arguments } := by
  rw [execute_eq]
  cases session.receive w.events tool arguments with
  | unknown | raised _ => rfl
  | answered answer =>
      cases flag : answer.flagged with
      | true => simp [keep, flag, Reception.success?, Act.bind_apply, Act.when_, Act.done]
      | false =>
          simp only [keep, flag, Reception.success?, Act.bind_apply, Act.when_, Act.done, Act.now,
            Bool.not_false, Bool.and_self, Bool.false_eq_true, if_true, if_false]
          split <;> simp_all

/-- **Executing a call.**  The call is executed, whatever the outcome; and the outcome is what
became of the call, unless its file could not be written. -/
theorem execute_spec {outcome : Except Failure Execution} {call : ToolCall}
    (run : session.execute call.name call.arguments true s w = (outcome, w')) :
    session.Executes w [call] w' ∧
      (outcome =
          (session.receive w.events call.name call.arguments).outcome call.name call.arguments ∨
        ∃ failure, outcome = .error failure ∧ failure.isExecution = false) := by
  rw [execute_eq] at run
  cases reception : session.receive w.events call.name call.arguments with
  | unknown | raised _ =>
      rw [reception] at run
      cases run
      refine ⟨.one rfl (List.append_nil _).symm ?_, .inl rfl⟩
      rw [reception]
      rfl
  | answered answer =>
      simp only [reception, keep] at run
      cases flag : answer.flagged with
      | true =>
          simp only [flag, Act.when_, Bool.not_true, Bool.false_and] at run
          cases run
          refine ⟨.one rfl (List.append_nil _).symm ?_, .inl ?_⟩
          · simp [reception, Executed.kept?, Reception.success?, flag]
          · simp [Reception.outcome, flag]
      | false =>
          simp only [flag, Act.when_, Bool.not_false, Bool.true_and, if_true] at run
          have kept : Executed.kept? ⟨call, session.receive w.events call.name call.arguments⟩ =
              some (call.name, call.arguments, answer.render) := by
            simp [reception, Executed.kept?, Reception.success?, flag]
          rcases Act.bind_cases run with ⟨_, middle, recorded, last⟩ | ⟨failure, recorded, failed⟩
          · obtain ⟨grown, events, _⟩ := Act.record_spec recorded
            cases last
            exact ⟨.one events grown (by rw [kept]; rfl), .inl (by simp [Reception.outcome, flag])⟩
          · obtain ⟨grown, events, ended⟩ := Act.record_spec recorded
            rcases ended with impossible | ⟨_, same, other⟩
            · cases impossible
            · cases same
              exact ⟨.one events grown (by rw [kept]; rfl), .inr ⟨failure, failed, other⟩⟩

end Session

end WebPilot
