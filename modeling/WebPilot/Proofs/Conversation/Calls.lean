import WebPilot.Conversation.Node
import WebPilot.Proofs.Session.Asking

/-!
# What the steps of a conversation do

The tools' step executes the calls that wait, in order.  **If it succeeds it has executed all of
them and answers each by what became of it; if it fails it has executed some first of them**
(`runCalls_cases`).  In neither case does it ask the model anything.

The agent's step waits, asks the model about the history as it stands, perhaps several times, and is
still otherwise (`AgentRun`).  It executes nothing (`agentStep_asksOnly`, `agentStep_unasked`), and
its update is that of the reply it got (`agentStep_ok`).
-/

namespace WebPilot

set_option autoImplicit false

/-! ## Answers -/

/-- What the model is told of a call that is received so. -/
def Reception.told (tool : String) : Reception → CallOutcome
  | unknown => ⟨s!"Error executing {tool}: {(Failure.toolNotFound tool).message}", true⟩
  | raised message => ⟨s!"Error executing {tool}: {message}", true⟩
  | answered answer => ⟨answer.render, answer.flagged⟩

/-- A call succeeds if the model is told of no failure, and then with the text that it is told. -/
theorem Reception.success?_eq (tool : String) (reception : Reception) :
    reception.success? =
      if (reception.told tool).failed then none else some (reception.told tool).content := by
  cases reception <;> rfl

/-- The message that answers an executed call. -/
def Executed.message (e : Executed) : Message where
  role := .tool
  content := some (e.reception.told e.call.name).content
  toolCallId := some e.call.id
  isError := (e.reception.told e.call.name).failed

/-- The arguments of the call can be shown, where there is room for so many containers in each
other. -/
def ToolCall.Shown (room : Nat) (call : ToolCall) : Prop :=
  ∃ text, call.argumentText room = .ok text

/-- The calls were executed, and answered by these messages. -/
structure Session.Serves (session : Session) (w : World) (calls : List ToolCall)
    (answers : List Message) (w' : World) : Prop where
  executes : session.Executes w calls w'
  shown : ∀ call ∈ calls, call.Shown (session.room .line)
  answers : answers = (session.executed w.events calls).map Executed.message

/-! ## The tools -/

section Tools

variable {session : Session} {rt : Runtime} {s : Surroundings} {w w' : World}

/-- A call whose execution fails for its own reasons is answered all the same. -/
theorem executeCall_spec {call : ToolCall} {outcome : Except Failure CallOutcome}
    (run : executeCall session call s w = (outcome, w')) :
    session.Executes w [call] w' ∧
      (outcome = .ok ((session.receive w.events call.name call.arguments).told call.name) ∨
        ∃ failure, outcome = .error failure) := by
  rcases first : session.execute call.name call.arguments true s w with ⟨executed, middle⟩
  obtain ⟨executes, result⟩ := Session.execute_spec first
  rw [executeCall, Act.bind_apply, Act.attempt_apply, first] at run
  rcases result with same | ⟨failure, same, other⟩
  · subst same
    cases reception : session.receive w.events call.name call.arguments <;>
      (rw [reception] at run; cases run; exact ⟨executes, .inl rfl⟩)
  · subst same
    simp only [other, Bool.false_eq_true, if_false] at run
    cases run
    exact ⟨executes, .inr ⟨failure, rfl⟩⟩

theorem Message.answer_ok {id content : String} {isError : Bool} {m : Message}
    (valid : Message.answer id content isError = .ok m) :
    m = { role := .tool, content := some content, toolCallId := some id, isError } := by
  unfold Message.answer lawful at valid
  split at valid
  · cases valid
    rfl
  · cases valid

theorem Hosted.orInvalid_ok {α : Type} {checked : Except Invalid α} {a : α}
    (valid : Hosted.orInvalid checked = .ok a) : checked = .ok a := by
  cases checked with
  | ok b =>
      cases valid
      rfl
  | error invalid => cases valid

theorem Runtime.pauseOnArrival_still (rt : Runtime) (settled : Bool) (call : ToolCall) :
    (rt.pauseOnArrival settled call).Still := by
  have pause : rt.pause.Still := by
    unfold Runtime.pause
    split
    · exact .done ()
    · exact Act.prompt_still _
  exact .bind (.lift _) fun _ => .bind (.when_ pause) fun _ => .done _

theorem Session.Serves.append {calls more : List ToolCall} {answers answers' : List Message}
    {middle : World} (before : session.Serves w calls answers middle)
    (after : session.Serves middle more answers' w') :
    session.Serves w (calls ++ more) (answers ++ answers') w' where
  executes := before.executes.append after.executes
  shown call member := (List.mem_append.mp member).elim (before.shown call) (after.shown call)
  answers := by
    rw [session.executed_append, List.map_append, before.answers, after.answers,
      before.executes.events]

/-- Calls are answered by tool messages. -/
theorem Session.Serves.role {calls : List ToolCall} {answers : List Message} {m : Message}
    (serves : session.Serves w calls answers w') (member : m ∈ answers) : m.role = .tool := by
  rw [serves.answers] at member
  obtain ⟨e, -, rfl⟩ := List.mem_map.mp member
  rfl

/-- Calls of which some first ones were executed before the run failed. -/
def Session.Breaks (session : Session) (w : World) (calls : List ToolCall) (w' : World) : Prop :=
  ∃ done rest, calls = done ++ rest ∧ session.Executes w done w' ∧
    ∀ call ∈ done, call.Shown (session.room .line)

/-- What the end of a run tells of the calls that were to be executed. -/
def Session.Treats (session : Session) (w : World) (calls : List ToolCall) (w' : World) :
    Except Failure CallsResult → Prop
  | .ok result => session.Serves w calls result.answers w'
  | .error _ => session.Breaks w calls w'

/-- One call.  Where the run fails after the execution, the call stays executed. -/
theorem runCall_treats {call : ToolCall} {number : Nat} {paused : Bool}
    {outcome : Except Failure CallsResult}
    (run : runCall rt number paused call s w = (outcome, w')) :
    rt.session.Treats w [call] w' outcome := by
  rw [runCall] at run
  rcases Act.bind_cases run with ⟨text, _, lifted, run⟩ | ⟨failure, lifted, rfl⟩
  case inr =>
    obtain ⟨_, rfl⟩ := Act.lift_cases lifted
    exact ⟨[], [call], rfl, .of_same rfl, by simp⟩
  obtain ⟨shown, rfl⟩ := Act.lift_cases lifted
  have shown : ∀ c ∈ [call], c.Shown (rt.session.room .line) := by simpa using ⟨text, shown⟩
  have printed (a b : String) : Same World.worked w ((w.showing a).showing b) := rfl
  rw [Act.print_bind, Act.print_bind] at run
  rcases Act.bind_cases run with ⟨told, after, executed, run⟩ | ⟨failure, executed, rfl⟩
  case inr =>
    exact ⟨[call], [], rfl, (executeCall_spec executed).1.same_left (printed _ _), shown⟩
  obtain ⟨executes, same | ⟨_, impossible⟩⟩ := executeCall_spec executed
  case inr => cases impossible
  cases same
  have executes : rt.session.Executes w [call] after := executes.same_left (printed _ _)
  -- From here on the call stays executed: what follows does no work.
  have executes (a : String) : rt.session.Executes w [call] (after.showing a) :=
    executes.same_right rfl
  simp only [Act.print_bind] at run
  rcases Act.bind_cases run with ⟨answer, _, lifted, run⟩ | ⟨failure, lifted, rfl⟩
  case inr =>
    obtain ⟨_, rfl⟩ := Act.lift_cases lifted
    exact ⟨[call], [], rfl, executes _, shown⟩
  obtain ⟨answered, rfl⟩ := Act.lift_cases lifted
  have answered := Message.answer_ok (Hosted.orInvalid_ok answered)
  have pauses (settled : Bool) := (rt.pauseOnArrival_still settled call).quiet.worked
  rcases Act.bind_cases run with ⟨arrives, _, pausing, run⟩ | ⟨failure, pausing, rfl⟩
  · cases run
    exact ⟨(executes _).same_right ((pauses _).run pausing), shown, by rw [answered]; rfl⟩
  · exact ⟨[call], [], rfl, (executes _).same_right ((pauses _).run pausing), shown⟩

/-- **Running calls.**  Calls that are run are executed and answered, all of them or, where the run
fails, some first of them. -/
theorem runCalls_treats {calls : List ToolCall} {number : Nat} {paused : Bool}
    {outcome : Except Failure CallsResult}
    (run : runCalls rt number paused calls s w = (outcome, w')) :
    rt.session.Treats w calls w' outcome := by
  induction calls generalizing number paused outcome w with
  | nil =>
      cases run
      exact ⟨.of_same rfl, by simp, rfl⟩
  | cons call rest ih =>
      rw [runCalls] at run
      rcases Act.bind_cases run with ⟨one, middle, first, run⟩ | ⟨failure, first, rfl⟩
      · have served : rt.session.Serves w [call] one.answers middle := runCall_treats first
        rcases Act.bind_cases run with ⟨more, last, running, run⟩ | ⟨failure, running, rfl⟩
        · cases run
          exact served.append (ih running)
        · obtain ⟨done, later, split, executed, shown⟩ := ih running
          refine ⟨call :: done, later, ?_, served.executes.append executed, ?_⟩
          · rw [split, List.cons_append]
          · exact List.forall_mem_cons.mpr ⟨served.shown call (by simp), shown⟩
      · obtain ⟨done, later, split, executed, shown⟩ := runCall_treats first
        refine ⟨done, later ++ rest, ?_, executed, shown⟩
        rw [← List.append_assoc, ← split, List.singleton_append]

/-- The tools' step, from what became of the calls that waited. -/
theorem toolsStep_cases {state : State} {outcome : Except Failure Update}
    (run : toolsStep rt state s w = (outcome, w')) :
    (∃ result : CallsResult, outcome = .ok result.toUpdate ∧
        rt.session.Serves w state.pending result.answers w') ∨
      ∃ failure, outcome = .error failure ∧ rt.session.Breaks w state.pending w' := by
  rcases Act.bind_cases run with ⟨result, _, running, run⟩ | ⟨failure, running, rfl⟩
  · cases run
    exact .inl ⟨result, rfl, runCalls_treats running⟩
  · exact .inr ⟨failure, rfl, runCalls_treats running⟩

/-! What holds of executing and of showing holds of a series of calls. -/

section Frames

variable {relation : World → World → Prop} [Frame relation]
  (executes : ∀ call : ToolCall, (rt.session.execute call.name call.arguments).Keeps relation)
  (shows : ∀ {α : Type} {act : Act α}, act.Still → act.Keeps relation)

include executes

theorem executeCall_keeps (call : ToolCall) : (executeCall rt.session call).Keeps relation := by
  refine .bind (.attempt (executes call)) fun outcome => ?_
  cases outcome with
  | ok execution => exact .done _
  | error failure =>
      cases isExecution : failure.isExecution with
      | true => simpa only [isExecution, if_true] using .done _
      | false => simpa only [isExecution, Bool.false_eq_true, if_false] using .fail _

include shows

theorem runCall_keeps (number : Nat) (paused : Bool) (call : ToolCall) :
    (runCall rt number paused call).Keeps relation :=
  .bind (.lift _) fun _ => .bind (shows (Act.print_still _)) fun _ =>
    .bind (shows (Act.print_still _)) fun _ => .bind (executeCall_keeps executes _) fun _ =>
    .bind (shows (Act.print_still _)) fun _ => .bind (.lift _) fun _ =>
    .bind (shows (rt.pauseOnArrival_still _ _)) fun _ => .done _

theorem runCalls_keeps (number : Nat) (paused : Bool) (calls : List ToolCall) :
    (runCalls rt number paused calls).Keeps relation := by
  induction calls generalizing number paused with
  | nil => exact .done _
  | cons call rest ih =>
      exact .bind (runCall_keeps executes shows number paused call) fun _ =>
        .bind (ih _ _) fun _ => .done _

theorem toolsStep_keeps (state : State) : (toolsStep rt state).Keeps relation :=
  .bind (runCalls_keeps executes shows _ _ _) fun _ => .done _

end Frames

/-- A call takes no sleep and asks the model nothing. -/
theorem executeCall_timed (rt : Runtime) (call : ToolCall) :
    (executeCall rt.session call).Keeps (Same World.timed) :=
  executeCall_keeps (fun _ => rt.session.execute_timed _ _ _) call

theorem runCall_timed (rt : Runtime) (number : Nat) (paused : Bool) (call : ToolCall) :
    (runCall rt number paused call).Keeps (Same World.timed) :=
  runCall_keeps (fun _ => rt.session.execute_timed _ _ _) (fun still => still.timed) _ _ _

/-- The tools' step takes no sleep and asks the model nothing. -/
theorem toolsStep_timed (rt : Runtime) (state : State) :
    (toolsStep rt state).Keeps (Same World.timed) :=
  toolsStep_keeps (fun _ => rt.session.execute_timed _ _ _) (fun still => still.timed) state

theorem toolsStep_asked (rt : Runtime) (state : State) :
    (toolsStep rt state).Keeps (Same World.asked) :=
  (toolsStep_timed rt state).mono fun _ _ same => same.map Prod.snd

end Tools

/-! ## The agent -/

section Agent

variable {rt : Runtime} {state : State} {s : Surroundings} {w w' : World}

theorem noteIf_still (wanted : Bool) (text : Except Failure String) : (noteIf wanted text).Still :=
  .when_ (.bind (.lift _) fun _ => Act.note_still _)

theorem noteIf_quiet (wanted : Bool) (text : Except Failure String) : (noteIf wanted text).Quiet :=
  (noteIf_still wanted text).quiet

/-- What holds of one attempt and of waiting holds of several attempts. -/
theorem askPatiently_keeps {relation : World → World → Prop} [Frame relation]
    {service : ModelService} {request : Request} (asks : (service.ask request).Keeps relation)
    (waits : ∀ {act : Act Unit}, act.Quiet → act.Keeps relation) (backoff : Number)
    (number more : Nat) : (askPatiently service backoff request number more).Keeps relation := by
  induction more generalizing number with
  | zero => exact asks
  | succ more ih =>
      refine .bind (.attempt asks) fun outcome => ?_
      split
      · exact .done _
      · split
        · exact .fail _
        · exact .bind (waits (Act.print_quiet _)) fun _ =>
            .bind (waits (Act.sleep_quiet _)) fun _ => ih _
      · exact .fail _

theorem agentStep_keeps {relation : World → World → Prop} [Frame relation]
    (asks : (rt.model.ask (rt.request state)).Keeps relation)
    (waits : ∀ {act : Act Unit}, act.Quiet → act.Keeps relation) :
    (agentStep rt state).Keeps relation :=
  .bind (waits (.when_ (Act.sleepFor_quiet _))) fun _ =>
    .bind (waits (noteIf_quiet _ _)) fun _ =>
    .bind (askPatiently_keeps asks waits _ _ _) fun _ =>
    .bind (waits (noteIf_quiet _ _)) fun _ =>
    .bind (waits (.when_ (Act.print_quiet _))) fun _ => .done _

/-- **The agent asks about the history as it stands.** -/
theorem agentStep_asksOnly (rt : Runtime) (state : State) :
    (agentStep rt state).Keeps (World.AsksOnly state.messages) :=
  agentStep_keeps (rt.model.ask_asksOnly (rt.request state)) fun quiet => quiet.asksOnly _

theorem agentStep_unasked (rt : Runtime) (state : State) :
    (agentStep rt state).Keeps (Same World.unasked) :=
  agentStep_keeps (rt.model.ask_unasked _) fun quiet => quiet.unasked

/-- The wait before the agent asks. -/
def Runtime.delay (rt : Runtime) (state : State) : Act Unit :=
  Act.when_ (0 < state.iteration && rt.settings.iterationDelay.isPositive)
    (Act.sleepFor rt.settings.iterationDelay)

/-- The agent's request, made as often as the settings allow. -/
def Runtime.inquire (rt : Runtime) (state : State) : Act Reply :=
  askPatiently rt.model rt.settings.retryBackoff (rt.request state) 1 rt.settings.furtherAttempts

/-- The agent has waited, and its request has come to this. -/
structure Inquired (rt : Runtime) (state : State) (s : Surroundings) (w : World)
    (result : Except Failure Reply) (w' : World) : Prop where
  run : ∃ rested ready, rt.delay state s w = (.ok (), rested) ∧
    Same World.unshown rested ready ∧ rt.inquire state s ready = (result, w')

/-- The runs of the agent's step: one may fail before it has asked, get no reply, fail to note the
reply that it got, or come to the update of the reply. -/
inductive AgentRun (rt : Runtime) (state : State) (s : Surroundings) (w : World) :
    Except Failure Update → World → Prop
  | unasked {failure : Failure} {outcome : Except Failure Unit} {rested w' : World}
      (waiting : rt.delay state s w = (outcome, rested)) (still : Same World.unshown rested w') :
      AgentRun rt state s w (.error failure) w'
  | unanswered {failure : Failure} {w' : World}
      (inquired : Inquired rt state s w (.error failure) w') :
      AgentRun rt state s w (.error failure) w'
  | unnoted {failure : Failure} {reply : Reply} {heard w' : World}
      (inquired : Inquired rt state s w (.ok reply) heard)
      (still : Same World.unshown heard w') :
      AgentRun rt state s w (.error failure) w'
  | replied {reply : Reply} {heard w' : World}
      (inquired : Inquired rt state s w (.ok reply) heard)
      (still : Same World.unshown heard w') :
      AgentRun rt state s w (.ok (replyUpdate state reply)) w'

theorem agentStep_run {outcome : Except Failure Update}
    (run : agentStep rt state s w = (outcome, w')) : AgentRun rt state s w outcome w' := by
  rcases Act.bind_cases run with ⟨_, rested, waiting, run⟩ | ⟨failure, waiting, rfl⟩
  case inr => exact .unasked waiting rfl
  rcases Act.bind_cases run with ⟨_, ready, noting, run⟩ | ⟨failure, noting, rfl⟩
  case inr => exact .unasked waiting ((noteIf_still _ _).run noting)
  have ready : Same World.unshown rested ready := (noteIf_still _ _).run noting
  rcases Act.bind_cases run with ⟨reply, heard, asking, run⟩ | ⟨failure, asking, rfl⟩
  case inr => exact .unanswered ⟨_, _, waiting, ready, asking⟩
  have inquired : Inquired rt state s w (.ok reply) heard := ⟨_, _, waiting, ready, asking⟩
  rcases Act.bind_cases run with ⟨_, noted, noting, run⟩ | ⟨failure, noting, rfl⟩
  case inr => exact .unnoted inquired ((noteIf_still _ _).run noting)
  have noted : Same World.unshown heard noted := (noteIf_still _ _).run noting
  have shows {text : String} {wanted : Bool} : (Act.when_ wanted (Act.print text)).Still :=
    .when_ (Act.print_still text)
  rcases Act.bind_cases run with ⟨_, shown, showing, run⟩ | ⟨failure, showing, rfl⟩
  case inr => exact .unnoted inquired (Frame.trans noted (shows.run showing))
  cases run
  exact .replied inquired (Frame.trans noted (shows.run showing))

/-- The agent's update is that of the reply it got. -/
theorem agentStep_ok {update : Update} (run : agentStep rt state s w = (.ok update, w')) :
    ∃ reply, update = replyUpdate state reply := by
  cases agentStep_run run with
  | @replied reply => exact ⟨reply, rfl⟩

end Agent

/-! ## The limit -/

theorem limitStep_still : limitStep.Still :=
  .bind (Act.print_still _) fun _ => .done _

theorem limitStep_quiet : limitStep.Quiet :=
  limitStep_still.quiet

theorem limitStep_eq {s : Surroundings} {w w' : World} {outcome : Except Failure Update}
    (run : limitStep s w = (outcome, w')) : outcome = .ok limitUpdate := by
  cases run
  rfl

end WebPilot
