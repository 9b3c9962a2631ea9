import WebPilot.Proofs.Conversation.Answering
import WebPilot.Proofs.Conversation.Learning
import WebPilot.Proofs.Ledger.Keeping
import WebPilot.Proofs.Session.Interrupting

/-!
# When a conversation pauses for the operator

A conversation with a target asks the operator to wait once a call has arrived there.  Whether it
has done so is handed on from call to call inside the tools' step, and from step to step in the
state.

An operator who interrupts shows where a conversation asks: it ends there.  In that world the calls
up to the first that has arrived have been executed, the result of this one is the last thing shown
(`Runtime.Arrival`), and since the step began nothing was asked of the model and nobody has slept
(`Boundary.Pauses`).

One call asks the operator if it arrives and the operator was not asked before
(`runCall_pausing`); calls and steps hand on the sign (`runCalls_pausing`, `takeSteps_pausing`), and
in the state it says whether any executed call has arrived (`Boundary.Marked`).  **So a conversation
with an operator asks at most once, directly behind the first call that has arrived, and one that
comes to a result has asked exactly if a call has arrived** (`Boundary.conversation_pauses`).
-/

namespace WebPilot

set_option autoImplicit false

/-! ## The world of a pause -/

/-- The line that shows the result of an executed call. -/
def Executed.echo (e : Executed) : String :=
  let told := e.reception.told e.call.name
  let style := if told.failed then "red" else "white"
  let shown := Text.Markup.escape s!"Result: {told.content}"
  s!"[{style}]{shown}[/{style}]"

/-- In the world `v` the operator is asked because of a call.  Since the world `w` the calls `done`
were executed, none of which has arrived, and then this one, which has; its result is the last thing
shown, and the operator was asked nothing else. -/
structure Runtime.Arrival (rt : Runtime) (prompt : Prompt) (w : World) (done : List ToolCall)
    (e : Executed) (v : World) : Prop where
  executes : rt.session.Executes w (done ++ [e.call]) v
  executed : rt.session.executed w.events (done ++ [e.call]) =
    rt.session.executed w.events done ++ [e]
  away : ∀ earlier ∈ rt.session.executed w.events done,
    ¬ earlier.Arrives rt.settings.targetOrigin
  arrives : e.Arrives rt.settings.targetOrigin
  shown : v.console.getLast? = some (.text e.echo)
  asked : v.prompts = w.prompts ++ [prompt]

/-- In the world `v` the operator is asked because of one of the calls; nothing was asked of the
model, and nobody has slept. -/
def Runtime.PausesAmong (rt : Runtime) (prompt : Prompt) (w : World) (calls : List ToolCall)
    (v : World) : Prop :=
  ∃ done e rest, calls = done ++ e.call :: rest ∧ rt.Arrival prompt w done e v ∧
    Same World.timed w v

section Arrivals

variable {rt : Runtime} {prompt : Prompt} {w middle v : World} {calls done : List ToolCall}
  {e : Executed}

/-- Calls that have not arrived may have been executed before. -/
theorem Runtime.Arrival.prepend (arrival : rt.Arrival prompt middle done e v)
    (executed : rt.session.Executes w calls middle)
    (away : ∀ earlier ∈ rt.session.executed w.events calls,
      ¬ earlier.Arrives rt.settings.targetOrigin)
    (unasked : Same World.prompts w middle) : rt.Arrival prompt w (calls ++ done) e v := by
  have split (more : List ToolCall) : rt.session.executed w.events (calls ++ more) =
      rt.session.executed w.events calls ++ rt.session.executed middle.events more := by
    rw [rt.session.executed_append, ← executed.events]
  constructor
  case executes =>
    rw [List.append_assoc]
    exact executed.append arrival.executes
  case executed =>
    rw [List.append_assoc, split, split, arrival.executed, List.append_assoc]
  case away =>
    rw [split]
    exact List.forall_mem_append.mpr ⟨away, arrival.away⟩
  case arrives => exact arrival.arrives
  case shown => exact arrival.shown
  case asked => rw [arrival.asked, unasked]

end Arrivals

/-! ## Discreet steps -/

theorem noteIf_discreet (wanted : Bool) (text : Except Failure String) :
    (noteIf wanted text).Discreet :=
  .when_ (.bind (.lift _) fun _ => .note _)

theorem askPatiently_discreet (service : ModelService) (backoff : Number) (request : Request)
    (number more : Nat) : (askPatiently service backoff request number more).Discreet := by
  induction more generalizing number with
  | zero => exact service.ask_discreet request
  | succ more ih =>
      refine .bind (.attempt (service.ask_discreet request)) fun outcome => ?_
      split
      · exact .done _
      · split
        · exact .fail _
        · exact .bind (.print _) fun _ => .bind (.sleep _) fun _ => ih _
      · exact .fail _

/-- The agent's step is discreet. -/
theorem agentStep_discreet (rt : Runtime) (state : State) : (agentStep rt state).Discreet :=
  .bind (.when_ (.sleepFor _)) fun _ => .bind (noteIf_discreet _ _) fun _ =>
    .bind (askPatiently_discreet _ _ _ _ _) fun _ => .bind (noteIf_discreet _ _) fun _ =>
    .bind (.when_ (.print _)) fun _ => .done _

theorem limitStep_discreet : limitStep.Discreet :=
  .bind (.print _) fun _ => .done _

theorem executeCall_discreet (session : Session) (call : ToolCall) :
    (executeCall session call).Discreet := by
  refine .bind (.attempt (session.execute_discreet _ _ _)) fun outcome => ?_
  cases outcome with
  | ok execution => exact .done _
  | error failure =>
      cases isExecution : failure.isExecution with
      | true => simpa only [isExecution, if_true] using .done _
      | false => simpa only [isExecution, Bool.false_eq_true, if_false] using .fail _

/-! ## Calls -/

section Calls

variable {rt : Runtime} {ask : String → Prompt} {s : Surroundings} {w w' : World}
  {call : ToolCall} {calls : List ToolCall}

/-- The operator is asked exactly if the matter is not settled and the call leads to the target. -/
theorem pauseOnArrival_pausing (asks : rt.operator = some ask) (paused failed : Bool) :
    (rt.pauseOnArrival (paused || failed) call).Pausing s w
      (fun arrives => (paused || arrives) = true) (paused = true)
      (fun v => failed = false ∧ isTargetNavigation call rt.settings.targetOrigin = .ok true ∧
        v = w.asking (ask manualStepPrompt)) := by
  unfold Runtime.pauseOnArrival
  refine .after (.lift _) fun arrives m lifted _ => ?_
  obtain ⟨looked, rfl⟩ := Act.lift_cases lifted
  cases arrives with
  | false => exact .done (by rw [Bool.or_false])
  | true =>
      have settled : (paused || failed) = false := by
        cases both : paused || failed with
        | false => rfl
        | true =>
            rw [both] at looked
            cases looked
      obtain ⟨rfl, rfl⟩ := Bool.or_eq_false_iff.mp settled
      have pause : Act.when_ true rt.pause = Act.prompt (ask manualStepPrompt) := by
        rw [Act.when_, if_pos rfl, Runtime.pause, asks]
      rw [pause]
      refine .map (.mono (.prompt _ Bool.false_ne_true) ?_) fun _ => by simp
      exact fun v _ here => ⟨rfl, looked, here⟩

/-- **One call** asks the operator if it arrives and the operator was not asked before. -/
theorem runCall_pausing (asks : rt.operator = some ask) (number : Nat) (paused : Bool)
    (call : ToolCall) :
    (runCall rt number paused call).Pausing s w (fun one => one.paused = true) (paused = true)
      (rt.PausesAmong (ask manualStepPrompt) w [call]) := by
  unfold runCall
  refine .after (.lift _) fun arguments m lifted _ => ?_
  obtain ⟨-, rfl⟩ := Act.lift_cases lifted
  refine .after_print (.after_print ?_)
  refine .after (executeCall_discreet _ _) fun told after executed unasked => ?_
  obtain rfl := executeCall_told executed
  refine .after_print ?_
  refine .after (.lift _) fun answer m lifted _ => ?_
  obtain ⟨-, rfl⟩ := Act.lift_cases lifted
  refine .map (.mono (pauseOnArrival_pausing asks paused _) ?_) fun _ => Iff.rfl
  rintro v - ⟨succeeds, leads, rfl⟩
  have shown (a b : String) : Same World.worked w ((w.showing a).showing b) := rfl
  have soon (a b : String) : Same World.timed w ((w.showing a).showing b) := rfl
  have executes : rt.session.Executes w [call] after :=
    (executeCall_spec executed).1.same_left (shown _ _)
  have timed : Same World.timed w after :=
    Frame.trans (soon _ _) ((executeCall_timed rt call).run executed)
  refine ⟨[], ⟨call, rt.session.receive w.events call.name call.arguments⟩, [], rfl, ?_, timed⟩
  constructor
  case executes => exact executes.same_right rfl
  case executed => rfl
  case away => exact nofun
  case arrives => exact ⟨succeeds, leads⟩
  case shown => exact List.getLast?_concat
  case asked => exact congrArg (· ++ _) unasked

/-- After calls that were run the operator has been asked if that was so before, or if one of them
has arrived. -/
theorem runCalls_paused_iff {number : Nat} {paused : Bool} {result : CallsResult}
    (run : runCalls rt number paused calls s w = (.ok result, w')) :
    result.paused = true ↔ paused = true ∨
      ∃ e ∈ rt.session.executed w.events calls, e.Arrives rt.settings.targetOrigin := by
  induction calls generalizing number paused result w with
  | nil =>
      cases run
      simp [Session.executed]
  | cons call rest ih =>
      rw [runCalls] at run
      obtain ⟨one, middle, first, run⟩ := Act.bind_ok run
      obtain ⟨more, _, running, run⟩ := Act.bind_ok run
      have served : rt.session.Serves w [call] one.answers middle := runCall_treats first
      have events : middle.events =
          rt.session.historyAfterOne w.events call.name call.arguments := served.executes.events
      cases run
      rw [CallsResult.andThen, ih running, (runCall_ok rfl first).2.2, events, Session.executed,
        List.exists_mem_cons_iff, or_assoc]

/-- **Calls** that are run ask the operator because of the first of them that arrives, if the
operator was not asked before. -/
theorem runCalls_pausing (asks : rt.operator = some ask) (number : Nat) (paused : Bool)
    (calls : List ToolCall) :
    (runCalls rt number paused calls).Pausing s w (fun result => result.paused = true)
      (paused = true) (rt.PausesAmong (ask manualStepPrompt) w calls) := by
  induction calls generalizing number paused w with
  | nil => exact .done Iff.rfl
  | cons call rest ih =>
      have first : (runCall rt number paused call).Pausing s w (fun one => one.paused = true)
          (paused = true) (rt.PausesAmong (ask manualStepPrompt) w (call :: rest)) := by
        refine (runCall_pausing asks number paused call).mono ?_
        rintro v - ⟨done, e, later, split, pauses⟩
        refine ⟨done, e, later ++ rest, ?_, pauses⟩
        rw [← List.cons_append, ← List.append_assoc, ← split, List.singleton_append]
      rw [runCalls]
      refine .bind first fun one middle run => .map (.mono (ih _ _) ?_) fun _ => Iff.rfl
      rintro v untold ⟨done, e, later, rfl, arrival, timed⟩ unasked
      have served : rt.session.Serves w [call] one.answers middle := runCall_treats run
      have still : ¬ Executed.Arrives _ _ := fun arrives =>
        untold ((runCall_ok rfl run).2.2.mpr (.inr arrives))
      have soon : Same World.timed w middle := (runCall_timed rt number paused call).run run
      refine ⟨call :: done, e, later, rfl, ?_, Frame.trans soon timed⟩
      exact arrival.prepend served.executes (List.forall_mem_singleton.mpr still) unasked

end Calls

/-! ## Steps -/

section Steps

variable {rt : Runtime} {ask : String → Prompt} {s : Surroundings} {w : World}

/-- A step that is discreet and leaves the sign in the state as it is. -/
theorem Act.Discreet.pausing_step {act : Act Update} (discreet : act.Discreet) {state : State}
    {asking : World → Prop}
    (kept : ∀ update, (act s w).1 = .ok update → (state.apply update).paused = state.paused) :
    act.Pausing s w (fun update => (state.apply update).paused = true) (state.paused = true)
      asking :=
  .of_discreet discreet fun update ok => by rw [kept update ok]

/-- **A step** asks the operator only if it is the tools', because of one of the calls that wait. -/
theorem Node.step_pausing (asks : rt.operator = some ask) (node : Node) (state : State) :
    (node.step rt state).Pausing s w (fun update => (state.apply update).paused = true)
      (state.paused = true)
      (fun v => node = .tools ∧ rt.PausesAmong (ask manualStepPrompt) w state.pending v) := by
  cases node with
  | agent =>
      refine (agentStep_discreet rt state).pausing_step fun update ok => ?_
      obtain ⟨reply, rfl⟩ := agentStep_ok (Prod.ext ok rfl)
      rfl
  | tools =>
      refine .map (.mono (runCalls_pausing asks _ _ _) ?_) fun _ => Iff.rfl
      exact fun v _ pauses => ⟨rfl, pauses⟩
  | limit =>
      refine limitStep_discreet.pausing_step fun update ok => ?_
      cases ok
      rfl

namespace Boundary

/-- In the world `v` the operator is asked in a tools' step that the conversation comes to. -/
def PausesLater (rt : Runtime) (s : Surroundings) (prompt : Prompt) (b : Boundary) (v : World) :
    Prop :=
  ∃ later, Walk rt s b later ∧ later.next = some .tools ∧ later.state.paused = false ∧
    Same World.prompts b.world later.world ∧
    rt.PausesAmong prompt later.world later.state.pending v

end Boundary

/-- **Steps** ask the operator in one of the tools' steps, if the operator was not asked before. -/
theorem takeSteps_pausing (asks : rt.operator = some ask) (left : Nat) (node : Node)
    (state : State) :
    (takeSteps rt left node state).Pausing s w (fun final => final.paused = true)
      (state.paused = true)
      (Boundary.PausesLater rt s (ask manualStepPrompt) ⟨some node, state, w⟩) := by
  induction left generalizing node state w with
  | zero => exact .fail _
  | succ left ih =>
      have here : (node.step rt state).Pausing s w
          (fun update => (state.apply update).paused = true) (state.paused = true)
          (Boundary.PausesLater rt s (ask manualStepPrompt) ⟨some node, state, w⟩) := by
        refine (node.step_pausing asks state).mono ?_
        rintro v unpaused ⟨rfl, pauses⟩
        exact ⟨_, .refl, rfl, by simpa using unpaused, rfl, pauses⟩
      rw [takeSteps]
      refine .bind here fun update m run => ?_
      have advance := Boundary.Advance.step run
      by_cases last : left = 0
      · simp only [last, if_true]
        exact .fail _
      · simp only [last, if_false]
        cases next : node.next? (state.apply update) with
        | none => exact .done Iff.rfl
        | some following =>
            rw [next] at advance
            refine (ih following _).mono ?_
            rintro v - ⟨later, walk, tools, unpaused, silent, pauses⟩ unasked
            exact ⟨later, walk.head advance, tools, unpaused, Frame.trans unasked silent, pauses⟩

end Steps

/-! ## Conversations -/

namespace Boundary

variable {rt : Runtime} {ask : String → Prompt} {s : Surroundings} {task : String} {w : World}
  {b b' : Boundary} {calls : List ToolCall}

/-- All calls of the history were executed but those that wait, and the state says whether one of
them has arrived. -/
structure Marked (rt : Runtime) (w : World) (b : Boundary) (calls : List ToolCall) : Prop where
  history : ConversationResult.callsOf b.state.messages = calls ++ b.state.pending
  executes : rt.session.Executes w calls b.world
  mark : b.state.paused = true ↔
    ∃ e ∈ rt.session.executed w.events calls, e.Arrives rt.settings.targetOrigin

theorem start_marked (rt : Runtime) (task : String) (w : World) :
    Marked rt w (start rt task w) [] where
  history := rfl
  executes := .of_same rfl
  mark := iff_of_false Bool.false_ne_true (by simp [Session.executed])

/-- After a step that executes nothing the calls that wait are those that waited and those that the
step adds. -/
theorem Marked.rest {node : Node} {state : State} {v v' : World} {update : Update}
    (marked : Marked rt w ⟨some node, state, v⟩ calls) (worked : Same World.worked v v')
    (kept : (state.apply update).paused = state.paused)
    (waiting : state.pending ++ ConversationResult.callsOf update.messages =
      (state.apply update).pending) :
    Marked rt w ⟨node.next? (state.apply update), state.apply update, v'⟩ calls := by
  obtain ⟨history, executes, mark⟩ := marked
  constructor
  case history =>
    show ConversationResult.callsOf (state.messages ++ update.messages) =
      calls ++ (state.apply update).pending
    rw [ConversationResult.callsOf_append, history, List.append_assoc, waiting]
  case executes => exact executes.same_right worked
  case mark => rwa [kept]

/-- After the tools' step the calls that waited have been executed. -/
theorem Marked.tools {state : State} {v v' : World} {update : Update}
    (marked : Marked rt w ⟨some .tools, state, v⟩ calls)
    (run : toolsStep rt state s v = (.ok update, v')) :
    Marked rt w ⟨some (Node.afterTools (state.apply update)), state.apply update, v'⟩
      (calls ++ state.pending) := by
  obtain ⟨result, _, running, run⟩ := Act.bind_ok run
  cases run
  have serves : rt.session.Serves v state.pending result.answers v' := runCalls_treats running
  have silent : ConversationResult.callsOf result.answers = [] :=
    ConversationResult.callsOf_answers fun _ => serves.role
  obtain ⟨history, executes, mark⟩ := marked
  constructor
  case history =>
    show ConversationResult.callsOf (state.messages ++ result.answers) =
      calls ++ state.pending ++ []
    rw [ConversationResult.callsOf_append, silent, history]
  case executes => exact executes.append serves.executes
  case mark =>
    refine (runCalls_paused_iff running).trans ?_
    rw [rt.session.executed_append, ← executes.events]
    simp only [List.mem_append, or_and_right, exists_or]
    exact or_congr_left mark

/-- **A step keeps the mark.** -/
theorem Marked.step (marked : Marked rt w b calls) (reached : Reached rt s task w b)
    (advance : Advance rt s b b') : ∃ calls', Marked rt w b' calls' := by
  cases advance with
  | @step node state v v' update run =>
      cases node with
      | agent =>
          have worked := ((agentStep_unasked rt state).run run).worked_of_unasked
          obtain ⟨reply, rfl⟩ := agentStep_ok run
          obtain ⟨rounds, last?, shape, -⟩ := reached_shape reached
          refine ⟨calls, marked.rest worked rfl ?_⟩
          rw [show state.pending = [] from shape.idle (.inl rfl)]
          exact (List.append_nil _).trans reply.calls_toMessage
      | tools => exact ⟨_, marked.tools run⟩
      | limit =>
          have worked : Same World.worked v v' := limitStep_quiet.worked.run run
          cases limitStep_eq run
          exact ⟨calls, marked.rest worked rfl (List.append_nil _)⟩

theorem reached_marked (reached : Reached rt s task w b) : ∃ calls, Marked rt w b calls := by
  induction reached with
  | refl => exact ⟨[], start_marked rt task w⟩
  | tail walk advance ih =>
      obtain ⟨calls, marked⟩ := ih
      exact marked.step walk advance

/-- At the end the state says whether any call of the history has arrived. -/
theorem ended_mark {final : State} {w' : World} (reached : Reached rt s task w ⟨none, final, w'⟩) :
    final.paused = true ↔
      ∃ e ∈ rt.session.executed w.events (ConversationResult.callsOf final.messages),
        e.Arrives rt.settings.targetOrigin := by
  obtain ⟨calls, history, -, mark⟩ := reached_marked reached
  obtain ⟨rounds, last?, shape, -⟩ := reached_shape reached
  rw [shape.settled rfl, List.append_nil] at history
  rw [history]
  exact mark

/-- A conversation that comes to a result has executed all calls of its history. -/
theorem returned_executes {w' : World} {result : ConversationResult}
    (run : converse rt task s w = (.ok result, w')) :
    rt.session.Executes w (ConversationResult.callsOf result.messages) w' := by
  obtain ⟨b, calls, -, ends, -, all, executes, -⟩ := converse_executes run
  cases ends
  rwa [all rfl] at executes

/-- There is only one step from a boundary. -/
theorem advance_unique (rt : Runtime) (s : Surroundings) : Relator.RightUnique (Advance rt s) := by
  rintro b b' b'' ⟨run⟩ ⟨run'⟩
  obtain ⟨ok, rfl⟩ := Prod.mk.inj (run.symm.trans run')
  cases ok
  rfl

/-- The end lies behind every boundary in reach. -/
theorem walk_to_end (reached : Reached rt s task w b) (ended : Reached rt s task w b')
    (last : b'.next = none) : Walk rt s b b' := by
  rcases Relation.ReflTransGen.total_of_right_unique (advance_unique rt s) reached ended with
    walk | walk
  · exact walk
  · rcases walk.cases_head with rfl | ⟨_, advance, _⟩
    · exact .refl
    · cases advance with
      | step run => cases last

/-- In the world `v` the conversation asks the operator to wait, because of a call that has arrived
as the first one, behind the calls `calls`.  Since the tools' step began whose call this is, nothing
was asked of the model, and nobody has slept. -/
structure Pauses (rt : Runtime) (s : Surroundings) (task : String) (w : World) (prompt : Prompt)
    (calls : List ToolCall) (e : Executed) (v : World) : Prop where
  arrival : rt.Arrival prompt w calls e v
  promptly : ∃ b rest, Reached rt s task w b ∧ b.next = some .tools ∧
    e.call :: rest <:+ b.state.pending ∧
    ConversationResult.callsOf b.state.messages = calls ++ e.call :: rest ∧
    Same World.timed b.world v

/-- A pause in a step that the conversation comes to is one of the conversation. -/
theorem PausesLater.pauses {prompt : Prompt} {v : World}
    (pauses : PausesLater rt s prompt (start rt task w) v) :
    ∃ calls e, Pauses rt s task w prompt calls e v := by
  obtain ⟨b, reached, tools, unpaused, silent, done, e, rest, split, arrival, timed⟩ := pauses
  obtain ⟨calls, history, executes, mark⟩ := reached_marked reached
  have away : ∀ earlier ∈ rt.session.executed w.events calls,
      ¬ earlier.Arrives rt.settings.targetOrigin := by
    intro earlier member arrives
    rw [mark.mpr ⟨earlier, member, arrives⟩] at unpaused
    cases unpaused
  refine ⟨calls ++ done, e, arrival.prepend executes away silent, b, rest, reached, tools, ?_, ?_,
    timed⟩
  · exact ⟨done, split.symm⟩
  · rw [history, split, List.append_assoc]

/-- **A conversation** asks the operator at most once, and if it comes to a result it has asked
exactly if a call has arrived. -/
theorem converse_pausing (asks : rt.operator = some ask) (s : Surroundings) (task : String)
    (w : World) :
    (converse rt task).Pausing s w
      (fun result =>
        ∃ e ∈ rt.session.executed w.events (ConversationResult.callsOf result.messages),
          e.Arrives rt.settings.targetOrigin)
      ((State.initial task rt.settings.maxIterations).paused = true)
      (fun v => ∃ calls e, Pauses rt s task w (ask manualStepPrompt) calls e v) := by
  unfold converse
  split
  · exact .fail _
  · refine .bind ((takeSteps_pausing asks _ _ _).mono fun v _ later => later.pauses) ?_
    intro final m run
    obtain ⟨b, reached, halts⟩ := takeSteps_halts run
    cases halts
    cases firstStray? final.messages with
    | some stray => exact .fail _
    | none => exact .done (ended_mark reached).symm

/-- The calls up to the one because of which a conversation asks are the first of its result. -/
theorem Pauses.prefix_result {prompt : Prompt} {calls : List ToolCall} {e : Executed}
    {v w' : World} {result : ConversationResult}
    (pauses : Pauses rt s task w prompt calls e v)
    (run : converse rt task s w = (.ok result, w')) :
    calls ++ [e.call] <+: ConversationResult.callsOf result.messages := by
  obtain ⟨last, ended, ends⟩ := converse_ends run
  cases ends
  obtain ⟨b, rest, reached, -, -, history, -⟩ := pauses.promptly
  obtain ⟨more, grown⟩ := (walk_to_end reached ended rfl).grows
  refine ⟨rest ++ ConversationResult.callsOf more, ?_⟩
  rw [List.append_assoc, List.singleton_append, ← List.cons_append, ← List.append_assoc, ← history,
    ← ConversationResult.callsOf_append]
  exact congrArg _ grown

/-- **A conversation asks the operator to wait once, when the first call has arrived.**  Whatever
ends it, the operator was asked nothing, or once.  If once, an operator who interrupts ends it in
the world in which it asks: there the calls up to the first that arrives have been executed and no
others, the result of this one is the last thing shown, and since the tools' step began nothing was
asked of the model and nobody has slept.  If the conversation comes to a result, all calls of its
history were executed, and it has asked exactly if one of them has arrived. -/
theorem conversation_pauses (asks : rt.operator = some ask) (s : Surroundings) (task : String)
    (w : World) :
    let run := converse rt task s w
    let interrupted := converse rt task s.interrupting w
    (run.2.prompts = w.prompts ∧ interrupted = run ∨
      run.2.prompts = w.prompts ++ [ask manualStepPrompt] ∧
        ∃ calls e v, interrupted = (.error .interrupted, v) ∧
          Pauses rt s task w (ask manualStepPrompt) calls e v ∧
          ∀ result, run.1 = .ok result →
            calls ++ [e.call] <+: ConversationResult.callsOf result.messages) ∧
    ∀ result, run.1 = .ok result →
      rt.session.Executes w (ConversationResult.callsOf result.messages) run.2 ∧
      (run.2.prompts = w.prompts ++ [ask manualStepPrompt] ↔
        ∃ e ∈ rt.session.executed w.events (ConversationResult.callsOf result.messages),
          e.Arrives rt.settings.targetOrigin) := by
  cases converse_pausing asks s task w with
  | passes same unasked kept =>
      refine ⟨.inl ⟨unasked, same⟩, fun result ok => ⟨returned_executes (Prod.ext ok rfl), ?_⟩⟩
      refine iff_of_false ?_ (mt (kept result ok).mp Bool.false_ne_true)
      rw [unasked]
      simp
  | asks _ there halts once given =>
      obtain ⟨calls, e, pauses⟩ := there
      have asked := once.trans pauses.arrival.asked
      refine ⟨.inr ⟨asked, calls, e, _, halts, pauses, fun result ok => ?_⟩, fun result ok => ?_⟩
      · exact pauses.prefix_result (Prod.ext ok rfl)
      · exact ⟨returned_executes (Prod.ext ok rfl), iff_of_true asked (given result ok)⟩

end Boundary

/-! ## A sample -/

namespace Sample

/-- A browser that refuses the first call, and then goes wherever it is told. -/
def balkyBrowser : Backend where
  tools := .ok [navigate]
  call before tool arguments := ([.call tool arguments], .ok (.ofText "done" before.isEmpty))

/-- A conversation with that browser, which goes to its target three times in one turn. -/
def visiting : Runtime where
  session := { backend := balkyBrowser, catalog := .ofTools [navigate] }
  model := .direct fun before _ => .ok <|
    if before.isEmpty then
      { content := ""
        toolCalls := ["first", "second", "third"].map fun id => goTo id "http://a" }
    else { content := "Done." }
  tools := []
  settings := { iterationDelay := .whole 0, targetOrigin := some "http://a" }
  operator := some .notice

end Sample

namespace Boundary

/-- The first visit fails, and the operator is asked after the second one, before the third. -/
theorem visiting_pauses :
    Sample.visiting.operator = some .notice ∧
      ∃ calls e v,
        converse Sample.visiting "task" Sample.surroundings.interrupting .fresh =
          (.error .interrupted, v) ∧
        Pauses Sample.visiting Sample.surroundings "task" .fresh (.notice manualStepPrompt)
          calls e v ∧
        v.events.length = 2 := by
  have operator : Sample.visiting.operator = some .notice := rfl
  have asked : (converse Sample.visiting "task" Sample.surroundings .fresh).2.prompts =
      [.notice manualStepPrompt] := by decide +kernel
  have two :
      (converse Sample.visiting "task" Sample.surroundings.interrupting .fresh).2.events.length =
        2 := by
    decide +kernel
  obtain ⟨⟨unasked, -⟩ | ⟨-, calls, e, v, halts, pauses, -⟩, -⟩ :=
    conversation_pauses operator Sample.surroundings "task" .fresh
  · rw [asked] at unasked
    cases unasked
  · rw [halts] at two
    exact ⟨operator, calls, e, v, halts, pauses, two⟩

end Boundary

end WebPilot
