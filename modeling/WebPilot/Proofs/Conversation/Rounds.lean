import WebPilot.Proofs.Conversation.Calls
import WebPilot.Proofs.Conversation.Step

/-!
# Conversations go in rounds

A *round* is a turn of the assistant that calls tools, and the answers to these calls.  At every
boundary the history is the two opening messages and complete rounds, perhaps with one more turn of
the assistant at the end: that turn is there between the agent's step and the tools' step, or as the
last word of the conversation (`Boundary.Shape`).

The shape is carried along a walk together with what the rounds did: their calls are the calls that
were executed since the conversation began, and their answers say what became of each
(`Boundary.Backed`).  One step preserves both (`Boundary.Advance.preserves`), and **so both hold at
every boundary that a conversation may come to** (`Boundary.reached_shape`).
-/

namespace WebPilot

set_option autoImplicit false

/-! ## Rounds -/

/-- A turn of the assistant and the messages that answer it. -/
structure Round where
  turn : Message
  answers : List Message

namespace Round

/-- The messages of a round, in order. -/
def messages (r : Round) : List Message :=
  r.turn :: r.answers

/-- The assistant calls at least one tool, and each call has its answer, in the order of the
calls. -/
structure Complete (r : Round) : Prop where
  speaks : r.turn.role = .assistant
  calls : r.turn.calls ≠ []
  answers : r.answers.map (fun m => (m.role, m.toolCallId)) =
    r.turn.calls.map fun call => (Role.tool, some call.id)

/-- The calls of rounds, in order. -/
def allCalls (rounds : List Round) : List ToolCall :=
  rounds.flatMap fun r => r.turn.calls

/-- The answers of rounds, in order. -/
def allAnswers (rounds : List Round) : List Message :=
  rounds.flatMap answers

end Round

/-- Answers that calls were served with have the ids of the calls. -/
theorem Session.Serves.ids {session : Session} {w w' : World} {calls : List ToolCall}
    {answers : List Message} (serves : session.Serves w calls answers w') :
    answers.map (fun m => (m.role, m.toolCallId)) =
      calls.map fun call => (Role.tool, some call.id) := by
  rw [serves.answers]
  calc ((session.executed w.events calls).map Executed.message).map
        (fun m => (m.role, m.toolCallId))
      = ((session.executed w.events calls).map Executed.call).map
          (fun call => (Role.tool, some call.id)) := by
        rw [List.map_map, List.map_map]
        rfl
    _ = calls.map fun call => (Role.tool, some call.id) := by rw [session.map_call_executed]

/-- The message of a reply has the calls of the reply. -/
theorem Reply.calls_toMessage (reply : Reply) : reply.toMessage.calls = reply.toolCalls := by
  unfold Reply.toMessage Message.calls
  cases empty : reply.toolCalls with
  | nil => rfl
  | cons call rest => rfl

/-! ## The shape of a boundary -/

namespace Boundary

/-- The history is two opening messages, complete rounds and perhaps one more turn of the assistant;
the waiting calls are those of that turn, and the phase and the next step tell where the
conversation stands. -/
structure Shape (task : String) (b : Boundary) (rounds : List Round) (last? : Option Message) :
    Prop where
  messages : b.state.messages =
    [Message.system systemPrompt, Message.user task] ++ rounds.flatMap Round.messages ++
      last?.toList
  complete : ∀ round ∈ rounds, round.Complete
  speaks : ∀ turn, last? = some turn → turn.role = .assistant
  pending : b.state.pending = (last?.map Message.calls).getD []
  phase : b.state.phase = .processingCalls ↔ b.state.pending ≠ []
  /-- Before the agent's step, and before the limit's, the history ends with a round. -/
  closed : b.next = some .agent ∨ b.next = some .limit → last? = none
  /-- Before the tools' step calls wait. -/
  waiting : b.next = some .tools → b.state.pending ≠ []
  ended : b.next = none → b.state.phase = .done

/-- The calls of the rounds were executed since the conversation began, and the answers say what
became of them. -/
structure Backed (rt : Runtime) (w : World) (b : Boundary) (rounds : List Round) : Prop where
  executes : rt.session.Executes w (Round.allCalls rounds) b.world
  shown : ∀ call ∈ Round.allCalls rounds, call.Shown (rt.session.room .line)
  answers : Round.allAnswers rounds =
    (rt.session.executed w.events (Round.allCalls rounds)).map Executed.message

variable {rt : Runtime} {s : Surroundings} {task : String} {w : World} {b b' : Boundary}
  {rounds : List Round} {last? : Option Message}

theorem start_shape (rt : Runtime) (task : String) (w : World) :
    Shape task (start rt task w) [] none where
  messages := rfl
  complete := by simp
  speaks := by simp
  pending := rfl
  phase := by simp [start, State.initial]
  closed _ := rfl
  waiting next := by cases next
  ended next := by cases next

theorem start_backed (rt : Runtime) (task : String) (w : World) :
    Backed rt w (start rt task w) [] where
  executes := .of_same rfl
  shown := by simp [Round.allCalls]
  answers := rfl

/-- What was executed stays executed where a step does no work. -/
theorem Backed.of_same (backed : Backed rt w b rounds)
    (same : Same World.worked b.world b'.world) : Backed rt w b' rounds :=
  ⟨backed.executes.same_right same, backed.shown, backed.answers⟩

/-- Served calls are one more round. -/
theorem Backed.serve (backed : Backed rt w b rounds) {turn : Message} {answers : List Message}
    (serves : rt.session.Serves b.world turn.calls answers b'.world) :
    Backed rt w b' (rounds ++ [⟨turn, answers⟩]) := by
  have calls : Round.allCalls (rounds ++ [⟨turn, answers⟩]) =
      Round.allCalls rounds ++ turn.calls := by simp [Round.allCalls]
  have both : Round.allAnswers (rounds ++ [⟨turn, answers⟩]) =
      Round.allAnswers rounds ++ answers := by simp [Round.allAnswers]
  refine ⟨?_, ?_, ?_⟩
  · rw [calls]
    exact backed.executes.append serves.executes
  · rw [calls]
    exact fun call member =>
      (List.mem_append.mp member).elim (backed.shown call) (serves.shown call)
  · rw [calls, both, backed.answers, serves.answers, rt.session.executed_append,
      List.map_append, backed.executes.events]

/-- Before the agent's step, and before the limit's, no call waits. -/
theorem Shape.idle (shape : Shape task b rounds last?)
    (next : b.next = some .agent ∨ b.next = some .limit) : b.state.pending = [] := by
  rw [shape.pending, shape.closed next]
  rfl

/-! ## What a step preserves -/

/-- After the agent's step the reply is the last turn. -/
theorem Shape.agent {state : State} {w' : World}
    (shape : Shape task ⟨some .agent, state, w⟩ rounds last?) (reply : Reply) :
    Shape task ⟨Node.afterAgent (state.apply (replyUpdate state reply)),
      state.apply (replyUpdate state reply), w'⟩ rounds (some reply.toMessage) := by
  have closed : last? = none := shape.closed (.inl rfl)
  have messages : state.messages = _ := shape.messages
  refine ⟨?_, shape.complete, ?_, ?_, ?_, ?_, ?_, ?_⟩
  · simp only [State.apply, replyUpdate, messages, closed, Option.toList, List.append_nil]
  · intro turn same
    cases same
    rfl
  · exact reply.calls_toMessage.symm
  all_goals
    cases empty : reply.toolCalls <;> simp [Node.afterAgent, State.apply, replyUpdate, empty]

/-- After the tools' step the last turn and the answers are a round. -/
theorem Shape.tools {state : State} {w' : World} {result : CallsResult}
    (shape : Shape task ⟨some .tools, state, w⟩ rounds last?)
    (answered : result.answers.map (fun m => (m.role, m.toolCallId)) =
      state.pending.map fun call => (Role.tool, some call.id)) :
    ∃ turn : Message, last? = some turn ∧ turn.calls = state.pending ∧
      Shape task ⟨some (Node.afterTools (state.apply result.toUpdate)),
        state.apply result.toUpdate, w'⟩ (rounds ++ [⟨turn, result.answers⟩]) none := by
  have waiting : state.pending ≠ [] := shape.waiting rfl
  have same : state.pending = _ := shape.pending
  cases last? with
  | none => exact absurd same waiting
  | some turn =>
      have calls : turn.calls = state.pending := same.symm
      have history : state.messages = _ := shape.messages
      refine ⟨turn, rfl, calls, ?_, ?_, ?_, ?_, ?_, ?_, ?_, ?_⟩
      · simp [State.apply, CallsResult.toUpdate, history, Round.messages]
      · intro round member
        rcases List.mem_append.mp member with earlier | last
        · exact shape.complete round earlier
        · obtain rfl := List.mem_singleton.mp last
          exact ⟨shape.speaks turn rfl, by rwa [calls], by rw [calls, answered]⟩
      · intro turn impossible
        cases impossible
      · rfl
      · simp [State.apply, CallsResult.toUpdate]
      · exact fun _ => rfl
      · intro next
        unfold Node.afterTools at next
        split at next <;> cases next
      · intro next
        cases next

/-- After the limit's step the conversation is over. -/
theorem Shape.limit {state : State} {w' : World}
    (shape : Shape task ⟨some .limit, state, w⟩ rounds last?) :
    Shape task ⟨none, state.apply limitUpdate, w'⟩ rounds none := by
  have closed : last? = none := shape.closed (.inr rfl)
  have empty : state.pending = [] := shape.idle (.inr rfl)
  have history : state.messages = _ := shape.messages
  refine ⟨?_, shape.complete, ?_, ?_, ?_, ?_, ?_, ?_⟩
  · simp [State.apply, limitUpdate, history, closed]
  · intro turn impossible
    cases impossible
  · simp [State.apply, limitUpdate, empty]
  · simp [State.apply, limitUpdate, empty]
  · exact fun _ => rfl
  · intro next
    cases next
  · exact fun _ => rfl

/-- **One step preserves the shape and what is behind it.** -/
theorem Advance.preserves (advance : Advance rt s b b') (shape : Shape task b rounds last?)
    (backed : Backed rt w b rounds) :
    ∃ rounds' last?', Shape task b' rounds' last?' ∧ Backed rt w b' rounds' := by
  cases advance with
  | @step node state v v' update run =>
      cases node with
      | agent =>
          obtain ⟨reply, rfl⟩ := agentStep_ok run
          exact ⟨_, _, shape.agent reply,
            backed.of_same ((agentStep_unasked rt state).run run).worked_of_unasked⟩
      | tools =>
          rcases toolsStep_cases run with ⟨result, same, serves⟩ | ⟨_, impossible, _⟩
          · cases same
            obtain ⟨turn, -, calls, shape'⟩ := shape.tools serves.ids
            rw [← calls] at serves
            exact ⟨_, _, shape', backed.serve serves⟩
          · cases impossible
      | limit =>
          cases limitStep_eq run
          exact ⟨_, _, shape.limit, backed.of_same (limitStep_quiet.worked.run run)⟩

/-- **Every boundary in reach has the shape, and its rounds are backed by executions.** -/
theorem reached_shape (reached : Reached rt s task w b) :
    ∃ rounds last?, Shape task b rounds last? ∧ Backed rt w b rounds := by
  induction reached with
  | refl => exact ⟨_, _, start_shape rt task w, start_backed rt task w⟩
  | tail _ advance ih =>
      obtain ⟨rounds, last?, shape, backed⟩ := ih
      exact advance.preserves shape backed

/-! ## What the model is asked -/

/-- Since the world at the beginning the model was asked only about histories of boundaries at which
the agent's step is next. -/
structure Asked (rt : Runtime) (s : Surroundings) (task : String) (w w' : World) : Prop where
  requests : ∃ new, w'.requests = w.requests ++ new ∧ ∀ r ∈ new, ∃ b,
    Reached rt s task w b ∧ b.next = some .agent ∧ r.messages = b.state.messages
  submissions : ∃ new, w'.submissions = w.submissions ++ new ∧ ∀ sub ∈ new, ∃ b,
    Reached rt s task w b ∧ b.next = some .agent ∧
      Hosted.Conversion.ofMessages b.state.messages = .ok ⟨sub.system, sub.messages⟩

theorem Asked.refl (rt : Runtime) (s : Surroundings) (task : String) (w : World) :
    Asked rt s task w w :=
  ⟨⟨[], by simp, by simp⟩, ⟨[], by simp, by simp⟩⟩

/-- Asking about the history of one more boundary. -/
theorem Asked.ask {w' : World} (asked : Asked rt s task w b.world) (reached : Reached rt s task w b)
    (next : b.next = some .agent) (asks : World.AsksOnly b.state.messages b.world w') :
    Asked rt s task w w' := by
  obtain ⟨⟨new, grown, all⟩, ⟨subs, grownSubs, allSubs⟩⟩ := asked
  obtain ⟨⟨new', grown', all'⟩, ⟨subs', grownSubs', allSubs'⟩⟩ := asks
  refine ⟨⟨new ++ new', by rw [grown', grown, List.append_assoc], fun r member => ?_⟩,
    ⟨subs ++ subs', by rw [grownSubs', grownSubs, List.append_assoc], fun sub member => ?_⟩⟩
  · rcases List.mem_append.mp member with earlier | last
    · exact all r earlier
    · exact ⟨b, reached, next, all' r last⟩
  · rcases List.mem_append.mp member with earlier | last
    · exact allSubs sub earlier
    · exact ⟨b, reached, next, allSubs' sub last⟩

theorem Asked.of_same {v w' : World} (asked : Asked rt s task w v)
    (same : Same World.asked v w') : Asked rt s task w w' := by
  obtain ⟨requests, submissions⟩ := Prod.mk.inj same
  exact ⟨requests ▸ asked.requests, submissions ▸ asked.submissions⟩

/-- A step asks about the history as it stands or not at all, however it ends. -/
theorem Asked.step {node : Node} {state : State} {v w' : World} {outcome : Except Failure Update}
    (asked : Asked rt s task w v) (reached : Reached rt s task w ⟨some node, state, v⟩)
    (run : node.step rt state s v = (outcome, w')) : Asked rt s task w w' := by
  cases node with
  | agent => exact Asked.ask asked reached rfl ((agentStep_asksOnly rt state).run run)
  | tools => exact asked.of_same ((toolsStep_asked rt state).run run)
  | limit => exact asked.of_same (limitStep_quiet.asked.run run)

theorem reached_asked (reached : Reached rt s task w b) : Asked rt s task w b.world := by
  induction reached with
  | refl => exact .refl rt s task w
  | tail walk advance ih =>
      cases advance with
      | step run => exact ih.step walk run

theorem ends_asked {w' : World} {outcome : Except Failure ConversationResult}
    (reached : Reached rt s task w b) (ends : Ends rt s b outcome w') : Asked rt s task w w' := by
  cases ends with
  | returned => exact reached_asked reached
  | stopped => exact reached_asked reached
  | aborted run => exact (reached_asked reached).step reached run

/-! ## Conversations -/

/-- The history only grows. -/
theorem Walk.grows (walk : Walk rt s b b') : b.state.messages <+: b'.state.messages := by
  induction walk with
  | refl => exact List.prefix_rfl
  | tail _ advance ih =>
      cases advance with
      | step run => exact ih.trans (List.prefix_append _ _)

/-- **A conversation goes in rounds.**  Every boundary in reach has the shape of rounds, and the
history only grows from one to the next; the model is asked only about histories of such
boundaries; and a result is the state of a last boundary, in which nothing is left to do. -/
theorem conversation_in_rounds (rt : Runtime) (s : Surroundings) (task : String) (w : World) :
    (∀ b, Reached rt s task w b → ∃ rounds last?, Shape task b rounds last?) ∧
      (∀ b b', Reached rt s task w b → Walk rt s b b' → b.state.messages <+: b'.state.messages) ∧
      Asked rt s task w (converse rt task s w).2 ∧
      ∀ result, (converse rt task s w).1 = .ok result →
        result.phase = .done ∧
          ∃ b, Reached rt s task w b ∧ b.next = none ∧ result = .ofState b.state := by
  rcases run : converse rt task s w with ⟨outcome, w'⟩
  obtain ⟨last, reached, ends⟩ := converse_ends run
  refine ⟨fun b reached => ?_, fun b b' _ walk => walk.grows, ends_asked reached ends,
    fun result returned => ?_⟩
  · obtain ⟨rounds, last?, shape, _⟩ := reached_shape reached
    exact ⟨rounds, last?, shape⟩
  · cases returned
    cases ends
    obtain ⟨rounds, last?, shape, _⟩ := reached_shape reached
    exact ⟨shape.ended rfl, _, reached, rfl, rfl⟩

end Boundary

end WebPilot
