import WebPilot.Proofs.Conversation.Learning
import WebPilot.Proofs.Hosted.Conversion

/-!
# What the hosted model is told of a conversation

The hosted model takes a history in its own form: the system's text by itself, and messages of a
user and an assistant who speak in turn.  The answers to the calls of one turn travel together, so
a round becomes two messages, the turn and one message of the user with an answer to each call
(`Round.hosted`), and a history of complete rounds becomes the task and the messages of its rounds
(`Hosted.Conversion.ofMessages_rounds`).

Such messages are *well formed* (`Hosted.WellFormed`): the speakers alternate, the user speaks first
and last, every turn of the assistant calls tools and is answered at once, call by call and with
what the history says of it, and there are no other answers.  The agent's step is taken at
boundaries whose history is complete rounds, and **so whatever is submitted to the hosted model in a
conversation is well formed** (`Boundary.submissions_wellFormed`).
-/

namespace WebPilot

set_option autoImplicit false

namespace Hosted

/-! ## Calls and answers in messages -/

/-- The id of the call that the block is, if it is one. -/
def Block.callId? : Block → Option String
  | toolUse id _ _ => some id
  | _ => none

/-- The answer that the block is, if it is one: the id of its call, its text, and whether it says
that the call failed. -/
def Block.result? : Block → Option (String × String × Bool)
  | toolResult id content isError => some (id, content, isError)
  | _ => none

namespace HostedMessage

/-- The blocks of the message. -/
def blocks (m : HostedMessage) : List Block :=
  match m.content with
  | .text _ => []
  | .blocks blocks => blocks

/-- The ids of the calls in the message, in order. -/
def callIds (m : HostedMessage) : List String :=
  m.blocks.filterMap Block.callId?

/-- The answers in the message, in order. -/
def results (m : HostedMessage) : List (String × String × Bool) :=
  m.blocks.filterMap Block.result?

/-- The message is one of the user that holds answers to the calls of a turn, in their order, and
nothing else. -/
structure Answers (m turn : HostedMessage) : Prop where
  speaker : m.speaker = .user
  content : m.content = .blocks (m.results.map fun (id, content, isError) =>
    .toolResult id content isError)
  ids : m.results.map Prod.fst = turn.callIds

end HostedMessage

/-- What a tool message of the history says: the id of the call, the text, and whether the call
failed. -/
def saidOf (m : Message) : String × String × Bool :=
  (m.toolCallId.getD "", m.body, m.isError)

/-- The messages are those of a conversation with this history: speakers in turn, every turn of the
assistant with its calls answered at once, and no answers but these. -/
structure WellFormed (history : List Message) (messages : List HostedMessage) : Prop where
  opens : messages.head?.map HostedMessage.speaker = some .user
  closes : messages.getLast?.map HostedMessage.speaker = some .user
  alternates : messages.IsChain fun m next => m.speaker ≠ next.speaker
  answered : ∀ i turn, messages[i]? = some turn → turn.speaker = .assistant →
    turn.callIds ≠ [] ∧ ∃ next, messages[i + 1]? = some next ∧ next.Answers turn
  /-- Answers stand right behind a turn of the assistant. -/
  nowhereElse : ∀ i m, messages[i]? = some m → m.results ≠ [] →
    ∃ j turn, i = j + 1 ∧ messages[j]? = some turn ∧ turn.speaker = .assistant
  /-- The answers, in order, say what the tool messages of the history say. -/
  recorded : messages.flatMap HostedMessage.results =
    (history.filter (·.role = .tool)).map saidOf

/-! ## Converting rounds -/

theorem filterMap_result?_answerBlock (answers : List Message) :
    (answers.map answerBlock).filterMap Block.result? = answers.map saidOf := by
  induction answers with
  | nil => rfl
  | cons m answers ih => simp only [List.map_cons, List.filterMap_cons, ih, answerBlock,
      Block.result?, saidOf]

namespace Conversion

/-- Answers that follow answers travel with them. -/
theorem convertFrom_join {answers : List Message} (replies : ∀ m ∈ answers, Replies m)
    {results : List Block} (only : results.all Block.isToolResult = true)
    (converted : List HostedMessage) (rest : List Message) :
    convertFrom (converted ++ [⟨.user, .blocks results⟩]) (answers ++ rest) =
      convertFrom (converted ++ [⟨.user, .blocks (results ++ answers.map answerBlock)⟩]) rest := by
  induction answers generalizing results with
  | nil => simp
  | cons m answers ih =>
      obtain ⟨first, others⟩ := List.forall_mem_cons.mp replies
      have longer : (results ++ [answerBlock m]).all Block.isToolResult = true := by
        simp [only, isToolResult_answerBlock]
      simp only [List.cons_append, convertFrom, first.1, first.resultBlock, addResult_join only]
      rw [ih others longer]
      simp

/-- The answers to a turn of the assistant are one message. -/
theorem convertFrom_answers {answers : List Message} (replies : ∀ m ∈ answers, Replies m)
    (nonempty : answers ≠ []) {turn : HostedMessage} (speaks : turn.speaker = .assistant)
    (converted : List HostedMessage) (rest : List Message) :
    convertFrom (converted ++ [turn]) (answers ++ rest) =
      convertFrom (converted ++ [turn, ⟨.user, .blocks (answers.map answerBlock)⟩]) rest := by
  cases answers with
  | nil => exact absurd rfl nonempty
  | cons m answers =>
      obtain ⟨first, others⟩ := List.forall_mem_cons.mp replies
      have only : [answerBlock m].all Block.isToolResult = true := rfl
      have none : (converted ++ [turn]).getLast?.bind HostedMessage.results? = none := by
        simp [HostedMessage.results?, speaks]
      simp only [List.cons_append, convertFrom, first.1, first.resultBlock, addResult_start none]
      rw [convertFrom_join others only]
      simp

end Conversion

end Hosted

open Hosted

namespace Round

/-- The message of the user that the answers of a round travel in. -/
def hostedAnswers (r : Round) : HostedMessage :=
  ⟨.user, .blocks (r.answers.map answerBlock)⟩

/-- The messages that a round becomes. -/
def hosted (r : Round) : List HostedMessage :=
  [Conversion.assistantMessage r.turn, r.hostedAnswers]

variable {r : Round} {rounds : List Round}

theorem Complete.replies (complete : r.Complete) : ∀ m ∈ r.answers, Conversion.Replies m := by
  intro m member
  have listed := List.mem_map_of_mem (f := fun m : Message => (m.role, m.toolCallId)) member
  rw [complete.answers] at listed
  obtain ⟨call, _, same⟩ := List.mem_map.mp listed
  obtain ⟨role, id⟩ := Prod.mk.inj same
  exact ⟨role.symm, call.id, id.symm⟩

theorem Complete.answers_ne_nil (complete : r.Complete) : r.answers ≠ [] := by
  intro none
  have length := complete.length
  rw [none] at length
  exact complete.calls (List.length_eq_zero_iff.mp length.symm)

/-- A complete round becomes two messages. -/
theorem Complete.convertFrom (complete : r.Complete) (converted : List HostedMessage)
    (rest : List Message) :
    Conversion.convertFrom converted (r.messages ++ rest) =
      Conversion.convertFrom (converted ++ r.hosted) rest := by
  have speaks : (Conversion.assistantMessage r.turn).speaker = .assistant := rfl
  have answers := Conversion.convertFrom_answers complete.replies complete.answers_ne_nil speaks
    converted rest
  simp only [messages, List.cons_append, Conversion.convertFrom, complete.speaks]
  exact answers

theorem convertFrom_messages (complete : ∀ r ∈ rounds, r.Complete)
    (converted : List HostedMessage) :
    Conversion.convertFrom converted (rounds.flatMap messages) =
      .ok (converted ++ rounds.flatMap hosted) := by
  induction rounds generalizing converted with
  | nil => simp [Conversion.convertFrom]
  | cons r rounds ih =>
      obtain ⟨first, others⟩ := List.forall_mem_cons.mp complete
      rw [List.flatMap_cons, first.convertFrom, ih others, List.flatMap_cons, List.append_assoc]

/-- In rounds the system says nothing. -/
theorem filter_system (complete : ∀ r ∈ rounds, r.Complete) :
    (rounds.flatMap messages).filter (fun m => m.role = .system ∧ !m.body.isEmpty) = [] := by
  refine List.filter_eq_nil_iff.mpr fun m member => ?_
  obtain ⟨r, inside, member⟩ := List.mem_flatMap.mp member
  rcases List.mem_cons.mp member with rfl | answer
  · simp [(complete r inside).speaks]
  · simp [(complete r inside).role answer]

/-! ## Rounds as messages -/

/-- The blocks of the first message: what the turn says, if anything, and its calls. -/
theorem blocks_assistantMessage (turn : Message) :
    (Conversion.assistantMessage turn).blocks =
      (if turn.body.isEmpty then [] else [Block.text turn.body]) ++
        turn.calls.map Block.ofCall := by
  unfold Conversion.assistantMessage HostedMessage.blocks
  generalize _ ++ turn.calls.map Block.ofCall = blocks
  cases blocks <;> rfl

/-- The calls in the first message of a round are the calls of its turn. -/
theorem callIds_assistantMessage (turn : Message) :
    (Conversion.assistantMessage turn).callIds = turn.calls.map ToolCall.id := by
  have calls (calls : List ToolCall) :
      (calls.map Block.ofCall).filterMap Block.callId? = calls.map ToolCall.id := by
    induction calls with
    | nil => rfl
    | cons call calls ih =>
        simp only [List.map_cons, List.filterMap_cons, ih, Block.ofCall, Block.callId?]
  rw [HostedMessage.callIds, blocks_assistantMessage, List.filterMap_append, calls]
  cases turn.body.isEmpty <;> rfl

/-- A turn of the assistant holds no answers. -/
theorem results_assistantMessage (turn : Message) :
    (Conversion.assistantMessage turn).results = [] := by
  have calls (calls : List ToolCall) : (calls.map Block.ofCall).filterMap Block.result? = [] := by
    induction calls with
    | nil => rfl
    | cons call calls ih =>
        simp only [List.map_cons, List.filterMap_cons, ih, Block.ofCall, Block.result?]
  rw [HostedMessage.results, blocks_assistantMessage, List.filterMap_append, calls]
  cases turn.body.isEmpty <;> rfl

/-- The answers of a round are the answers in its second message. -/
theorem results_hostedAnswers (r : Round) : r.hostedAnswers.results = r.answers.map saidOf :=
  filterMap_result?_answerBlock r.answers

/-- The second message of a round answers the first. -/
theorem Complete.hostedAnswers (complete : r.Complete) :
    r.hostedAnswers.Answers (Conversion.assistantMessage r.turn) where
  speaker := rfl
  content := by
    rw [results_hostedAnswers, List.map_map]
    rfl
  ids := by
    have ids := congrArg (List.map fun p : Role × Option String => p.2.getD "") complete.answers
    rw [List.map_map, List.map_map] at ids
    rw [results_hostedAnswers, callIds_assistantMessage, List.map_map]
    exact ids

section Messages

variable (complete : ∀ r ∈ rounds, r.Complete)

/-- After a message of the user the messages of rounds alternate. -/
theorem alternates_hosted {m : HostedMessage} (speaks : m.speaker = .user) :
    (m :: rounds.flatMap hosted).IsChain fun m next => m.speaker ≠ next.speaker := by
  induction rounds generalizing m with
  | nil => exact .singleton m
  | cons r rounds ih =>
      simp only [List.flatMap_cons, hosted, List.cons_append, List.nil_append]
      refine .cons_cons ?_ (.cons_cons ?_ (ih rfl))
      · simp [speaks, Conversion.assistantMessage]
      · simp [Conversion.assistantMessage, Round.hostedAnswers]

/-- After a message of the user the last message of rounds is one of the user. -/
theorem closes_hosted {m : HostedMessage} (speaks : m.speaker = .user) :
    (m :: rounds.flatMap hosted).getLast?.map HostedMessage.speaker = some .user := by
  induction rounds generalizing m with
  | nil => simp [speaks]
  | cons r rounds ih =>
      have later := ih (m := r.hostedAnswers) rfl
      simpa [List.flatMap_cons, hosted, List.getLast?_cons_cons] using later

include complete

/-- Every turn in the messages of rounds calls tools and is answered by the next message. -/
theorem answered_hosted {i : Nat} {turn : HostedMessage}
    (there : (rounds.flatMap hosted)[i]? = some turn) (speaks : turn.speaker = .assistant) :
    turn.callIds ≠ [] ∧
      ∃ next, (rounds.flatMap hosted)[i + 1]? = some next ∧ next.Answers turn := by
  induction rounds generalizing i with
  | nil => simp at there
  | cons r rounds ih =>
      obtain ⟨first, others⟩ := List.forall_mem_cons.mp complete
      simp only [List.flatMap_cons, hosted, List.cons_append, List.nil_append] at there ⊢
      match i with
      | 0 =>
          obtain rfl := Option.some.inj there
          refine ⟨?_, r.hostedAnswers, rfl, first.hostedAnswers⟩
          rw [callIds_assistantMessage]
          exact fun none => first.calls (List.map_eq_nil_iff.mp none)
      | 1 =>
          obtain rfl := Option.some.inj there
          cases speaks
      | i + 2 => exact ih others there

/-- Answers in the messages of rounds stand right behind a turn. -/
theorem nowhereElse_hosted {i : Nat} {m : HostedMessage}
    (there : (rounds.flatMap hosted)[i]? = some m) (carries : m.results ≠ []) :
    ∃ j turn, i = j + 1 ∧ (rounds.flatMap hosted)[j]? = some turn ∧
      turn.speaker = .assistant := by
  induction rounds generalizing i with
  | nil => simp at there
  | cons r rounds ih =>
      simp only [List.flatMap_cons, hosted, List.cons_append, List.nil_append] at there ⊢
      match i with
      | 0 =>
          obtain rfl := Option.some.inj there
          exact absurd (results_assistantMessage r.turn) carries
      | 1 => exact ⟨0, _, rfl, rfl, rfl⟩
      | i + 2 =>
          obtain ⟨j, turn, rfl, before, speaks⟩ :=
            ih (List.forall_mem_cons.mp complete).2 there
          exact ⟨j + 2, turn, rfl, before, speaks⟩

end Messages

/-- The answers in the messages of rounds are the answers of the rounds. -/
theorem recorded_hosted (rounds : List Round) :
    (rounds.flatMap hosted).flatMap HostedMessage.results = (allAnswers rounds).map saidOf := by
  induction rounds with
  | nil => rfl
  | cons r rounds ih =>
      simp only [List.flatMap_cons, hosted, List.cons_append, List.nil_append,
        results_assistantMessage, results_hostedAnswers, allAnswers, List.map_append] at ih ⊢
      rw [ih]

end Round

/-! ## Histories of rounds -/

/-- The history of a task and rounds. -/
def Round.history (task : String) (rounds : List Round) : List Message :=
  [Message.system systemPrompt, Message.user task] ++ rounds.flatMap Round.messages

variable {task : String} {rounds : List Round}

/-- **A history of complete rounds becomes the task and the messages of the rounds.** -/
theorem Hosted.Conversion.ofMessages_rounds (complete : ∀ r ∈ rounds, r.Complete)
    (task : String) :
    ofMessages (Round.history task rounds) =
      .ok ⟨systemPrompt, ⟨.user, .text task⟩ :: rounds.flatMap Round.hosted⟩ := by
  have converted := Round.convertFrom_messages complete [⟨.user, .text task⟩]
  have visible : systemPrompt ≠ "" := by decide +kernel
  have system : systemText (Round.history task rounds) = systemPrompt := by
    rw [systemText, Round.history, List.filter_append, Round.filter_system complete]
    simp [Message.system, Message.user, Message.body, visible]
  have walk : convertFrom [] (Round.history task rounds) =
      convertFrom [⟨.user, .text task⟩] (rounds.flatMap Round.messages) := rfl
  simp only [ofMessages, walk, converted, system]
  rfl

/-- Its messages are well formed. -/
theorem Hosted.wellFormed_rounds (complete : ∀ r ∈ rounds, r.Complete) (task : String) :
    WellFormed (Round.history task rounds)
      (⟨.user, .text task⟩ :: rounds.flatMap Round.hosted) where
  opens := rfl
  closes := Round.closes_hosted rfl
  alternates := Round.alternates_hosted rfl
  answered i turn there speaks := by
    match i with
    | 0 =>
        obtain rfl := Option.some.inj there
        cases speaks
    | i + 1 => exact Round.answered_hosted complete there speaks
  nowhereElse i m there carries := by
    match i with
    | 0 =>
        obtain rfl := Option.some.inj there
        exact absurd rfl carries
    | i + 1 =>
        obtain ⟨j, turn, rfl, before, speaks⟩ := Round.nowhereElse_hosted complete there carries
        exact ⟨j + 1, turn, rfl, before, speaks⟩
  recorded := by
    have answers : (Round.history task rounds).filter (·.role = .tool) =
        Round.allAnswers rounds := by
      rw [Round.history, List.filter_append, Round.filter_tool complete]
      rfl
    rw [answers, List.flatMap_cons, Round.recorded_hosted]
    rfl

namespace Boundary

variable {rt : Runtime} {s : Surroundings} {w : World} {b : Boundary}

/-- Before the agent's step the history can be converted, into well-formed messages. -/
theorem reached_wellFormed (reached : Reached rt s task w b) (next : b.next = some .agent) :
    ∃ messages, Conversion.ofMessages b.state.messages = .ok ⟨systemPrompt, messages⟩ ∧
      WellFormed b.state.messages messages := by
  obtain ⟨rounds, last?, shape, _⟩ := reached_shape reached
  have history : b.state.messages = Round.history task rounds := by
    rw [shape.messages, shape.closed (.inl next), Option.toList_none, List.append_nil,
      Round.history]
  rw [history]
  exact ⟨_, Conversion.ofMessages_rounds shape.complete task,
    wellFormed_rounds shape.complete task⟩

/-- **Whatever is submitted in a conversation is well formed.**  Wherever the agent's step is taken,
the history can be converted into the text of the system and well-formed messages; and whatever the
conversation submits to the hosted model is such a history, as it stands before a step of the
agent. -/
theorem submissions_wellFormed (rt : Runtime) (s : Surroundings) (task : String) (w : World) :
    (∀ b, Reached rt s task w b → b.next = some .agent →
      ∃ messages, Conversion.ofMessages b.state.messages = .ok ⟨systemPrompt, messages⟩ ∧
        WellFormed b.state.messages messages) ∧
    ∃ new, (converse rt task s w).2.submissions = w.submissions ++ new ∧
      ∀ sub ∈ new, ∃ b, Reached rt s task w b ∧ b.next = some .agent ∧
        Conversion.ofMessages b.state.messages = .ok ⟨sub.system, sub.messages⟩ ∧
        sub.system = systemPrompt ∧ WellFormed b.state.messages sub.messages := by
  refine ⟨fun b reached next => reached_wellFormed reached next, ?_⟩
  rcases run : converse rt task s w with ⟨outcome, w'⟩
  obtain ⟨last, reached, ends⟩ := converse_ends run
  obtain ⟨new, grown, all⟩ := (ends_asked reached ends).submissions
  refine ⟨new, grown, fun sub member => ?_⟩
  obtain ⟨b, reached, next, converted⟩ := all sub member
  obtain ⟨messages, same, wellFormed⟩ := reached_wellFormed reached next
  have both : Conversion.mk sub.system sub.messages = ⟨systemPrompt, messages⟩ :=
    Except.ok.inj (converted.symm.trans same)
  obtain ⟨system, rfl⟩ := Conversion.mk.inj both
  exact ⟨b, reached, next, converted, system, wellFormed⟩

end Boundary

end WebPilot
