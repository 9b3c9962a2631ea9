import Mathlib.Data.List.Nodup
import WebPilot.Proofs.Conversation.Rounds

/-!
# What a conversation learns

A call of the assistant and the tool message that answers it are an *exchange*: the message names
the call by its id, among the calls of the nearest assistant message before it
(`Message.exchanges`). In a history without stray answers the ids of a turn are distinct, so the
exchanges of a round are its calls, each with the answer that stands in its place.

**Whatever ends a conversation, the ledger has grown by the successes among the calls that it
executed, and the backend has met those of them that the catalog knows** (`conversation_learns`).
If the conversation comes to a result, all its calls were executed, and the ledger has grown by the
exchanges whose answer is no error.
-/

namespace WebPilot

set_option autoImplicit false

/-! ## Exchanges -/

namespace Message

/-- The exchanges of a history, each a call and the message that answers it, when the nearest
assistant message before has the given calls. -/
def exchanges (calls : List ToolCall) : List Message → List (ToolCall × Message)
  | [] => []
  | m :: rest =>
    match m.role with
    | .assistant => exchanges m.calls rest
    | .tool =>
      match calls.find? (fun call => m.toolCallId = some call.id) with
      | some call => (call, m) :: exchanges calls rest
      | none => exchanges calls rest
    | _ => exchanges calls rest

variable {calls asked : List ToolCall} {answers rest : List Message}

/-- The ids of calls that have their answers, one after the other, without a stray one. -/
theorem distinct_of_answered {ids : List String} {index : Nat}
    (answered : answers.map (fun m => (m.role, m.toolCallId)) =
      asked.map fun call => (Role.tool, some call.id))
    (lawful : strayFrom? (some ids) index (answers ++ rest) = none) :
    (asked.map ToolCall.id).Nodup ∧ (∀ call ∈ asked, call.id ∈ ids) ∧
      ∃ left later, strayFrom? (some left) later rest = none := by
  induction answers generalizing asked ids index with
  | nil =>
      obtain rfl : asked = [] := by simpa using answered.symm
      exact ⟨.nil, by simp, ids, index, lawful⟩
  | cons m answers ih =>
      cases asked with
      | nil => cases answered
      | cons call asked =>
          obtain ⟨head, tail⟩ := List.cons.inj answered
          obtain ⟨role, id⟩ := Prod.mk.inj head
          simp only [List.cons_append, strayFrom?, role, id, Option.getD_some] at lawful
          split at lawful
          case isFalse => cases lawful
          case isTrue isOpen =>
            obtain ⟨distinct, inside, left⟩ := ih tail lawful
            refine ⟨?_, ?_, left⟩
            · refine List.nodup_cons.mpr ⟨fun again => ?_, distinct⟩
              obtain ⟨other, member, same⟩ := List.mem_map.mp again
              have := (List.mem_filter.mp (inside other member)).2
              simp [same] at this
            · refine List.forall_mem_cons.mpr ⟨by simpa using isOpen, fun other member => ?_⟩
              exact (List.mem_filter.mp (inside other member)).1

/-- A call is found by its id among calls with distinct ids. -/
theorem find?_id (distinct : (calls.map ToolCall.id).Nodup) {call : ToolCall}
    (member : call ∈ calls) :
    calls.find? (fun other => some call.id = some other.id) = some call := by
  induction calls with
  | nil => cases member
  | cons first rest ih =>
      obtain ⟨fresh, distinct⟩ := List.nodup_cons.mp distinct
      rcases List.mem_cons.mp member with rfl | later
      · exact List.find?_cons_of_pos (by simp)
      · have other : call.id ≠ first.id := fun same =>
          fresh (same ▸ List.mem_map_of_mem later)
        rw [List.find?_cons_of_neg (by simpa using other)]
        exact ih distinct later

/-- Answers in the order of their calls are exchanged with them. -/
theorem exchanges_answers (distinct : (calls.map ToolCall.id).Nodup)
    (inside : ∀ call ∈ asked, call ∈ calls)
    (answered : answers.map (fun m => (m.role, m.toolCallId)) =
      asked.map fun call => (Role.tool, some call.id)) :
    exchanges calls (answers ++ rest) = asked.zip answers ++ exchanges calls rest := by
  induction answers generalizing asked with
  | nil =>
      obtain rfl : asked = [] := by simpa using answered.symm
      rfl
  | cons m answers ih =>
      cases asked with
      | nil => cases answered
      | cons call asked =>
          obtain ⟨head, tail⟩ := List.cons.inj answered
          obtain ⟨role, id⟩ := Prod.mk.inj head
          obtain ⟨first, inside⟩ := List.forall_mem_cons.mp inside
          simp only [List.cons_append, exchanges, role, id, find?_id distinct first,
            List.zip_cons_cons]
          rw [ih inside tail]

end Message

/-! ## The calls of a history -/

namespace ConversationResult

theorem callsOf_append (messages more : List Message) :
    callsOf (messages ++ more) = callsOf messages ++ callsOf more := by
  simp only [callsOf, List.filter_append, List.flatMap_append]

/-- Answers call nothing. -/
theorem callsOf_answers {answers : List Message} (silent : ∀ m ∈ answers, m.role = .tool) :
    callsOf answers = [] := by
  rw [callsOf, List.filter_eq_nil_iff.mpr]
  · rfl
  · intro m member
    simp [silent m member]

end ConversationResult

/-! ## Exchanges of rounds -/

namespace Round

variable {r : Round} {rounds : List Round} {rest : List Message}

/-- The exchanges of rounds: each call with the answer in its place. -/
def allExchanges (rounds : List Round) : List (ToolCall × Message) :=
  rounds.flatMap fun r => r.turn.calls.zip r.answers

theorem Complete.length (complete : r.Complete) : r.answers.length = r.turn.calls.length := by
  simpa using congrArg List.length complete.answers

theorem Complete.role (complete : r.Complete) {m : Message} (member : m ∈ r.answers) :
    m.role = .tool := by
  have listed := List.mem_map_of_mem (f := fun m : Message => (m.role, m.toolCallId)) member
  rw [complete.answers] at listed
  obtain ⟨_, _, same⟩ := List.mem_map.mp listed
  exact (congrArg Prod.fst same).symm

/-- In a history without stray answers the calls of a round have distinct ids. -/
theorem distinct_of_lawful (complete : ∀ r ∈ rounds, r.Complete) {open? : Option (List String)}
    {index : Nat} (lawful : strayFrom? open? index (rounds.flatMap messages ++ rest) = none) :
    ∀ r ∈ rounds, (r.turn.calls.map ToolCall.id).Nodup := by
  induction rounds generalizing open? index with
  | nil => simp
  | cons r rounds ih =>
      obtain ⟨first, complete⟩ := List.forall_mem_cons.mp complete
      simp only [List.flatMap_cons, messages, List.cons_append, List.append_assoc, strayFrom?,
        first.speaks] at lawful
      obtain ⟨distinct, _, left, later, lawful⟩ :=
        Message.distinct_of_answered first.answers lawful
      exact List.forall_mem_cons.mpr ⟨distinct, ih complete lawful⟩

/-- The exchanges of a history of rounds are those of the rounds. -/
theorem exchanges_messages (complete : ∀ r ∈ rounds, r.Complete)
    (distinct : ∀ r ∈ rounds, (r.turn.calls.map ToolCall.id).Nodup) (calls : List ToolCall)
    (rest : List Message) :
    ∃ last, Message.exchanges calls (rounds.flatMap messages ++ rest) =
      allExchanges rounds ++ Message.exchanges last rest := by
  induction rounds generalizing calls with
  | nil => exact ⟨calls, rfl⟩
  | cons r rounds ih =>
      obtain ⟨first, complete⟩ := List.forall_mem_cons.mp complete
      obtain ⟨apart, distinct⟩ := List.forall_mem_cons.mp distinct
      obtain ⟨last, later⟩ := ih complete distinct r.turn.calls
      refine ⟨last, ?_⟩
      simp only [List.flatMap_cons, messages, List.cons_append, List.append_assoc,
        Message.exchanges, first.speaks, allExchanges]
      rw [Message.exchanges_answers apart (fun _ member => member) first.answers, later]
      rfl

/-- Each call of the rounds is in one exchange, in order. -/
theorem map_fst_allExchanges (complete : ∀ r ∈ rounds, r.Complete) :
    (allExchanges rounds).map Prod.fst = allCalls rounds := by
  induction rounds with
  | nil => rfl
  | cons r rounds ih =>
      obtain ⟨first, complete⟩ := List.forall_mem_cons.mp complete
      simp only [allExchanges, allCalls, List.flatMap_cons, List.map_append] at ih ⊢
      rw [ih complete, List.map_fst_zip (Nat.le_of_eq first.length.symm)]

/-- Each answer of the rounds is in one exchange, in order. -/
theorem map_snd_allExchanges (complete : ∀ r ∈ rounds, r.Complete) :
    (allExchanges rounds).map Prod.snd = allAnswers rounds := by
  induction rounds with
  | nil => rfl
  | cons r rounds ih =>
      obtain ⟨first, complete⟩ := List.forall_mem_cons.mp complete
      simp only [allExchanges, allAnswers, List.flatMap_cons, List.map_append] at ih ⊢
      rw [ih complete, List.map_snd_zip (Nat.le_of_eq first.length)]

/-- The tool messages of a history of rounds are their answers. -/
theorem filter_tool (complete : ∀ r ∈ rounds, r.Complete) :
    (rounds.flatMap messages).filter (·.role = .tool) = allAnswers rounds := by
  induction rounds with
  | nil => rfl
  | cons r rounds ih =>
      obtain ⟨first, complete⟩ := List.forall_mem_cons.mp complete
      have answers : r.answers.filter (·.role = .tool) = r.answers :=
        List.filter_eq_self.mpr fun m member => by simp [first.role member]
      simp [List.flatMap_cons, messages, allAnswers, first.speaks, answers, ih complete]

/-- The calls of a history of rounds are those of the rounds. -/
theorem callsOf_messages (complete : ∀ r ∈ rounds, r.Complete) :
    ConversationResult.callsOf (rounds.flatMap messages) = allCalls rounds := by
  induction rounds with
  | nil => rfl
  | cons r rounds ih =>
      obtain ⟨first, complete⟩ := List.forall_mem_cons.mp complete
      have turn : ConversationResult.callsOf [r.turn] = r.turn.calls := by
        simp [ConversationResult.callsOf, first.speaks]
      have answers : ConversationResult.callsOf r.answers = [] :=
        ConversationResult.callsOf_answers fun m member => first.role member
      rw [List.flatMap_cons, messages, ← List.singleton_append, ConversationResult.callsOf_append,
        ConversationResult.callsOf_append, turn, answers, ih complete, List.append_nil]
      rfl

end Round

/-! ## Successes -/

/-- Successes among exchanges: the calls whose answers are no errors, with the texts of these. -/
def Message.successes (pairs : List (ToolCall × Message)) : List (String × Fields × String) :=
  (pairs.filter fun p => !p.2.isError).map fun p => (p.1.name, p.1.arguments, p.2.body)

/-- What is kept of executed calls is what their answers say is no error. -/
theorem Executed.filterMap_kept? (executed : List Executed) :
    executed.filterMap Executed.kept? =
      Message.successes ((executed.map Executed.call).zip (executed.map Executed.message)) := by
  induction executed with
  | nil => rfl
  | cons e rest ih =>
      cases failed : (e.reception.told e.call.name).failed with
      | true =>
          simpa [Executed.kept?, Reception.success?_eq e.call.name, failed, Message.successes,
            Executed.message] using ih
      | false =>
          simpa [Executed.kept?, Reception.success?_eq e.call.name, failed, Message.successes,
            Executed.message, Message.body] using ih

/-! ## What is executed -/

namespace Boundary

variable {rt : Runtime} {s : Surroundings} {task : String} {w w' : World} {b : Boundary}
  {rounds : List Round} {last? : Option Message}

/-- The calls of a history: those of its rounds, and those that wait. -/
theorem Shape.callsOf (shape : Shape task b rounds last?) :
    ConversationResult.callsOf b.state.messages = Round.allCalls rounds ++ b.state.pending := by
  have opening : ConversationResult.callsOf
      [Message.system systemPrompt, Message.user task] = [] := rfl
  rw [shape.messages, shape.pending, ConversationResult.callsOf_append,
    ConversationResult.callsOf_append, opening, Round.callsOf_messages shape.complete]
  cases last? with
  | none => rfl
  | some turn => simp [ConversationResult.callsOf, shape.speaks turn rfl]

/-- At the end nothing waits. -/
theorem Shape.settled (shape : Shape task b rounds last?) (ended : b.next = none) :
    b.state.pending = [] := by
  by_contra waiting
  have processing := shape.phase.mpr waiting
  rw [shape.ended ended] at processing
  cases processing

/-- Where no answer is stray, the exchanges of a history are those of its rounds. -/
theorem Shape.exchanges (shape : Shape task b rounds last?)
    (answered : firstStray? b.state.messages = none) :
    Message.exchanges [] b.state.messages = Round.allExchanges rounds := by
  have messages : b.state.messages = Message.system systemPrompt :: Message.user task ::
      (rounds.flatMap Round.messages ++ last?.toList) := by simp [shape.messages]
  rw [messages] at answered ⊢
  have distinct := Round.distinct_of_lawful shape.complete
    (show strayFrom? none 2 (rounds.flatMap Round.messages ++ last?.toList) = none from answered)
  obtain ⟨left, exchanged⟩ := Round.exchanges_messages shape.complete distinct [] last?.toList
  have last : Message.exchanges left last?.toList = [] := by
    cases last? with
    | none => rfl
    | some turn => simp [Message.exchanges, shape.speaks turn rfl]
  rw [last, List.append_nil] at exchanged
  exact exchanged

/-- The tool messages of a history are the answers of its rounds. -/
theorem Shape.filter_tool (shape : Shape task b rounds last?) :
    b.state.messages.filter (·.role = .tool) = Round.allAnswers rounds := by
  rw [shape.messages, List.filter_append, List.filter_append, Round.filter_tool shape.complete]
  cases last? with
  | none => simp [Message.system, Message.user]
  | some turn => simp [Message.system, Message.user, shape.speaks turn rfl]

/-- **A conversation executes some first of its calls, in order, and all of them if it comes to its
end.** -/
theorem converse_executes {outcome : Except Failure ConversationResult}
    (run : converse rt task s w = (outcome, w')) :
    ∃ b calls, Reached rt s task w b ∧ Ends rt s b outcome w' ∧
      calls <+: ConversationResult.callsOf b.state.messages ∧
      (b.next = none → calls = ConversationResult.callsOf b.state.messages) ∧
      rt.session.Executes w calls w' ∧
        ∀ call ∈ calls, call.Shown (rt.session.room .line) := by
  obtain ⟨b, reached, ends⟩ := converse_ends run
  obtain ⟨rounds, last?, shape, backed⟩ := reached_shape reached
  have first : Round.allCalls rounds <+: ConversationResult.callsOf b.state.messages :=
    ⟨b.state.pending, shape.callsOf.symm⟩
  have all (ended : b.next = none) :
      Round.allCalls rounds = ConversationResult.callsOf b.state.messages := by
    rw [shape.callsOf, shape.settled ended, List.append_nil]
  cases ends with
  | returned answered =>
      exact ⟨_, _, reached, .returned answered, first, all, backed.executes, backed.shown⟩
  | stopped failure =>
      exact ⟨_, _, reached, .stopped failure, first, all, backed.executes, backed.shown⟩
  | @aborted node state v _ failure aborts =>
      cases node with
      | agent =>
          have same := ((agentStep_unasked rt state).run aborts).worked_of_unasked
          exact ⟨_, _, reached, .aborted aborts, first, all, backed.executes.same_right same,
            backed.shown⟩
      | tools =>
          rcases toolsStep_cases aborts with ⟨_, impossible, _⟩ | ⟨_, _, broken⟩
          · cases impossible
          · obtain ⟨done, rest, split, executes, shown⟩ := broken
            refine ⟨_, Round.allCalls rounds ++ done, reached, .aborted aborts, ?_, ?_,
              backed.executes.append executes, ?_⟩
            · refine ⟨rest, ?_⟩
              rw [shape.callsOf, split, List.append_assoc]
            · intro ended
              cases ended
            · exact fun call member =>
                (List.mem_append.mp member).elim (backed.shown call) (shown call)
      | limit => cases limitStep_eq aborts

/-- The exchanges of a result are its calls with the answers that its tool messages are, and the
successes among the executed calls are those among the exchanges. -/
theorem Shape.exchanged (shape : Shape task b rounds last?) (backed : Backed rt w b rounds)
    (answered : firstStray? b.state.messages = none) :
    (Message.exchanges [] b.state.messages).map Prod.snd =
        b.state.messages.filter (·.role = .tool) ∧
      (rt.session.executed w.events (Round.allCalls rounds)).filterMap Executed.kept? =
        Message.successes (Message.exchanges [] b.state.messages) := by
  have pairs := shape.exchanges answered
  have calls := Round.map_fst_allExchanges shape.complete
  have answers := Round.map_snd_allExchanges shape.complete
  refine ⟨by rw [pairs, answers, shape.filter_tool], ?_⟩
  rw [Executed.filterMap_kept?, rt.session.map_call_executed, ← backed.answers, pairs,
    List.zip_of_prod calls answers]

/-- A conversation that ends at a boundary has executed these calls, the first of those that its
messages ask for, and has learned these invocations. -/
structure Learned (rt : Runtime) (s : Surroundings) (task : String) (w : World) (b : Boundary)
    (calls : List ToolCall) (recorded : List Invocation) : Prop where
  reached : Reached rt s task w b
  ends : Ends rt s b (converse rt task s w).1 (converse rt task s w).2
  first : calls <+: ConversationResult.callsOf b.state.messages
  ledger : (converse rt task s w).2.ledger.invocations = w.ledger.invocations ++ recorded
  /-- What it has learned are the successes among the calls. -/
  successes : recorded.map Invocation.content =
    (rt.session.executed w.events calls).filterMap Executed.kept?
  /-- The backend has met the calls in order. -/
  events : (converse rt task s w).2.events = rt.session.historyAfter w.events calls
  /-- It logs those that the catalog knows. -/
  logged : rt.session.backend.Logs →
    Event.logged (converse rt task s w).2.events = Event.logged w.events ++
      (calls.filter fun call => rt.session.knows call.name).map
        fun call => (call.name, call.arguments)
  /-- A result has all the calls, with their answers, and the successes among these are what was
  learned. -/
  result : ∀ result, (converse rt task s w).1 = .ok result →
    calls = ConversationResult.callsOf result.messages ∧
      (Message.exchanges [] result.messages).map Prod.snd =
        result.messages.filter (·.role = .tool) ∧
      recorded.map Invocation.content = Message.successes (Message.exchanges [] result.messages)

/-- **A conversation learns its successes and nothing else**, however it ends. -/
theorem conversation_learns (rt : Runtime) (s : Surroundings) (task : String) (w : World) :
    ∃ b calls recorded, Learned rt s task w b calls recorded := by
  rcases run : converse rt task s w with ⟨outcome, w'⟩
  obtain ⟨b, calls, reached, ends, first, all, executes, _⟩ := converse_executes run
  obtain ⟨recorded, grown, kept⟩ := executes.ledger
  have outcome' : (converse rt task s w).1 = outcome := congrArg Prod.fst run
  have world : (converse rt task s w).2 = w' := congrArg Prod.snd run
  refine ⟨b, calls, recorded, ?_⟩
  constructor
  case reached => exact reached
  case ends => rwa [outcome', world]
  case first => exact first
  case ledger => rwa [world]
  case successes => exact kept
  case events => rw [world, executes.events]
  case logged =>
    intro logs
    rw [world, executes.events]
    exact Session.logged_historyAfter logs w.events calls
  case result =>
    intro result returned
    obtain rfl : outcome = .ok result := outcome'.symm.trans returned
    obtain ⟨rounds, last?, shape, backed⟩ := reached_shape reached
    cases ends with
    | returned answered =>
        obtain ⟨answers, successes⟩ := shape.exchanged backed answered
        have whole : calls = Round.allCalls rounds := by
          rw [all rfl, shape.callsOf, shape.settled rfl, List.append_nil]
        refine ⟨all rfl, answers, ?_⟩
        rw [kept, whole]
        exact successes

end Boundary

end WebPilot
