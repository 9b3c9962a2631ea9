import WebPilot.Proofs.Conversation.Learning
import WebPilot.Proofs.Conversation.Replies
import WebPilot.Proofs.Ledger.Keeping

/-!
# The transcript tells the history

The history, the transcript and the counters of a conversation are kept apart: messages and lines
are added, the counters are overwritten, and each kind of step does its own part.  What the
transcript should say can be read off the history alone (`historyLines?`): for each message of the
assistant its text, and then its calls, counted from one on, with their arguments and the answers to
them.

At every boundary the transcript has the lines of the rounds and of the last turn, the turns are the
replies that the model gave, and the counters count these (`Boundary.Accounted`).  One step keeps
this account (`Boundary.Advance.accounts`).  In a history without stray answers the first answer to
a call is the one in its place, and so **the transcript and the totals of a result are a projection
of its history** (`Boundary.conversation_transcribed`).
-/

namespace WebPilot

set_option autoImplicit false

/-! ## The lines of a history -/

/-- The line for the text of a message, if it has one. -/
def Message.speech (m : Message) : List String :=
  if m.body.isEmpty then [] else [s!"Assistant: {m.body}"]

/-- The lines for calls and their answers, the first of them being number `number` of the run; none
if the arguments of one cannot be shown where there is so much room. -/
def exchangeLines? (room number : Nat) : List (ToolCall × Message) → Option (List String)
  | [] => some []
  | (call, answer) :: rest =>
    match call.argumentText room, exchangeLines? room (number + 1) rest with
    | .ok arguments, some lines =>
      some ([s!"Tool {number}: {call.name}", s!"Arguments: {arguments}",
        s!"Result: {answer.body}"] ++ lines)
    | _, _ => none

/-- The first of the messages that answers the call. -/
def ToolCall.answer? (call : ToolCall) (messages : List Message) : Option Message :=
  messages.find? fun m => m.role = .tool ∧ m.toolCallId = some call.id

/-- Calls with their answers among the messages that follow; none if one is not answered. -/
def answered? (later : List Message) : List ToolCall → Option (List (ToolCall × Message))
  | [] => some []
  | call :: calls =>
    match call.answer? later, answered? later calls with
    | some answer, some pairs => some ((call, answer) :: pairs)
    | _, _ => none

/-- The lines for a history, with its calls counted from `number` on: for each message of the
assistant its text, and then its calls with their answers. -/
def historyLines? (room number : Nat) : List Message → Option (List String)
  | [] => some []
  | m :: rest =>
    if m.role = .assistant then
      match (answered? rest m.calls).bind (exchangeLines? room number),
        historyLines? room (number + m.calls.length) rest with
      | some lines, some more => some (m.speech ++ lines ++ more)
      | _, _ => none
    else historyLines? room number rest

section Lines

variable {room number : Nat} {call : ToolCall} {calls : List ToolCall} {m : Message}
  {answers rest : List Message}

theorem exchangeLines?_cons {pairs : List (ToolCall × Message)} {arguments : String}
    {lines : List String} (shown : call.argumentText room = .ok arguments)
    (later : exchangeLines? room (number + 1) pairs = some lines) :
    exchangeLines? room number ((call, m) :: pairs) =
      some ([s!"Tool {number}: {call.name}", s!"Arguments: {arguments}", s!"Result: {m.body}"] ++
        lines) := by
  rw [exchangeLines?, shown, later]

/-- Where answers stand in the order of their calls, and no id is used twice, each call has the
answer in its place. -/
theorem answer?_of_mem (distinct : (calls.map ToolCall.id).Nodup)
    (answered : answers.map (fun m => (m.role, m.toolCallId)) =
      calls.map fun call => (Role.tool, some call.id))
    (member : (call, m) ∈ calls.zip answers) (rest : List Message) :
    call.answer? (answers ++ rest) = some m := by
  induction answers generalizing calls with
  | nil => simp at member
  | cons first answers ih =>
      cases calls with
      | nil => cases answered
      | cons asked calls =>
          obtain ⟨head, tail⟩ := List.cons.inj answered
          obtain ⟨role, id⟩ := Prod.mk.inj head
          obtain ⟨fresh, distinct⟩ := List.nodup_cons.mp distinct
          rcases List.mem_cons.mp member with same | later
          · cases same
            exact List.find?_cons_of_pos (by simp [role, id])
          · have inside : call.id ∈ calls.map ToolCall.id :=
              List.mem_map_of_mem (List.of_mem_zip later).1
            have other : asked.id ≠ call.id := fun same => fresh (same ▸ inside)
            rw [List.cons_append, ToolCall.answer?, List.find?_cons_of_neg (by simp [id, other])]
            exact ih distinct tail later

theorem answered?_of_forall {pairs : List (ToolCall × Message)}
    (each : ∀ call m, (call, m) ∈ pairs → call.answer? rest = some m) :
    answered? rest (pairs.map Prod.fst) = some pairs := by
  induction pairs with
  | nil => rfl
  | cons pair pairs ih =>
      obtain ⟨call, m⟩ := pair
      rw [List.map_cons, answered?, each call m List.mem_cons_self,
        ih fun call m later => each call m (List.mem_cons_of_mem _ later)]

/-- Messages that are not of the assistant show nothing. -/
theorem historyLines?_others (others : ∀ m ∈ answers, m.role ≠ .assistant) :
    historyLines? room number (answers ++ rest) = historyLines? room number rest := by
  induction answers with
  | nil => rfl
  | cons m answers ih =>
      obtain ⟨other, others⟩ := List.forall_mem_cons.mp others
      rw [List.cons_append, historyLines?, if_neg other, ih others]

end Lines

/-! ## The lines of rounds -/

namespace Round

/-- The lines of rounds, with their calls counted from a number on. -/
inductive Told (room : Nat) : Nat → List Round → List String → Prop
  | none {number : Nat} : Told room number [] []
  | first {number : Nat} {r : Round} {rounds : List Round} {lines more : List String}
      (here : exchangeLines? room number (r.turn.calls.zip r.answers) = some lines)
      (later : Told room (number + r.turn.calls.length) rounds more) :
      Told room number (r :: rounds) (r.turn.speech ++ lines ++ more)

variable {room number : Nat} {r : Round} {rounds : List Round} {lines more : List String}

theorem length_allCalls_cons (number : Nat) (r : Round) (rounds : List Round) :
    number + (allCalls (r :: rounds)).length =
      number + r.turn.calls.length + (allCalls rounds).length := by
  rw [allCalls, List.flatMap_cons, List.length_append, Nat.add_assoc]
  rfl

/-- One more round adds its lines. -/
theorem Told.concat (told : Told room number rounds lines)
    (last : exchangeLines? room (number + (allCalls rounds).length)
      (r.turn.calls.zip r.answers) = some more) :
    Told room number (rounds ++ [r]) (lines ++ (r.turn.speech ++ more)) := by
  induction told with
  | none =>
      rw [List.nil_append, List.nil_append, ← List.append_nil (_ ++ more)]
      exact .first last .none
  | first here _ ih =>
      rw [length_allCalls_cons] at last
      rw [List.cons_append, List.append_assoc]
      exact .first here (ih last)

/-- The lines of a history of rounds are those of the rounds. -/
theorem Told.history {tail : List Message} (told : Told room number rounds lines)
    (complete : ∀ r ∈ rounds, r.Complete)
    (distinct : ∀ r ∈ rounds, (r.turn.calls.map ToolCall.id).Nodup)
    (rest : historyLines? room (number + (allCalls rounds).length) tail = some more) :
    historyLines? room number (rounds.flatMap messages ++ tail) = some (lines ++ more) := by
  induction told with
  | none => exact rest
  | @first number r rounds lines later here _ ih =>
      obtain ⟨first, complete⟩ := List.forall_mem_cons.mp complete
      obtain ⟨apart, distinct⟩ := List.forall_mem_cons.mp distinct
      rw [length_allCalls_cons] at rest
      have following := ih complete distinct rest
      have others : ∀ m ∈ r.answers, m.role ≠ .assistant := by
        intro m member
        rw [first.role member]
        nofun
      have inPlace : ∀ call m, (call, m) ∈ r.turn.calls.zip r.answers →
          call.answer? (r.answers ++ (rounds.flatMap messages ++ tail)) = some m :=
        fun _ _ member => answer?_of_mem apart first.answers member _
      have pairs := answered?_of_forall inPlace
      rw [List.map_fst_zip (Nat.le_of_eq first.length.symm)] at pairs
      rw [List.flatMap_cons, messages, List.cons_append, List.cons_append, List.append_assoc,
        historyLines?, if_pos first.speaks, pairs, Option.bind_some, here,
        historyLines?_others others, following]
      simp only [List.append_assoc]

end Round

/-! ## What the steps tell -/

section Steps

variable {rt : Runtime} {s : Surroundings} {w w' : World} {number : Nat} {paused : Bool}

/-- A call that was run is told with the message that answers it. -/
theorem runCall_tells {call : ToolCall} {one : CallsResult}
    (run : runCall rt number paused call s w = (.ok one, w')) :
    ∃ answer arguments, one.answers = [answer] ∧
      call.argumentText (rt.session.room .line) = .ok arguments ∧
      one.transcript = [s!"Tool {number}: {call.name}", s!"Arguments: {arguments}",
        s!"Result: {answer.body}"] := by
  rw [runCall] at run
  obtain ⟨arguments, _, lifted, run⟩ := Act.bind_ok run
  obtain ⟨shown, rfl⟩ := Act.lift_cases lifted
  rw [Act.print_bind, Act.print_bind] at run
  obtain ⟨outcome, _, _, run⟩ := Act.bind_ok run
  simp only [Act.print_bind] at run
  obtain ⟨answer, _, lifted, run⟩ := Act.bind_ok run
  obtain ⟨answered, rfl⟩ := Act.lift_cases lifted
  obtain rfl := Message.answer_ok (Hosted.orInvalid_ok answered)
  obtain ⟨_, _, _, run⟩ := Act.bind_ok run
  cases run
  exact ⟨_, arguments, rfl, shown, rfl⟩

/-- **Calls that were run are told with their answers**, counted from the number of the first on. -/
theorem runCalls_tells {calls : List ToolCall} {result : CallsResult}
    (run : runCalls rt number paused calls s w = (.ok result, w')) :
    exchangeLines? (rt.session.room .line) number (calls.zip result.answers) =
      some result.transcript := by
  induction calls generalizing number paused result w with
  | nil =>
      cases run
      rfl
  | cons call rest ih =>
      rw [runCalls] at run
      obtain ⟨one, _, first, run⟩ := Act.bind_ok run
      obtain ⟨more, _, running, run⟩ := Act.bind_ok run
      obtain ⟨answer, arguments, answers, shown, lines⟩ := runCall_tells first
      cases run
      simp only [CallsResult.andThen, answers, lines, List.singleton_append, List.zip_cons_cons]
      exact exchangeLines?_cons shown (ih running)

/-- The tools' step tells the calls that waited, counted on from those that have been answered. -/
theorem toolsStep_tells {state : State} {update : Update}
    (run : toolsStep rt state s w = (.ok update, w')) :
    ∃ result : CallsResult, update = result.toUpdate ∧
      rt.session.Serves w state.pending result.answers w' ∧
      exchangeLines? (rt.session.room .line) (answeredCalls state.messages + 1)
        (state.pending.zip result.answers) = some result.transcript := by
  obtain ⟨result, _, running, run⟩ := Act.bind_ok run
  cases run
  exact ⟨result, rfl, runCalls_treats running, runCalls_tells running⟩

/-- What a reply adds to the transcript is the text of its message. -/
theorem speech_toMessage (reply : Reply) (state : State) :
    (replyUpdate state reply).transcript = reply.toMessage.speech := by
  unfold replyUpdate Reply.toMessage Message.speech Message.body
  cases silent : reply.content.isEmpty with
  | true => simp
  | false => simp [silent]

end Steps

/-! ## Totals -/

/-- What replies cost in all; a reply that does not say costs nothing. -/
def spent (field : Usage → Int) (replies : List Reply) : Int :=
  (replies.filterMap Reply.usage).foldl (fun sum usage => sum + field usage) 0

/-- The totals of replies. -/
def Totals.ofReplies (replies : List Reply) : Totals where
  input := spent Usage.input replies
  output := spent Usage.output replies
  cacheRead := spent Usage.cacheRead replies
  cacheCreation := spent Usage.cacheCreation replies

theorem spent_concat (field : Usage → Int) (replies : List Reply) (reply : Reply) :
    spent field (replies ++ [reply]) =
      match reply.usage with
      | some usage => spent field replies + field usage
      | none => spent field replies := by
  unfold spent
  rw [List.filterMap_append]
  cases told : reply.usage <;> simp [told]

theorem Totals.ofReplies_concat (replies : List Reply) (reply : Reply) :
    ofReplies (replies ++ [reply]) =
      (reply.usage.map (ofReplies replies).add).getD (ofReplies replies) := by
  unfold ofReplies
  simp only [spent_concat]
  cases reply.usage <;> rfl

/-! ## The invariant -/

namespace Boundary

variable {rt : Runtime} {s : Surroundings} {task : String} {w : World} {b b' : Boundary}
  {rounds : List Round} {last? : Option Message} {replies : List Reply}

/-- The transcript tells the rounds and the last turn, the turns are the replies, and the counters
count these. -/
structure Accounted (rt : Runtime) (w : World) (b : Boundary) (rounds : List Round)
    (last? : Option Message) (replies : List Reply) : Prop where
  transcript : ∃ lines, Round.Told (rt.session.room .line) 1 rounds lines ∧
    b.state.transcript = lines ++ (last?.map Message.speech).getD [] ++
      if b.state.truncated then [limitNotice] else []
  given : rt.model.Gives w replies b.world
  spoken : b.state.messages.filter (·.role = .assistant) = replies.map Reply.toMessage
  iteration : b.state.iteration = replies.length
  totals : b.state.totals = .ofReplies replies
  /-- The notice of the limit comes last. -/
  whole : b.next ≠ none → b.state.truncated = false

theorem start_accounted (rt : Runtime) (task : String) (w : World) :
    Accounted rt w (start rt task w) [] none [] where
  transcript := ⟨[], .none, rfl⟩
  given := .of_same rfl
  spoken := rfl
  iteration := rfl
  totals := rfl
  whole _ := rfl

/-- After the agent's step the reply is told. -/
theorem Accounted.agent {state : State} {v v' : World} {reply : Reply}
    (accounted : Accounted rt w ⟨some .agent, state, v⟩ rounds none replies)
    (heard : rt.model.Gives v [reply] v') :
    Accounted rt w ⟨Node.afterAgent (state.apply (replyUpdate state reply)),
      state.apply (replyUpdate state reply), v'⟩ rounds (some reply.toMessage)
      (replies ++ [reply]) := by
  obtain ⟨⟨lines, told, transcript⟩, given, spoken, iteration, totals, whole⟩ := accounted
  have whole : state.truncated = false := whole nofun
  simp only at transcript spoken iteration totals
  constructor
  case transcript =>
    refine ⟨lines, told, ?_⟩
    simp only [State.apply, speech_toMessage]
    rw [transcript, whole]
    simp [replyUpdate]
  case given => exact given.trans heard
  case spoken =>
    simp only [State.apply, replyUpdate, List.filter_append, List.map_append, spoken]
    rfl
  case iteration =>
    simp only [State.apply, replyUpdate, Option.getD_some, iteration, List.length_append]
    rfl
  case totals =>
    rw [Totals.ofReplies_concat, ← totals]
    rfl
  case whole => exact fun _ => whole

/-- As many calls are answered as the rounds have. -/
theorem Shape.answeredCalls (shape : Shape task b rounds last?) :
    answeredCalls b.state.messages = (Round.allCalls rounds).length := by
  rw [WebPilot.answeredCalls, List.countP_eq_length_filter, shape.filter_tool,
    ← Round.map_snd_allExchanges shape.complete, ← Round.map_fst_allExchanges shape.complete,
    List.length_map, List.length_map]

/-- After the tools' step the last turn and its answers are told as a round. -/
theorem Accounted.tools {state : State} {v v' : World} {turn : Message} {result : CallsResult}
    (accounted : Accounted rt w ⟨some .tools, state, v⟩ rounds (some turn) replies)
    (unheard : Same World.asked v v') (silent : ∀ m ∈ result.answers, m.role = .tool)
    (tells : exchangeLines? (rt.session.room .line) (1 + (Round.allCalls rounds).length)
      (turn.calls.zip result.answers) = some result.transcript) :
    Accounted rt w ⟨some (Node.afterTools (state.apply result.toUpdate)),
      state.apply result.toUpdate, v'⟩ (rounds ++ [⟨turn, result.answers⟩]) none replies := by
  obtain ⟨⟨lines, told, transcript⟩, given, spoken, iteration, totals, whole⟩ := accounted
  have whole : state.truncated = false := whole nofun
  simp only at transcript spoken iteration totals
  constructor
  case transcript =>
    refine ⟨_, told.concat (r := ⟨turn, result.answers⟩) tells, ?_⟩
    simp only [State.apply, CallsResult.toUpdate, Option.getD_none, transcript, whole]
    simp
  case given => simpa using given.trans (.of_same unheard)
  case spoken =>
    have none_ : result.answers.filter (·.role = .assistant) = [] :=
      List.filter_eq_nil_iff.mpr fun m member => by simp [silent m member]
    simp only [State.apply, CallsResult.toUpdate, List.filter_append, spoken, none_,
      List.append_nil]
  case iteration => exact iteration
  case totals => exact totals
  case whole => exact fun _ => whole

/-- After the limit's step the notice is told. -/
theorem Accounted.limit {state : State} {v v' : World}
    (accounted : Accounted rt w ⟨some .limit, state, v⟩ rounds none replies)
    (unheard : Same World.asked v v') :
    Accounted rt w ⟨none, state.apply limitUpdate, v'⟩ rounds none replies := by
  obtain ⟨⟨lines, told, transcript⟩, given, spoken, iteration, totals, whole⟩ := accounted
  have whole : state.truncated = false := whole nofun
  simp only at transcript spoken iteration totals
  constructor
  case transcript =>
    refine ⟨lines, told, ?_⟩
    simp only [State.apply, limitUpdate, transcript, whole]
    simp
  case given => simpa using given.trans (.of_same unheard)
  case spoken => simpa only [State.apply, limitUpdate, List.append_nil] using spoken
  case iteration => exact iteration
  case totals => exact totals
  case whole => exact fun more => absurd rfl more

/-- **One step keeps the account.** -/
theorem Advance.accounts (advance : Advance rt s b b') (shape : Shape task b rounds last?)
    (accounted : Accounted rt w b rounds last? replies) :
    ∃ rounds' last?' replies', Shape task b' rounds' last?' ∧
      Accounted rt w b' rounds' last?' replies' := by
  cases advance with
  | @step node state v v' update run =>
      cases node with
      | agent =>
          obtain rfl := shape.closed (.inl rfl)
          rcases agentStep_cases run with ⟨reply, same, heard⟩ | ⟨_, _, impossible, _⟩
          · cases same
            exact ⟨_, _, _, shape.agent reply, accounted.agent heard⟩
          · cases impossible
      | tools =>
          have unheard := (toolsStep_asked rt state).run run
          obtain ⟨result, rfl, serves, tells⟩ := toolsStep_tells run
          obtain ⟨turn, rfl, calls, after⟩ := shape.tools serves.ids
          rw [shape.answeredCalls, Nat.add_comm, ← calls] at tells
          exact ⟨_, _, _, after, accounted.tools unheard (fun _ => serves.role) tells⟩
      | limit =>
          have unheard : Same World.asked v v' := limitStep_quiet.asked.run run
          obtain rfl := shape.closed (.inr rfl)
          cases limitStep_eq run
          exact ⟨_, _, _, shape.limit, accounted.limit unheard⟩

theorem reached_accounted (reached : Reached rt s task w b) :
    ∃ rounds last? replies, Shape task b rounds last? ∧
      Accounted rt w b rounds last? replies := by
  induction reached with
  | refl => exact ⟨_, _, _, start_shape rt task w, start_accounted rt task w⟩
  | tail _ advance ih =>
      obtain ⟨rounds, last?, replies, shape, accounted⟩ := ih
      exact advance.accounts shape accounted

/-- The lines of a history without stray answers are those of its rounds and of its last turn, if
nothing waits. -/
theorem Shape.historyLines? {room : Nat} {lines : List String} (shape : Shape task b rounds last?)
    (answered : firstStray? b.state.messages = none) (idle : b.state.pending = [])
    (told : Round.Told room 1 rounds lines) :
    historyLines? room 1 b.state.messages = some (lines ++ (last?.map Message.speech).getD []) := by
  have opening : ∀ m ∈ [Message.system systemPrompt, Message.user task], m.role ≠ .assistant := by
    simp [Message.system, Message.user]
  have last (number : Nat) : WebPilot.historyLines? room number last?.toList =
      some ((last?.map Message.speech).getD []) := by
    have pending := shape.pending
    rw [idle] at pending
    cases last? with
    | none => rfl
    | some turn =>
        have silent : turn.calls = [] := pending.symm
        rw [Option.toList, WebPilot.historyLines?, if_pos (shape.speaks turn rfl), silent]
        simp [WebPilot.historyLines?, WebPilot.answered?, exchangeLines?]
  have messages : b.state.messages = [Message.system systemPrompt, Message.user task] ++
      (rounds.flatMap Round.messages ++ last?.toList) := by
    rw [shape.messages, List.append_assoc]
  rw [messages] at answered ⊢
  have distinct := Round.distinct_of_lawful shape.complete
    (show strayFrom? none 2 (rounds.flatMap Round.messages ++ last?.toList) = none from answered)
  rw [historyLines?_others opening]
  exact told.history shape.complete distinct (last _)

/-- **The transcript and the totals of a result are a projection of its history.**  Behind its head
the transcript has the lines of the history, and then the notice of the limit if the conversation
was cut short; the turns of the history are the replies that the model gave, and the counters count
them and what they cost. -/
theorem conversation_transcribed {result : ConversationResult} {w' : World}
    (run : converse rt task s w = (.ok result, w')) :
    ∃ lines replies,
      historyLines? (rt.session.room .line) 1 result.messages = some lines ∧
      result.transcript = "Tool Execution Flow:" ::
        (lines ++ if result.truncated then [limitNotice] else []) ∧
      rt.model.Gives w replies w' ∧
      result.messages.filter (·.role = .assistant) = replies.map Reply.toMessage ∧
      result.iterations = (result.messages.filter (·.role = .assistant)).length ∧
      result.usage = {
        input := spent Usage.input replies
        output := spent Usage.output replies
        total := spent Usage.input replies + spent Usage.output replies
        cacheCreation := spent Usage.cacheCreation replies
        cacheRead := spent Usage.cacheRead replies } := by
  obtain ⟨b, reached, ends⟩ := converse_ends run
  obtain ⟨rounds, last?, replies, shape, accounted⟩ := reached_accounted reached
  cases ends with
  | @returned state _ answered =>
      obtain ⟨⟨lines, told, transcript⟩, given, spoken, iteration, totals, -⟩ := accounted
      have tells := shape.historyLines? answered (shape.settled rfl) told
      refine ⟨_, replies, tells, congrArg _ transcript, given, spoken, ?_, ?_⟩
      · show state.iteration = (state.messages.filter (·.role = .assistant)).length
        rw [iteration, spoken, List.length_map]
      · exact congrArg Totals.toUsage totals

end Boundary

/-! ## A sample -/

namespace Sample

/-- A tool that looks at what is there. -/
def lookTool : Tool :=
  { name := "look" }

/-- A conversation whose model looks once, and says what that cost. -/
def glance : Runtime where
  session := {
    backend := ⟨.ok [lookTool], fun _ _ _ => ([], .ok (.ofText "done"))⟩
    catalog := .ofTools [lookTool] }
  model := .direct fun before _ => .ok <|
    if before.isEmpty then
      { content := "I look.", toolCalls := [⟨"first", "look", []⟩], usage := some { input := 3 } }
    else { content := "Done." }
  tools := []
  settings := { iterationDelay := .whole 0 }

end Sample

namespace Boundary

/-- A glance is told. -/
theorem glance_transcribed :
    ∃ result w', converse Sample.glance "task" Sample.surroundings .fresh = (.ok result, w') ∧
      historyLines? 980 1 result.messages = some ["Assistant: I look.", "Tool 1: look",
        "Arguments: {}", "Result: done", "Assistant: Done."] ∧
      ∃ replies, Sample.glance.model.Gives .fresh replies w' ∧ spent Usage.input replies = 3 := by
  have run : converse Sample.glance "task" Sample.surroundings .fresh = (.ok _, _) := rfl
  obtain ⟨lines, replies, told, transcript, given, -, -, usage⟩ := conversation_transcribed run
  refine ⟨_, _, run, ?_, replies, given, (congrArg Usage.input usage).symm⟩
  obtain ⟨-, behind⟩ := List.cons.inj transcript
  have whole : lines ++ [] = ["Assistant: I look.", "Tool 1: look", "Arguments: {}",
      "Result: done", "Assistant: Done."] := behind.symm
  rw [List.append_nil] at whole
  exact told.trans (congrArg some whole)

end Boundary

end WebPilot
