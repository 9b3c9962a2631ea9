import WebPilot.Hosted.Block
import Mathlib.Data.List.Chain

/-!
# How the hosted model reads a history

The messages of the system go by themselves; every other message of a history is *spoken*.  A spoken
message becomes what it is alone (`Hosted.image`): a message of the user or the assistant, or a
message of the user with one answer to a call.  Converting a history then only joins answers, so
what it gives is *read* by taking messages of answers apart again (`Hosted.readings`), which also
says in which message each part travels.

The conversion looks back at the last message it has made.  Its invariant (`Hosted.Placed`) is that
the parts so far are the images of the spoken messages so far, that a part travels with the one
before it if both are answers and in the next message otherwise, and that the last message is one of
answers exactly if the last spoken message is an answer.  **So nothing is lost and nothing changes
places, and two answers travel together exactly if nobody speaks between them**
(`Hosted.Conversion.ofMessages_reading`).
-/

namespace WebPilot.Hosted

set_option autoImplicit false

/-! ## Images and parts -/

/-- The block that a tool message travels in. -/
def answerBlock (m : Message) : Block :=
  .toolResult (m.toolCallId.getD "") m.body m.isError

theorem isToolResult_answerBlock (m : Message) : (answerBlock m).isToolResult = true := rfl

/-- The messages that are not of the system. -/
def spoken (messages : List Message) : List Message :=
  messages.filter fun m => m.role ≠ .system

/-- The texts of the system that are not empty. -/
def systemTexts (messages : List Message) : List String :=
  ((messages.filter fun m => m.role = .system).map Message.body).filter fun text => text ≠ ""

/-- What a spoken message alone becomes. -/
def image (m : Message) : HostedMessage :=
  match m.role with
  | .assistant =>
    if m.body = "" ∧ m.calls = [] then ⟨.assistant, .text ""⟩
    else
      let said := if m.body = "" then [] else [Block.text m.body]
      ⟨.assistant, .blocks (said ++
        m.calls.map fun call => .toolUse call.id call.name call.arguments)⟩
  | .tool => ⟨.user, .blocks [answerBlock m]⟩
  | _ => ⟨.user, .text m.body⟩

/-- The parts of a message: its answers one by one, or the message as it is. -/
def HostedMessage.parts (m : HostedMessage) : List HostedMessage :=
  match m.results? with
  | some results => results.map fun block => ⟨.user, .blocks [block]⟩
  | none => [m]

/-- The parts of messages from left to right, each with the number of the message it is in. -/
def readings (converted : List HostedMessage) : List (HostedMessage × Nat) :=
  converted.zipIdx.flatMap fun (m, i) => m.parts.map fun part => (part, i)

/-- The parts at two places are in one message. -/
def Together (converted : List HostedMessage) (i j : Nat) : Prop :=
  ∃ k, (readings converted)[i]?.map Prod.snd = some k ∧
    (readings converted)[j]?.map Prod.snd = some k

/-- One of two messages carries something else than answers. -/
def Apart (m next : HostedMessage) : Prop :=
  m.results? = none ∨ next.results? = none

theorem spoken_append (before after : List Message) :
    spoken (before ++ after) = spoken before ++ spoken after :=
  List.filter_append ..

theorem spoken_cons {m : Message} (speaks : m.role ≠ .system) (rest : List Message) :
    spoken (m :: rest) = m :: spoken rest :=
  List.filter_cons_of_pos (by simpa using speaks)

/-- A message at the end is read after all others. -/
theorem readings_concat (converted : List HostedMessage) (m : HostedMessage) :
    readings (converted ++ [m]) =
      readings converted ++ m.parts.map fun part => (part, converted.length) := by
  simp [readings, List.zipIdx_append]

section Image

variable {m : Message}

/-- Only answers become answers. -/
theorem results?_image (silent : m.role ≠ .tool) : (image m).results? = none := by
  unfold image
  split
  · split <;> rfl
  · exact absurd ‹_› silent
  · rfl

theorem parts_image (silent : m.role ≠ .tool) : (image m).parts = [image m] := by
  rw [HostedMessage.parts, results?_image silent]

theorem results?_answers {blocks : List Block} (only : blocks.all Block.isToolResult = true) :
    HostedMessage.results? ⟨.user, .blocks blocks⟩ = some blocks :=
  if_pos only

theorem parts_answers {blocks : List Block} (only : blocks.all Block.isToolResult = true) :
    HostedMessage.parts ⟨.user, .blocks blocks⟩ =
      blocks.map fun block => ⟨.user, .blocks [block]⟩ := by
  rw [HostedMessage.parts, results?_answers only]

theorem image_answer (answers : m.role = .tool) : image m = ⟨.user, .blocks [answerBlock m]⟩ := by
  rw [image, answers]

theorem image_user (speaks : m.role = .user) : image m = ⟨.user, .text m.body⟩ := by
  rw [image, speaks]

/-- A turn of the assistant becomes its image. -/
theorem image_turn (speaks : m.role = .assistant) : image m = Conversion.assistantMessage m := by
  simp only [image, speaks, Conversion.assistantMessage, String.isEmpty_iff, List.isEmpty_iff,
    List.append_eq_nil_iff, List.map_eq_nil_iff]
  by_cases empty : m.body = ""
  · by_cases none : m.calls = []
    · simp [empty, none]
    · simp [empty, none, Block.ofCall]
  · simp [empty, Block.ofCall]

end Image

/-! ## The next message -/

namespace Conversion

variable {converted : List HostedMessage}

/-- An answer joins the answers before it. -/
theorem addResult_join {results : List Block} (only : results.all Block.isToolResult = true)
    (block : Block) (converted : List HostedMessage) :
    addResult block (converted ++ [⟨.user, .blocks results⟩]) =
      converted ++ [⟨.user, .blocks (results ++ [block])⟩] := by
  simp [addResult, HostedMessage.results?, only]

/-- An answer after anything else starts a message. -/
theorem addResult_start (none : converted.getLast?.bind HostedMessage.results? = none)
    (block : Block) :
    addResult block converted = converted ++ [⟨.user, .blocks [block]⟩] := by
  simp only [addResult, none]

/-- The message answers a call by its id. -/
def Replies (m : Message) : Prop :=
  m.role = .tool ∧ ∃ id, m.toolCallId = some id

theorem Replies.resultBlock {m : Message} (replies : Replies m) :
    resultBlock m = .ok (answerBlock m) := by
  obtain ⟨_, id, same⟩ := replies
  simp [Conversion.resultBlock, answerBlock, same]

/-- A lawful tool message answers a call. -/
theorem replies_of_lawful {m : Message} (lawful : m.Lawful) (answers : m.role = .tool) :
    Replies m := by
  have answersCall := lawful.2.mp answers
  refine ⟨answers, Option.isSome_iff_exists.mp ?_⟩
  cases id : m.toolCallId with
  | none => simp [Message.answersCall, id] at answersCall
  | some _ => rfl

end Conversion

/-- The last message that carries answers and nothing else, with what was made before it. -/
theorem split_results {converted : List HostedMessage} {blocks : List Block}
    (last : converted.getLast?.bind HostedMessage.results? = some blocks) :
    blocks.all Block.isToolResult = true ∧
      ∃ earlier, converted = earlier ++ [⟨.user, .blocks blocks⟩] := by
  obtain ⟨m, there, carries⟩ := Option.bind_eq_some_iff.mp last
  obtain ⟨earlier, rfl⟩ := List.getLast?_eq_some_iff.mp there
  obtain ⟨speaker, content⟩ := m
  unfold HostedMessage.results? at carries
  split at carries
  · rename_i inside speaks same
    obtain rfl : speaker = .user := speaks
    obtain rfl : content = .blocks inside := same
    split at carries
    · rename_i only
      obtain rfl := Option.some.inj carries
      exact ⟨only, earlier, rfl⟩
    · cases carries
  · cases carries

/-! ## The invariant of the conversion -/

/-- A part travels with the one before it if both are answers, and in the next message otherwise. -/
def Follows (p q : Message × Nat) : Prop :=
  q.2 = if p.1.role = .tool ∧ q.1.role = .tool then p.2 else p.2 + 1

/-- The messages converted so far, and the message that each of the spoken ones travels in. -/
structure Placed (messages : List Message) (converted : List HostedMessage)
    (places : List (Message × Nat)) : Prop where
  order : places.map Prod.fst = spoken messages
  reading : readings converted = places.map fun (m, i) => (image m, i)
  follows : places.IsChain Follows
  last : ∀ p ∈ places.getLast?, p.2 + 1 = converted.length ∧
    (p.1.role = .tool ↔ (converted.getLast?.bind HostedMessage.results?).isSome)
  apart : converted.IsChain Apart

namespace Placed

variable {messages : List Message} {converted : List HostedMessage}
  {places : List (Message × Nat)} {m : Message}

/-- Nothing is converted yet. -/
theorem nil : Placed [] [] [] where
  order := rfl
  reading := rfl
  follows := .nil
  last p member := by cases member
  apart := .nil

/-- A message of the system is passed over. -/
theorem system (placed : Placed messages converted places) (silent : m.role = .system) :
    Placed (messages ++ [m]) converted places :=
  { placed with
    order := by
      have none : spoken [m] = [] := by simp [spoken, silent]
      rw [spoken_append, none, List.append_nil, placed.order] }

theorem order_concat (placed : Placed messages converted places) (speaks : m.role ≠ .system)
    (i : Nat) : (places ++ [(m, i)]).map Prod.fst = spoken (messages ++ [m]) := by
  have one : spoken [m] = [m] := spoken_cons speaks []
  rw [List.map_append, placed.order, spoken_append, one]
  rfl

/-- A message of its own is one place further on. -/
theorem start (placed : Placed messages converted places) (speaks : m.role ≠ .system)
    (whole : (image m).parts = [image m])
    (kind : m.role = .tool ↔ ((image m).results?).isSome)
    (fresh : m.role = .tool → converted.getLast?.bind HostedMessage.results? = none) :
    Placed (messages ++ [m]) (converted ++ [image m]) (places ++ [(m, converted.length)]) where
  order := placed.order_concat speaks _
  reading := by
    rw [readings_concat, placed.reading, whole, List.map_append]
    rfl
  follows := by
    refine placed.follows.append (.singleton _) ?_
    intro p there q same
    obtain rfl : (m, converted.length) = q := Option.some.inj same
    obtain ⟨behind, carries⟩ := placed.last p there
    have different : ¬ (p.1.role = .tool ∧ m.role = .tool) := by
      rintro ⟨before, now⟩
      have some_ := carries.mp before
      rw [fresh now] at some_
      cases some_
    rw [Follows, if_neg different, behind]
  last p there := by
    rw [List.getLast?_concat, Option.mem_some_iff] at there
    subst there
    rw [List.length_append, List.getLast?_concat]
    exact ⟨rfl, kind⟩
  apart := by
    refine placed.apart.append (.singleton _) ?_
    intro before there next same
    obtain rfl : image m = next := Option.some.inj same
    by_cases answers : m.role = .tool
    · have none := fresh answers
      rw [Option.mem_def.mp there] at none
      exact .inl none
    · exact .inr (Option.not_isSome_iff_eq_none.mp (answers ∘ kind.mpr))

/-- A message of the user or the assistant starts a message. -/
theorem turn (placed : Placed messages converted places) (speaks : m.role ≠ .system)
    (silent : m.role ≠ .tool) :
    Placed (messages ++ [m]) (converted ++ [image m]) (places ++ [(m, converted.length)]) := by
  refine placed.start speaks (parts_image silent) ?_ fun answers => absurd answers silent
  simp [silent, results?_image silent]

/-- An answer goes to the answers before it, or starts a message. -/
theorem answer (placed : Placed messages converted places) (answers : m.role = .tool) :
    ∃ i, Placed (messages ++ [m]) (Conversion.addResult (answerBlock m) converted)
      (places ++ [(m, i)]) := by
  have speaks : m.role ≠ .system := by simp [answers]
  rcases carried : converted.getLast?.bind HostedMessage.results? with _ | blocks
  · rw [Conversion.addResult_start carried, ← image_answer answers]
    have only : [answerBlock m].all Block.isToolResult = true := rfl
    refine ⟨_, placed.start speaks ?_ ?_ fun _ => carried⟩
    · rw [image_answer answers, parts_answers only, List.map_singleton]
    · simp [answers, image_answer answers, results?_answers only]
  · obtain ⟨only, earlier, rfl⟩ := split_results carried
    have longer : (blocks ++ [answerBlock m]).all Block.isToolResult = true := by
      simp [only, isToolResult_answerBlock]
    rw [Conversion.addResult_join only]
    refine ⟨earlier.length, ?_⟩
    constructor
    case order => exact placed.order_concat speaks _
    case reading =>
      have before := placed.reading
      rw [readings_concat, parts_answers only] at before
      rw [readings_concat, parts_answers longer, List.map_append, List.map_append,
        ← List.append_assoc, before, List.map_append]
      simp only [List.map_singleton, image_answer answers]
    case follows =>
      refine placed.follows.append (.singleton _) ?_
      intro p there q same
      obtain rfl : (m, earlier.length) = q := Option.some.inj same
      obtain ⟨behind, carries⟩ := placed.last p there
      have before : p.1.role = .tool := carries.mpr (by rw [carried]; rfl)
      rw [Follows, if_pos ⟨before, answers⟩]
      simp only [List.length_append, List.length_singleton] at behind
      omega
    case last =>
      intro p there
      rw [List.getLast?_concat, Option.mem_some_iff] at there
      subst there
      simp [answers, results?_answers longer]
    case apart =>
      obtain ⟨before, _, joins⟩ := List.isChain_append.mp placed.apart
      refine before.append (.singleton _) ?_
      intro m there next same
      obtain rfl := Option.some.inj same
      rcases joins m there _ rfl with none | none
      · exact .inl none
      · rw [results?_answers only] at none
        cases none

end Placed

/-- The conversion places the messages one after the other. -/
theorem Conversion.convertFrom_placed {rest : List Message} (lawful : ∀ m ∈ rest, m.Lawful)
    {seen : List Message} {converted : List HostedMessage} {places : List (Message × Nat)}
    (placed : Placed seen converted places) :
    ∃ done places', convertFrom converted rest = .ok done ∧ Placed (seen ++ rest) done places' := by
  induction rest generalizing seen converted places with
  | nil => exact ⟨converted, places, rfl, by rwa [List.append_nil]⟩
  | cons m rest ih =>
      obtain ⟨first, others⟩ := List.forall_mem_cons.mp lawful
      rw [List.append_cons]
      cases role : m.role with
      | system =>
          simp only [convertFrom, role]
          exact ih others (placed.system role)
      | user =>
          have next := placed.turn (m := m) (by simp [role]) (by simp [role])
          rw [image_user role] at next
          simp only [convertFrom, role]
          exact ih others next
      | assistant =>
          have next := placed.turn (m := m) (by simp [role]) (by simp [role])
          rw [image_turn role] at next
          simp only [convertFrom, role]
          exact ih others next
      | tool =>
          obtain ⟨_, next⟩ := placed.answer role
          simp only [convertFrom, role, (replies_of_lawful first role).resultBlock]
          exact ih others next

/-! ## Who travels together -/

/-- Later parts are not in earlier messages. -/
theorem le_of_follows {p q : Message × Nat} {between : List (Message × Nat)}
    (follows : (p :: (between ++ [q])).IsChain Follows) : p.2 ≤ q.2 := by
  have step {p q : Message × Nat} (next : Follows p q) : p.2 ≤ q.2 := by
    unfold Follows at next
    split at next <;> omega
  induction between generalizing p with
  | nil => exact step (List.isChain_pair.mp follows)
  | cons r between ih =>
      obtain ⟨next, later⟩ := List.isChain_cons_cons.mp follows
      exact (step next).trans (ih later)

/-- Two answers are in one message exactly if there are only answers between them. -/
theorem same_place_iff {p q : Message × Nat} {between : List (Message × Nat)}
    (follows : (p :: (between ++ [q])).IsChain Follows) (first : p.1.role = .tool)
    (second : q.1.role = .tool) :
    p.2 = q.2 ↔ ∀ r ∈ between, r.1.role = .tool := by
  induction between generalizing p with
  | nil =>
      have next : Follows p q := List.isChain_pair.mp follows
      rw [Follows, if_pos ⟨first, second⟩] at next
      simp [next]
  | cons r between ih =>
      obtain ⟨next, later⟩ := List.isChain_cons_cons.mp follows
      rw [List.forall_mem_cons]
      by_cases answers : r.1.role = .tool
      · rw [Follows, if_pos ⟨first, answers⟩] at next
        rw [← next, ih later answers]
        simp [answers]
      · rw [Follows, if_neg (fun both => answers both.2)] at next
        have ordered := le_of_follows later
        constructor
        · intro same
          omega
        · exact fun both => absurd both.1 answers

/-- Only the system speaks between answers if all that is spoken there is answers. -/
theorem forall_spoken_iff {between : List Message} :
    (∀ m ∈ spoken between, m.role = .tool) ↔
      ∀ m ∈ between, m.role ≠ .user ∧ m.role ≠ .assistant := by
  simp only [spoken, List.mem_filter, decide_eq_true_eq, and_imp]
  refine forall₂_congr fun m _ => ?_
  cases m.role <;> simp

/-- Two answers are in one message exactly if nobody speaks between them. -/
theorem Placed.together_iff {converted : List HostedMessage} {places : List (Message × Nat)}
    {before between after : List Message} {first second : Message}
    (placed : Placed (before ++ first :: (between ++ second :: after)) converted places)
    (answers : first.role = .tool) (answers' : second.role = .tool) :
    Together converted (spoken before).length
        ((spoken before).length + 1 + (spoken between).length) ↔
      ∀ m ∈ between, m.role ≠ .user ∧ m.role ≠ .assistant := by
  have split := placed.order
  rw [spoken_append, spoken_cons (by simp [answers]), spoken_append,
    spoken_cons (by simp [answers'])] at split
  obtain ⟨earlier, _, rfl, earlierSpoken, from_first⟩ := List.map_eq_append_iff.mp split
  obtain ⟨p, _, rfl, rfl, after_first⟩ := List.map_eq_cons_iff.mp from_first
  obtain ⟨middle, _, rfl, middleSpoken, from_second⟩ := List.map_eq_append_iff.mp after_first
  obtain ⟨q, later, rfl, rfl, _⟩ := List.map_eq_cons_iff.mp from_second
  have follows : (p :: (middle ++ [q])).IsChain Follows := by
    refine placed.follows.infix ⟨earlier, later, ?_⟩
    simp
  have sameSpoken : (∀ r ∈ middle, r.1.role = .tool) ↔ ∀ m ∈ spoken between, m.role = .tool := by
    rw [← middleSpoken]
    simp
  rw [← forall_spoken_iff, ← sameSpoken, ← same_place_iff follows answers answers', Together,
    placed.reading, ← earlierSpoken, ← middleSpoken]
  have here : (earlier ++ p :: (middle ++ q :: later))[earlier.length]? = some p := by simp
  have there : (earlier ++ p :: (middle ++ q :: later))[earlier.length + 1 + middle.length]? =
      some q := by
    simp [Nat.add_assoc, Nat.add_comm 1]
  simp only [List.getElem?_map, List.length_map, here, there, Option.map_some, Option.some.injEq]
  constructor
  · rintro ⟨k, rfl, same⟩
    exact same.symm
  · exact fun same => ⟨p.2, rfl, same.symm⟩

/-- The texts of the system are those that are joined. -/
theorem systemText_eq (messages : List Message) :
    Conversion.systemText messages = "\n\n".intercalate (systemTexts messages) := by
  rw [Conversion.systemText, systemTexts, List.filter_map, List.filter_filter]
  congr 2
  refine List.filter_congr fun m _ => ?_
  rw [Bool.eq_iff_iff]
  simp [and_comm]

/-- **Converting loses and moves nothing.**  Every history of lawful messages is converted.  The
texts of the system are joined by blank lines; the other messages, read from left to right with the
answers to calls taken apart, are the images of the spoken messages in their order; two answers
travel in one message exactly if no user and no assistant speaks between them; and no two messages
of answers follow each other. -/
theorem Conversion.ofMessages_reading (messages : List Message)
    (lawful : ∀ m ∈ messages, m.Lawful) :
    ∃ c, ofMessages messages = .ok c ∧
      c.system = "\n\n".intercalate (systemTexts messages) ∧
      (readings c.messages).map Prod.fst = (spoken messages).map image ∧
      (∀ before first between second after,
        messages = before ++ first :: (between ++ second :: after) →
        first.role = .tool → second.role = .tool →
        (Together c.messages (spoken before).length
            ((spoken before).length + 1 + (spoken between).length) ↔
          ∀ m ∈ between, m.role ≠ .user ∧ m.role ≠ .assistant)) ∧
      c.messages.IsChain Apart := by
  obtain ⟨converted, places, done, placed⟩ := convertFrom_placed lawful Placed.nil
  rw [List.nil_append] at placed
  refine ⟨⟨systemText messages, converted⟩, by rw [ofMessages, done], systemText_eq messages, ?_,
    ?_, placed.apart⟩
  · rw [placed.reading, ← placed.order, List.map_map, List.map_map]
    rfl
  · rintro before first between second after rfl answers answers'
    exact placed.together_iff answers answers'

/-- A history in which the system speaks between two answers and the user before a third. -/
def sampleHistory : List Message :=
  [.system "Be brief.", .user "Look.",
    { role := .assistant, toolCalls := some [⟨"a", "click", []⟩, ⟨"b", "click", []⟩] },
    { role := .tool, toolCallId := some "a", content := some "done" }, .system "",
    { role := .tool, toolCallId := some "b", isError := true }, .user "",
    { role := .tool, toolCallId := some "a" }]

theorem lawful_sampleHistory : ∀ m ∈ sampleHistory, m.Lawful := by
  simp [sampleHistory, Message.Lawful, Message.system, Message.user, Message.calls,
    Message.answersCall]

/-- In the sample the first two answers travel together and the third by itself. -/
theorem Conversion.ofMessages_reading_sample :
    ∃ c, ofMessages sampleHistory = .ok c ∧ c.system = "Be brief." ∧
      Together c.messages 2 3 ∧ ¬ Together c.messages 3 5 := by
  obtain ⟨c, done, system, _, together, _⟩ := ofMessages_reading sampleHistory lawful_sampleHistory
  refine ⟨c, done, ?_, ?_, ?_⟩
  · rw [system]
    decide +kernel
  · have joined := together (sampleHistory.take 3) _ [.system ""] _ (sampleHistory.drop 6) rfl rfl
      rfl
    exact joined.mpr (by simp [Message.system])
  · have parted := together (sampleHistory.take 5) _ [.user ""] _ [] rfl rfl rfl
    exact mt parted.mp (by simp [Message.user])

end WebPilot.Hosted
