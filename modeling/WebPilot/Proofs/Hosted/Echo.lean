import WebPilot.Hosted.Submission
import WebPilot.Proofs.Check.Accepting
import WebPilot.Proofs.Conversation.Rounds
import WebPilot.Proofs.Hosted.Conversion
import Mathlib.Data.List.Forall2
import Mathlib.Data.List.ReduceOption

/-!
# What the model hears of itself

A response of the hosted model arrives as blocks; its texts and calls become a reply, the reply
becomes a turn of the assistant in the history, and a later request converts that turn into blocks
again.  What the model hears of its turn is the *echo* of its response (`Hosted.echo`): one block
with the texts as lines, unless there is nothing to say, and behind it the calls as they were.

A turn stands in a request by itself (`Conversion.ofMessages_turn`), so the echo does not hang on
what was said before or afterwards.  Blocks are *canonical* (`Hosted.Canonical`) if they are calls
behind at most one text, which is not empty.  **Canonical blocks are their own echo, every echo that
is not empty is canonical, and so an echo is echoed as it is** (`response_echoed`).
-/

namespace WebPilot.Hosted

set_option autoImplicit false

/-! ## Blocks that arrive -/

/-- A block as it arrives, and what is kept of it: a text or a call with all its parts, nothing of a
block of another kind.  Further fields do not matter. -/
inductive Arrives : Json → Option Block → Prop
  | text {fields : Fields} {s : String} (kind : fields.get? "type" = some (.text "text"))
      (worded : fields.get? "text" = some (.text s)) : Arrives (.object fields) (some (.text s))
  | toolUse {fields : Fields} {id name : String} {input : Fields}
      (kind : fields.get? "type" = some (.text "tool_use"))
      (known : fields.get? "id" = some (.text id)) (named : fields.get? "name" = some (.text name))
      (given : fields.get? "input" = some (.object input)) :
      Arrives (.object fields) (some (.toolUse id name input))
  | other {fields : Fields} (noText : fields.get? "type" ≠ some (.text "text"))
      (noCall : fields.get? "type" ≠ some (.text "tool_use")) : Arrives (.object fields) none

section Checks

variable {fields : Fields} {s id name : String} {input : Fields}

theorem checkText_fine (kind : fields.get? "type" = some (.text "text"))
    (worded : fields.get? "text" = some (.text s)) :
    Block.checkText (.object fields) = .fine (.text s) := by
  refine Checked.seq_fine_iff.mpr ⟨fun s => .text s, s, ?_, ?_, rfl⟩
  · exact Checked.map_fine_iff.mpr ⟨(), Check.tag_fine kind, rfl⟩
  · exact Check.required_fine_iff.mpr ⟨_, worded, rfl⟩

theorem checkToolUse_fine (kind : fields.get? "type" = some (.text "tool_use"))
    (known : fields.get? "id" = some (.text id)) (named : fields.get? "name" = some (.text name))
    (given : fields.get? "input" = some (.object input)) :
    Block.checkToolUse (.object fields) = .fine (.toolUse id name input) := by
  refine Checked.seq_fine_iff.mpr ⟨fun input => .toolUse id name input, input, ?_, ?_, rfl⟩
  · refine Checked.seq_fine_iff.mpr ⟨fun name input => .toolUse id name input, name, ?_, ?_, rfl⟩
    · refine Checked.seq_fine_iff.mpr ⟨fun id name input => .toolUse id name input, id, ?_, ?_, rfl⟩
      · exact Checked.map_fine_iff.mpr ⟨(), Check.tag_fine kind, rfl⟩
      · exact Check.required_fine_iff.mpr ⟨_, known, rfl⟩
    · exact Check.required_fine_iff.mpr ⟨_, named, rfl⟩
  · exact Check.required_fine_iff.mpr ⟨_, given, rfl⟩

end Checks

/-- **What is kept of a response is read from it**, in order. -/
theorem readBlocks_arrives {items : List Json} {kept : List (Option Block)}
    (arrives : List.Forall₂ Arrives items kept) : readBlocks items = .ok kept.reduceOption := by
  induction arrives with
  | nil => rfl
  | cons first _ ih =>
      cases first with
      | text kind worded =>
          simp only [readBlocks, Json.get?, kind, checkText_fine kind worded, Checked.titled, ih,
            List.reduceOption_cons_of_some]
      | toolUse kind known named given =>
          simp only [readBlocks, Json.get?, kind, checkToolUse_fine kind known named given,
            Checked.titled, ih, List.reduceOption_cons_of_some]
      | other noText noCall =>
          simp only [readBlocks, Json.get?, ih, List.reduceOption_cons_of_none]

/-- A block that was written arrives as it was. -/
theorem arrives_toJson {block : Block} (said : block.isToolResult = false) :
    Arrives block.toJson (some block) := by
  cases block with
  | text s => exact .text rfl rfl
  | toolUse id name input => exact .toolUse rfl rfl rfl rfl
  | toolResult => cases said

/-! ## The echo -/

namespace Block

/-- Whether the block calls a tool. -/
def isCall : Block → Bool
  | toolUse .. => true
  | _ => false

end Block

/-- The blocks that a response is echoed with: its texts as lines of one, if they say anything, and
its calls. -/
def echo (blocks : List Block) : List Block :=
  let said := "\n".intercalate (textsOf blocks)
  (if said.isEmpty then [] else [.text said]) ++ blocks.filter Block.isCall

/-- What a message with the blocks holds; there is no message of no blocks. -/
def contentOf (blocks : List Block) : Content :=
  if blocks.isEmpty then .text "" else .blocks blocks

/-- The blocks are calls behind at most one text, which is not empty. -/
def Canonical (blocks : List Block) : Prop :=
  blocks ≠ [] ∧ ∃ lead calls, blocks = lead ++ calls ∧
    (lead = [] ∨ ∃ s, s ≠ "" ∧ lead = [Block.text s]) ∧ ∀ call ∈ calls, call.isCall = true

section Echo

variable (blocks : List Block)

theorem map_ofCall_callsOf : (callsOf blocks).map Block.ofCall = blocks.filter Block.isCall := by
  induction blocks with
  | nil => rfl
  | cons block rest ih =>
      cases block with
      | toolUse id name input => exact congrArg (Block.toolUse id name input :: ·) ih
      | text | toolResult => exact ih

/-- Calls say nothing. -/
theorem textsOf_calls {calls : List Block} (only : ∀ call ∈ calls, call.isCall = true) :
    textsOf calls = [] := by
  refine List.filterMap_eq_nil_iff.mpr fun call member => ?_
  have call_ := only call member
  cases call with
  | toolUse => rfl
  | text | toolResult => cases call_

/-- An echo is canonical. -/
theorem canonical_echo (nonempty : echo blocks ≠ []) : Canonical (echo blocks) := by
  refine ⟨nonempty, _, _, rfl, ?_, fun call member => (List.mem_filter.mp member).2⟩
  split
  · exact .inl rfl
  · rename_i filled
    exact .inr ⟨_, fun empty => filled (String.isEmpty_iff.mpr empty), rfl⟩

variable {blocks}

/-- Canonical blocks are their own echo. -/
theorem Canonical.echo (canonical : Canonical blocks) : echo blocks = blocks := by
  obtain ⟨-, lead, calls, rfl, first, only⟩ := canonical
  have kept : calls.filter Block.isCall = calls := List.filter_eq_self.mpr only
  have silent := textsOf_calls only
  obtain rfl | ⟨s, filled, rfl⟩ := first
  · have nothing : "\n".intercalate (textsOf ([] ++ calls)) = "" := by
      rw [List.nil_append, silent]
      rfl
    rw [Hosted.echo, nothing, if_pos (String.isEmpty_iff.mpr rfl), List.nil_append,
      List.nil_append, kept]
  · have texts : textsOf ([Block.text s] ++ calls) = [s] :=
      (List.filterMap_append ..).trans (congrArg ([s] ++ ·) silent)
    have said : "\n".intercalate [s] = s := by simp [String.intercalate_singleton]
    rw [Hosted.echo, texts, said, if_neg (mt String.isEmpty_iff.mp filled), List.filter_append,
      kept]
    rfl

/-- **The echo of an echo is that echo.** -/
theorem echo_echo (nonempty : echo blocks ≠ []) : echo (echo blocks) = echo blocks :=
  (canonical_echo blocks nonempty).echo

end Echo

/-! ## From the response to the turn -/

/-- The text of a turn is that of the reply. -/
theorem body_toMessage (reply : Reply) : reply.toMessage.body = reply.content := by
  unfold Reply.toMessage Message.body
  split
  · rename_i silent
    exact (String.isEmpty_iff.mp silent).symm
  · rfl

/-- **The turn that a response becomes is converted to its echo.** -/
theorem assistantMessage_arrives {r : Response} {kept : List (Option Block)}
    (arrives : List.Forall₂ Arrives r.content kept) :
    ∃ reply, r.toReply = .ok reply ∧ Conversion.assistantMessage reply.toMessage =
      ⟨.assistant, contentOf (echo kept.reduceOption)⟩ := by
  refine ⟨_, by rw [Response.toReply, readBlocks_arrives arrives], ?_⟩
  rw [Conversion.assistantMessage, body_toMessage, Reply.calls_toMessage, map_ofCall_callsOf]
  rfl

/-! ## A turn among messages -/

namespace Conversion

variable {earlier later converted : List HostedMessage}

/-- Messages after one that carries something else than answers are converted by themselves. -/
theorem addResult_apart (apart : later = [] → earlier.getLast?.bind HostedMessage.results? = none)
    (block : Block) : addResult block (earlier ++ later) = earlier ++ addResult block later := by
  rcases later.eq_nil_or_concat' with rfl | ⟨later, last, rfl⟩
  · rw [List.append_nil, addResult_start (apart rfl)]
    rfl
  · simp only [addResult, ← List.append_assoc, List.getLast?_concat, List.dropLast_concat]
    split <;> simp

theorem convertFrom_apart (rest : List Message)
    (apart : later = [] → earlier.getLast?.bind HostedMessage.results? = none) :
    convertFrom (earlier ++ later) rest = (convertFrom later rest).map (earlier ++ ·) := by
  induction rest generalizing later with
  | nil => rfl
  | cons m rest ih =>
      cases role : m.role with
      | system => simp only [convertFrom, role, ih apart]
      | user | assistant =>
          simp only [convertFrom, role]
          rw [List.append_assoc, ih (by simp)]
      | tool =>
          cases result : resultBlock m with
          | error invalid =>
              simp only [convertFrom, role, result]
              rfl
          | ok block =>
              simp only [convertFrom, role, result]
              rw [addResult_apart apart, ih]
              unfold addResult
              split <;> simp

theorem convertFrom_append (converted : List HostedMessage) (before rest : List Message) :
    convertFrom converted (before ++ rest) =
      (convertFrom converted before).bind fun made => convertFrom made rest := by
  induction before generalizing converted with
  | nil => rfl
  | cons m before ih =>
      cases role : m.role with
      | system | user | assistant =>
          simp only [List.cons_append, convertFrom, role]
          exact ih _
      | tool =>
          simp only [List.cons_append, convertFrom, role]
          cases resultBlock m with
          | error invalid => rfl
          | ok block => exact ih _

/-- **A turn of the assistant stands by itself** in what a history is converted to. -/
theorem ofMessages_turn {turn : Message} (speaks : turn.role = .assistant)
    (before after : List Message) (c : Conversion) :
    ofMessages (before ++ turn :: after) = .ok c ↔
      ∃ c₁ c₂, ofMessages before = .ok c₁ ∧ ofMessages after = .ok c₂ ∧
        c = ⟨systemText (before ++ turn :: after),
          c₁.messages ++ assistantMessage turn :: c₂.messages⟩ := by
  have turned (made : List HostedMessage) : convertFrom made (turn :: after) =
      (convertFrom [] after).map ((made ++ [assistantMessage turn]) ++ ·) := by
    rw [← convertFrom_apart]
    · simp only [convertFrom, speaks, List.append_nil]
    · intro _
      rw [List.getLast?_concat]
      rfl
  simp only [ofMessages, convertFrom_append, Except.bind, turned]
  rcases convertFrom [] before with _ | made
  · simp
  · rcases convertFrom [] after with _ | made'
    · simp [Except.map]
    · simp [Except.map, eq_comm]

end Conversion

/-! ## The echo of a response -/

theorem reduceOption_map_some (blocks : List Block) : (blocks.map some).reduceOption = blocks := by
  simp [List.reduceOption, List.filterMap_map]

/-- An echo answers no call. -/
theorem isToolResult_of_mem_echo {blocks : List Block} {block : Block}
    (member : block ∈ echo blocks) : block.isToolResult = false := by
  rcases List.mem_append.mp member with said | called
  · split at said
    · cases said
    · rw [List.mem_singleton.mp said]
      rfl
  · have call := (List.mem_filter.mp called).2
    cases block with
    | toolUse => rfl
    | text | toolResult => cases call

/-- An echo that is written arrives as it was. -/
theorem echo_arrives (blocks : List Block) :
    List.Forall₂ Arrives ((echo blocks).map Block.toJson) ((echo blocks).map some) := by
  refine List.forall₂_map_left_iff.mpr (List.forall₂_map_right_iff.mpr ?_)
  exact List.forall₂_same.mpr fun _ member => arrives_toJson (isToolResult_of_mem_echo member)

/-- **The model hears its response as its echo.**  Whatever blocks a response arrives with, it
becomes a reply, and in every later request the turn is one message of the assistant that holds the
echo of the response and stands by itself between the messages before it and those after it.  The
echo is the response, block by block, exactly if the response is canonical.  An echo that is not
empty and comes back as a response, as it is written or with further fields, is echoed as it is. -/
theorem response_echoed (r : Response) {kept : List (Option Block)}
    (arrives : List.Forall₂ Arrives r.content kept) :
    ∃ reply, r.toReply = .ok reply ∧
      (∀ before after c, Conversion.ofMessages (before ++ reply.toMessage :: after) = .ok c ↔
        ∃ c₁ c₂, Conversion.ofMessages before = .ok c₁ ∧ Conversion.ofMessages after = .ok c₂ ∧
          c = ⟨Conversion.systemText (before ++ reply.toMessage :: after),
            c₁.messages ++ ⟨.assistant, contentOf (echo kept.reduceOption)⟩ :: c₂.messages⟩) ∧
      (kept ≠ [] → ((echo kept.reduceOption).map some = kept ↔
        ∃ blocks, kept = blocks.map some ∧ Canonical blocks)) ∧
      List.Forall₂ Arrives ((echo kept.reduceOption).map Block.toJson)
        ((echo kept.reduceOption).map some) ∧
      (echo kept.reduceOption ≠ [] → ∀ r' : Response,
        List.Forall₂ Arrives r'.content ((echo kept.reduceOption).map some) →
        ∃ reply', r'.toReply = .ok reply' ∧ Conversion.assistantMessage reply'.toMessage =
          ⟨.assistant, contentOf (echo kept.reduceOption)⟩) := by
  obtain ⟨reply, received, turned⟩ := assistantMessage_arrives arrives
  refine ⟨reply, received, fun before after c => ?_, fun nonempty => ⟨fun same => ?_, ?_⟩,
    echo_arrives _, fun nonempty r' back => ?_⟩
  · rw [← turned]
    exact Conversion.ofMessages_turn rfl before after c
  · refine ⟨_, same.symm, canonical_echo _ fun none => nonempty ?_⟩
    rw [← same, none, List.map_nil]
  · rintro ⟨blocks, rfl, canonical⟩
    rw [reduceOption_map_some, canonical.echo]
  · obtain ⟨reply', received', turned'⟩ := assistantMessage_arrives back
    refine ⟨reply', received', ?_⟩
    rw [turned', reduceOption_map_some, echo_echo nonempty]

namespace Sample

/-- A response that thinks, speaks twice, and calls a tool in between. -/
def spoken : Response where
  content := [
    .object [("type", .text "thinking"), ("thinking", .text "Where am I?")],
    .object [("citations", .null), ("text", .text "Let me"), ("type", .text "text")],
    .object [("type", .text "tool_use"), ("id", .text "c1"), ("name", .text "look"),
      ("input", .object [("deep", .bool true)])],
    .object [("type", .text "text"), ("text", .text "look.")]]

/-- What is kept of it. -/
def spokenKept : List (Option Block) :=
  [none, some (.text "Let me"), some (.toolUse "c1" "look" [("deep", .bool true)]),
    some (.text "look.")]

theorem spoken_arrives : List.Forall₂ Arrives spoken.content spokenKept := by
  refine .cons (.other ?_ ?_) (.cons (.text rfl rfl) (.cons (.toolUse rfl rfl rfl rfl)
    (.cons (.text rfl rfl) .nil)))
  all_goals
    intro same
    exact absurd (Json.text.inj (Option.some.inj same)) (by decide)

end Sample

/-- The sample is heard as two lines and the call, and what is heard is heard again. -/
theorem response_echoed_spoken :
    ∃ reply, Sample.spoken.toReply = .ok reply ∧
      (∃ c, Conversion.ofMessages [.user "Go.", reply.toMessage, .user "On."] = .ok c ∧
        c.messages = [⟨.user, .text "Go."⟩,
          ⟨.assistant, .blocks [.text "Let me\nlook.",
            .toolUse "c1" "look" [("deep", .bool true)]]⟩,
          ⟨.user, .text "On."⟩]) ∧
      ∃ reply', Response.toReply { content := [
          Block.toJson (.text "Let me\nlook."),
          Block.toJson (.toolUse "c1" "look" [("deep", .bool true)])] } = .ok reply' ∧
        Conversion.assistantMessage reply'.toMessage =
          ⟨.assistant, .blocks [.text "Let me\nlook.",
            .toolUse "c1" "look" [("deep", .bool true)]]⟩ := by
  have heard : echo Sample.spokenKept.reduceOption =
      [.text "Let me\nlook.", .toolUse "c1" "look" [("deep", .bool true)]] := by
    have said : "\n".intercalate ["Let me", "look."] = "Let me\nlook." := by decide
    show (if ("\n".intercalate ["Let me", "look."]).isEmpty then [] else
      [Block.text ("\n".intercalate ["Let me", "look."])]) ++ _ = _
    rw [said]
    rfl
  obtain ⟨reply, received, later, -, back, again⟩ := response_echoed _ Sample.spoken_arrives
  rw [heard] at later back again
  refine ⟨reply, received, ?_, again nofun _ back⟩
  exact ⟨_, (later [.user "Go."] [.user "On."] _).mpr ⟨_, _, rfl, rfl, rfl⟩, rfl⟩

end WebPilot.Hosted
