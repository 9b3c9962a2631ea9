import WebPilot.Proofs.Conversation.Learning

/-!
# Stray answers

An id is *open* at a position of a history if the nearest turn of the assistant before it makes a
call with the id, and no tool message in between has answered it (`Message.IsOpen`).  A tool message
is *in place* where its id is open, and stray otherwise.

Which ids are open at a position is decided by the message before it: a turn opens the ids of its
calls and no others (`Message.isOpen_after_turn`), a tool message closes its own id, and other
messages change nothing (`Message.isOpen_after_other`).  The check of a history keeps the open ids
in just this way.  **So it finds the first tool message that is out of place, and nothing if there
is none** (`firstStray?_verdict`).

A conversation that has come to its end has answered the calls of every turn, in order.  An answer
is then stray exactly if a call before it in the same turn has its id, and **so the check of a
conversation fails exactly if one of its turns has two calls with the same id**
(`Boundary.strays_are_found`).
-/

namespace WebPilot

set_option autoImplicit false

namespace Message

variable {messages : List Message} {i : Nat} {m : Message} {id : Option String}

/-! ## Open ids -/

/-- The nearest turn of the assistant before position `i` stands at `j`. -/
structure NearestTurn (messages : List Message) (i j : Nat) (turn : Message) : Prop where
  before : j < i
  there : messages[j]? = some turn
  speaks : turn.role = .assistant
  nearest : ∀ k other, j < k → k < i → messages[k]? = some other → other.role ≠ .assistant

/-- The nearest turn before position `i` makes a call with the id, and no tool message between the
two has the id. -/
def IsOpen (messages : List Message) (i : Nat) (id : Option String) : Prop :=
  ∃ j turn, NearestTurn messages i j turn ∧ (∃ call ∈ turn.calls, id = some call.id) ∧
    ∀ k other, j < k → k < i → messages[k]? = some other → other.role = .tool →
      other.toolCallId ≠ id

/-- If a tool message stands at the position, its id is open there. -/
def InPlace (messages : List Message) (i : Nat) : Prop :=
  ∀ m, messages[i]? = some m → m.role = .tool → IsOpen messages i m.toolCallId

/-- At the beginning no id is open. -/
theorem not_isOpen_zero : ¬ IsOpen messages 0 id := by
  rintro ⟨j, turn, nearest, _⟩
  exact Nat.not_lt_zero j nearest.before

/-- After a turn the ids of its calls are open, and no others. -/
theorem isOpen_after_turn (there : messages[i]? = some m) (speaks : m.role = .assistant) :
    IsOpen messages (i + 1) id ↔ ∃ call ∈ m.calls, id = some call.id := by
  constructor
  · rintro ⟨j, turn, nearest, called, _⟩
    rcases Nat.lt_succ_iff_lt_or_eq.mp nearest.before with earlier | rfl
    · exact absurd speaks (nearest.nearest i m earlier (Nat.lt_succ_self i) there)
    · obtain rfl := Option.some.inj (there.symm.trans nearest.there)
      exact called
  · intro called
    refine ⟨i, m, ⟨Nat.lt_succ_self i, there, speaks, ?_⟩, called, ?_⟩
    all_goals
      intro k other after before
      omega

/-- After another message the same ids are open, but for the id that a tool message answers. -/
theorem isOpen_after_other (there : messages[i]? = some m) (silent : m.role ≠ .assistant) :
    IsOpen messages (i + 1) id ↔
      IsOpen messages i id ∧ (m.role = .tool → m.toolCallId ≠ id) := by
  constructor
  · rintro ⟨j, turn, nearest, called, fresh⟩
    have earlier : j < i := by
      rcases Nat.lt_succ_iff_lt_or_eq.mp nearest.before with earlier | rfl
      · exact earlier
      · obtain rfl := Option.some.inj (there.symm.trans nearest.there)
        exact absurd nearest.speaks silent
    refine ⟨⟨j, turn, ⟨earlier, nearest.there, nearest.speaks, ?_⟩, called, ?_⟩, ?_⟩
    · intro k other after before
      exact nearest.nearest k other after (Nat.lt_succ_of_lt before)
    · intro k other after before
      exact fresh k other after (Nat.lt_succ_of_lt before)
    · exact fresh i m earlier (Nat.lt_succ_self i) there
  · rintro ⟨⟨j, turn, nearest, called, fresh⟩, unanswered⟩
    refine ⟨j, turn, ⟨Nat.lt_succ_of_lt nearest.before, nearest.there, nearest.speaks, ?_⟩, called,
      ?_⟩
    · intro k other after before here
      rcases Nat.lt_succ_iff_lt_or_eq.mp before with before | rfl
      · exact nearest.nearest k other after before here
      · obtain rfl := Option.some.inj (there.symm.trans here)
        exact silent
    · intro k other after before here
      rcases Nat.lt_succ_iff_lt_or_eq.mp before with before | rfl
      · exact fresh k other after before here
      · obtain rfl := Option.some.inj (there.symm.trans here)
        exact unanswered

/-! ## The check -/

/-- What the check says of the positions from `i` on: all are in place, or the first one that is not
is the one found. -/
def Verdict (messages : List Message) (i : Nat) : Option (Nat × Message) → Prop
  | none => ∀ k, i ≤ k → InPlace messages k
  | some (k, m) => i ≤ k ∧ messages[k]? = some m ∧ ¬ InPlace messages k ∧
      ∀ earlier, i ≤ earlier → earlier < k → InPlace messages earlier

/-- A verdict about the positions after one that is in place is one about this position too. -/
theorem Verdict.before {found : Option (Nat × Message)} (inPlace : InPlace messages i)
    (later : Verdict messages (i + 1) found) : Verdict messages i found := by
  have reach {k : Nat} (from_ : i ≤ k) (rest : i + 1 ≤ k → InPlace messages k) :
      InPlace messages k := by
    rcases Nat.eq_or_lt_of_le from_ with rfl | after
    · exact inPlace
    · exact rest after
  match found, later with
  | none, later => exact fun k from_ => reach from_ (later k)
  | some (k, m), ⟨from_, there, stray, first⟩ =>
      refine ⟨Nat.le_of_succ_le from_, there, stray, ?_⟩
      intro earlier from_ before
      exact reach from_ fun after => first earlier after before

end Message

open Message

/-- **The check from a position on**, where the ids that it keeps are those that are open there. -/
theorem strayFrom?_verdict {messages rest : List Message} {open? : Option (List String)} {i : Nat}
    (left : messages.drop i = rest)
    (tracks : ∀ id, id ∈ open?.getD [] ↔ IsOpen messages i (some id)) :
    Verdict messages i (strayFrom? open? i rest) := by
  induction rest generalizing open? i with
  | nil =>
      intro k from_ m there
      have short : messages.length ≤ k := Nat.le_trans (List.drop_eq_nil_iff.mp left) from_
      rw [List.getElem?_eq_none short] at there
      cases there
  | cons m rest ih =>
      have there : messages[i]? = some m := by
        rw [← List.head?_drop, left, List.head?_cons]
      have next : messages.drop (i + 1) = rest := by
        rw [← List.tail_drop, left, List.tail_cons]
      have inPlace (other : m.role ≠ .tool) : InPlace messages i := by
        intro found here tool
        obtain rfl := Option.some.inj (there.symm.trans here)
        exact absurd tool other
      cases role : m.role with
      | assistant =>
          simp only [strayFrom?, role]
          refine .before (inPlace (by simp [role])) (ih next fun id => ?_)
          rw [isOpen_after_turn there role]
          simp only [Option.getD_some, List.mem_map, Option.some.injEq, @eq_comm _ id]
      | system | user =>
          simp only [strayFrom?, role]
          refine .before (inPlace (by simp [role])) (ih next fun id => ?_)
          rw [isOpen_after_other there (by simp [role]), tracks id]
          simp [role]
      | tool =>
          have stray (closed : ¬ IsOpen messages i m.toolCallId) :
              Verdict messages i (some (i, m)) := by
            refine ⟨Nat.le_refl i, there, fun inPlace => closed (inPlace m there role), ?_⟩
            intro earlier from_ before
            omega
          simp only [strayFrom?, role]
          split
          · rename_i id named
            split
            · rename_i isOpen
              have isOpen : IsOpen messages i (some id) :=
                (tracks id).mp (by simpa using isOpen)
              refine .before ?_ (ih next fun other => ?_)
              · intro found here _
                obtain rfl := Option.some.inj (there.symm.trans here)
                rwa [named]
              · rw [isOpen_after_other there (by simp [role]), named, ← tracks other]
                simp [role, @eq_comm _ id]
            · rename_i closed
              refine stray ?_
              rw [named, ← tracks id]
              simpa using closed
          · rename_i unnamed
            refine stray ?_
            rintro ⟨_, _, _, ⟨call, _, same⟩, _⟩
            rw [unnamed] at same
            cases same

/-- **The check finds the first tool message that is out of place.** -/
theorem firstStray?_verdict (messages : List Message) :
    Verdict messages 0 (firstStray? messages) := by
  refine strayFrom?_verdict List.drop_zero fun id => ?_
  exact iff_of_false List.not_mem_nil not_isOpen_zero

/-! ## The check of a conversation -/

section Answers

variable {calls : List ToolCall} {answers : List Message}

/-- Answers to calls with distinct ids, in the order of the calls, are not stray. -/
theorem strayFrom?_answers {ids : List String} (distinct : (calls.map ToolCall.id).Nodup)
    (inside : ∀ call ∈ calls, call.id ∈ ids)
    (answered : answers.map (fun m => (m.role, m.toolCallId)) =
      calls.map fun call => (Role.tool, some call.id)) (index : Nat) (rest : List Message) :
    ∃ left later, strayFrom? (some ids) index (answers ++ rest) =
      strayFrom? (some left) later rest := by
  induction answers generalizing calls ids index with
  | nil => exact ⟨ids, index, rfl⟩
  | cons m answers ih =>
      cases calls with
      | nil => cases answered
      | cons call calls =>
          obtain ⟨head, tail⟩ := List.cons.inj answered
          obtain ⟨role, id⟩ := Prod.mk.inj head
          obtain ⟨fresh, distinct⟩ := List.nodup_cons.mp distinct
          obtain ⟨first, inside⟩ := List.forall_mem_cons.mp inside
          have isOpen : ids.contains call.id = true := List.contains_iff_mem.mpr first
          simp only [List.cons_append, strayFrom?, role, id, Option.getD_some, isOpen, if_true]
          refine ih distinct (fun other member => ?_) tail _
          refine List.mem_filter.mpr ⟨inside other member, ?_⟩
          have different : other.id ≠ call.id := fun same =>
            fresh (same ▸ List.mem_map_of_mem member)
          simpa using different

/-- Rounds whose calls have distinct ids hold no stray answers. -/
theorem Round.strayFrom?_messages {rounds : List Round} (complete : ∀ r ∈ rounds, r.Complete)
    (distinct : ∀ r ∈ rounds, (r.turn.calls.map ToolCall.id).Nodup)
    (open? : Option (List String)) (index : Nat) (rest : List Message) :
    ∃ left later, strayFrom? open? index (rounds.flatMap Round.messages ++ rest) =
      strayFrom? left later rest := by
  induction rounds generalizing open? index with
  | nil => exact ⟨open?, index, rfl⟩
  | cons r rounds ih =>
      obtain ⟨first, complete⟩ := List.forall_mem_cons.mp complete
      obtain ⟨apart, distinct⟩ := List.forall_mem_cons.mp distinct
      have inside : ∀ call ∈ r.turn.calls, call.id ∈ r.turn.calls.map ToolCall.id :=
        fun _ member => List.mem_map_of_mem member
      obtain ⟨left, later, answered⟩ := strayFrom?_answers apart inside first.answers (index + 1)
        (rounds.flatMap Round.messages ++ rest)
      obtain ⟨left', later', rounds⟩ := ih complete distinct (some left) later
      refine ⟨left', later', ?_⟩
      simp only [List.flatMap_cons, Round.messages, List.cons_append, List.append_assoc, strayFrom?,
        first.speaks]
      rw [answered, rounds]

end Answers

namespace Boundary

variable {rt : Runtime} {s : Surroundings} {task : String} {w w' : World} {b : Boundary}
  {rounds : List Round} {last? : Option Message}

/-- Where no calls wait, no answer is stray exactly if the calls of every turn have distinct ids. -/
theorem Shape.no_strays_iff (shape : Shape task b rounds last?) (settled : b.state.pending = []) :
    firstStray? b.state.messages = none ↔
      ∀ turn ∈ b.state.messages, turn.role = .assistant →
        (turn.calls.map ToolCall.id).Nodup := by
  have history : b.state.messages = Message.system systemPrompt :: Message.user task ::
      (rounds.flatMap Round.messages ++ last?.toList) := by
    rw [shape.messages]
    simp
  have opening : firstStray? b.state.messages =
      strayFrom? none 2 (rounds.flatMap Round.messages ++ last?.toList) := by
    rw [history]
    rfl
  constructor
  · intro lawful turn member speaks
    rw [opening] at lawful
    have distinct := Round.distinct_of_lawful shape.complete lawful
    rw [history] at member
    rcases List.mem_cons.mp member with rfl | member
    · cases speaks
    rcases List.mem_cons.mp member with rfl | member
    · cases speaks
    rcases List.mem_append.mp member with inRound | last
    · obtain ⟨r, inside, member⟩ := List.mem_flatMap.mp inRound
      rcases List.mem_cons.mp member with rfl | answer
      · exact distinct r inside
      · rw [(shape.complete r inside).role answer] at speaks
        cases speaks
    · obtain rfl := Option.mem_toList.mp last
      have silent : turn.calls = [] := by simpa [settled] using shape.pending.symm
      rw [silent]
      exact .nil
  · intro distinct
    have apart : ∀ r ∈ rounds, (r.turn.calls.map ToolCall.id).Nodup := by
      intro r inside
      refine distinct r.turn ?_ (shape.complete r inside).speaks
      rw [history]
      have member : r.turn ∈ rounds.flatMap Round.messages :=
        List.mem_flatMap.mpr ⟨r, inside, List.mem_cons_self⟩
      simp [member]
    obtain ⟨left, later, checked⟩ :=
      Round.strayFrom?_messages shape.complete apart none 2 last?.toList
    rw [opening, checked]
    cases last? with
    | none => rfl
    | some turn => simp [strayFrom?, shape.speaks turn rfl]

/-- A conversation that has taken all its steps is checked, and that decides how it ends. -/
theorem converse_of_taken {final : State}
    (taken : takeSteps rt rt.settings.stepLimit.toNat .agent
      (.initial task rt.settings.maxIterations) s w = (.ok final, w')) :
    converse rt task s w =
      (match firstStray? final.messages with
        | some stray => .error (.badValue (strayReport stray.1 stray.2))
        | none => .ok (.ofState final), w') := by
  have permitted : ¬ rt.settings.stepLimit < 1 := by
    intro few
    rw [Int.toNat_of_nonpos (by omega)] at taken
    cases taken
  rw [converse, if_neg permitted, Act.bind_of_ok taken]
  cases firstStray? final.messages <;> rfl

/-- **Stray answers are found.**  The check of a history finds nothing exactly if every tool message
in it is in place, and otherwise the first one that is not.  A conversation that has taken all its
steps ends in the report of a stray answer exactly if one of its turns has two calls with the same
id, and in a result otherwise. -/
theorem strays_are_found (rt : Runtime) (s : Surroundings) (task : String) (w : World)
    (messages : List Message) :
    (firstStray? messages = none ↔ ∀ i, InPlace messages i) ∧
    (∀ i m, firstStray? messages = some (i, m) →
      messages[i]? = some m ∧ ¬ InPlace messages i ∧ ∀ k < i, InPlace messages k) ∧
    ∀ final w', takeSteps rt rt.settings.stepLimit.toNat .agent
        (.initial task rt.settings.maxIterations) s w = (.ok final, w') →
      ((∃ i m, firstStray? final.messages = some (i, m) ∧
          converse rt task s w = (.error (.badValue (strayReport i m)), w')) ↔
        ∃ turn ∈ final.messages, turn.role = .assistant ∧
          ¬ (turn.calls.map ToolCall.id).Nodup) ∧
      ((∀ turn ∈ final.messages, turn.role = .assistant → (turn.calls.map ToolCall.id).Nodup) →
        converse rt task s w = (.ok (.ofState final), w')) := by
  have verdict := firstStray?_verdict messages
  refine ⟨⟨?_, ?_⟩, ?_, ?_⟩
  · intro none
    rw [none] at verdict
    exact fun i => verdict i (Nat.zero_le i)
  · intro all
    cases found : firstStray? messages with
    | none => rfl
    | some stray =>
        rw [found] at verdict
        exact absurd (all stray.1) verdict.2.2.1
  · intro i m found
    rw [found] at verdict
    obtain ⟨_, there, stray, first⟩ := verdict
    exact ⟨there, stray, fun k before => first k (Nat.zero_le k) before⟩
  · intro final w' taken
    obtain ⟨b, reached, halts⟩ := takeSteps_halts taken
    cases halts
    obtain ⟨rounds, last?, shape, _⟩ := reached_shape reached
    have lawful := shape.no_strays_iff (shape.settled rfl)
    have checked := converse_of_taken taken
    refine ⟨⟨?_, ?_⟩, ?_⟩
    · rintro ⟨i, m, found, _⟩
      by_contra distinct
      have none := lawful.mpr fun turn member speaks =>
        by_contra fun repeated => distinct ⟨turn, member, speaks, repeated⟩
      rw [none] at found
      cases found
    · rintro ⟨turn, member, speaks, repeated⟩
      cases found : firstStray? final.messages with
      | none => exact absurd (lawful.mp found turn member speaks) repeated
      | some stray =>
          rw [found] at checked
          exact ⟨stray.1, stray.2, rfl, checked⟩
    · intro distinct
      rw [lawful.mpr distinct] at checked
      exact checked

end Boundary

/-! ## A sample -/

namespace Sample

/-- Two calls with the same id. -/
def twinCalls : List ToolCall :=
  [⟨"first", "look", []⟩, ⟨"first", "listen", []⟩]

/-- The reply that makes these calls. -/
def twinReply : Reply :=
  { content := "", toolCalls := twinCalls }

/-- A conversation of one reply. -/
def twins : Runtime where
  session := {
    backend := ⟨.ok [], fun _ _ _ => ([], .ok (.ofText ""))⟩
    catalog := .ofTools [] }
  model := .direct fun _ _ => .ok twinReply
  tools := []
  settings := { maxIterations := 1 }

end Sample

/-- The second answer to a model that uses an id twice is found. -/
theorem Boundary.strays_are_found_twins :
    ¬ (Sample.twinCalls.map ToolCall.id).Nodup ∧
      ∀ s, ∃ i m w', converse Sample.twins "task" s .fresh =
        (.error (.badValue (strayReport i m)), w') := by
  have repeated : ¬ (Sample.twinCalls.map ToolCall.id).Nodup := by decide
  refine ⟨repeated, fun s => ?_⟩
  obtain ⟨final, w', taken, spoken⟩ : ∃ final w',
      takeSteps Sample.twins Sample.twins.settings.stepLimit.toNat .agent
        (.initial "task" Sample.twins.settings.maxIterations) s .fresh = (.ok final, w') ∧
      final.messages[2]? = some Sample.twinReply.toMessage :=
    ⟨_, _, rfl, rfl⟩
  obtain ⟨_, _, conversations⟩ := strays_are_found Sample.twins s "task" .fresh []
  obtain ⟨ends, _⟩ := conversations final w' taken
  obtain ⟨i, m, _, reported⟩ := ends.mpr ⟨_, List.mem_of_getElem? spoken, rfl, repeated⟩
  exact ⟨i, m, w', reported⟩

end WebPilot
