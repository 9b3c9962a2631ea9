import WebPilot.Proofs.Conversation.Failing
import WebPilot.Proofs.Conversation.Replies
import WebPilot.Proofs.Conversation.Step

/-!
# How long a conversation takes

Two numbers bound a conversation: how often the model may be asked, and a limit of steps that is
derived from it.  The first one is looked at only after the tools' step, so one reply is always
asked for, and a walk that has come to `n` replies has taken twice as many steps, or one less, or
one more (`Boundary.Counted`).  **So every walk is short, whatever the limit of steps is**
(`Boundary.Counted.short`), and every conversation has an end.

A run fails for its limit exactly if it can take all the steps that the limit allows
(`takeSteps_exhausted_iff`), for the last one of them is one too many.  **Where the number of
replies is not negative the limit is never met** (`Boundary.conversation_ceiling`).  The numbers
below zero are the only ones for which it is.
-/

namespace WebPilot

set_option autoImplicit false

/-! ## Counted walks -/

namespace Boundary

/-- A number of steps. -/
inductive Steps (rt : Runtime) (s : Surroundings) : Nat → Boundary → Boundary → Prop
  | none {b : Boundary} : Steps rt s 0 b b
  | first {n : Nat} {b c d : Boundary} (advance : Advance rt s b c) (rest : Steps rt s n c d) :
      Steps rt s (n + 1) b d

/-- How a run that may take `left` steps ends, at the boundary reached in `n` of them. -/
inductive Finishes (rt : Runtime) (s : Surroundings) (left : Nat) :
    Nat → Boundary → Except Failure State → World → Prop
  | ended {n : Nat} {state : State} {w : World} (within : n < left) :
      Finishes rt s left n ⟨none, state, w⟩ (.ok state) w
  | exhausted {b : Boundary} : Finishes rt s left left b (.error .stepLimit) b.world
  | aborted {n : Nat} {node : Node} {state : State} {w w' : World} {failure : Failure}
      (within : n < left) (run : node.step rt state s w = (.error failure, w')) :
      Finishes rt s left n ⟨some node, state, w⟩ (.error failure) w'

variable {rt : Runtime} {s : Surroundings} {b : Boundary} {n left : Nat}

theorem Finishes.more {outcome : Except Failure State} {w' : World}
    (finishes : Finishes rt s left n b outcome w') :
    Finishes rt s (left + 1) (n + 1) b outcome w' := by
  cases finishes with
  | ended within => exact .ended (Nat.succ_lt_succ within)
  | exhausted => exact .exhausted
  | aborted within run => exact .aborted (Nat.succ_lt_succ within) run

end Boundary

open Boundary

variable {rt : Runtime} {s : Surroundings} {w w' : World} {node : Node} {state : State}
  {left : Nat}

/-- Taking steps counts them. -/
theorem takeSteps_finishes {outcome : Except Failure State}
    (run : takeSteps rt left node state s w = (outcome, w')) :
    ∃ n b, Steps rt s n ⟨some node, state, w⟩ b ∧ Finishes rt s left n b outcome w' := by
  induction left generalizing node state w with
  | zero =>
      cases run
      exact ⟨0, _, .none, .exhausted (b := ⟨some node, state, _⟩)⟩
  | succ left ih =>
      rcases Act.bind_cases run with ⟨update, middle, stepped, rest⟩ | ⟨failure, stepped, rfl⟩
      · have first : Advance rt s ⟨some node, state, w⟩
            ⟨node.next? (state.apply update), state.apply update, middle⟩ := .step stepped
        by_cases last : left = 0
        · subst last
          cases rest
          exact ⟨1, _, .first first .none, .exhausted⟩
        · simp only [last, if_false] at rest
          cases next : node.next? (state.apply update) with
          | none =>
              simp only [next] at rest first
              cases rest
              exact ⟨1, _, .first first .none, .ended (by omega)⟩
          | some following =>
              simp only [next] at rest first
              obtain ⟨n, b, steps, finishes⟩ := ih rest
              exact ⟨n + 1, b, .first first steps, finishes.more⟩
      · exact ⟨0, _, .none, .aborted (Nat.succ_pos left) stepped⟩

/-- A run that can take all its steps fails. -/
theorem takeSteps_exhausted {b : Boundary} (steps : Steps rt s left ⟨some node, state, w⟩ b) :
    takeSteps rt left node state s w = (.error .stepLimit, b.world) := by
  induction left generalizing node state w with
  | zero =>
      cases steps
      rfl
  | succ left ih =>
      cases steps with
      | first advance rest =>
          cases advance with
          | step stepped =>
              rw [takeSteps, Act.bind_of_ok stepped]
              by_cases last : left = 0
              · subst last
                cases rest
                rfl
              · simp only [last, if_false]
                cases next : node.next? (state.apply _) with
                | none =>
                    rw [next] at rest
                    cases rest with
                    | none => exact absurd rfl last
                    | first advance _ => cases advance
                | some following =>
                    rw [next] at rest
                    exact ih rest

/-- **A run fails for its limit exactly if it can take all the steps that the limit allows.** -/
theorem takeSteps_exhausted_iff (plain : rt.model.Plain) :
    (takeSteps rt left node state s w).1 = .error .stepLimit ↔
      ∃ b, Steps rt s left ⟨some node, state, w⟩ b := by
  constructor
  · intro failed
    rcases run : takeSteps rt left node state s w with ⟨outcome, w'⟩
    rw [run] at failed
    obtain ⟨n, b, steps, finishes⟩ := takeSteps_finishes run
    cases finishes with
    | ended => cases failed
    | exhausted => exact ⟨b, steps⟩
    | aborted within stepped =>
        cases failed
        exact absurd rfl ((Node.step_withinLimit plain _ _).run stepped)
  · rintro ⟨b, steps⟩
    rw [takeSteps_exhausted steps]

/-! ## Counting replies and steps -/

/-- How many replies there may be. -/
def Settings.mostReplies (settings : Settings) : Nat :=
  (max 1 settings.maxIterations).toNat

/-- The state in which a conversation about a task begins. -/
abbrev Runtime.opening (rt : Runtime) (task : String) : State :=
  .initial task rt.settings.maxIterations

/-- The last reply asks for tools. -/
def LastCalls (replies : List Reply) : Prop :=
  ∃ reply, replies.getLast? = some reply ∧ reply.toolCalls ≠ []

theorem lastCalls_concat {replies : List Reply} {reply : Reply} :
    LastCalls (replies ++ [reply]) ↔ reply.toolCalls ≠ [] := by
  simp [LastCalls]

namespace Boundary

/-- Where a walk stands that has come to these replies in `n` steps. -/
def Stands (most n : Nat) (replies : List Reply) (truncated : Bool) : Option Node → Prop
  | some .agent => n = 2 * replies.length ∧ replies.length < most ∧ truncated = false
  | some .tools =>
    n + 1 = 2 * replies.length ∧ replies.length ≤ most ∧ LastCalls replies ∧ truncated = false
  | some .limit =>
    n = 2 * replies.length ∧ replies.length = most ∧ LastCalls replies ∧ truncated = false
  | none =>
    n ≤ 2 * most + 1 ∧ replies.length ≤ most ∧
      (truncated = true ↔ replies.length = most ∧ LastCalls replies)

/-- The boundary is come to in `n` steps and with these replies. -/
structure Counted (rt : Runtime) (w : World) (n : Nat) (replies : List Reply) (b : Boundary) :
    Prop where
  given : rt.model.Gives w replies b.world
  iteration : b.state.iteration = replies.length
  most : b.state.maxIterations = rt.settings.maxIterations
  stands : Stands rt.settings.mostReplies n replies b.state.truncated b.next

variable {b b' : Boundary} {n : Nat} {replies : List Reply} {task : String}

theorem start_counted (rt : Runtime) (task : String) (w : World) :
    Counted rt w 0 [] (start rt task w) where
  given := .of_same rfl
  iteration := rfl
  most := rfl
  stands := ⟨rfl, by simp only [List.length_nil, Settings.mostReplies]; omega, rfl⟩

/-- The agent's step adds a reply. -/
theorem Counted.agent {state : State} {v v' : World} {reply : Reply}
    (counted : Counted rt w n replies ⟨some .agent, state, v⟩)
    (heard : rt.model.Gives v [reply] v') :
    Counted rt w (n + 1) (replies ++ [reply])
      ⟨Node.afterAgent (state.apply (replyUpdate state reply)),
        state.apply (replyUpdate state reply), v'⟩ := by
  obtain ⟨given, iteration, most, steps, below, whole⟩ := counted
  simp only at iteration whole
  have length : (replies ++ [reply]).length = replies.length + 1 := by simp
  have next : Node.afterAgent (state.apply (replyUpdate state reply)) =
      if reply.toolCalls = [] then none else some .tools := by
    simp [Node.afterAgent, State.apply, replyUpdate]
  refine ⟨given.trans heard, ?_, most, ?_⟩
  · show state.iteration + 1 = ((replies ++ [reply]).length : Int)
    rw [length, iteration]
    rfl
  · rw [next]
    split
    · rename_i silent
      have quiet : ¬ LastCalls (replies ++ [reply]) := fun calls =>
        lastCalls_concat.mp calls silent
      refine ⟨by omega, by omega, iff_of_false ?_ fun full => quiet full.2⟩
      simp [State.apply, replyUpdate, whole]
    · rename_i calls
      exact ⟨by omega, by omega, lastCalls_concat.mpr calls, whole⟩

/-- The tools' step adds none, and leads to the limit once there are as many as there may be. -/
theorem Counted.tools {state : State} {v v' : World}
    (counted : Counted rt w n replies ⟨some .tools, state, v⟩) (unheard : Same World.asked v v')
    (result : CallsResult) :
    Counted rt w (n + 1) replies
      ⟨some (Node.afterTools (state.apply result.toUpdate)), state.apply result.toUpdate, v'⟩ := by
  obtain ⟨given, iteration, most, steps, within, calls, whole⟩ := counted
  have asked : (state.apply result.toUpdate).iteration = replies.length := iteration
  have bound : (state.apply result.toUpdate).maxIterations = rt.settings.maxIterations := most
  refine ⟨by simpa using given.trans (.of_same unheard), asked, bound, ?_⟩
  rw [Node.afterTools, bound, asked]
  unfold Settings.mostReplies at within ⊢
  split
  · exact ⟨by omega, by omega, calls, whole⟩
  · exact ⟨by omega, by omega, whole⟩

/-- The limit's step ends the conversation. -/
theorem Counted.limit {state : State} {v v' : World}
    (counted : Counted rt w n replies ⟨some .limit, state, v⟩) (unheard : Same World.asked v v') :
    Counted rt w (n + 1) replies ⟨none, state.apply limitUpdate, v'⟩ := by
  obtain ⟨given, iteration, most, steps, full, calls, _⟩ := counted
  exact ⟨by simpa using given.trans (.of_same unheard), iteration, most, by omega, by omega,
    iff_of_true rfl ⟨full, calls⟩⟩

/-- **One step counts.** -/
theorem Counted.advance (counted : Counted rt w n replies b) (advance : Advance rt s b b') :
    ∃ replies', Counted rt w (n + 1) replies' b' := by
  cases advance with
  | @step node state v v' update run =>
      cases node with
      | agent =>
          rcases agentStep_cases run with ⟨reply, same, heard⟩ | ⟨_, _, impossible, _⟩
          · cases same
            exact ⟨_, counted.agent heard⟩
          · cases impossible
      | tools =>
          rcases toolsStep_cases run with ⟨result, same, _⟩ | ⟨_, impossible, _⟩
          · cases same
            exact ⟨_, counted.tools ((toolsStep_asked rt state).run run) result⟩
          · cases impossible
      | limit =>
          have unheard : Same World.asked v v' := limitStep_quiet.asked.run run
          cases limitStep_eq run
          exact ⟨_, counted.limit unheard⟩

/-- A step that fails has got at most one more reply, where the agent's step may still get one. -/
theorem Counted.abort {node : Node} {state : State} {v v' : World} {failure : Failure}
    (counted : Counted rt w n replies ⟨some node, state, v⟩)
    (run : node.step rt state s v = (.error failure, v')) :
    ∃ replies', rt.model.Gives w replies' v' ∧
      replies'.length ≤ rt.settings.mostReplies := by
  obtain ⟨given, _, _, stands⟩ := counted
  cases node with
  | agent =>
      rcases agentStep_cases run with ⟨_, impossible, _⟩ | ⟨_, more, _, one, heard⟩
      · cases impossible
      · refine ⟨_, given.trans heard, ?_⟩
        have below := stands.2.1
        rw [List.length_append]
        omega
  | tools =>
      exact ⟨_, given.trans (.of_same ((toolsStep_asked rt state).run run)), by
        simpa using stands.2.1⟩
  | limit => cases limitStep_eq run

/-- Steps count from wherever they start. -/
theorem Counted.steps {m : Nat} (counted : Counted rt w n replies b) (steps : Steps rt s m b b') :
    ∃ replies', Counted rt w (n + m) replies' b' := by
  induction steps generalizing n replies with
  | none => exact ⟨replies, counted⟩
  | @first m b c d advance _ ih =>
      obtain ⟨_, counted⟩ := counted.advance advance
      rw [show n + (m + 1) = n + 1 + m by omega]
      exact ih counted

theorem counted_of_steps (task : String) (steps : Steps rt s n (start rt task w) b) :
    ∃ replies, Counted rt w n replies b := by
  simpa only [Nat.zero_add] using (start_counted rt task w).steps steps

/-- **A counted walk is short**, and so it is with one more step where one comes next. -/
theorem Counted.short (counted : Counted rt w n replies b) :
    n ≤ 2 * rt.settings.mostReplies + 1 ∧
      (b.next ≠ none → n + 1 ≤ 2 * rt.settings.mostReplies + 1) ∧
      replies.length ≤ rt.settings.mostReplies := by
  obtain ⟨_, _, _, stands⟩ := counted
  rcases next : b.next with _ | _ | _ | _
  all_goals
    rw [next] at stands
    simp only [Stands] at stands
    refine ⟨by omega, ?_, by omega⟩
    intro _
  · contradiction
  all_goals omega

/-- Every run of a conversation ends after a counted walk, and what it has heard is counted, however
it ends. -/
theorem converse_counted (rt : Runtime) (s : Surroundings) (task : String) (w : World) :
    ∃ n b replies, Steps rt s n (start rt task w) b ∧
      Ends rt s b (converse rt task s w).1 (converse rt task s w).2 ∧
      rt.model.Gives w replies (converse rt task s w).2 ∧
      replies.length ≤ rt.settings.mostReplies ∧
      ∀ result, (converse rt task s w).1 = .ok result → Counted rt w n replies b ∧
        b.next = none ∧ result = .ofState b.state := by
  rcases run : converse rt task s w with ⟨outcome, w'⟩
  unfold converse at run
  split at run
  · cases run
    exact ⟨0, _, [], .none, .stopped (b := start rt task _) _, .of_same rfl, Nat.zero_le _,
      fun _ same => by cases same⟩
  rcases Act.bind_cases run with ⟨final, middle, taken, rest⟩ | ⟨failure, taken, rfl⟩
  · obtain ⟨n, b, steps, finishes⟩ := takeSteps_finishes taken
    obtain ⟨replies, counted⟩ := counted_of_steps task steps
    cases finishes with
    | ended =>
        cases answered : firstStray? final.messages with
        | some stray =>
            rw [answered] at rest
            cases rest
            exact ⟨n, _, replies, steps, .stopped (b := ⟨none, final, _⟩) _, counted.given,
              counted.short.2.2, fun _ same => by cases same⟩
        | none =>
            rw [answered] at rest
            cases rest
            exact ⟨n, _, replies, steps, .returned answered, counted.given, counted.short.2.2,
              fun result same => ⟨counted, rfl, (Except.ok.inj same).symm⟩⟩
  · obtain ⟨n, b, steps, finishes⟩ := takeSteps_finishes taken
    obtain ⟨replies, counted⟩ := counted_of_steps task steps
    cases finishes with
    | exhausted =>
        exact ⟨_, b, replies, steps, .stopped _, counted.given, counted.short.2.2,
          fun _ same => by cases same⟩
    | aborted within stepped =>
        obtain ⟨replies', given, few⟩ := counted.abort stepped
        exact ⟨n, _, replies', steps, .aborted stepped, given, few, fun _ same => by cases same⟩

/-! ## The limit of steps -/

/-- Some number of steps can be taken. -/
def CanTake (rt : Runtime) (s : Surroundings) (n : Nat) (b : Boundary) : Prop :=
  ∃ b', Steps rt s n b b'

theorem canTake_zero (b : Boundary) : CanTake rt s 0 b :=
  ⟨b, .none⟩

/-- Nothing comes after the end. -/
theorem not_canTake_none {state : State} : ¬ CanTake rt s (n + 1) ⟨none, state, w⟩ := by
  rintro ⟨_, steps⟩
  cases steps with
  | first advance _ => cases advance

theorem canTake_succ {node : Node} {state : State} :
    CanTake rt s (n + 1) ⟨some node, state, w⟩ ↔ ∃ update v,
      node.step rt state s w = (.ok update, v) ∧
        CanTake rt s n ⟨node.next? (state.apply update), state.apply update, v⟩ := by
  constructor
  · rintro ⟨b, steps⟩
    cases steps with
    | first advance rest =>
        cases advance with
        | step run => exact ⟨_, _, run, b, rest⟩
  · rintro ⟨update, v, run, b, rest⟩
    exact ⟨b, .first (.step run) rest⟩

/-- A conversation that is allowed a step at all fails for its limit exactly if it can take all the
steps that it is allowed. -/
theorem converse_exhausted_iff (plain : rt.model.Plain) (allowed : 1 ≤ rt.settings.stepLimit) :
    (converse rt task s w).1 = .error .stepLimit ↔
      CanTake rt s rt.settings.stepLimit.toNat (start rt task w) := by
  have permitted : ¬ rt.settings.stepLimit < 1 := by omega
  refine Iff.trans ?_ (takeSteps_exhausted_iff plain)
  rw [converse, if_neg permitted, Act.bind_apply]
  rcases takeSteps rt rt.settings.stepLimit.toNat .agent
    (.initial task rt.settings.maxIterations) s w with ⟨_ | final, v⟩
  · exact Iff.of_eq (by simp)
  · refine iff_of_false ?_ nofun
    cases answered : firstStray? final.messages <;> simp [answered, Act.fail, Act.done]

/-- One step can be taken exactly if the agent gets a first reply. -/
theorem canTake_one :
    CanTake rt s 1 (start rt task w) ↔
      ∃ reply v, agentStep rt (rt.opening task) s w =
        (.ok (replyUpdate (rt.opening task) reply), v) := by
  unfold start
  rw [canTake_succ]
  constructor
  · rintro ⟨update, v, run, _⟩
    obtain ⟨reply, rfl⟩ := agentStep_ok run
    exact ⟨reply, v, run⟩
  · rintro ⟨reply, v, run⟩
    exact ⟨_, v, run, canTake_zero _⟩

/-- Where there is to be one reply only, three steps can be taken exactly if it asks for tools and
its calls are run. -/
theorem canTake_three (few : rt.settings.maxIterations ≤ 1) :
    CanTake rt s 3 (start rt task w) ↔ ∃ reply v update v',
      agentStep rt (rt.opening task) s w = (.ok (replyUpdate (rt.opening task) reply), v) ∧
      reply.toolCalls ≠ [] ∧
      toolsStep rt ((rt.opening task).apply (replyUpdate (rt.opening task) reply)) s v =
        (.ok update, v') := by
  have next (reply : Reply) :
      Node.afterAgent ((rt.opening task).apply (replyUpdate (rt.opening task) reply)) =
        if reply.toolCalls = [] then none else some .tools := by
    simp [Node.afterAgent, State.apply, replyUpdate]
  unfold start
  rw [canTake_succ]
  constructor
  · rintro ⟨update, v, run, more⟩
    obtain ⟨reply, rfl⟩ := agentStep_ok run
    rw [Node.next?, next] at more
    split at more
    · exact absurd more not_canTake_none
    · rename_i calls
      obtain ⟨update, v', running, _⟩ := canTake_succ.mp more
      exact ⟨reply, v, update, v', run, calls, running⟩
  · rintro ⟨reply, v, update, v', run, calls, running⟩
    refine ⟨_, v, run, ?_⟩
    rw [Node.next?, next, if_neg calls]
    refine canTake_succ.mpr ⟨update, v', running, ?_⟩
    rcases toolsStep_cases running with ⟨result, same, _⟩ | ⟨_, impossible, _⟩
    case inr => cases impossible
    cases same
    rw [Node.next?, Node.afterTools, if_pos]
    · exact canTake_succ.mpr ⟨limitUpdate, _, rfl, canTake_zero _⟩
    · exact few

/-- A run takes so many steps, ends at a boundary, and is given these replies. -/
structure Replied (rt : Runtime) (s : Surroundings) (task : String) (w : World) (steps : Nat)
    (b : Boundary) (replies : List Reply) : Prop where
  reached : Steps rt s steps (start rt task w) b
  ends : Ends rt s b (converse rt task s w).1 (converse rt task s w).2
  given : rt.model.Gives w replies (converse rt task s w).2
  few : replies.length ≤ rt.settings.mostReplies
  /-- A result counts the replies, and is truncated exactly if there are as many as there may be and
  the last of them asks for tools. -/
  counted : ∀ result, (converse rt task s w).1 = .ok result →
    result.iterations = replies.length ∧
      (result.truncated = true ↔ replies.length = rt.settings.mostReplies ∧ LastCalls replies)

/-- The ceiling of a conversation. -/
structure Ceiling (rt : Runtime) (s : Surroundings) (task : String) (w : World) : Prop where
  /-- There are twice as many steps as there may be replies and one more, at most. -/
  steps : ∀ n b, Steps rt s n (start rt task w) b → n ≤ 2 * rt.settings.mostReplies + 1 ∧
    (b.next ≠ none → n + 1 ≤ 2 * rt.settings.mostReplies + 1)
  /-- There are as many replies as there may be, at most. -/
  replies : ∃ n b replies, Replied rt s task w n b replies
  /-- From three below zero on nothing is done at all. -/
  forbidden : rt.settings.maxIterations ≤ -3 →
    converse rt task s w = (.error (.badValue "recursion_limit must be at least 1"), w)
  /-- At two below every first reply is one step too many. -/
  oneStep : rt.settings.maxIterations = -2 → ((converse rt task s w).1 = .error .stepLimit ↔
    ∃ reply v, agentStep rt (rt.opening task) s w =
      (.ok (replyUpdate (rt.opening task) reply), v))
  /-- At one below a first reply whose calls are run is. -/
  threeSteps : rt.settings.maxIterations = -1 → ((converse rt task s w).1 = .error .stepLimit ↔
    ∃ reply v update v',
      agentStep rt (rt.opening task) s w = (.ok (replyUpdate (rt.opening task) reply), v) ∧
      reply.toolCalls ≠ [] ∧
      toolsStep rt ((rt.opening task).apply (replyUpdate (rt.opening task) reply)) s v =
        (.ok update, v'))
  /-- From zero on the limit is never met. -/
  enough : 0 ≤ rt.settings.maxIterations → (converse rt task s w).1 ≠ .error .stepLimit

/-- **The ceiling of a conversation.**  It is given as many replies as there may be, which is one at
least, and the limit of steps that is derived from that number is met only where it is below zero. -/
theorem conversation_ceiling (rt : Runtime) (plain : rt.model.Plain) (s : Surroundings)
    (task : String) (w : World) : Ceiling rt s task w := by
  have short {n : Nat} {b : Boundary} (steps : Steps rt s n (start rt task w) b) :=
    (counted_of_steps task steps).choose_spec.short
  constructor
  case steps => exact fun n b steps => ⟨(short steps).1, (short steps).2.1⟩
  case replies =>
    obtain ⟨n, b, replies, steps, ends, given, few, returns⟩ := converse_counted rt s task w
    refine ⟨n, b, replies, steps, ends, given, few, fun result returned => ?_⟩
    obtain ⟨counted, ended, rfl⟩ := returns result returned
    have stands := counted.stands
    rw [ended] at stands
    exact ⟨counted.iteration, stands.2.2⟩
  case forbidden =>
    intro negative
    have forbidden : rt.settings.stepLimit < 1 := by
      unfold Settings.stepLimit
      omega
    rw [converse, if_pos forbidden]
    rfl
  case oneStep =>
    intro two
    have limit : rt.settings.stepLimit = 1 := by
      unfold Settings.stepLimit
      omega
    rw [converse_exhausted_iff plain (by omega), limit]
    exact canTake_one
  case threeSteps =>
    intro one
    have limit : rt.settings.stepLimit = 3 := by
      unfold Settings.stepLimit
      omega
    rw [converse_exhausted_iff plain (by omega), limit]
    exact canTake_three (by omega)
  case enough =>
    intro whole failed
    have limit : rt.settings.stepLimit = rt.settings.maxIterations * 2 + 5 := rfl
    obtain ⟨b, steps⟩ := (converse_exhausted_iff plain (by omega)).mp failed
    have few := (short steps).1
    unfold Settings.mostReplies at few
    omega

end Boundary

/-! ## A sample -/

namespace Sample

/-- A conversation whose model asks for tools for ever. -/
def restless (maxIterations : Int) : Runtime where
  session := {
    backend := ⟨.ok [], fun _ _ _ => ([], .ok (.ofText ""))⟩
    catalog := .ofTools [] }
  model := .direct fun _ _ => .ok { content := "", toolCalls := [⟨"first", "look", []⟩] }
  tools := []
  settings := { maxIterations, iterationDelay := .whole 0 }

theorem plain_restless (maxIterations : Int) : (restless maxIterations).model.Plain :=
  fun _ _ => nofun

end Sample

namespace Boundary

/-- The model that asks for tools for ever is stopped before the limit of steps. -/
theorem restless_within_ceiling :
    (Sample.restless 0).model.Plain ∧
      ∀ s, (converse (Sample.restless 0) "task" s .fresh).1 ≠ .error .stepLimit :=
  ⟨Sample.plain_restless 0, fun s =>
    (conversation_ceiling (Sample.restless 0) (Sample.plain_restless 0) s "task" .fresh).enough
      (Int.le_refl 0)⟩

/-- **Where the number of replies is one below zero, a model that asks for tools meets the limit of
steps.** -/
theorem restless_exhausted :
    (Sample.restless (-1)).model.Plain ∧
      ∀ s, (converse (Sample.restless (-1)) "task" s .fresh).1 = .error .stepLimit :=
  ⟨Sample.plain_restless (-1), fun _ => rfl⟩

end Boundary

end WebPilot
