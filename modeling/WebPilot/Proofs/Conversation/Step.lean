import Mathlib.Logic.Relation
import WebPilot.Conversation.Run
import WebPilot.Proofs.Session.Frame

/-!
# The steps of a conversation as a relation

Between two steps a conversation is at a *boundary*: it has a state, it is in a world, and it knows
which step comes next, if any.  A step that succeeds takes it from one boundary to another one
(`Boundary.Advance`), and the boundaries that a conversation about a task may come to are those in
reach of its start.

**Every run of a conversation is such a walk with an end** (`converse_ends`): it comes to some
boundary, and there it returns the state, or stops, or is aborted by the failure of the next step.
So a property of all boundaries in reach is proved once, by induction along the walk, and holds of
every run, however it ends.
-/

namespace WebPilot

set_option autoImplicit false

/-- A conversation between two steps. -/
structure Boundary where
  /-- The next step; none at the end. -/
  next : Option Node
  state : State
  world : World

namespace Boundary

/-- The start of a conversation about a task. -/
def start (rt : Runtime) (task : String) (w : World) : Boundary :=
  ⟨some .agent, .initial task rt.settings.maxIterations, w⟩

/-- One step that succeeds. -/
inductive Advance (rt : Runtime) (s : Surroundings) : Boundary → Boundary → Prop
  | step {node : Node} {state : State} {w w' : World} {update : Update}
      (run : node.step rt state s w = (.ok update, w')) :
      Advance rt s ⟨some node, state, w⟩
        ⟨node.next? (state.apply update), state.apply update, w'⟩

/-- Any number of steps. -/
abbrev Walk (rt : Runtime) (s : Surroundings) : Boundary → Boundary → Prop :=
  Relation.ReflTransGen (Advance rt s)

/-- The boundaries that a conversation about a task may come to. -/
abbrev Reached (rt : Runtime) (s : Surroundings) (task : String) (w : World) : Boundary → Prop :=
  Walk rt s (start rt task w)

/-- How taking steps ends at the boundary that it has come to. -/
inductive Halts (rt : Runtime) (s : Surroundings) :
    Boundary → Except Failure State → World → Prop
  | ended {state : State} {w : World} : Halts rt s ⟨none, state, w⟩ (.ok state) w
  | stopped {b : Boundary} (failure : Failure) : Halts rt s b (.error failure) b.world
  | aborted {node : Node} {state : State} {w w' : World} {failure : Failure}
      (run : node.step rt state s w = (.error failure, w')) :
      Halts rt s ⟨some node, state, w⟩ (.error failure) w'

/-- How a conversation ends at the boundary that it has come to. -/
inductive Ends (rt : Runtime) (s : Surroundings) :
    Boundary → Except Failure ConversationResult → World → Prop
  | returned {state : State} {w : World} (answered : firstStray? state.messages = none) :
      Ends rt s ⟨none, state, w⟩ (.ok (.ofState state)) w
  | stopped {b : Boundary} (failure : Failure) : Ends rt s b (.error failure) b.world
  | aborted {node : Node} {state : State} {w w' : World} {failure : Failure}
      (run : node.step rt state s w = (.error failure, w')) :
      Ends rt s ⟨some node, state, w⟩ (.error failure) w'

end Boundary

open Boundary

variable {rt : Runtime} {s : Surroundings} {w w' : World}

/-- Taking steps, however many are left, is a walk with an end. -/
theorem takeSteps_halts {left : Nat} {node : Node} {state : State}
    {outcome : Except Failure State} (run : takeSteps rt left node state s w = (outcome, w')) :
    ∃ b, Walk rt s ⟨some node, state, w⟩ b ∧ Halts rt s b outcome w' := by
  induction left generalizing node state w with
  | zero =>
      cases run
      exact ⟨⟨some node, state, _⟩, .refl, .stopped .stepLimit⟩
  | succ left ih =>
      rcases Act.bind_cases run with ⟨update, middle, stepped, rest⟩ | ⟨failure, stepped, rfl⟩
      · have first : Walk rt s ⟨some node, state, w⟩
            ⟨node.next? (state.apply update), state.apply update, middle⟩ := .single (.step stepped)
        by_cases last : left = 0
        · simp only [last, if_true] at rest
          cases rest
          exact ⟨_, first, .stopped .stepLimit⟩
        · simp only [last, if_false] at rest
          cases next : node.next? (state.apply update) with
          | none =>
              simp only [next] at rest first
              cases rest
              exact ⟨_, first, .ended⟩
          | some following =>
              simp only [next] at rest first
              obtain ⟨b, walk, halts⟩ := ih rest
              exact ⟨b, first.trans walk, halts⟩
      · exact ⟨_, .refl, .aborted stepped⟩

/-- **Every run of a conversation is a walk with an end.** -/
theorem converse_ends {task : String} {outcome : Except Failure ConversationResult}
    (run : converse rt task s w = (outcome, w')) :
    ∃ b, Reached rt s task w b ∧ Ends rt s b outcome w' := by
  unfold converse at run
  split at run
  · cases run
    exact ⟨start rt task _, .refl, .stopped _⟩
  · rcases Act.bind_cases run with ⟨final, middle, taken, rest⟩ | ⟨failure, taken, rfl⟩
    · obtain ⟨b, walk, halts⟩ := takeSteps_halts taken
      cases halts
      cases answered : firstStray? final.messages with
      | some stray =>
          rw [answered] at rest
          cases rest
          exact ⟨⟨none, final, _⟩, walk, .stopped _⟩
      | none =>
          rw [answered] at rest
          cases rest
          exact ⟨_, walk, .returned answered⟩
    · obtain ⟨b, walk, halts⟩ := takeSteps_halts taken
      cases halts with
      | stopped => exact ⟨b, walk, .stopped failure⟩
      | aborted aborted => exact ⟨_, walk, .aborted aborted⟩

end WebPilot
