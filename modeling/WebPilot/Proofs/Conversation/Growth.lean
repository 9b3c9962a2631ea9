import WebPilot.Conversation.Run
import WebPilot.Proofs.Conversation.Calls
import WebPilot.Proofs.Session.Growth

/-!
# How the ledger grows in a conversation

What holds of asking, of executing calls and of waiting holds of a whole conversation, however it
ends, if it can be put together (`converse_keeps`).  **So a conversation makes the ledger grow, if
anything** (`converse_grows`).
-/

namespace WebPilot

set_option autoImplicit false

section Frames

variable {rt : Runtime} {relation : World → World → Prop} [Frame relation]
  (asks : ∀ state, (rt.model.ask (rt.request state)).Keeps relation)
  (executes : ∀ call : ToolCall, (rt.session.execute call.name call.arguments).Keeps relation)
  (waits : ∀ {α : Type} {act : Act α}, act.Quiet → act.Keeps relation)

include asks executes waits

theorem Node.step_keeps (node : Node) (state : State) : (node.step rt state).Keeps relation := by
  cases node with
  | agent => exact agentStep_keeps (asks state) fun quiet => waits quiet
  | tools => exact toolsStep_keeps executes (fun still => waits still.quiet) state
  | limit => exact waits limitStep_quiet

theorem takeSteps_keeps (left : Nat) (node : Node) (state : State) :
    (takeSteps rt left node state).Keeps relation := by
  induction left generalizing node state with
  | zero => exact .fail _
  | succ left ih =>
      refine .bind (Node.step_keeps asks executes waits node state) fun update => ?_
      by_cases last : left = 0
      · rw [if_pos last]
        exact .fail _
      · rw [if_neg last]
        split
        · exact .done _
        · exact ih _ _

/-- What holds of asking, of executing calls and of waiting holds of a conversation. -/
theorem converse_keeps (task : String) : (converse rt task).Keeps relation := by
  unfold converse
  split
  · exact .fail _
  · refine .bind (takeSteps_keeps asks executes waits _ _ _) fun final => ?_
    split
    · exact .fail _
    · exact .done _

end Frames

/-- **A conversation makes the ledger grow, if anything.** -/
theorem converse_grows (rt : Runtime) (task : String) : (converse rt task).Keeps World.Grows :=
  converse_keeps (fun _ => Act.grows_of_kept (rt.model.ask_kept _))
    (fun _ => rt.session.execute_grows _ _ _) (fun quiet => quiet.grows) task

end WebPilot
