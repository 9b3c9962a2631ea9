import WebPilot.Conversation.State
import WebPilot.Text.Blank

/-!
# What the model is told

The words of the system, and the task put into a first message of the user.
-/

namespace WebPilot

set_option autoImplicit false

/-- What the system tells the model. -/
def systemPrompt : String :=
  "You are an assistant that helps users navigate and control a browser using MCP tools. " ++
  "You MUST use the browser tools provided to you when the user asks for anything related to " ++
  "browsing. Don't just describe what you would do - actually use the tools."

/-- The task of a session without one. -/
def defaultTask : String :=
  "Navigate to a website about artificial intelligence, take a screenshot of the page, " ++
  "and describe what you see."

/-- What is added to every task. -/
def toolHint : String :=
  " (Please use the browser tools provided to help with this task)"

/-- The first message of the user: the steps between delimiters, or the default task when there are
none. -/
def taskPrompt (steps : Option String) : String :=
  match steps with
  | none => defaultTask ++ toolHint
  | some text =>
    if text.toList.all Text.isBlank then defaultTask ++ toolHint
    else
      "Here's a document that contains a numbered sequence of steps between \x7bsteps\x7d and " ++
      "\x7b/steps\x7d delimiters, that require to be automated.\n\n" ++
      "\x7bsteps\x7d" ++ text ++ "\x7b/steps\x7d\n\n" ++
      "Analyze one step at a time and return the next step to be performed. " ++
      "Think step by step. Restrict the tools to the list provided in the request.\n" ++ toolHint

/-- The state in which a conversation about a task begins. -/
def State.initial (task : String) (maxIterations : Int) : State where
  messages := [Message.system systemPrompt, Message.user task]
  maxIterations := maxIterations

end WebPilot
