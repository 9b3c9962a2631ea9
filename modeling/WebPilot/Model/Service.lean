import WebPilot.Hosted.Client

/-!
# Model services

A service that answers requests: one given by its answers, or the hosted model.
-/

namespace WebPilot

set_option autoImplicit false

/-- A service that answers requests.  A direct one is given by its answer to a request, given the
requests before. -/
inductive ModelService where
  | direct (answer : List Request → Request → Except Failure Reply)
  | hosted (config : Hosted.Config) (answers : Hosted.Answers)

namespace ModelService

/-- Asks the service. -/
def ask (service : ModelService) (request : Request) : Act Reply :=
  match service with
  | .direct answer => fun _ w =>
    (answer w.requests request, { w with requests := w.requests ++ [request] })
  | .hosted config answers =>
    Hosted.ask config answers request.messages (request.tools.getD []) request.temperature
      request.toolChoice

end ModelService

end WebPilot
