import WebPilot.Conversation.Run
import WebPilot.Proofs.Session.Frame

/-!
# How the steps of a conversation fail

A conversation that takes too many steps fails with a failure of its own.  No single step ends with
that failure (`Node.step_withinLimit`): the acts in it have other ones, and what a backend raises is
told as a failure of execution.  Only a direct service could answer with it, and is asked not to
(`ModelService.Plain`).
-/

namespace WebPilot

set_option autoImplicit false

variable {α β : Type}

/-! ## Avoiding a failure -/

namespace Act

/-- No run of the act ends with the failure. -/
def Avoids (failure : Failure) (act : Act α) : Prop :=
  ∀ s w, (act s w).1 ≠ .error failure

namespace Avoids

variable {failure : Failure}

theorem run {act : Act α} (avoids : act.Avoids failure) {s : Surroundings} {w w' : World}
    {outcome : Except Failure α} (run : act s w = (outcome, w')) : outcome ≠ .error failure := by
  have avoided := avoids s w
  rwa [run] at avoided

theorem done (a : α) : (Act.done a).Avoids failure :=
  fun _ _ => nofun

theorem fail {other : Failure} (different : other ≠ failure) :
    (Act.fail other : Act α).Avoids failure :=
  fun _ _ same => different (Except.error.inj same)

theorem lift {outcome : Except Failure α} (different : outcome ≠ .error failure) :
    (Act.lift outcome).Avoids failure :=
  fun _ _ => different

theorem bind {act : Act α} {next : α → Act β} (first : act.Avoids failure)
    (later : ∀ a, (next a).Avoids failure) : (act >>= next).Avoids failure := by
  intro s w
  rcases run : (act >>= next) s w with ⟨outcome, after⟩
  rcases bind_cases run with ⟨a, middle, _, rest⟩ | ⟨other, earlier, rfl⟩
  · exact (later a).run rest
  · intro same
    cases same
    exact first.run earlier rfl

/-- An attempt that fails otherwise may go on in any way that avoids the failure. -/
theorem attempt_bind {act : Act α} {next : Except Failure α → Act β} (first : act.Avoids failure)
    (later : ∀ outcome, outcome ≠ .error failure → (next outcome).Avoids failure) :
    (act.attempt >>= next).Avoids failure := by
  intro s w
  rw [bind_of_ok (attempt_apply act s w)]
  exact later _ (first s w) s _

theorem when_ {condition : Bool} {act : Act Unit} (avoids : act.Avoids failure) :
    (Act.when_ condition act).Avoids failure := by
  cases condition with
  | false => exact done ()
  | true => exact avoids

theorem print (markup : String) : (Act.print markup).Avoids failure :=
  fun _ _ => nofun

theorem note (text : String) : (Act.note text).Avoids failure :=
  fun _ _ => nofun

theorem sleep (seconds : Float) : (Act.sleep seconds).Avoids failure :=
  fun _ _ => nofun

end Avoids

/-- No run of the act ends as a conversation does that takes too many steps. -/
abbrev WithinLimit (act : Act α) : Prop :=
  act.Avoids .stepLimit

end Act

open Act

/-! ## Asking -/

namespace Hosted

theorem orInvalid_ne_stepLimit (checked : Except Invalid α) :
    orInvalid checked ≠ .error .stepLimit := by
  cases checked <;> exact nofun

theorem pace_withinLimit (estimate : Int) (identifier : String) :
    (pace estimate identifier).WithinLimit := by
  have turn (key : TrackKey) (cost : Int) : (takeTurn key cost).WithinLimit := by
    intro s w
    simp only [takeTurn]
    split <;> exact nofun
  exact .bind (fun _ _ => nofun) fun _ => .bind (turn _ _) fun _ =>
    .bind (fun _ _ => nofun) fun _ => .bind (fun _ _ => nofun) fun _ => turn _ _

theorem submit_withinLimit (answers : Answers) (submission : Submission) :
    (submit answers submission).WithinLimit := by
  intro s w
  unfold submit
  split
  · exact nofun
  · rename_i fault _
    cases fault with
    | status code => by_cases rate : code = 429 <;> simp [failureOf, rate]
    | _ => simp [failureOf]
  · exact nofun

end Hosted

namespace ModelService

/-- The service does not answer with the failure of a conversation that takes too many steps. -/
def Plain : ModelService → Prop
  | .direct answer => ∀ before request, answer before request ≠ .error .stepLimit
  | .hosted _ _ => True

theorem Plain.ask {service : ModelService} (plain : service.Plain) (request : Request) :
    (service.ask request).WithinLimit := by
  cases service with
  | direct answer => exact fun _ w => plain w.requests request
  | hosted config answers =>
      exact .bind (.lift (Hosted.orInvalid_ne_stepLimit _)) fun _ =>
        .bind (Hosted.pace_withinLimit _ _) fun _ =>
        .bind (Hosted.submit_withinLimit _ _) fun _ => .lift (Hosted.orInvalid_ne_stepLimit _)

end ModelService

/-! ## The agent -/

theorem Json.writeShown_ne_stepLimit (room : Nat) (style : Style) (value : Json) :
    writeShown room style value ≠ .error .stepLimit := by
  unfold writeShown
  split
  · exact nofun
  · rename_i fault _
    cases fault <;> exact nofun

theorem sleepFor_withinLimit (duration : Number) : (Act.sleepFor duration).WithinLimit := by
  unfold Act.sleepFor
  split
  · exact .sleep _
  · exact .fail nofun

theorem noteIf_withinLimit {wanted : Bool} {text : Except Failure String}
    (other : text ≠ .error .stepLimit) : (noteIf wanted text).WithinLimit :=
  .when_ (.bind (.lift other) fun _ => .note _)

/-- What is added to a text that is shown fails as the text does. -/
theorem map_ne_stepLimit {text : Except Failure α} (f : α → β) (other : text ≠ .error .stepLimit) :
    f <$> text ≠ .error .stepLimit := by
  cases text with
  | ok a => exact nofun
  | error failure => exact fun same => other (congrArg _ (Except.error.inj same))

theorem askPatiently_withinLimit {service : ModelService} (plain : service.Plain)
    (backoff : Number) (request : Request) (number more : Nat) :
    (askPatiently service backoff request number more).WithinLimit := by
  induction more generalizing number with
  | zero => exact plain.ask request
  | succ more ih =>
      refine .attempt_bind (plain.ask request) fun outcome other => ?_
      split
      · exact .done _
      · split
        · exact .fail nofun
        · exact .bind (.print _) fun _ => .bind (.sleep _) fun _ => ih _
      · exact .fail fun same => other (congrArg _ same)

theorem agentStep_withinLimit {rt : Runtime} (plain : rt.model.Plain) (state : State) :
    (agentStep rt state).WithinLimit :=
  .bind (.when_ (sleepFor_withinLimit _)) fun _ =>
    .bind (noteIf_withinLimit (map_ne_stepLimit _ (Json.writeShown_ne_stepLimit _ _ _))) fun _ =>
    .bind (askPatiently_withinLimit plain _ _ _ _) fun _ =>
    .bind (noteIf_withinLimit (map_ne_stepLimit _ (Json.writeShown_ne_stepLimit _ _ _))) fun _ =>
    .bind (.when_ (.print _)) fun _ => .done _

/-! ## The tools -/

theorem Ledger.record_ne_stepLimit (ledger : Ledger) (reading : Int) (files : Files)
    (i : Invocation) : (ledger.record reading files i).failure ≠ some .stepLimit := by
  have written (path : Path) : writeCall files path i ≠ .error .stepLimit := by
    unfold writeCall
    split
    · exact nofun
    · split
      · exact nofun
      · split <;> exact nofun
  simp only [record]
  split
  · exact nofun
  · split
    · exact nofun
    · rename_i refused
      intro same
      cases same
      exact written _ refused

theorem Act.record_withinLimit (i : Invocation) : (Act.record i).WithinLimit := by
  intro s w
  have recorded := w.ledger.record_ne_stepLimit (s.readingAt w.readingsTaken) w.files i
  simp only [record]
  split
  · rename_i failure failed
    intro same
    cases same
    exact recorded failed
  · exact nofun

theorem Session.execute_withinLimit (session : Session) (tool : String) (arguments : Fields)
    (recorded : Bool) : (session.execute tool arguments recorded).WithinLimit := by
  have calls : (session.call tool arguments).WithinLimit := by
    intro s w
    simp only [call]
    split <;> exact nofun
  unfold execute
  split
  · exact .fail nofun
  · exact .bind calls fun _ => .bind (.when_ (.bind (fun _ _ => nofun) fun _ =>
      Act.record_withinLimit _)) fun _ => .done _

theorem isTargetNavigation_ne_stepLimit (call : ToolCall) (target : Option String) :
    isTargetNavigation call target ≠ .error .stepLimit := by
  have origin {address : String} {failure : Failure}
      (malformed : originOf address = .error failure) : failure ≠ .stepLimit := by
    unfold originOf at malformed
    split at malformed <;> cases malformed
    exact nofun
  simp only [isTargetNavigation]
  split
  · exact nofun
  · split
    · split
      · exact fun same => origin ‹_› (Except.error.inj same)
      · exact nofun
      · split
        · exact fun same => origin ‹_› (Except.error.inj same)
        · exact nofun
    · exact nofun

theorem Runtime.pauseOnArrival_withinLimit (rt : Runtime) (settled : Bool) (call : ToolCall) :
    (rt.pauseOnArrival settled call).WithinLimit := by
  have arrives : (if settled then .ok false else isTargetNavigation call rt.settings.targetOrigin) ≠
      .error .stepLimit := by
    split
    · exact nofun
    · exact isTargetNavigation_ne_stepLimit _ _
  have pause : rt.pause.WithinLimit := by
    unfold Runtime.pause
    split
    · exact .done ()
    · intro s w
      unfold Act.prompt
      split <;> exact nofun
  exact .bind (.lift arrives) fun _ => .bind (.when_ pause) fun _ => .done _

theorem executeCall_withinLimit (session : Session) (call : ToolCall) :
    (executeCall session call).WithinLimit := by
  refine .attempt_bind (session.execute_withinLimit _ _ _) fun outcome other => ?_
  split
  · exact .done _
  · split
    · exact .done _
    · exact .fail fun same => other (congrArg _ same)

theorem runCall_withinLimit (rt : Runtime) (number : Nat) (paused : Bool) (call : ToolCall) :
    (runCall rt number paused call).WithinLimit :=
  .bind (.lift (Json.writeShown_ne_stepLimit _ _ _)) fun _ => .bind (.print _) fun _ =>
    .bind (.print _) fun _ => .bind (executeCall_withinLimit _ _) fun _ =>
    .bind (.print _) fun _ => .bind (.lift (Hosted.orInvalid_ne_stepLimit _)) fun _ =>
    .bind (rt.pauseOnArrival_withinLimit _ _) fun _ => .done _

theorem runCalls_withinLimit (rt : Runtime) (number : Nat) (paused : Bool)
    (calls : List ToolCall) : (runCalls rt number paused calls).WithinLimit := by
  induction calls generalizing number paused with
  | nil => exact .done _
  | cons call rest ih =>
      exact .bind (runCall_withinLimit rt number paused call) fun _ =>
        .bind (ih _ _) fun _ => .done _

/-! ## Steps -/

/-- **No single step ends with the failure of too many steps.** -/
theorem Node.step_withinLimit {rt : Runtime} (plain : rt.model.Plain) (node : Node)
    (state : State) : (node.step rt state).WithinLimit := by
  cases node with
  | agent => exact agentStep_withinLimit plain state
  | tools => exact .bind (runCalls_withinLimit _ _ _ _) fun _ => .done _
  | limit => exact .bind (.print _) fun _ => .done _

end WebPilot
