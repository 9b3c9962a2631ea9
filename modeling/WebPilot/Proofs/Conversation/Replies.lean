import WebPilot.Proofs.Conversation.Calls

/-!
# What a conversation hears

Which replies a service gave between two worlds can be read off what was asked of it in between: the
requests of a direct service, the submissions to a hosted one (`ModelService.Gives`).  Asking gives
the reply that it comes to, and none if it fails (`ModelService.ask_gives`).  Refused attempts give
none either, and so **the agent's step gets one reply, and at most one if it fails**
(`agentStep_cases`).
-/

namespace WebPilot

set_option autoImplicit false

variable {α : Type}

/-! ## Replies in a record -/

/-- The replies among what comes back for new entries of a record, given the entries before. -/
def repliesTo (reply? : List α → α → Option Reply) (before : List α) : List α → List Reply
  | [] => []
  | entry :: entries =>
    (reply? before entry).toList ++ repliesTo reply? (before ++ [entry]) entries

theorem repliesTo_append (reply? : List α → α → Option Reply) (before more entries : List α) :
    repliesTo reply? before (more ++ entries) =
      repliesTo reply? before more ++ repliesTo reply? (before ++ more) entries := by
  induction more generalizing before with
  | nil => simp [repliesTo]
  | cons entry more ih => simp [repliesTo, ih]

/-- The record has grown by entries for which these replies came back. -/
def Yields (reply? : List α → α → Option Reply) (record : List α) (replies : List Reply)
    (record' : List α) : Prop :=
  ∃ new, record' = record ++ new ∧ replies = repliesTo reply? record new

namespace Yields

variable {reply? : List α → α → Option Reply} {record record' record'' : List α}
  {replies more : List Reply}

theorem of_eq (same : record' = record) : Yields reply? record [] record' :=
  ⟨[], same.trans (List.append_nil _).symm, rfl⟩

theorem one (reply? : List α → α → Option Reply) (record : List α) (entry : α) :
    Yields reply? record (reply? record entry).toList (record ++ [entry]) :=
  ⟨[entry], rfl, (List.append_nil _).symm⟩

theorem trans (before : Yields reply? record replies record')
    (after : Yields reply? record' more record'') :
    Yields reply? record (replies ++ more) record'' := by
  obtain ⟨new, rfl, rfl⟩ := before
  obtain ⟨new', rfl, rfl⟩ := after
  exact ⟨new ++ new', List.append_assoc .., (repliesTo_append ..).symm⟩

end Yields

/-! ## Replies of a service -/

/-- The reply that an outcome is, if it is one. -/
def Hosted.Outcome.reply? : Outcome → Option Reply
  | .response r => r.toReply.toOption
  | .refused _ | .broken _ => none

/-- What comes back for a submission is the reply of its response, if it is one. -/
theorem Hosted.submit_yields {answers : Answers} {submission : Submission} {s : Surroundings}
    {w w' : World} {outcome : Except Failure Response}
    (run : submit answers submission s w = (outcome, w')) :
    Yields (fun before submission => (answers before submission).reply?) w.submissions
      (outcome.toOption.bind fun r => r.toReply.toOption).toList w'.submissions := by
  have one := Yields.one (fun before submission => (answers before submission).reply?)
    w.submissions submission
  unfold submit at run
  split at run
  all_goals
    rename_i came
    simp only [came] at one
    cases run
    exact one

namespace ModelService

/-- Between the two worlds the service gave these replies to what it was asked, in order. -/
def Gives (service : ModelService) (w : World) (replies : List Reply) (w' : World) : Prop :=
  match service with
  | .direct answer =>
    Yields (fun before request => (answer before request).toOption) w.requests replies w'.requests
  | .hosted _ answers =>
    Yields (fun before submission => (answers before submission).reply?) w.submissions replies
      w'.submissions

variable {service : ModelService} {s : Surroundings} {w w' w'' : World}
  {replies more : List Reply}

theorem Gives.trans (before : service.Gives w replies w') (after : service.Gives w' more w'') :
    service.Gives w (replies ++ more) w'' := by
  cases service with
  | direct answer => exact Yields.trans before after
  | hosted config answers => exact Yields.trans before after

/-- Where nothing is asked, no reply is given. -/
theorem Gives.of_same (same : Same World.asked w w') : service.Gives w [] w' := by
  obtain ⟨requests, submissions⟩ := Prod.mk.inj same
  cases service with
  | direct answer => exact Yields.of_eq requests
  | hosted config answers => exact Yields.of_eq submissions

theorem toOption_orInvalid (checked : Except Invalid α) :
    (Hosted.orInvalid checked).toOption = checked.toOption := by
  cases checked <;> rfl

/-- **Asking gives the reply that it comes to.** -/
theorem ask_gives {request : Request} {outcome : Except Failure Reply}
    (run : service.ask request s w = (outcome, w')) :
    service.Gives w outcome.toOption.toList w' := by
  cases service with
  | direct answer =>
      cases run
      exact Yields.one (fun before request => (answer before request).toOption) _ _
  | hosted config answers =>
      have unheard {v v' : World} (same : Same World.asked v v') :
          Yields (fun before submission => (answers before submission).reply?) v.submissions []
            v'.submissions :=
        (Gives.of_same same : (hosted config answers).Gives v [] v')
      rcases Act.bind_cases run with ⟨conversion, _, converted, run⟩ | ⟨_, lifted, rfl⟩
      case inr =>
        obtain ⟨_, rfl⟩ := Act.lift_cases lifted
        exact unheard rfl
      obtain ⟨_, rfl⟩ := Act.lift_cases converted
      have pacing : (Hosted.pace conversion.tokens "anthropic").Keeps (Same World.asked) :=
        Hosted.pace_keeps (fun _ _ => rfl) (fun _ => (Act.sleep_quiet _).asked) _ _
      rcases Act.bind_cases run with ⟨_, paced, pace, run⟩ | ⟨_, pace, rfl⟩
      case inr => exact unheard (pacing.run pace)
      refine (unheard (pacing.run pace)).trans ?_
      rcases Act.bind_cases run with ⟨response, _, submitted, run⟩ | ⟨_, submitted, rfl⟩
      · obtain ⟨rfl, rfl⟩ := Act.lift_cases run
        rw [toOption_orInvalid]
        exact Hosted.submit_yields submitted
      · exact Hosted.submit_yields submitted

end ModelService

/-! ## The agent -/

section Agent

variable {rt : Runtime} {service : ModelService} {state : State} {s : Surroundings} {w w' : World}

/-- Several attempts give the reply that they come to. -/
theorem askPatiently_gives {backoff : Number} {request : Request} {number more : Nat}
    {outcome : Except Failure Reply}
    (run : askPatiently service backoff request number more s w = (outcome, w')) :
    service.Gives w outcome.toOption.toList w' := by
  induction more generalizing number w with
  | zero => exact ModelService.ask_gives run
  | succ more ih =>
      rcases asked : service.ask request s w with ⟨attempted, middle⟩
      have given := ModelService.ask_gives asked
      rw [askPatiently, Act.bind_of_ok (by rw [Act.attempt_apply, asked])] at run
      cases attempted with
      | ok reply =>
          cases run
          exact given
      | error failure =>
          cases failure with
          | rateLimited =>
              cases length : (backoff.times number).toFloat? with
              | none =>
                  simp only [length] at run
                  cases run
                  exact given
              | some wait =>
                  simp only [length, Act.print_bind] at run
                  rcases Act.bind_cases run with ⟨_, _, slept, run⟩ | ⟨_, slept, _⟩
                  · have showing (line : String) : Same World.asked middle (middle.showing line) :=
                      rfl
                    have waited : service.Gives middle [] _ :=
                      .of_same (Frame.trans (showing _) ((Act.sleep_quiet _).asked.run slept))
                    exact given.trans (waited.trans (ih run))
                  · cases slept
          | _ =>
              cases run
              exact given

/-- Waiting gives no reply. -/
theorem delay_gives {outcome : Except Failure Unit} (run : rt.delay state s w = (outcome, w')) :
    rt.model.Gives w [] w' := by
  have quiet : (rt.delay state).Quiet := .when_ (Act.sleepFor_quiet _)
  exact .of_same (quiet.asked.run run)

/-- An inquiry gives the reply that it comes to. -/
theorem Inquired.gives {result : Except Failure Reply}
    (inquired : Inquired rt state s w result w') :
    rt.model.Gives w result.toOption.toList w' := by
  obtain ⟨rested, ready, waiting, still, asking⟩ := inquired.run
  have readied : rt.model.Gives rested [] ready := .of_same (still.map World.asked)
  exact (delay_gives waiting).trans (readied.trans (askPatiently_gives asking))

/-- **The agent's step gets one reply.**  One that fails has got at most one. -/
theorem agentStep_cases {outcome : Except Failure Update}
    (run : agentStep rt state s w = (outcome, w')) :
    (∃ reply, outcome = .ok (replyUpdate state reply) ∧ rt.model.Gives w [reply] w') ∨
      ∃ failure replies, outcome = .error failure ∧ replies.length ≤ 1 ∧
        rt.model.Gives w replies w' := by
  have silent {v v' : World} (still : Same World.unshown v v') : rt.model.Gives v [] v' :=
    .of_same (still.map World.asked)
  cases agentStep_run run with
  | unasked waiting still =>
      exact .inr ⟨_, [], rfl, Nat.zero_le _, (delay_gives waiting).trans (silent still)⟩
  | unanswered inquired => exact .inr ⟨_, [], rfl, Nat.zero_le _, inquired.gives⟩
  | @unnoted _ reply _ _ inquired still =>
      exact .inr ⟨_, [reply], rfl, Nat.le_refl _, inquired.gives.trans (silent still)⟩
  | @replied reply _ _ inquired still =>
      exact .inl ⟨reply, rfl, inquired.gives.trans (silent still)⟩

end Agent

end WebPilot
