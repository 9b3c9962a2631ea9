import WebPilot.Proofs.Session.Execution

/-!
# What asking the model does

A direct service leaves a record of the requests it got, the hosted model one of what was submitted
to it; a submission is the converted history of its request.  Asking adds to these records only what
belongs to the request (`ModelService.ask_asksOnly`), and changes nothing else of substance
(`ModelService.ask_unasked`).  Executing a call asks nothing, and takes no sleep
(`Session.execute_timed`).
-/

namespace WebPilot

set_option autoImplicit false

/-! ## Frames -/

/-- The world but for what is asked of the model. -/
def World.unasked (w : World) : World :=
  { w.substance with requests := [], submissions := [], pacer := {} }

/-- What was asked of the model. -/
def World.asked (w : World) : List Request × List Hosted.Submission :=
  (w.requests, w.submissions)

/-- The sleeps so far, and what was asked of the model. -/
def World.timed (w : World) : List Float × List Request × List Hosted.Submission :=
  (w.sleeps, w.asked)

/-- What is asked of the model in between is this history, as it stands or converted. -/
structure World.AsksOnly (messages : List Message) (w w' : World) : Prop where
  requests : ∃ new, w'.requests = w.requests ++ new ∧ ∀ r ∈ new, r.messages = messages
  submissions : ∃ new, w'.submissions = w.submissions ++ new ∧
    ∀ sub ∈ new, Hosted.Conversion.ofMessages messages = .ok ⟨sub.system, sub.messages⟩

theorem World.AsksOnly.of_same {messages : List Message} {w w' : World}
    (same : Same World.asked w w') : World.AsksOnly messages w w' := by
  obtain ⟨requests, submissions⟩ := Prod.mk.inj same
  exact ⟨⟨[], by simpa using requests, by simp⟩, ⟨[], by simpa using submissions, by simp⟩⟩

instance (messages : List Message) : Frame (World.AsksOnly messages) where
  refl w := .of_same rfl
  trans before after := by
    obtain ⟨⟨new, grown, all⟩, ⟨subs, grownSubs, allSubs⟩⟩ := before
    obtain ⟨⟨new', grown', all'⟩, ⟨subs', grownSubs', allSubs'⟩⟩ := after
    refine ⟨⟨new ++ new', ?_, ?_⟩, ⟨subs ++ subs', ?_, ?_⟩⟩
    · rw [grown', grown, List.append_assoc]
    · exact fun r member => (List.mem_append.mp member).elim (all r) (all' r)
    · rw [grownSubs', grownSubs, List.append_assoc]
    · exact fun r member => (List.mem_append.mp member).elim (allSubs r) (allSubs' r)

/-- Where nothing but what is asked changes, no work is done. -/
theorem Same.worked_of_unasked {w w' : World} (same : Same World.unasked w w') :
    Same World.worked w w' :=
  same.map World.worked

/-- Where only something is shown, no time passes and nothing is asked. -/
theorem Same.timed_of_unshown {w w' : World} (same : Same World.unshown w w') :
    Same World.timed w w' :=
  same.map World.timed

namespace Act

variable {α : Type}

/-- A quiet act asks nothing. -/
theorem Quiet.asked {act : Act α} (quiet : act.Quiet) : act.Keeps (Same World.asked) :=
  Quiet.same (fun _ => rfl) quiet

theorem Quiet.asksOnly {act : Act α} (quiet : act.Quiet) (messages : List Message) :
    act.Keeps (World.AsksOnly messages) :=
  quiet.asked.mono fun _ _ => .of_same

theorem Quiet.unasked {act : Act α} (quiet : act.Quiet) : act.Keeps (Same World.unasked) :=
  Quiet.same (fun _ => rfl) quiet

/-- A still act takes no sleep and asks nothing. -/
theorem Still.timed {act : Act α} (still : act.Still) : act.Keeps (Same World.timed) :=
  still.mono fun _ _ => Same.timed_of_unshown

/-- A quiet act does no work. -/
theorem Quiet.worked {act : Act α} (quiet : act.Quiet) : act.Keeps (Same World.worked) :=
  Quiet.same (fun _ => rfl) quiet

end Act

/-! ## Execution -/

/-- Executing a call takes no sleep and asks the model nothing. -/
theorem Session.execute_timed (session : Session) (tool : String) (arguments : Fields)
    (recorded : Bool) : (session.execute tool arguments recorded).Keeps (Same World.timed) := by
  have calls : (session.call tool arguments).Keeps (Same World.timed) := by
    intro s w
    simp only [call]
    split <;> rfl
  have records (i : Invocation) : (Act.record i).Keeps (Same World.timed) := by
    intro s w
    simp only [Act.record]
    split <;> rfl
  unfold execute
  split
  · exact .fail _
  · exact .bind calls fun _ => .bind (.when_ (.bind (fun _ _ => rfl) fun _ => records _))
      fun _ => .done _

/-! ## The hosted model -/

namespace Hosted

theorem takeTurn_keeps {relation : World → World → Prop} [Frame relation]
    (pacing : ∀ w pacer, relation w { w with pacer })
    (sleeping : ∀ seconds, (Act.sleep seconds).Keeps relation) (key : TrackKey) (cost : Int) :
    (takeTurn key cost).Keeps relation := by
  intro s w
  simp only [takeTurn]
  split
  · exact Frame.trans (pacing w _) (sleeping _ s _)
  · exact pacing w _

theorem pace_keeps {relation : World → World → Prop} [Frame relation]
    (pacing : ∀ w pacer, relation w { w with pacer })
    (sleeping : ∀ seconds, (Act.sleep seconds).Keeps relation) (estimate : Int)
    (identifier : String) : (pace estimate identifier).Keeps relation :=
  .bind (.see _) fun _ => .bind (takeTurn_keeps pacing sleeping _ _) fun _ =>
    .bind (.see _) fun _ => .bind (.see _) fun _ => takeTurn_keeps pacing sleeping _ _

/-- What is submitted is the converted history. -/
theorem ask_asksOnly (config : Config) (answers : Answers) (messages : List Message)
    (tools : List ToolDefinition) (temperature : Option Number) (choice : ToolChoice)
    (overrides : Overrides) :
    (ask config answers messages tools temperature choice overrides).Keeps
      (World.AsksOnly messages) := by
  intro s w
  rcases run : ask config answers messages tools temperature choice overrides s w with ⟨_, w'⟩
  rcases Act.bind_cases run with ⟨conversion, middle, converted, rest⟩ | ⟨_, lifted, _⟩
  · obtain ⟨converted, rfl⟩ := Act.lift_cases converted
    refine Act.Keeps.run (.bind (pace_keeps ?_ ?_ _ _) fun _ => .bind ?_ fun _ => .lift _) rest
    · exact fun _ _ => .of_same rfl
    · exact fun _ => (Act.sleep_quiet _).asksOnly messages
    · intro s w
      have same : Conversion.ofMessages messages = .ok conversion := by
        cases valid : Conversion.ofMessages messages with
        | ok other =>
            rw [valid] at converted
            cases converted
            rfl
        | error invalid =>
            rw [valid] at converted
            cases converted
      unfold submit
      split <;> exact ⟨⟨[], by simp, by simp⟩, ⟨[_], rfl, by simpa using same⟩⟩
  · obtain ⟨_, rfl⟩ := Act.lift_cases lifted
    exact .of_same rfl

theorem ask_unasked (config : Config) (answers : Answers) (messages : List Message)
    (tools : List ToolDefinition) (temperature : Option Number) (choice : ToolChoice)
    (overrides : Overrides) :
    (ask config answers messages tools temperature choice overrides).Keeps
      (Same World.unasked) := by
  refine .bind (.lift _) fun _ => .bind (pace_keeps ?_ ?_ _ _) fun _ => .bind ?_ fun _ => .lift _
  · exact fun _ _ => rfl
  · exact fun _ => (Act.sleep_quiet _).unasked
  · intro s w
    unfold submit
    split <;> rfl

end Hosted

/-! ## Services -/

namespace ModelService

/-- **Asking a service asks the request and nothing else.** -/
theorem ask_asksOnly (service : ModelService) (request : Request) :
    (service.ask request).Keeps (World.AsksOnly request.messages) := by
  cases service with
  | direct answer => exact fun s w => ⟨⟨[request], rfl, by simp⟩, ⟨[], by simp [ask], by simp⟩⟩
  | hosted config answers => exact Hosted.ask_asksOnly _ _ _ _ _ _ _

theorem ask_unasked (service : ModelService) (request : Request) :
    (service.ask request).Keeps (Same World.unasked) := by
  cases service with
  | direct answer => exact fun s w => rfl
  | hosted config answers => exact Hosted.ask_unasked _ _ _ _ _ _ _

end ModelService

end WebPilot
