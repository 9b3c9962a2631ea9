import WebPilot.Proofs.Conversation.Calls
import WebPilot.Proofs.Conversation.Step
import Mathlib.Data.List.Basic
import Mathlib.Data.List.Induction

/-!
# When a conversation asks and when it waits

In time a conversation does two things: it asks the model, and it waits.  These are its *beats*, and
`ModelService.Beats` says which of them lie between two worlds, in their order.

An *inquiry* is one request, made again as long as it is refused because of the rate and attempts
are left.  Before an attempt after `n` refusals there is a wait of `n` times the backoff
(`Number.waitAfter`), and there is no other wait.  So the beats of an inquiry are those of its
outcomes (`attempts`), of which all but the last are refusals, and the last is what the inquiry
comes to (`Patient`).  The proof is by induction on the attempts that are left
(`askPatiently_beats`).

The agent's step makes one inquiry, after the delay between two of them; the other steps neither ask
nor wait.  **So the beats of a conversation, however it ends, are those of its inquiries one after
the other, each but the first after the delay** (`Boundary.conversation_in_rhythm`).
-/

namespace WebPilot

set_option autoImplicit false

/-! ## Beats -/

/-- What a conversation does in time. -/
inductive Beat where
  | waits (seconds : Float)
  | asks (request : Request) (outcome : Except Failure Reply)

namespace Beat

/-- How long the beat waits, if it does. -/
def seconds? : Beat → Option Float
  | waits seconds => some seconds
  | asks _ _ => none

/-- What the beat asks, if it does. -/
def request? : Beat → Option Request
  | waits _ => none
  | asks request _ => some request

/-- The beats of a wait, if there is one. -/
def ofWait (wait? : Option Float) : List Beat :=
  wait?.toList.map waits

theorem seconds_ofWait (wait? : Option Float) :
    (ofWait wait?).filterMap seconds? = wait?.toList := by
  cases wait? <;> rfl

theorem requests_ofWait (wait? : Option Float) : (ofWait wait?).filterMap request? = [] := by
  cases wait? <;> rfl

end Beat

/-- From one world to another these are the beats, and there is no other sleep and no other
request. -/
inductive ModelService.Beats (service : ModelService) (s : Surroundings) :
    World → List Beat → World → Prop
  | still {w w' : World} (same : Same World.timed w w') : Beats service s w [] w'
  | waits (seconds : Float) (w : World) :
      Beats service s w [.waits seconds] (Act.sleep seconds s w).2
  | asks {request : Request} {outcome : Except Failure Reply} {w w' : World}
      (asked : service.ask request s w = (outcome, w')) :
      Beats service s w [.asks request outcome] w'
  | append {before after : List Beat} {w middle w' : World}
      (first : Beats service s w before middle) (second : Beats service s middle after w') :
      Beats service s w (before ++ after) w'

/-- The outcomes in beats are the answers of a service that has had these requests before. -/
def Answered (answer : List Request → Request → Except Failure Reply) :
    List Request → List Beat → Prop
  | _, [] => True
  | before, .waits _ :: rest => Answered answer before rest
  | before, .asks request outcome :: rest =>
    outcome = answer before request ∧ Answered answer (before ++ [request]) rest

theorem Answered.append {answer : List Request → Request → Except Failure Reply}
    {before : List Request} {beats more : List Beat} (first : Answered answer before beats)
    (second : Answered answer (before ++ beats.filterMap Beat.request?) more) :
    Answered answer before (beats ++ more) := by
  induction beats generalizing before with
  | nil => simpa using second
  | cons beat beats ih =>
      cases beat with
      | waits seconds => exact ih first second
      | asks request outcome =>
          refine ⟨first.1, ih first.2 ?_⟩
          rw [List.append_assoc]
          exact second

namespace ModelService.Beats

variable {service : ModelService} {s : Surroundings} {w middle w' : World} {beats : List Beat}

/-- What is still before beats belongs to them. -/
theorem after_still (later : service.Beats s middle beats w') (same : Same World.timed w middle) :
    service.Beats s w beats w' :=
  append (still same) later

/-- What is still after beats belongs to them. -/
theorem then_still (first : service.Beats s w beats middle) (same : Same World.timed middle w') :
    service.Beats s w beats w' := by
  have both := append first (still same)
  rwa [List.append_nil] at both

/-- A service given by its answers leaves all its beats in the record: the sleeps, the requests, and
the outcomes as answers to them. -/
theorem direct {answer : List Request → Request → Except Failure Reply}
    (made : (ModelService.direct answer).Beats s w beats w') :
    w'.sleeps = w.sleeps ++ beats.filterMap Beat.seconds? ∧
      w'.requests = w.requests ++ beats.filterMap Beat.request? ∧
      Answered answer w.requests beats := by
  induction made with
  | still same =>
      obtain ⟨sleeps, asked⟩ := Prod.mk.inj same
      refine ⟨?_, ?_, trivial⟩
      · rw [sleeps, List.filterMap_nil, List.append_nil]
      · rw [(Prod.mk.inj asked).1, List.filterMap_nil, List.append_nil]
  | waits seconds w => exact ⟨rfl, (List.append_nil _).symm, trivial⟩
  | asks asked =>
      cases asked
      exact ⟨(List.append_nil _).symm, rfl, rfl, trivial⟩
  | append _ _ ih ih' =>
      obtain ⟨sleeps, requests, answers⟩ := ih
      obtain ⟨sleeps', requests', answers'⟩ := ih'
      refine ⟨?_, ?_, answers.append (requests ▸ answers')⟩
      · rw [sleeps', sleeps, List.filterMap_append, List.append_assoc]
      · rw [requests', requests, List.filterMap_append, List.append_assoc]

end ModelService.Beats

/-! ## Inquiries -/

/-- The model refused because of the rate. -/
def RateLimited (outcome : Except Failure Reply) : Prop :=
  ∃ message retryAfter, outcome = .error (.rateLimited message retryAfter)

/-- The wait before an attempt, by the number of refusals before it. -/
def Number.waitAfter (backoff : Number) : (refusals : Nat) → Option Float
  | 0 => none
  | refusals + 1 => (backoff.times (refusals + 1)).toFloat?

/-- The beats of attempts with these outcomes, the first of them after so many refusals. -/
def attempts (backoff : Number) (request : Request) (refusals : Nat) :
    List (Except Failure Reply) → List Beat
  | [] => []
  | outcome :: rest =>
    Beat.ofWait (backoff.waitAfter refusals) ++
      .asks request outcome :: attempts backoff request (refusals + 1) rest

/-- The outcomes of an inquiry that is made at most `limit` times, after so many refusals, and what
it comes to.  All outcomes but the last are refusals because of the rate, and the inquiry comes to
the last one, which is another refusal only if the limit is reached.  A wait that no float can tell
ends an inquiry, too. -/
structure Patient (backoff : Number) (refusals limit : Nat)
    (outcomes : List (Except Failure Reply)) (result : Except Failure Reply) : Prop where
  asked : outcomes ≠ []
  capped : outcomes.length ≤ limit
  refused : ∀ outcome ∈ outcomes.dropLast, RateLimited outcome
  ends : outcomes.getLast? = some result ∧ (outcomes.length < limit → ¬ RateLimited result) ∨
    result = .error (.overflow .integer) ∧ (∀ outcome ∈ outcomes, RateLimited outcome) ∧
      backoff.waitAfter (refusals + outcomes.length) = none

namespace Patient

variable {backoff : Number} {refusals limit : Nat} {outcomes : List (Except Failure Reply)}
  {outcome result : Except Failure Reply}

/-- The last attempt is a last one if no other is left, or if it was not refused. -/
theorem last (settled : limit = 0 ∨ ¬ RateLimited outcome) :
    Patient backoff refusals (limit + 1) [outcome] outcome where
  asked := List.cons_ne_nil _ _
  capped := Nat.le_add_left 1 limit
  refused o member := by cases member
  ends := by
    refine .inl ⟨rfl, fun more => settled.resolve_left ?_⟩
    rw [List.length_singleton] at more
    omega

/-- After a refusal the wait may be impossible. -/
theorem unwaitable (limited : RateLimited outcome)
    (impossible : backoff.waitAfter (refusals + 1) = none) :
    Patient backoff refusals (limit + 1) [outcome] (.error (.overflow .integer)) where
  asked := List.cons_ne_nil _ _
  capped := Nat.le_add_left 1 limit
  refused o member := by cases member
  ends := .inr ⟨rfl, List.forall_mem_singleton.mpr limited, impossible⟩

/-- After a refusal the inquiry goes on. -/
theorem cons (limited : RateLimited outcome)
    (later : Patient backoff (refusals + 1) limit outcomes result) :
    Patient backoff refusals (limit + 1) (outcome :: outcomes) result where
  asked := List.cons_ne_nil _ _
  capped := Nat.succ_le_succ later.capped
  refused := by
    rw [List.dropLast_cons_of_ne_nil later.asked]
    exact List.forall_mem_cons.mpr ⟨limited, later.refused⟩
  ends := by
    rcases later.ends with ⟨last, settled⟩ | ⟨overflow, all, impossible⟩
    · refine .inl ⟨?_, fun more => settled (Nat.lt_of_succ_lt_succ more)⟩
      rw [List.getLast?_cons, last, Option.getD_some]
    · refine .inr ⟨overflow, List.forall_mem_cons.mpr ⟨limited, all⟩, ?_⟩
      rw [List.length_cons, Nat.add_comm _ 1, ← Nat.add_assoc]
      exact impossible

/-- With a float for a backoff every wait is possible. -/
theorem ends_real {backoff : Float}
    (patient : Patient (.real backoff) refusals limit outcomes result) :
    outcomes.getLast? = some result ∧ (outcomes.length < limit → ¬ RateLimited result) := by
  rcases patient.ends with ends | ⟨_, _, impossible⟩
  · exact ends
  · cases outcomes with
    | nil => exact absurd rfl patient.asked
    | cons first rest => cases impossible

end Patient

section Attempts

variable {backoff : Number} {request : Request} {refusals : Nat}
  {outcomes : List (Except Failure Reply)}

/-- The sleeps of attempts are the waits before them. -/
theorem seconds_attempts :
    (attempts backoff request refusals outcomes).filterMap Beat.seconds? =
      (List.range' refusals outcomes.length).filterMap backoff.waitAfter := by
  induction outcomes generalizing refusals with
  | nil => rfl
  | cons outcome rest ih =>
      rw [attempts, List.filterMap_append, Beat.seconds_ofWait, List.length_cons, List.range'_succ,
        List.filterMap_cons_none rfl, ih]
      cases waited : backoff.waitAfter refusals with
      | none => rw [List.filterMap_cons_none waited, Option.toList_none, List.nil_append]
      | some wait => rw [List.filterMap_cons_some waited, Option.toList_some, List.singleton_append]

/-- All attempts make the same request. -/
theorem requests_attempts :
    (attempts backoff request refusals outcomes).filterMap Beat.request? =
      List.replicate outcomes.length request := by
  induction outcomes generalizing refusals with
  | nil => rfl
  | cons outcome rest ih =>
      rw [attempts, List.filterMap_append, Beat.requests_ofWait,
        List.filterMap_cons_some (f := Beat.request?) rfl, ih]
      rfl

/-- The outcomes of attempts are the answers to the request made again and again. -/
theorem answered_attempts {answer : List Request → Request → Except Failure Reply}
    {before : List Request}
    (answered : Answered answer before (attempts backoff request refusals outcomes)) {i : Nat}
    {outcome : Except Failure Reply} (there : outcomes[i]? = some outcome) :
    outcome = answer (before ++ List.replicate i request) request := by
  induction outcomes generalizing before refusals i with
  | nil => cases there
  | cons first rest ih =>
      have asked : first = answer before request ∧
          Answered answer (before ++ [request])
            (attempts backoff request (refusals + 1) rest) := by
        rw [attempts] at answered
        cases waited : backoff.waitAfter refusals <;>
          (rw [waited] at answered; exact answered)
      cases i with
      | zero =>
          obtain rfl := Option.some.inj there
          simpa using asked.1
      | succ i =>
          have later := ih asked.2 there
          rwa [List.append_assoc, List.singleton_append, ← List.replicate_succ] at later

end Attempts

/-- The beats of an inquiry whose first outcome is that of an attempt that was made without a wait
are those of its outcomes. -/
theorem askPatiently_beats {service : ModelService} {backoff : Number} {request : Request}
    {refusals more : Nat} {s : Surroundings} {w w' : World} {result : Except Failure Reply}
    (run : askPatiently service backoff request (refusals + 1) more s w = (result, w')) :
    ∃ first rest,
      Patient backoff refusals (more + 1) (first :: rest) result ∧
      service.Beats s w
        (.asks request first :: attempts backoff request (refusals + 1) rest) w' := by
  induction more generalizing refusals w with
  | zero => exact ⟨result, [], .last (.inl rfl), .asks run⟩
  | succ more ih =>
      rcases asked : service.ask request s w with ⟨first, middle⟩
      have beat := ModelService.Beats.asks asked
      rw [askPatiently, Act.bind_of_ok (by rw [Act.attempt_apply, asked])] at run
      cases first with
      | ok reply =>
          cases run
          exact ⟨.ok reply, [], .last (.inr nofun), beat⟩
      | error failure =>
          cases failure with
          | rateLimited message retryAfter =>
              have limited : RateLimited (.error (.rateLimited message retryAfter)) :=
                ⟨message, retryAfter, rfl⟩
              cases length : (backoff.times (refusals + 1)).toFloat? with
              | none =>
                  simp only [length] at run
                  cases run
                  exact ⟨_, [], .unwaitable limited length, beat⟩
              | some wait =>
                  simp only [length, Act.print_bind, Act.sleep_bind] at run
                  obtain ⟨second, rest, patient, later⟩ := ih run
                  have waited (line : String) : service.Beats s middle [.waits wait]
                      (Act.sleep wait s (middle.showing line)).2 :=
                    (ModelService.Beats.waits wait _).after_still rfl
                  refine ⟨_, second :: rest, patient.cons limited, ?_⟩
                  rw [attempts, Number.waitAfter, length]
                  exact beat.append ((waited _).append later)
          | _ =>
              cases run
              refine ⟨_, [], .last (.inr ?_), beat⟩
              rintro ⟨message, retryAfter, same⟩
              cases same

/-! ## Steps -/

/-- How often an inquiry may be made. -/
def Settings.attemptLimit (settings : Settings) : Nat :=
  (max 1 settings.maxRetries).toNat

theorem Settings.attemptLimit_eq (settings : Settings) :
    settings.attemptLimit = settings.furtherAttempts + 1 := by
  unfold attemptLimit furtherAttempts
  omega

/-- The delay before an inquiry, by the number of inquiries before it. -/
def Settings.delayAfter (settings : Settings) : (inquiries : Nat) → Option Float
  | 0 => none
  | _ + 1 => if settings.iterationDelay.isPositive then settings.iterationDelay.toFloat? else none

/-- A request, and what the attempts to have it answered came to. -/
structure Inquiry where
  request : Request
  outcomes : List (Except Failure Reply)

/-- The beats of an inquiry after so many others: the delay, and the attempts. -/
def Inquiry.beats (settings : Settings) (inquiry : Inquiry) (earlier : Nat) : List Beat :=
  Beat.ofWait (settings.delayAfter earlier) ++
    attempts settings.retryBackoff inquiry.request 0 inquiry.outcomes

/-- The inquiry is made as the settings say, and comes to this. -/
def Inquiry.Comes (settings : Settings) (inquiry : Inquiry) (result : Except Failure Reply) :
    Prop :=
  Patient settings.retryBackoff 0 settings.attemptLimit inquiry.outcomes result

section Steps

variable {rt : Runtime} {state : State} {s : Surroundings} {w w' : World}

/-- An inquiry has the beats of its outcomes. -/
theorem askPatiently_attempts {settings : Settings} {request : Request} {service : ModelService}
    {result : Except Failure Reply}
    (run : askPatiently service settings.retryBackoff request 1 settings.furtherAttempts s w =
      (result, w')) :
    ∃ outcomes, Inquiry.Comes settings ⟨request, outcomes⟩ result ∧
      service.Beats s w (attempts settings.retryBackoff request 0 outcomes) w' := by
  obtain ⟨first, rest, patient, beats⟩ := askPatiently_beats run
  refine ⟨first :: rest, ?_, beats⟩
  rwa [Inquiry.Comes, settings.attemptLimit_eq]

/-- The delay before the agent's request. -/
theorem delay_beats {earlier : Nat} {outcome : Except Failure Unit}
    (counted : state.iteration = earlier) (run : rt.delay state s w = (outcome, w')) :
    rt.model.Beats s w (Beat.ofWait (rt.settings.delayAfter earlier)) w' := by
  rw [Runtime.delay, counted] at run
  cases earlier with
  | zero =>
      cases run
      exact .still rfl
  | succ earlier =>
      have later : decide ((0 : Int) < ((earlier + 1 : Nat) : Int)) = true :=
        decide_eq_true (by omega)
      rw [later, Bool.true_and] at run
      rw [Settings.delayAfter]
      cases positive : rt.settings.iterationDelay.isPositive with
      | false =>
          rw [positive] at run
          cases run
          exact .still rfl
      | true =>
          simp only [positive, Act.when_, if_true, Act.sleepFor] at run ⊢
          cases length : rt.settings.iterationDelay.toFloat? with
          | none =>
              rw [length] at run
              cases run
              exact .still rfl
          | some seconds =>
              rw [length] at run
              cases run
              exact .waits seconds w

/-- An inquiry of the agent has its delay, and the beats of its outcomes. -/
theorem Inquired.beats {earlier : Nat} {result : Except Failure Reply}
    (inquired : Inquired rt state s w result w') (counted : state.iteration = earlier) :
    ∃ inquiry : Inquiry, inquiry.request = rt.request state ∧
      inquiry.Comes rt.settings result ∧
      rt.model.Beats s w (inquiry.beats rt.settings earlier) w' := by
  obtain ⟨rested, ready, waiting, still, asking⟩ := inquired.run
  obtain ⟨outcomes, comes, asked⟩ := askPatiently_attempts asking
  have delayed := (delay_beats counted waiting).then_still still.timed_of_unshown
  exact ⟨⟨rt.request state, outcomes⟩, rfl, comes, delayed.append asked⟩

/-- **The agent's step makes one inquiry after its delay.**  One that fails may fail before it has
asked, during the inquiry, or with a reply that cannot be noted. -/
theorem agentStep_beats {earlier : Nat} {outcome : Except Failure Update}
    (counted : state.iteration = earlier) (run : agentStep rt state s w = (outcome, w')) :
    ∃ inquiry : Inquiry, inquiry.request = rt.request state ∧
      rt.model.Beats s w (inquiry.beats rt.settings earlier) w' ∧
      ((∃ reply, outcome = .ok (replyUpdate state reply) ∧
          inquiry.Comes rt.settings (.ok reply)) ∨
        ∃ failure, outcome = .error failure ∧
          (inquiry.outcomes = [] ∨ ∃ result, inquiry.Comes rt.settings result)) := by
  cases agentStep_run run with
  | unasked waiting still =>
      have delayed := (delay_beats counted waiting).then_still still.timed_of_unshown
      refine ⟨⟨rt.request state, []⟩, rfl, ?_, .inr ⟨_, rfl, .inl rfl⟩⟩
      rwa [Inquiry.beats, attempts, List.append_nil]
  | unanswered inquired =>
      obtain ⟨inquiry, about, comes, beats⟩ := inquired.beats counted
      exact ⟨inquiry, about, beats, .inr ⟨_, rfl, .inr ⟨_, comes⟩⟩⟩
  | unnoted inquired still =>
      obtain ⟨inquiry, about, comes, beats⟩ := inquired.beats counted
      exact ⟨inquiry, about, beats.then_still still.timed_of_unshown,
        .inr ⟨_, rfl, .inr ⟨_, comes⟩⟩⟩
  | replied inquired still =>
      obtain ⟨inquiry, about, comes, beats⟩ := inquired.beats counted
      exact ⟨inquiry, about, beats.then_still still.timed_of_unshown, .inl ⟨_, rfl, comes⟩⟩

end Steps

/-! ## Conversations -/

/-- The beats of inquiries one after the other. -/
def Settings.rhythm (settings : Settings) (inquiries : List Inquiry) : List Beat :=
  inquiries.zipIdx.flatMap fun (inquiry, earlier) => inquiry.beats settings earlier

theorem Settings.rhythm_concat (settings : Settings) (inquiries : List Inquiry)
    (inquiry : Inquiry) :
    settings.rhythm (inquiries ++ [inquiry]) =
      settings.rhythm inquiries ++ inquiry.beats settings inquiries.length := by
  simp [rhythm, List.zipIdx_append]

namespace Boundary

variable {rt : Runtime} {s : Surroundings} {task : String} {w : World} {b b' : Boundary}
  {inquiries : List Inquiry}

/-- The inquiry is about the history at a boundary where the agent comes next. -/
def Asks (rt : Runtime) (s : Surroundings) (task : String) (w : World) (inquiry : Inquiry) : Prop :=
  ∃ b, Reached rt s task w b ∧ b.next = some .agent ∧ inquiry.request = rt.request b.state

/-- The conversation has come to the boundary by these inquiries, and each of them got a reply. -/
structure Rhythm (rt : Runtime) (s : Surroundings) (task : String) (w : World) (b : Boundary)
    (inquiries : List Inquiry) : Prop where
  beats : rt.model.Beats s w (rt.settings.rhythm inquiries) b.world
  replied : ∀ inquiry ∈ inquiries, ∃ reply, inquiry.Comes rt.settings (.ok reply)
  asked : ∀ inquiry ∈ inquiries, Asks rt s task w inquiry
  counted : b.state.iteration = inquiries.length

theorem start_rhythm (rt : Runtime) (s : Surroundings) (task : String) (w : World) :
    Rhythm rt s task w (start rt task w) [] where
  beats := .still rfl
  replied := nofun
  asked := nofun
  counted := rfl

/-- Steps of the tools and of the limit take no sleep and ask nothing. -/
theorem Node.step_timed {node : Node} (other : node ≠ .agent) (state : State) :
    (node.step rt state).Keeps (Same World.timed) := by
  cases node with
  | agent => exact absurd rfl other
  | tools => exact toolsStep_timed rt state
  | limit => exact limitStep_still.timed

/-- Only the agent counts its steps. -/
theorem iteration_of_step {node : Node} {state : State} {v v' : World} {update : Update}
    (other : node ≠ .agent) (run : node.step rt state s v = (.ok update, v')) :
    (state.apply update).iteration = state.iteration := by
  cases node with
  | agent => exact absurd rfl other
  | tools =>
      rcases toolsStep_cases run with ⟨result, same, _⟩ | ⟨_, impossible, _⟩
      · cases same
        rfl
      · cases impossible
  | limit =>
      cases limitStep_eq run
      rfl

/-- **A step keeps the rhythm**: the agent's makes another inquiry, the others make none. -/
theorem Rhythm.step (rhythm : Rhythm rt s task w b inquiries) (reached : Reached rt s task w b)
    (advance : Advance rt s b b') : ∃ more, Rhythm rt s task w b' (inquiries ++ more) := by
  cases advance with
  | @step node state v v' update run =>
      by_cases agent : node = .agent
      · subst agent
        obtain ⟨inquiry, about, beats, ends⟩ := agentStep_beats rhythm.counted run
        rcases ends with ⟨reply, same, comes⟩ | ⟨_, impossible, _⟩
        case inr => cases impossible
        cases same
        refine ⟨[inquiry], ?_, ?_, ?_, ?_⟩
        · rw [Settings.rhythm_concat]
          exact rhythm.beats.append beats
        · exact List.forall_mem_append.mpr
            ⟨rhythm.replied, List.forall_mem_singleton.mpr ⟨reply, comes⟩⟩
        · exact List.forall_mem_append.mpr
            ⟨rhythm.asked, List.forall_mem_singleton.mpr ⟨_, reached, rfl, about⟩⟩
        · have counted : state.iteration = inquiries.length := rhythm.counted
          rw [List.length_append, Int.natCast_add, ← counted]
          rfl
      · refine ⟨[], ?_⟩
        rw [List.append_nil]
        exact {
          rhythm with
          beats := rhythm.beats.then_still ((Node.step_timed agent state).run run)
          counted := (iteration_of_step agent run).trans rhythm.counted }

/-- Every boundary in reach is come to in rhythm. -/
theorem reached_rhythm (reached : Reached rt s task w b) :
    ∃ inquiries, Rhythm rt s task w b inquiries := by
  induction reached with
  | refl => exact ⟨[], start_rhythm rt s task w⟩
  | tail walk advance ih =>
      obtain ⟨inquiries, rhythm⟩ := ih
      obtain ⟨more, rhythm⟩ := rhythm.step walk advance
      exact ⟨_, rhythm⟩

/-- A conversation has these inquiries: each about the history at a boundary where the agent comes
next, all but the last with a reply, and the last perhaps broken off before it was made.  A
conversation that comes to a result has had a reply to each, and has counted them. -/
structure InRhythm (rt : Runtime) (s : Surroundings) (task : String) (w : World)
    (outcome : Except Failure ConversationResult) (w' : World) (inquiries : List Inquiry) :
    Prop where
  beats : rt.model.Beats s w (rt.settings.rhythm inquiries) w'
  asked : ∀ inquiry ∈ inquiries, Asks rt s task w inquiry
  made : ∀ inquiry ∈ inquiries,
    inquiry.outcomes = [] ∨ ∃ result, inquiry.Comes rt.settings result
  replied : ∀ inquiry ∈ inquiries.dropLast, ∃ reply, inquiry.Comes rt.settings (.ok reply)
  returned : ∀ result, outcome = .ok result → result.iterations = inquiries.length ∧
    ∀ inquiry ∈ inquiries, ∃ reply, inquiry.Comes rt.settings (.ok reply)

/-- A conversation that is not in the middle of an inquiry is in rhythm. -/
theorem Rhythm.inRhythm (rhythm : Rhythm rt s task w b inquiries) {w' : World}
    {outcome : Except Failure ConversationResult} (same : Same World.timed b.world w')
    (counted : ∀ result, outcome = .ok result → result.iterations = b.state.iteration) :
    InRhythm rt s task w outcome w' inquiries where
  beats := rhythm.beats.then_still same
  asked := rhythm.asked
  made inquiry member :=
    have ⟨_, comes⟩ := rhythm.replied inquiry member
    .inr ⟨_, comes⟩
  replied inquiry member := rhythm.replied inquiry (List.dropLast_subset _ member)
  returned result ok := ⟨(counted result ok).trans rhythm.counted, rhythm.replied⟩

/-- A conversation that fails in the agent's step is in rhythm, too. -/
theorem Rhythm.aborted {state : State} {v w' : World} {failure : Failure}
    (rhythm : Rhythm rt s task w ⟨some .agent, state, v⟩ inquiries)
    (reached : Reached rt s task w ⟨some .agent, state, v⟩)
    (run : agentStep rt state s v = (.error failure, w')) :
    ∃ inquiry, InRhythm rt s task w (.error failure) w' (inquiries ++ [inquiry]) := by
  obtain ⟨inquiry, about, beats, ends⟩ := agentStep_beats rhythm.counted run
  rcases ends with ⟨_, impossible, _⟩ | ⟨_, _, made⟩
  case inl => cases impossible
  refine ⟨inquiry, ?_, ?_, ?_, ?_, nofun⟩
  · rw [Settings.rhythm_concat]
    exact rhythm.beats.append beats
  · exact List.forall_mem_append.mpr
      ⟨rhythm.asked, List.forall_mem_singleton.mpr ⟨_, reached, rfl, about⟩⟩
  · refine List.forall_mem_append.mpr ⟨fun inquiry member => ?_, List.forall_mem_singleton.mpr made⟩
    obtain ⟨_, comes⟩ := rhythm.replied inquiry member
    exact .inr ⟨_, comes⟩
  · rw [List.dropLast_concat]
    exact rhythm.replied

/-- However a conversation ends, it was in rhythm. -/
theorem ends_inRhythm {w' : World} {outcome : Except Failure ConversationResult}
    (reached : Reached rt s task w b) (ends : Ends rt s b outcome w') :
    ∃ inquiries, InRhythm rt s task w outcome w' inquiries := by
  obtain ⟨inquiries, rhythm⟩ := reached_rhythm reached
  cases ends with
  | returned _ =>
      refine ⟨inquiries, rhythm.inRhythm rfl fun result same => ?_⟩
      cases same
      rfl
  | stopped failure => exact ⟨inquiries, rhythm.inRhythm rfl nofun⟩
  | @aborted node state v _ failure run =>
      by_cases agent : node = .agent
      · subst agent
        obtain ⟨inquiry, inRhythm⟩ := rhythm.aborted reached run
        exact ⟨_, inRhythm⟩
      · exact ⟨inquiries, rhythm.inRhythm ((Node.step_timed agent state).run run) nofun⟩

end Boundary

/-! ## Services given by their answers -/

/-- The sleeps of an inquiry after so many others. -/
def Inquiry.sleeps (settings : Settings) (inquiry : Inquiry) (earlier : Nat) : List Float :=
  (settings.delayAfter earlier).toList ++
    (List.range inquiry.outcomes.length).filterMap settings.retryBackoff.waitAfter

theorem Inquiry.seconds_beats (settings : Settings) (inquiry : Inquiry) (earlier : Nat) :
    (inquiry.beats settings earlier).filterMap Beat.seconds? = inquiry.sleeps settings earlier := by
  rw [beats, List.filterMap_append, Beat.seconds_ofWait, seconds_attempts, ← List.range_eq_range',
    sleeps]

theorem Inquiry.requests_beats (settings : Settings) (inquiry : Inquiry) (earlier : Nat) :
    (inquiry.beats settings earlier).filterMap Beat.request? =
      List.replicate inquiry.outcomes.length inquiry.request := by
  rw [beats, List.filterMap_append, Beat.requests_ofWait, requests_attempts, List.nil_append]

/-- The sleeps of a rhythm are those of its inquiries. -/
theorem Settings.seconds_rhythm (settings : Settings) (inquiries : List Inquiry) :
    (settings.rhythm inquiries).filterMap Beat.seconds? =
      inquiries.zipIdx.flatMap fun (inquiry, earlier) => inquiry.sleeps settings earlier := by
  rw [rhythm, List.filterMap_flatMap]
  exact List.flatMap_congr fun place _ => place.1.seconds_beats settings place.2

/-- The requests of a rhythm are those of its inquiries, one for each attempt. -/
theorem Settings.requests_rhythm (settings : Settings) (inquiries : List Inquiry) :
    (settings.rhythm inquiries).filterMap Beat.request? =
      inquiries.flatMap fun inquiry => List.replicate inquiry.outcomes.length inquiry.request := by
  induction inquiries using List.reverseRecOn with
  | nil => rfl
  | append_singleton inquiries inquiry ih =>
      rw [rhythm_concat, List.filterMap_append, ih, inquiry.requests_beats, List.flatMap_append,
        List.flatMap_singleton]

/-- The waits of attempts with a float for a backoff are its multiples. -/
theorem waits_real (backoff : Float) (refusals : Nat) :
    (List.range (refusals + 1)).filterMap (Number.real backoff).waitAfter =
      (List.range refusals).map fun i => backoff * Decimal.nearestInt ((i + 1 : Nat) : Int) := by
  rw [List.range_succ_eq_map, List.filterMap_cons_none rfl, List.filterMap_map]
  exact congrFun List.filterMap_eq_map' _

/-- What a service answers to a request that it has refused so many times. -/
def outcomeAfter (answer : List Request → Request → Except Failure Reply) (w : World)
    (request : Request) (refusals : Nat) : Except Failure Reply :=
  answer (w.requests ++ List.replicate refusals request) request

/-- The service refuses the request so many times because of the rate, and the inquiry comes to what
it answers then, which is another refusal only if the limit is reached.  The request is made once
more than it is refused, and there is one sleep after each refusal, a multiple of the backoff. -/
structure AsksUntil (answer : List Request → Request → Except Failure Reply) (limit : Nat)
    (backoff : Float) (request : Request) (w : World) (refusals : Nat)
    (result : Except Failure Reply) (w' : World) : Prop where
  below : refusals < limit
  refused : ∀ i < refusals, RateLimited (outcomeAfter answer w request i)
  settled : refusals + 1 < limit → ¬ RateLimited result
  result : result = outcomeAfter answer w request refusals
  requests : w'.requests = w.requests ++ List.replicate (refusals + 1) request
  sleeps : w'.sleeps = w.sleeps ++
    (List.range refusals).map fun i => backoff * Decimal.nearestInt ((i + 1 : Nat) : Int)

/-- A service that is given by its answers is asked until it does not refuse. -/
theorem askPatiently_until {answer : List Request → Request → Except Failure Reply}
    {more : Nat} {backoff : Float} {request : Request} {s : Surroundings} {w w' : World}
    {result : Except Failure Reply}
    (run : askPatiently (.direct answer) (.real backoff) request 1 more s w = (result, w')) :
    ∃ refusals, AsksUntil answer (more + 1) backoff request w refusals result w' := by
  obtain ⟨first, rest, patient, made⟩ := askPatiently_beats run
  have beats : (ModelService.direct answer).Beats s w
      (attempts (.real backoff) request 0 (first :: rest)) w' := made
  obtain ⟨sleeps, requests, answered⟩ := beats.direct
  obtain ⟨last, settled⟩ := patient.ends_real
  have told {i : Nat} {o : Except Failure Reply} (there : (first :: rest)[i]? = some o) :
      o = outcomeAfter answer w request i :=
    answered_attempts answered there
  refine ⟨rest.length, ?_⟩
  constructor
  case below => exact patient.capped
  case refused =>
    intro i before
    have inside : i < (first :: rest).dropLast.length := by
      rw [List.length_dropLast, List.length_cons]
      exact before
    have refused := patient.refused _ (List.getElem_mem inside)
    rw [List.getElem_dropLast] at refused
    rwa [← told (List.getElem?_eq_getElem _)]
  case settled => exact settled
  case result =>
    refine told ?_
    rwa [List.getLast?_eq_getElem?] at last
  case requests => rw [requests, requests_attempts, List.length_cons]
  case sleeps =>
    rw [sleeps, seconds_attempts, ← List.range_eq_range', List.length_cons, waits_real]

namespace Boundary

/-- **A conversation asks and waits in rhythm.**  An inquiry has the beats of its outcomes, which
are those of a patient one; a service given by its answers is asked until it does not refuse.  A
whole conversation, however it ends, has the beats of its inquiries one after the other, with the
delay before each but the first; of a service given by its answers these are all its sleeps and all
its requests. -/
theorem conversation_in_rhythm (rt : Runtime) (s : Surroundings) (task : String) (w : World) :
    (∀ (service : ModelService) (settings : Settings) (request : Request),
      let run := askPatiently service settings.retryBackoff request 1 settings.furtherAttempts s w
      ∃ outcomes,
        Patient settings.retryBackoff 0 settings.attemptLimit outcomes run.1 ∧
        service.Beats s w (attempts settings.retryBackoff request 0 outcomes) run.2) ∧
    (∀ (answer : List Request → Request → Except Failure Reply) (settings : Settings)
        (backoff : Float) (request : Request),
      let run := askPatiently (.direct answer) (.real backoff) request 1
        settings.furtherAttempts s w
      ∃ refusals, AsksUntil answer settings.attemptLimit backoff request w refusals run.1 run.2) ∧
    ∃ inquiries, InRhythm rt s task w (converse rt task s w).1 (converse rt task s w).2 inquiries ∧
      ∀ answer, rt.model = .direct answer →
        (converse rt task s w).2.sleeps = w.sleeps ++
          inquiries.zipIdx.flatMap (fun (inquiry, earlier) =>
            inquiry.sleeps rt.settings earlier) ∧
        (converse rt task s w).2.requests = w.requests ++
          inquiries.flatMap fun inquiry =>
            List.replicate inquiry.outcomes.length inquiry.request := by
  refine ⟨?_, ?_, ?_⟩
  · intro service settings request
    exact askPatiently_attempts rfl
  · intro answer settings backoff request
    rw [settings.attemptLimit_eq]
    exact askPatiently_until rfl
  · rcases run : converse rt task s w with ⟨outcome, w'⟩
    obtain ⟨b, reached, ends⟩ := converse_ends run
    obtain ⟨inquiries, inRhythm⟩ := ends_inRhythm reached ends
    refine ⟨inquiries, inRhythm, fun answer direct => ?_⟩
    have beats := inRhythm.beats
    rw [direct] at beats
    obtain ⟨sleeps, requests, _⟩ := beats.direct
    rw [Settings.seconds_rhythm] at sleeps
    rw [Settings.requests_rhythm] at requests
    exact ⟨sleeps, requests⟩

end Boundary

end WebPilot
