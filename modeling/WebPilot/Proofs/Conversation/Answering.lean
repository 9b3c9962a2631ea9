import WebPilot.Proofs.Conversation.Calls
import WebPilot.Proofs.Ledger.Taking
import WebPilot.Proofs.Session.Growth
import Mathlib.Data.List.Forall2

/-!
# Which calls end the tools' step

The tools' step tells the model of every call: what fails in the execution of a call becomes an
answer that says so.  Outside of the execution three things can fail.  The arguments are shown, and
may hold an integer too long for that; a success is recorded, and the ledger may not take it
(`Executed.Fits`); and after a success the call is looked at, to see whether it has led to the
target, where the address in the call or that of the target may be malformed
(`ToolCall.MalformedFor`).  Nothing is looked at once the operator's pause has been given, and so a
malformed address is harmless behind a call that has arrived (`Traceable`).

**The tools' step comes to an update exactly if none of this happens, and then the update answers
every call, in order** (`toolsStep_answers`).  A malformed address in a call that has succeeded ends
the step, and the calls behind it are neither executed nor answered (`toolsStep_malformed`).
-/

namespace WebPilot

set_option autoImplicit false

/-! ## Acts that come to a result -/

/-- The act comes to a result. -/
def Act.Returns {α : Type} (act : Act α) (s : Surroundings) (w : World) : Prop :=
  ∃ a w', act s w = (.ok a, w')

/-- A sequence comes to a result if both its acts do. -/
theorem Act.bind_returns_iff {α β : Type} {act : Act α} {next : α → Act β} {s : Surroundings}
    {w : World} :
    (act >>= next).Returns s w ↔ ∃ a w', act s w = (.ok a, w') ∧ (next a).Returns s w' := by
  constructor
  · rintro ⟨b, last, run⟩
    obtain ⟨a, middle, first, later⟩ := bind_ok run
    exact ⟨a, middle, first, b, last, later⟩
  · rintro ⟨a, middle, first, b, last, later⟩
    exact ⟨b, last, (bind_of_ok first).trans later⟩

/-- What comes to a result whatever is shown before comes to a result. -/
theorem Act.print_returns {β : Type} {next : Unit → Act β} {s : Surroundings} {w : World}
    (returns : ∀ markup, (next ()).Returns s (w.showing markup)) (markup : String) :
    (print markup >>= next).Returns s w :=
  returns markup

/-! ## Looking at a call -/

/-- The origin of the address cannot be told. -/
def Malformed (address : String) : Prop :=
  ∃ fault, Origin.ofAddress address = .error fault

/-- The address has an origin. -/
def HasOrigin (address : String) : Prop :=
  ∃ origin, Origin.ofAddress address = .ok (some origin)

/-- Whether the call leads to the target cannot be told: the call navigates to an address, and that
of the target is malformed, or it has an origin and that of the call is malformed. -/
def ToolCall.MalformedFor (call : ToolCall) (target : Option String) : Prop :=
  ∃ address url, target = some address ∧ address ≠ "" ∧
    Text.endsWith call.name "navigate" = true ∧ call.arguments.get? "url" = some (.text url) ∧
    (Malformed address ∨ HasOrigin address ∧ Malformed url)

/-- Where a call leads, if there is a target and the call navigates to an address. -/
theorem isTargetNavigation_eq {call : ToolCall} {address url : String} (nonempty : address ≠ "")
    (navigates : Text.endsWith call.name "navigate" = true)
    (aimed : call.arguments.get? "url" = some (.text url)) :
    isTargetNavigation call (some address) =
      match Origin.ofAddress address, Origin.ofAddress url with
      | .error fault, _ => .error (.badValue fault.message)
      | .ok none, _ => .ok false
      | .ok (some _), .error fault => .error (.badValue fault.message)
      | .ok (some origin), .ok found => .ok (found == some origin) := by
  have filled : address.isEmpty = false := by simpa using nonempty
  have looked : (address.isEmpty || !Text.endsWith call.name "navigate") = false := by
    rw [filled, navigates]
    rfl
  unfold isTargetNavigation originOf
  simp only [Option.getD_some, looked, Bool.false_eq_true, if_false, aimed]
  cases Origin.ofAddress address with
  | error fault => rfl
  | ok origin =>
      cases origin with
      | none => rfl
      | some origin => cases Origin.ofAddress url <;> rfl

/-- Otherwise the call does not lead to the target. -/
theorem isTargetNavigation_of_not {call : ToolCall} {target : Option String}
    (not : ¬ ∃ address url, target = some address ∧ address ≠ "" ∧
      Text.endsWith call.name "navigate" = true ∧
      call.arguments.get? "url" = some (.text url)) :
    isTargetNavigation call target = .ok false := by
  simp only [isTargetNavigation]
  by_cases passed : ((target.getD "").isEmpty || !Text.endsWith call.name "navigate") = true
  · rw [if_pos passed]
  · rw [if_neg passed]
    simp only [Bool.or_eq_true, Bool.not_eq_true', not_or, Bool.not_eq_true,
      Bool.not_eq_false] at passed
    split
    next url aimed =>
      cases target with
      | none => exact absurd passed.1 (by decide)
      | some address =>
          have nonempty : address ≠ "" := by simpa using passed.1
          exact absurd ⟨address, url, rfl, nonempty, passed.2, aimed⟩ not
    next => rfl

/-- Looking at a call fails exactly if an address is malformed. -/
theorem isTargetNavigation_fails_iff {call : ToolCall} {target : Option String} :
    (∃ failure, isTargetNavigation call target = .error failure) ↔ call.MalformedFor target := by
  constructor
  · rintro ⟨failure, failed⟩
    by_cases looked : ∃ address url, target = some address ∧ address ≠ "" ∧
        Text.endsWith call.name "navigate" = true ∧ call.arguments.get? "url" = some (.text url)
    · obtain ⟨address, url, rfl, nonempty, navigates, aimed⟩ := looked
      refine ⟨address, url, rfl, nonempty, navigates, aimed, ?_⟩
      rw [isTargetNavigation_eq nonempty navigates aimed] at failed
      cases targeted : Origin.ofAddress address with
      | error fault => exact .inl ⟨fault, targeted⟩
      | ok origin? =>
          rw [targeted] at failed
          cases origin? with
          | none => cases failed
          | some origin =>
              cases found : Origin.ofAddress url with
              | error fault => exact .inr ⟨⟨origin, targeted⟩, fault, found⟩
              | ok led => rw [found] at failed; cases failed
    · rw [isTargetNavigation_of_not looked] at failed
      cases failed
  · rintro ⟨address, url, rfl, nonempty, navigates, aimed, malformed⟩
    rw [isTargetNavigation_eq nonempty navigates aimed]
    rcases malformed with ⟨fault, found⟩ | ⟨⟨origin, has⟩, fault, found⟩
    · exact ⟨_, by rw [found]⟩
    · exact ⟨_, by rw [has, found]⟩

/-! ## Executed calls -/

namespace Executed

/-- The call has succeeded. -/
def Succeeds (e : Executed) : Prop :=
  (e.reception.told e.call.name).failed = false

/-- The call can be shown where there is so much room, and its success can be recorded. -/
structure Fits (e : Executed) (room : Nat) (ledger : Ledger) : Prop where
  shown : e.call.Shown room
  taken : e.Succeeds → ledger.Takes e.call.arguments

/-- The call has succeeded and has led to the target. -/
def Arrives (e : Executed) (target : Option String) : Prop :=
  e.Succeeds ∧ isTargetNavigation e.call target = .ok true

end Executed

/-- No call that is looked at is malformed: none that has succeeded before a call arrives. -/
def Traceable (target : Option String) (executed : List Executed) : Prop :=
  ∀ before e after, executed = before ++ e :: after → e.Succeeds →
    (∀ earlier ∈ before, ¬ earlier.Arrives target) → ¬ e.call.MalformedFor target

/-- The first call is looked at, and the others unless it arrives. -/
theorem traceable_cons_iff {target : Option String} {e : Executed} {rest : List Executed} :
    Traceable target (e :: rest) ↔
      (e.Succeeds → ¬ e.call.MalformedFor target) ∧
        (e.Arrives target ∨ Traceable target rest) := by
  constructor
  · intro traceable
    refine ⟨fun succeeds => traceable [] e rest rfl succeeds nofun, ?_⟩
    by_cases arrives : e.Arrives target
    · exact .inl arrives
    · refine .inr fun before other after split succeeds quiet => ?_
      refine traceable (e :: before) other after (congrArg _ split) succeeds ?_
      exact List.forall_mem_cons.mpr ⟨arrives, quiet⟩
  · rintro ⟨first, later⟩ before other after split succeeds quiet
    cases before with
    | nil =>
        obtain ⟨rfl, _⟩ := List.cons.inj split
        exact first succeeds
    | cons head before =>
        obtain ⟨rfl, same⟩ := List.cons.inj split
        obtain ⟨still, quiet⟩ := List.forall_mem_cons.mp quiet
        exact later.resolve_left still before other after same succeeds quiet

/-! ## One call -/

section Call

variable {rt : Runtime} {session : Session} {s : Surroundings} {w w' : World} {call : ToolCall}

/-- An execution tells what became of the call exactly if a success can be recorded. -/
theorem execute_tells_iff {outcome : Except Failure Execution}
    (run : session.execute call.name call.arguments true s w = (outcome, w')) :
    outcome = (session.receive w.events call.name call.arguments).outcome call.name
        call.arguments ↔
      (Executed.Succeeds ⟨call, session.receive w.events call.name call.arguments⟩ →
        w.ledger.Takes call.arguments) := by
  rw [Session.execute_eq] at run
  cases reception : session.receive w.events call.name call.arguments with
  | unknown | raised _ =>
      rw [reception] at run
      cases run
      exact iff_of_true rfl fun succeeds => by cases succeeds
  | answered answer =>
      simp only [reception, Session.keep] at run
      cases flag : answer.flagged with
      | true =>
          simp only [flag, Act.when_, Bool.not_true, Bool.false_and] at run
          cases run
          refine iff_of_true ?_ fun succeeds => ?_
          · simp [Reception.outcome, flag]
          · have unflagged : answer.flagged = false := succeeds
            rw [flag] at unflagged
            cases unflagged
      | false =>
          simp only [flag, Act.when_, Bool.not_false, Bool.true_and, if_true] at run
          have succeeds : Executed.Succeeds ⟨call, .answered answer⟩ := flag
          rcases Act.bind_cases run with ⟨_, _, recorded, last⟩ | ⟨failure, recorded, rfl⟩
          · have takes := (Act.record_takes recorded).mp rfl
            cases last
            exact iff_of_true (by simp [Reception.outcome, flag]) fun _ => takes
          · have refuses : ¬ w.ledger.Takes call.arguments := by
              intro takes
              cases (Act.record_takes recorded).mpr takes
            refine iff_of_false ?_ fun takes => refuses (takes succeeds)
            simp [Reception.outcome, flag]

/-- Executing a call comes to an outcome exactly if a success can be recorded. -/
theorem executeCall_returns_iff :
    (executeCall session call).Returns s w ↔
      (Executed.Succeeds ⟨call, session.receive w.events call.name call.arguments⟩ →
        w.ledger.Takes call.arguments) := by
  rcases run : session.execute call.name call.arguments true s w with ⟨outcome, middle⟩
  rw [← execute_tells_iff run]
  have attempted : (session.execute call.name call.arguments).attempt s w = (.ok outcome, middle) :=
    by rw [Act.attempt_apply, run]
  constructor
  · rintro ⟨told, w', called⟩
    refine (Session.execute_spec run).2.resolve_right ?_
    rintro ⟨failure, rfl, other⟩
    rw [executeCall, Act.bind_of_ok attempted] at called
    simp only [other, Bool.false_eq_true, if_false] at called
    cases called
  · intro tells
    rw [tells] at attempted
    unfold Act.Returns
    rw [executeCall, Act.bind_of_ok attempted]
    cases session.receive w.events call.name call.arguments <;> exact ⟨_, _, rfl⟩

/-- What the model is told of a call that was executed. -/
theorem executeCall_told {told : CallOutcome}
    (run : executeCall session call s w = (.ok told, w')) :
    told = (session.receive w.events call.name call.arguments).told call.name := by
  rcases (executeCall_spec run).2 with same | ⟨_, impossible⟩
  · exact Except.ok.inj same
  · cases impossible

/-- Whether a call has arrived, as told by a run that has looked at it. -/
theorem pauseOnArrival_ok {settled arrives : Bool}
    (run : rt.pauseOnArrival settled call s w = (.ok arrives, w')) :
    .ok arrives =
      if settled then .ok false else isTargetNavigation call rt.settings.targetOrigin := by
  obtain ⟨found, _, lifted, run⟩ := Act.bind_ok run
  obtain ⟨looked, rfl⟩ := Act.lift_cases lifted
  obtain ⟨_, _, _, run⟩ := Act.bind_ok run
  cases run
  exact looked.symm

/-- An operator who does not interrupt gives the pause that is asked for. -/
theorem pauseOnArrival_outcome (patient : rt.operator = none ∨ s.interruptsEntry = false)
    {settled : Bool} {outcome : Except Failure Bool}
    (run : rt.pauseOnArrival settled call s w = (outcome, w')) :
    outcome = if settled then .ok false else isTargetNavigation call rt.settings.targetOrigin := by
  have pauses (v : World) : ∃ v', rt.pause s v = (.ok (), v') := by
    unfold Runtime.pause
    cases asked : rt.operator with
    | none => exact ⟨_, rfl⟩
    | some ask =>
        have stays : s.interruptsEntry = false := patient.resolve_left (by simp [asked])
        simp [Act.prompt, stays]
  rcases Act.bind_cases run with ⟨arrives, _, lifted, run⟩ | ⟨failure, lifted, rfl⟩
  · obtain ⟨looked, rfl⟩ := Act.lift_cases lifted
    rw [looked]
    cases arrives with
    | false =>
        cases run
        rfl
    | true =>
        obtain ⟨v, paused⟩ := pauses w
        simp only [Act.when_, if_true, Act.bind_apply, paused] at run
        cases run
        rfl
  · exact (Act.lift_cases lifted).1.symm

theorem Message.answer_named {id : String} (named : id ≠ "") (content : String) (isError : Bool) :
    Hosted.orInvalid (Message.answer id content isError) =
      .ok { role := .tool, content := some content, toolCallId := some id, isError } := by
  have lawful : Message.unlawful? ⟨.tool, some content, none, some id, isError⟩ = none := by
    simp [Message.unlawful?, Message.calls, Message.answersCall, named]
  rw [Message.answer, Message.lawful, lawful]
  rfl

variable {number : Nat} {paused : Bool} {e : Executed}

/-- A call that was run was fit, and could be looked at; the pause is given if it was before or if
the call has arrived. -/
theorem runCall_ok {one : CallsResult}
    (same : e = ⟨call, rt.session.receive w.events call.name call.arguments⟩)
    (run : runCall rt number paused call s w = (.ok one, w')) :
    e.Fits (rt.session.room .line) w.ledger ∧
      (paused = false → e.Succeeds → ¬ call.MalformedFor rt.settings.targetOrigin) ∧
      (one.paused = true ↔ paused = true ∨ e.Arrives rt.settings.targetOrigin) := by
  subst same
  rw [runCall] at run
  obtain ⟨text, _, lifted, run⟩ := Act.bind_ok run
  obtain ⟨shown, rfl⟩ := Act.lift_cases lifted
  rw [Act.print_bind, Act.print_bind] at run
  obtain ⟨told, after, executed, run⟩ := Act.bind_ok run
  have takes := executeCall_returns_iff.mp ⟨_, _, executed⟩
  have tells := executeCall_told executed
  simp only [World.events_showing] at takes tells
  simp only [Act.print_bind] at run
  obtain ⟨_, _, _, run⟩ := Act.bind_ok run
  obtain ⟨arrives, _, pausing, run⟩ := Act.bind_ok run
  have looked := pauseOnArrival_ok pausing
  cases run
  refine ⟨⟨⟨text, shown⟩, takes⟩, ?_, ?_⟩
  · intro unpaused succeeds malformed
    obtain ⟨failure, fails⟩ := isTargetNavigation_fails_iff.mpr malformed
    have unsettled : told.failed = false := tells ▸ succeeds
    rw [unpaused, unsettled, fails] at looked
    cases looked
  · unfold Executed.Arrives Executed.Succeeds
    rw [← tells]
    cases paused with
    | true => simp
    | false =>
        cases failed : told.failed with
        | true =>
            rw [failed] at looked
            cases looked
            simp
        | false =>
            rw [failed] at looked
            have looked : .ok arrives = isTargetNavigation call rt.settings.targetOrigin := looked
            rw [← looked]
            simp

/-- A call that is fit and can be looked at is run. -/
theorem runCall_returns (patient : rt.operator = none ∨ s.interruptsEntry = false)
    (named : call.id ≠ "")
    (same : e = ⟨call, rt.session.receive w.events call.name call.arguments⟩)
    (fits : e.Fits (rt.session.room .line) w.ledger)
    (traced : paused = false → e.Succeeds → ¬ call.MalformedFor rt.settings.targetOrigin) :
    (runCall rt number paused call).Returns s w := by
  subst same
  obtain ⟨⟨text, shown⟩, taken⟩ := fits
  rw [runCall]
  refine Act.bind_returns_iff.mpr ⟨text, w, by rw [shown]; rfl, ?_⟩
  refine Act.print_returns (fun first => ?_) _
  refine Act.print_returns (fun second => ?_) _
  have executes : (executeCall rt.session call).Returns s ((w.showing first).showing second) :=
    executeCall_returns_iff.mpr taken
  obtain ⟨told, after, executed⟩ := executes
  refine Act.bind_returns_iff.mpr ⟨told, after, executed, ?_⟩
  refine Act.print_returns (fun third => ?_) _
  refine Act.bind_returns_iff.mpr ⟨_, _, congrArg (·, _) (Message.answer_named named _ _), ?_⟩
  have tells := executeCall_told executed
  refine Act.bind_returns_iff.mpr ?_
  rcases pausing : rt.pauseOnArrival (paused || told.failed) call s (after.showing third) with
    ⟨_ | arrives, last⟩
  · have looked := pauseOnArrival_outcome patient pausing
    cases settled : paused || told.failed with
    | true =>
        rw [settled] at looked
        cases looked
    | false =>
        rw [settled] at looked
        obtain ⟨unpaused, unfailed⟩ := Bool.or_eq_false_iff.mp settled
        rw [tells] at unfailed
        exact absurd (isTargetNavigation_fails_iff.mp ⟨_, looked.symm⟩) (traced unpaused unfailed)
  · exact ⟨arrives, last, rfl, _, _, rfl⟩

end Call

/-! ## All calls -/

section Calls

variable {rt : Runtime} {s : Surroundings} {w w' : World} {call : ToolCall} {calls : List ToolCall}
  {number : Nat} {paused : Bool}

/-- Whether a ledger takes a call does not depend on what it holds. -/
theorem Ledger.takes_of_grows (grows : w.Grows w') (arguments : Fields) :
    w'.ledger.Takes arguments ↔ w.ledger.Takes arguments := by
  obtain ⟨_, learns⟩ := grows
  rw [Takes, Takes, learns.directory]

theorem Executed.fits_of_grows (grows : w.Grows w') (room : Nat) (e : Executed) :
    e.Fits room w'.ledger ↔ e.Fits room w.ledger := by
  have takes := Ledger.takes_of_grows grows e.call.arguments
  exact ⟨fun ⟨shown, taken⟩ => ⟨shown, fun succeeds => takes.mp (taken succeeds)⟩,
    fun ⟨shown, taken⟩ => ⟨shown, fun succeeds => takes.mpr (taken succeeds)⟩⟩

theorem runCall_grows : (runCall rt number paused call).Keeps World.Grows :=
  runCall_keeps (fun _ => rt.session.execute_grows _ _ _) (fun still => still.quiet.grows) _ _ _

/-- **Calls are run to their end exactly if all of them fit and those that are looked at can be
traced.** -/
theorem runCalls_returns_iff (number : Nat)
    (patient : rt.operator = none ∨ s.interruptsEntry = false)
    (named : ∀ call ∈ calls, call.id ≠ "") :
    (runCalls rt number paused calls).Returns s w ↔
      (∀ e ∈ rt.session.executed w.events calls, e.Fits (rt.session.room .line) w.ledger) ∧
        (paused = true ∨
          Traceable rt.settings.targetOrigin (rt.session.executed w.events calls)) := by
  induction calls generalizing number paused w with
  | nil =>
      refine iff_of_true ⟨_, _, rfl⟩ ⟨fun e member => ?_, .inr fun before e after split => ?_⟩
      · cases member
      · cases before <;> cases split
  | cons call rest ih =>
      obtain ⟨first, others⟩ := List.forall_mem_cons.mp named
      have step : (runCalls rt number paused (call :: rest)).Returns s w ↔
          ∃ one middle, runCall rt number paused call s w = (.ok one, middle) ∧
            (runCalls rt (number + 1) one.paused rest).Returns s middle := by
        rw [runCalls, Act.bind_returns_iff]
        refine exists₂_congr fun one middle => and_congr_right fun _ => ?_
        rw [Act.bind_returns_iff]
        constructor
        · rintro ⟨more, last, run, _⟩
          exact ⟨more, last, run⟩
        · rintro ⟨more, last, run⟩
          exact ⟨more, last, run, _, _, rfl⟩
      -- The others are run in another world, but what they need of it is the same.
      have later {one : CallsResult} {middle : World}
          (run : runCall rt number paused call s w = (.ok one, middle)) :
          (runCalls rt (number + 1) one.paused rest).Returns s middle ↔
            (∀ e ∈ rt.session.executed
                (rt.session.historyAfterOne w.events call.name call.arguments) rest,
              e.Fits (rt.session.room .line) w.ledger) ∧
            (one.paused = true ∨ Traceable rt.settings.targetOrigin (rt.session.executed
                (rt.session.historyAfterOne w.events call.name call.arguments) rest)) := by
        have served : rt.session.Serves w [call] one.answers middle := runCall_treats run
        have events : middle.events =
            rt.session.historyAfterOne w.events call.name call.arguments :=
          served.executes.events
        rw [ih (number + 1) others, events]
        simp only [Executed.fits_of_grows (runCall_grows.run run)]
      rw [step, Session.executed, List.forall_mem_cons, traceable_cons_iff]
      constructor
      · rintro ⟨one, middle, run, returns⟩
        obtain ⟨fits, traced, pauses⟩ := runCall_ok rfl run
        obtain ⟨fit, clear⟩ := (later run).mp returns
        refine ⟨⟨fits, fit⟩, ?_⟩
        cases paused with
        | true => exact .inl rfl
        | false =>
            refine .inr ⟨traced rfl, clear.imp_left fun given => ?_⟩
            exact (pauses.mp given).resolve_left (by decide)
      · rintro ⟨⟨fits, fit⟩, clear⟩
        have traced (unpaused : paused = false) := (clear.resolve_left (by simp [unpaused])).1
        obtain ⟨one, middle, run⟩ := runCall_returns patient first rfl fits traced
        obtain ⟨_, _, pauses⟩ := runCall_ok rfl run
        refine ⟨one, middle, run, (later run).mpr ⟨fit, ?_⟩⟩
        rcases clear with given | ⟨_, arrives | traceable⟩
        · exact .inl (pauses.mpr (.inl given))
        · exact .inl (pauses.mpr (.inr arrives))
        · exact .inr traceable

/-! ## The step -/

/-- The answer to a call: a tool message with its id, which says that the call has failed exactly if
it has, and holds the result of one that has succeeded. -/
structure Executed.AnsweredBy (e : Executed) (m : Message) : Prop where
  role : m.role = .tool
  id : m.toolCallId = some e.call.id
  failed : m.isError = true ↔ e.reception.success? = none
  result : ∀ text, e.reception.success? = some text → m.content = some text

theorem Executed.answeredBy_message (e : Executed) : e.AnsweredBy e.message where
  role := rfl
  id := rfl
  failed := by
    rw [e.reception.success?_eq e.call.name, Executed.message]
    cases (e.reception.told e.call.name).failed <;> simp
  result text succeeded := by
    rw [e.reception.success?_eq e.call.name] at succeeded
    split at succeeded
    · cases succeeded
    · exact succeeded

/-- **The tools' step answers every call.**  If the calls that wait have ids and the operator does
not interrupt, the step comes to an update exactly if all calls fit and those that are looked at can
be traced.  The update then has one answer to every call, in order, and all calls have been
executed, each under the history that those before it left. -/
theorem toolsStep_answers (rt : Runtime) (state : State) (s : Surroundings) (w : World)
    (named : ∀ call ∈ state.pending, call.id ≠ "")
    (patient : rt.operator = none ∨ s.interruptsEntry = false) :
    ((∃ update, (toolsStep rt state s w).1 = .ok update) ↔
      (∀ e ∈ rt.session.executed w.events state.pending,
          e.Fits (rt.session.room .line) w.ledger) ∧
        (state.paused = true ∨
          Traceable rt.settings.targetOrigin (rt.session.executed w.events state.pending))) ∧
    ∀ update, (toolsStep rt state s w).1 = .ok update →
      List.Forall₂ Executed.AnsweredBy (rt.session.executed w.events state.pending)
        update.messages ∧
      (rt.session.executed w.events state.pending).map Executed.call = state.pending ∧
      rt.session.Executes w state.pending (toolsStep rt state s w).2 := by
  rcases run : toolsStep rt state s w with ⟨outcome, w'⟩
  constructor
  · rw [← runCalls_returns_iff (answeredCalls state.messages + 1) patient named]
    constructor
    · rintro ⟨update, rfl⟩
      obtain ⟨result, last, running, _⟩ := Act.bind_ok run
      exact ⟨result, last, running⟩
    · rintro ⟨result, last, running⟩
      rw [toolsStep, Act.bind_of_ok running] at run
      cases run
      exact ⟨_, rfl⟩
  · rintro update rfl
    rcases toolsStep_cases run with ⟨result, same, served⟩ | ⟨_, impossible, _⟩
    case inr => cases impossible
    cases same
    refine ⟨?_, rt.session.map_call_executed _ _, served.executes⟩
    rw [CallsResult.toUpdate, served.answers]
    exact List.forall₂_map_right_iff.mpr (List.forall₂_same.mpr fun e _ => e.answeredBy_message)

end Calls

/-! ## A sample -/

namespace Sample

/-- A tool that goes to an address. -/
def navigate : Tool :=
  { name := "navigate" }

/-- A browser that goes wherever it is told. -/
def browser : Backend where
  tools := .ok [navigate]
  call _ tool arguments := ([.call tool arguments], .ok (.ofText "done"))

/-- A conversation with that browser, and with a target. -/
def browsing (target : String) : Runtime where
  session := { backend := browser, catalog := .ofTools [navigate] }
  model := .direct fun _ _ => .ok { content := "" }
  tools := []
  settings := { targetOrigin := some target }

/-- A call that goes to an address. -/
def goTo (id url : String) : ToolCall :=
  ⟨id, "navigate", [("url", .text url)]⟩

/-- The state in which these calls wait. -/
def waiting (calls : List ToolCall) : State :=
  { pending := calls }

/-- A call to the target itself has arrived. -/
theorem arrives_goTo (id : String) :
    isTargetNavigation (goTo id "http://a") (some "http://a") = .ok true := by
  have origin : Origin.ofAddress "http://a" = .ok (some ⟨"http", "a"⟩) := by decide +kernel
  have navigates : Text.endsWith "navigate" "navigate" = true := by decide
  have aimed : (goTo id "http://a").arguments.get? "url" = some (.text "http://a") := by
    simp [goTo, Fields.get?]
  have given : "http://a" ≠ "" := by decide
  rw [isTargetNavigation_eq given navigates aimed, origin]
  exact congrArg Except.ok (beq_self_eq_true _)

end Sample

/-- **A malformed address ends the step**: the call to it is executed, the one behind it is neither
executed nor answered. -/
theorem toolsStep_malformed :
    (∀ call ∈ [Sample.goTo "first" "http://[", Sample.goTo "second" "http://b"], call.id ≠ "") ∧
      (Sample.browsing "http://a").operator = none ∧
      ∀ s,
        let run := toolsStep (Sample.browsing "http://a")
          (Sample.waiting [Sample.goTo "first" "http://[", Sample.goTo "second" "http://b"])
          s .fresh
        run.1 = .error (.badValue "Invalid IPv6 URL") ∧
          run.2.events = [.call "navigate" [("url", .text "http://[")]] := by
  refine ⟨by decide, rfl, fun s => ⟨?_, ?_⟩⟩
  · rfl
  · rfl

/-- Behind a call that has arrived a malformed address is harmless: both calls are answered. -/
theorem toolsStep_answers_arrived :
    (∀ call ∈ [Sample.goTo "first" "http://a", Sample.goTo "second" "http://["], call.id ≠ "") ∧
      (Sample.browsing "http://a").operator = none ∧
      ∀ s, ∃ update,
        (toolsStep (Sample.browsing "http://a")
            (Sample.waiting [Sample.goTo "first" "http://a", Sample.goTo "second" "http://["])
            s .fresh).1 = .ok update ∧
          update.messages.map Message.toolCallId = [some "first", some "second"] := by
  have named :
      ∀ call ∈ [Sample.goTo "first" "http://a", Sample.goTo "second" "http://["], call.id ≠ "" := by
    decide
  refine ⟨named, rfl, fun s => ?_⟩
  let rt := Sample.browsing "http://a"
  let state := Sample.waiting [Sample.goTo "first" "http://a", Sample.goTo "second" "http://["]
  let first : Executed := ⟨Sample.goTo "first" "http://a", .answered (.ofText "done")⟩
  let second : Executed := ⟨Sample.goTo "second" "http://[", .answered (.ofText "done")⟩
  have executed : rt.session.executed World.fresh.events state.pending = [first, second] := rfl
  obtain ⟨returns, answers⟩ := toolsStep_answers rt state s .fresh named (.inl rfl)
  rw [executed] at returns answers
  have fits : ∀ e ∈ [first, second], e.Fits 980 World.fresh.ledger := by
    simp only [List.forall_mem_cons]
    exact ⟨⟨⟨_, rfl⟩, fun _ => nofun⟩, ⟨⟨_, rfl⟩, fun _ => nofun⟩, nofun⟩
  have arrives : first.Arrives (some "http://a") := ⟨rfl, Sample.arrives_goTo "first"⟩
  have traced : ¬ first.call.MalformedFor (some "http://a") := by
    intro malformed
    obtain ⟨failure, fails⟩ := isTargetNavigation_fails_iff.mpr malformed
    rw [arrives.2] at fails
    cases fails
  have traceable : Traceable (some "http://a") [first, second] :=
    traceable_cons_iff.mpr ⟨fun _ => traced, .inl arrives⟩
  obtain ⟨update, ok⟩ := returns.mpr ⟨fits, .inr traceable⟩
  refine ⟨update, ok, ?_⟩
  obtain ⟨answered, _, _⟩ := answers update ok
  obtain ⟨one, _, firstly, others, same⟩ := List.forall₂_cons_left_iff.mp answered
  obtain ⟨two, _, secondly, none, rfl⟩ := List.forall₂_cons_left_iff.mp others
  obtain rfl := List.forall₂_nil_left_iff.mp none
  rw [same, List.map_cons, List.map_cons, List.map_nil, firstly.id, secondly.id]
  rfl

end WebPilot
