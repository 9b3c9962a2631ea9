import WebPilot.Proofs.Session.Asking

/-!
# Operators who interrupt

An operator who is asked to enter a line may interrupt instead, and that ends everything.  An act is
*discreet* if it asks nothing of the operator and does the same with one who would interrupt.
Discreet acts can be put together (`Act.Discreet.bind`); asking the model is discreet
(`ModelService.ask_discreet`), and so is executing a call (`Session.execute_discreet`).

An act that is not discreet asks the operator somewhere, and one who interrupts shows where: the act
then ends in the world in which it asks.  This is how acts are told that ask at most once.  They go
by a sign that the operator was asked: where it is there already they are discreet, and otherwise
they give it exactly if they ask (`Act.Pausing`).  **A sequence of such acts is such an act, if each
takes over the sign that the one before has given** (`Act.Pausing.bind`).
-/

namespace WebPilot

set_option autoImplicit false

variable {α β : Type}

/-- The same surroundings, but with an operator who interrupts when asked to enter a line. -/
def Surroundings.interrupting (s : Surroundings) : Surroundings :=
  { s with interruptsEntry := true }

/-- The world in which the operator has been asked something more. -/
def World.asking (w : World) (p : Prompt) : World :=
  { w with prompts := w.prompts ++ [p] }

namespace Act

/-! ## Discreet acts -/

/-- The act asks nothing of the operator, and does the same with one who would interrupt. -/
def Discreet (act : Act α) : Prop :=
  ∀ s w, act s.interrupting w = act s w ∧ Same World.prompts w (act s w).2

namespace Discreet

theorem done (a : α) : (Act.done a).Discreet :=
  fun _ _ => ⟨rfl, rfl⟩

theorem fail (failure : Failure) : (Act.fail failure : Act α).Discreet :=
  fun _ _ => ⟨rfl, rfl⟩

theorem lift (outcome : Except Failure α) : (Act.lift outcome).Discreet :=
  fun _ _ => ⟨rfl, rfl⟩

theorem see (f : World → α) : (Act.see f).Discreet :=
  fun _ _ => ⟨rfl, rfl⟩

theorem print (markup : String) : (Act.print markup).Discreet :=
  fun _ _ => ⟨rfl, rfl⟩

theorem note (text : String) : (Act.note text).Discreet :=
  fun _ _ => ⟨rfl, rfl⟩

theorem sleep (seconds : Float) : (Act.sleep seconds).Discreet :=
  fun _ _ => ⟨rfl, rfl⟩

theorem sleepFor (duration : Number) : (Act.sleepFor duration).Discreet := by
  unfold Act.sleepFor
  split
  · exact sleep _
  · exact fail _

theorem now : Act.now.Discreet :=
  fun _ _ => ⟨rfl, rfl⟩

theorem record (i : Invocation) : (Act.record i).Discreet := by
  intro s w
  refine ⟨rfl, ?_⟩
  simp only [Act.record]
  split <;> rfl

theorem attempt {act : Act α} (discreet : act.Discreet) : act.attempt.Discreet := by
  intro s w
  obtain ⟨same, unasked⟩ := discreet s w
  exact ⟨by rw [attempt_apply, attempt_apply, same], unasked⟩

/-- **Discreet acts can be put together.** -/
theorem bind {act : Act α} {next : α → Act β} (first : act.Discreet)
    (later : ∀ a, (next a).Discreet) : (act >>= next).Discreet := by
  intro s w
  obtain ⟨same, unasked⟩ := first s w
  rw [bind_apply, bind_apply, same]
  rcases run : act s w with ⟨failure | a, middle⟩
  · rw [run] at unasked
    exact ⟨rfl, unasked⟩
  · rw [run] at unasked
    obtain ⟨alike, silent⟩ := later a s middle
    exact ⟨alike, Frame.trans unasked silent⟩

theorem when_ {condition : Bool} {act : Act Unit} (discreet : act.Discreet) :
    (Act.when_ condition act).Discreet := by
  cases condition with
  | false => exact done ()
  | true => exact discreet

end Discreet

end Act

/-! ## Asking the model and executing calls -/

namespace Hosted

theorem takeTurn_discreet (key : TrackKey) (cost : Int) : (takeTurn key cost).Discreet := by
  intro s w
  refine ⟨rfl, ?_⟩
  simp only [takeTurn]
  split <;> rfl

theorem pace_discreet (estimate : Int) (identifier : String) :
    (pace estimate identifier).Discreet :=
  .bind (.see _) fun _ => .bind (takeTurn_discreet _ _) fun _ =>
    .bind (.see _) fun _ => .bind (.see _) fun _ => takeTurn_discreet _ _

theorem submit_discreet (answers : Answers) (submission : Submission) :
    (submit answers submission).Discreet := by
  intro s w
  refine ⟨rfl, ?_⟩
  unfold submit
  split <;> rfl

end Hosted

/-- Asking the model is discreet. -/
theorem ModelService.ask_discreet (service : ModelService) (request : Request) :
    (service.ask request).Discreet := by
  cases service with
  | direct answer => exact fun _ _ => ⟨rfl, rfl⟩
  | hosted config answers =>
      exact .bind (.lift _) fun _ => .bind (Hosted.pace_discreet _ _) fun _ =>
        .bind (Hosted.submit_discreet _ _) fun _ => .lift _

theorem Session.call_discreet (session : Session) (tool : String) (arguments : Fields) :
    (session.call tool arguments).Discreet := by
  intro s w
  refine ⟨rfl, ?_⟩
  simp only [call]
  split <;> rfl

/-- Executing a call is discreet. -/
theorem Session.execute_discreet (session : Session) (tool : String) (arguments : Fields)
    (recorded : Bool) : (session.execute tool arguments recorded).Discreet := by
  unfold execute
  split
  · exact .fail _
  · exact .bind (session.call_discreet _ _) fun _ =>
      .bind (.when_ (.bind .now fun _ => .record _)) fun _ => .done _

/-! ## Acts that pause -/

namespace Act

/-- The act asks the operator at most once and goes by a sign that this was done, which is there or
not before (`paused`) and after (`told`).  It leaves the operator alone and the sign as it is; or
the sign is not there, the operator is asked in such a world, and then it is. -/
inductive Pausing (act : Act α) (s : Surroundings) (w : World) (told : α → Prop) (paused : Prop)
    (asking : World → Prop) : Prop
  | passes (same : act s.interrupting w = act s w) (unasked : Same World.prompts w (act s w).2)
      (kept : ∀ a, (act s w).1 = .ok a → (told a ↔ paused))
  | asks {v : World} (unpaused : ¬ paused) (there : asking v)
      (halts : act s.interrupting w = (.error .interrupted, v))
      (once : Same World.prompts v (act s w).2) (given : ∀ a, (act s w).1 = .ok a → told a)

namespace Pausing

variable {act : Act α} {next : α → Act β} {s : Surroundings} {w : World} {told : α → Prop}
  {told' : β → Prop} {paused : Prop} {asking : World → Prop}

theorem of_discreet (discreet : act.Discreet)
    (kept : ∀ a, (act s w).1 = .ok a → (told a ↔ paused)) :
    act.Pausing s w told paused asking :=
  .passes (discreet s w).1 (discreet s w).2 kept

/-- Where the sign was not there, the places in which the operator may be asked can be widened. -/
theorem mono {wider : World → Prop} (pausing : act.Pausing s w told paused asking)
    (inside : ∀ v, ¬ paused → asking v → wider v) : act.Pausing s w told paused wider := by
  cases pausing with
  | passes same unasked kept => exact .passes same unasked kept
  | asks unpaused there halts once given =>
      exact .asks unpaused (inside _ unpaused there) halts once given

/-- What is done is done, and the sign is as it says. -/
theorem done {a : α} (kept : told a ↔ paused) : (Act.done a).Pausing s w told paused asking := by
  refine of_discreet (.done a) fun b same => ?_
  cases same
  exact kept

theorem fail (failure : Failure) : (Act.fail failure).Pausing s w told paused asking :=
  of_discreet (.fail failure) nofun

/-- Asking the operator to enter a line, where that was not done before. -/
theorem prompt (p : Prompt) (unpaused : ¬ paused) :
    (Act.prompt p).Pausing s w (fun _ => True) paused (fun v => v = w.asking p) := by
  refine .asks (v := w.asking p) unpaused rfl ?_ ?_ fun _ _ => trivial
  · simp [Act.prompt, Surroundings.interrupting, World.asking]
  · unfold Act.prompt
    split <;> rfl

/-- **A sequence asks at most once if both its acts do**, and the second takes over the sign that
the first has given.  If the first leaves the operator alone, the second asks where the sequence
may. -/
theorem bind (first : act.Pausing s w told paused asking)
    (second : ∀ a m, act s w = (.ok a, m) →
      (next a).Pausing s m told' (told a) (fun v => Same World.prompts w m → asking v)) :
    (act >>= next).Pausing s w told' paused asking := by
  rcases run : act s w with ⟨failure | a, m⟩
  · have ends : (act >>= next) s w = (.error failure, m) := by rw [bind_apply, run]
    cases first with
    | passes same unasked _ =>
        rw [run] at same unasked
        refine .passes ?_ ?_ ?_
        · rw [ends, bind_apply, same]
        · rwa [ends]
        · rw [ends]
          nofun
    | asks unpaused there halts once _ =>
        rw [run] at once
        refine .asks unpaused there ?_ ?_ ?_
        · rw [bind_apply, halts]
        · rwa [ends]
        · rw [ends]
          nofun
  · have goes : (act >>= next) s w = next a s m := bind_of_ok run
    cases first with
    | passes same unasked kept =>
        rw [run] at same unasked kept
        have alike : (act >>= next) s.interrupting w = next a s.interrupting m := bind_of_ok same
        cases second a m run with
        | passes same' unasked' kept' =>
            refine .passes ?_ ?_ ?_
            · rw [goes, alike, same']
            · rw [goes]
              exact Frame.trans unasked unasked'
            · rw [goes]
              exact fun b ok => (kept' b ok).trans (kept a rfl)
        | asks unpaused there halts once given =>
            refine .asks (mt (kept a rfl).mpr unpaused) (there unasked) (alike.trans halts) ?_ ?_
            · rwa [goes]
            · rwa [goes]
    | asks unpaused there halts once given =>
        rw [run] at once given
        cases second a m run with
        | passes _ unasked' kept' =>
            refine .asks unpaused there ?_ ?_ ?_
            · rw [bind_apply, halts]
            · rw [goes]
              exact Frame.trans once unasked'
            · rw [goes]
              exact fun b ok => (kept' b ok).mpr (given a rfl)
        | asks untold => exact absurd (given a rfl) untold

/-- A discreet act may come first. -/
theorem after (discreet : act.Discreet)
    (second : ∀ a m, act s w = (.ok a, m) → Same World.prompts w m →
      (next a).Pausing s m told' paused asking) :
    (act >>= next).Pausing s w told' paused asking := by
  have first : act.Pausing s w (fun _ => paused) paused asking :=
    of_discreet discreet fun _ _ => Iff.rfl
  refine bind first fun a m run => (second a m run ?_).mono fun v _ there _ => there
  have unasked := (discreet s w).2
  rwa [run] at unasked

/-- Something may be shown first. -/
theorem after_print {next : Unit → Act β} {markup : String}
    (second : (next ()).Pausing s (w.showing markup) told' paused asking) :
    (Act.print markup >>= next).Pausing s w told' paused asking := by
  refine after (.print markup) fun _ m printed _ => ?_
  cases printed
  exact second

/-- What an act comes to may be turned into something with the same sign. -/
theorem map {f : α → β} (pausing : act.Pausing s w told paused asking)
    (same : ∀ a, told' (f a) ↔ told a) :
    (act >>= fun a => Act.done (f a)).Pausing s w told' paused asking :=
  bind pausing fun a _ _ => .done (same a)

end Pausing

end Act

end WebPilot
