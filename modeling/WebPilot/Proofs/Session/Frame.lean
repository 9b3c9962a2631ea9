import WebPilot.Model.Service

/-!
# What an act may do to the world

An act is a function from surroundings and a world to an outcome and a world.  A sequence of acts
that came to an end did so in its first act or in a later one (`Act.bind_cases`), and everything
said about a sequence is said by taking it apart there.

A *frame* is a reflexive and transitive relation between the world before and the world after.  An
act *keeps* a frame if all its runs do, however they end, and a sequence of acts that keep a frame
keeps it (`Act.Keeps.bind`).  Two kinds of frames are used: that a view of the world stays the same,
and that a record of what was asked only grows by certain entries.
-/

namespace WebPilot

set_option autoImplicit false

variable {α β γ : Type}

/-- The world with one more line shown to the operator. -/
def World.showing (w : World) (markup : String) : World :=
  { w with console := w.console ++ [.text markup] }

@[simp] theorem World.events_showing (w : World) (markup : String) :
    (w.showing markup).events = w.events := rfl

/-- The console takes a line. -/
def Surroundings.Takes (s : Surroundings) (line : Line) : Prop :=
  s.refusal? line = none

namespace Act

/-! ## Sequences -/

theorem bind_apply (act : Act α) (next : α → Act β) (s : Surroundings) (w : World) :
    (act >>= next) s w =
      match act s w with
      | (.ok a, w) => next a s w
      | (.error failure, w) => (.error failure, w) := rfl

theorem bind_of_ok {act : Act α} {next : α → Act β} {s : Surroundings} {w w' : World} {a : α}
    (first : act s w = (.ok a, w')) : (act >>= next) s w = next a s w' := by
  rw [bind_apply, first]

/-- **A sequence ends in its first act or in a later one.** -/
theorem bind_cases {act : Act α} {next : α → Act β} {s : Surroundings} {w w' : World}
    {outcome : Except Failure β} (run : (act >>= next) s w = (outcome, w')) :
    (∃ a middle, act s w = (.ok a, middle) ∧ next a s middle = (outcome, w')) ∨
      ∃ failure, act s w = (.error failure, w') ∧ outcome = .error failure := by
  rw [bind_apply] at run
  rcases first : act s w with ⟨_ | a, middle⟩
  · rw [first] at run
    cases run
    exact .inr ⟨_, rfl, rfl⟩
  · rw [first] at run
    exact .inl ⟨a, middle, rfl, run⟩

/-- A sequence that comes to a result does so in all its acts. -/
theorem bind_ok {act : Act α} {next : α → Act β} {s : Surroundings} {w w' : World} {b : β}
    (run : (act >>= next) s w = (.ok b, w')) :
    ∃ a middle, act s w = (.ok a, middle) ∧ next a s middle = (.ok b, w') := by
  rcases bind_cases run with later | ⟨failure, _, impossible⟩
  · exact later
  · cases impossible

theorem attempt_apply (act : Act α) (s : Surroundings) (w : World) :
    act.attempt s w = (.ok (act s w).1, (act s w).2) := rfl

theorem print_apply (markup : String) (s : Surroundings) (w : World) :
    print markup s w = (.ok (), w.showing markup) := rfl

theorem print_bind (markup : String) (next : Unit → Act β) (s : Surroundings) (w : World) :
    (print markup >>= next) s w = next () s (w.showing markup) := rfl

theorem sleep_bind (seconds : Float) (next : Unit → Act β) (s : Surroundings) (w : World) :
    (sleep seconds >>= next) s w = next () s (sleep seconds s w).2 := rfl

theorem lift_cases {outcome : Except Failure α} {result : Except Failure α} {s : Surroundings}
    {w w' : World} (run : Act.lift outcome s w = (result, w')) : outcome = result ∧ w = w' := by
  cases run
  exact ⟨rfl, rfl⟩

/-- A line that is offered is taken and shown, or it is refused and nothing is done. -/
theorem offer_cases {line : Line} {s : Surroundings} {w w' : World} {outcome : Except Failure Unit}
    (run : offer line s w = (outcome, w')) :
    (s.Takes line ∧ show_ line s w = (outcome, w') ∧ outcome = .ok ()) ∨
      ∃ failure, s.refusal? line = some failure ∧ outcome = .error failure ∧ w' = w := by
  unfold offer at run
  split at run
  · rename_i failure refused
    cases run
    exact .inr ⟨failure, refused, rfl, rfl⟩
  · rename_i taken
    cases run
    exact .inl ⟨taken, rfl, rfl⟩

/-- A line that was offered and not refused was taken and shown. -/
theorem offer_ok {line : Line} {s : Surroundings} {w w' : World}
    (run : offer line s w = (.ok (), w')) : s.Takes line ∧ show_ line s w = (.ok (), w') := by
  rcases offer_cases run with ⟨taken, shown, _⟩ | ⟨_, _, impossible, _⟩
  · exact ⟨taken, shown⟩
  · cases impossible

theorem offer_taken {line : Line} {s : Surroundings} (taken : s.Takes line) (w : World) :
    offer line s w = show_ line s w := by
  unfold offer
  rw [show s.refusal? line = none from taken]

theorem offer_refused {line : Line} {s : Surroundings} {failure : Failure}
    (refused : s.refusal? line = some failure) (w : World) :
    offer line s w = (.error failure, w) := by
  unfold offer
  rw [refused]

end Act

/-! ## Frames -/

/-- A relation between the world before and the world after that holds when nothing is done and can
be put together. -/
class Frame (relation : World → World → Prop) : Prop where
  refl (w : World) : relation w w
  trans {w w' w'' : World} (before : relation w w') (after : relation w' w'') : relation w w''

/-- A view of the world is the same before and after. -/
def Same (view : World → γ) (w w' : World) : Prop :=
  view w' = view w

/-- What a view decides is the same where the view is. -/
theorem Same.map {view : World → γ} {w w' : World} (same : Same view w w') (f : γ → β) :
    f (view w') = f (view w) :=
  congrArg f same

instance (view : World → γ) : Frame (Same view) where
  refl _ := rfl
  trans before after := Eq.trans after before

namespace Act

/-- All runs of the act, however they end, are within the frame. -/
def Keeps (relation : World → World → Prop) (act : Act α) : Prop :=
  ∀ s w, relation w (act s w).2

namespace Keeps

variable {relation : World → World → Prop}

theorem run {act : Act α} (keeps : act.Keeps relation) {s : Surroundings} {w w' : World}
    {outcome : Except Failure α} (run : act s w = (outcome, w')) : relation w w' := by
  have kept := keeps s w
  rwa [run] at kept

/-- A frame inside another. -/
theorem mono {wider : World → World → Prop} {act : Act α} (keeps : act.Keeps relation)
    (inside : ∀ w w', relation w w' → wider w w') : act.Keeps wider :=
  fun s w => inside _ _ (keeps s w)

theorem attempt {act : Act α} (keeps : act.Keeps relation) : act.attempt.Keeps relation :=
  fun s w => keeps s w

variable [Frame relation]

theorem done (a : α) : (Act.done a).Keeps relation :=
  fun _ w => Frame.refl w

theorem fail (failure : Failure) : (Act.fail failure : Act α).Keeps relation :=
  fun _ w => Frame.refl w

theorem lift (outcome : Except Failure α) : (Act.lift outcome).Keeps relation :=
  fun _ w => Frame.refl w

theorem see (f : World → α) : (Act.see f).Keeps relation :=
  fun _ w => Frame.refl w

theorem bind {act : Act α} {next : α → Act β} (first : act.Keeps relation)
    (later : ∀ a, (next a).Keeps relation) : (act >>= next).Keeps relation := by
  intro s w
  rcases run : (act >>= next) s w with ⟨outcome, after⟩
  rcases bind_cases run with ⟨a, middle, earlier, rest⟩ | ⟨failure, earlier, _⟩
  · exact Frame.trans (first.run earlier) ((later a).run rest)
  · exact first.run earlier

/-- What follows an act stays within the frame from where the act has ended. -/
theorem after {next : α → Act β} (later : ∀ a, (next a).Keeps relation) (act : Act α)
    (s : Surroundings) (w : World) : relation (act s w).2 ((act >>= next) s w).2 := by
  rw [bind_apply]
  rcases act s w with ⟨_ | a, middle⟩
  · exact Frame.refl middle
  · exact later a s middle

theorem after_attempt {next : Except Failure α → Act β} (later : ∀ a, (next a).Keeps relation)
    (act : Act α) (s : Surroundings) (w : World) :
    relation (act s w).2 ((act.attempt >>= next) s w).2 :=
  after later act.attempt s w

theorem when_ {condition : Bool} {act : Act Unit} (keeps : act.Keeps relation) :
    (Act.when_ condition act).Keeps relation := by
  cases condition with
  | false => exact done ()
  | true => exact keeps

end Keeps

end Act

/-! ## Still acts and quiet acts -/

/-- The world but for what is shown and asked of the operator. -/
def World.unshown (w : World) : World :=
  { w with console := [], prompts := [], diagnostics := [] }

/-- The world but for the passing of time and for what is shown: only acts that work leave a trace
in it. -/
def World.substance (w : World) : World :=
  { w with clock := 0, sleeps := [], console := [], prompts := [], diagnostics := [] }

namespace Act

/-- An act that only shows something or asks the operator to wait. -/
abbrev Still (act : Act α) : Prop :=
  act.Keeps (Same World.unshown)

/-- An act that only shows something, asks the operator to wait, or lets time pass. -/
abbrev Quiet (act : Act α) : Prop :=
  act.Keeps (Same World.substance)

theorem Still.quiet {act : Act α} (still : act.Still) : act.Quiet :=
  still.mono fun _ _ same => same.map World.substance

theorem print_still (markup : String) : (print markup).Still :=
  fun _ _ => rfl

theorem show_still (line : Line) : (show_ line).Still :=
  fun _ _ => rfl

theorem offer_still (line : Line) : (offer line).Still := by
  intro s w
  rcases run : offer line s w with ⟨outcome, w'⟩
  rcases offer_cases run with ⟨_, shown, _⟩ | ⟨_, _, _, rfl⟩
  · exact (show_still line).run shown
  · rfl

theorem note_still (text : String) : (note text).Still :=
  fun _ _ => rfl

theorem prompt_still (p : Prompt) : (prompt p).Still := by
  intro s w
  unfold prompt
  split <;> rfl

theorem print_quiet (markup : String) : (print markup).Quiet :=
  (print_still markup).quiet

theorem offer_quiet (line : Line) : (offer line).Quiet :=
  (offer_still line).quiet

theorem prompt_quiet (p : Prompt) : (prompt p).Quiet :=
  (prompt_still p).quiet

theorem sleep_quiet (seconds : Float) : (sleep seconds).Quiet :=
  fun _ _ => rfl

theorem sleepFor_quiet (duration : Number) : (sleepFor duration).Quiet := by
  unfold sleepFor
  split
  · exact sleep_quiet _
  · exact Keeps.fail _

/-- A quiet act leaves every view that the substance decides. -/
theorem Quiet.same {view : World → γ} (decided : ∀ w, view w.substance = view w) {act : Act α}
    (quiet : act.Quiet) : act.Keeps (Same view) := by
  refine quiet.mono fun w w' same => ?_
  unfold Same at same ⊢
  rw [← decided w', same, decided w]

end Act

end WebPilot
