import WebPilot.Session.Operation

/-!
# Taking operations apart

A sequence of operations that came to an end did so in its first operation or in a later one, and
its events are those of the operations that were begun (`Operation.bind_cases`).  What each operation
keeps of the state, and each of its events is, the sequence keeps and its events are
(`Operation.Keeps.bind`).
-/

namespace WebPilot.Operation

set_option autoImplicit false

variable {σ α β : Type}

/-! ## Sequences -/

@[simp] theorem state_bind (next : σ → Operation σ β) (s : σ) :
    (Operation.state >>= next) s = next s s :=
  rfl

@[simp] theorem change_bind (f : σ → σ) (next : Unit → Operation σ β) (s : σ) :
    (Operation.change f >>= next) s = next () (f s) :=
  rfl

theorem bind_of_ok {op : Operation σ α} {next : α → Operation σ β} {s s' : σ} {a : α}
    {events : List Event} (first : op s = (events, .ok a, s')) :
    (op >>= next) s = (events ++ (next a s').1, (next a s').2.1, (next a s').2.2) := by
  show andThen op next s = _
  rw [andThen, first]

/-- Two runs in sequence. -/
theorem bind_runs {op : Operation σ α} {next : α → Operation σ β} {s s' s'' : σ} {a : α}
    {before after : List Event} {outcome : Except Failure β} (first : op s = (before, .ok a, s'))
    (later : next a s' = (after, outcome, s'')) :
    (op >>= next) s = (before ++ after, outcome, s'') := by
  rw [bind_of_ok first, later]

theorem bind_of_error {op : Operation σ α} {next : α → Operation σ β} {s s' : σ}
    {failure : Failure} {events : List Event} (first : op s = (events, .error failure, s')) :
    (op >>= next) s = (events, .error failure, s') := by
  show andThen op next s = _
  rw [andThen, first]

/-- **A sequence ends in its first operation or in a later one.** -/
theorem bind_cases {op : Operation σ α} {next : α → Operation σ β} {s s' : σ}
    {events : List Event} {outcome : Except Failure β}
    (run : (op >>= next) s = (events, outcome, s')) :
    (∃ before a middle after, op s = (before, .ok a, middle) ∧
        next a middle = (after, outcome, s') ∧ events = before ++ after) ∨
      ∃ failure, op s = (events, .error failure, s') ∧ outcome = .error failure := by
  rcases first : op s with ⟨before, _ | a, middle⟩
  · rw [bind_of_error first] at run
    cases run
    exact .inr ⟨_, rfl, rfl⟩
  · rw [bind_of_ok first] at run
    cases run
    exact .inl ⟨before, a, middle, _, rfl, rfl, rfl⟩

/-- An operation with something to fall back on succeeds, or fails and falls back. -/
theorem orElse_cases {op : Operation σ α} {handle : Failure → Operation σ α} {s s' : σ}
    {events : List Event} {outcome : Except Failure α}
    (run : op.orElse_ handle s = (events, outcome, s')) :
    (∃ a, op s = (events, .ok a, s') ∧ outcome = .ok a) ∨
      ∃ before failure middle after, op s = (before, .error failure, middle) ∧
        handle failure middle = (after, outcome, s') ∧ events = before ++ after := by
  rcases first : op s with ⟨before, failure | a, middle⟩
  · rw [orElse_, first] at run
    cases run
    exact .inr ⟨before, failure, middle, _, rfl, rfl, rfl⟩
  · rw [orElse_, first] at run
    cases run
    exact .inl ⟨a, rfl, rfl⟩

/-! ## Invariants -/

/-- From a state with a property, an operation leaves only events of a kind, and a state with that
property. -/
def Keeps (kind : Event → Prop) (property : σ → Prop) (op : Operation σ α) : Prop :=
  ∀ s, property s → (∀ e ∈ (op s).1, kind e) ∧ property (op s).2.2

namespace Keeps

variable {kind : Event → Prop} {property : σ → Prop}

theorem of_run {op : Operation σ α} {s s' : σ} {events : List Event} {outcome : Except Failure α}
    (keeps : op.Keeps kind property) (run : op s = (events, outcome, s')) (holds : property s) :
    (∀ e ∈ events, kind e) ∧ property s' := by
  obtain ⟨isKind, kept⟩ := keeps s holds
  rw [run] at isKind kept
  exact ⟨isKind, kept⟩

theorem done (a : α) : (Operation.done a).Keeps kind property :=
  fun _ holds => ⟨nofun, holds⟩

theorem fail (failure : Failure) : (Operation.fail failure : Operation σ α).Keeps kind property :=
  fun _ holds => ⟨nofun, holds⟩

theorem change {f : σ → σ} (kept : ∀ s, property s → property (f s)) :
    (Operation.change f).Keeps kind property :=
  fun s holds => ⟨nofun, kept s holds⟩

theorem emit {event : Event} (isKind : kind event) :
    (Operation.emit event).Keeps kind property :=
  fun _ holds => ⟨List.forall_mem_singleton.mpr isKind, holds⟩

theorem bind {op : Operation σ α} {next : α → Operation σ β} (first : op.Keeps kind property)
    (later : ∀ a, (next a).Keeps kind property) : (op >>= next).Keeps kind property := by
  intro s holds
  rcases run : op s with ⟨events, _ | a, s'⟩
  · rw [bind_of_error run]
    exact first.of_run run holds
  · rw [bind_of_ok run]
    obtain ⟨before, kept⟩ := first.of_run run holds
    obtain ⟨after, kept⟩ := later a s' kept
    exact ⟨List.forall_mem_append.mpr ⟨before, after⟩, kept⟩

theorem when_ (condition : Bool) {op : Operation σ Unit} (kept : op.Keeps kind property) :
    (op.when_ condition).Keeps kind property := by
  cases condition with
  | false => exact done ()
  | true => exact kept

end Keeps

end WebPilot.Operation
