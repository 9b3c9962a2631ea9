import WebPilot.Hosted.Client
import WebPilot.Proofs.Hosted.Window
import WebPilot.Proofs.Ledger.Keeping
import WebPilot.Proofs.Session.Asking

/-!
# What the pacer of a model lets through

A turn either takes its hit, at once, or waits and leaves nothing behind (`takeTurn_taken`,
`takeTurn_refused`).  A call makes two turns, one for the request and one for its tokens.

A call that fits both limits when it is made returns at once, and the tracks account for it.  **Of
such calls no more return in a span shorter than a window than the limits allow, and they do not
cost more** (`fitting_calls_keep_limits`), whatever calls there are besides and however much time
passes between them.  A call that has waited is accounted for nowhere: the next one may follow at
once (`waiting_call_breaks_limit`).
-/

namespace WebPilot.Hosted

set_option autoImplicit false

open Decimal

/-! ## Calls that have returned -/

/-- A call that has returned. -/
structure Passage where
  identifier : String
  /-- What it costs in tokens. -/
  cost : Int
  made : Rat
  returned : Rat
  /-- Whether it fitted both limits when it was made. -/
  fits : Bool
  deriving DecidableEq, Repr

/-- The calls of an identifier that return in a span. -/
def Passage.inSpan (passages : List Passage) (identifier : String) (first last : Rat) :
    List Passage :=
  passages.filter fun p =>
    decide (p.identifier = identifier ∧ first ≤ p.returned ∧ p.returned ≤ last)

theorem Passage.inSpan_cons (p : Passage) (passages : List Passage) (identifier : String)
    (first last : Rat) :
    Passage.inSpan (p :: passages) identifier first last =
      if p.identifier = identifier ∧ first ≤ p.returned ∧ p.returned ≤ last then
        p :: Passage.inSpan passages identifier first last
      else Passage.inSpan passages identifier first last := by
  simp only [Passage.inSpan, List.filter_cons, decide_eq_true_eq]

/-- In a span shorter than a window no more calls of an identifier return than the limits allow, and
they do not cost more. -/
def Pacer.Keeps (p : Pacer) (passages : List Passage) : Prop :=
  ∀ identifier first last, last < first + windowSeconds →
    (Passage.inSpan passages identifier first last).length ≤ p.requests ∧
      ((Passage.inSpan passages identifier first last).map (·.cost)).sum ≤ p.tokens

/-- Whether a hit fits its limit together with the recent entries of its track. -/
def Pacer.hasRoom (p : Pacer) (key : TrackKey) (cost : Int) (now : Rat) : Bool :=
  decide (cost ≤ key.amount ∧ (p.track key).recent now + cost ≤ key.amount)

/-- The call that is made in a world. -/
def passage (s : Surroundings) (w : World) (estimate : Int) (identifier : String) : Passage where
  identifier
  cost := w.pacer.tokenCost estimate
  made := w.clock
  returned := (pace estimate identifier s w).2.clock
  fits := w.pacer.hasRoom (w.pacer.requestKey identifier) 1 w.clock &&
    w.pacer.hasRoom (w.pacer.tokenKey identifier) (w.pacer.tokenCost estimate) w.clock

/-! ## Turns -/

section Turns

variable {s : Surroundings} {w : World} {key : TrackKey} {cost : Int}

/-- A hit that is taken is entered at once. -/
theorem takeTurn_taken {taken : Track}
    (hit : (w.pacer.track key).hit? key.amount cost w.clock = some taken) :
    takeTurn key cost s w =
      (.ok (), { w with pacer :=
        { w.pacer with tracks := Pacer.setTrack key taken w.pacer.tracks } }) := by
  simp only [takeTurn, Pacer.hit, hit, lt_irrefl, if_false]

/-- When a delay from a time is over. -/
def wakes (now delay : Rat) : Rat :=
  if 0 < delay then roundTime (now + roundTime (roundTime delay + Act.wakingSeconds)) else now

/-- A hit that is refused leaves nothing behind; it is waited until some entry is old. -/
theorem takeTurn_refused (refused : (w.pacer.track key).hit? key.amount cost w.clock = none) :
    ∃ w', takeTurn key cost s w = (.ok (), w') ∧ w'.pacer = w.pacer ∧
      w'.clock = wakes w.clock ((w.pacer.track key).delay w.clock) := by
  simp only [takeTurn, Pacer.hit, refused, wakes]
  split
  · exact ⟨_, rfl, rfl, rfl⟩
  · exact ⟨_, rfl, rfl, rfl⟩

/-- A turn always ends. -/
theorem takeTurn_returns (key : TrackKey) (cost : Int) (s : Surroundings) (w : World) :
    ∃ w', takeTurn key cost s w = (.ok (), w') := by
  cases hit : (w.pacer.track key).hit? key.amount cost w.clock with
  | none =>
      obtain ⟨w', run, _⟩ := takeTurn_refused (s := s) hit
      exact ⟨w', run⟩
  | some taken => exact ⟨_, takeTurn_taken hit⟩

/-- A call is its two turns. -/
theorem pace_eq {between : World} {estimate : Int} {identifier : String}
    (first : takeTurn (w.pacer.requestKey identifier) 1 s w = (.ok (), between)) :
    pace estimate identifier s w = takeTurn (between.pacer.tokenKey identifier)
      (between.pacer.tokenCost estimate) s between := by
  show (takeTurn (w.pacer.requestKey identifier) 1 >>= fun _ => _) s w = _
  rw [Act.bind_of_ok first]
  rfl

/-- **A call always returns.** -/
theorem pace_returns (estimate : Int) (identifier : String) (s : Surroundings) (w : World) :
    ∃ w', pace estimate identifier s w = (.ok (), w') := by
  obtain ⟨between, first⟩ := takeTurn_returns (w.pacer.requestKey identifier) 1 s w
  rw [pace_eq first]
  exact takeTurn_returns _ _ _ _

end Turns

/-! ## Waking -/

/-- **Nobody wakes early**, nor much later than is slept. -/
theorem wakes_bounds {now delay : Rat} {k : Nat} (exact : Exact now) (bounded : now ≤ 2 ^ k)
    (positive : 0 ≤ delay) (short : delay ≤ 2 ^ (k + 1)) (small : k + 3 + depth ≤ coarsest) :
    Exact (wakes now delay) ∧ now ≤ wakes now delay ∧ wakes now delay ≤ 2 ^ (k + 3) := by
  have top := exact_pow small
  have doubles : (2 : Rat) ^ (k + 2) = 2 ^ (k + 1) * 2 ∧ (2 : Rat) ^ (k + 3) = 2 ^ (k + 2) * 2 ∧
      (2 : Rat) ^ (k + 1) = 2 ^ k * 2 := ⟨pow_succ _ _, pow_succ _ _, pow_succ _ _⟩
  have least : (1 : Rat) ≤ 2 ^ (k + 1) := one_le_pow₀ (by norm_num)
  have waking : (0 : Rat) ≤ Act.wakingSeconds ∧ Act.wakingSeconds ≤ 1 := by
    norm_num [Act.wakingSeconds]
  have slept := exact_roundTime positive
  have sleptShort : roundTime delay ≤ 2 ^ (k + 1) := roundTime_le (exact_pow (by omega)) short
  have gained := exact_roundTime (add_nonneg slept.nonneg waking.1)
  have gainedShort : roundTime (roundTime delay + Act.wakingSeconds) ≤ 2 ^ (k + 2) :=
    roundTime_le (exact_pow (by omega)) (by linarith)
  have sum : now + roundTime (roundTime delay + Act.wakingSeconds) ≤ 2 ^ (k + 3) := by
    linarith [exact.nonneg]
  unfold wakes
  split
  · refine ⟨exact_roundTime (add_nonneg exact.nonneg gained.nonneg), ?_, roundTime_le top sum⟩
    exact le_roundTime exact (by linarith [gained.nonneg]) top sum
  · exact ⟨exact, le_rfl, by linarith [exact.nonneg]⟩

/-! ## What a turn keeps -/

namespace Pacer

theorem lookup_setTrack (key other : TrackKey) (track : Track) (tracks : List (TrackKey × Track)) :
    (setTrack key track tracks).lookup other =
      if other = key then some track else tracks.lookup other := by
  induction tracks with
  | nil =>
      by_cases same : other = key <;> simp [setTrack, same]
  | cons entry rest ih =>
      obtain ⟨k, t⟩ := entry
      by_cases here : k = key
      · subst here
        by_cases same : other = k
        · simp [setTrack, same]
        · simp [setTrack, same, List.lookup_cons, beq_eq_false_iff_ne.mpr same]
      · by_cases there : other = k
        · subst there
          simp [setTrack, here]
        · simp [setTrack, here, List.lookup_cons, beq_eq_false_iff_ne.mpr there, ih]

theorem track_setTrack (p : Pacer) (key other : TrackKey) (taken : Track) :
    track { p with tracks := setTrack key taken p.tracks } other =
      if other = key then taken else p.track other := by
  rw [track, lookup_setTrack]
  split <;> rfl

/-- The tokens of an identifier are not counted with its requests. -/
theorem tokenKey_ne_requestKey (p : Pacer) (identifier : String) :
    p.tokenKey identifier ≠ p.requestKey identifier := by
  intro same
  have longer := congrArg (fun key => key.identifier.length) same
  simp [tokenKey, requestKey] at longer

/-- The tracks keep their limits. -/
def Paced (p : Pacer) (now : Rat) : Prop :=
  ∀ key, (p.track key).Paced key.amount now

theorem Paced.fresh {p : Pacer} (fresh : p.tracks = []) (now : Rat) : p.Paced now := by
  intro key
  rw [track, fresh]
  exact .empty _ _

theorem Paced.later {p : Pacer} {now later : Rat} (paced : p.Paced now) (le : now ≤ later) :
    p.Paced later :=
  fun key => (paced key).later le

end Pacer

/-- What a turn keeps, and what it enters if its hit fits. -/
structure Turn (key : TrackKey) (cost : Int) (w w' : World) : Prop where
  requests : w'.pacer.requests = w.pacer.requests
  tokens : w'.pacer.tokens = w.pacer.tokens
  clock : w.clock ≤ w'.clock
  exact : Exact w'.clock
  paced : w'.pacer.Paced w'.clock
  others : ∀ other, other ≠ key → w'.pacer.track other = w.pacer.track other
  grows : ∀ other first last,
    (w.pacer.track other).within first last ≤ (w'.pacer.track other).within first last
  taken : w.pacer.hasRoom key cost w.clock = true → w'.clock = w.clock ∧
    ∀ first last, first ≤ w.clock → w.clock ≤ last →
      (w.pacer.track key).within first last + cost.toNat ≤
        (w'.pacer.track key).within first last

namespace Turn

variable {w between w' : World} {key other : TrackKey} {cost more : Int}

/-- A turn that has waited. -/
theorem waited (paced : w.pacer.Paced w.clock) (pacer : w'.pacer = w.pacer)
    (later : w.clock ≤ w'.clock) (exact : Exact w'.clock)
    (full : w.pacer.hasRoom key cost w.clock = false) : Turn key cost w w' where
  requests := by rw [pacer]
  tokens := by rw [pacer]
  clock := later
  exact := exact
  paced := by
    rw [pacer]
    exact paced.later later
  others _ _ := by rw [pacer]
  grows _ _ _ := by rw [pacer]
  taken room := by
    rw [full] at room
    cases room

/-- A turn whose hit is taken. -/
theorem entered {taken : Track} (paced : w.pacer.Paced w.clock) (exact : Exact w.clock)
    (hit : (w.pacer.track key).hit? key.amount cost w.clock = some taken) :
    Turn key cost w { w with pacer :=
      { w.pacer with tracks := Pacer.setTrack key taken w.pacer.tracks } } where
  requests := rfl
  tokens := rfl
  clock := le_rfl
  exact := exact
  paced other := by
    rw [Pacer.track_setTrack]
    split
    · rename_i same
      exact same ▸ (paced key).hit exact hit
    · exact paced other
  others other different := by rw [Pacer.track_setTrack, if_neg different]
  grows other first last := by
    rw [Pacer.track_setTrack]
    split
    · rename_i same
      rw [same, Track.within_hit hit]
      exact Nat.le_add_left _ _
    · exact Nat.le_refl _
  taken _ := by
    refine ⟨rfl, fun first last after before => ?_⟩
    rw [Pacer.track_setTrack, if_pos rfl, Track.within_hit hit, if_pos ⟨after, before⟩,
      Nat.add_comm]

/-- The first of two turns that fit leaves the clock and the other track to the second. -/
theorem both (first : Turn key cost w between) (second : Turn other more between w')
    (different : other ≠ key) (room : w.pacer.hasRoom key cost w.clock = true)
    (otherRoom : w.pacer.hasRoom other more w.clock = true) :
    w'.clock = w.clock ∧ ∀ start last, start ≤ w.clock → w.clock ≤ last →
      (w.pacer.track key).within start last + cost.toNat ≤
          (w'.pacer.track key).within start last ∧
        (w.pacer.track other).within start last + more.toNat ≤
          (w'.pacer.track other).within start last := by
  obtain ⟨sameClock, entered⟩ := first.taken room
  have stillRoom : between.pacer.hasRoom other more between.clock = true := by
    rw [Pacer.hasRoom, first.others other different, sameClock]
    exact otherRoom
  obtain ⟨sameAgain, otherEntered⟩ := second.taken stillRoom
  rw [sameClock] at sameAgain otherEntered
  refine ⟨sameAgain, fun start last after before => ⟨?_, ?_⟩⟩
  · exact (entered start last after before).trans (second.grows key start last)
  · exact (Nat.add_le_add_right (first.grows other start last) _).trans
      (otherEntered start last after before)

end Turn

/-- **What a turn does.** -/
theorem takeTurn_turn {s : Surroundings} {w w' : World} {key : TrackKey} {cost : Int} {k : Nat}
    (paced : w.pacer.Paced w.clock) (exact : Exact w.clock) (bounded : w.clock ≤ 2 ^ k)
    (room : 6 ≤ k) (small : k + 3 + depth ≤ coarsest)
    (run : takeTurn key cost s w = (.ok (), w')) :
    Turn key cost w w' ∧ w'.clock ≤ 2 ^ (k + 3) := by
  cases hit : (w.pacer.track key).hit? key.amount cost w.clock with
  | none =>
      obtain ⟨_, waits, pacer, clock⟩ := takeTurn_refused (s := s) hit
      obtain rfl : _ = w' := congrArg Prod.snd (waits.symm.trans run)
      have delays := Track.delay_bounds (fun t member => ((paced key).past t member).2)
        exact.nonneg bounded room (by omega)
      obtain ⟨wakeExact, later, wakeBounded⟩ :=
        wakes_bounds exact bounded delays.1 delays.2 small
      rw [← clock] at wakeExact later wakeBounded
      have full : w.pacer.hasRoom key cost w.clock = false := by
        rw [Pacer.hasRoom, decide_eq_false_iff_not,
          ← Track.hit?_isSome_iff (paced key).ordered key.amount cost w.clock, hit]
        exact Bool.false_ne_true
      exact ⟨.waited paced pacer later wakeExact full, wakeBounded⟩
  | some taken =>
      rw [takeTurn_taken hit] at run
      cases run
      exact ⟨.entered paced exact hit,
        bounded.trans (pow_le_pow_right₀ (by norm_num) (by omega))⟩

/-! ## Runs -/

/-- What leaves a clock room for waiting, in seconds. -/
def horizon : Rat := 2 ^ 900

/-- What a clock reads: a number of 64 bits that leaves room for waiting. -/
structure Reading (t : Rat) : Prop where
  positive : 0 ≤ t
  rounded : roundTime t = t
  bounded : t ≤ horizon

theorem Reading.exact {t : Rat} (reading : Reading t) : Exact t :=
  reading.rounded ▸ exact_roundTime reading.positive

/-- Time passes, and the pacer is left alone. -/
structure Later (w v : World) : Prop where
  pacer : v.pacer = w.pacer
  clock : w.clock ≤ v.clock
  reading : Reading v.clock

/-- Calls are made one after another, with some time before each of them. -/
inductive Paces (s : Surroundings) : World → List Passage → World → Prop
  | done (w : World) : Paces s w [] w
  | call {w v v' w' : World} {passages : List Passage} (estimate : Int) (identifier : String)
      (later : Later w v) (made : pace estimate identifier s v = (.ok (), v'))
      (rest : Paces s v' passages w') :
      Paces s w (passage s v estimate identifier :: passages) w'

/-- What a call keeps, and what it enters if it fits. -/
structure Call (p : Passage) (w w' : World) : Prop where
  requests : w'.pacer.requests = w.pacer.requests
  tokens : w'.pacer.tokens = w.pacer.tokens
  paced : w'.pacer.Paced w'.clock
  grows : ∀ key first last,
    (w.pacer.track key).within first last ≤ (w'.pacer.track key).within first last
  clock : p.made ≤ p.returned
  atOnce : p.fits = true → p.returned = p.made
  entered : p.fits = true → ∀ first last, first ≤ p.returned → p.returned ≤ last →
    (w.pacer.track (w.pacer.requestKey p.identifier)).within first last + 1 ≤
        (w'.pacer.track (w.pacer.requestKey p.identifier)).within first last ∧
      (w.pacer.track (w.pacer.tokenKey p.identifier)).within first last + p.cost.toNat ≤
        (w'.pacer.track (w.pacer.tokenKey p.identifier)).within first last

/-- **What a call does.** -/
theorem pace_call {s : Surroundings} {w w' : World} {estimate : Int} {identifier : String}
    (paced : w.pacer.Paced w.clock) (reading : Reading w.clock)
    (run : pace estimate identifier s w = (.ok (), w')) :
    Call (passage s w estimate identifier) w w' := by
  obtain ⟨between, first⟩ := takeTurn_returns (w.pacer.requestKey identifier) 1 s w
  have second := (pace_eq first).symm.trans run
  obtain ⟨request, bounded⟩ := takeTurn_turn paced reading.exact reading.bounded (by decide)
    (by decide) first
  have tokenKey : between.pacer.tokenKey identifier = w.pacer.tokenKey identifier := by
    rw [Pacer.tokenKey, request.tokens]
    rfl
  have tokenCost : between.pacer.tokenCost estimate = w.pacer.tokenCost estimate := by
    rw [Pacer.tokenCost, request.tokens]
    rfl
  rw [tokenKey, tokenCost] at second
  obtain ⟨token, _⟩ := takeTurn_turn request.paced request.exact bounded (by decide) (by decide)
    second
  have enters (fits : (passage s w estimate identifier).fits = true) :=
    request.both token (w.pacer.tokenKey_ne_requestKey identifier)
      (Bool.and_eq_true_iff.mp fits).1 (Bool.and_eq_true_iff.mp fits).2
  have returned : (passage s w estimate identifier).returned = w'.clock := by
    simp only [passage, run]
  refine ⟨token.requests.trans request.requests, token.tokens.trans request.tokens, token.paced,
    fun key first last => (request.grows key first last).trans (token.grows key first last),
    (request.clock.trans token.clock).trans_eq returned.symm,
    fun fits => returned.trans (enters fits).1, fun fits start last after before => ?_⟩
  rw [returned, (enters fits).1] at after before
  exact (enters fits).2 start last after before

/-- **What a run does**: the tracks account for the calls that fit. -/
theorem Paces.accounts {s : Surroundings} {w w' : World} {passages : List Passage}
    (run : Paces s w passages w') (paced : w.pacer.Paced w.clock) :
    w'.pacer.Paced w'.clock ∧
      (∀ p ∈ passages, p.made ≤ p.returned ∧ (p.fits = true → p.returned = p.made)) ∧
      ∀ identifier first last,
      (Passage.inSpan (passages.filter (·.fits)) identifier first last).length +
          (w.pacer.track (w.pacer.requestKey identifier)).within first last ≤
        (w'.pacer.track (w.pacer.requestKey identifier)).within first last ∧
      ((Passage.inSpan (passages.filter (·.fits)) identifier first last).map (·.cost)).sum +
          (w.pacer.track (w.pacer.tokenKey identifier)).within first last ≤
        (w'.pacer.track (w.pacer.tokenKey identifier)).within first last := by
  induction run with
  | done w =>
      refine ⟨paced, fun p member => absurd member List.not_mem_nil,
        fun identifier first last => ⟨Nat.le_of_eq (Nat.zero_add _), ?_⟩⟩
      exact Int.le_of_eq (Int.zero_add _)
  | @call w v v' w' passages estimate identifier later made rest ih =>
      have call := pace_call (later.pacer ▸ paced.later later.clock) later.reading made
      obtain ⟨kept, returns, accounts⟩ := ih call.paced
      refine ⟨kept, ?_, fun name first last => ?_⟩
      · intro p member
        rcases List.mem_cons.mp member with rfl | member
        · exact ⟨call.clock, call.atOnce⟩
        · exact returns p member
      obtain ⟨requests, tokens⟩ := accounts name first last
      have requestKey : v'.pacer.requestKey name = w.pacer.requestKey name := by
        rw [Pacer.requestKey, call.requests, later.pacer]
        rfl
      have tokenKey : v'.pacer.tokenKey name = w.pacer.tokenKey name := by
        rw [Pacer.tokenKey, call.tokens, later.pacer]
        rfl
      rw [requestKey] at requests
      rw [tokenKey] at tokens
      have requestsGrow := call.grows (w.pacer.requestKey name) first last
      have tokensGrow := call.grows (w.pacer.tokenKey name) first last
      rw [later.pacer] at requestsGrow tokensGrow
      rw [List.filter_cons]
      split
      · rename_i fits
        rw [Passage.inSpan_cons]
        split
        · rename_i inside
          obtain ⟨rfl, after, before⟩ := inside
          obtain ⟨request, token⟩ := call.entered fits first last after before
          rw [later.pacer] at request token
          rw [List.length_cons, List.map_cons, List.sum_cons]
          constructor <;> omega
        · constructor <;> omega
      · constructor <;> omega

/-! ## The promise -/

/-- **The calls that fit keep the limits.**  A pacer starts without any hits; calls are made one
after another, of any identifiers and sizes and with any time between them.  None returns before it
is made.  Those that fit both limits when they are made return at once, and in no span shorter than
a window do more of them return than the limits allow, nor do they cost more. -/
theorem fitting_calls_keep_limits {s : Surroundings} {w w' : World} {passages : List Passage}
    (fresh : w.pacer.tracks = []) (run : Paces s w passages w') :
    (∀ p ∈ passages, p.made ≤ p.returned ∧ (p.fits = true → p.returned = p.made)) ∧
      w.pacer.Keeps (passages.filter (·.fits)) := by
  obtain ⟨paced, returns, accounts⟩ := run.accounts (.fresh fresh _)
  refine ⟨returns, fun identifier first last short => ?_⟩
  obtain ⟨requests, tokens⟩ := accounts identifier first last
  have fewRequests := (paced (w.pacer.requestKey identifier)).few first last short
  have fewTokens := (paced (w.pacer.tokenKey identifier)).few first last short
  simp only [Pacer.requestKey, Pacer.tokenKey] at requests tokens fewRequests fewTokens
  constructor <;> omega

end WebPilot.Hosted

/-! ## A sample -/

namespace WebPilot.Sample

open Hosted

/-- A world whose pacer lets one request a minute through. -/
def calm : World :=
  { World.fresh with pacer := { requests := 1 } }

/-- The world after a call of one token. -/
def called (w : World) : World :=
  (pace 1 "anthropic" surroundings w).2

/-- A call of one token. -/
def oneToken (w : World) : Passage :=
  passage surroundings w 1 "anthropic"

/-- Three calls, one right after the other. -/
def threeCalls : List Passage :=
  [oneToken calm, oneToken (called calm), oneToken (called (called calm))]

theorem called_returns (w : World) : pace 1 "anthropic" surroundings w = (.ok (), called w) := by
  obtain ⟨w', run⟩ := pace_returns 1 "anthropic" surroundings w
  rw [called, run]

theorem threeCalls_eq : threeCalls =
    [⟨"anthropic", 1, 1000000, 1000000, true⟩,
      ⟨"anthropic", 1, 1000000, 1000060 + 1 / 1024, false⟩,
      ⟨"anthropic", 1, 1000060 + 1 / 1024, 1000060 + 1 / 1024, true⟩] := by
  decide +kernel

theorem reading {t : Rat} (positive : 0 ≤ t) (rounded : roundTime t = t) (early : t ≤ 2 ^ 20) :
    Reading t :=
  ⟨positive, rounded, early.trans (pow_le_pow_right₀ (by norm_num) (by decide))⟩

theorem paces_threeCalls :
    Paces surroundings calm threeCalls (called (called (called calm))) := by
  have first : Reading calm.clock :=
    reading (by decide +kernel) (by decide +kernel) (by decide +kernel)
  have second : Reading (called calm).clock :=
    reading (by decide +kernel) (by decide +kernel) (by decide +kernel)
  have third : Reading (called (called calm)).clock :=
    reading (by decide +kernel) (by decide +kernel) (by decide +kernel)
  exact .call 1 "anthropic" ⟨rfl, le_rfl, first⟩ (called_returns _)
    (.call 1 "anthropic" ⟨rfl, le_rfl, second⟩ (called_returns _)
      (.call 1 "anthropic" ⟨rfl, le_rfl, third⟩ (called_returns _) (.done _)))

end WebPilot.Sample

namespace WebPilot.Hosted

/-- Of three calls the first and the last fit, and they keep a limit of one request. -/
theorem fitting_calls_keep_limit_of_one :
    Sample.calm.pacer.tracks = [] ∧
      Paces Sample.surroundings Sample.calm Sample.threeCalls
        (Sample.called (Sample.called (Sample.called Sample.calm))) ∧
      (Sample.threeCalls.filter (·.fits)).length = 2 ∧
      (∀ p ∈ Sample.threeCalls,
        p.made ≤ p.returned ∧ (p.fits = true → p.returned = p.made)) ∧
      Sample.calm.pacer.Keeps (Sample.threeCalls.filter (·.fits)) := by
  have two : (Sample.threeCalls.filter (·.fits)).length = 2 := by
    rw [Sample.threeCalls_eq]
    rfl
  exact ⟨rfl, Sample.paces_threeCalls, two,
    fitting_calls_keep_limits rfl Sample.paces_threeCalls⟩

/-- **A call that has to wait breaks the limit.**  Of three calls under a limit of one request, the
second waits for a minute, and the third returns at the same time as the second. -/
theorem waiting_call_breaks_limit :
    1 ≤ Sample.calm.pacer.requests ∧ 1 ≤ Sample.calm.pacer.tokens ∧
      Sample.calm.pacer.tracks = [] ∧
      Paces Sample.surroundings Sample.calm Sample.threeCalls
        (Sample.called (Sample.called (Sample.called Sample.calm))) ∧
      ¬ Sample.calm.pacer.Keeps Sample.threeCalls := by
  refine ⟨by decide, by decide, rfl, Sample.paces_threeCalls, fun keeps => ?_⟩
  rw [Sample.threeCalls_eq] at keeps
  have few := (keeps "anthropic" (1000060 + 1 / 1024) (1000060 + 1 / 1024)
    (lt_add_of_pos_right _ (by decide +kernel))).1
  revert few
  decide +kernel

end WebPilot.Hosted
