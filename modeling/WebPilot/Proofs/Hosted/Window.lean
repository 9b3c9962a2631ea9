import WebPilot.Hosted.Pacer
import WebPilot.Proofs.Decimal.Nearest

/-!
# What a track lets through

A hit is taken if the entry that it would push out of its limit lies before the window's edge.  The
edge is rounded, but no clock reading lies between a time and what it is rounded to: so that entry,
and every older one, lies a whole window back (`Track.Paced.old`).

**Hence the entries of any span shorter than a window are never more than the limit**, and a hit
that is taken keeps it that way (`Track.Paced.hit`).
-/

namespace WebPilot.Hosted

set_option autoImplicit false

open Decimal

/-! ## Clock readings -/

theorem roundTime_le {t bound : Rat} (exact : Exact bound) (le : t ≤ bound) :
    roundTime t ≤ bound :=
  exactValue_nearestRat_le exact le

theorem le_roundTime {t bound last : Rat} (exact : Exact bound) (le : bound ≤ t)
    (top : Exact last) (below : t ≤ last) : bound ≤ roundTime t :=
  le_exactValue_nearestRat exact le top below

theorem exact_roundTime {t : Rat} (positive : 0 ≤ t) : Exact (roundTime t) :=
  exact_nearestRat positive

/-- What lies before the edge of the window lies a whole window back. -/
theorem le_of_lt_windowEdge {t now : Rat} (exact : Exact t) (before : t < windowEdge now) :
    t ≤ now - windowSeconds := by
  by_contra after
  exact absurd before (not_lt.mpr (roundTime_le exact (not_le.mp after).le))

namespace Track

/-! ## Counting entries -/

/-- How many entries lie in a span. -/
def within (track : Track) (first last : Rat) : Nat :=
  track.countP fun t => decide (first ≤ t ∧ t ≤ last)

theorem within_append (newer older : Track) (first last : Rat) :
    within (newer ++ older) first last = newer.within first last + older.within first last :=
  List.countP_append

theorem within_replicate (units : Nat) (now first last : Rat) :
    within (List.replicate units now) first last =
      if first ≤ now ∧ now ≤ last then units else 0 := by
  simp only [within, List.countP_replicate, decide_eq_true_eq]

/-- Entries before a span do not count. -/
theorem within_eq_zero {track : Track} {first : Rat} (before : ∀ t ∈ track, t < first)
    (last : Rat) : track.within first last = 0 := by
  refine List.countP_eq_zero.mpr fun t member => ?_
  have := before t member
  simp only [decide_eq_true_eq, not_and_or, not_le]
  exact .inl this

/-! ## Tracks that keep a limit -/

/-- The entries are past clock readings, newest first, and in no span shorter than a window are they
more than the limit. -/
structure Paced (track : Track) (amount : Nat) (now : Rat) : Prop where
  ordered : track.Pairwise (· ≥ ·)
  past : ∀ t ∈ track, Exact t ∧ t ≤ now
  few : ∀ first last, last < first + windowSeconds → track.within first last ≤ amount

theorem Paced.empty (amount : Nat) (now : Rat) : Paced [] amount now :=
  ⟨.nil, fun _ member => absurd member List.not_mem_nil, fun _ _ _ => Nat.zero_le _⟩

/-- What is past stays past. -/
theorem Paced.later {track : Track} {amount : Nat} {now later : Rat}
    (paced : track.Paced amount now) (le : now ≤ later) : track.Paced amount later :=
  ⟨paced.ordered, fun t member => ⟨(paced.past t member).1, (paced.past t member).2.trans le⟩,
    paced.few⟩

/-- A hit is taken if it fits the limit and the entry that it pushes out is old. -/
theorem hit?_some {track taken : Track} {amount : Nat} {cost : Int} {now : Rat}
    (hit : track.hit? amount cost now = some taken) :
    cost ≤ amount ∧ taken = List.replicate cost.toNat now ++ track ∧
      ∀ t, track[(amount - cost).toNat]? = some t → t < windowEdge now := by
  unfold hit? at hit
  rcases Int.lt_or_le amount cost with beyond | fits
  · rw [if_pos beyond] at hit
    cases hit
  rw [if_neg (Int.not_lt.mpr fits)] at hit
  cases found : track[(amount - cost).toNat]? with
  | none =>
      simp only [found, Bool.false_eq_true, if_false, Option.some.injEq] at hit
      exact ⟨fits, hit.symm, fun t isThere => nomatch isThere⟩
  | some time =>
      simp only [found, decide_eq_true_eq] at hit
      split at hit
      · cases hit
      · rename_i free
        refine ⟨fits, (Option.some.inj hit).symm, fun t isThere => ?_⟩
        rw [← Option.some.inj isThere]
        exact not_le.mp free

/-- How many entries do not lie before the window at a time. -/
def recent (track : Track) (now : Rat) : Nat :=
  track.countP fun t => decide (windowEdge now ≤ t)

/-- The recent entries are the newest ones. -/
theorem lt_recent_iff {track : Track} (ordered : track.Pairwise (· ≥ ·)) (now : Rat) (k : Nat) :
    k < track.recent now ↔ ∃ t, track[k]? = some t ∧ windowEdge now ≤ t := by
  unfold recent
  induction track generalizing k with
  | nil => simp
  | cons newest older ih =>
      obtain ⟨above, rest⟩ := List.pairwise_cons.mp ordered
      rw [List.countP_cons]
      by_cases inside : windowEdge now ≤ newest
      · rw [if_pos (decide_eq_true inside)]
        cases k with
        | zero => simpa using inside
        | succ k => simpa using ih rest k
      · have none : older.countP (fun t => decide (windowEdge now ≤ t)) = 0 := by
          refine List.countP_eq_zero.mpr fun t member reached => inside ?_
          exact (of_decide_eq_true reached).trans (above t member)
        rw [if_neg (by simpa using inside), none]
        refine iff_of_false (Nat.not_lt_zero k) ?_
        rintro ⟨t, found, reached⟩
        rcases List.mem_cons.mp (List.mem_of_getElem? found) with rfl | member
        · exact inside reached
        · exact inside (reached.trans (above t member))

/-- **A hit is taken exactly if it fits the limit together with the recent entries.** -/
theorem hit?_isSome_iff {track : Track} (ordered : track.Pairwise (· ≥ ·)) (amount : Nat)
    (cost : Int) (now : Rat) :
    (track.hit? amount cost now).isSome = true ↔
      cost ≤ amount ∧ track.recent now + cost ≤ amount := by
  rcases Int.lt_or_le amount cost with beyond | fits
  · rw [hit?, if_pos beyond]
    exact iff_of_false Bool.false_ne_true fun both => absurd both.1 (Int.not_le.mpr beyond)
  · have room : track.recent now + cost ≤ amount ↔
        ¬ (amount - cost).toNat < track.recent now := by omega
    rw [room, lt_recent_iff ordered, hit?, if_neg (Int.not_lt.mpr fits)]
    cases found : track[(amount - cost).toNat]? with
    | none => simp [fits]
    | some t =>
        by_cases blocked : windowEdge now ≤ t
        · simp [blocked]
        · simp [blocked, fits]

/-- **What a taken hit pushes out of its limit lies a whole window back.** -/
theorem Paced.old {track taken : Track} {amount : Nat} {cost : Int} {now : Rat}
    (paced : track.Paced amount now) (hit : track.hit? amount cost now = some taken) :
    ∀ t ∈ track.drop (amount - cost).toNat, t ≤ now - windowSeconds := by
  obtain ⟨_, _, free⟩ := hit?_some hit
  intro t member
  cases rest : track.drop (amount - cost).toNat with
  | nil =>
      rw [rest] at member
      cases member
  | cons newest older =>
      have found : track[(amount - cost).toNat]? = some newest := by
        rw [← List.head?_drop, rest]
        rfl
      have held : newest ∈ track := List.mem_of_getElem? found
      have old : newest ≤ now - windowSeconds :=
        le_of_lt_windowEdge (paced.past newest held).1 (free newest found)
      have ordered := paced.ordered.sublist (List.drop_sublist (amount - cost).toNat track)
      rw [rest] at ordered member
      rcases List.mem_cons.mp member with rfl | member
      · exact old
      · exact ((List.pairwise_cons.mp ordered).1 t member).le.trans old

/-- **A hit that is taken keeps the limit.** -/
theorem Paced.hit {track taken : Track} {amount : Nat} {cost : Int} {now : Rat}
    (paced : track.Paced amount now) (exact : Exact now)
    (hit : track.hit? amount cost now = some taken) : taken.Paced amount now := by
  obtain ⟨fits, rfl, _⟩ := hit?_some hit
  have old := paced.old hit
  refine ⟨?_, ?_, fun first last short => ?_⟩
  · refine List.pairwise_append.mpr ⟨List.pairwise_replicate.mpr (.inr le_rfl), paced.ordered, ?_⟩
    intro newer isNewer t member
    rw [List.eq_of_mem_replicate isNewer]
    exact (paced.past t member).2
  · intro t member
    rcases List.mem_append.mp member with isNow | member
    · rw [List.eq_of_mem_replicate isNow]
      exact ⟨exact, le_rfl⟩
    · exact paced.past t member
  · rw [within_append, within_replicate]
    split
    · rename_i inside
      -- what is left of the limit bounds the entries before those pushed out
      have dropped : within (track.drop (amount - cost).toNat) first last = 0 := by
        refine within_eq_zero (fun t member => ?_) last
        have := old t member
        linarith [inside.2]
      have kept : within (track.take (amount - cost).toNat) first last ≤ (amount - cost).toNat :=
        List.countP_le_length.trans (List.length_take_le _ _)
      have parts := within_append (track.take (amount - cost).toNat)
        (track.drop (amount - cost).toNat) first last
      rw [List.take_append_drop] at parts
      by_cases positive : 0 ≤ cost
      · omega
      · have := paced.few first last short
        omega
    · rw [Nat.zero_add]
      exact paced.few first last short

/-- A hit that is taken adds its units at its time. -/
theorem within_hit {track taken : Track} {amount : Nat} {cost : Int} {now : Rat}
    (hit : track.hit? amount cost now = some taken) (first last : Rat) :
    taken.within first last =
      (if first ≤ now ∧ now ≤ last then cost.toNat else 0) + track.within first last := by
  obtain ⟨_, rfl, _⟩ := hit?_some hit
  rw [within_append, within_replicate]

/-! ## Delays -/

theorem windowStart_le {track : Track} {now : Rat} (past : ∀ t ∈ track, t ≤ now) :
    track.windowStart now ≤ now := by
  have getD {t : Option Rat} (found : ∀ time, t = some time → time ∈ track) : t.getD now ≤ now := by
    cases t with
    | none => exact le_rfl
    | some time => exact past time (found time rfl)
  unfold windowStart
  split
  · exact getD fun time found => List.mem_of_getLast? found
  · exact getD fun time found => List.mem_of_getElem? found

/-- A delay is not negative, and not longer than twice what its clock has counted. -/
theorem delay_bounds {track : Track} {now : Rat} {k : Nat} (past : ∀ t ∈ track, t ≤ now)
    (positive : 0 ≤ now) (bounded : now ≤ 2 ^ k) (room : 6 ≤ k) (small : k + 1 + depth ≤ coarsest) :
    0 ≤ track.delay now ∧ track.delay now ≤ 2 ^ (k + 1) := by
  have top := exact_pow small
  have window : windowSeconds ≤ 2 ^ k := by
    have grows : (2 : Rat) ^ 6 ≤ 2 ^ k := pow_le_pow_right₀ (by norm_num) room
    unfold windowSeconds
    linarith
  have start := windowStart_le past
  have ending : roundTime (track.windowStart now + windowSeconds) ≤ 2 ^ (k + 1) := by
    refine roundTime_le top ?_
    rw [pow_succ]
    linarith
  have wait : roundTime (roundTime (track.windowStart now + windowSeconds) - now) ≤ 2 ^ (k + 1) :=
    roundTime_le top (by linarith)
  unfold delay
  dsimp only
  split
  · exact ⟨le_rfl, top.nonneg⟩
  · rename_i some
    exact ⟨not_lt.mp some, wait⟩

end Track

end WebPilot.Hosted
