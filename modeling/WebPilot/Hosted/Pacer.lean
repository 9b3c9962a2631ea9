import WebPilot.Number

/-!
# Pacing requests

A pacer keeps two limits over a moving window of a minute: requests, and tokens.  Each limit has a
track of hits, newest first; a hit of several units leaves as many entries.  A hit is refused if
the entries of the last minute leave no room for it, and then leaves nothing behind: the caller
waits until the oldest of those entries has left the window, and goes on without another try.

Times are exact; where a time is computed it is rounded to 64 bits, as clocks keep it.
-/

namespace WebPilot.Hosted

set_option autoImplicit false

/-- The window, in seconds. -/
def windowSeconds : Rat := 60

/-- A time rounded to 64 bits. -/
def roundTime (t : Rat) : Rat :=
  Decimal.exactValue (Decimal.nearestRat t)

/-- Where the window at a time begins. -/
def windowEdge (now : Rat) : Rat :=
  roundTime (now - windowSeconds)

/-- What a track belongs to: an identifier and the amount of its limit. -/
structure TrackKey where
  identifier : String
  amount : Nat
  deriving DecidableEq, Repr

/-- The times of hits, newest first. -/
abbrev Track := List Rat

namespace Track

/-- Tries a hit of `cost` units at `now` under a limit of `amount`. -/
def hit? (track : Track) (amount : Nat) (cost : Int) (now : Rat) : Option Track :=
  if (amount : Int) < cost then none
  else
    let blocked := match track[(amount - cost).toNat]? with
      | some time => decide (windowEdge now ≤ time)
      | none => false
    if blocked then none else some (List.replicate cost.toNat now ++ track)

/-- How many entries lie after a time, found by halving the entries from `low` up to `high`: those
before the result are taken to lie after the time, and the others not.  Where a clock was set back
the entries are out of order, and the halving decides. -/
def halve (entries : Array Rat) (time : Rat) (low high : Nat) : Nat :=
  if low < high then
    let middle := (low + high) / 2
    if entries[middle]?.any (time < ·) then halve entries time (middle + 1) high
    else halve entries time low middle
  else low
termination_by high - low

/-- When the window at `now` began: with its oldest entry, or with the oldest entry of all if none
is inside, or now if there is no entry. -/
def windowStart (track : Track) (now : Rat) : Rat :=
  match halve track.toArray (windowEdge now) 0 track.length with
  | 0 => track.getLast?.getD now
  | inside + 1 => track[inside]?.getD now

/-- How long a refused hit has to wait. -/
def delay (track : Track) (now : Rat) : Rat :=
  let wait := roundTime (roundTime (track.windowStart now + windowSeconds) - now)
  if wait < 0 then 0 else wait

end Track

/-- The limits and their tracks. -/
structure Pacer where
  requests : Nat := 50
  tokens : Nat := 40000
  tracks : List (TrackKey × Track) := []
  deriving Inhabited

namespace Pacer

/-- A limit has to be a natural number. -/
def limit? (amount : Number) : Except String Nat :=
  match amount with
  | .whole (.ofNat n) => .ok n
  | _ => .error s!"couldn't parse rate limit string '{amount.text}/minute'"

/-- The pacer of two limits. -/
def ofLimits (requests tokens : Number) : Except String Pacer :=
  match limit? requests, limit? tokens with
  | .ok r, .ok t => .ok ⟨r, t, []⟩
  | .error m, _ => .error m
  | .ok _, .error m => .error m

/-- The track of a key. -/
def track (p : Pacer) (key : TrackKey) : Track :=
  (p.tracks.lookup key).getD []

/-- Sets the track of a key. -/
def setTrack (key : TrackKey) (track : Track) :
    List (TrackKey × Track) → List (TrackKey × Track)
  | [] => [(key, track)]
  | (k, t) :: rest => if k = key then (k, track) :: rest else (k, t) :: setTrack key track rest

/-- Tries a hit; when it is refused, says how long to wait. -/
def hit (p : Pacer) (key : TrackKey) (cost : Int) (now : Rat) : Pacer × Rat :=
  match (p.track key).hit? key.amount cost now with
  | some track => ({ p with tracks := setTrack key track p.tracks }, 0)
  | none => (p, (p.track key).delay now)

/-- The key of the requests of an identifier. -/
def requestKey (p : Pacer) (identifier : String) : TrackKey :=
  ⟨identifier, p.requests⟩

/-- The key of the tokens of an identifier. -/
def tokenKey (p : Pacer) (identifier : String) : TrackKey :=
  ⟨identifier ++ "_tokens", p.tokens⟩

/-- What a request costs in tokens: no more than the whole limit. -/
def tokenCost (p : Pacer) (estimate : Int) : Int :=
  min estimate p.tokens

end Pacer

end WebPilot.Hosted
