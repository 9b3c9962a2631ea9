import Mathlib
import WebPilot.Decimal.Binary

/-!
# What is rounded does not pass a number

Magnitudes are counted in units of the smallest positive number of 64 bits.  A quotient is rounded
to `n * 2 ^ p` units, where `p` is the least power for which `n` has no more than 53 bits
(`nearest_rounds`), and the bits that are put together stand for so many units again
(`exactValue_ofBits`).

A number of 64 bits that is counted in a finer power than `p` lies below the quotient, and any other
one is a multiple of `2 ^ p` units.  **So no number of 64 bits lies between a fraction and what it
is rounded to** (`exactValue_nearestRat_le`, `le_exactValue_nearestRat`).
-/

namespace WebPilot.Decimal

set_option autoImplicit false

/-! ## Rounding a quotient -/

/-- A quotient is rounded to an integer that no other integer separates from it. -/
theorem le_roundDiv {k num den : Nat} (positive : 0 < den) (below : k * den ≤ num) :
    k ≤ roundDiv num den := by
  have whole : k ≤ num / den := (Nat.le_div_iff_mul_le positive).mpr below
  unfold roundDiv
  dsimp only
  split
  · exact whole
  · split
    · omega
    · split <;> omega

theorem roundDiv_le {k num den : Nat} (positive : 0 < den) (above : num ≤ k * den) :
    roundDiv num den ≤ k := by
  have whole : num / den ≤ k := Nat.div_le_of_le_mul (by rw [Nat.mul_comm]; exact above)
  have next (rest : 0 < num % den) : num / den + 1 ≤ k := by
    refine Nat.lt_of_not_le fun le => ?_
    have same : k = num / den := Nat.le_antisymm le whole
    have split := Nat.div_add_mod num den
    rw [same, Nat.mul_comm] at above
    omega
  unfold roundDiv
  dsimp only
  split
  · exact whole
  · split
    · exact next (by omega)
    · split
      · exact whole
      · exact next (by omega)

/-! ## Units -/

/-- One is this power of two, counted in units. -/
def depth : Nat := 1074

/-- How many units make one. -/
def unitsInOne : Nat := 2 ^ depth

theorem pow_mul_unitsInOne (k : Nat) : 2 ^ k * unitsInOne = 2 ^ (k + depth) :=
  (Nat.pow_add 2 k depth).symm

theorem unitsInOne_pos : 0 < unitsInOne :=
  Nat.two_pow_pos depth

-- From here on nothing is to write this power out.
attribute [irreducible] unitsInOne

theorem pow_mul_pow (a b c : Nat) : 2 ^ a * (2 ^ b * 2 ^ c) = 2 ^ (a + (b + c)) := by
  rw [Nat.pow_add, Nat.pow_add 2 b]

/-- The power of two in which the largest numbers of 64 bits are counted. -/
def coarsest : Nat := 2045

/-- So many units are a finite number of 64 bits. -/
def Fits (y : Nat) : Prop :=
  ∃ m r, m < 2 ^ 53 ∧ r ≤ coarsest ∧ y = m * 2 ^ r

/-- The bits from which a number is no longer finite. -/
def infinityBits : Nat :=
  (coarsest + 2) * 2 ^ 52

theorem infinityBits_eq : infinityBits = 2047 * 4503599627370496 :=
  rfl

/-- A quotient is rounded to `n * 2 ^ p` units. -/
structure Rounds (num den p n : Nat) : Prop where
  below : num * unitsInOne < 2 ^ 53 * (den * 2 ^ p)
  normal : p ≠ 0 → 2 ^ 52 * (den * 2 ^ p) ≤ num * unitsInOne
  floor {k : Nat} : k * (den * 2 ^ p) ≤ num * unitsInOne → k ≤ n
  ceil {k : Nat} : num * unitsInOne ≤ k * (den * 2 ^ p) → n ≤ k

/-- The power of two that is guessed is the right one or the one before it. -/
theorem guess_bounds {num den : Nat} {guess : Int} (positive : 0 < den)
    (guessed : guess =
      if num = 0 then -1074 else max ((num.log2 : Int) - den.log2 - 53) (-1074)) :
    -1074 ≤ guess ∧ num * unitsInOne < 2 ^ 54 * (den * 2 ^ (guess + 1074).toNat) ∧
      ((guess + 1074).toNat ≠ 0 →
        2 ^ 52 * (den * 2 ^ (guess + 1074).toNat) ≤ num * unitsInOne) := by
  by_cases zero : num = 0
  · rw [if_pos zero] at guessed
    rw [guessed, zero]
    refine ⟨Int.le_refl _, ?_, fun some => absurd rfl some⟩
    rw [Nat.zero_mul]
    positivity
  · rw [if_neg zero] at guessed
    have low : 2 ^ num.log2 ≤ num := Nat.log2_self_le zero
    have high : num < 2 ^ (num.log2 + 1) := Nat.lt_log2_self
    have denLow : 2 ^ den.log2 ≤ den := Nat.log2_self_le (by omega)
    have denHigh : den < 2 ^ (den.log2 + 1) := Nat.lt_log2_self
    generalize num.log2 = l at *
    generalize den.log2 = k at *
    generalize reached : (guess + 1074).toNat = p
    have deep : depth = 1074 := rfl
    refine ⟨by omega, ?_, fun some => ?_⟩
    · calc num * unitsInOne < 2 ^ (l + 1) * unitsInOne :=
            Nat.mul_lt_mul_of_pos_right high unitsInOne_pos
        _ = 2 ^ (l + 1 + depth) := pow_mul_unitsInOne (l + 1)
        _ ≤ 2 ^ (54 + (k + p)) := Nat.pow_le_pow_right Nat.two_pos (by omega)
        _ = 2 ^ 54 * (2 ^ k * 2 ^ p) := by rw [pow_mul_pow]
        _ ≤ 2 ^ 54 * (den * 2 ^ p) := by gcongr
    · calc 2 ^ 52 * (den * 2 ^ p) ≤ 2 ^ 52 * (2 ^ (k + 1) * 2 ^ p) := by gcongr
        _ = 2 ^ (52 + (k + 1 + p)) := by rw [pow_mul_pow]
        _ ≤ 2 ^ (l + depth) := Nat.pow_le_pow_right Nat.two_pos (by omega)
        _ = 2 ^ l * unitsInOne := (pow_mul_unitsInOne l).symm
        _ ≤ num * unitsInOne := Nat.mul_le_mul_right unitsInOne low

/-- Scaling by a power of two is the same as counting in that many units. -/
theorem scaled_units {num den : Nat} {q : Int} (low : -1074 ≤ q) :
    (scaled num den q).1 * 2 ^ (q + 1074).toNat = num * unitsInOne * 2 ^ q.toNat := by
  have powers : 2 ^ (-q).toNat * 2 ^ (q + 1074).toNat = unitsInOne * 2 ^ q.toNat := by
    rw [Nat.mul_comm unitsInOne, pow_mul_unitsInOne, ← Nat.pow_add]
    congr 1
    have deep : depth = 1074 := rfl
    omega
  show num * 2 ^ (-q).toNat * 2 ^ (q + 1074).toNat = num * unitsInOne * 2 ^ q.toNat
  rw [Nat.mul_assoc, powers, Nat.mul_assoc]

theorem mul_scaled (num den k : Nat) (q : Int) :
    k * (scaled num den q).2 * 2 ^ (q + 1074).toNat =
      k * (den * 2 ^ (q + 1074).toNat) * 2 ^ q.toNat := by
  show k * (den * 2 ^ q.toNat) * 2 ^ (q + 1074).toNat = _
  ring

theorem scaled_le {num den k : Nat} {q : Int} (low : -1074 ≤ q) :
    (scaled num den q).1 ≤ k * (scaled num den q).2 ↔
      num * unitsInOne ≤ k * (den * 2 ^ (q + 1074).toNat) := by
  rw [← Nat.mul_le_mul_right_iff (Nat.two_pow_pos (q + 1074).toNat), scaled_units low, mul_scaled,
    Nat.mul_le_mul_right_iff (Nat.two_pow_pos _)]

theorem le_scaled {num den k : Nat} {q : Int} (low : -1074 ≤ q) :
    k * (scaled num den q).2 ≤ (scaled num den q).1 ↔
      k * (den * 2 ^ (q + 1074).toNat) ≤ num * unitsInOne := by
  rw [← Nat.mul_le_mul_right_iff (Nat.two_pow_pos (q + 1074).toNat), scaled_units low, mul_scaled,
    Nat.mul_le_mul_right_iff (Nat.two_pow_pos _)]

/-- **What a quotient is rounded to**, and the bits of that. -/
theorem nearest_rounds (num : Nat) {den : Nat} (positive : 0 < den) :
    ∃ p n, Rounds num den p n ∧ nearest num den =
      Float.ofBits (UInt64.ofNat (min (p * 2 ^ 52 + n) infinityBits)) := by
  obtain ⟨guess, guessed⟩ : ∃ guess : Int, guess =
      if num = 0 then -1074 else max ((num.log2 : Int) - den.log2 - 53) (-1074) := ⟨_, rfl⟩
  obtain ⟨low, below, normal⟩ := guess_bounds positive guessed
  obtain ⟨q, chosen⟩ : ∃ q : Int, q =
      if (scaled num den guess).1 / (scaled num den guess).2 < 2 ^ 53 then guess
      else guess + 1 := ⟨_, rfl⟩
  have scaledPositive (q : Int) : 0 < (scaled num den q).2 :=
    Nat.mul_pos positive (Nat.two_pow_pos _)
  have bounds : -1074 ≤ q ∧ num * unitsInOne < 2 ^ 53 * (den * 2 ^ (q + 1074).toNat) ∧
      ((q + 1074).toNat ≠ 0 → 2 ^ 52 * (den * 2 ^ (q + 1074).toNat) ≤ num * unitsInOne) := by
    split at chosen
    · rename_i fits
      rw [Nat.div_lt_iff_lt_mul (scaledPositive _), ← Nat.not_le, le_scaled low,
        Nat.not_le] at fits
      exact chosen ▸ ⟨low, fits, normal⟩
    · rename_i beyond
      rw [Nat.div_lt_iff_lt_mul (scaledPositive _), ← Nat.not_le, le_scaled low,
        not_not] at beyond
      have next : (q + 1074).toNat = (guess + 1074).toNat + 1 := by omega
      rw [next, Nat.pow_succ]
      refine ⟨by omega, ?_, fun _ => ?_⟩
      · refine Nat.lt_of_lt_of_eq below ?_
        ring
      · refine Nat.le_trans (Nat.le_of_eq ?_) beyond
        ring
  obtain ⟨low, below, normal⟩ := bounds
  refine ⟨(q + 1074).toNat, roundDiv (scaled num den q).1 (scaled num den q).2,
    ⟨below, normal, fun floor => ?_, fun ceil => ?_⟩, ?_⟩
  · exact le_roundDiv (scaledPositive q) ((le_scaled low).mpr floor)
  · exact roundDiv_le (scaledPositive q) ((scaled_le low).mpr ceil)
  · rw [chosen, guessed]
    rfl

/-! ## No number lies between a quotient and what it is rounded to -/

namespace Rounds

variable {num den p n y : Nat}

theorem normal_le (rounds : Rounds num den p n) (coarse : p ≠ 0) : 2 ^ 52 ≤ n :=
  rounds.floor (rounds.normal coarse)

theorem le_top (rounds : Rounds num den p n) : n ≤ 2 ^ 53 :=
  rounds.ceil (Nat.le_of_lt rounds.below)

/-- A number that is finer than the quotient is rounded is below the quotient. -/
theorem not_le_of_finer (rounds : Rounds num den p n) (positive : 0 < den) {m r : Nat}
    (short : m < 2 ^ 53) (finer : r < p) : m * 2 ^ r * den < num * unitsInOne := by
  have coarse : p ≠ 0 := by omega
  calc m * 2 ^ r * den < 2 ^ 53 * 2 ^ r * den := by gcongr
    _ = 2 ^ 52 * (den * 2 ^ (r + 1)) := by ring
    _ ≤ 2 ^ 52 * (den * 2 ^ p) := by gcongr <;> omega
    _ ≤ num * unitsInOne := rounds.normal coarse

theorem le_of_le (rounds : Rounds num den p n) (positive : 0 < den) (fits : Fits y)
    (le : num * unitsInOne ≤ y * den) : n * 2 ^ p ≤ y := by
  obtain ⟨m, r, short, _, rfl⟩ := fits
  rcases Nat.lt_or_ge r p with finer | coarser
  · exact absurd (rounds.not_le_of_finer positive short finer) (Nat.not_lt.mpr le)
  · obtain ⟨d, rfl⟩ := Nat.exists_eq_add_of_le coarser
    have bound : n ≤ m * 2 ^ d := rounds.ceil (le.trans (Nat.le_of_eq (by ring)))
    calc n * 2 ^ p ≤ m * 2 ^ d * 2 ^ p := by gcongr
      _ = m * 2 ^ (p + d) := by ring

theorem ge_of_ge (rounds : Rounds num den p n) (fits : Fits y) (le : y * den ≤ num * unitsInOne) :
    y ≤ n * 2 ^ p := by
  obtain ⟨m, r, short, _, rfl⟩ := fits
  rcases Nat.lt_or_ge r p with finer | coarser
  · have coarse : p ≠ 0 := by omega
    calc m * 2 ^ r ≤ 2 ^ 53 * 2 ^ r := by gcongr
      _ = 2 ^ 52 * 2 ^ (r + 1) := by ring
      _ ≤ n * 2 ^ p := by
        gcongr
        · exact rounds.normal_le coarse
        · exact Nat.two_pos
        · exact finer
  · obtain ⟨d, rfl⟩ := Nat.exists_eq_add_of_le coarser
    have bound : m * 2 ^ d ≤ n := rounds.floor (Nat.le_trans (Nat.le_of_eq (by ring)) le)
    calc m * 2 ^ (p + d) = m * 2 ^ d * 2 ^ p := by ring
      _ ≤ n * 2 ^ p := by gcongr

/-- A bound in units is a bound on the bits. -/
theorem bits_lt (rounds : Rounds num den p n) {last : Nat}
    (below : n * 2 ^ p < 2 ^ 53 * 2 ^ last) : p * 2 ^ 52 + n < (last + 2) * 2 ^ 52 := by
  have top := rounds.le_top
  rcases Nat.lt_trichotomy p last with small | rfl | large
  · omega
  · have short : n < 2 ^ 53 := Nat.lt_of_mul_lt_mul_right below
    omega
  · have normal := rounds.normal_le (by omega)
    refine absurd below (Nat.not_lt.mpr ?_)
    calc 2 ^ 53 * 2 ^ last = 2 ^ 52 * 2 ^ (last + 1) := by ring
      _ ≤ n * 2 ^ p := Nat.mul_le_mul normal (Nat.pow_le_pow_right Nat.two_pos large)

/-- Below a finite number of 64 bits, what a quotient is rounded to is finite. -/
theorem finite_of_le (rounds : Rounds num den p n) (positive : 0 < den) (fits : Fits y)
    (le : num * unitsInOne ≤ y * den) : p * 2 ^ 52 + n < infinityBits := by
  have bound := rounds.le_of_le positive fits le
  obtain ⟨m, r, short, last, rfl⟩ := fits
  have below : n * 2 ^ p < 2 ^ 53 * 2 ^ coarsest :=
    Nat.lt_of_le_of_lt bound (Nat.mul_lt_mul_of_lt_of_le short
      (Nat.pow_le_pow_right Nat.two_pos last) (Nat.two_pow_pos _))
  exact rounds.bits_lt below

/-- What a quotient is rounded to is a number of 64 bits, if it is finite. -/
theorem fits (rounds : Rounds num den p n) (finite : p * 2 ^ 52 + n < infinityBits) :
    Fits (n * 2 ^ p) := by
  unfold infinityBits at finite
  have top := rounds.le_top
  rcases Nat.lt_or_ge n (2 ^ 53) with short | long
  · refine ⟨n, p, short, ?_, rfl⟩
    by_contra beyond
    have normal := rounds.normal_le (by omega)
    omega
  · obtain rfl : n = 2 ^ 53 := Nat.le_antisymm top long
    exact ⟨2 ^ 52, p + 1, by decide, by omega, by ring⟩

end Rounds

/-! ## Bits -/

section Bits

open Float.Model Float.Model.UnpackedFloat

variable {b : UInt64}

theorem toNat_unpackExponent (bits : BitVec 64) :
    (@unpackExponent Format.binary64 bits).toNat = bits.toNat / 2 ^ 52 % 2 ^ 11 := by
  rw [unpackExponent_def, BitVec.extractLsb'_toNat, Nat.shiftRight_eq_div_pow]

theorem toNat_unpackSign (bits : BitVec 64) :
    (@unpackSign Format.binary64 bits).toNat = bits.toNat / 2 ^ 63 % 2 := by
  rw [unpackSign_def, BitVec.extractLsb'_toNat, Nat.shiftRight_eq_div_pow]
  rfl

theorem unpackExponent_ne (finite : b.toNat < infinityBits) :
    @unpackExponent Format.binary64 b.toBitVec ≠ -1#_ := by
  intro same
  have value : 2047 = b.toNat / 2 ^ 52 % 2 ^ 11 :=
    (congrArg BitVec.toNat same).symm.trans (toNat_unpackExponent b.toBitVec)
  rw [infinityBits_eq] at finite
  omega

/-- The bits of a finite number are kept. -/
theorem toBits_ofBits (finite : b.toNat < infinityBits) : (Float.ofBits b).toBits = b := by
  have plain : @isNaNBits Format.binary64 b.toBitVec = false := by
    simp only [isNaNBits, unpackExponent_ne finite, false_and, decide_false]
  have same := @pack_unpack Format.binary64 b.toBitVec
  rw [plain] at same
  exact UInt64.toBitVec_inj.mp same

/-- A number with finite bits is unpacked as zero or as a positive number. -/
theorem unpack_positive (finite : b.toNat < infinityBits) :
    UnpackedFloat.unpack Format.binary64 b.toBitVec = .zero .positive ∨
      ∃ m e positive, UnpackedFloat.unpack Format.binary64 b.toBitVec =
        .finite .positive m e positive := by
  have sign : @unpackSign Format.binary64 b.toBitVec = 0#1 := by
    refine BitVec.eq_of_toNat_eq ?_
    rw [infinityBits_eq] at finite
    rw [toNat_unpackSign, UInt64.toNat_toBitVec]
    show b.toNat / 2 ^ 63 % 2 = 0
    omega
  unfold UnpackedFloat.unpack
  simp only [unpackExponent_ne finite, sign, if_false]
  split
  · split
    · exact .inl rfl
    · rename_i some
      exact .inr ⟨_, _, by simpa [BitVec.toNat_pos, BitVec.pos_iff_ne_zero] using some, rfl⟩
  · exact .inr ⟨_, _, by rw [BitVec.toNat_append]; simp, rfl⟩

theorem isFinite_ofBits (finite : b.toNat < infinityBits) : (Float.ofBits b).isFinite = true := by
  show (UnpackedFloat.unpack Format.binary64 (Float.ofBits b).toBits.toBitVec).isFinite = true
  rw [toBits_ofBits finite]
  rcases unpack_positive finite with zero | ⟨m, e, positive, some⟩
  · rw [zero]
    rfl
  · rw [some]
    rfl

theorem isFinite_infinity : (Float.ofBits (UInt64.ofNat infinityBits)).isFinite = false := by
  decide

theorem hasSign_ofBits (finite : b.toNat < infinityBits) : hasSign (Float.ofBits b) = false := by
  rw [hasSign, toBits_ofBits finite, Nat.pow_eq, decide_eq_false_iff_not]
  rw [infinityBits_eq] at finite
  omega

/-- A negated number has its sign bit set. -/
theorem hasSign_neg (finite : b.toNat < infinityBits) : hasSign (-Float.ofBits b) = true := by
  have negated : (-Float.ofBits b).toBits.toBitVec = UnpackedFloat.pack Format.binary64
      (UnpackedFloat.unpack Format.binary64 (Float.ofBits b).toBits.toBitVec).neg := rfl
  rw [toBits_ofBits finite] at negated
  have sign : @unpackSign Format.binary64 (-Float.ofBits b).toBits.toBitVec = 1#1 := by
    rw [negated]
    rcases unpack_positive finite with zero | ⟨m, e, positive, some⟩
    · rw [zero]
      rfl
    · rw [some]
      show unpackSign (UnpackedFloat.pack Format.binary64 (.finite .negative m e positive)) = 1#1
      unfold UnpackedFloat.pack
      dsimp only
      split
      · exact unpackSign_packComponents _ _ _
      · split <;> exact unpackSign_packComponents _ _ _
  have value := toNat_unpackSign (-Float.ofBits b).toBits.toBitVec
  rw [sign, UInt64.toNat_toBitVec] at value
  have set : BitVec.toNat 1#1 = 1 := rfl
  rw [hasSign, Nat.pow_eq, decide_eq_true_eq]
  omega

/-- How many units the bits of a finite number stand for. -/
def unitsOf (bits : Nat) : Nat :=
  if bits / 2 ^ 52 = 0 then bits else (2 ^ 52 + bits % 2 ^ 52) * 2 ^ (bits / 2 ^ 52 - 1)

theorem Rounds.unitsOf {num den p n : Nat} (rounds : Rounds num den p n) :
    unitsOf (p * 2 ^ 52 + n) = n * 2 ^ p := by
  have top := rounds.le_top
  have normal := rounds.normal_le
  unfold Decimal.unitsOf
  rcases Nat.lt_or_ge n (2 ^ 52) with subnormal | normalized
  · obtain rfl : p = 0 := by
      by_contra coarse
      exact absurd (normal coarse) (Nat.not_le.mpr subnormal)
    rw [if_pos (by omega)]
    omega
  · rw [if_neg (by omega)]
    rcases Nat.lt_or_ge n (2 ^ 53) with short | long
    · have mantissa : 2 ^ 52 + (p * 2 ^ 52 + n) % 2 ^ 52 = n := by omega
      have exponent : (p * 2 ^ 52 + n) / 2 ^ 52 - 1 = p := by omega
      rw [mantissa, exponent]
    · have mantissa : 2 ^ 52 + (p * 2 ^ 52 + n) % 2 ^ 52 = 2 ^ 52 := by omega
      have exponent : (p * 2 ^ 52 + n) / 2 ^ 52 - 1 = p + 1 := by omega
      have last : n = 2 ^ 53 := by omega
      rw [mantissa, exponent, last]
      ring

/-- A mantissa and a power of two as a number of units. -/
theorem quotient_units {m : Nat} {q : Int} {narrow : Bool} (low : -1074 ≤ q) :
    (mkRat (Binary.quotient ⟨m, q, narrow⟩).1 (Binary.quotient ⟨m, q, narrow⟩).2 : Rat) =
      ((m * 2 ^ (q + 1074).toNat : Nat) : Rat) / unitsInOne := by
  have deep : depth = 1074 := rfl
  have powers : 2 ^ q.toNat * unitsInOne = 2 ^ (q + 1074).toNat * 2 ^ (-q).toNat := by
    rw [pow_mul_unitsInOne, ← Nat.pow_add]
    congr 1
    omega
  have positive : (0 : Rat) < unitsInOne := by
    exact_mod_cast unitsInOne_pos
  have other : (0 : Rat) < (2 ^ (-q).toNat : Nat) := by
    exact_mod_cast Nat.two_pow_pos _
  simp only [Binary.quotient, Nat.pow_eq, Rat.mkRat_eq_div]
  rw [Int.cast_natCast, div_eq_div_iff other.ne' positive.ne']
  exact_mod_cast show m * 2 ^ q.toNat * unitsInOne = _ by rw [Nat.mul_assoc, powers, Nat.mul_assoc]

theorem toNat_ofNat {bits : Nat} (finite : bits < infinityBits) :
    (UInt64.ofNat bits).toNat = bits := by
  rw [infinityBits_eq] at finite
  have word : UInt64.size = 2 ^ 64 := rfl
  exact UInt64.toNat_ofNat_of_lt (by omega)

/-- **What the bits of a finite number stand for.** -/
theorem exactValue_ofBits {bits : Nat} (finite : bits < infinityBits) :
    exactValue (Float.ofBits (UInt64.ofNat bits)) = (unitsOf bits : Rat) / unitsInOne := by
  have kept := toNat_ofNat finite
  have finite' : (UInt64.ofNat bits).toNat < infinityBits := by rw [kept]; exact finite
  have magnitude : bits % Nat.pow 2 63 = bits := by
    refine Nat.mod_eq_of_lt ?_
    rw [infinityBits_eq] at finite
    simp
    omega
  rw [exactValue, isFinite_ofBits finite', if_pos rfl, hasSign_ofBits finite']
  simp only [Bool.false_eq_true, if_false, Binary.ofFloat, toBits_ofBits finite', kept, magnitude]
  rw [Nat.pow_eq]
  unfold unitsOf
  split
  · rename_i subnormal
    have whole : bits % 2 ^ 52 = bits := by omega
    rw [quotient_units (Int.le_refl _), whole, Int.add_left_neg, Int.toNat_zero, Nat.pow_zero,
      Nat.mul_one]
  · rename_i normal
    rw [quotient_units (by omega)]
    congr 4
    omega

end Bits

/-! ## Rounding an exact fraction -/

/-- The fraction is a finite number of 64 bits, and not negative. -/
def Exact (x : Rat) : Prop :=
  ∃ y, Fits y ∧ x = (y : Rat) / unitsInOne

section Fractions

variable {x y : Rat}

theorem cast_unitsInOne_pos : (0 : Rat) < (unitsInOne : Rat) := by
  exact_mod_cast unitsInOne_pos

theorem exact_zero : Exact 0 :=
  ⟨0, ⟨0, 0, by decide, by decide, rfl⟩, by simp⟩

theorem Exact.nonneg (exact : Exact x) : 0 ≤ x := by
  obtain ⟨k, _, rfl⟩ := exact
  positivity

/-- A power of two is a finite number of 64 bits, if it is not too large. -/
theorem exact_pow {k : Nat} (small : k + depth ≤ coarsest) : Exact (2 ^ k) := by
  refine ⟨2 ^ (k + depth), ⟨1, k + depth, by decide, small, by rw [Nat.one_mul]⟩, ?_⟩
  rw [← pow_mul_unitsInOne, Nat.cast_mul, mul_div_cancel_right₀ _ cast_unitsInOne_pos.ne']
  norm_cast

theorem natAbs_num (positive : 0 ≤ x) : ((x.num.natAbs : Nat) : Rat) / x.den = x := by
  rw [← Int.cast_natCast, Int.natAbs_of_nonneg (Rat.num_nonneg.mpr positive), Rat.num_div_den]

theorem cast_den_pos (x : Rat) : (0 : Rat) < (x.den : Rat) := by
  exact_mod_cast x.den_pos

theorem le_units {k : Nat} (positive : 0 ≤ x) :
    x ≤ (k : Rat) / unitsInOne ↔ x.num.natAbs * unitsInOne ≤ k * x.den := by
  conv_lhs => rw [← natAbs_num positive, div_le_div_iff₀ (cast_den_pos x) cast_unitsInOne_pos]
  exact_mod_cast Iff.rfl

theorem units_le {k : Nat} (positive : 0 ≤ x) :
    (k : Rat) / unitsInOne ≤ x ↔ k * x.den ≤ x.num.natAbs * unitsInOne := by
  conv_lhs => rw [← natAbs_num positive, div_le_div_iff₀ cast_unitsInOne_pos (cast_den_pos x)]
  exact_mod_cast Iff.rfl

theorem exactValue_nearest (num : Nat) {den : Nat} (positive : 0 < den) :
    ∃ p n, Rounds num den p n ∧ exactValue (nearest num den) =
      if p * 2 ^ 52 + n < infinityBits then ((n * 2 ^ p : Nat) : Rat) / unitsInOne else 0 := by
  obtain ⟨p, n, rounds, bits⟩ := nearest_rounds num positive
  refine ⟨p, n, rounds, ?_⟩
  rw [bits]
  split
  · rename_i finite
    rw [Nat.min_eq_left (Nat.le_of_lt finite), exactValue_ofBits finite, rounds.unitsOf]
  · rename_i beyond
    rw [Nat.min_eq_right (Nat.not_lt.mp beyond), exactValue, isFinite_infinity]
    rfl

/-- What a fraction that is not negative is rounded to; beyond all numbers it is infinite. -/
theorem exactValue_nearestRat (positive : 0 ≤ x) :
    ∃ p n, Rounds x.num.natAbs x.den p n ∧ exactValue (nearestRat x) =
      if p * 2 ^ 52 + n < infinityBits then ((n * 2 ^ p : Nat) : Rat) / unitsInOne else 0 := by
  have unsigned : nearestRat x = nearest x.num.natAbs x.den :=
    if_neg (Int.not_lt.mpr (Rat.num_nonneg.mpr positive))
  rw [unsigned]
  exact exactValue_nearest _ x.den_pos

/-- A negative fraction is not rounded to a positive number. -/
theorem exactValue_nearestRat_nonpos (negative : x < 0) : exactValue (nearestRat x) ≤ 0 := by
  have signed : nearestRat x = -nearest x.num.natAbs x.den :=
    if_pos (Rat.num_neg.mpr negative)
  obtain ⟨p, n, rounds, bits⟩ := nearest_rounds x.num.natAbs x.den_pos
  rw [signed, bits]
  rcases Nat.lt_or_ge (p * 2 ^ 52 + n) infinityBits with finite | beyond
  · have kept : (UInt64.ofNat (p * 2 ^ 52 + n)).toNat < infinityBits := by
      rwa [toNat_ofNat finite]
    rw [Nat.min_eq_left (Nat.le_of_lt finite), exactValue, hasSign_neg kept, if_pos rfl]
    split
    · refine neg_nonpos.mpr ?_
      rw [Rat.mkRat_eq_div]
      positivity
    · exact le_rfl
  · have infinite : (-Float.ofBits (UInt64.ofNat infinityBits)).isFinite = false := by
      decide
    rw [Nat.min_eq_right beyond, exactValue, infinite]
    exact le_rfl

/-- The value of what a fraction is rounded to is a finite number of 64 bits. -/
theorem exact_nearestRat (positive : 0 ≤ x) : Exact (exactValue (nearestRat x)) := by
  obtain ⟨p, n, rounds, value⟩ := exactValue_nearestRat positive
  rw [value]
  split
  · rename_i finite
    exact ⟨_, rounds.fits finite, rfl⟩
  · exact exact_zero

/-- **Rounding does not go up past a finite number.** -/
theorem exactValue_nearestRat_le (exact : Exact y) (le : x ≤ y) :
    exactValue (nearestRat x) ≤ y := by
  obtain ⟨k, fits, rfl⟩ := exact
  rcases lt_or_ge x 0 with negative | positive
  · exact (exactValue_nearestRat_nonpos negative).trans (by positivity)
  · obtain ⟨p, n, rounds, value⟩ := exactValue_nearestRat positive
    rw [le_units positive] at le
    rw [value, if_pos (rounds.finite_of_le x.den_pos fits le)]
    gcongr
    exact rounds.le_of_le x.den_pos fits le

/-- **Rounding does not go down past a finite number**, where it has not gone beyond all of them. -/
theorem le_exactValue_nearestRat {z : Rat} (exact : Exact y) (le : y ≤ x) (bounded : Exact z)
    (below : x ≤ z) : y ≤ exactValue (nearestRat x) := by
  obtain ⟨k, fits, rfl⟩ := exact
  obtain ⟨last, lastFits, rfl⟩ := bounded
  have positive : 0 ≤ x := le_trans (by positivity) le
  obtain ⟨p, n, rounds, value⟩ := exactValue_nearestRat positive
  rw [units_le positive] at le
  rw [le_units positive] at below
  rw [value, if_pos (rounds.finite_of_le x.den_pos lastFits below)]
  gcongr
  exact rounds.ge_of_ge fits le

end Fractions

end WebPilot.Decimal
