import WebPilot.Text.Utf8

/-!
# Texts survive as bytes

The first byte of a character announces how many follow and, where that matters, within which bounds
the second lies.  These bounds are met exactly because a character is no surrogate and has no
shorter form, so **a scan yields each character that was written** (`scanFrom_encodeChar`), and
strict reading gives the text back (`decode_encode`).

A byte of seven bits is no part of a longer character.  So the lenient reading of what stands before
such a byte and of what follows it are independent (`decodeLossy_append_cons`): a text may be cut
into lines before it is read or after.
-/

namespace WebPilot.Text.Utf8

set_option autoImplicit false

/-! ## One byte -/

/-- The character under way with one more byte. -/
def Open.take (o : Open) (b : UInt8) : Open :=
  ⟨o.lead, o.first, o.taken + 1, o.missing - 1, 0x80, 0xbf, o.bits * 64 + (b.toNat - 0x80)⟩

section Byte

variable {pos : Nat} {o : Open} {b : UInt8}

/-- A byte that opens a character. -/
theorem scanFrom_opened (opens : start pos b = .opened o) (rest : List UInt8) :
    scanFrom pos none (b :: rest) = scanFrom (pos + 1) (some o) rest := by
  rw [scanFrom, opens]

/-- A byte that ends the character under way. -/
theorem scanFrom_closed (within : o.low ≤ b.toNat ∧ b.toNat ≤ o.high) (last : o.missing ≤ 1)
    (rest : List UInt8) :
    scanFrom pos (some o) (b :: rest) =
      .char (Char.ofNat (o.bits * 64 + (b.toNat - 0x80))) :: scanFrom (pos + 1) none rest :=
  (if_pos within).trans (if_pos last)

/-- A byte that goes on with the character under way. -/
theorem scanFrom_ongoing (within : o.low ≤ b.toNat ∧ b.toNat ≤ o.high) (more : ¬o.missing ≤ 1)
    (rest : List UInt8) :
    scanFrom pos (some o) (b :: rest) = scanFrom (pos + 1) (some (o.take b)) rest :=
  (if_pos within).trans (if_neg more)

/-- A byte that breaks the character under way begins anew. -/
theorem scanFrom_broken (outside : ¬(o.low ≤ b.toNat ∧ b.toNat ≤ o.high)) (rest : List UInt8) :
    scanFrom pos (some o) (b :: rest) =
      .damaged o.first pos o.lead .continuation :: scanFrom pos none (b :: rest) :=
  if_neg outside

end Byte

/-! ## Characters -/

theorem toNat_continuation (n : Nat) : (continuation n).toNat = 0x80 + n % 64 := by
  unfold continuation
  rw [UInt8.toNat_ofNat']
  omega

section Continuation

variable {pos : Nat} {o : Open} {n : Nat} (low : o.low ≤ 0x80 + n % 64)
  (high : 0x80 + n % 64 ≤ o.high) (rest : List UInt8)

include low high

/-- The last byte of a character. -/
theorem scanFrom_last (last : o.missing ≤ 1) :
    scanFrom pos (some o) (continuation n :: rest) =
      .char (Char.ofNat (o.bits * 64 + n % 64)) :: scanFrom (pos + 1) none rest := by
  have byte := toNat_continuation n
  rw [scanFrom_closed (by omega) last, byte, Nat.add_sub_cancel_left]

/-- A byte that is not the last one. -/
theorem scanFrom_more (more : 1 < o.missing) :
    scanFrom pos (some o) (continuation n :: rest) =
      scanFrom (pos + 1)
        (some ⟨o.lead, o.first, o.taken + 1, o.missing - 1, 0x80, 0xbf, o.bits * 64 + n % 64⟩)
        rest := by
  have byte := toNat_continuation n
  rw [scanFrom_ongoing (by omega) (Nat.not_le.mpr more), Open.take, byte, Nat.add_sub_cancel_left]

end Continuation

theorem toNat_ofNat {n : Nat} (small : n < 256) : (UInt8.ofNat n).toNat = n := by
  rw [UInt8.toNat_ofNat']
  exact Nat.mod_eq_of_lt small

/-- The first of two bytes. -/
theorem start_two {n : Nat} (low : 0x80 ≤ n) (high : n < 0x800) (pos : Nat) :
    start pos (UInt8.ofNat (0xc0 + n / 64)) =
      .opened ⟨UInt8.ofNat (0xc0 + n / 64), pos, 1, 1, 0x80, 0xbf, n / 64⟩ := by
  have lead : (UInt8.ofNat (0xc0 + n / 64)).toNat = 0xc0 + n / 64 := toNat_ofNat (by omega)
  have bits : 0xc0 + n / 64 - 0xc0 = n / 64 := by omega
  unfold start
  simp only [lead, bits]
  rw [if_neg (by omega), if_neg (by omega), if_pos (by omega)]

/-- The first of three bytes. -/
theorem start_three {n : Nat} (high : n < 0x10000) (pos : Nat) :
    start pos (UInt8.ofNat (0xe0 + n / 4096)) =
      .opened ⟨UInt8.ofNat (0xe0 + n / 4096), pos, 1, 2,
        if 0xe0 + n / 4096 = 0xe0 then 0xa0 else 0x80,
        if 0xe0 + n / 4096 = 0xed then 0x9f else 0xbf, n / 4096⟩ := by
  have lead : (UInt8.ofNat (0xe0 + n / 4096)).toNat = 0xe0 + n / 4096 := toNat_ofNat (by omega)
  have bits : 0xe0 + n / 4096 - 0xe0 = n / 4096 := by omega
  unfold start
  simp only [lead, bits]
  rw [if_neg (by omega), if_neg (by omega), if_neg (by omega), if_pos (by omega)]

/-- The first of four bytes. -/
theorem start_four {n : Nat} (high : n < 0x110000) (pos : Nat) :
    start pos (UInt8.ofNat (0xf0 + n / 262144)) =
      .opened ⟨UInt8.ofNat (0xf0 + n / 262144), pos, 1, 3,
        if 0xf0 + n / 262144 = 0xf0 then 0x90 else 0x80,
        if 0xf0 + n / 262144 = 0xf4 then 0x8f else 0xbf, n / 262144⟩ := by
  have lead : (UInt8.ofNat (0xf0 + n / 262144)).toNat = 0xf0 + n / 262144 :=
    toNat_ofNat (by omega)
  have bits : 0xf0 + n / 262144 - 0xf0 = n / 262144 := by omega
  unfold start
  simp only [lead, bits]
  rw [if_neg (by omega), if_neg (by omega), if_neg (by omega), if_neg (by omega),
    if_pos (by omega)]

/-- **A scan yields the character that was written.** -/
theorem scanFrom_encodeChar (pos : Nat) (c : Char) (rest : List UInt8) :
    ∃ pos', scanFrom pos none (encodeChar c ++ rest) = .char c :: scanFrom pos' none rest := by
  have valid : c.toNat < 0xd800 ∨ (0xdfff < c.toNat ∧ c.toNat < 0x110000) := c.valid
  unfold encodeChar
  simp only
  split
  · refine ⟨pos + 1, ?_⟩
    have lead : (UInt8.ofNat c.toNat).toNat = c.toNat := toNat_ofNat (by omega)
    simp only [List.cons_append, List.nil_append, scanFrom, start, lead]
    rw [if_pos (by assumption)]
    simp only [Char.ofNat_toNat]
  split
  · refine ⟨pos + 2, ?_⟩
    have whole : c.toNat / 64 * 64 + c.toNat % 64 = c.toNat := by omega
    rw [List.cons_append, List.cons_append, List.nil_append,
      scanFrom_opened (start_two (by omega) (by assumption) pos),
      scanFrom_last (by simp only; omega) (by simp only; omega) _ (by simp)]
    simp only [whole, Char.ofNat_toNat]
  split
  · refine ⟨pos + 3, ?_⟩
    have whole : (c.toNat / 4096 * 64 + c.toNat / 64 % 64) * 64 + c.toNat % 64 = c.toNat := by
      omega
    -- The bounds of the second byte hold since there is no shorter form and no surrogate.
    rw [List.cons_append, List.cons_append, List.cons_append, List.nil_append,
      scanFrom_opened (start_three (by assumption) pos),
      scanFrom_more (by simp only; split <;> omega) (by simp only; split <;> omega) _ (by simp),
      scanFrom_last (by simp only; omega) (by simp only; omega) _ (by simp)]
    simp only [whole, Char.ofNat_toNat]
  · refine ⟨pos + 4, ?_⟩
    have whole : ((c.toNat / 262144 * 64 + c.toNat / 4096 % 64) * 64 + c.toNat / 64 % 64) * 64 +
        c.toNat % 64 = c.toNat := by omega
    rw [List.cons_append, List.cons_append, List.cons_append, List.cons_append, List.nil_append,
      scanFrom_opened (start_four (by omega) pos),
      scanFrom_more (by simp only; split <;> omega) (by simp only; split <;> omega) _ (by simp),
      scanFrom_more (by simp only; omega) (by simp only; omega) _ (by simp),
      scanFrom_last (by simp only; omega) (by simp only; omega) _ (by simp)]
    simp only [whole, Char.ofNat_toNat]

theorem ofPieces_scanFrom (cs : List Char) (pos : Nat) :
    ofPieces (scanFrom pos none (cs.flatMap encodeChar)) = .ok cs := by
  induction cs generalizing pos with
  | nil => rfl
  | cons c cs ih =>
      obtain ⟨pos', scanned⟩ := scanFrom_encodeChar pos c (cs.flatMap encodeChar)
      rw [List.flatMap_cons, scanned, ofPieces, ih]

/-- **Strict reading gives the text back.** -/
theorem decode_encode (s : String) : decode (encode s) = .ok s := by
  unfold decode encode scan
  rw [ofPieces_scanFrom]
  simp

/-! ## Bytes of seven bits -/

/-- The same character under way, `n` bytes further on. -/
def Open.shift (n : Nat) (o : Open) : Open :=
  { o with first := o.first + n }

/-- What the same first byte announces, `n` bytes further on. -/
def Start.shift (n : Nat) : Start → Start
  | .opened o => .opened (o.shift n)
  | other => other

/-- The same piece, `n` bytes further on. -/
def Piece.shift (n : Nat) : Piece → Piece
  | .char c => .char c
  | .damaged first stop lead damage => .damaged (first + n) (stop + n) lead damage

theorem shown_shift (n : Nat) (piece : Piece) : (piece.shift n).shown = piece.shown := by
  cases piece <;> rfl

theorem start_shift (n pos : Nat) (b : UInt8) : start (pos + n) b = (start pos b).shift n := by
  unfold start
  simp only
  repeat
    split
    · rfl
  rfl

/-- Where a scan begins matters to the places of its pieces alone. -/
theorem scanFrom_shift (n : Nat) (bytes : List UInt8) (pos : Nat) (under : Option Open) :
    scanFrom (pos + n) (under.map (Open.shift n)) bytes =
      (scanFrom pos under bytes).map (Piece.shift n) := by
  induction bytes generalizing pos under with
  | nil => cases under <;> rfl
  | cons b bytes ih =>
      have next (under : Option Open) : scanFrom (pos + n + 1) (under.map (Open.shift n)) bytes =
          (scanFrom (pos + 1) under bytes).map (Piece.shift n) := by
        rw [Nat.add_right_comm, ih]
      have fresh : scanFrom (pos + n) none (b :: bytes) =
          (scanFrom pos none (b :: bytes)).map (Piece.shift n) := by
        rw [scanFrom, scanFrom, start_shift]
        cases start pos b with
        | whole c => exact congrArg _ (next none)
        | opened o => exact next (some o)
        | refused =>
            rw [List.map_cons, ← next none, Piece.shift, Nat.add_right_comm]
            rfl
      cases under with
      | none => exact fresh
      | some o =>
          rw [Option.map_some]
          by_cases within : o.low ≤ b.toNat ∧ b.toNat ≤ o.high
          · by_cases last : o.missing ≤ 1
            · rw [scanFrom_closed within last, scanFrom_closed (o := o.shift n) within last]
              exact congrArg _ (next none)
            · rw [scanFrom_ongoing within last, scanFrom_ongoing (o := o.shift n) within last]
              exact next (some (o.take b))
          · rw [scanFrom_broken within, scanFrom_broken (o := o.shift n) within, fresh]
            rfl

/-- What is shown does not depend on where the scan begins. -/
theorem shown_scanFrom (pos : Nat) (bytes : List UInt8) :
    (scanFrom pos none bytes).map Piece.shown = decodeLossy bytes := by
  have shift := scanFrom_shift pos bytes 0 none
  rw [Nat.zero_add, Option.map_none] at shift
  rw [shift, List.map_map, decodeLossy, scan]
  exact List.map_congr_left fun piece _ => shown_shift pos piece

/-- The second byte of a character is none of seven bits. -/
theorem low_of_start {pos : Nat} {b : UInt8} {o : Open} (opens : start pos b = .opened o) :
    0x80 ≤ o.low := by
  unfold start at opens
  simp only at opens
  split at opens
  · cases opens
  split at opens
  · cases opens
  split at opens
  · cases opens
    exact Nat.le_refl _
  split at opens
  · cases opens
    simp only
    split <;> omega
  split at opens
  · cases opens
    simp only
    split <;> omega
  · cases opens

/-- A byte of seven bits is a character, wherever it stands. -/
theorem shown_append_cons {b : UInt8} (small : b.toNat < 0x80) (before after : List UInt8)
    (pos : Nat) (under : Option Open) (low : ∀ o ∈ under, 0x80 ≤ o.low) :
    (scanFrom pos under (before ++ b :: after)).map Piece.shown =
      (scanFrom pos under before).map Piece.shown ++
        Char.ofNat b.toNat :: decodeLossy after := by
  have whole (pos : Nat) : start pos b = .whole (Char.ofNat b.toNat) := by
    unfold start
    exact if_pos small
  have fresh (pos : Nat) : (scanFrom pos none (b :: after)).map Piece.shown =
      Char.ofNat b.toNat :: decodeLossy after := by
    rw [scanFrom, whole, List.map_cons, shown_scanFrom]
    rfl
  induction before generalizing pos under with
  | nil =>
      cases under with
      | none => exact fresh pos
      | some o =>
          have outside : ¬(o.low ≤ b.toNat ∧ b.toNat ≤ o.high) := fun within =>
            absurd (Nat.le_trans (low o rfl) within.1) (Nat.not_le.mpr small)
          rw [List.nil_append, scanFrom_broken outside, List.map_cons, fresh]
          rfl
  | cons first before ih =>
      -- A character that the next byte opens is under way, too.
      have opened (pos : Nat) :
          (scanFrom pos none (first :: (before ++ b :: after))).map Piece.shown =
            (scanFrom pos none (first :: before)).map Piece.shown ++
              Char.ofNat b.toNat :: decodeLossy after := by
        rw [scanFrom, scanFrom]
        cases begun : start pos first with
        | whole c => exact congrArg _ (ih (pos + 1) none nofun)
        | opened o =>
            refine ih (pos + 1) (some o) ?_
            rintro o ⟨⟩
            exact low_of_start begun
        | refused => exact congrArg _ (ih (pos + 1) none nofun)
      cases under with
      | none => exact opened pos
      | some o =>
          rw [List.cons_append]
          by_cases within : o.low ≤ first.toNat ∧ first.toNat ≤ o.high
          · by_cases last : o.missing ≤ 1
            · rw [scanFrom_closed within last, scanFrom_closed within last]
              exact congrArg _ (ih (pos + 1) none nofun)
            · rw [scanFrom_ongoing within last, scanFrom_ongoing within last]
              refine ih (pos + 1) (some (o.take first)) ?_
              rintro o ⟨⟩
              exact Nat.le_refl _
          · rw [scanFrom_broken within, scanFrom_broken within, List.map_cons, opened]
            rfl

/-- **What stands before a byte of seven bits and what follows it are read independently.** -/
theorem decodeLossy_append_cons {b : UInt8} (small : b.toNat < 0x80) (before after : List UInt8) :
    decodeLossy (before ++ b :: after) =
      decodeLossy before ++ Char.ofNat b.toNat :: decodeLossy after :=
  shown_append_cons small before after 0 none nofun

end WebPilot.Text.Utf8
