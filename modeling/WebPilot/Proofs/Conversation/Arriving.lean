import WebPilot.Proofs.Conversation.Answering
import WebPilot.Proofs.Text.Pieces
import Mathlib.Data.List.TakeWhile

/-!
# Which addresses lead to the target

An address in plain characters has a scheme, an authority and a rest (`Address`).  The colon behind
the scheme is the first one of the address, so the scheme is told rightly whatever follows
(`Origin.splitScheme_scheme`); and the authority ends at the first slash, question mark or hash
(`Origin.authorityOf_authority`).  So the origin is scheme and authority in small letters
(`Origin.ofAddress_text`), and a further scheme, colon, user or hash in the rest is no part of it.

**A call that navigates to such an address has arrived at such a target exactly if the schemes and
the authorities differ in the case of letters at most** (`arrives_iff_sameLetters`).
-/

namespace WebPilot

set_option autoImplicit false

/-! ## Addresses in plain characters -/

/-- A character of ASCII that is visible, or a blank. -/
def IsPlain (c : Char) : Prop :=
  0x20 ≤ c.toNat ∧ c.toNat < 0x7f

instance (c : Char) : Decidable (IsPlain c) :=
  inferInstanceAs (Decidable (_ ∧ _))

/-- A letter, and then letters, digits, plus signs, dashes and points. -/
def IsScheme (cs : List Char) : Prop :=
  ∃ c rest, cs = c :: rest ∧ c.isAlpha = true ∧
    ∀ d ∈ rest, d.isAlpha = true ∨ d.isDigit = true ∨ d = '+' ∨ d = '-' ∨ d = '.'

/-- Plain characters other than blanks, brackets and those that end an authority. -/
def IsAuthority (cs : List Char) : Prop :=
  cs ≠ [] ∧ ∀ c ∈ cs, IsPlain c ∧ c ∉ [' ', '/', '?', '#', '[', ']']

/-- Nothing, or plain characters, of which the first ends an authority. -/
def IsRest (cs : List Char) : Prop :=
  (∀ c ∈ cs, IsPlain c) ∧ ∀ c ∈ cs.head?, c ∈ ['/', '?', '#']

/-- An address in plain characters, taken apart. -/
structure Address where
  scheme : String
  authority : String
  rest : String
  isScheme : IsScheme scheme.toList
  isAuthority : IsAuthority authority.toList
  isRest : IsRest rest.toList

/-- The address as text. -/
def Address.text (a : Address) : String :=
  a.scheme ++ "://" ++ a.authority ++ a.rest

theorem Address.toList_text (a : Address) :
    a.text.toList =
      a.scheme.toList ++ ':' :: '/' :: '/' :: (a.authority.toList ++ a.rest.toList) := by
  simp [text, String.toList_append]

/-- The texts differ in the case of letters at most. -/
def SameLetters (s t : String) : Prop :=
  s.toList.map Char.toLower = t.toList.map Char.toLower

instance (s t : String) : Decidable (SameLetters s t) :=
  inferInstanceAs (Decidable (_ = _))

/-! ## Small letters -/

theorem Text.lowerFrom_plain (before : List Char) {cs : List Char}
    (plain : ∀ c ∈ cs, c.toNat < 0x80) : lowerFrom before cs = cs.map Char.toLower := by
  induction cs generalizing before with
  | nil => rfl
  | cons c cs ih =>
      obtain ⟨small, others⟩ := List.forall_mem_cons.mp plain
      have other : c.toNat ≠ 0x3a3 := by omega
      simp only [lowerFrom, if_neg other, lowerChar, if_pos small, ih _ others, List.map_cons,
        List.singleton_append]

/-- In plain characters only the letters are lowered. -/
theorem Text.lower_plain {s : String} (plain : ∀ c ∈ s.toList, c.toNat < 0x80) :
    lower s = String.ofList (s.toList.map Char.toLower) := by
  rw [lower, lowerFrom_plain [] plain]

/-! ## The parts of an address -/

theorem isPlain_alpha {c : Char} (alpha : c.isAlpha = true) : 0x20 < c.toNat ∧ IsPlain c := by
  have bounds : (65 ≤ c.toNat ∧ c.toNat ≤ 90) ∨ (97 ≤ c.toNat ∧ c.toNat ≤ 122) := by
    rcases (Bool.or_eq_true _ _).mp alpha with upper | lower
    · exact .inl (of_decide_eq_true upper)
    · obtain ⟨low, high⟩ := (Bool.and_eq_true _ _).mp lower
      exact .inr ⟨of_decide_eq_true low, of_decide_eq_true high⟩
  unfold IsPlain
  omega

theorem isPlain_digit {c : Char} (digit : c.isDigit = true) : IsPlain c := by
  obtain ⟨low, high⟩ := (Bool.and_eq_true _ _).mp digit
  have bounds : 48 ≤ c.toNat ∧ c.toNat ≤ 57 := ⟨of_decide_eq_true low, of_decide_eq_true high⟩
  unfold IsPlain
  omega

namespace IsScheme

variable {cs : List Char} (isScheme : IsScheme cs) {c : Char} (member : c ∈ cs)

include isScheme member

theorem allowed :
    c.isAlpha = true ∨ c.isDigit = true ∨ c = '+' ∨ c = '-' ∨ c = '.' := by
  obtain ⟨first, rest, rfl, letter, others⟩ := isScheme
  rcases List.mem_cons.mp member with rfl | later
  · exact .inl letter
  · exact others c later

theorem isPlain : IsPlain c := by
  rcases isScheme.allowed member with alpha | digit | rfl | rfl | rfl
  · exact (isPlain_alpha alpha).2
  · exact isPlain_digit digit
  · exact ⟨by decide, by decide⟩
  · exact ⟨by decide, by decide⟩
  · exact ⟨by decide, by decide⟩

theorem isSchemeChar : Origin.isSchemeChar c = true := by
  rcases isScheme.allowed member with alpha | digit | rfl | rfl | rfl
  · simp [Origin.isSchemeChar, Char.isAlphanum, alpha]
  · simp [Origin.isSchemeChar, Char.isAlphanum, digit]
  · rfl
  · rfl
  · rfl

theorem ne_colon : c ≠ ':' := by
  rintro rfl
  exact absurd (isScheme.allowed member) (by decide)

end IsScheme

/-- All characters of an address are plain. -/
theorem Address.isPlain (a : Address) {c : Char} (member : c ∈ a.text.toList) : IsPlain c := by
  have marks : IsPlain ':' ∧ IsPlain '/' := by decide
  rw [a.toList_text] at member
  simp only [List.mem_append, List.mem_cons] at member
  rcases member with scheme | rfl | rfl | rfl | authority | rest
  · exact a.isScheme.isPlain scheme
  · exact marks.1
  · exact marks.2
  · exact marks.2
  · exact (a.isAuthority.2 c authority).1
  · exact a.isRest.1 c rest

namespace Origin

/-- **The scheme ends at the first colon.** -/
theorem splitScheme_scheme {scheme : List Char} (isScheme : IsScheme scheme) (rest : List Char) :
    splitScheme (scheme ++ ':' :: rest) = (scheme.map Char.toLower, rest) := by
  have whole : (scheme ++ ':' :: rest).takeWhile (· ≠ ':') = scheme := by
    rw [List.takeWhile_append_of_pos fun c member => decide_eq_true (isScheme.ne_colon member)]
    simp
  have all : scheme.all isSchemeChar = true :=
    List.all_eq_true.mpr fun c member => isScheme.isSchemeChar member
  have first : scheme.head?.any Char.isAlpha = true := by
    obtain ⟨c, others, rfl, letter, _⟩ := isScheme
    exact letter
  simp only [splitScheme, whole, List.drop_left, List.head?_cons, first, all, and_self, if_true,
    List.drop_one, List.tail_cons]

/-- **The authority ends where the rest begins.** -/
theorem authorityOf_authority {authority rest : List Char} (isAuthority : IsAuthority authority)
    (isRest : IsRest rest) : authorityOf ('/' :: '/' :: (authority ++ rest)) = authority := by
  have inside : ∀ c ∈ authority, (c != '/' && c != '?' && c != '#') = true := by
    intro c member
    have outside := (isAuthority.2 c member).2
    simp only [List.mem_cons, not_or] at outside
    simp [outside]
  have stops : ∀ c ∈ rest.head?, (c != '/' && c != '?' && c != '#') = false := by
    intro c first
    have ends := isRest.2 c first
    simp only [List.mem_cons, List.not_mem_nil, or_false] at ends
    rcases ends with rfl | rfl | rfl <;> rfl
  rw [authorityOf, Text.takeWhile_append _ stops]
  exact List.takeWhile_eq_self_iff.mpr inside

/-- Nothing is wrong with an authority in plain characters without brackets. -/
theorem authorityFault?_authority {authority : List Char} (isAuthority : IsAuthority authority) :
    authorityFault? authority = none := by
  have free (bracket : Char) (listed : bracket ∈ [' ', '/', '?', '#', '[', ']']) :
      authority.contains bracket = false := by
    rw [← Bool.not_eq_true, List.contains_iff_mem]
    exact fun member => (isAuthority.2 bracket member).2 listed
  have undisguised : (authority.any fun c => disguises.contains c.toNat) = false := by
    rw [List.any_eq_false]
    intro c member listed
    have high : ∀ n ∈ disguises, 0x7f ≤ n := by decide
    have above := high c.toNat (List.contains_iff_mem.mp listed)
    have below := (isAuthority.2 c member).1.2
    omega
  simp only [authorityFault?, free '[' (by decide), free ']' (by decide), undisguised]
  rfl

/-- Nothing in the address is ignored. -/
theorem clean_text (a : Address) : clean a.text.toList = a.text.toList := by
  have starts : ∀ c ∈ a.text.toList.head?, decide (c.toNat ≤ 0x20) = false := by
    obtain ⟨first, others, same, letter, _⟩ := a.isScheme
    intro c head
    rw [a.toList_text, same, List.cons_append, List.head?_cons] at head
    obtain rfl := Option.some.inj head
    have visible := (isPlain_alpha letter).1
    exact decide_eq_false (by omega)
  have kept : ∀ c ∈ a.text.toList, (c != '\t' && c != '\r' && c != '\n') = true := by
    intro c member
    have low := (a.isPlain member).1
    have other (mark : Char) (control : mark.toNat < 0x20) : (c != mark) = true := by
      refine bne_iff_ne.mpr ?_
      rintro rfl
      omega
    simp [other '\t' (by decide), other '\r' (by decide), other '\n' (by decide)]
  have front : a.text.toList.dropWhile (fun c => decide (c.toNat ≤ 0x20)) = a.text.toList :=
    Text.dropWhile_append (List.forall_mem_nil _) starts
  rw [clean, front, List.filter_eq_self.mpr kept]

/-- **The origin of an address is its scheme and its authority, in small letters.** -/
theorem ofAddress_text (a : Address) :
    ofAddress a.text =
      .ok (some ⟨String.ofList (a.scheme.toList.map Char.toLower),
        String.ofList (a.authority.toList.map Char.toLower)⟩) := by
  have scheme : ((a.scheme.toList.map Char.toLower).isEmpty) = false := by
    obtain ⟨first, others, same, _⟩ := a.isScheme
    rw [same]
    rfl
  have authority : a.authority.toList.isEmpty = false := by
    simpa using a.isAuthority.1
  have plain : ∀ c ∈ a.authority.toList, c.toNat < 0x80 := by
    intro c member
    have below := (a.isAuthority.2 c member).1.2
    omega
  have parts : splitScheme (clean a.text.toList) =
      (a.scheme.toList.map Char.toLower,
        '/' :: '/' :: (a.authority.toList ++ a.rest.toList)) := by
    rw [clean_text, a.toList_text, splitScheme_scheme a.isScheme]
  simp only [ofAddress, parts, authorityOf_authority a.isAuthority a.isRest,
    authorityFault?_authority a.isAuthority, scheme, authority, String.ofList_toList,
    Text.lower_plain plain]
  rfl

end Origin

/-! ## Arriving -/

theorem Address.text_ne_empty (a : Address) : a.text ≠ "" := by
  obtain ⟨first, others, same, _⟩ := a.isScheme
  intro empty
  have whole := a.toList_text
  rw [empty, same] at whole
  cases whole

/-- Two addresses have the same origin exactly if schemes and authorities differ in the case of
letters at most. -/
theorem origin_eq_iff {a b : Address} :
    Origin.ofAddress a.text = Origin.ofAddress b.text ↔
      SameLetters a.scheme b.scheme ∧ SameLetters a.authority b.authority := by
  simp only [Origin.ofAddress_text, SameLetters, Except.ok.injEq, Option.some.injEq,
    Origin.mk.injEq, String.ofList_inj]

/-- **A call arrives at the target exactly if it navigates to its scheme and its authority**, up to
the case of letters, whatever else the two addresses say. -/
theorem arrives_iff_sameLetters {call : ToolCall} {url target : Address}
    (navigates : Text.endsWith call.name "navigate" = true)
    (aimed : call.arguments.get? "url" = some (.text url.text)) :
    ∃ arrives, isTargetNavigation call (some target.text) = .ok arrives ∧
      (arrives = true ↔
        SameLetters url.scheme target.scheme ∧ SameLetters url.authority target.authority) := by
  rw [isTargetNavigation_eq target.text_ne_empty navigates aimed, ← origin_eq_iff]
  simp only [Origin.ofAddress_text]
  refine ⟨_, rfl, ?_⟩
  rw [beq_iff_eq, Except.ok.injEq]

/-! ## A sample -/

namespace Sample

/-- An address of a site's login. -/
def login : Address where
  scheme := "HTTPS"
  authority := "Site.test:443"
  rest := "/login?next=http://other@site#top"
  isScheme := ⟨'H', "TTPS".toList, rfl, rfl, by simp⟩
  isAuthority := by simp [IsAuthority, IsPlain]
  isRest := by simp [IsRest, IsPlain]

/-- The address of the site. -/
def site : Address where
  scheme := "https"
  authority := "site.TEST:443"
  rest := ""
  isScheme := ⟨'h', "ttps".toList, rfl, rfl, by simp⟩
  isAuthority := by simp [IsAuthority, IsPlain]
  isRest := by simp [IsRest, IsPlain]

end Sample

/-- Going to its login one arrives at the site, whatever is to come next. -/
theorem arrives_iff_sameLetters_login :
    Sample.login.text = "HTTPS://Site.test:443/login?next=http://other@site#top" ∧
      isTargetNavigation (Sample.goTo "first" Sample.login.text) (some Sample.site.text) =
        .ok true := by
  have navigates : Text.endsWith "navigate" "navigate" = true := by decide
  have aimed : (Sample.goTo "first" Sample.login.text).arguments.get? "url" =
      some (.text Sample.login.text) := by
    simp [Sample.goTo, Fields.get?]
  obtain ⟨arrives, looked, same⟩ :
      ∃ arrives, isTargetNavigation (Sample.goTo "first" Sample.login.text)
          (some Sample.site.text) = .ok arrives ∧
        (arrives = true ↔ SameLetters Sample.login.scheme Sample.site.scheme ∧
          SameLetters Sample.login.authority Sample.site.authority) :=
    arrives_iff_sameLetters navigates aimed
  have arrived : arrives = true := same.mpr ⟨by decide, by decide⟩
  exact ⟨by decide, looked.trans (congrArg Except.ok arrived)⟩

end WebPilot
