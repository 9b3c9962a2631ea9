import WebPilot.Page.Basic

/-!
# The search for an element

The eight strategies are tried in their order.  How one of them fares depends on the description and
on what the page answers to its query (`Tried`), and the first one that finds an element ends the
search (`Search`).  The program carries such a search out (`Page.find_search`), and what is to be
known of it follows by induction on the search: how far it comes, which queries it makes, and what
it finds.

**So a search never fails, asks one query for each strategy that applies and no other, and finds the
first strategy in order whose query counts an element** (`Page.find_cascades`).  A page may give any
answers whatever to the eight queries, since no two of them are the same (`selector_injective`).
-/

namespace WebPilot

set_option autoImplicit false

/-! ## When a strategy applies -/

/-- The description can stand for the id of an element: it is not empty, and no character of it has
a meaning of its own behind a hash. -/
def BareId (description : String) : Prop :=
  description ≠ "" ∧ ∀ c ∈ description.toList, c ≠ '#' ∧ c ≠ '.' ∧ c ≠ '[' ∧ c ≠ ' '

theorem isBareId_iff {description : String} :
    isBareId description = true ↔ BareId description := by
  unfold isBareId BareId
  simp only [Bool.and_eq_true, Bool.not_eq_true', String.isEmpty_eq_false_iff]
  apply and_congr Iff.rfl
  simp only [List.any_eq_false, idUnsafe, List.contains_cons, List.contains_nil, Bool.or_false,
    Bool.or_eq_true, beq_iff_eq, not_or]

namespace Strategy

variable {description : String} {s : Strategy}

/-- The query of a strategy makes sense for the description.  Only an id has to be a bare one. -/
def Applicable (description : String) (s : Strategy) : Prop :=
  s = elementId → BareId description

theorem applies_iff : s.applies description = true ↔ s.Applicable description := by
  unfold Applicable
  cases s with
  | elementId =>
      simp only [applies, forall_const]
      exact isBareId_iff
  | _ => simp [applies]

instance : DecidablePred (Applicable description) :=
  fun _ => decidable_of_iff _ applies_iff

theorem mem_all (s : Strategy) : s ∈ all := by
  cases s <;> decide

end Strategy

/-! ## How a strategy fares -/

/-- A query counts at least one element. -/
def Positive (answer : Except Failure Int) : Prop :=
  ∃ n, answer = .ok n ∧ 0 < n

/-- A strategy leads to an element: it applies, and the answer to its query counts one. -/
def Strategy.Finds (description : String) (answers : Strategy → Except Failure Int)
    (s : Strategy) : Prop :=
  s.Applicable description ∧ Positive (answers s)

/-- How a strategy fares with the answer to its query. -/
inductive Tried (description : String) (answer : Except Failure Int) (s : Strategy) :
    AttemptOutcome → Prop
  | skipped : ¬ s.Applicable description → Tried description answer s .skipped
  | failed {failure : Failure} : s.Applicable description → answer = .error failure →
      Tried description answer s (.failed failure.message)
  | missed {n : Int} : s.Applicable description → answer = .ok n → ¬ 0 < n →
      Tried description answer s .missed
  | matched {n : Int} : s.Applicable description → answer = .ok n → 0 < n →
      Tried description answer s .matched

/-- What a query that is made comes to. -/
theorem Tried.ofCount {description : String} {s : Strategy}
    (applicable : s.Applicable description) (answer : Except Failure Int) :
    Tried description answer s (.ofCount answer) := by
  cases answer with
  | error failure => exact .failed applicable rfl
  | ok n =>
      change Tried _ _ _ (if 0 < n then _ else _)
      split
      · rename_i positive
        exact .matched applicable rfl positive
      · rename_i none
        exact .missed applicable rfl none

namespace Tried

variable {description : String} {answer : Except Failure Int} {s : Strategy}
  {outcome : AttemptOutcome}

/-- A strategy is skipped if it does not apply, and only then. -/
theorem skipped_iff (tried : Tried description answer s outcome) :
    outcome = .skipped ↔ ¬ s.Applicable description := by
  cases tried with
  | skipped absent => simpa using absent
  | failed applicable _ | missed applicable _ _ | matched applicable _ _ => simpa using applicable

/-- A strategy is matched if it applies and its query counts an element. -/
theorem matched_iff (tried : Tried description answer s outcome) :
    outcome = .matched ↔ s.Applicable description ∧ Positive answer := by
  cases tried with
  | skipped absent => simp [absent]
  | failed _ answered => simp [Positive, answered]
  | missed _ answered none => simp [Positive, answered, none]
  | matched applicable answered some => simp [Positive, applicable, answered, some]

end Tried

/-! ## Searches -/

/-- The strategies whose queries were made. -/
def asked (attempts : List Attempt) : List Strategy :=
  (attempts.filter (·.outcome ≠ .skipped)).map (·.strategy)

/-- One more attempt makes one more query, if its strategy applies. -/
theorem Tried.asked_cons {description : String} {answer : Except Failure Int} {s : Strategy}
    {outcome : AttemptOutcome} (tried : Tried description answer s outcome) (locator : Locator)
    (attempts : List Attempt) :
    asked (⟨s, locator, outcome⟩ :: attempts) =
      [s].filter (·.Applicable description) ++ asked attempts := by
  unfold asked
  by_cases applicable : s.Applicable description
  · have made : outcome ≠ .skipped := fun skipped => tried.skipped_iff.mp skipped applicable
    simp [applicable, made]
  · have skipped : outcome = .skipped := tried.skipped_iff.mpr applicable
    simp [applicable, skipped]

/-- A search over strategies, with its attempts and the strategy that found an element. -/
inductive Search (description : String) (answers : Strategy → Except Failure Int) :
    List Strategy → List Attempt → Option Strategy → Prop
  | nothing : Search description answers [] [] none
  | found {s : Strategy} (rest : List Strategy) :
      Tried description (answers s) s .matched →
      Search description answers (s :: rest)
        [⟨s, Locator.ofStrategy description s, .matched⟩] (some s)
  | next {s : Strategy} {outcome : AttemptOutcome} {rest : List Strategy}
      {attempts : List Attempt} {found : Option Strategy} :
      Tried description (answers s) s outcome → outcome ≠ .matched →
      Search description answers rest attempts found →
      Search description answers (s :: rest)
        (⟨s, Locator.ofStrategy description s, outcome⟩ :: attempts) found

namespace Search

variable {description : String} {answers : Strategy → Except Failure Int} {l : List Strategy}
  {attempts : List Attempt} {found : Option Strategy}

/-- The strategies that are tried are the first ones. -/
theorem reaches (search : Search description answers l attempts found) :
    attempts.map (·.strategy) <+: l := by
  induction search with
  | nothing => exact List.prefix_rfl
  | found rest _ => exact ⟨rest, rfl⟩
  | next _ _ _ ih => exact List.cons_prefix_cons.mpr ⟨rfl, ih⟩

/-- A search goes through all strategies, or ends with one that is matched. -/
theorem ends (search : Search description answers l attempts found) :
    attempts.map (·.strategy) = l ∨
      ∃ last, attempts.getLast? = some last ∧ last.outcome = .matched := by
  induction search with
  | nothing => exact .inl rfl
  | found rest _ => exact .inr ⟨_, rfl, rfl⟩
  | next _ _ _ ih =>
      rcases ih with whole | ⟨last, here, matched⟩
      · exact .inl (congrArg (List.cons _) whole)
      · refine .inr ⟨last, ?_, matched⟩
        rw [List.getLast?_cons, here]
        rfl

/-- No attempt before the last is matched. -/
theorem unmatched_before (search : Search description answers l attempts found) :
    ∀ a ∈ attempts.dropLast, a.outcome ≠ .matched := by
  induction search with
  | nothing => exact fun a member => absurd member List.not_mem_nil
  | found rest _ => exact fun a member => absurd member List.not_mem_nil
  | @next s outcome rest attempts _ tried unmatched _ ih =>
      intro a member
      cases attempts with
      | nil => exact absurd member List.not_mem_nil
      | cons second attempts =>
          rw [List.dropLast_cons_cons] at member
          rcases List.mem_cons.mp member with rfl | later
          · exact unmatched
          · exact ih a later

/-- Each attempt is one of its strategy, with the query of that strategy. -/
theorem attempts_tried (search : Search description answers l attempts found) :
    ∀ a ∈ attempts, a.locator = Locator.ofStrategy description a.strategy ∧
      Tried description (answers a.strategy) a.strategy a.outcome := by
  induction search with
  | nothing => exact fun a member => absurd member List.not_mem_nil
  | found rest tried =>
      intro a member
      rw [List.mem_singleton.mp member]
      exact ⟨rfl, tried⟩
  | next tried _ _ ih =>
      intro a member
      rcases List.mem_cons.mp member with rfl | later
      · exact ⟨rfl, tried⟩
      · exact ih a later

/-- **A search finds the first strategy that leads to an element, and has asked the queries of all
that apply up to it.** -/
theorem finds_first {s : Strategy} (search : Search description answers l attempts (some s)) :
    ∃ before after, l = before ++ s :: after ∧ s.Finds description answers ∧
      (∀ t ∈ before, ¬ t.Finds description answers) ∧
      asked attempts = before.filter (·.Applicable description) ++ [s] := by
  generalize same : some s = found at search
  induction search with
  | nothing => cases same
  | found rest tried =>
      obtain rfl := Option.some.inj same
      exact ⟨[], rest, rfl, tried.matched_iff.mp rfl, by simp, rfl⟩
  | @next t outcome rest attempts _ tried unmatched _ ih =>
      obtain ⟨before, after, rfl, finds, earlier, asks⟩ := ih same
      refine ⟨t :: before, after, rfl, finds, ?_, ?_⟩
      · intro other member
        rcases List.mem_cons.mp member with rfl | later
        · exact fun found => unmatched (tried.matched_iff.mpr found)
        · exact earlier other later
      · rw [tried.asked_cons, asks, ← List.append_assoc, ← List.filter_append]
        rfl

/-- A search that finds nothing has asked the queries of all strategies that apply, in vain. -/
theorem finds_nothing (search : Search description answers l attempts none) :
    (∀ t ∈ l, ¬ t.Finds description answers) ∧
      asked attempts = l.filter (·.Applicable description) := by
  generalize same : none = found at search
  induction search with
  | nothing => exact ⟨fun t member => absurd member List.not_mem_nil, rfl⟩
  | found rest _ => cases same
  | next tried unmatched _ ih =>
      obtain ⟨none, asks⟩ := ih same
      constructor
      · intro t member
        rcases List.mem_cons.mp member with rfl | later
        · exact fun finds => unmatched (tried.matched_iff.mpr finds)
        · exact none t later
      · rw [tried.asked_cons, asks, ← List.filter_append]
        rfl

end Search

/-! ## Carrying a search out -/

/-- What the page answers to the queries of the strategies. -/
def Page.answers (page : Page) (description : String) (s : Strategy) : Except Failure Int :=
  page.count (Locator.ofStrategy description s).selector

namespace Page

variable (page : Page) (description : String)

/-- The event that the query of a strategy leaves. -/
def queryEvent (description : String) (s : Strategy) : PageEvent :=
  .count (Locator.ofStrategy description s).selector

/-- **A strategy is tried on the page**, with its one query if it applies and without any if not. -/
theorem tryStrategy_tried (s : Strategy) :
    ∃ outcome, Tried description (page.answers description s) s outcome ∧
      tryStrategy (fun locator => (page.countOf locator).caught) description s
          (Locator.ofStrategy description s) =
        (([s].filter (·.Applicable description)).map (queryEvent description), .ok outcome) ∧
      tryStrategy (fun locator => (pure (page.count locator.selector) : Id _)) description s
          (Locator.ofStrategy description s) = pure outcome := by
  unfold tryStrategy
  by_cases applicable : s.Applicable description
  · have queried : [s].filter (·.Applicable description) = [s] := by simp [applicable]
    have applies : s.applies description = true := Strategy.applies_iff.mpr applicable
    rw [queried, if_pos applies, if_pos applies]
    exact ⟨_, .ofCount applicable _, rfl, rfl⟩
  · have queried : [s].filter (·.Applicable description) = [] := by simp [applicable]
    have rests : ¬ s.applies description = true := fun applies =>
      applicable (Strategy.applies_iff.mp applies)
    rw [queried, if_neg rests, if_neg rests]
    exact ⟨_, .skipped applicable, rfl, rfl⟩

/-- **The program carries a search out.** -/
theorem tryCandidates_search (l : List Strategy) :
    ∃ attempts found, Search description (page.answers description) l attempts found ∧
      tryCandidates (fun locator => (page.countOf locator).caught) description
          (l.map fun s => (s, Locator.ofStrategy description s)) =
        ((asked attempts).map (queryEvent description),
          .ok (found.map fun s => (s, Locator.ofStrategy description s), attempts)) ∧
      tryCandidates (fun locator => (pure (page.count locator.selector) : Id _)) description
          (l.map fun s => (s, Locator.ofStrategy description s)) =
        pure (found.map fun s => (s, Locator.ofStrategy description s), attempts) := by
  induction l with
  | nil => exact ⟨[], none, .nothing, rfl, rfl⟩
  | cons s l ih =>
      obtain ⟨outcome, tried, visited, told⟩ := page.tryStrategy_tried description s
      simp only [List.map_cons, tryCandidates, visited, told, Visit.bind_ok, pure_bind]
      by_cases matched : outcome = .matched
      · subst matched
        refine ⟨_, _, .found l tried, ?_, rfl⟩
        rw [tried.asked_cons, if_pos rfl, Visit.pure_eq, List.map_append]
        rfl
      · obtain ⟨attempts, found, search, rest, toldRest⟩ := ih
        refine ⟨_, _, .next tried matched search, ?_, ?_⟩
        · rw [tried.asked_cons, if_neg matched, rest, Visit.bind_ok, Visit.pure_eq,
            List.append_nil, List.map_append]
        · rw [if_neg matched, toldRest]
          rfl

/-- **The search of a page is one over all strategies.**  It leaves the events of its queries, and
comes to what is told of it. -/
theorem find_search :
    ∃ attempts found, Search description (page.answers description) Strategy.all attempts found ∧
      page.find description =
        ((asked attempts).map (queryEvent description), .ok (page.resolve description)) ∧
      page.resolve description =
        ⟨description, found.map fun s => (s, Locator.ofStrategy description s), attempts⟩ := by
  obtain ⟨attempts, found, search, visited, told⟩ :=
    page.tryCandidates_search description Strategy.all
  have resolved : page.resolve description =
      ⟨description, found.map fun s => (s, Locator.ofStrategy description s), attempts⟩ := by
    unfold resolve WebPilot.resolve Locator.candidates
    rw [told]
    rfl
  refine ⟨attempts, found, search, ?_, resolved⟩
  unfold find WebPilot.resolve Locator.candidates
  rw [visited, Visit.bind_ok, Visit.pure_eq, List.append_nil, resolved]

end Page

/-! ## Any answers at all -/

namespace Locator

/-- How the query of a strategy starts, whatever the description is. -/
def opening : Strategy → String
  | .ariaLabel => "css=[aria-label="
  | .directSelector => "css="
  | .elementId => "css=#"
  | .ariaLabelPartial => "css=[aria-label*="
  | .nameAttribute => "css=[name="
  | .placeholder => "css=[placeholder="
  | .exactText => "xpath=//button[text()="
  | .partialText => "xpath=//button[contains("

variable {description : String} {s t : Strategy}

theorem opening_prefix (description : String) (s : Strategy) :
    (opening s).toList <+: (ofStrategy description s).selector.toList := by
  cases s
  all_goals exact ⟨_, by
    simp only [opening, ofStrategy, selector, Engine.word, toString, String.toList_append,
      List.append_assoc]
    rfl⟩

/-- No opening starts another one, but for that of the description as it stands. -/
theorem opening_apart (s_not : s ≠ .directSelector) (t_not : t ≠ .directSelector)
    (starts : (opening s).toList <+: (opening t).toList) : s = t := by
  have apart : ∀ s ∈ Strategy.all, ∀ t ∈ Strategy.all, s ≠ .directSelector → t ≠ .directSelector →
      (opening s).toList <+: (opening t).toList → s = t := by
    decide +kernel
  exact apart s s.mem_all t t.mem_all s_not t_not starts

/-- A quoted value is longer than the value. -/
theorem length_lt_selectorString (value : String) :
    value.length < (selectorString value).length := by
  have kept (cs : List Char) : cs.length ≤ (cs.flatMap selectorChar).length := by
    induction cs with
    | nil => exact Nat.le_refl 0
    | cons c cs ih =>
        have filled : 0 < (selectorChar c).length := by
          unfold selectorChar
          repeat' split
          all_goals exact Nat.zero_lt_succ _
        rw [List.flatMap_cons, List.length_append, List.length_cons]
        omega
  have inside := kept value.toList
  rw [String.length_toList] at inside
  simp only [selectorString, List.cons_append, String.length_ofList, List.length_cons,
    List.length_append, List.length_nil]
  omega

/-- The description as it stands is shorter than the other selectors, and no path. -/
theorem selector_ne_direct (other : s ≠ .directSelector) :
    (ofStrategy description s).selector ≠
      (ofStrategy description .directSelector).selector := by
  intro same
  have longer := length_lt_selectorString description
  have lengths := congrArg String.length same
  have heads := congrArg String.toList same
  simp only [ofStrategy, selector, Engine.word, toString, String.toList_append,
    String.length_append] at lengths heads
  cases s with
  | directSelector => exact absurd rfl other
  | elementId => simp at lengths
  | exactText | partialText => simp at heads
  | ariaLabel | ariaLabelPartial | nameAttribute | placeholder =>
      simp at lengths
      omega

/-- **No two of the eight queries are the same.** -/
theorem selector_injective
    (same : (ofStrategy description s).selector = (ofStrategy description t).selector) : s = t := by
  by_cases direct : s = .directSelector
  · by_cases direct' : t = .directSelector
    · exact direct.trans direct'.symm
    · exact absurd (direct ▸ same.symm) (selector_ne_direct direct')
  · by_cases direct' : t = .directSelector
    · exact absurd (direct' ▸ same) (selector_ne_direct direct)
    · have starts := opening_prefix description s
      have starts' := opening_prefix description t
      rw [← same] at starts'
      rcases List.prefix_or_prefix_of_prefix starts starts' with first | second
      · exact opening_apart direct direct' first
      · exact (opening_apart direct' direct second).symm

end Locator

/-- A page can give any answers to the queries for a description. -/
theorem Page.exists_answers (description : String) (answers : Strategy → Except Failure Int) :
    ∃ page : Page, page.answers description = answers := by
  let asks (selector : String) (s : Strategy) : Bool :=
    (Locator.ofStrategy description s).selector == selector
  let count (selector : String) : Except Failure Int :=
    match Strategy.all.find? (asks selector) with
    | some s => answers s
    | none => .ok 0
  refine ⟨⟨"", "", [], [], [], count, fun _ => none⟩, ?_⟩
  funext s
  change count (Locator.ofStrategy description s).selector = answers s
  have known : (Strategy.all.find? (asks (Locator.ofStrategy description s).selector)).isSome := by
    rw [List.find?_isSome]
    exact ⟨s, s.mem_all, beq_self_eq_true _⟩
  obtain ⟨t, found⟩ := Option.isSome_iff_exists.mp known
  obtain rfl : t = s := Locator.selector_injective (eq_of_beq (List.find?_some found :))
  simp only [count, found]

/-! ## What is known of a search -/

/-- What holds of a search for a description, given what the page answers: how it ends, the
strategies whose queries it makes, and what it comes to. -/
structure Cascade (description : String) (answers : Strategy → Except Failure Int)
    (queries : List Strategy) (r : Resolution) : Prop where
  /-- The strategies tried are the first of the eight. -/
  reaches : r.attempts.map (·.strategy) <+: Strategy.all
  /-- All eight are tried, or the last one tried is matched. -/
  ends : r.attempts.map (·.strategy) = Strategy.all ∨
    ∃ last, r.attempts.getLast? = some last ∧ last.outcome = .matched
  /-- No other attempt is matched. -/
  unmatched_before : ∀ a ∈ r.attempts.dropLast, a.outcome ≠ .matched
  /-- Each attempt has the query of its strategy. -/
  located : ∀ a ∈ r.attempts, a.locator = Locator.ofStrategy description a.strategy
  /-- The attempts that are not skipped make their queries, in order, and nothing else does. -/
  queried : queries = (r.attempts.filter (·.outcome ≠ .skipped)).map (·.strategy)
  /-- Only an id is skipped, and it is if the description is no bare id. -/
  skipped_iff : ∀ a ∈ r.attempts,
    a.outcome = .skipped ↔ a.strategy = .elementId ∧ ¬ BareId description
  /-- An attempt is matched if its query was made and counted an element. -/
  matched_iff : ∀ a ∈ r.attempts,
    a.outcome = .matched ↔ a.outcome ≠ .skipped ∧ Positive (answers a.strategy)
  /-- An element is found if a strategy leads to one. -/
  found_iff : r.found.isSome = true ↔ ∃ s : Strategy, s.Finds description answers
  /-- It is found with the query of the first strategy that does. -/
  found_first : ∀ s locator, r.found = some (s, locator) →
    locator = Locator.ofStrategy description s ∧ s.Finds description answers ∧
      ∃ before after, Strategy.all = before ++ s :: after ∧
        ∀ t ∈ before, ¬ t.Finds description answers
  /-- When nothing is found, the description is left as it stands. -/
  literal : r.found = none → r.selectorOrLiteral = description

/-- A search over all strategies is a cascade. -/
theorem Search.cascade {description : String} {answers : Strategy → Except Failure Int}
    {attempts : List Attempt} {found : Option Strategy}
    (search : Search description answers Strategy.all attempts found) :
    Cascade description answers (asked attempts)
      ⟨description, found.map fun s => (s, Locator.ofStrategy description s), attempts⟩ where
  reaches := search.reaches
  ends := search.ends
  unmatched_before := search.unmatched_before
  located a member := (search.attempts_tried a member).1
  queried := rfl
  skipped_iff a member := by
    rw [(search.attempts_tried a member).2.skipped_iff, Strategy.Applicable, Classical.not_imp]
  matched_iff a member := by
    have tried := (search.attempts_tried a member).2
    rw [tried.matched_iff, Ne, tried.skipped_iff, Classical.not_not]
  found_iff := by
    cases found with
    | none =>
        have none := search.finds_nothing.1
        simp only [Option.map_none, Option.isSome_none, Bool.false_eq_true, false_iff]
        rintro ⟨s, finds⟩
        exact none s s.mem_all finds
    | some s =>
        obtain ⟨_, _, _, finds, _⟩ := search.finds_first
        exact ⟨fun _ => ⟨s, finds⟩, fun _ => rfl⟩
  found_first := by
    intro s locator here
    obtain ⟨s, rfl, same⟩ := Option.map_eq_some_iff.mp here
    cases same
    obtain ⟨before, after, split, finds, earlier, _⟩ := search.finds_first
    exact ⟨rfl, finds, before, after, split, earlier⟩
  literal := by
    intro nothing
    unfold Resolution.selectorOrLiteral
    rw [nothing]

/-- **A search never fails, and is a cascade, whatever the page answers**: its visit leaves the
events of its queries and nothing else. -/
theorem Page.find_cascades (description : String) :
    (∀ page : Page, ∃ queries : List Strategy,
      page.find description =
        (queries.map fun s => .count (Locator.ofStrategy description s).selector,
          .ok (page.resolve description)) ∧
      Cascade description (page.answers description) queries (page.resolve description)) ∧
    ∀ answers : Strategy → Except Failure Int, ∃ page : Page,
      page.answers description = answers := by
  refine ⟨?_, exists_answers description⟩
  intro page
  obtain ⟨attempts, found, search, visited, resolved⟩ := page.find_search description
  refine ⟨asked attempts, visited, ?_⟩
  rw [resolved]
  exact search.cascade

end WebPilot
