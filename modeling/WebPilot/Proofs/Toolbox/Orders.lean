import WebPilot.Proofs.Check.Accepting
import WebPilot.Proofs.Locator.Cascade
import WebPilot.Toolbox.Basic

/-!
# What the element tools do to a page

Six of the built-in tools act on an element.  Their arguments *order* an action on the element of a
description (`Orders`), or they order nothing and are refused: the checks of a tool accept exactly
the arguments that order something (`BuiltinTool.checkInput_of_orders` and
`BuiltinTool.orders_of_checkInput`).

An order is carried out on the element that the search for its description leads to (`Leads`).
**A call of an element tool leaves the queries of that search, one event for the element, and one
for the action, and in this order; a call that orders nothing leaves no event at all**
(`Page.callTool_acts_once`).  The answer has the flag of an error if the page refuses the action,
and any other failure of the action passes.
-/

namespace WebPilot

set_option autoImplicit false

/-! ## Orders -/

/-- The arguments describe an element. -/
def Describes (arguments : Fields) (description : String) : Prop :=
  arguments.get? "selector" = some (.text description) ∧ description ≠ ""

/-- The arguments give a switch a position; it is on unless they say otherwise. -/
def Switches (arguments : Fields) (name : String) (position : Bool) : Prop :=
  (arguments.get? name = none ∧ position = true) ∨
    ∃ value, arguments.get? name = some value ∧ Check.Truth value position

/-- What the arguments of an element tool order: an action on the element of a description. -/
inductive Orders (arguments : Fields) : BuiltinTool → String → PageEvent → Prop
  | click {description : String} : Describes arguments description →
      Orders arguments .click description .click
  | clickButton {description : String} : Describes arguments description →
      Orders arguments .clickButton description .click
  | clickLink {description : String} : Describes arguments description →
      Orders arguments .clickLink description .click
  | fill {description text : String} : Describes arguments description →
      arguments.get? "text" = some (.text text) → Switches arguments "clear" true →
      Orders arguments .typeText description (.fill text)
  | typeKeys {description text : String} : Describes arguments description →
      arguments.get? "text" = some (.text text) → Switches arguments "clear" false →
      Orders arguments .typeText description (.typeKeys text)
  | select {description value : String} : Describes arguments description →
      arguments.get? "value" = some (.text value) →
      Orders arguments .selectDropdown description (.selectOption value)
  | choose {description : String} {checked : Bool} : Describes arguments description →
      Switches arguments "checked" checked →
      Orders arguments .chooseOption description (.setChecked checked)

/-- The tools that act on an element. -/
def BuiltinTool.elementTools : List BuiltinTool :=
  [click, clickButton, clickLink, typeText, selectDropdown, chooseOption]

/-! ## Checked arguments -/

section

variable {arguments : Fields} {description : String}

theorem required_selector_iff :
    Check.required "selector" Check.someText arguments = .fine description ↔
      Describes arguments description := by
  rw [Check.required_fine_iff]
  simp only [Check.someText_fine_iff, Describes]
  constructor
  · rintro ⟨value, here, rfl, filled⟩
    exact ⟨here, filled⟩
  · rintro ⟨here, filled⟩
    exact ⟨_, here, rfl, filled⟩

theorem required_text_iff {name text : String} :
    Check.required name Check.text arguments = .fine text ↔
      arguments.get? name = some (.text text) := by
  rw [Check.required_fine_iff]
  simp only [Check.text_fine_iff]
  constructor
  · rintro ⟨value, here, rfl⟩
    exact here
  · intro here
    exact ⟨_, here, rfl⟩

theorem optional_switch_iff {name : String} {position : Bool} :
    Check.optional name true Check.bool arguments = .fine position ↔
      Switches arguments name position := by
  rw [Check.optional_fine_iff]
  simp only [Check.bool_fine_iff, Switches]

end

namespace BuiltinTool

variable {tool : BuiltinTool} {arguments : Fields} {description : String} {action : PageEvent}
  {input : ToolInput}

theorem checkClick_fine_iff {target : ClickTarget} :
    checkClick target arguments = .fine input ↔
      ∃ description, Describes arguments description ∧ input = .click target description := by
  unfold checkClick
  rw [Checked.map_fine_iff]
  simp only [required_selector_iff, eq_comm]

theorem checkInput_typeText_iff :
    typeText.checkInput arguments = .fine input ↔
      ∃ description text clear, Describes arguments description ∧
        arguments.get? "text" = some (.text text) ∧ Switches arguments "clear" clear ∧
        input = .typeText description text clear := by
  unfold checkInput
  simp only [Checked.seq_fine_iff, Checked.map_fine_iff, required_selector_iff,
    required_text_iff, optional_switch_iff]
  constructor
  · rintro ⟨_, clear, ⟨_, text, ⟨description, described, rfl⟩, given, rfl⟩, switched, rfl⟩
    exact ⟨description, text, clear, described, given, switched, rfl⟩
  · rintro ⟨description, text, clear, described, given, switched, rfl⟩
    exact ⟨_, clear, ⟨_, text, ⟨description, described, rfl⟩, given, rfl⟩, switched, rfl⟩

theorem checkInput_selectDropdown_iff :
    selectDropdown.checkInput arguments = .fine input ↔
      ∃ description value, Describes arguments description ∧
        arguments.get? "value" = some (.text value) ∧ input = .select description value := by
  unfold checkInput
  simp only [Checked.seq_fine_iff, Checked.map_fine_iff, required_selector_iff,
    required_text_iff]
  constructor
  · rintro ⟨_, value, ⟨description, described, rfl⟩, given, rfl⟩
    exact ⟨description, value, described, given, rfl⟩
  · rintro ⟨description, value, described, given, rfl⟩
    exact ⟨_, value, ⟨description, described, rfl⟩, given, rfl⟩

theorem checkInput_chooseOption_iff :
    chooseOption.checkInput arguments = .fine input ↔
      ∃ description checked, Describes arguments description ∧
        Switches arguments "checked" checked ∧ input = .choose description checked := by
  unfold checkInput
  simp only [Checked.seq_fine_iff, Checked.map_fine_iff, required_selector_iff,
    optional_switch_iff]
  constructor
  · rintro ⟨_, checked, ⟨description, described, rfl⟩, switched, rfl⟩
    exact ⟨description, checked, described, switched, rfl⟩
  · rintro ⟨description, checked, described, switched, rfl⟩
    exact ⟨_, checked, ⟨description, described, rfl⟩, switched, rfl⟩

/-- **Arguments that order something are accepted**, as an input for the same action. -/
theorem checkInput_of_orders (orders : Orders arguments tool description action) :
    ∃ input, tool.checkInput arguments = .fine input ∧
      input.elementAction? = some (description, action) := by
  cases orders with
  | click described | clickButton described | clickLink described =>
      exact ⟨_, checkClick_fine_iff.mpr ⟨description, described, rfl⟩, rfl⟩
  | fill described given switched | typeKeys described given switched =>
      exact ⟨_, checkInput_typeText_iff.mpr
        ⟨description, _, _, described, given, switched, rfl⟩, rfl⟩
  | select described given =>
      exact ⟨_, checkInput_selectDropdown_iff.mpr
        ⟨description, _, described, given, rfl⟩, rfl⟩
  | choose described switched =>
      exact ⟨_, checkInput_chooseOption_iff.mpr
        ⟨description, _, described, switched, rfl⟩, rfl⟩

/-- **Arguments that an element tool accepts order something.** -/
theorem orders_of_checkInput (element : tool ∈ elementTools)
    (fine : tool.checkInput arguments = .fine input) :
    ∃ description action, Orders arguments tool description action ∧
      input.elementAction? = some (description, action) := by
  cases tool with
  | click =>
      obtain ⟨description, described, rfl⟩ := checkClick_fine_iff.mp fine
      exact ⟨description, .click, .click described, rfl⟩
  | clickButton =>
      obtain ⟨description, described, rfl⟩ := checkClick_fine_iff.mp fine
      exact ⟨description, .click, .clickButton described, rfl⟩
  | clickLink =>
      obtain ⟨description, described, rfl⟩ := checkClick_fine_iff.mp fine
      exact ⟨description, .click, .clickLink described, rfl⟩
  | typeText =>
      obtain ⟨description, text, clear, described, given, switched, rfl⟩ :=
        checkInput_typeText_iff.mp fine
      cases clear with
      | true => exact ⟨description, .fill text, .fill described given switched, rfl⟩
      | false => exact ⟨description, .typeKeys text, .typeKeys described given switched, rfl⟩
  | selectDropdown =>
      obtain ⟨description, value, described, given, rfl⟩ :=
        checkInput_selectDropdown_iff.mp fine
      exact ⟨description, .selectOption value, .select described given, rfl⟩
  | chooseOption =>
      obtain ⟨description, checked, described, switched, rfl⟩ :=
        checkInput_chooseOption_iff.mp fine
      exact ⟨description, .setChecked checked, .choose described switched, rfl⟩
  | navigate | screenshot | ariaSnapshot | refreshPage =>
      exact absurd element (by decide)

theorem named?_name (tool : BuiltinTool) : named? tool.name = some tool := by
  cases tool <;> rfl

end BuiltinTool

/-! ## Carrying an order out -/

/-- The queries of the search for a description and the selector that it leads to: the query of the
first strategy that finds an element, or the description itself when none does. -/
inductive Leads (page : Page) (description : String) : List Strategy → String → Prop
  | found {before after : List Strategy} {s : Strategy} :
      Strategy.all = before ++ s :: after → s.Finds description (page.answers description) →
      (∀ t ∈ before, ¬ t.Finds description (page.answers description)) →
      Leads page description (before.filter (·.Applicable description) ++ [s])
        (Locator.ofStrategy description s).selector
  | nothing : (∀ t, ¬ Strategy.Finds description (page.answers description) t) →
      Leads page description (Strategy.all.filter (·.Applicable description)) description

/-- How a call ends, given how its action fails, if it does: a failure of the page is answered with
the flag of an error, and any other failure passes. -/
inductive CallEnds : Option Failure → Except Failure ToolAnswer → Prop
  | done {answer : ToolAnswer} : answer.flagged = false → CallEnds none (.ok answer)
  | refused {message : String} {answer : ToolAnswer} : answer.flagged = true →
      CallEnds (some (.page message)) (.ok answer)
  | passed {failure : Failure} : (∀ message, failure ≠ .page message) →
      CallEnds (some failure) (.error failure)

namespace Visit

/-- A failure that is not one of the page is not answered. -/
theorem orOnPageFailure_passed {α : Type} {failure : Failure}
    (passes : ∀ message, failure ≠ .page message) (events : List PageEvent) (f : String → α) :
    orOnPageFailure (events, .error failure) f = (events, .error failure) := by
  cases failure with
  | page message => exact absurd rfl (passes message)
  | _ => rfl

/-- Two visits in a row, of which only the second can fail: the events of both are left, and a
failure of the page is answered. -/
theorem answered_ends {v w : Visit Unit} {fault : Option Failure} (answer : ToolAnswer)
    (refusal : String → ToolAnswer) (went : v.2 = .ok ())
    (ended : w.2 = match fault with
      | none => .ok ()
      | some failure => .error failure)
    (plain : answer.flagged = false) (flagged : ∀ message, (refusal message).flagged = true) :
    (orOnPageFailure (do v; w; done answer) refusal).1 = v.1 ++ w.1 ∧
      CallEnds fault (orOnPageFailure (do v; w; done answer) refusal).2 := by
  obtain ⟨before, _⟩ := v
  obtain ⟨after, _⟩ := w
  cases went
  cases fault with
  | none =>
      cases ended
      refine ⟨?_, .done plain⟩
      change before ++ (after ++ []) = before ++ after
      rw [List.append_nil]
  | some failure =>
      cases ended
      by_cases refused : ∃ message, failure = .page message
      · obtain ⟨message, rfl⟩ := refused
        exact ⟨rfl, .refused (flagged message)⟩
      · have passes : ∀ message, failure ≠ .page message :=
          fun message same => refused ⟨message, same⟩
        change (orOnPageFailure (before ++ after, .error failure) refusal).1 = _ ∧
          CallEnds _ (orOnPageFailure (before ++ after, .error failure) refusal).2
        rw [orOnPageFailure_passed passes]
        exact ⟨rfl, .passed passes⟩

end Visit

namespace Page

variable (page : Page)

/-- Turning to an element leaves the queries of the search and one event for what it leads to. -/
theorem locate_leads (description : String) :
    ∃ queries target, Leads page description queries target ∧
      page.locate description =
        (queries.map (queryEvent description) ++ [.first target], .ok ()) := by
  obtain ⟨attempts, found, search, visited, resolved⟩ := page.find_search description
  have located : page.locate description =
      ((asked attempts).map (queryEvent description) ++
        [.first (page.resolve description).selectorOrLiteral], .ok ()) := by
    unfold locate
    rw [visited]
    rfl
  rw [located, resolved]
  cases found with
  | some s =>
      obtain ⟨before, after, split, finds, earlier, asks⟩ := search.finds_first
      rw [asks]
      exact ⟨_, _, .found split finds earlier, rfl⟩
  | none =>
      obtain ⟨none, asks⟩ := search.finds_nothing
      rw [asks]
      exact ⟨_, _, .nothing fun t => none t t.mem_all, rfl⟩

/-- An input that acts on an element is carried out by turning to the element and acting on it. -/
theorem carryOut_element {input : ToolInput} {description : String} {action : PageEvent}
    (acts : input.elementAction? = some (description, action)) :
    page.carryOut input =
      Visit.orOnPageFailure (do
        page.locate description
        page.perform action
        .done (.ofText (input.successText page.selected)))
        fun message => errorAnswer (input.failureText message) := by
  cases input with
  | click | typeText | select | choose =>
      cases acts
      rfl
  | navigate | refresh | screenshot | snapshot => cases acts

/-- **An order is carried out once**, on the element that its description leads to. -/
theorem carryOut_acts {input : ToolInput} {description : String} {action : PageEvent}
    (acts : input.elementAction? = some (description, action)) :
    ∃ queries target, Leads page description queries target ∧
      (page.carryOut input).1 =
        queries.map (queryEvent description) ++ [.first target, action] ∧
      CallEnds (page.fault action) (page.carryOut input).2 := by
  obtain ⟨queries, target, leads, located⟩ := page.locate_leads description
  refine ⟨queries, target, leads, ?_⟩
  have went : (page.locate description).2 = .ok () := by rw [located]
  have performed : (page.perform action).1 = [action] ∧ (page.perform action).2 =
      match page.fault action with
      | none => .ok ()
      | some failure => .error failure := by
    unfold perform
    cases page.fault action <;> exact ⟨rfl, rfl⟩
  have ends := Visit.answered_ends (.ofText (input.successText page.selected))
    (fun message => errorAnswer (input.failureText message)) went performed.2 rfl fun _ => rfl
  rw [page.carryOut_element acts]
  refine ⟨?_, ends.2⟩
  rw [ends.1, located, performed.1, List.append_assoc]
  rfl

/-- Arguments that are refused are not carried out. -/
theorem callTool_refused {tool : BuiltinTool} {arguments : Json} {invalid : Invalid}
    (checked : tool.parseInput arguments = .error invalid) :
    page.callTool tool.name arguments =
      .done (errorAnswer s!"Invalid arguments for {tool.name}: {invalid.message}") := by
  unfold callTool
  simp only [tool.named?_name, checked]

theorem callTool_accepted {tool : BuiltinTool} {arguments : Json} {input : ToolInput}
    (checked : tool.parseInput arguments = .ok input) :
    page.callTool tool.name arguments = page.carryOut input := by
  unfold callTool
  simp only [tool.named?_name, checked]

/-- **An element tool acts once, on the element that its arguments lead to, or not at all.**
Arguments that order nothing are answered with the flag of an error and leave no event.  An order
leaves the queries of the search for its description, one event for what the search leads to, and
one for its action. -/
theorem callTool_acts_once {tool : BuiltinTool} (element : tool ∈ BuiltinTool.elementTools)
    (arguments : Fields) :
    ((∀ description action, ¬ Orders arguments tool description action) →
      ∃ answer, page.callTool tool.name (.object arguments) = ([], .ok answer) ∧
        answer.flagged = true) ∧
    ∀ description action, Orders arguments tool description action →
      ∃ queries target, Leads page description queries target ∧
        (page.callTool tool.name (.object arguments)).1 =
          (queries.map fun s => .count (Locator.ofStrategy description s).selector) ++
            [.first target, action] ∧
        CallEnds (page.fault action) (page.callTool tool.name (.object arguments)).2 := by
  constructor
  · intro nothing
    cases checked : tool.parseInput (.object arguments) with
    | error invalid =>
        rw [page.callTool_refused checked]
        exact ⟨_, rfl, rfl⟩
    | ok input =>
        obtain ⟨description, action, orders, _⟩ :=
          tool.orders_of_checkInput element (Checked.titled_ok_iff.mp checked)
        exact absurd orders (nothing description action)
  · intro description action orders
    obtain ⟨input, checked, acts⟩ := tool.checkInput_of_orders orders
    have read : tool.parseInput (.object arguments) = .ok input :=
      Checked.titled_ok_iff.mpr checked
    rw [page.callTool_accepted read]
    exact page.carryOut_acts acts

/-! ### A sample -/

/-- A page with one element, which has the id `email` and refuses to be typed into. -/
def emailPage : Page where
  url := ""
  title := ""
  elements := []
  selected := []
  screenshot := []
  count selector := .ok (if selector = "css=#email" then 1 else 0)
  fault action := if action = .typeKeys "a@b" then some (.page "not editable") else none

/-- Arguments for typing at the end of what is there. -/
def typingArguments : Fields :=
  [("selector", .text "email"), ("text", .text "a@b"), ("clear", .text "Off")]

/-- Typing into the element acts on it once, and is answered with the flag of an error. -/
theorem callTool_types_once :
    BuiltinTool.typeText ∈ BuiltinTool.elementTools ∧
      Orders typingArguments .typeText "email" (.typeKeys "a@b") ∧
      ∃ queries target, Leads emailPage "email" queries target ∧
        (emailPage.callTool "type_text" (.object typingArguments)).1 =
          (queries.map fun s => .count (Locator.ofStrategy "email" s).selector) ++
            [.first target, .typeKeys "a@b"] ∧
        CallEnds (some (.page "not editable"))
          (emailPage.callTool "type_text" (.object typingArguments)).2 := by
  have element : BuiltinTool.typeText ∈ BuiltinTool.elementTools := by decide
  have orders : Orders typingArguments .typeText "email" (.typeKeys "a@b") :=
    .typeKeys ⟨rfl, by decide⟩ rfl (.inr ⟨.text "Off", rfl, .word false (by decide)⟩)
  exact ⟨element, orders,
    (callTool_acts_once emailPage element typingArguments).2 _ _ orders⟩

end Page

end WebPilot
