import WebPilot.Locator.Quoting

/-!
# Candidates for a description

A description of an element is tried in eight ways, the most specific first.
-/

namespace WebPilot

set_option autoImplicit false

/-- The ways to find an element. -/
inductive Strategy where
  | ariaLabel
  | directSelector
  | elementId
  | ariaLabelPartial
  | nameAttribute
  | placeholder
  | exactText
  | partialText
  deriving DecidableEq, Repr

namespace Strategy

/-- The word for a strategy. -/
def word : Strategy → String
  | ariaLabel => "aria_label"
  | directSelector => "direct_selector"
  | elementId => "element_id"
  | ariaLabelPartial => "aria_label_partial"
  | nameAttribute => "name_attribute"
  | placeholder => "placeholder"
  | exactText => "exact_text"
  | partialText => "partial_text"

/-- All strategies, in the order in which they are tried. -/
def all : List Strategy :=
  [ariaLabel, directSelector, elementId, ariaLabelPartial, nameAttribute, placeholder, exactText,
    partialText]

end Strategy

/-- The languages of page queries. -/
inductive Engine where
  | css
  | xpath
  deriving DecidableEq, Repr

namespace Engine

/-- The word for a language. -/
def word : Engine → String
  | css => "css"
  | xpath => "xpath"

end Engine

/-- A query for elements of a page. -/
structure Locator where
  engine : Engine
  expression : String
  deriving DecidableEq, Repr

namespace Locator

/-- The query with its language in front. -/
def selector (l : Locator) : String :=
  s!"{l.engine.word}={l.expression}"

/-- The query that a strategy makes of a description. -/
def ofStrategy (description : String) : Strategy → Locator
  | .ariaLabel => ⟨.css, s!"[aria-label={selectorString description}]"⟩
  | .directSelector => ⟨.css, description⟩
  | .elementId => ⟨.css, s!"#{description}"⟩
  | .ariaLabelPartial => ⟨.css, s!"[aria-label*={selectorString description}]"⟩
  | .nameAttribute => ⟨.css, s!"[name={selectorString description}]"⟩
  | .placeholder => ⟨.css, s!"[placeholder={selectorString description}]"⟩
  | .exactText =>
    let literal := pathLiteral description
    ⟨.xpath, s!"//button[text()={literal}] | //a[text()={literal}] | //input[@value={literal}]"⟩
  | .partialText =>
    let literal := pathLiteral description
    ⟨.xpath, s!"//button[contains(text(), {literal})] | //a[contains(text(), {literal})] " ++
      s!"| //input[contains(@value, {literal})]"⟩

/-- The queries for a description, in the order in which they are tried. -/
def candidates (description : String) : List (Strategy × Locator) :=
  Strategy.all.map fun s => (s, ofStrategy description s)

end Locator

/-- Characters that cannot be part of a bare id. -/
def idUnsafe : List Char := ['#', '.', '[', ' ']

/-- Whether a description can be tried as the id of an element. -/
def isBareId (description : String) : Bool :=
  !description.isEmpty && !description.toList.any idUnsafe.contains

/-- Whether a strategy can be tried for a description. -/
def Strategy.applies (description : String) : Strategy → Bool
  | .elementId => isBareId description
  | _ => true

end WebPilot
