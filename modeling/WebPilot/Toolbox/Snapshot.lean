import WebPilot.Json.Display
import WebPilot.Json.Writer
import WebPilot.Page.Basic
import WebPilot.Text.Pieces

/-!
# Snapshots of a page

A snapshot lists the elements of a page with their roles, names and selectors, either as lines of
text or as JSON.
-/

namespace WebPilot

set_option autoImplicit false

/-- The lines of the program that a page runs to list its elements. -/
def snapshotScriptLines : List String :=
  [
    "",
    "([selectors, maxElements]) => \x7b",
    "    const implicitRoles = \x7b",
    "        a: 'link', button: 'button', select: 'combobox', textarea: 'textbox',",
    "        nav: 'navigation', main: 'main', header: 'banner', footer: 'contentinfo',",
    "        aside: 'complementary', form: 'form',",
    "        h1: 'heading', h2: 'heading', h3: 'heading', h4: 'heading', h5: 'heading', h6: 'heading',",
    "    \x7d;",
    "    const inputRoles = \x7b checkbox: 'checkbox', radio: 'radio', submit: 'button', button: 'button' \x7d;",
    "    const quote = (v) => '\"' + v.replace(/\\\\/g, '\\\\\\\\').replace(/\"/g, '\\\\\"') + '\"';",
    "    const visible = (el) => \x7b",
    "        const rect = el.getBoundingClientRect();",
    "        return rect.width > 0 && rect.height > 0;",
    "    \x7d;",
    "    return Array.from(document.querySelectorAll(selectors))",
    "        .filter(visible)",
    "        .slice(0, maxElements)",
    "        .map((el) => \x7b",
    "            const tag = el.tagName.toLowerCase();",
    "            const role = el.getAttribute('role')",
    "                || (tag === 'input' ? (inputRoles[el.type] || 'textbox') : implicitRoles[tag])",
    "                || tag;",
    "            const ariaLabel = el.getAttribute('aria-label');",
    "            const name = (ariaLabel || el.innerText || el.value || el.placeholder || el.title || '')",
    "                .trim().replace(/\\s+/g, ' ').slice(0, 80);",
    "            let selector = null;",
    "            if (ariaLabel) selector = '[aria-label=' + quote(ariaLabel) + ']';",
    "            else if (el.id) selector = '#' + CSS.escape(el.id);",
    "            else if (el.getAttribute('name')) selector = tag + '[name=' + quote(el.getAttribute('name')) + ']';",
    "            else if (el.placeholder) selector = '[placeholder=' + quote(el.placeholder) + ']';",
    "            return \x7b role, name, selector, tag, checked: el.checked === undefined ? null : el.checked \x7d;",
    "        \x7d);",
    "\x7d",
    ""]


/-- The program that a page runs to list its elements. -/
def snapshotScript : String :=
  Text.lines snapshotScriptLines

/-- Which elements a snapshot lists. -/
inductive Focus where
  | all
  | interactive
  | landmarks
  | headings
  deriving DecidableEq, Repr

namespace Focus

/-- The word for a focus. -/
def word : Focus → String
  | all => "all"
  | interactive => "interactive"
  | landmarks => "landmarks"
  | headings => "headings"

/-- Elements that can be acted on. -/
def interactiveSelectors : String :=
  "a[href], button, input, select, textarea, [role=\"button\"], [role=\"link\"], " ++
  "[role=\"checkbox\"], [role=\"radio\"], [role=\"tab\"], [role=\"menuitem\"], " ++
  "[contenteditable=\"true\"]"

/-- Headings. -/
def headingSelectors : String :=
  "h1, h2, h3, h4, h5, h6, [role=\"heading\"]"

/-- The regions of a page. -/
def landmarkSelectors : String :=
  "header, nav, main, aside, footer, form, [role=\"banner\"], [role=\"navigation\"], " ++
  "[role=\"main\"], [role=\"complementary\"], [role=\"contentinfo\"], [role=\"search\"]"

/-- The selectors of a focus. -/
def selectors : Focus → String
  | interactive => interactiveSelectors
  | headings => headingSelectors
  | landmarks => landmarkSelectors
  | all => String.intercalate ", " [interactiveSelectors, headingSelectors, landmarkSelectors]

end Focus

/-- The field of an element, unless it is absent or null. -/
def presentField? (element : Json) (name : String) : Option Json :=
  match element.get? name with
  | some .null => none
  | other => other

/-- Why a value without a role is no element. -/
def roleFailure : Json → Failure
  | .object _ => .missingField "role"
  | .text _ => .wrongKind "string indices must be integers, not 'str'"
  | .list _ => .wrongKind "list indices must be integers or slices, not str"
  | value => .wrongKind s!"'{value.kindWord}' object is not subscriptable"

/-- The line of an element, which needs a role. -/
def elementLine (element : Json) : Except Failure String :=
  match element.get? "role" with
  | none => .error (roleFailure element)
  | some role =>
    let named := match element.get? "name" with
      | some name => if name.isSomething then s!" \"{name.asText}\"" else ""
      | none => ""
    let checked := match presentField? element "checked" with
      | some value => if value.isSomething then " [checked]" else " [unchecked]"
      | none => ""
    let target := match element.get? "selector" with
      | some selector => if selector.isSomething then s!" -> {selector.asText}" else ""
      | none => ""
    .ok s!"- {role.asText}{named}{checked}{target}"

/-- The lines of elements; the first without a role is a failure. -/
def elementLines : List Json → Except Failure (List String)
  | [] => .ok []
  | element :: rest =>
    match elementLine element with
    | .error failure => .error failure
    | .ok line =>
      match elementLines rest with
      | .error failure => .error failure
      | .ok lines => .ok (line :: lines)

/-- A snapshot as lines of text. -/
def snapshotText (title url : String) (elements : List Json) : Except Failure String :=
  match elementLines elements with
  | .error failure => .error failure
  | .ok lines =>
    .ok (Text.lines ([s!"Page: {title}", s!"URL: {url}", s!"Elements ({elements.length}):"] ++ lines))

/-- A snapshot as JSON. -/
def snapshotJson (title url : String) (elements : List Json) : String :=
  Json.write .page (.object [("title", .text title), ("url", .text url), ("elements", .list elements)])

end WebPilot
