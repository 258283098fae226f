import CoursePage.Text.Ascii

/-!
Selectors as data: a list of alternatives, each a chain of compounds tied by combinators, each
compound a list of simple conditions on one element.
-/

namespace CoursePage.Selector

inductive Combinator where
  | descendant
  | child
  | nextSibling
  | laterSibling
  deriving DecidableEq, Repr

inductive Operator where
  | equal
  | includes
  | dash
  | starts
  | contains
  | ends
  deriving DecidableEq, Repr

/-- What a selector says about the case of an attribute value. -/
inductive CaseMark where
  | unmarked
  | insensitive
  | sensitive
  deriving DecidableEq, Repr

structure ValueTest where
  operator : Operator
  value : String
  mark : CaseMark
  deriving DecidableEq, Repr

/-- A condition on one attribute, outside all namespaces unless any namespace will do. -/
structure AttributeTest where
  anyNamespace : Bool
  name : String
  value : Option ValueTest
  deriving DecidableEq, Repr

/-- The attributes whose values markup compares without regard to case. -/
def foldedAttributes : List String :=
  ["accept", "accept-charset", "align", "alink", "axis", "bgcolor", "charset", "checked",
   "clear", "codetype", "color", "compact", "declare", "defer", "dir", "direction", "disabled",
   "enctype", "face", "frame", "hreflang", "http-equiv", "lang", "language", "link", "media",
   "method", "multiple", "nohref", "noresize", "noshade", "nowrap", "readonly", "rel", "rev",
   "rules", "scope", "scrolling", "selected", "shape", "target", "text", "type", "valign",
   "valuetype", "vlink"]

/-- How an attribute test compares values. -/
def AttributeTest.caseRule (a : AttributeTest) (mark : CaseMark) : Text.CaseRule :=
  match mark with
  | .insensitive => .ignoringCase
  | .sensitive => .exact
  | .unmarked =>
    if !a.anyNamespace && foldedAttributes.contains (Text.lowered a.name) then .ignoringCase
    else .exact

/-- What is counted, and from which end. -/
inductive Counting where
  | child
  | lastChild
  | ofType
  | lastOfType
  | onlyChild
  | onlyOfType
  deriving DecidableEq, Repr

/-- The positions `step * n + offset` for all `n` from zero. -/
structure Position where
  counting : Counting
  /-- Written with its numbers in brackets. -/
  bracketed : Bool
  step : Int
  offset : Int
  deriving DecidableEq, Repr

/-- Conditions on how a page is used, of which a page at rest only meets `link`. -/
inductive Usage where
  | link
  | visited
  | hover
  | active
  | focus
  deriving DecidableEq, Repr

mutual

inductive Simple where
  | noNamespace
  | universal
  | type (name : String)
  | id (name : String)
  | className (name : String)
  | attribute (test : AttributeTest)
  | root
  | empty
  | scope
  | host (inner : Complex)
  | position (p : Position)
  | usage (u : Usage)
  | not (alternatives : List Complex)

/-- A chain of compounds, the last one for the element itself. -/
inductive Complex where
  | compound (conditions : List Simple)
  | chain (left : Complex) (c : Combinator) (conditions : List Simple)

end

end CoursePage.Selector
