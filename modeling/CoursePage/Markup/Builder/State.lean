import CoursePage.Markup.Category
import CoursePage.Markup.Token
import CoursePage.Tree.Attr

/-!
The state in which a tree is built from tokens: the tree so far, the elements that are still
open, the formatting that has to be opened anew, and the rules by which tokens are taken.
-/

namespace CoursePage.Markup

/-- The rules by which tokens are taken. -/
inductive Mode where
  | initial
  | beforeHtml
  | beforeHead
  | inHead
  | afterHead
  | inBody
  | inText
  | inTable
  | inTableText
  | inCaption
  | inColumnGroup
  | inTableBody
  | inRow
  | inCell
  | inTemplate
  | afterBody
  | inFrameset
  | afterFrameset
  | afterAfterBody
  | afterAfterFrameset
  deriving DecidableEq, Repr

/-- Formatting that is in force, or a bound that it does not cross. -/
inductive Formatting where
  | bound
  | element (node : NodeId) (tag : Tag)
  deriving DecidableEq, Repr

def Formatting.node? : Formatting → Option NodeId
  | .bound => none
  | .element i _ => some i

structure Builder where
  tree : Tree := .empty
  mode : Mode := .initial
  /-- The rules to go back to after a text. -/
  savedMode : Mode := .inBody
  templateModes : List Mode := []
  /-- The open elements, innermost first. -/
  stack : List NodeId := []
  /-- The formatting in force, latest first. -/
  formatting : List Formatting := []
  head : Option NodeId := none
  form : Option NodeId := none
  framesetOk : Bool := true
  /-- A line feed at the front of the next text is dropped. -/
  dropBreak : Bool := false
  /-- Content that has no place in a table goes out of it. -/
  fostering : Bool := false
  /-- Text inside a table frame, not yet placed. -/
  tableText : List String := []
  oldLayout : Bool := false

/-- What has to happen once a token has been taken. -/
inductive Verdict where
  | done
  /-- The token is to be taken by other rules. -/
  | again (mode : Mode)
  /-- What follows is read as another kind of text. -/
  | read (mode : TextMode)
  /-- What follows is read as if the page began with it. -/
  | afresh
  deriving DecidableEq, Repr

/-- What a token changes in the reading of what follows it. -/
inductive Outlook where
  | same
  | as (mode : TextMode)
  /-- A byte order mark at its front is dropped, as at the front of the page. -/
  | afresh
  deriving DecidableEq, Repr

/-- How text is read from now on if it was to be read as `mode`. -/
def Outlook.modeFrom : Outlook → TextMode → TextMode
  | .as mode, _ => mode
  | _, mode => mode

/-- The state once a token has been taken, and what has to happen next. -/
abbrev Taken := Builder × Verdict

namespace Builder

def done (b : Builder) : Taken := (b, .done)

/-- Changes the rules and takes the token again. -/
def retake (b : Builder) (mode : Mode) : Taken := (b, .again mode)

def withMode (b : Builder) (mode : Mode) : Builder := { b with mode }

def forbidFrameset (b : Builder) : Builder := { b with framesetOk := false }

def nameOf (b : Builder) (i : NodeId) : QualName :=
  (b.tree.elementName (some i)).getD ⟨.none, ""⟩

/-- The innermost open element. -/
def current? (b : Builder) : Option NodeId := b.stack.head?

def currentIs (b : Builder) (test : QualName → Bool) : Bool :=
  b.current?.any fun i => test (b.nameOf i)

/-- The outermost open element. -/
def root? (b : Builder) : Option NodeId := b.stack.getLast?

/-- The body, if it is the second of the open elements. -/
def body? (b : Builder) : Option NodeId :=
  match b.stack.reverse with
  | _ :: i :: _ => if (b.nameOf i).isHtmlNamed "body" then some i else none
  | _ => none

def isOpen (b : Builder) (i : NodeId) : Bool := b.stack.contains i

def hasOpen (b : Builder) (name : String) : Bool :=
  b.stack.any fun i => (b.nameOf i).isHtmlNamed name

/-- Looks for an open element from the innermost on, no farther than the first that ends the
scope. -/
def inScope (b : Builder) (ends : QualName → Bool) (test : NodeId → Bool) : Bool :=
  search b.stack
where
  search : List NodeId → Bool
  | [] => false
  | i :: rest => test i || (!ends (b.nameOf i) && search rest)

def nameInScope (b : Builder) (ends : QualName → Bool) (name : String) : Bool :=
  b.inScope ends fun i => (b.nameOf i).isHtmlNamed name

/-- Closes elements from the innermost on as long as they pass the test. -/
def closeWhile (b : Builder) (test : QualName → Bool) : Builder :=
  { b with stack := b.stack.dropWhile fun i => test (b.nameOf i) }

/-- Closes elements until the innermost passes the test. -/
def closeUpTo (b : Builder) (test : QualName → Bool) : Builder :=
  b.closeWhile fun n => !test n

def pop (b : Builder) : Builder := { b with stack := b.stack.tail }

def push (b : Builder) (i : NodeId) : Builder := { b with stack := i :: b.stack }

/-- Closes elements up to the first that passes the test, and that one as well. -/
def closeThrough (b : Builder) (test : QualName → Bool) : Builder := (b.closeUpTo test).pop

def closeNamed (b : Builder) (name : String) : Builder := b.closeThrough (·.isHtmlNamed name)

/-- Closes elements that end by themselves, save those with a name. -/
def closeImplied (b : Builder) (keep : Option String) : Builder :=
  b.closeWhile fun n => endsByItself n && some n.name != keep

def closeParagraph (b : Builder) : Builder := (b.closeImplied (some "p")).closeNamed "p"

/-- Ends a paragraph that a block cannot stand in. -/
def closeParagraphInScope (b : Builder) : Builder :=
  if b.nameInScope endsButtonScope "p" then b.closeParagraph else b

/-- Takes an open element out from among the others. -/
def removeOpen (b : Builder) (i : NodeId) : Builder :=
  { b with stack := b.stack.filter fun j => j != i }

/-- The rules that the open elements call for. -/
def modeForStack (b : Builder) : Mode := search b.stack
where
  search : List NodeId → Mode
  | [] => .inBody
  | i :: rest =>
    let n := b.nameOf i
    let isLast := rest.isEmpty
    if n.space != .html then search rest
    else if isCell n && !isLast then .inCell
    else if n.name == "tr" then .inRow
    else if n.isHtmlIn ["tbody", "thead", "tfoot"] then .inTableBody
    else if n.name == "caption" then .inCaption
    else if n.name == "colgroup" then .inColumnGroup
    else if n.name == "table" then .inTable
    else if n.name == "template" then b.templateModes.head?.getD .inBody
    else if n.name == "head" && !isLast then .inHead
    else if n.name == "body" then .inBody
    else if n.name == "frameset" then .inFrameset
    else if n.name == "html" then if b.head.isNone then .beforeHead else .afterHead
    else search rest

def resetMode (b : Builder) : Builder := { b with mode := b.modeForStack }

/-- Drops formatting up to the latest bound, and the bound. -/
def clearFormatting (b : Builder) : Builder :=
  { b with formatting := (b.formatting.dropWhile fun f => f != .bound).tail }

/-- Keeps formatting from crossing into what follows. -/
def boundFormatting (b : Builder) : Builder := { b with formatting := .bound :: b.formatting }

/-- The formatting since the latest bound. -/
def recentFormatting (b : Builder) : List (NodeId × Tag) :=
  b.formatting.takeWhile (fun f => f != .bound) |>.filterMap fun
    | .element i tag => some (i, tag)
    | .bound => none

def removeFormatting (b : Builder) (i : NodeId) : Builder :=
  { b with formatting := b.formatting.filter fun f => f.node? != some i }

def formats (b : Builder) (i : NodeId) : Bool := b.formatting.any fun f => f.node? == some i

end Builder

end CoursePage.Markup
