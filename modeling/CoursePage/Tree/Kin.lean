import CoursePage.Text.Ascii
import CoursePage.Tree.Attr

/-!
An element among other elements: its parent, its neighbours and its first child, with all nodes
of other kinds left out. These are what conditions on the place of an element speak of.
-/

namespace CoursePage.Tree

/-- The first element met when going on from a node step by step. -/
def nextElementBy (t : Tree) (step : Link → Link) : Nat → Link → Link
  | 0, _ => none
  | fuel + 1, l =>
    match step l with
    | none => none
    | some i => if t.isElement (some i) then some i else t.nextElementBy step fuel (some i)

def nextElement (t : Tree) (l : Link) : Link := t.nextElementBy t.nextSibling (t.size + 1) l
def prevElement (t : Tree) (l : Link) : Link := t.nextElementBy t.prevSibling (t.size + 1) l

def parentElement (t : Tree) (l : Link) : Link := (t.parent l).filter fun i => t.isElement (some i)

def firstElement (t : Tree) (l : Link) : Link :=
  (t.children l).find? fun i => t.isElement (some i)

/-- The elements met when a step is repeated. -/
def elementsBy (step : Link → Link) : Nat → Link → List NodeId
  | 0, _ => []
  | fuel + 1, l =>
    match step l with
    | none => []
    | some i => i :: elementsBy step fuel (some i)

/-- The elements before an element, nearest first. -/
def earlierElements (t : Tree) (l : Link) : List NodeId := elementsBy t.prevElement (t.size + 1) l

/-- The elements behind an element, nearest first. -/
def laterElements (t : Tree) (l : Link) : List NodeId := elementsBy t.nextElement (t.size + 1) l

/-- The elements around an element, nearest first, up to the first node of another kind. -/
def outerElements (t : Tree) (l : Link) : List NodeId := elementsBy t.parentElement (t.size + 1) l

/-- The parent is the document. -/
def isRoot (t : Tree) (l : Link) : Bool :=
  ((t.get? (t.parent l)).map Node.content) == some .document

/-- Nothing below but blank texts, comments and the like. -/
def isBlankInside (t : Tree) (l : Link) : Bool :=
  (t.children l).all fun i =>
    match (t.get? (some i)).map Node.content with
    | some (.element _) => false
    | some (.text s) => s.toList.all Text.isBlank
    | _ => true

/-- An `a` element with an address. -/
def isLink (t : Tree) (l : Link) : Bool :=
  (t.elementName l).any (fun n => n.name == "a") && (t.attr? l "href").isSome

/-- An element has an id, or a class token, under a rule for the case of letters. -/
def hasIdBy (t : Tree) (rule : Text.CaseRule) (l : Link) (token : String) : Bool :=
  (t.elementId l).any fun id => rule.equal id.toList token.toList

@[inherit_doc hasIdBy]
def hasClassBy (t : Tree) (rule : Text.CaseRule) (l : Link) (token : String) : Bool :=
  (t.classes l).any fun c => rule.equal c.toList token.toList

/-- Both have the same local name. -/
def sameType (t : Tree) (l k : Link) : Bool :=
  (t.elementName l).map QualName.name == (t.elementName k).map QualName.name

end CoursePage.Tree
