import CoursePage.Tree.Walk

/-!
Attributes, classes and ids of elements. Every write renews the element's id and class tokens
and lets the element claim its id. Nodes that are no elements have no attributes and ignore writes.
-/

namespace CoursePage

namespace Element

/-- Overwrites the first attribute with a local name, or adds one at the end. -/
def assign (name value : String) : List Attribute → List Attribute
  | [] => [.plain name value]
  | a :: as => if a.name.name == name then { a with value } :: as else a :: assign name value as

end Element

namespace Tree

def attrs (t : Tree) (l : Link) : List Attribute := ((t.element? l).map Element.attrs).getD []
def classes (t : Tree) (l : Link) : List String := ((t.element? l).map Element.classes).getD []
def elementId (t : Tree) (l : Link) : Option String := (t.element? l).bind Element.id
def elementName (t : Tree) (l : Link) : Option QualName := (t.element? l).map Element.name

def attr? (t : Tree) (l : Link) (name : String) : Option String :=
  Element.firstValue? name (t.attrs l)

def hasClass (t : Tree) (l : Link) (token : String) : Bool := (t.classes l).contains token

def setAttr (t : Tree) (l : Link) (name value : String) : Tree :=
  match l, t.element? l with
  | some i, some e =>
    let e := Element.ofAttrs e.name (Element.assign name value e.attrs)
    (t.update l fun n => { n with content := .element e }).claimId e.id i
  | _, _ => t

/-- Adds a class token behind the others unless the element has it. -/
def addClass (t : Tree) (l : Link) (token : String) : Tree :=
  if !t.isElement l || t.hasClass l token then t
  else t.setAttr l "class" (" ".intercalate (t.classes l ++ [token]))

/-- Removes a class token wherever it occurs. The attribute stays, if need be without tokens. -/
def removeClass (t : Tree) (l : Link) (token : String) : Tree :=
  if t.hasClass l token then
    t.setAttr l "class" (" ".intercalate ((t.classes l).filter (fun c => c != token)))
  else t

/-- The node that took an id last, if it still has it and is attached. -/
def getById? (t : Tree) (id : String) : Link :=
  (t.ids.lookup id).filter fun i =>
    t.elementId (some i) == some id && t.isAttached (some i)

end Tree

end CoursePage
