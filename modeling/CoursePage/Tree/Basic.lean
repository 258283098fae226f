import CoursePage.Name
import CoursePage.Text.Blank

/-!
The page tree: a store of nodes that are numbered in the order of their creation and tied
together by five links each. A node is never freed, so a number stays good for as long as the
tree is used. An index remembers for each id the node that took it last.
-/

namespace CoursePage

/-- The place of a node in the store. -/
abbrev NodeId := Nat

/-- A reference to a node, or to none. -/
abbrev Link := Option NodeId

/-- What an element carries. Its id and class tokens are kept beside the attributes that
give them. -/
structure Element where
  name : QualName
  attrs : List Attribute
  id : Option String
  classes : List String
  deriving DecidableEq, Repr

namespace Element

/-- The value of the last attribute with a local name. -/
def lastValue? (name : String) (attrs : List Attribute) : Option String :=
  (attrs.reverse.find? (fun a => a.name.name == name)).map Attribute.value

/-- The value of the first attribute with a local name. -/
def firstValue? (name : String) (attrs : List Attribute) : Option String :=
  (attrs.find? (fun a => a.name.name == name)).map Attribute.value

/-- The class tokens that a list of attributes gives: the last `class` counts. -/
def classTokens (attrs : List Attribute) : List String :=
  match lastValue? "class" attrs with
  | some value => Text.blankWords value
  | none => []

/-- An element whose id and classes agree with its attributes. -/
def ofAttrs (name : QualName) (attrs : List Attribute) : Element where
  name
  attrs
  id := lastValue? "id" attrs
  classes := classTokens attrs

end Element

inductive Content where
  | document
  | element (element : Element)
  | text (text : String)
  | comment (text : String)
  | doctype (name publicId systemId : String)
  deriving DecidableEq, Repr

def Content.element? : Content → Option Element
  | .element e => some e
  | _ => none

def Content.text? : Content → Option String
  | .text s => some s
  | _ => none

structure Node where
  content : Content
  parent : Link := none
  firstChild : Link := none
  lastChild : Link := none
  prevSibling : Link := none
  nextSibling : Link := none
  deriving DecidableEq, Repr

structure Tree where
  nodes : Array Node
  /-- Each id with the node that took it last. -/
  ids : List (String × NodeId)
  deriving DecidableEq, Repr

namespace Tree

/-- The document is the first node of every tree. -/
def document : NodeId := 0

/-- A tree that holds the document alone. -/
def empty : Tree where
  nodes := #[⟨.document, none, none, none, none, none⟩]
  ids := []

def size (t : Tree) : Nat := t.nodes.size

def get? (t : Tree) (l : Link) : Option Node := l.bind (fun i => t.nodes[i]?)

/-- Changes the node that a link names, if there is one. -/
def update (t : Tree) (l : Link) (f : Node → Node) : Tree :=
  match l with
  | none => t
  | some i => { t with nodes := t.nodes.modify i f }

def parent (t : Tree) (l : Link) : Link := (t.get? l).bind Node.parent
def firstChild (t : Tree) (l : Link) : Link := (t.get? l).bind Node.firstChild
def lastChild (t : Tree) (l : Link) : Link := (t.get? l).bind Node.lastChild
def prevSibling (t : Tree) (l : Link) : Link := (t.get? l).bind Node.prevSibling
def nextSibling (t : Tree) (l : Link) : Link := (t.get? l).bind Node.nextSibling

/-- The element that a link names. -/
def element? (t : Tree) (l : Link) : Option Element :=
  (t.get? l).bind (fun n => n.content.element?)

/-- The text of the text node that a link names. -/
def text? (t : Tree) (l : Link) : Option String :=
  (t.get? l).bind (fun n => n.content.text?)

def isElement (t : Tree) (l : Link) : Bool := (t.element? l).isSome
def isText (t : Tree) (l : Link) : Bool := (t.text? l).isSome

/-- Adds an unlinked node behind all others. -/
def create (t : Tree) (content : Content) : NodeId × Tree :=
  (t.size, { t with nodes := t.nodes.push { content } })

/-- Lets `node` hold an id from now on. -/
def claimId (t : Tree) (id : Option String) (node : NodeId) : Tree :=
  match id with
  | none => t
  | some s => { t with ids := (s, node) :: t.ids.filter (fun p => p.1 != s) }

def createElement (t : Tree) (name : QualName) (attrs : List Attribute) : NodeId × Tree :=
  let e := Element.ofAttrs name attrs
  let (i, t) := t.create (.element e)
  (i, t.claimId e.id i)

def createText (t : Tree) (text : String) : NodeId × Tree := t.create (.text text)
def createComment (t : Tree) (text : String) : NodeId × Tree := t.create (.comment text)

def createDoctype (t : Tree) (name publicId systemId : String) : NodeId × Tree :=
  t.create (.doctype name publicId systemId)

@[simp] theorem get?_none (t : Tree) : t.get? none = none := rfl

theorem get?_update (t : Tree) (l k : Link) (f : Node → Node) :
    (t.update l f).get? k = if k = l then (t.get? k).map f else t.get? k := by
  cases l with
  | none => cases k <;> simp [update, get?]
  | some i =>
    cases k with
    | none => simp [get?]
    | some j =>
      simp only [update, get?, Option.bind_some, Array.getElem?_modify, Option.some.injEq]
      by_cases h : i = j
      · simp [h]
      · simp [h, Ne.symm h]

@[simp] theorem size_update (t : Tree) (l : Link) (f : Node → Node) :
    (t.update l f).size = t.size := by
  cases l <;> simp [update, size]

theorem get?_create (t : Tree) (content : Content) (k : Link) :
    (t.create content).2.get? k = if k = some t.size then some { content } else t.get? k := by
  cases k with
  | none => simp [get?]
  | some j =>
    simp only [create, get?, size, Option.bind_some, Array.getElem?_push, Option.some.injEq]

end Tree

end CoursePage
