import CoursePage.Markup.Builder.State

/-!
Putting nodes into the tree. New content goes to the end of the innermost open element. Where
that is the frame of a table and content is put out of it, it goes behind the table instead, or
to the element around the table if the table itself is not in the tree.
-/

namespace CoursePage.Markup.Builder

/-- What is put into the tree. -/
inductive Piece where
  | node (node : NodeId)
  | text (text : String)
  deriving DecidableEq, Repr

/-- Puts a piece behind all children of a node. -/
def Piece.addTo (piece : Piece) (t : Tree) (parent : NodeId) : Tree :=
  match piece with
  | .node i => t.append (some parent) (some i)
  | .text s => t.appendText (some parent) s

/-- Where content goes. -/
inductive Place where
  | inside (parent : NodeId)
  /-- Out of a table; `outer` is the open element around it. -/
  | outOf (table outer : NodeId)
  deriving DecidableEq, Repr

/-- The node that takes the content of a place. -/
def Place.parent (t : Tree) : Place → NodeId
  | .inside parent => parent
  | .outOf table outer => (t.parent (some table)).getD outer

def Place.add (place : Place) (t : Tree) (piece : Piece) : Tree :=
  piece.addTo t (place.parent t)

/-- Where content goes that has no place in a table: out of the innermost table, unless that
stands outside a template. -/
def fosterPlace? (b : Builder) : List NodeId → Option Place
  | [] => none
  | [i] => some (.inside i)
  | i :: outer :: rest =>
    let n := b.nameOf i
    if n.isHtmlNamed "template" then some (.inside i)
    else if n.isHtmlNamed "table" then some (.outOf i outer)
    else b.fosterPlace? (outer :: rest)

/-- Where content goes that is meant for an element. -/
def placeFor (b : Builder) (target : NodeId) : Place :=
  if b.fostering && isTableFrame (b.nameOf target) then
    (b.fosterPlace? b.stack).getD (.inside target)
  else .inside target

def insertInto (b : Builder) (target : NodeId) (piece : Piece) : Builder :=
  { b with tree := (b.placeFor target).add b.tree piece }

/-- Puts a piece where the innermost open element says. -/
def insert (b : Builder) (piece : Piece) : Builder :=
  match b.current? with
  | some target => b.insertInto target piece
  | none => b

def insertText (b : Builder) (text : String) : Builder := b.insert (.text text)

def insertComment (b : Builder) (text : String) : Builder :=
  let (i, t) := b.tree.createComment text
  ({ b with tree := t }).insert (.node i)

/-- Puts a comment at the end of a given node. -/
def addComment (b : Builder) (parent : NodeId) (text : String) : Builder :=
  let (i, t) := b.tree.createComment text
  { b with tree := t.append (some parent) (some i) }

def createElement (b : Builder) (name : QualName) (attrs : List Attribute) : NodeId × Builder :=
  let (i, t) := b.tree.createElement name attrs
  (i, { b with tree := t })

/-- Makes an element, puts it into the tree and leaves it closed. -/
def insertClosed (b : Builder) (name : QualName) (attrs : List Attribute) : NodeId × Builder :=
  let (i, b) := b.createElement name attrs
  (i, b.insert (.node i))

/-- Makes an element, puts it into the tree and opens it. -/
def insertOpen (b : Builder) (name : QualName) (attrs : List Attribute) : NodeId × Builder :=
  let (i, b) := b.insertClosed name attrs
  (i, b.push i)

/-- Opens the HTML element of a tag. -/
def openTag (b : Builder) (tag : Tag) : Builder := (b.insertOpen (.html tag.name) tag.attrs).2

/-- Puts the HTML element of a tag into the tree without opening it. -/
def addTag (b : Builder) (tag : Tag) : Builder := (b.insertClosed (.html tag.name) tag.attrs).2

/-- Opens an HTML element that the page left out. -/
def openImplied (b : Builder) (name : String) : Builder := b.openTag (.plain name)

/-- Adds to an element the attributes that it lacks. -/
def addMissing (b : Builder) (i : NodeId) (attrs : List Attribute) : Builder :=
  { b with
    tree := attrs.foldl (fun t a =>
      if (t.attr? (some i) a.name.name).isSome then t
      else t.setAttr (some i) a.name.name a.value) b.tree }

end CoursePage.Markup.Builder
