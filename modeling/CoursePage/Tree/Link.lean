import CoursePage.Tree.Basic

/-!
Linking and unlinking nodes. A node is linked below a parent only while it is linked nowhere.
A reference to no node is passed on as it is: the links that would name the node then name none.
-/

namespace CoursePage.Tree

/-- Adds `child` behind the last child of `parent`. -/
def append (t : Tree) (parent child : Link) : Tree :=
  let last := t.lastChild parent
  let t := t.update child fun n =>
    { n with parent := parent, prevSibling := last, nextSibling := none }
  let t := t.update last fun n => { n with nextSibling := child }
  t.update parent fun n =>
    { n with firstChild := if n.firstChild.isNone then child else n.firstChild, lastChild := child }

/-- Puts `node` directly before `sibling`. -/
def insertBefore (t : Tree) (sibling node : Link) : Tree :=
  let parent := t.parent sibling
  let prev := t.prevSibling sibling
  let t := t.update node fun n =>
    { n with parent := parent, prevSibling := prev, nextSibling := sibling }
  let t := t.update sibling fun n => { n with prevSibling := node }
  if prev.isSome then t.update prev fun n => { n with nextSibling := node }
  else t.update parent fun n => { n with firstChild := node }

/-- Adds text at the end of `parent`: to its last child if that is a text, else as a new node. -/
def appendText (t : Tree) (parent : Link) (text : String) : Tree :=
  let last := t.lastChild parent
  match t.text? last with
  | some old => t.update last fun n => { n with content := .text (old ++ text) }
  | none =>
    let (i, t) := t.createText text
    t.append parent (some i)

/-- Unlinks a node with all that is below it. The node stays in the store. -/
def detach (t : Tree) (target : Link) : Tree :=
  match t.get? target with
  | none => t
  | some node =>
    let t :=
      if node.prevSibling.isSome then
        t.update node.prevSibling fun n => { n with nextSibling := node.nextSibling }
      else t.update node.parent fun n => { n with firstChild := node.nextSibling }
    let t :=
      if node.nextSibling.isSome then
        t.update node.nextSibling fun n => { n with prevSibling := node.prevSibling }
      else t.update node.parent fun n => { n with lastChild := node.prevSibling }
    t.update target fun n => { n with parent := none, prevSibling := none, nextSibling := none }

/-- Puts `node` into the place of `old`, which is unlinked. An `old` without a parent has no
place, and nothing happens. -/
def replace (t : Tree) (old node : Link) : Tree :=
  if (t.parent old).isNone then t
  else ((t.detach node).insertBefore old node).detach old

/-- The nodes from `l` on, along the links to the next sibling. -/
def siblingsFrom (t : Tree) : Nat → Link → List NodeId
  | 0, _ => []
  | _ + 1, none => []
  | fuel + 1, some i => i :: t.siblingsFrom fuel (t.nextSibling (some i))

/-- The children of a node in their order. -/
def children (t : Tree) (parent : Link) : List NodeId :=
  t.siblingsFrom (t.size + 1) (t.firstChild parent)

/-- Moves every child of `source` to the end of `target`. -/
def moveChildren (t : Tree) (source target : Link) : Tree :=
  (t.children source).foldl (fun t child => (t.detach (some child)).append target (some child)) t

end CoursePage.Tree
