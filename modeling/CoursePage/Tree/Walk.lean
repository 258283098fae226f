import CoursePage.Tree.Link

/-!
Walks over the tree: all nodes below one in document order, the way up to the document, and the
searches built from them.
-/

namespace CoursePage.Tree

/-- Visits a stack of nodes, each followed by the nodes below it. -/
def walk (t : Tree) : Nat → List NodeId → List NodeId
  | 0, _ => []
  | _, [] => []
  | fuel + 1, i :: stack => i :: t.walk fuel (t.children (some i) ++ stack)

/-- The nodes below `root` in document order, without `root` itself. -/
def descendants (t : Tree) (root : Link) : List NodeId :=
  t.walk (2 * (t.size + 1)) (t.children root)

/-- The document is met on the way up from `l`. -/
def reachesDocument (t : Tree) : Nat → Link → Bool
  | 0, _ => false
  | fuel + 1, l =>
    match t.get? l with
    | none => false
    | some n => l == some document || t.reachesDocument fuel n.parent

def isAttached (t : Tree) (l : Link) : Bool := t.reachesDocument (t.size + 1) l

/-- The nodes met on the way up from `l`, nearest first, without `l` itself. -/
def ancestorsFrom (t : Tree) : Nat → Link → List NodeId
  | 0, _ => []
  | fuel + 1, l =>
    match t.parent l with
    | none => []
    | some p => p :: t.ancestorsFrom fuel (some p)

def ancestors (t : Tree) (l : Link) : List NodeId := t.ancestorsFrom (t.size + 1) l

/-- The first attached node that passes a test. -/
def find? (t : Tree) (test : Node → Bool) : Link :=
  (t.descendants (some document)).find? fun i => (t.get? (some i)).any test

def isNamed (name : String) (n : Node) : Bool :=
  n.content.element?.any fun e => e.name.name == name

def findTag? (t : Tree) (tag : String) : Link := t.find? (isNamed tag)

/-- All attached elements with a local name, in document order. -/
def findTags (t : Tree) (tag : String) : List NodeId :=
  (t.descendants (some document)).filter fun i => (t.get? (some i)).any (isNamed tag)

end CoursePage.Tree
