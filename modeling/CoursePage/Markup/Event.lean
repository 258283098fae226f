import CoursePage.Tree.Walk

/-!
A tree as a sequence of events, which is what a writer of markup sees: the start and the end of
each element around the events of its children, and one event for every other node.
-/

namespace CoursePage

namespace Markup

inductive Event where
  | start (name : QualName) (attrs : List Attribute)
  | finish (name : QualName)
  | text (text : String)
  | comment (text : String)
  | doctype (name : String)
  deriving DecidableEq, Repr

end Markup

namespace Tree

open Markup (Event)

/-- What is left to do while a tree is put into events. -/
inductive Task where
  | enter (node : NodeId)
  | leave (name : QualName)
  deriving DecidableEq, Repr

/-- The tasks for the children of a node. -/
def enterChildren (t : Tree) (l : Link) : List Task := (t.children l).map .enter

/-- Works a stack of tasks off. -/
def perform (t : Tree) : Nat → List Task → List Event
  | 0, _ => []
  | _, [] => []
  | fuel + 1, .leave name :: tasks => .finish name :: t.perform fuel tasks
  | fuel + 1, .enter i :: tasks =>
    match (t.get? (some i)).map Node.content with
    | none => t.perform fuel tasks
    | some (.element e) =>
      .start e.name e.attrs :: t.perform fuel (t.enterChildren (some i) ++ .leave e.name :: tasks)
    | some .document => t.perform fuel (t.enterChildren (some i) ++ tasks)
    | some (.text s) => .text s :: t.perform fuel tasks
    | some (.comment s) => .comment s :: t.perform fuel tasks
    | some (.doctype name _ _) => .doctype name :: t.perform fuel tasks

/-- Enough steps to enter and leave every node once. -/
def taskLimit (t : Tree) : Nat := 4 * (t.size + 1)

/-- The events of a node and all below it. -/
def outerEvents (t : Tree) (i : NodeId) : List Event := t.perform t.taskLimit [.enter i]

/-- The events of all nodes below a node. -/
def innerEvents (t : Tree) (l : Link) : List Event := t.perform t.taskLimit (t.enterChildren l)

end Tree

end CoursePage
