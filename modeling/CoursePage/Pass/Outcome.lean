import CoursePage.Failure
import CoursePage.Tree.Attr

/-!
What a pass over a page leaves behind: what it has to say, or why it gave up, and the page. The
page is there in both cases, so that what a pass that gave up did to it can be spoken of.
-/

namespace CoursePage

structure Outcome (α : Type) where
  result : Except Failure α
  tree : Tree

namespace Outcome

/-- A pass that gives up before it has touched the page. -/
def refuse {α : Type} (failure : Failure) (t : Tree) : Outcome α := ⟨.error failure, t⟩

/-- Goes on with the page unless the pass gave up. -/
def andThen {α β : Type} (o : Outcome α) (next : α → Tree → Outcome β) : Outcome β :=
  match o.result with
  | .ok a => next a o.tree
  | .error failure => .refuse failure o.tree

/-- Asks for something that does not depend on the page. -/
def check {α β : Type} (asked : Except Failure α) (t : Tree) (next : α → Outcome β) : Outcome β :=
  match asked with
  | .ok a => next a
  | .error failure => .refuse failure t

end Outcome

end CoursePage
