import CoursePage.Markup.Printer
import CoursePage.Proofs.Place

/-!
The markup of a tree is that of its shape. The loop over a stack of tasks writes the events of one
branch after the other, each element around the events of the branches below it.
-/

namespace CoursePage

open CoursePage.Tree (document Task)
open CoursePage.Markup (Event)

/-- The events of a node around those of the branches below it. -/
def Content.events (inner : List Event) : Content → List Event
  | .document => inner
  | .element e => .start e.name e.attrs :: (inner ++ [.finish e.name])
  | .text s => [.text s]
  | .comment s => [.comment s]
  | .doctype name _ _ => [.doctype name]

namespace Branch

/-- The events of a branch. -/
def events : Branch (Option Content) → List Event
  | node c bs => (c.map (Content.events (all bs))).getD []
where
  all : List (Branch (Option Content)) → List Event
    | [] => []
    | b :: bs => b.events ++ all bs

theorem events.all_eq (bs : List (Branch (Option Content))) :
    events.all bs = bs.flatMap events := by
  induction bs with
  | nil => rfl
  | cons b bs ih => simp [events.all, ih]

theorem events_node (c : Option Content) (bs : List (Branch (Option Content))) :
    (node c bs).events = (c.map (Content.events (bs.flatMap events))).getD [] := by
  rw [events, events.all_eq]

end Branch

namespace Tree

/-- What a task writes, with all that is to be done below it. -/
def Task.events (t : Tree) : Task → List Event
  | .enter i => (t.shapeAt i).events
  | .leave name => [.finish name]

/-- What a task writes at once, and the tasks that it leaves behind. -/
def Task.step (t : Tree) : Task → List Event × List Task
  | .leave name => ([.finish name], [])
  | .enter i =>
    match t.content? (some i) with
    | none => ([], [])
    | some .document => ([], t.enterChildren (some i))
    | some (.element e) => ([.start e.name e.attrs], t.enterChildren (some i) ++ [.leave e.name])
    | some (.text s) => ([.text s], [])
    | some (.comment s) => ([.comment s], [])
    | some (.doctype name _ _) => ([.doctype name], [])

theorem perform_succ (t : Tree) (n : Nat) (task : Task) (tasks : List Task) :
    t.perform (n + 1) (task :: tasks) =
      (task.step t).1 ++ t.perform n ((task.step t).2 ++ tasks) := by
  cases task with
  | leave name => rfl
  | enter i =>
    have hc : (t.get? (some i)).map Node.content = t.content? (some i) := rfl
    rw [perform, Task.step, hc]
    cases t.content? (some i) with
    | none => rfl
    | some c => cases c <;> simp

/-- Steps that suffice for a task. -/
def Task.cost (t : Tree) : Task → Nat
  | .enter i => 2 * (t.within i).length
  | .leave _ => 1

/-- Steps that suffice for all tasks of a stack. -/
def Task.total (t : Tree) : List Task → Nat
  | [] => 0
  | task :: tasks => task.cost t + total t tasks

theorem Task.total_append (t : Tree) (tasks tasks' : List Task) :
    total t (tasks ++ tasks') = total t tasks + total t tasks' := by
  induction tasks with
  | nil => exact (Nat.zero_add _).symm
  | cons task tasks ih => rw [List.cons_append, total, total, ih, Nat.add_assoc]

theorem Task.total_enter (t : Tree) (is : List NodeId) :
    total t (is.map Task.enter) = 2 * (is.flatMap t.within).length := by
  induction is with
  | nil => rfl
  | cons i is ih =>
    rw [List.map_cons, total, ih, List.flatMap_cons, List.length_append, Nat.mul_add]
    rfl

theorem Task.flatMap_enter (t : Tree) (is : List NodeId) :
    (is.map Task.enter).flatMap (Task.events t) = is.flatMap fun i => (t.shapeAt i).events := by
  rw [List.flatMap_map]
  rfl

end Tree

namespace Sound

variable {t : Tree} {i : NodeId} {tasks : List Task}

theorem events_shapeAt (h : Sound t) (i : NodeId) : (t.shapeAt i).events =
    ((t.content? (some i)).map
      (Content.events ((t.children (some i)).flatMap fun c => (t.shapeAt c).events))).getD [] := by
  rw [h.shapeAt_eq, Branch.events_node, List.flatMap_map]

/-- Entering a node costs more than what is to be done below it. -/
theorem cost_enter (h : Sound t) (i : NodeId) :
    Task.cost t (.enter i) = 2 + Task.total t (t.enterChildren (some i)) := by
  rw [Task.cost, Tree.enterChildren, Task.total_enter, h.within_eq, List.length_cons]
  omega

/-- A task writes what it writes at once and what the tasks write that it leaves behind. -/
theorem events_step (h : Sound t) (task : Task) :
    task.events t = (task.step t).1 ++ (task.step t).2.flatMap (Task.events t) := by
  cases task with
  | leave name => rfl
  | enter i =>
    have hinner : (t.enterChildren (some i)).flatMap (Task.events t) =
        (t.children (some i)).flatMap fun c => (t.shapeAt c).events := Task.flatMap_enter t _
    rw [Task.events, Task.step, h.events_shapeAt]
    cases t.content? (some i) with
    | none => rfl
    | some c => cases c <;> simp [Content.events, Task.events, hinner]

/-- The tasks that a task leaves behind take fewer steps than the task. -/
theorem total_step_lt (h : Sound t) (task : Task) :
    Task.total t (task.step t).2 < task.cost t := by
  cases task with
  | leave name => exact Nat.zero_lt_one
  | enter i =>
    rw [h.cost_enter, Task.step]
    cases t.content? (some i) with
    | none =>
      simp only [Task.total]
      omega
    | some c =>
      cases c with
      | element e =>
        simp only [Task.total_append, Task.total, Task.cost]
        omega
      | document => exact Nat.lt_add_of_pos_left Nat.two_pos
      | _ =>
        simp only [Task.total]
        omega

/-- The loop over a stack of tasks works all of them off, if it may take enough steps. -/
theorem perform_eq (h : Sound t) {n : Nat} (hn : Task.total t tasks ≤ n) :
    t.perform n tasks = tasks.flatMap (Task.events t) := by
  induction n generalizing tasks with
  | zero =>
    cases tasks with
    | nil => rfl
    | cons task tasks =>
      have := h.total_step_lt task
      rw [Task.total] at hn
      omega
  | succ n ih =>
    cases tasks with
    | nil => rfl
    | cons task tasks =>
      have hlt := h.total_step_lt task
      rw [Task.total] at hn
      have hrest : Task.total t ((task.step t).2 ++ tasks) ≤ n := by
        rw [Task.total_append]
        omega
      rw [Tree.perform_succ, ih hrest, List.flatMap_append, List.flatMap_cons, h.events_step,
        List.append_assoc]

theorem innerEvents_eq (h : Sound t) (i : NodeId) : t.innerEvents (some i) =
    (t.children (some i)).flatMap fun c => (t.shapeAt c).events := by
  rw [Tree.innerEvents, h.perform_eq, Tree.enterChildren, Task.flatMap_enter]
  rw [Tree.enterChildren, Task.total_enter, Tree.taskLimit]
  have := h.length_below_le i
  omega

/-- The markup of a page depends on its shape only. -/
theorem toHtml_eq (h : Sound t) : t.toHtml = Markup.render t.shape.events := by
  have hs : t.shape.events = t.innerEvents (some document) := by
    rw [h.innerEvents_eq]
    exact (h.events_shapeAt document).trans (by rw [h.top]; rfl)
  rw [Tree.toHtml, Tree.innerHtml, hs]

end Sound

end CoursePage
