import CoursePage.Failure
import CoursePage.Selector.Match
import CoursePage.Selector.Reader

/-!
Selectors that are ready for use, and the elements of a tree that meet them.
-/

namespace CoursePage

/-- A selector with the text that it was read from. -/
structure Selector where
  source : String
  alternatives : List Selector.Complex

namespace Selector

def parse (source : String) : Except Failure Selector :=
  match Reader.readList source with
  | .ok alternatives => .ok ⟨source, alternatives⟩
  | .error reason => .error (.invalidSelector source reason)

/-- A node is an element and meets one of the alternatives. -/
def asks (s : Selector) (t : Tree) (i : NodeId) : StateM IndexCache Bool :=
  if t.isElement (some i) then someHolds t s.alternatives [] i else pure false

/-- The answer for one node, with nothing counted before. -/
def holds (s : Selector) (t : Tree) (i : NodeId) : Bool := (s.asks t i []).1

/-- The nodes in a list that meet a selector. What is counted for one is kept for the next. -/
def sift (s : Selector) (t : Tree) : List NodeId → StateM IndexCache (List NodeId)
  | [] => pure []
  | i :: is => do
    let held ← s.asks t i
    let rest ← s.sift t is
    return if held then i :: rest else rest

/-- The first of them. -/
def seek (s : Selector) (t : Tree) : List NodeId → StateM IndexCache Link
  | [] => pure none
  | i :: is => do if ← s.asks t i then return some i else s.seek t is

section

variable (s : Selector) (t : Tree) (i : NodeId) (is : List NodeId) (cache : IndexCache)

theorem sift_cons : s.sift t (i :: is) cache =
    (if (s.asks t i cache).1 then i :: (s.sift t is (s.asks t i cache).2).1
      else (s.sift t is (s.asks t i cache).2).1, (s.sift t is (s.asks t i cache).2).2) := rfl

theorem seek_cons : s.seek t (i :: is) cache =
    if (s.asks t i cache).1 then (some i, (s.asks t i cache).2)
    else s.seek t is (s.asks t i cache).2 := by
  change (if (s.asks t i cache).1 then pure (some i) else s.seek t is :
    StateM IndexCache Link) (s.asks t i cache).2 = _
  split <;> rfl

theorem seek_eq_head? : (s.seek t is cache).1 = (s.sift t is cache).1.head? := by
  induction is generalizing cache with
  | nil => rfl
  | cons i is ih =>
    rw [seek_cons, sift_cons]
    split
    · rfl
    · exact ih _

/-- Nothing but elements is found, and each one as often as it is asked. -/
theorem sift_sublist : (s.sift t is cache).1.Sublist (is.filter fun i => t.isElement (some i)) := by
  induction is generalizing cache with
  | nil => exact List.Sublist.slnil
  | cons i is ih =>
    rw [sift_cons, List.filter_cons]
    cases he : t.isElement (some i) with
    | false =>
      have ha : s.asks t i cache = (false, cache) := by
        rw [asks, he]
        rfl
      rw [ha]
      exact ih cache
    | true =>
      simp only [if_true]
      split
      · exact (ih _).cons_cons i
      · exact (ih _).cons i

variable {s t}

/-- Where nothing is counted, each node is asked as if it were the only one. -/
theorem sift_eq_filter (h : ∀ i cache, s.asks t i cache = (s.holds t i, cache)) :
    s.sift t is cache = (is.filter (s.holds t), cache) := by
  induction is with
  | nil => rfl
  | cons i is ih => rw [sift_cons, h, ih, List.filter_cons]

end

end Selector

namespace Tree

/-- The attached elements that a selector finds, in document order. -/
def select (t : Tree) (s : Selector) : List NodeId :=
  (s.sift t (t.descendants (some document)) []).1

/-- The first of them. -/
def selectFirst? (t : Tree) (s : Selector) : Link :=
  (s.seek t (t.descendants (some document)) []).1

theorem selectFirst?_eq_head? (t : Tree) (s : Selector) :
    t.selectFirst? s = (t.select s).head? :=
  s.seek_eq_head? t _ []

theorem select_sublist (t : Tree) (s : Selector) :
    (t.select s).Sublist ((t.descendants (some document)).filter fun i => t.isElement (some i)) :=
  s.sift_sublist t _ []

end Tree

end CoursePage
