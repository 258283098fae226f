import CoursePage.Proofs.Branch

/-!
The elements around an element. The loops that skip nodes of other kinds list what a filter leaves
of the children before and behind an element, and of the nodes around it.
-/

namespace CoursePage

namespace Tree

variable {t : Tree} {step : Link → Link} {k : Link} {is : List NodeId}

/-- With enough steps the loop over elements meets exactly the nodes of the walk. -/
theorem elementsBy_of_trail (h : Trail step (step k) is) (n : Nat) (hn : is.length ≤ n) :
    elementsBy step n k = is := by
  induction n generalizing k is with
  | zero => simpa [elementsBy, eq_comm] using hn
  | succ n ih =>
    cases hs : step k with
    | none =>
      rw [hs] at h
      cases h
      simp [elementsBy, hs]
    | some i =>
      rw [hs] at h
      cases h with
      | cons _ js rest => simp [elementsBy, hs, ih rest (by simpa using hn)]

/-- With enough steps the search for an element finds the first one on the walk. -/
theorem nextElementBy_of_trail (h : Trail step (step k) is) (n : Nat) (hn : is.length < n) :
    t.nextElementBy step n k = is.find? fun i => t.isElement (some i) := by
  induction n generalizing k is with
  | zero => simp at hn
  | succ n ih =>
    cases hs : step k with
    | none =>
      rw [hs] at h
      cases h
      simp [nextElementBy, hs]
    | some i =>
      rw [hs] at h
      cases h with
      | cons _ js rest =>
        have hr := ih rest (by simpa using hn)
        by_cases he : t.isElement (some i) = true <;> simp [nextElementBy, hs, hr, he]

/-- Going on from element to element meets the elements of the walk. -/
theorem trail_nextElementBy (h : Trail step (step k) is) (n : Nat) (hn : is.length < n) :
    Trail (t.nextElementBy step n) (t.nextElementBy step n k)
      (is.filter fun i => t.isElement (some i)) := by
  induction is generalizing k with
  | nil =>
    rw [nextElementBy_of_trail h n hn]
    exact .nil
  | cons j js ih =>
    rw [nextElementBy_of_trail h n hn]
    generalize step k = l at h
    cases h with
    | cons _ _ rest =>
      have hjs : js.length < n := Nat.lt_of_succ_lt hn
      have hr := ih rest hjs
      cases he : t.isElement (some j) with
      | true =>
        simp only [List.find?_cons, List.filter_cons, he, if_true]
        exact .cons j _ hr
      | false =>
        simp only [List.find?_cons, List.filter_cons, he, Bool.false_eq_true, if_false]
        rwa [← nextElementBy_of_trail rest n hjs]

/-- No element is met by repeating a step that does not lead to one at once. -/
theorem isEmpty_elementsBy (step : Link → Link) (n : Nat) (l : Link) :
    (elementsBy step (n + 1) l).isEmpty = (step l).isNone := by
  rw [elementsBy]
  cases step l <;> rfl

end Tree

namespace Sound

variable {t : Tree} {i p : NodeId} {l r : List NodeId}

theorem trail_nextSibling (h : Sound t) (hs : t.children (some p) = l ++ i :: r) :
    Trail t.nextSibling (t.nextSibling (some i)) r := by
  rw [(h.forest.placed p l i r hs).2.2]
  exact h.forest.trail_from (l := l ++ [i]) (by simpa using hs)

theorem trail_prevSibling (h : Sound t) (hs : t.children (some p) = l ++ i :: r) :
    Trail t.prevSibling (t.prevSibling (some i)) l.reverse := by
  rw [(h.forest.placed p l i r hs).2.1]
  exact h.forest.trail_back hs

/-- Siblings on either side of a child are fewer than the loops have steps. -/
theorem length_around_le (h : Sound t) (hs : t.children (some p) = l ++ i :: r) :
    l.reverse.length < t.size + 1 ∧ r.length < t.size + 1 := by
  have hn := (h.forest.trail_next p).length_le fun _ hc => h.forest.lt_size_of_mem hc
  rw [hs, List.length_append, List.length_cons] at hn
  rw [List.length_reverse]
  omega

theorem prevElement_eq (h : Sound t) (hs : t.children (some p) = l ++ i :: r) :
    t.prevElement (some i) = l.reverse.find? fun j => t.isElement (some j) :=
  Tree.nextElementBy_of_trail (h.trail_prevSibling hs) _ (h.length_around_le hs).1

theorem laterElements_eq (h : Sound t) (hs : t.children (some p) = l ++ i :: r) :
    t.laterElements (some i) = r.filter fun j => t.isElement (some j) := by
  have hr := (h.length_around_le hs).2
  refine Tree.elementsBy_of_trail (Tree.trail_nextElementBy (h.trail_nextSibling hs) _ hr) _ ?_
  exact Nat.le_trans (List.length_filter_le _ _) (Nat.le_of_lt hr)

theorem earlierElements_eq (h : Sound t) (hs : t.children (some p) = l ++ i :: r) :
    t.earlierElements (some i) = l.reverse.filter fun j => t.isElement (some j) := by
  have hl := (h.length_around_le hs).1
  refine Tree.elementsBy_of_trail (Tree.trail_nextElementBy (h.trail_prevSibling hs) _ hl) _ ?_
  exact Nat.le_trans (List.length_filter_le _ _) (Nat.le_of_lt hl)

/-- Going outwards from element to element meets the ancestors up to one that is no element. -/
theorem trail_parentElement (h : Sound t) (i : NodeId) :
    Trail t.parentElement (t.parentElement (some i))
      ((t.ancestors (some i)).takeWhile fun j => t.isElement (some j)) := by
  generalize hi : t.ancestors (some i) = is
  induction is generalizing i with
  | nil =>
    cases hp : t.parent (some i) with
    | none =>
      simp only [Tree.parentElement, hp]
      exact .nil
    | some p => simp [h.forest.ancestors_of_parent hp] at hi
  | cons q qs ih =>
    cases hp : t.parent (some i) with
    | none => simp [h.ancestors_of_loose hp] at hi
    | some p =>
      rw [h.forest.ancestors_of_parent hp] at hi
      obtain ⟨rfl, hq⟩ := List.cons.inj hi
      cases he : t.isElement (some p) with
      | true =>
        simp only [Tree.parentElement, hp, Option.filter_some, List.takeWhile_cons, he, if_true]
        exact .cons p _ (ih p hq)
      | false =>
        simp only [Tree.parentElement, hp, Option.filter_some, List.takeWhile_cons, he,
          Bool.false_eq_true, if_false]
        exact .nil

theorem outerElements_eq (h : Sound t) (hi : i < t.size) :
    t.outerElements (some i) =
      (t.ancestors (some i)).takeWhile fun j => t.isElement (some j) := by
  refine Tree.elementsBy_of_trail (h.trail_parentElement i) _ ?_
  have hlt := h.length_ancestors_lt hi
  have hle := (List.takeWhile_sublist (l := t.ancestors (some i))
    fun j => t.isElement (some j)).length_le
  omega

/-- A node that is linked nowhere has no elements around it. -/
theorem kin_of_loose (h : Sound t) (hi : t.parent (some i) = none) :
    t.prevElement (some i) = none ∧ t.earlierElements (some i) = [] ∧
      t.laterElements (some i) = [] := by
  obtain ⟨hp, hn⟩ := h.forest.loose i hi
  have hpe : t.prevElement (some i) = none := by
    simp [Tree.prevElement, Tree.nextElementBy, hp]
  have hne : t.nextElement (some i) = none := by
    simp [Tree.nextElement, Tree.nextElementBy, hn]
  simp [Tree.earlierElements, Tree.laterElements, Tree.elementsBy, hpe, hne]

end Sound

end CoursePage
