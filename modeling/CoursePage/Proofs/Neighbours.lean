import CoursePage.Proofs.Kin

/-!
The page as its elements see it. Nodes of other kinds are skipped on the way to a neighbour, so two
elements are neighbours if nothing but such nodes is between them, told from either of the two, and
the children that are elements are met from the first one on.
-/

namespace CoursePage

namespace Tree

/-- Both nodes are children of one node, the second one behind the first one, and no element is
between them. -/
def Adjacent (t : Tree) (i j : NodeId) : Prop :=
  ∃ p l m r, t.parent (some i) = some p ∧ t.parent (some j) = some p ∧
    t.children (some p) = l ++ i :: (m ++ j :: r) ∧ ∀ k ∈ m, t.isElement (some k) = false

/-- What the element before or behind a node, the first element and the outer one have to do with
the lists of children. -/
structure ElementView (t : Tree) : Prop where
  /-- The nodes behind a node end, and the first element of them is the next one. -/
  ahead : ∀ i, ∃ is, Trail t.nextSibling (t.nextSibling (some i)) is ∧
    t.nextElement (some i) = is.find? fun j => t.isElement (some j)
  behind : ∀ i, ∃ is, Trail t.prevSibling (t.prevSibling (some i)) is ∧
    t.prevElement (some i) = is.find? fun j => t.isElement (some j)
  /-- From the first element on, going to the next one ends and meets all elements in order. -/
  elements : ∀ p, Trail t.nextElement (t.firstElement (some p))
    ((t.children (some p)).filter fun i => t.isElement (some i))
  outer : ∀ p i, t.parentElement (some i) = some p ↔
    t.isElement (some p) = true ∧ i ∈ t.children (some p)
  next : ∀ i j, t.nextElement (some i) = some j ↔ t.isElement (some j) = true ∧ t.Adjacent i j
  prev : ∀ i j, t.prevElement (some j) = some i ↔ t.isElement (some i) = true ∧ t.Adjacent i j
  /-- Each of two elements is next to the other one or neither is. -/
  inverse : ∀ i j, t.isElement (some i) = true → t.isElement (some j) = true →
    (t.nextElement (some i) = some j ↔ t.prevElement (some j) = some i)

end Tree

namespace Sound

variable {t : Tree} {i j p : NodeId} {l r : List NodeId}

theorem nextElement_eq (h : Sound t) (hs : t.children (some p) = l ++ i :: r) :
    t.nextElement (some i) = r.find? fun j => t.isElement (some j) :=
  Tree.nextElementBy_of_trail (h.trail_nextSibling hs) _ (h.length_around_le hs).2

/-- A node is linked nowhere, or it has a place among the children of another node. -/
theorem loose_or_placed (h : Sound t) (i : NodeId) : t.parent (some i) = none ∨
    ∃ p l r, t.parent (some i) = some p ∧ t.children (some p) = l ++ i :: r := by
  cases hp : t.parent (some i) with
  | none => exact Or.inl rfl
  | some p =>
    obtain ⟨l, r, hs⟩ := List.append_of_mem (h.forest.listed p i hp)
    exact Or.inr ⟨p, l, r, rfl, hs⟩

theorem nextElement_of_loose (h : Sound t) (hi : t.parent (some i) = none) :
    t.nextElement (some i) = none := by
  simp [Tree.nextElement, Tree.nextElementBy, (h.forest.loose i hi).2]

theorem trail_ahead (h : Sound t) (i : NodeId) :
    ∃ is, Trail t.nextSibling (t.nextSibling (some i)) is ∧
      t.nextElement (some i) = is.find? fun j => t.isElement (some j) := by
  obtain hp | ⟨p, l, r, -, hs⟩ := h.loose_or_placed i
  · exact ⟨[], (h.forest.loose i hp).2 ▸ .nil, h.nextElement_of_loose hp⟩
  · exact ⟨r, h.trail_nextSibling hs, h.nextElement_eq hs⟩

theorem trail_behind (h : Sound t) (i : NodeId) :
    ∃ is, Trail t.prevSibling (t.prevSibling (some i)) is ∧
      t.prevElement (some i) = is.find? fun j => t.isElement (some j) := by
  obtain hp | ⟨p, l, r, -, hs⟩ := h.loose_or_placed i
  · exact ⟨[], (h.forest.loose i hp).1 ▸ .nil, (h.kin_of_loose hp).1⟩
  · exact ⟨l.reverse, h.trail_prevSibling hs, h.prevElement_eq hs⟩

/-- If the first child is no element, the first element is the next one behind it. -/
theorem trail_firstElement (h : Sound t) (p : NodeId) :
    Trail t.nextElement (t.firstElement (some p))
      ((t.children (some p)).filter fun i => t.isElement (some i)) := by
  cases hc : t.children (some p) with
  | nil =>
    rw [Tree.firstElement, hc]
    exact .nil
  | cons c cs =>
    have hs : t.children (some p) = [] ++ c :: cs := hc
    have hrest : Trail t.nextElement (t.nextElement (some c))
        (cs.filter fun i => t.isElement (some i)) :=
      Tree.trail_nextElementBy (h.trail_nextSibling hs) _ (h.length_around_le hs).2
    cases he : t.isElement (some c) with
    | true =>
      simp only [Tree.firstElement, hc, List.find?_cons, List.filter_cons, he, if_true]
      exact .cons c _ hrest
    | false =>
      simp only [Tree.firstElement, hc, List.find?_cons, List.filter_cons, he, Bool.false_eq_true,
        if_false]
      rwa [h.nextElement_eq hs] at hrest

theorem parentElement_eq_some_iff (h : Sound t) : t.parentElement (some i) = some p ↔
    t.isElement (some p) = true ∧ i ∈ t.children (some p) := by
  rw [Tree.parentElement, Option.filter_eq_some_iff, and_comm]
  exact and_congr_right fun _ => ⟨h.forest.listed p i, h.forest.parent_of_mem⟩

theorem nextElement_eq_some_iff (h : Sound t) :
    t.nextElement (some i) = some j ↔ t.isElement (some j) = true ∧ t.Adjacent i j := by
  constructor
  · intro hn
    obtain hp | ⟨p, l, r, hp, hs⟩ := h.loose_or_placed i
    · simp [h.nextElement_of_loose hp] at hn
    · rw [h.nextElement_eq hs] at hn
      obtain ⟨hj, m, r, rfl, hm⟩ := List.find?_eq_some_iff_append.mp hn
      have hjp : j ∈ t.children (some p) := by simp [hs]
      exact ⟨hj, p, l, m, r, hp, h.forest.parent_of_mem hjp, hs, by simpa using hm⟩
  · rintro ⟨hj, p, l, m, r, -, -, hs, hm⟩
    rw [h.nextElement_eq hs]
    exact List.find?_eq_some_iff_append.mpr ⟨hj, m, r, rfl, by simpa using hm⟩

theorem prevElement_eq_some_iff (h : Sound t) :
    t.prevElement (some j) = some i ↔ t.isElement (some i) = true ∧ t.Adjacent i j := by
  constructor
  · intro hn
    obtain hp | ⟨p, l, r, hp, hs⟩ := h.loose_or_placed j
    · simp [(h.kin_of_loose hp).1] at hn
    · rw [h.prevElement_eq hs] at hn
      obtain ⟨hi, m, l', hl, hm⟩ := List.find?_eq_some_iff_append.mp hn
      obtain rfl : l = l'.reverse ++ i :: m.reverse := by
        rw [← List.reverse_reverse l, hl]
        simp
      have hip : i ∈ t.children (some p) := by simp [hs]
      exact ⟨hi, p, l'.reverse, m.reverse, r, h.forest.parent_of_mem hip, hp, by simpa using hs,
        by simpa using hm⟩
  · rintro ⟨hi, p, l, m, r, -, -, hs, hm⟩
    have hs' : t.children (some p) = (l ++ i :: m) ++ j :: r := by simpa using hs
    rw [h.prevElement_eq hs']
    exact List.find?_eq_some_iff_append.mpr
      ⟨hi, m.reverse, l.reverse, by simp, by simpa using hm⟩

end Sound

/-- However a page was built, its elements see the same neighbours from both sides. -/
theorem Built.elementView {t : Tree} (h : Built t) : t.ElementView where
  ahead := h.sound.trail_ahead
  behind := h.sound.trail_behind
  elements := h.sound.trail_firstElement
  outer _ _ := h.sound.parentElement_eq_some_iff
  next _ _ := h.sound.nextElement_eq_some_iff
  prev _ _ := h.sound.prevElement_eq_some_iff
  inverse i j hi hj := by
    rw [h.sound.nextElement_eq_some_iff, h.sound.prevElement_eq_some_iff, hi, hj]

/-- A paragraph of texts, a comment and three elements, the second one with a text alone. -/
def gappedParagraph : List Edit :=
  [.createElement (.html "p") [], .append 0 1, .appendText 1 "a", .createElement (.html "i") [],
    .append 1 3, .createComment "b", .append 1 4, .appendText 1 "c",
    .createElement (.html "b") [], .append 1 6, .appendText 6 "d", .createElement (.html "u") [],
    .insertBefore 6 8, .createDoctype "html" "" "", .insertBefore 1 9]

theorem elementView_gappedParagraph :
    LegalRun .empty gappedParagraph ∧
      (gappedParagraph.foldl Edit.run .empty).children (some 1) = [2, 3, 4, 5, 8, 6] ∧
      (gappedParagraph.foldl Edit.run .empty).firstElement (some 1) = some 3 ∧
      (gappedParagraph.foldl Edit.run .empty).nextElement (some 3) = some 8 ∧
      (gappedParagraph.foldl Edit.run .empty).prevElement (some 8) = some 3 ∧
      (gappedParagraph.foldl Edit.run .empty).ElementView := by
  have hl : LegalRun .empty gappedParagraph := by decide +kernel
  exact ⟨hl, by decide +kernel, by decide +kernel, by decide +kernel, by decide +kernel,
    (Built.empty.run hl).elementView⟩

end CoursePage
