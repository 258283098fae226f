import CoursePage.Proofs.Branch
import CoursePage.Proofs.Counting

/-!
Document order and the way up. The walk with a stack lists a branch from the top down, each node
once, and the nodes that it lists below the document are those from which the way up ends there.
The searches therefore find attached nodes in document order, and all that they ask for as long as
no index is counted.
-/

namespace CoursePage

open CoursePage.Tree (document)

/-- The walk with a stack, which no bound on its steps cuts short, ends and visits these nodes. -/
inductive Visits (t : Tree) : List NodeId → List NodeId → Prop where
  | nil : Visits t [] []
  | cons (i : NodeId) (stack visited : List NodeId)
      (rest : Visits t (t.children (some i) ++ stack) visited) :
    Visits t (i :: stack) (i :: visited)

/-- These are the attached nodes that pass a test, each one once and in document order. -/
structure ListsAttached (t : Tree) (test : NodeId → Bool) (listed : List NodeId) : Prop where
  mem : ∀ i, i ∈ listed ↔ t.isAttached (some i) = true ∧ test i = true
  order : listed.Sublist (t.descendants (some document))
  once : listed.Nodup

namespace Sound

variable {t : Tree} {i r : NodeId}

theorem visits (h : Sound t) (stack : List NodeId) : Visits t stack (stack.flatMap t.within) := by
  generalize hn : (stack.flatMap t.within).length = n
  induction n using Nat.strongRecOn generalizing stack with
  | ind n ih =>
    cases stack with
    | nil => exact .nil
    | cons i stack =>
      rw [List.flatMap_cons, h.within_eq] at hn ⊢
      have hs : (t.children (some i)).flatMap t.within ++ stack.flatMap t.within =
          (t.children (some i) ++ stack).flatMap t.within := List.flatMap_append.symm
      rw [List.cons_append, hs] at hn ⊢
      refine .cons i stack _ (ih _ ?_ _ rfl)
      rw [← hn, List.length_cons]
      exact Nat.lt_succ_self _

theorem descendants_eq (h : Sound t) (r : NodeId) :
    t.descendants (some r) = (t.children (some r)).flatMap t.within := by
  have hw := h.within_eq r
  rw [h.within_eq_descendants] at hw
  exact (List.cons.inj hw).2

theorem nodup_cons_descendants (h : Sound t) (r : NodeId) :
    (r :: t.descendants (some r)).Nodup :=
  h.within_eq_descendants r ▸ h.nodup_within r

/-- Only one listing puts each child before what it lists below the child. -/
theorem descendants_unique (h : Sound t) {list : NodeId → List NodeId}
    (hl : ∀ r, list r = (t.children (some r)).flatMap fun c => c :: list c) (r : NodeId) :
    list r = t.descendants (some r) := by
  induction r using h.descend with
  | step r ih =>
    rw [hl, h.descendants_eq, List.flatMap_def, List.flatMap_def]
    refine congrArg List.flatten (List.map_congr_left fun c hc => ?_)
    rw [ih c hc, h.within_eq_descendants]

theorem isAttached_iff_mem_descendants (h : Sound t) :
    t.isAttached (some i) = true ↔ i = document ∨ i ∈ t.descendants (some document) := by
  rw [h.isAttached_iff, h.within_eq_descendants, List.mem_cons]

/-- A filter of the nodes below the document leaves out nothing but the document. -/
theorem listsAttached_filter (h : Sound t) {test : NodeId → Bool} (hd : test document = false) :
    ListsAttached t test ((t.descendants (some document)).filter test) where
  mem i := by
    rw [List.mem_filter, h.isAttached_iff_mem_descendants]
    constructor
    · intro hi
      exact ⟨Or.inr hi.1, hi.2⟩
    · rintro ⟨rfl | hi, ht⟩
      · simp [hd] at ht
      · exact ⟨hi, ht⟩
  order := List.filter_sublist
  once := (List.nodup_cons.mp (h.nodup_cons_descendants document)).2.filter test

end Sound

/-- The way down and the way up agree, and so do the searches with the way up. -/
structure ViewsAgree (t : Tree) : Prop where
  /-- The walk below a node ends. -/
  ends : ∀ r, Visits t (t.children (some r)) (t.descendants (some r))
  /-- It lists every child before the nodes below the child. -/
  listing : ∀ r, t.descendants (some r) =
    (t.children (some r)).flatMap fun c => c :: t.descendants (some c)
  /-- No other listing does. -/
  unique : ∀ list : NodeId → List NodeId,
    (∀ r, list r = (t.children (some r)).flatMap fun c => c :: list c) →
      ∀ r, list r = t.descendants (some r)
  once : ∀ r, (r :: t.descendants (some r)).Nodup
  /-- The way up from a node ends. -/
  up : ∀ i, Trail t.parent (some i) (i :: t.ancestors (some i))
  attached : ∀ i, t.isAttached (some i) = true ↔
    i = document ∨ i ∈ t.descendants (some document)
  /-- A selector that counts nothing finds the elements that meet it. -/
  select : ∀ s : Selector, Selector.allSteady s.alternatives = true →
    ListsAttached t (s.holds t) (t.select s)
  /-- Whatever a selector asks for, it finds attached elements, each one once and in order. -/
  found : ∀ s : Selector, (t.select s).Sublist (t.descendants (some document)) ∧
    (t.select s).Nodup ∧
    ∀ i ∈ t.select s, t.isAttached (some i) = true ∧ t.isElement (some i) = true
  first : ∀ s : Selector, t.selectFirst? s = (t.select s).head?
  /-- Where a compound counts a position, the first attached element that meets what stands before
  the position answers for all of them. -/
  counted : ∀ (source : String) (front back : List Selector.Simple) (p : Selector.Position),
    Selector.conditionsSteady front = true → Selector.conditionsSteady back = true →
    p.isOutermost = false →
      t.select (.ofCompound source (front ++ .position p :: back)) =
        if (t.select (.ofCompound source front)).head?.any
          ((Selector.ofCompound source [.position p]).holds t)
        then (t.select (.ofCompound source front)).filter
          ((Selector.ofCompound source back).holds t)
        else []
  findTags : ∀ tag, ListsAttached t
    (fun i => (t.elementName (some i)).any fun n => n.name == tag) (t.findTags tag)

/-- On a tree that is built by legal edits, all views of the nodes below the document agree. -/
theorem Built.viewsAgree {t : Tree} (h : Built t) : ViewsAgree t where
  ends r := by
    rw [h.sound.descendants_eq]
    exact h.sound.visits _
  listing r := by
    have hw : t.within = fun c => c :: t.descendants (some c) :=
      funext h.sound.within_eq_descendants
    rw [h.sound.descendants_eq, hw]
  unique list hl := h.sound.descendants_unique hl
  once := h.sound.nodup_cons_descendants
  up := h.sound.forest.up
  attached _ := h.sound.isAttached_iff_mem_descendants
  select s hs := by
    rw [t.select_of_allSteady hs]
    refine h.sound.listsAttached_filter ?_
    rw [Selector.holds, Selector.asks, Tree.isElement, h.sound.element?_document]
    rfl
  found s := by
    have hs := t.select_sublist s
    refine ⟨hs.trans List.filter_sublist, h.sound.nodup_select s, fun i hi => ?_⟩
    exact ⟨h.sound.isAttached_of_mem_select hi, (List.mem_filter.mp (hs.subset hi)).2⟩
  first := t.selectFirst?_eq_head?
  counted source _ _ _ hfront hback hp := t.select_counted hfront hback hp source
  findTags tag := by
    have ht : (fun i => (t.get? (some i)).any (Tree.isNamed tag)) =
        fun i => (t.elementName (some i)).any fun n => n.name == tag := by
      funext i
      cases hn : t.get? (some i) with
      | none => simp [Tree.elementName, Tree.element?, hn]
      | some n =>
        cases hc : n.content.element? <;>
          simp [Tree.elementName, Tree.element?, Tree.isNamed, hn, hc]
    rw [Tree.findTags, ht]
    refine h.sound.listsAttached_filter ?_
    simp [Tree.elementName, h.sound.element?_document]

/-- A page with a list in it and a node that was taken out of the list with what is below it. -/
def prunedList : List Edit :=
  [.createElement (.html "ul") [], .append 0 1, .createElement (.html "li") [], .append 1 2,
    .createElement (.html "tt") [], .append 2 3, .createText "x", .append 3 4,
    .createElement (.html "li") [], .append 1 5, .createElement (.html "tt") [], .append 5 6,
    .createElement (.html "tt") [], .insertBefore 2 7, .detach 2]

theorem viewsAgree_prunedList :
    LegalRun .empty prunedList ∧
      (prunedList.foldl Edit.run .empty).descendants (some 0) = [1, 7, 5, 6] ∧
      (prunedList.foldl Edit.run .empty).descendants (some 2) = [3, 4] ∧
      (prunedList.foldl Edit.run .empty).findTags "tt" = [7, 6] ∧
      (prunedList.foldl Edit.run .empty).select ⟨"tt", [.compound [.type "tt"]]⟩ = [7, 6] ∧
      ViewsAgree (prunedList.foldl Edit.run .empty) := by
  have hl : LegalRun .empty prunedList := by decide +kernel
  exact ⟨hl, by decide +kernel, by decide +kernel, by decide +kernel, by decide +kernel,
    (Built.empty.run hl).viewsAgree⟩

/-- A page with two paragraphs in it. -/
def twoParagraphs : List Edit :=
  [.createElement (.html "html") [], .append 0 1, .createElement (.html "head") [], .append 1 2,
    .createElement (.html "body") [], .append 1 3, .createElement (.html "p") [], .append 3 4,
    .createElement (.html "p") [], .append 3 5]

/-- The body and the second paragraph are second children. They are not found, since the index that
was counted for the root is read for them. -/
theorem not_listsAttached_twoParagraphs :
    LegalRun .empty twoParagraphs ∧
      ∃ s, Selector.parse ":nth-child(2)" = .ok s ∧
        (∀ i ∈ [3, 5], (twoParagraphs.foldl Edit.run .empty).isAttached (some i) = true ∧
          s.holds (twoParagraphs.foldl Edit.run .empty) i = true) ∧
        (twoParagraphs.foldl Edit.run .empty).select s = [] ∧
        ¬ ListsAttached (twoParagraphs.foldl Edit.run .empty)
          (s.holds (twoParagraphs.foldl Edit.run .empty))
          ((twoParagraphs.foldl Edit.run .empty).select s) := by
  have hl : LegalRun .empty twoParagraphs := by decide +kernel
  have hp : Selector.parse ":nth-child(2)" =
      .ok ⟨":nth-child(2)", [.compound [.position ⟨.child, true, 0, 2⟩]]⟩ := by
    with_unfolding_all rfl
  have hs : (twoParagraphs.foldl Edit.run .empty).select
      ⟨":nth-child(2)", [.compound [.position ⟨.child, true, 0, 2⟩]]⟩ = [] := by decide +kernel
  refine ⟨hl, _, hp, by decide +kernel, hs, fun h => ?_⟩
  have hm := (h.mem 5).mpr ⟨by decide +kernel, by decide +kernel⟩
  rw [hs] at hm
  cases hm

end CoursePage
