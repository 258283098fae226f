import CoursePage.Proofs.Built
import CoursePage.Selector.Query

/-!
The links of a sound tree as nested data: every node with what it holds and the branches below it.
The listings of the library are the listings of these branches from the top down.
-/

namespace CoursePage

open CoursePage.Tree (document)

/-- A node with the branches below it, in their order. -/
inductive Branch (α : Type) where
  | node (here : α) (below : List (Branch α))

namespace Branch

variable {α β γ : Type}

/-- Changes what stands at every node and keeps the shape. -/
def map (f : α → β) : Branch α → Branch β
  | node a bs => node (f a) (all bs)
where
  all : List (Branch α) → List (Branch β)
    | [] => []
    | b :: bs => b.map f :: all bs

theorem map.all_eq (f : α → β) (bs : List (Branch α)) : map.all f bs = bs.map (map f) := by
  induction bs with
  | nil => rfl
  | cons b bs ih => simp [map.all, ih]

@[simp] theorem map_node (f : α → β) (a : α) (bs : List (Branch α)) :
    (node a bs).map f = node (f a) (bs.map (map f)) := by
  rw [map, map.all_eq]

/-- What stands at the nodes, each one before what is below it. -/
def preorder : Branch α → List α
  | node a bs => a :: all bs
where
  all : List (Branch α) → List α
    | [] => []
    | b :: bs => b.preorder ++ all bs

theorem preorder.all_eq (bs : List (Branch α)) : preorder.all bs = bs.flatMap preorder := by
  induction bs with
  | nil => rfl
  | cons b bs ih => simp [preorder.all, ih]

@[simp] theorem preorder_node (a : α) (bs : List (Branch α)) :
    (node a bs).preorder = a :: bs.flatMap preorder := by
  rw [preorder, preorder.all_eq]

end Branch

namespace Tree

variable (t : Tree)

def branchTo : Nat → NodeId → Branch (NodeId × Option Content)
  | 0, i => .node (i, t.content? (some i)) []
  | depth + 1, i => .node (i, t.content? (some i)) ((t.children (some i)).map (branchTo depth))

/-- The branch at a node. Nothing is deeper than the tree is large. -/
def branch (i : NodeId) : Branch (NodeId × Option Content) := t.branchTo t.size i

/-- The attached tree: the branch at the document. -/
def page : Branch (NodeId × Option Content) := t.branch document

/-- A node and all nodes below it, each one before those below it. -/
def within (i : NodeId) : List NodeId := (t.branch i).preorder.map Prod.fst

end Tree

/-- A text that finds these nodes can be read as a selector. -/
theorem Selector.parse_of_select {t : Tree} {text : String} {found : List NodeId}
    (h : (Selector.parse text).toOption.map t.select = some found) :
    ∃ s, Selector.parse text = .ok s ∧ t.select s = found := by
  cases hp : Selector.parse text with
  | error failure => simp [hp, Except.toOption] at h
  | ok s => exact ⟨s, rfl, by simpa [hp, Except.toOption] using h⟩

namespace Sound

variable {t : Tree} {i c x : NodeId}

theorem ancestors_of_mem (h : Sound t) (hc : c ∈ t.children (some i)) :
    t.ancestors (some c) = i :: t.ancestors (some i) :=
  h.forest.ancestors_of_parent (h.forest.parent_of_mem hc)

theorem ancestors_of_loose (h : Sound t) (hi : t.parent (some i) = none) :
    t.ancestors (some i) = [] := by
  cases h.forest.up i with
  | cons _ _ rest => exact (hi ▸ rest).unique .nil

theorem length_ancestors_lt (h : Sound t) (hi : i < t.size) :
    (t.ancestors (some i)).length < t.size := by
  exact Nat.lt_of_succ_le
    ((h.forest.up i).length_le fun j hj => h.forest.lt_size_of_mem_up hi hj)

theorem children_eq_nil_of_size_le (h : Sound t) (hi : t.size ≤ i) :
    t.children (some i) = [] :=
  List.eq_nil_iff_forall_not_mem.mpr fun _ hc =>
    Nat.not_lt.mpr hi (h.forest.parent_lt_size hc)

theorem branchTo_succ (h : Sound t) {depth : Nat}
    (hd : t.size ≤ depth + (t.ancestors (some i)).length) :
    t.branchTo (depth + 1) i = t.branchTo depth i := by
  induction depth generalizing i with
  | zero =>
    have hk : t.children (some i) = [] := by
      apply List.eq_nil_iff_forall_not_mem.mpr
      intro c hc
      have := h.length_ancestors_lt (h.forest.lt_size_of_mem hc)
      rw [h.ancestors_of_mem hc] at this
      simp at this
      omega
    simp [Tree.branchTo, hk]
  | succ depth ih =>
    rw [Tree.branchTo, Tree.branchTo, List.map_congr_left]
    intro c hc
    refine ih ?_
    rw [h.ancestors_of_mem hc]
    simp
    omega

theorem branchTo_eq_branch (h : Sound t) {depth : Nat} (hd : t.size ≤ depth) :
    t.branchTo depth i = t.branch i := by
  obtain ⟨n, rfl⟩ := Nat.exists_eq_add_of_le hd
  induction n with
  | zero => rfl
  | succ n ih => rw [← Nat.add_assoc, h.branchTo_succ (by omega), ih (Nat.le_add_right _ _)]

/-- A branch consists of its node and the branches at the children. -/
theorem branch_eq (h : Sound t) (i : NodeId) :
    t.branch i = .node (i, t.content? (some i)) ((t.children (some i)).map t.branch) := by
  rw [← h.branchTo_eq_branch (Nat.le_succ t.size), Tree.branchTo]
  rfl

theorem within_eq (h : Sound t) (i : NodeId) :
    t.within i = i :: (t.children (some i)).flatMap t.within := by
  rw [Tree.within, h.branch_eq, Branch.preorder_node]
  simp only [List.flatMap_map, List.map_cons, List.map_flatMap]
  rfl

/-- What passes from all children to their parent holds of every node. -/
theorem descend {P : NodeId → Prop} (h : Sound t)
    (step : ∀ i, (∀ c ∈ t.children (some i), P c) → P i) (i : NodeId) : P i := by
  generalize hd : t.size - (t.ancestors (some i)).length = depth
  induction depth using Nat.strongRecOn generalizing i with
  | ind depth ih =>
    refine step i fun c hc => ih _ ?_ c rfl
    have := h.length_ancestors_lt (h.forest.lt_size_of_mem hc)
    rw [h.ancestors_of_mem hc] at this ⊢
    simp only [List.length_cons] at this ⊢
    omega

/-- A node is in a branch exactly if the way up from it meets the branch's node. -/
theorem mem_within_iff (h : Sound t) : x ∈ t.within i ↔ i ∈ x :: t.ancestors (some x) := by
  induction i using h.descend with
  | step i ih =>
    rw [h.within_eq, List.mem_cons, List.mem_cons, h.forest.mem_ancestors_iff, List.mem_flatMap]
    refine or_congr eq_comm ⟨?_, ?_⟩
    · rintro ⟨c, hc, hx⟩
      exact ⟨c, (ih c hc).mp hx, h.forest.parent_of_mem hc⟩
    · rintro ⟨c, hx, hc⟩
      have hm := h.forest.listed i c hc
      exact ⟨c, hm, (ih c hm).mpr hx⟩

theorem nodup_within (h : Sound t) (i : NodeId) : (t.within i).Nodup := by
  induction i using h.descend with
  | step i ih =>
    rw [h.within_eq]
    refine List.nodup_cons.mpr ⟨?_, List.nodup_flatMap.mpr ⟨ih, ?_⟩⟩
    · intro hm
      obtain ⟨c, hc, hi⟩ := List.mem_flatMap.mp hm
      exact (h.forest.up i).step_ne_start (h.mem_within_iff.mp hi) (h.forest.parent_of_mem hc)
    · -- Two children with a common node below them lie on one way up and have the same parent.
      refine (h.forest.nodup i).imp_of_mem fun {a b} ha hb hab x hxa hxb => hab ?_
      exact (h.forest.up x).step_inj (h.mem_within_iff.mp hxa) (h.mem_within_iff.mp hxb)
        (h.forest.parent_of_mem ha) (h.forest.parent_of_mem hb)

theorem lt_size_of_mem_within (h : Sound t) (hi : i < t.size) (hx : x ∈ t.within i) :
    x < t.size := by
  rcases List.mem_cons.mp (h.mem_within_iff.mp hx) with rfl | ha
  · exact hi
  · cases hq : t.parent (some x) with
    | some q => exact Tree.lt_size_of_parent hq
    | none =>
      rw [h.ancestors_of_loose hq] at ha
      simp at ha

/-- The loop over a stack lists the branches on it, if it may take enough steps. -/
theorem walk_eq (h : Sound t) {n : Nat} {stack : List NodeId}
    (hn : (stack.flatMap t.within).length ≤ n) : t.walk n stack = stack.flatMap t.within := by
  induction n generalizing stack with
  | zero =>
    rw [List.eq_nil_of_length_eq_zero (Nat.le_zero.mp hn)]
    rfl
  | succ n ih =>
    cases stack with
    | nil => rfl
    | cons i stack =>
      rw [List.flatMap_cons, h.within_eq] at hn ⊢
      rw [Tree.walk, ih, List.flatMap_append, List.cons_append]
      rw [List.flatMap_append]
      simpa using hn

/-- Below a node there are no more nodes than in the tree. -/
theorem length_below_le (h : Sound t) (i : NodeId) :
    ((t.children (some i)).flatMap t.within).length ≤ t.size := by
  have hn := h.nodup_within i
  rw [h.within_eq, List.nodup_cons] at hn
  have hs : (t.children (some i)).flatMap t.within ⊆ List.range t.size := by
    intro x hx
    obtain ⟨c, hc, hx⟩ := List.mem_flatMap.mp hx
    exact List.mem_range.mpr (h.lt_size_of_mem_within (h.forest.lt_size_of_mem hc) hx)
  have hlen := hn.2.length_le_of_subset hs
  rwa [List.length_range] at hlen

/-- The nodes below a node are listed from the top down, without the node itself. -/
theorem within_eq_descendants (h : Sound t) (i : NodeId) :
    t.within i = i :: t.descendants (some i) := by
  have hlen := h.length_below_le i
  rw [h.within_eq, Tree.descendants, h.walk_eq (by omega)]

/-- A node is attached exactly if it is in the branch at the document. -/
theorem isAttached_iff (h : Sound t) :
    t.isAttached (some i) = true ↔ i ∈ t.within document := by
  rw [h.mem_within_iff]
  by_cases hi : i < t.size
  · have hk : ∀ j ∈ i :: t.ancestors (some i), j < t.size := fun j hj =>
      h.forest.lt_size_of_mem_up hi hj
    have hn := (h.forest.up i).length_le hk
    rw [Tree.isAttached, Tree.reachesDocument_of_trail (h.forest.up i) hk _ (by omega)]
    simp
  · have hn : t.get? (some i) = none := by
      rw [Option.eq_none_iff_forall_ne_some]
      exact fun n hn => hi (Tree.exists_get?_iff.mp ⟨n, hn⟩)
    rw [h.ancestors_of_loose (Tree.parent_eq_none_of_size_le (Nat.le_of_not_lt hi))]
    have hd : document ≠ i := fun he => hi (he ▸ h.zero_lt_size)
    simp [Tree.isAttached, Tree.reachesDocument, hn, hd]

/-- A node with the same way up is as attached as before. -/
theorem isAttached_congr {t' : Tree} (h : Sound t) (h' : Sound t')
    (hup : Trail t'.parent (some i) (i :: t.ancestors (some i))) :
    t'.isAttached (some i) = t.isAttached (some i) := by
  have ha := hup.unique (h'.forest.up i)
  rw [Bool.eq_iff_iff, h.isAttached_iff, h'.isAttached_iff, h.mem_within_iff, h'.mem_within_iff,
    ha]

theorem element?_document (h : Sound t) : t.element? (some document) = none := by
  simp [Tree.element?_eq, h.top, Content.element?]

theorem isAttached_of_mem_select (h : Sound t) {s : Selector} (hm : i ∈ t.select s) :
    t.isAttached (some i) = true := by
  rw [h.isAttached_iff, h.within_eq_descendants]
  exact List.mem_cons_of_mem _ (List.mem_filter.mp ((t.select_sublist s).subset hm)).1

/-- A selector finds elements that are children of some node. -/
theorem mem_select (h : Sound t) {s : Selector} (hm : i ∈ t.select s) :
    (∃ p, i ∈ t.children (some p)) ∧ ∃ e, t.element? (some i) = some e := by
  have hw := h.isAttached_iff.mp (h.isAttached_of_mem_select hm)
  replace hm := List.mem_filter.mp ((t.select_sublist s).subset hm)
  refine ⟨?_, Option.isSome_iff_exists.mp hm.2⟩
  have hn := h.nodup_within document
  rw [h.within_eq_descendants, List.nodup_cons] at hn
  have ha : document ∈ t.ancestors (some i) :=
    (List.mem_cons.mp (h.mem_within_iff.mp hw)).resolve_left fun he => hn.1 (he ▸ hm.1)
  cases hp : t.parent (some i) with
  | some p => exact ⟨p, h.forest.listed p i hp⟩
  | none =>
    rw [h.ancestors_of_loose hp] at ha
    simp at ha

theorem lt_size_of_mem_select (h : Sound t) {s : Selector} (hm : i ∈ t.select s) : i < t.size := by
  obtain ⟨e, he⟩ := (h.mem_select hm).2
  exact Tree.lt_size_of_element? he

theorem document_not_mem_select (h : Sound t) (s : Selector) : document ∉ t.select s := by
  intro hm
  obtain ⟨⟨p, hp⟩, _⟩ := h.mem_select hm
  exact h.document_not_mem p hp

theorem nodup_select (h : Sound t) (s : Selector) : (t.select s).Nodup := by
  have hn := h.nodup_within document
  rw [h.within_eq_descendants, List.nodup_cons] at hn
  exact (hn.2.filter _).sublist (t.select_sublist s)

end Sound

end CoursePage
