import CoursePage.Proofs.Trail
import Mathlib.Data.List.Induction
import Mathlib.Logic.Function.Basic

/-!
The links of a tree spell out, for every node, the list of its children. This holds before and
after a node is put between two neighbours or taken out from between them.
-/

namespace CoursePage

open CoursePage.Tree (document)

/-- The lists of children that the links of a tree spell out. -/
structure Forest (t : Tree) (kids : NodeId → List NodeId) : Prop where
  first : ∀ p, t.firstChild (some p) = (kids p).head?
  last : ∀ p, t.lastChild (some p) = (kids p).getLast?
  placed : ∀ p l c r, kids p = l ++ c :: r →
    t.parent (some c) = some p ∧ t.prevSibling (some c) = l.getLast? ∧
      t.nextSibling (some c) = r.head?
  listed : ∀ p c, t.parent (some c) = some p → c ∈ kids p
  loose : ∀ c, t.parent (some c) = none →
    t.prevSibling (some c) = none ∧ t.nextSibling (some c) = none
  grounded : ∀ i, ∃ is, Trail t.parent (some i) is

/-- A list in two parts holds any of its elements in the first or in the second part. -/
theorem append_eq_append_cons {α : Type} {l r l' r' : List α} {d : α}
    (h : l ++ r = l' ++ d :: r') :
    (∃ m, l = l' ++ d :: m ∧ r' = m ++ r) ∨ ∃ m, r = m ++ d :: r' ∧ l' = l ++ m := by
  rcases List.append_eq_append_iff.mp h with ⟨m, hl, hm⟩ | ⟨m, hl, hm⟩
  · exact Or.inr ⟨m, hm, hl⟩
  · cases m with
    | nil => exact Or.inr ⟨[], by simpa using hm.symm, by simpa using hl.symm⟩
    | cons e m =>
      obtain ⟨rfl, rfl⟩ := List.cons.inj hm
      exact Or.inl ⟨m, hl, rfl⟩

/-- An element is neither first nor last in a list that does not hold it. -/
theorem ends_ne_of_not_mem {l r : List NodeId} {d : NodeId} (hd : d ∉ l ++ r) :
    l.getLast? ≠ some d ∧ r.head? ≠ some d := by
  simp only [List.mem_append, not_or] at hd
  exact ⟨fun he => hd.1 (List.mem_of_getLast? he), fun he => hd.2 (List.mem_of_head? he)⟩

/-- An element that is not repeated ends a list exactly if nothing is behind it. -/
theorem getLast?_append_cons_eq_some_iff {α : Type} {l m : List α} {d : α} (hd : d ∉ m) :
    (l ++ d :: m).getLast? = some d ↔ m = [] := by
  cases m using List.reverseRecOn with
  | nil => simp
  | append_singleton m e =>
    have he : e ≠ d := fun he => hd (by simp [he])
    rw [← List.cons_append, ← List.append_assoc, List.getLast?_concat]
    simp [he]

/-- An element that is not repeated begins a list exactly if nothing is before it. -/
theorem head?_append_cons_eq_some_iff {α : Type} {m r : List α} {d : α} (hd : d ∉ m) :
    (m ++ d :: r).head? = some d ↔ m = [] := by
  cases m with
  | nil => simp
  | cons e m =>
    have he : e ≠ d := fun he => hd (by simp [he])
    simp [he]

namespace Tree

variable {t : Tree} {i : NodeId}

/-- What is read from a node after another or the same one was changed. -/
theorem bind_get?_update {α : Type} (field : Node → Option α) (l k : Link) (f : Node → Node) :
    ((t.update l f).get? k).bind field =
      if k = l then (t.get? k).bind (fun n => field (f n)) else (t.get? k).bind field := by
  by_cases h : k = l
  · rw [get?_update, if_pos h, if_pos h]
    exact Option.bind_map ..
  · rw [get?_update, if_neg h, if_neg h]

/-- A tree is what its nodes and its index are. -/
theorem eq_of_get? {t' : Tree} (hg : ∀ l, t.get? l = t'.get? l) (hi : t.ids = t'.ids) :
    t = t' := by
  obtain ⟨nodes, ids⟩ := t
  obtain ⟨nodes', ids'⟩ := t'
  obtain rfl : ids = ids' := hi
  obtain rfl : nodes = nodes' := Array.ext_getElem? fun i => hg (some i)
  rfl

/-- A change that leaves its node as it is leaves the tree as it is. -/
theorem update_eq_self {n : Node} {l : Link} {f : Node → Node} (hn : t.get? l = some n)
    (hf : f n = n) : t.update l f = t := by
  refine eq_of_get? (fun k => ?_) (by cases l <;> rfl)
  rw [get?_update]
  split
  · subst k
    rw [hn, Option.map_some, hf]
  · rfl

/-- The names of existing nodes are the numbers below the size. -/
theorem exists_get?_iff : (∃ n, t.get? (some i) = some n) ↔ i < t.size := by
  simp [get?, size, Array.getElem?_eq_some_iff]

theorem lt_size_of_parent {p : NodeId} (h : t.parent (some i) = some p) : i < t.size := by
  obtain ⟨n, hn, _⟩ := Option.bind_eq_some_iff.mp h
  exact exists_get?_iff.mp ⟨n, hn⟩

theorem parent_eq_none_of_size_le (hi : t.size ≤ i) : t.parent (some i) = none := by
  cases hq : t.parent (some i) with
  | none => rfl
  | some q => exact absurd (lt_size_of_parent hq) (Nat.not_lt.mpr hi)

theorem lt_size_of_firstChild {c : NodeId} (h : t.firstChild (some i) = some c) : i < t.size := by
  obtain ⟨n, hn, _⟩ := Option.bind_eq_some_iff.mp h
  exact exists_get?_iff.mp ⟨n, hn⟩

end Tree

namespace Forest

variable {t t' : Tree} {kids : NodeId → List NodeId} {p c i : NodeId} {l r : List NodeId}

theorem parent_of_mem (h : Forest t kids) (hc : c ∈ kids p) : t.parent (some c) = some p := by
  obtain ⟨l, r, hs⟩ := List.append_of_mem hc
  exact (h.placed p l c r hs).1

theorem mem_iff (h : Forest t kids) : c ∈ kids p ↔ t.parent (some c) = some p :=
  ⟨h.parent_of_mem, h.listed p c⟩

theorem lt_size_of_mem (h : Forest t kids) (hc : c ∈ kids p) : c < t.size :=
  Tree.lt_size_of_parent (h.parent_of_mem hc)

theorem parent_lt_size (h : Forest t kids) (hc : c ∈ kids p) : p < t.size := by
  cases hk : kids p with
  | nil => simp [hk] at hc
  | cons d ds => exact Tree.lt_size_of_firstChild (by rw [h.first, hk]; rfl)

/-- No node has two parents. -/
theorem parent_unique (h : Forest t kids) {q : NodeId} (hp : c ∈ kids p) (hq : c ∈ kids q) :
    p = q :=
  Option.some.inj ((h.parent_of_mem hp).symm.trans (h.parent_of_mem hq))

/-- A way up leads through nodes of the tree. -/
theorem lt_size_of_mem_trail (h : Forest t kids) {k : Link} {is : List NodeId}
    (hup : Trail t.parent k is) (hk : ∀ i, k = some i → i < t.size) : ∀ i ∈ is, i < t.size := by
  induction hup with
  | nil => simp
  | cons i is _ ih =>
    intro j hj
    rcases List.mem_cons.mp hj with rfl | hj
    · exact hk j rfl
    · exact ih (fun q hq => h.parent_lt_size (h.listed q i hq)) j hj

/-- The way up from a node meets it and the ancestors that the library's own loop lists. -/
theorem up (h : Forest t kids) (i : NodeId) :
    Trail t.parent (some i) (i :: t.ancestors (some i)) := by
  obtain ⟨is, hi⟩ := h.grounded i
  cases hi with
  | cons _ js rest =>
    have hk := h.lt_size_of_mem_trail rest fun q hq => h.parent_lt_size (h.listed q i hq)
    have hl := rest.length_le hk
    have ha : t.ancestors (some i) = js := Tree.ancestorsFrom_of_trail rest _ (by omega)
    rw [ha]
    exact .cons i js rest

/-- The ancestors of a child are its parent and the ancestors of that. -/
theorem ancestors_of_parent (h : Forest t kids) (hp : t.parent (some c) = some p) :
    t.ancestors (some c) = p :: t.ancestors (some p) := by
  cases h.up c with
  | cons _ _ rest => exact (hp ▸ rest).unique (h.up p)

/-- A node is an ancestor exactly if it is the parent of the node or of an ancestor. -/
theorem mem_ancestors_iff (h : Forest t kids) {a : NodeId} : a ∈ t.ancestors (some i) ↔
    ∃ c ∈ i :: t.ancestors (some i), t.parent (some c) = some a :=
  (h.up i).mem_tail_iff

theorem lt_size_of_mem_up (h : Forest t kids) (hp : p < t.size)
    (hi : i ∈ p :: t.ancestors (some p)) : i < t.size := by
  refine h.lt_size_of_mem_trail (h.up p) ?_ i hi
  rintro _ ⟨⟩
  exact hp

/-- The lists of children determine the parent of a node. -/
theorem parent_congr {kids' : NodeId → List NodeId} (h : Forest t kids) (h' : Forest t' kids')
    (hi : ∀ q, i ∈ kids' q ↔ i ∈ kids q) : t'.parent (some i) = t.parent (some i) := by
  ext q
  rw [← h.mem_iff, ← h'.mem_iff, hi]

/-- A way up stays where the nodes on it keep their places in the lists. -/
theorem trail_congr {kids' : NodeId → List NodeId} {k : Link} {up : List NodeId}
    (h : Forest t kids) (h' : Forest t' kids') (hup : Trail t.parent k up)
    (hi : ∀ i ∈ up, ∀ q, i ∈ kids' q ↔ i ∈ kids q) : Trail t'.parent k up :=
  hup.congr fun i hm => h.parent_congr h' (hi i hm)

theorem of_eq {k : NodeId → List NodeId} (h : Forest t kids) (he : ∀ q, k q = kids q) :
    Forest t k :=
  (funext he : k = kids) ▸ h

/-- From any child on, the links to the next sibling meet the children behind it. -/
theorem trail_from (h : Forest t kids) (hs : kids p = l ++ r) :
    Trail t.nextSibling r.head? r := by
  induction r generalizing l with
  | nil => exact .nil
  | cons c r ih =>
    refine .cons c r ?_
    rw [(h.placed p l c r hs).2.2]
    exact ih (l := l ++ [c]) (by simpa using hs)

/-- The links to the next sibling meet exactly the children. -/
theorem trail_next (h : Forest t kids) (p : NodeId) :
    Trail t.nextSibling (t.firstChild (some p)) (kids p) := by
  rw [h.first]
  exact h.trail_from (l := []) rfl

/-- From any child on, the links to the previous sibling meet the children before it backwards. -/
theorem trail_back (h : Forest t kids) (hs : kids p = l ++ r) :
    Trail t.prevSibling l.getLast? l.reverse := by
  induction l using List.reverseRecOn generalizing r with
  | nil => exact .nil
  | append_singleton l c ih =>
    have hs' : kids p = l ++ c :: r := by simpa using hs
    rw [List.getLast?_concat, List.reverse_concat]
    refine .cons c _ ?_
    rw [(h.placed p l c r hs').2.1]
    exact ih hs'

/-- The links to the previous sibling meet the children backwards. -/
theorem trail_prev (h : Forest t kids) (p : NodeId) :
    Trail t.prevSibling (t.lastChild (some p)) (kids p).reverse := by
  rw [h.last]
  exact h.trail_back (p := p) (r := []) (by simp)

theorem nodup (h : Forest t kids) (p : NodeId) : (kids p).Nodup :=
  (h.trail_next p).nodup

/-- A child occurs at one place only. -/
theorem not_mem_around (h : Forest t kids) (hs : kids p = l ++ c :: r) : c ∉ l ∧ c ∉ r := by
  have hn := h.nodup p
  rw [hs, List.nodup_middle] at hn
  simpa using (List.nodup_cons.mp hn).1

/-- The children that the library's own loop lists are the children of the forest. -/
theorem children_eq (h : Forest t kids) (p : NodeId) : t.children (some p) = kids p := by
  refine Tree.siblingsFrom_of_trail (h.trail_next p) _ ?_
  have := (h.trail_next p).length_le fun c hc => h.lt_size_of_mem hc
  omega

theorem loose_not_mem (h : Forest t kids) (hc : t.parent (some c) = none) : c ∉ kids p := by
  intro hm
  simp [h.parent_of_mem hm] at hc

theorem lt_size_of_neighbour (h : Forest t kids) {j : NodeId}
    (hj : t.prevSibling (some i) = some j ∨ t.nextSibling (some i) = some j) : j < t.size := by
  cases hp : t.parent (some i) with
  | none =>
    obtain ⟨h1, h2⟩ := h.loose i hp
    simp [h1, h2] at hj
  | some p =>
    obtain ⟨l, r, hs⟩ := List.append_of_mem (h.listed p i hp)
    obtain ⟨_, h1, h2⟩ := h.placed p l i r hs
    rw [h1, h2] at hj
    refine h.lt_size_of_mem (p := p) ?_
    rw [hs, List.mem_append, List.mem_cons]
    exact hj.imp List.mem_of_getLast? fun he => Or.inr (List.mem_of_head? he)

/-- Every link of a node names no node or one that exists. -/
theorem lt_size_of_link (h : Forest t kids) {j : NodeId} {n : Node} {k : Link}
    (hn : t.get? (some i) = some n)
    (hk : k ∈ [n.parent, n.firstChild, n.lastChild, n.prevSibling, n.nextSibling])
    (hj : k = some j) : j < t.size := by
  have hread : ∀ field : Node → Link, field n = some j → (t.get? (some i)).bind field = some j :=
    fun field he => by simp [hn, he]
  simp only [List.mem_cons, List.not_mem_nil, or_false] at hk
  rcases hk with rfl | rfl | rfl | rfl | rfl
  · exact h.parent_lt_size (h.listed j i (hread Node.parent hj))
  · have hf := (h.first i).symm.trans (hread Node.firstChild hj)
    exact h.lt_size_of_mem (List.mem_of_head? hf)
  · have hl := (h.last i).symm.trans (hread Node.lastChild hj)
    exact h.lt_size_of_mem (List.mem_of_getLast? hl)
  · exact h.lt_size_of_neighbour (Or.inl (hread Node.prevSibling hj))
  · exact h.lt_size_of_neighbour (Or.inr (hread Node.nextSibling hj))

/-- Both trees link their nodes in the same way. -/
structure SameLinks (t t' : Tree) : Prop where
  parent : ∀ i, t'.parent (some i) = t.parent (some i)
  prev : ∀ i, t'.prevSibling (some i) = t.prevSibling (some i)
  next : ∀ i, t'.nextSibling (some i) = t.nextSibling (some i)
  first : ∀ i, t'.firstChild (some i) = t.firstChild (some i)
  last : ∀ i, t'.lastChild (some i) = t.lastChild (some i)

/-- The lists of children depend on the links only. -/
theorem relink (h : Forest t kids) (hl : SameLinks t t') : Forest t' kids where
  first p := (hl.first p).trans (h.first p)
  last p := (hl.last p).trans (h.last p)
  placed p l c r hs := by
    rw [hl.parent, hl.prev, hl.next]
    exact h.placed p l c r hs
  listed p c hc := h.listed p c (by rwa [hl.parent] at hc)
  loose c hc := by
    rw [hl.prev, hl.next]
    exact h.loose c (by rwa [hl.parent] at hc)
  grounded i := by
    obtain ⟨is, hi⟩ := h.grounded i
    exact ⟨is, hi.congr fun j _ => hl.parent j⟩

/-- `t'` is `t` with the unlinked node `c` put below `p` between `l` and `r`. -/
structure Spliced (t t' : Tree) (p c : NodeId) (l r : List NodeId) : Prop where
  parent : ∀ i, t'.parent (some i) = if i = c then some p else t.parent (some i)
  prev : ∀ i, t'.prevSibling (some i) =
    if i = c then l.getLast? else if r.head? = some i then some c else t.prevSibling (some i)
  next : ∀ i, t'.nextSibling (some i) =
    if i = c then r.head? else if l.getLast? = some i then some c else t.nextSibling (some i)
  first : ∀ i, t'.firstChild (some i) =
    if i = p ∧ l = [] then some c else t.firstChild (some i)
  last : ∀ i, t'.lastChild (some i) =
    if i = p ∧ r = [] then some c else t.lastChild (some i)

/-- `t'` is `t` with the node `c` below `p` taken out from between `l` and `r`. -/
structure Taken (t t' : Tree) (p c : NodeId) (l r : List NodeId) : Prop where
  parent : ∀ i, t'.parent (some i) = if i = c then none else t.parent (some i)
  prev : ∀ i, t'.prevSibling (some i) =
    if i = c then none else if r.head? = some i then l.getLast? else t.prevSibling (some i)
  next : ∀ i, t'.nextSibling (some i) =
    if i = c then none else if l.getLast? = some i then r.head? else t.nextSibling (some i)
  first : ∀ i, t'.firstChild (some i) =
    if i = p ∧ l = [] then r.head? else t.firstChild (some i)
  last : ∀ i, t'.lastChild (some i) =
    if i = p ∧ r = [] then l.getLast? else t.lastChild (some i)

theorem placed_of_spliced (h : Forest t kids) (hs : kids p = l ++ r)
    (hc : t.parent (some c) = none) (hsp : Spliced t t' p c l r) {q d : NodeId}
    {l' r' : List NodeId} (hd : Function.update kids p (l ++ c :: r) q = l' ++ d :: r') :
    t'.parent (some d) = some q ∧ t'.prevSibling (some d) = l'.getLast? ∧
      t'.nextSibling (some d) = r'.head? := by
  have hne : ∀ {q d}, d ∈ kids q → d ≠ c := fun hd he => h.loose_not_mem hc (he ▸ hd)
  rw [hsp.parent, hsp.prev, hsp.next]
  by_cases hq : q = p
  · subst q
    rw [Function.update_self] at hd
    rcases append_eq_append_cons hd with ⟨m, rfl, rfl⟩ | ⟨m, hm, rfl⟩
    · have hk : kids p = l' ++ d :: (m ++ r) := by simpa using hs
      obtain ⟨h1, h2, h3⟩ := h.placed p l' d (m ++ r) hk
      have hdc : d ≠ c := hne (q := p) (by simp [hk])
      obtain ⟨hdm, hdr⟩ : d ∉ m ∧ d ∉ r := by simpa using (h.not_mem_around hk).2
      have hr : r.head? ≠ some d := fun he => hdr (List.mem_of_head? he)
      simp only [hdc, if_false, h1, h2, h3, hr, getLast?_append_cons_eq_some_iff hdm]
      cases m <;> simp
    · cases m with
      | nil =>
        obtain ⟨rfl, rfl⟩ := List.cons.inj hm
        simp
      | cons e m =>
        simp only [List.cons_append, List.cons.injEq] at hm
        obtain ⟨rfl, rfl⟩ := hm
        have hk : kids p = (l ++ m) ++ d :: r' := by simpa using hs
        obtain ⟨h1, h2, h3⟩ := h.placed p (l ++ m) d r' hk
        have hdc : d ≠ c := hne (q := p) (by simp [hk])
        obtain ⟨hdl, hdm⟩ : d ∉ l ∧ d ∉ m := by simpa using (h.not_mem_around hk).1
        have hl : l.getLast? ≠ some d := fun he => hdl (List.mem_of_getLast? he)
        simp only [hdc, if_false, h1, h2, h3, hl, head?_append_cons_eq_some_iff hdm]
        cases m <;> simp
  · rw [Function.update_of_ne hq] at hd
    obtain ⟨h1, h2, h3⟩ := h.placed q l' d r' hd
    have hdq : d ∈ kids q := by simp [hd]
    obtain ⟨hl, hr⟩ := ends_ne_of_not_mem fun hm => hq (h.parent_unique hdq (hs ▸ hm))
    simp [hne hdq, hr, hl, h1, h2, h3]

theorem grounded_of_spliced (h : Forest t kids) {up : List NodeId}
    (hup : Trail t.parent (some p) up) (hcu : c ∉ up) (hsp : Spliced t t' p c l r) (i : NodeId) :
    ∃ is, Trail t'.parent (some i) is := by
  have hpu : Trail t'.parent (some p) up := by
    refine hup.congr fun i hi => ?_
    rw [hsp.parent, if_neg]
    exact fun he => hcu (he ▸ hi)
  have hcp : Trail t'.parent (some c) (c :: up) := .cons c up (by simpa [hsp.parent] using hpu)
  obtain ⟨is, hi⟩ := h.grounded i
  generalize some i = k at hi
  -- The old way up from `i` is followed until it meets `c`, which now goes on to `p`.
  induction hi with
  | nil => exact ⟨[], .nil⟩
  | cons j js _ ih =>
    by_cases hj : j = c
    · exact ⟨c :: up, hj ▸ hcp⟩
    · obtain ⟨ks, hk⟩ := ih
      exact ⟨j :: ks, .cons j ks (by simpa [hsp.parent, hj] using hk)⟩

/-- A node that is linked nowhere may be put below any node that it is not above. -/
theorem splice (h : Forest t kids) (hs : kids p = l ++ r) (hc : t.parent (some c) = none)
    {up : List NodeId} (hup : Trail t.parent (some p) up) (hcu : c ∉ up)
    (hsp : Spliced t t' p c l r) : Forest t' (Function.update kids p (l ++ c :: r)) := by
  refine ⟨?first, ?last, fun q l' d r' => h.placed_of_spliced hs hc hsp, ?listed, ?loose,
    h.grounded_of_spliced hup hcu hsp⟩
  case first =>
    intro q
    rw [hsp.first, Function.update_apply]
    by_cases hq : q = p
    · subst q
      cases l <;> simp [h.first, hs]
    · simp [hq, h.first]
  case last =>
    intro q
    rw [hsp.last, Function.update_apply]
    by_cases hq : q = p
    · subst q
      cases r <;> simp [h.last, hs]
    · simp [hq, h.last]
  case listed =>
    intro q d hd
    rw [hsp.parent] at hd
    by_cases hdc : d = c
    · subst d
      obtain rfl : p = q := by simpa using hd
      simp
    · have hm := h.listed q d (by simpa [hdc] using hd)
      by_cases hq : q = p
      · subst q
        simpa [hs, hdc] using hm
      · rwa [Function.update_of_ne hq]
  case loose =>
    intro d hd
    rw [hsp.parent] at hd
    have hdc : d ≠ c := by
      rintro rfl
      simp at hd
    rw [if_neg hdc] at hd
    obtain ⟨hl, hr⟩ := ends_ne_of_not_mem (hs ▸ h.loose_not_mem hd)
    simpa [hsp.prev, hsp.next, hdc, hr, hl] using h.loose d hd

theorem placed_of_taken (h : Forest t kids) (hs : kids p = l ++ c :: r)
    (htk : Taken t t' p c l r) {q d : NodeId} {l' r' : List NodeId}
    (hd : Function.update kids p (l ++ r) q = l' ++ d :: r') :
    t'.parent (some d) = some q ∧ t'.prevSibling (some d) = l'.getLast? ∧
      t'.nextSibling (some d) = r'.head? := by
  rw [htk.parent, htk.prev, htk.next]
  by_cases hq : q = p
  · subst q
    rw [Function.update_self] at hd
    rcases append_eq_append_cons hd with ⟨m, rfl, rfl⟩ | ⟨m, rfl, rfl⟩
    · have hk : kids p = l' ++ d :: (m ++ c :: r) := by simpa using hs
      obtain ⟨h1, h2, h3⟩ := h.placed p l' d (m ++ c :: r) hk
      obtain ⟨hdm, hdc, hdr⟩ : d ∉ m ∧ d ≠ c ∧ d ∉ r := by
        simpa using (h.not_mem_around hk).2
      have hr : r.head? ≠ some d := fun he => hdr (List.mem_of_head? he)
      simp only [hdc, if_false, h1, h2, h3, hr, getLast?_append_cons_eq_some_iff hdm]
      cases m <;> simp
    · have hk : kids p = (l ++ c :: m) ++ d :: r' := by simpa using hs
      obtain ⟨h1, h2, h3⟩ := h.placed p (l ++ c :: m) d r' hk
      obtain ⟨hdl, hdc, hdm⟩ : d ∉ l ∧ d ≠ c ∧ d ∉ m := by
        simpa using (h.not_mem_around hk).1
      have hl : l.getLast? ≠ some d := fun he => hdl (List.mem_of_getLast? he)
      simp only [hdc, if_false, h1, h2, h3, hl, head?_append_cons_eq_some_iff hdm]
      cases m <;> simp
  · rw [Function.update_of_ne hq] at hd
    obtain ⟨h1, h2, h3⟩ := h.placed q l' d r' hd
    have hdp : d ∉ l ++ c :: r := fun hm => hq (h.parent_unique (by simp [hd]) (hs ▸ hm))
    have hdc : d ≠ c := fun he => hdp (by simp [he])
    obtain ⟨hl, hr⟩ := ends_ne_of_not_mem (l := l) (r := r) (d := d) (by simp_all)
    simp [hdc, hr, hl, h1, h2, h3]

theorem grounded_of_taken (h : Forest t kids) (htk : Taken t t' p c l r) (i : NodeId) :
    ∃ is, Trail t'.parent (some i) is := by
  obtain ⟨is, hi⟩ := h.grounded i
  generalize some i = k at hi
  -- The old way up from `i` is followed until it meets `c`, which is now the last node on it.
  induction hi with
  | nil => exact ⟨[], .nil⟩
  | cons j js _ ih =>
    by_cases hj : j = c
    · exact ⟨[c], hj ▸ .cons j [] (by simpa [htk.parent, hj] using .nil)⟩
    · obtain ⟨ks, hk⟩ := ih
      exact ⟨j :: ks, .cons j ks (by simpa [htk.parent, hj] using hk)⟩

/-- A node may be taken out from between its neighbours. -/
theorem take (h : Forest t kids) (hs : kids p = l ++ c :: r) (htk : Taken t t' p c l r) :
    Forest t' (Function.update kids p (l ++ r)) := by
  refine ⟨?first, ?last, fun q l' d r' => h.placed_of_taken hs htk, ?listed, ?loose,
    h.grounded_of_taken htk⟩
  case first =>
    intro q
    rw [htk.first, Function.update_apply]
    by_cases hq : q = p
    · subst q
      cases l <;> simp [h.first, hs]
    · simp [hq, h.first]
  case last =>
    intro q
    rw [htk.last, Function.update_apply]
    by_cases hq : q = p
    · subst q
      cases r <;> simp [h.last, hs]
    · simp [hq, h.last]
  case listed =>
    intro q d hd
    rw [htk.parent] at hd
    have hdc : d ≠ c := by
      rintro rfl
      simp at hd
    have hm := h.listed q d (by simpa [hdc] using hd)
    by_cases hq : q = p
    · subst q
      simpa [hs, hdc] using hm
    · rwa [Function.update_of_ne hq]
  case loose =>
    intro d hd
    by_cases hdc : d = c
    · simp [htk.prev, htk.next, hdc]
    · rw [htk.parent, if_neg hdc] at hd
      have hdp : d ∉ l ++ c :: r := hs ▸ h.loose_not_mem hd
      obtain ⟨hl, hr⟩ := ends_ne_of_not_mem (l := l) (r := r) (d := d) (by simp_all)
      simpa [htk.prev, htk.next, hdc, hr, hl] using h.loose d hd

end Forest

end CoursePage
