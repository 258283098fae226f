import CoursePage.Proofs.Calls
import CoursePage.Proofs.ChildLists
import CoursePage.Proofs.DocumentOrder

/-!
Calls with a missing node. Most of them do nothing or no more than unlink what they move, but three
write the missing node into links that other nodes go by: behind the last child of a parent, before
a sibling, and in the place of a child with another one before it. The children that were there are
then lost.
-/

namespace CoursePage

open CoursePage.Tree (document)

namespace Call

/-- One node is missing in a call, and the others are as an edit asks for them. -/
inductive Gapped (t : Tree) : Call → Prop where
  | appendNone (p : NodeId) (hp : p < t.size) : Gapped t (.append (some p) none)
  | appendToNone (c : NodeId) (hc : c < t.size) (loose : t.parent (some c) = none)
      (hd : c ≠ document) : Gapped t (.append none (some c))
  | insertNone (s : NodeId) (hs : s < t.size) (placed : t.parent (some s) ≠ none) :
    Gapped t (.insertBefore (some s) none)
  | insertBeforeNone (c : NodeId) (hc : c < t.size) (loose : t.parent (some c) = none)
      (hd : c ≠ document) : Gapped t (.insertBefore none (some c))
  | appendTextToNone (text : String) : Gapped t (.appendText none text)
  | detachNone : Gapped t (.detach none)
  | replaceByNone (old : NodeId) (ho : old < t.size) : Gapped t (.replace (some old) none)
  | replaceNone (c : NodeId) (hc : c < t.size) (hd : c ≠ document) :
    Gapped t (.replace none (some c))
  | moveToNone (source : NodeId) (hs : source < t.size) :
    Gapped t (.moveChildren (some source) none)
  | moveFromNone (target : NodeId) (ht : target < t.size) :
    Gapped t (.moveChildren none (some target))
  | setAttrOfNone (name value : String) : Gapped t (.setAttr none name value)
  | addClassToNone (token : String) : Gapped t (.addClass none token)
  | removeClassFromNone (token : String) : Gapped t (.removeClass none token)

/-- The missing node is not written into a link to a child. -/
def Spares (t : Tree) : Call → Prop
  | append (some p) none => t.children (some p) = []
  | insertBefore (some _) none => False
  | replace (some old) none => t.prevSibling (some old) = none
  | _ => True

/-- The nodes that a call takes out of their places. -/
def released (t : Tree) : Call → List NodeId
  | detach target => target.toList
  | replace old _ => old.toList
  | moveChildren source _ => t.children source
  | _ => []

end Call

/-- A call leaves the links in agreement and the attached nodes attached. -/
structure Unharmed (t : Tree) (c : Call) : Prop where
  links : LinksAgree (c.run t)
  /-- What was below the document still is, but for what the call takes out with what is below. -/
  kept : ∀ i ∈ t.descendants (some document),
    (∀ r ∈ c.released t, i ∉ r :: t.descendants (some r)) →
      i ∈ (c.run t).descendants (some document)
  /-- What is appended next is the last child. -/
  opened : ∀ p x, (Edit.append p x).Legal (c.run t) →
    ((c.run t).append (some p) (some x)).children (some p) = (c.run t).children (some p) ++ [x]

/-- Unlinks nodes one after the other. -/
def Tree.detachAll (t : Tree) (is : List NodeId) : Tree :=
  is.foldl (fun t i => t.detach (some i)) t

namespace Tree

variable {t : Tree}

theorem update_none (f : Node → Node) : t.update none f = t := rfl

/-- Of two changes of one node that the second one makes anyway, the first one does not count. -/
theorem update_update {f g : Node → Node} (hf : ∀ n, g (f n) = g n) (l : Link) :
    (t.update l f).update l g = t.update l g := by
  refine eq_of_get? (fun k => ?_) (by simp)
  rw [get?_update, get?_update, get?_update]
  split
  · rw [Option.map_map]
    exact congrArg (fun h => Option.map h _) (funext hf)
  · rfl

/-- Unlinking a first child writes the first child of its parent anew. -/
theorem detach_update_firstChild {c p : NodeId} {n : Node} (hn : t.get? (some c) = some n)
    (hne : some c ≠ some p) (hp : n.parent = some p) (hf : n.prevSibling = none) (l : Link) :
    (t.update (some p) fun m => { m with firstChild := l }).detach (some c) =
      t.detach (some c) := by
  have hg : (t.update (some p) fun m => { m with firstChild := l }).get? (some c) = some n := by
    rw [get?_update, if_neg hne, hn]
  have hu : ((t.update (some p) fun m => { m with firstChild := l }).update (some p) fun m =>
      { m with firstChild := n.nextSibling }) =
        t.update (some p) fun m => { m with firstChild := n.nextSibling } :=
    update_update (by intro m; rfl) _
  simp only [detach, hg, hn, hp, hf, Option.isSome_none, Bool.false_eq_true, if_false, hu]

section Missing

variable (t : Tree) (s c i p : NodeId)

theorem parent_insertBefore_none :
    (t.insertBefore (some s) none).parent (some i) = t.parent (some i) := by
  simp only [insertBefore, update_none]
  split <;> simp [parent, bind_get?_update]

theorem prevSibling_insertBefore_none : (t.insertBefore (some s) none).prevSibling (some i) =
    if i = s then none else t.prevSibling (some i) := by
  simp only [insertBefore, update_none]
  split <;> by_cases hi : i = s <;> simp [prevSibling, bind_get?_update, hi]

theorem nextSibling_insertBefore_none (hs : t.prevSibling (some s) ≠ some i) :
    (t.insertBefore (some s) none).nextSibling (some i) = t.nextSibling (some i) := by
  simp only [insertBefore, update_none]
  split <;> simp [nextSibling, bind_get?_update, Ne.symm hs]

theorem firstChild_insertBefore_none (hp : t.parent (some s) = some p) :
    (t.insertBefore (some s) none).firstChild (some p) =
      if (t.prevSibling (some s)).isSome then t.firstChild (some p) else none := by
  simp only [insertBefore, update_none, hp]
  split <;> simp [firstChild, bind_get?_update]

theorem parent_detach : (t.detach (some c)).parent (some i) =
    if i = c then none else t.parent (some i) := by
  unfold detach
  cases hn : t.get? (some c) with
  | none => by_cases hi : i = c <;> simp [parent, hi, hn]
  | some n =>
    by_cases hi : i = c
    · simp [parent, bind_get?_update, hi]
    · simp only [parent, bind_get?_update, hi, Option.some.injEq, if_false]
      split <;> split <;> simp [bind_get?_update]

/-- Unlinking a node with nothing before it puts nothing before another one. -/
theorem prevSibling_detach_of_front (hf : t.prevSibling (some c) = none)
    (hi : t.prevSibling (some i) = none) : (t.detach (some c)).prevSibling (some i) = none := by
  unfold detach
  cases hn : t.get? (some c) with
  | none => exact hi
  | some n =>
    have hnf : n.prevSibling = none := by simpa [prevSibling, hn] using hf
    simp only [hnf, Option.isSome_none, Bool.false_eq_true, if_false]
    simp only [prevSibling] at hi ⊢
    split <;> simp [bind_get?_update, hi]

/-- Unlinking a node with nothing before it lets the next sibling be the first child. -/
theorem firstChild_detach_of_front (hp : t.parent (some c) = some p) (hpt : p < t.size)
    (hf : t.prevSibling (some c) = none) :
    (t.detach (some c)).firstChild (some p) = t.nextSibling (some c) := by
  obtain ⟨n, hn, hnp⟩ := Option.bind_eq_some_iff.mp hp
  obtain ⟨m, hm⟩ := exists_get?_iff.mpr hpt
  have hnf : n.prevSibling = none := by simpa [prevSibling, hn] using hf
  simp only [detach, hn, hnf, hnp, Option.isSome_none, Bool.false_eq_true, if_false]
  simp only [firstChild, nextSibling, hn]
  split <;> simp [bind_get?_update, hm]

theorem replace_none_of_placed (hp : t.parent (some s) = some p) :
    t.replace (some s) none = (t.insertBefore (some s) none).detach (some s) := by
  simp [replace, hp, detach]

theorem parent_replace_none (hp : t.parent (some s) = some p) (hi : i ≠ s) :
    (t.replace (some s) none).parent (some i) = t.parent (some i) := by
  rw [t.replace_none_of_placed s p hp, parent_detach, if_neg hi, parent_insertBefore_none]

theorem prevSibling_replace_none (hp : t.parent (some s) = some p) (hi : i ≠ s)
    (hf : t.prevSibling (some i) = none) :
    (t.replace (some s) none).prevSibling (some i) = none := by
  rw [t.replace_none_of_placed s p hp]
  apply prevSibling_detach_of_front <;> simp [prevSibling_insertBefore_none, hi, hf]

/-- With nothing in its place, a child hides all children before it. -/
theorem firstChild_replace_none (hp : t.parent (some s) = some p) (hpt : p < t.size)
    (hs : t.prevSibling (some s) ≠ some s) :
    (t.replace (some s) none).firstChild (some p) = t.nextSibling (some s) := by
  rw [t.replace_none_of_placed s p hp, firstChild_detach_of_front,
    nextSibling_insertBefore_none _ _ _ hs]
  · rw [parent_insertBefore_none, hp]
  · rwa [size_insertBefore]
  · simp [prevSibling_insertBefore_none]

end Missing

theorem addClass_none (token : String) : t.addClass none token = t := by
  simp [addClass, isElement, element?]

theorem removeClass_none (token : String) : t.removeClass none token = t := by
  simp [removeClass, hasClass, classes, element?]

end Tree

/-- A child with nothing before it is the first one. -/
theorem LinksAgree.firstChild_eq {t : Tree} {c p : NodeId} (h : LinksAgree t)
    (hp : t.parent (some c) = some p) (hf : t.prevSibling (some c) = none) :
    t.firstChild (some p) = some c := by
  have hc : c ∈ (t.children (some p)).reverse := by
    rw [List.mem_reverse, h.parent, hp]
  obtain ⟨before, after, hs, ha⟩ := (h.prev p).split hc
  rw [hf] at ha
  cases ha
  have hk : t.children (some p) = c :: before.reverse := by
    rw [← List.reverse_reverse (t.children (some p)), hs, List.reverse_append]
    rfl
  have hn := h.next p
  rw [hk] at hn
  generalize t.firstChild (some p) = first at hn
  cases hn
  rfl

namespace Sound

variable {t : Tree} {c i old p s : NodeId} {is up : List NodeId} {k : Link}

section Spared

theorem append_to_none (h : Sound t) (hc : t.parent (some c) = none) :
    t.append none (some c) = t := by
  have hu := h.forest.unlink_of_loose hc
  simpa [Tree.append, Tree.lastChild, Tree.update] using hu

theorem insertBefore_none (h : Sound t) (hc : t.parent (some c) = none) :
    t.insertBefore none (some c) = t := by
  have hu := h.forest.unlink_of_loose hc
  simpa [Tree.insertBefore, Tree.parent, Tree.prevSibling, Tree.update] using hu

theorem appendText_to_none (h : Sound t) (text : String) :
    t.appendText none text = (t.createText text).2 := by
  have hs : Sound (t.createText text).2 := h.create (Content.synced_of_element?_eq_none rfl)
  have hl : (t.createText text).2.parent (some t.size) = none := by
    rw [Tree.createText, (Forest.sameLinks_create t _).parent]
    exact Tree.parent_eq_none_of_size_le (Nat.le_refl _)
  exact hs.append_to_none hl

theorem append_none_of_childless (h : Sound t) (hp : p < t.size)
    (hk : t.children (some p) = []) : t.append (some p) none = t := by
  obtain ⟨n, hn⟩ := Tree.exists_get?_iff.mpr hp
  have hf := h.forest.first p
  have hl := h.forest.last p
  simp only [hk, List.head?_nil, List.getLast?_nil] at hf hl
  simp only [Tree.append, hl, Tree.update]
  simp only [Tree.firstChild, Tree.lastChild, hn, Option.bind_some] at hf hl
  refine Tree.update_eq_self hn ?_
  cases n
  simp_all

theorem replace_none_of_front (h : Sound t) (hf : t.prevSibling (some old) = none) :
    t.replace (some old) none = t.detach (some old) := by
  cases hp : t.parent (some old) with
  | none =>
    rw [h.forest.detach_of_loose hp]
    simp [Tree.replace, hp]
  | some p =>
    have hne : some old ≠ some p := fun he =>
      (h.forest.up old).step_ne_start List.mem_cons_self (he ▸ hp)
    obtain ⟨n, hn, hnp⟩ := Option.bind_eq_some_iff.mp hp
    have hnf : n.prevSibling = none := by simpa [Tree.prevSibling, hn] using hf
    have hu : t.update (some old) (fun m => { m with prevSibling := none }) = t := by
      refine Tree.update_eq_self hn ?_
      cases n
      simp_all
    have hi : t.insertBefore (some old) none =
        t.update (some p) fun m => { m with firstChild := none } := by
      simp [Tree.insertBefore, hp, hf, Tree.update_none, hu]
    rw [t.replace_none_of_placed old p hp, hi, Tree.detach_update_firstChild hn hne hnp hnf]

theorem moveChildren_to_none (h : Sound t) (source : NodeId) :
    t.moveChildren (some source) none = t.detachAll (t.children (some source)) := by
  unfold Tree.moveChildren Tree.detachAll
  induction t.children (some source) generalizing t with
  | nil => rfl
  | cons c cs ih =>
    rw [List.foldl_cons, List.foldl_cons, (h.detach c).append_to_none h.forest.parent_detach_self]
    exact ih (h.detach c)

/-- A call that spares all children makes a loose text or unlinks what it takes out. -/
theorem run_of_spares (h : Sound t) {c : Call} (hc : c.Gapped t) (hs : c.Spares t) :
    (∃ text, c.run t = (t.createText text).2) ∨ c.run t = t.detachAll (c.released t) := by
  cases hc with
  | appendNone p hp => exact Or.inr (h.append_none_of_childless hp hs)
  | appendToNone c _ loose _ => exact Or.inr (h.append_to_none loose)
  | insertNone s _ _ => exact absurd hs id
  | insertBeforeNone c _ loose _ => exact Or.inr (h.insertBefore_none loose)
  | appendTextToNone text => exact Or.inl ⟨text, h.appendText_to_none text⟩
  | detachNone => exact Or.inr rfl
  | replaceByNone old _ => exact Or.inr (h.replace_none_of_front hs)
  | replaceNone c _ _ => exact Or.inr rfl
  | moveToNone source _ => exact Or.inr (h.moveChildren_to_none source)
  | moveFromNone target _ => exact Or.inr rfl
  | setAttrOfNone name value => exact Or.inr rfl
  | addClassToNone token => exact Or.inr (t.addClass_none token)
  | removeClassFromNone token => exact Or.inr (t.removeClass_none token)

theorem detachAll (h : Sound t) (is : List NodeId) : Sound (t.detachAll is) :=
  List.foldlRecOn (motive := Sound) is _ h fun _ ht i _ => ht.detach i

/-- A way up stays where no node on it is unlinked. -/
theorem trail_detachAll (h : Sound t) (hup : Trail t.parent k up) (hi : ∀ i ∈ is, i ∉ up) :
    Trail (t.detachAll is).parent k up := by
  induction is generalizing t with
  | nil => exact hup
  | cons i is ih =>
    have hd := h.forest.trail_detach hup (hi i List.mem_cons_self)
    exact ih (h.detach i) hd fun j hj => hi j (List.mem_cons_of_mem i hj)

/-- A node below the document stays there with its way up. -/
theorem mem_descendants_of_trail {t' : Tree} (h : Sound t) (h' : Sound t')
    (hi : i ∈ t.descendants (some document))
    (hup : Trail t'.parent (some i) (i :: t.ancestors (some i))) :
    i ∈ t'.descendants (some document) := by
  have hne : i ≠ document := by
    rintro rfl
    exact (List.nodup_cons.mp (h.nodup_cons_descendants document)).1 hi
  have ha := h.isAttached_congr h' hup
  rw [Bool.eq_iff_iff, h.isAttached_iff_mem_descendants, h'.isAttached_iff_mem_descendants] at ha
  exact (ha.mpr (Or.inr hi)).resolve_left hne

/-- Ways up stay that do not meet what such a call takes out. -/
theorem ways_of_spares (h : Sound t) {c : Call} (hc : c.Gapped t) (hs : c.Spares t) :
    Sound (c.run t) ∧ ∀ k up, Trail t.parent k up → (∀ r ∈ c.released t, r ∉ up) →
      Trail (c.run t).parent k up := by
  rcases h.run_of_spares hc hs with ⟨text, he⟩ | he
  · rw [he]
    refine ⟨h.create (Content.synced_of_element?_eq_none rfl), fun k up hup _ => ?_⟩
    exact hup.congr fun i _ => (Forest.sameLinks_create t _).parent i
  · rw [he]
    exact ⟨h.detachAll _, fun k up hup hr => h.trail_detachAll hup hr⟩

theorem unharmed (h : Sound t) {c : Call} (hc : c.Gapped t) (hs : c.Spares t) :
    Unharmed t c := by
  obtain ⟨h', hways⟩ := h.ways_of_spares hc hs
  refine ⟨h'.links, fun i hi hr => ?kept, fun p x hl => ?opened⟩
  case kept =>
    refine h.mem_descendants_of_trail h' hi (hways _ _ (h.forest.up i) fun r hm hri => ?_)
    have hw := h.mem_within_iff.mpr hri
    rw [h.within_eq_descendants] at hw
    exact hr r hm hw
  case opened => rw [h'.children_append hl, if_pos rfl]

end Spared

section Harmed

theorem not_linksAgree_append (h : Sound t) (hp : p < t.size) (hk : t.children (some p) ≠ []) :
    ¬LinksAgree (t.append (some p) none) := by
  intro hl
  obtain ⟨n, hn⟩ := Tree.exists_get?_iff.mpr hp
  have hlast : (t.append (some p) none).lastChild (some p) = none := by
    simp [Tree.append, Tree.lastChild, Tree.bind_get?_update, hn]
  have hfirst : (t.append (some p) none).firstChild (some p) = (t.children (some p)).head? := by
    rw [← h.forest.first]
    simp only [Tree.append, Tree.firstChild, Tree.bind_get?_update]
    cases hf : n.firstChild <;> simp [hn, hf]
  rw [hl.last, List.getLast?_eq_none_iff] at hlast
  have hnext := hl.next p
  rw [hlast, hfirst] at hnext
  generalize hd : (t.children (some p)).head? = first at hnext
  cases hnext
  exact hk (List.head?_eq_none_iff.mp hd)

theorem not_linksAgree_insertBefore (h : Sound t) (hp : t.parent (some s) = some p) :
    ¬LinksAgree (t.insertBefore (some s) none) := by
  intro hl
  have hfirst := hl.firstChild_eq ((t.parent_insertBefore_none s s).trans hp)
    (by simp [Tree.prevSibling_insertBefore_none])
  rw [t.firstChild_insertBefore_none s p hp] at hfirst
  split at hfirst
  · rename_i hprev
    rw [h.forest.first] at hfirst
    obtain ⟨r, hk⟩ := List.head?_eq_some_iff.mp hfirst
    simp [(h.forest.placed p [] s r hk).2.1] at hprev
  · cases hfirst

/-- Of the children before the replaced one, the first still has nothing before it, but it is not
the first child any more. -/
theorem not_linksAgree_replace (h : Sound t) (hf : t.prevSibling (some old) ≠ none) :
    ¬LinksAgree (t.replace (some old) none) := by
  intro hl
  obtain ⟨p, hp⟩ := Option.ne_none_iff_exists'.mp fun hp => hf (h.forest.loose old hp).1
  obtain ⟨l, r, hk⟩ := List.append_of_mem (h.forest.listed p old hp)
  obtain ⟨-, hprev, hnext⟩ := h.forest.placed p l old r hk
  cases l with
  | nil => exact hf hprev
  | cons a l =>
    rw [List.cons_append] at hk
    obtain ⟨hpa, hfa, -⟩ := h.forest.placed p [] a _ hk
    obtain ⟨hold, har⟩ : a ≠ old ∧ a ∉ r := by
      have hn := (h.forest.not_mem_around (l := []) hk).2
      simp only [List.mem_append, List.mem_cons, not_or] at hn
      exact hn.2
    have hself : t.prevSibling (some old) ≠ some old := by
      rw [hprev]
      exact fun he => (h.forest.not_mem_around hk).1 (List.mem_of_getLast? he)
    have hpt := h.forest.parent_lt_size (h.forest.listed p old hp)
    have hfirst := hl.firstChild_eq ((t.parent_replace_none old a p hp hold).trans hpa)
      (t.prevSibling_replace_none old a p hp hold hfa)
    rw [t.firstChild_replace_none old p hp hpt hself, hnext] at hfirst
    exact har (List.mem_of_head? hfirst)

/-- Links agree only after a call that spares all children. -/
theorem spares_of_linksAgree (h : Sound t) {c : Call} (hc : c.Gapped t)
    (hl : LinksAgree (c.run t)) : c.Spares t := by
  cases hc with
  | appendNone p hp => exact by_contra fun hk => h.not_linksAgree_append hp hk hl
  | insertNone s _ placed =>
    obtain ⟨p, hp⟩ := Option.ne_none_iff_exists'.mp placed
    exact h.not_linksAgree_insertBefore hp hl
  | replaceByNone old _ => exact by_contra fun hf => h.not_linksAgree_replace hf hl
  | _ => trivial

end Harmed

end Sound

/-- On a tree that is built by legal edits, a call with a missing node does no harm exactly if it
spares all children. -/
theorem Built.unharmed_iff {t : Tree} (h : Built t) {c : Call} (hc : c.Gapped t) :
    Unharmed t c ↔ c.Spares t :=
  ⟨fun hu => h.sound.spares_of_linksAgree hc hu.links, h.sound.unharmed hc⟩

/-- A page with two lists of which the first has two items. -/
def gappedPage : List Edit :=
  [.createElement (.html "ul") [], .append 0 1, .createElement (.html "li") [], .append 1 2,
    .createElement (.html "li") [], .append 1 3, .createElement (.html "ul") [], .append 0 4,
    .createElement (.html "li") []]

/-- Nothing in the place of the first item unlinks it, and the other item stays. -/
theorem unharmed_gappedPage :
    LegalRun .empty gappedPage ∧
      ((gappedPage.foldl Edit.run .empty).replace (some 2) none).children (some 1) = [3] ∧
      Unharmed (gappedPage.foldl Edit.run .empty) (.replace (some 2) none) := by
  have hl : LegalRun .empty gappedPage := by decide +kernel
  have hc : Call.Gapped (gappedPage.foldl Edit.run .empty) (.replace (some 2) none) :=
    .replaceByNone 2 (by decide +kernel)
  have hf : (gappedPage.foldl Edit.run .empty).prevSibling (some 2) = none := by decide +kernel
  exact ⟨hl, by decide +kernel, ((Built.empty.run hl).unharmed_iff hc).mpr hf⟩

/-- Appending nothing to the list with items hides an item that is appended to it next. -/
theorem not_unharmed_gappedPage :
    LegalRun .empty gappedPage ∧
      Call.Gapped (gappedPage.foldl Edit.run .empty) (.append (some 1) none) ∧
      (Edit.append 1 5).Legal ((gappedPage.foldl Edit.run .empty).append (some 1) none) ∧
      (((gappedPage.foldl Edit.run .empty).append (some 1) none).append (some 1)
        (some 5)).children (some 1) = [2, 3] ∧
      ¬Unharmed (gappedPage.foldl Edit.run .empty) (.append (some 1) none) := by
  have hl : LegalRun .empty gappedPage := by decide +kernel
  have hc : Call.Gapped (gappedPage.foldl Edit.run .empty) (.append (some 1) none) :=
    .appendNone 1 (by decide +kernel)
  have he : (Edit.append 1 5).Legal
      ((gappedPage.foldl Edit.run .empty).append (some 1) none) := by decide +kernel
  refine ⟨hl, hc, he, by decide +kernel, fun hu => ?_⟩
  have ho := hu.opened 1 5 he
  revert ho
  decide +kernel

end CoursePage
