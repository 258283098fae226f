import CoursePage.Proofs.Built

/-!
Linking and unlinking as operations on lists. Without its links a tree says what each node holds and
in which order its children stand; every edit of links changes one or two of these lists and leaves
the others as they are.
-/

namespace CoursePage

/-- What nodes hold and the lists of their children. -/
structure Layout where
  content : NodeId → Option Content
  kids : NodeId → List NodeId

namespace Layout

/-- Gives one node another list of children. -/
def set (v : Layout) (p : NodeId) (l : List NodeId) : Layout :=
  { v with kids := Function.update v.kids p l }

/-- Lets one node hold something else. -/
def put (v : Layout) (i : NodeId) (c : Content) : Layout :=
  { v with content := Function.update v.content i (some c) }

/-- A node is taken out of the list that it is in, if it is in any. -/
inductive Cut (v : Layout) (c : NodeId) : Layout → Prop where
  | loose (h : ∀ p, c ∉ v.kids p) : Cut v c v
  | placed (p : NodeId) (l r : List NodeId) (h : v.kids p = l ++ c :: r) :
    Cut v c (v.set p (l ++ r))

end Layout

def Tree.layout (t : Tree) : Layout where
  content i := t.content? (some i)
  kids p := t.children (some p)

namespace Forest

variable {t t' : Tree} {kids : NodeId → List NodeId} {p old new : NodeId} {l r : List NodeId}

theorem layout_eq (h : Forest t kids) {content : NodeId → Option Content}
    (hc : ∀ i, t.content? (some i) = content i) : t.layout = ⟨content, kids⟩ := by
  have hk : (fun p => t.children (some p)) = kids := funext h.children_eq
  have hc' : (fun i => t.content? (some i)) = content := funext hc
  rw [Tree.layout, hk, hc']

theorem exchange_eq_update (h : Forest t kids) (hs : kids p = l ++ old :: r) :
    (fun q => (kids q).map (exchange old new)) = Function.update kids p (l ++ new :: r) := by
  obtain ⟨hl, hr⟩ := h.not_mem_around hs
  funext q
  by_cases hq : q = p
  · subst q
    rw [Function.update_self, hs, List.map_append, List.map_cons, map_exchange_of_not_mem hl,
      map_exchange_of_not_mem hr, exchange, if_pos rfl]
  · rw [Function.update_of_ne hq, map_exchange_of_not_mem]
    intro hm
    exact hq (h.parent_unique hm (by simp [hs]))

end Forest

namespace Sound

variable {t : Tree} {p c s old new source target : NodeId}

theorem layout_append (h : Sound t) (hl : (Edit.append p c).Legal t) :
    (t.append (some p) (some c)).layout = t.layout.set p (t.children (some p) ++ [c]) := by
  obtain ⟨hp, hc, hn, _, hu⟩ := hl
  have hf := h.forest.append hp hc hn (h.forest.up p) hu
  exact hf.layout_eq fun i => t.content?_append _ _ _

theorem layout_insertBefore (h : Sound t) (hl : (Edit.insertBefore s c).Legal t) :
    ∃ p l r, t.children (some p) = l ++ s :: r ∧
      (t.insertBefore (some s) (some c)).layout = t.layout.set p (l ++ c :: s :: r) := by
  obtain ⟨_, hc, hs, hn, _, hu⟩ := hl
  obtain ⟨p, hp⟩ := Option.ne_none_iff_exists'.mp hs
  obtain ⟨l, r, hk⟩ := List.append_of_mem (h.forest.listed p s hp)
  rw [h.forest.ancestors_of_parent hp] at hu
  have hup : c ∉ p :: t.ancestors (some p) := fun hm => hu (List.mem_cons_of_mem s hm)
  have hf := h.forest.insertBefore hk hc hn (h.forest.up p) hup
  exact ⟨p, l, r, hk, hf.layout_eq fun i => t.content?_insertBefore _ _ _⟩

theorem layout_appendText (h : Sound t) (hp : p < t.size) (text : String) :
    (∃ last old, (t.children (some p)).getLast? = some last ∧ t.text? (some last) = some old ∧
      (t.appendText (some p) text).layout = t.layout.put last (.text (old ++ text))) ∨
    t.text? (t.children (some p)).getLast? = none ∧
      (t.appendText (some p) text).layout =
        (t.layout.put t.size (.text text)).set p (t.children (some p) ++ [t.size]) := by
  have hf := h.forest.appendText hp text
  have hc := t.content?_appendText (some p) text
  rw [h.forest.last p] at hf hc
  cases hx : t.text? (t.children (some p)).getLast? with
  | none =>
    right
    simp only [hx, Tree.isText, Option.isSome_none, Bool.false_eq_true, if_false] at hf hc
    refine ⟨rfl, hf.layout_eq fun i => ?_⟩
    rw [hc]
    by_cases hi : i = t.size <;> simp [hi, Layout.put, Tree.layout]
  | some old =>
    left
    obtain ⟨n, hn, _⟩ := Option.bind_eq_some_iff.mp hx
    obtain ⟨last, hl, _⟩ := Option.bind_eq_some_iff.mp hn
    rw [hl] at hn hx hf hc
    simp only [hx, Tree.isText, Option.isSome_some, if_true] at hf hc
    refine ⟨last, old, hl, hx, hf.layout_eq fun i => ?_⟩
    rw [hc]
    by_cases hi : i = last <;> simp [hi, Tree.layout, Tree.content?, hn]

theorem cut_detach (h : Sound t) (c : NodeId) :
    t.layout.Cut c (t.detach (some c)).layout := by
  cases hp : t.parent (some c) with
  | none =>
    rw [h.forest.detach_of_loose hp]
    exact .loose fun p => h.forest.loose_not_mem hp
  | some p =>
    obtain ⟨l, r, hs⟩ := List.append_of_mem (h.forest.listed p c hp)
    have hf := h.forest.detach c
    rw [h.forest.erase_eq_update hs] at hf
    rw [hf.layout_eq fun i => t.content?_detach _ _]
    exact .placed p l r hs

/-- The new node is unlinked first, so the place of the old one is where it is then. -/
theorem layout_replace (h : Sound t) (hl : (Edit.replace old new).Legal t)
    (hp : t.parent (some old) = some p) :
    ∃ l r, (t.detach (some new)).children (some p) = l ++ old :: r ∧
      (t.replace (some old) (some new)).layout =
        (t.detach (some new)).layout.set p (l ++ new :: r) := by
  obtain ⟨_, hn, _, hu⟩ := hl
  rw [h.forest.ancestors_of_parent hp, List.mem_cons, not_or] at hu
  have hm := h.forest.listed p old hp
  have hd := h.forest.detach new
  have hf := h.forest.replace hm hn (h.forest.up p) hu.2 hu.1
  have hm' : old ∈ (t.children (some p)).erase new := (List.mem_erase_of_ne (Ne.symm hu.1)).mpr hm
  obtain ⟨l, r, hs⟩ := List.append_of_mem hm'
  refine ⟨l, r, (hd.children_eq p).trans hs, ?_⟩
  rw [hd.exchange_eq_update hs] at hf
  rw [hd.layout_eq fun i => t.content?_detach _ _]
  exact hf.layout_eq fun i => t.content?_replace _ _ _

/-- The old node keeps the children that it has then and is in no list any more. -/
theorem old_replace (h : Sound t) (hl : (Edit.replace old new).Legal t)
    (hp : t.parent (some old) = some p) :
    (t.replace (some old) (some new)).parent (some old) = none ∧
      (t.replace (some old) (some new)).children (some old) =
        (t.detach (some new)).children (some old) := by
  have hne : new ≠ old := fun he => hl.2.2.2 (he ▸ List.mem_cons_self)
  have hpo : old ≠ p := by
    intro he
    exact (h.forest.up old).step_ne_start List.mem_cons_self (he ▸ hp)
  have hd := (h.detach new).forest
  obtain ⟨l, r, hs, hv⟩ := h.layout_replace hl hp
  have hk : ∀ q, (t.replace (some old) (some new)).children (some q) =
      Function.update (fun q => (t.detach (some new)).children (some q)) p (l ++ new :: r) q :=
    congrFun (congrArg Layout.kids hv)
  refine ⟨?_, by rw [hk, Function.update_of_ne hpo]⟩
  cases hq : (t.replace (some old) (some new)).parent (some old) with
  | none => rfl
  | some q =>
    have hm := (h.replace hl).forest.listed q old hq
    rw [hk] at hm
    by_cases hqp : q = p
    · subst q
      obtain ⟨hol, hor⟩ := hd.not_mem_around hs
      simp [hol, hor, Ne.symm hne] at hm
    · rw [Function.update_of_ne hqp] at hm
      exact absurd (hd.parent_unique hm (by simp [hs])) hqp

theorem layout_moveChildren (h : Sound t) (hl : (Edit.moveChildren source target).Legal t) :
    (t.moveChildren (some source) (some target)).layout =
      if source = target then t.layout
      else (t.layout.set source []).set target
        (t.children (some target) ++ t.children (some source)) := by
  obtain ⟨_, ht, hu⟩ := hl
  have hf := h.forest.moveChildren source ht (h.forest.up target) fun c hc hm =>
    hu (h.forest.mem_ancestors_iff.mpr ⟨c, hm, h.forest.parent_of_mem hc⟩)
  rw [hf.layout_eq fun i => t.content?_moveChildren _ _ _]
  by_cases hst : source = target
  · subst hst
    rw [if_pos rfl]
    refine congrArg (Layout.mk _) (funext fun q => ?_)
    by_cases hq : q = source <;> simp [hq]
  · rw [if_neg hst]
    refine congrArg (Layout.mk _) (funext fun q => ?_)
    simp only [Layout.set, Tree.layout, Function.update_apply]
    by_cases hq : q = target <;> by_cases hq' : q = source <;> simp_all

end Sound

/-- Every edit of links is an edit of lists: the lists that it does not name and what all nodes hold
stay the same. -/
structure EditsLists (t : Tree) : Prop where
  append : ∀ p c, (Edit.append p c).Legal t →
    (t.append (some p) (some c)).layout = t.layout.set p (t.layout.kids p ++ [c])
  insertBefore : ∀ s c, (Edit.insertBefore s c).Legal t → ∃ p l r,
    t.layout.kids p = l ++ s :: r ∧
      (t.insertBefore (some s) (some c)).layout = t.layout.set p (l ++ c :: s :: r)
  /-- Text goes into a text at the end of the list, or into a new node there. -/
  appendText : ∀ p text, (Edit.appendText p text).Legal t →
    (∃ last old, (t.layout.kids p).getLast? = some last ∧ t.text? (some last) = some old ∧
      (t.appendText (some p) text).layout = t.layout.put last (.text (old ++ text))) ∨
    t.text? (t.layout.kids p).getLast? = none ∧
      (t.appendText (some p) text).layout =
        (t.layout.put t.size (.text text)).set p (t.layout.kids p ++ [t.size])
  detach : ∀ c, (Edit.detach c).Legal t →
    t.layout.Cut c (t.detach (some c)).layout ∧ (t.detach (some c)).parent (some c) = none
  /-- The new node is taken out first and then gets the place of the old one, which keeps its
  other children. -/
  replace : ∀ old new, (Edit.replace old new).Legal t → t.parent (some old) ≠ none →
    ∃ v, t.layout.Cut new v ∧
      (∃ p l r, v.kids p = l ++ old :: r ∧
        (t.replace (some old) (some new)).layout = v.set p (l ++ new :: r)) ∧
      (t.replace (some old) (some new)).parent (some old) = none ∧
      (t.replace (some old) (some new)).children (some old) = v.kids old
  replaceLoose : ∀ old new, t.parent (some old) = none → t.replace (some old) (some new) = t
  moveChildren : ∀ source target, (Edit.moveChildren source target).Legal t → source ≠ target →
    (t.moveChildren (some source) (some target)).layout =
      (t.layout.set source []).set target (t.layout.kids target ++ t.layout.kids source)
  moveToSelf : ∀ i, (Edit.moveChildren i i).Legal t →
    (t.moveChildren (some i) (some i)).layout = t.layout

/-- On a tree that is built by legal edits, every legal edit of links is an edit of lists. -/
theorem Built.editsLists {t : Tree} (h : Built t) : EditsLists t where
  append _ _ hl := h.sound.layout_append hl
  insertBefore _ _ hl := h.sound.layout_insertBefore hl
  appendText _ text hl := h.sound.layout_appendText hl text
  detach c _ := ⟨h.sound.cut_detach c, h.sound.forest.parent_detach_self⟩
  replace old new hl hp := by
    obtain ⟨p, hp⟩ := Option.ne_none_iff_exists'.mp hp
    obtain ⟨l, r, hs, hv⟩ := h.sound.layout_replace hl hp
    obtain ⟨hn, hk⟩ := h.sound.old_replace hl hp
    exact ⟨_, h.sound.cut_detach new, ⟨p, l, r, hs, hv⟩, hn, hk⟩
  replaceLoose old new hp := by simp [Tree.replace, hp]
  moveChildren source target hl hne := by
    rw [h.sound.layout_moveChildren hl, if_neg hne]
    rfl
  moveToSelf i hl := by rw [h.sound.layout_moveChildren hl, if_pos rfl]

/-- A list of three items, the middle one with an element inside that may take its place. -/
def filledList : List Edit :=
  [.createElement (.html "ul") [], .append 0 1, .createElement (.html "li") [], .append 1 2,
    .createElement (.html "li") [], .append 1 3, .createElement (.html "li") [], .append 1 4,
    .createElement (.html "b") [], .append 3 5, .createText "x", .append 3 6]

theorem editsLists_filledList :
    LegalRun .empty filledList ∧
      (Edit.replace 3 5).Legal (filledList.foldl Edit.run .empty) ∧
      (filledList.foldl Edit.run .empty).children (some 1) = [2, 3, 4] ∧
      ((filledList.foldl Edit.run .empty).replace (some 3) (some 5)).children (some 1) =
        [2, 5, 4] ∧
      ((filledList.foldl Edit.run .empty).replace (some 3) (some 5)).children (some 3) = [6] ∧
      EditsLists (filledList.foldl Edit.run .empty) := by
  have hl : LegalRun .empty filledList := by decide +kernel
  exact ⟨hl, by decide +kernel, by decide +kernel, by decide +kernel, by decide +kernel,
    (Built.empty.run hl).editsLists⟩

end CoursePage
