import CoursePage.Proofs.ChildLists
import CoursePage.Proofs.Place

/-!
Edits of nodes that are not attached. They change what such nodes hold and list, and the page does
not see it: no step makes an attached node hold or list anything else.
-/

namespace CoursePage

open CoursePage.Tree (document)

namespace Edit

/-- The nodes that an edit is given. -/
def nodes : Edit → List NodeId
  | createElement .. | createText _ | createComment _ | createDoctype .. => []
  | append parent child => [parent, child]
  | insertBefore sibling node => [sibling, node]
  | appendText parent _ => [parent]
  | detach target => [target]
  | replace old node => [old, node]
  | moveChildren source target => [source, target]
  | setAttr node .. | addClass node _ | removeClass node _ => [node]

/-- An edit is given detached nodes only. -/
def Aside (t : Tree) (e : Edit) : Prop := ∀ i ∈ e.nodes, t.isAttached (some i) = false

instance (t : Tree) (e : Edit) : Decidable (e.Aside t) :=
  inferInstanceAs (Decidable (∀ i ∈ e.nodes, t.isAttached (some i) = false))

end Edit

/-- All edits of a list are legal where they are made, and all their nodes are detached there. -/
def AsideRun (t : Tree) : List Edit → Prop
  | [] => True
  | e :: es => (e.Legal t ∧ e.Aside t) ∧ AsideRun (e.run t) es

instance decidableAsideRun (t : Tree) : (es : List Edit) → Decidable (AsideRun t es)
  | [] => inferInstanceAs (Decidable True)
  | e :: es =>
    have := decidableAsideRun (e.run t) es
    inferInstanceAs (Decidable ((_ ∧ _) ∧ _))

namespace Layout

/-- A node holds the same in both, and has the same children. -/
def AgreeAt (v v' : Layout) (i : NodeId) : Prop :=
  v'.content i = v.content i ∧ v'.kids i = v.kids i

variable {v v' v'' : Layout} {i j : NodeId}

theorem AgreeAt.trans (h : v.AgreeAt v' i) (h' : v'.AgreeAt v'' i) : v.AgreeAt v'' i :=
  ⟨h'.1.trans h.1, h'.2.trans h.2⟩

theorem agreeAt_set (h : i ≠ j) (l : List NodeId) : v.AgreeAt (v.set j l) i :=
  ⟨rfl, Function.update_of_ne h _ _⟩

theorem agreeAt_put (h : i ≠ j) (c : Content) : v.AgreeAt (v.put j c) i :=
  ⟨Function.update_of_ne h _ _, rfl⟩

end Layout

namespace Sound

variable {t t' : Tree} {i c p : NodeId}

theorem layout_create (h : Sound t) (content : Content) :
    (t.create content).2.layout = t.layout.put t.size content := by
  refine (h.forest.create content).layout_eq fun i => ?_
  rw [Tree.content?_create]
  by_cases hi : i = t.size <;> simp [hi, Tree.layout]

theorem layout_createElement (h : Sound t) (name : QualName) (attrs : List Attribute) :
    (t.createElement name attrs).2.layout =
      t.layout.put t.size (.element (.ofAttrs name attrs)) := by
  refine (h.forest.createElement name attrs).layout_eq fun i => ?_
  rw [Tree.content?_createElement]
  by_cases hi : i = t.size <;> simp [hi, Tree.layout]

theorem agreeAt_setAttr (h : Sound t) (hi : i ≠ c) (name value : String) :
    t.layout.AgreeAt (t.setAttr (some c) name value).layout i := by
  refine ⟨?_, (h.forest.setAttr _ _ _).children_eq i⟩
  change (t.setAttr (some c) name value).content? (some i) = t.content? (some i)
  cases he : t.element? (some c) with
  | none => rw [Tree.setAttr_of_not_element he]
  | some e => rw [Tree.content?_setAttr he, if_neg (mt Option.some.inj hi)]

theorem agreeAt_addClass (h : Sound t) (hi : i ≠ c) (token : String) :
    t.layout.AgreeAt (t.addClass (some c) token).layout i := by
  unfold Tree.addClass
  split
  · exact ⟨rfl, rfl⟩
  · exact h.agreeAt_setAttr hi _ _

theorem agreeAt_removeClass (h : Sound t) (hi : i ≠ c) (token : String) :
    t.layout.AgreeAt (t.removeClass (some c) token).layout i := by
  unfold Tree.removeClass
  split
  · exact h.agreeAt_setAttr hi _ _
  · exact ⟨rfl, rfl⟩

/-- A child is attached exactly if its parent is. -/
theorem within_iff_of_mem (h : Sound t) (hc : c ∈ t.children (some p)) :
    c ∈ t.within document ↔ p ∈ t.within document := by
  refine ⟨fun hm => ?_, fun hm => h.mem_within_of_mem hm hc⟩
  rw [h.mem_within_iff, h.ancestors_of_mem hc, List.mem_cons] at hm
  rcases hm with rfl | hm
  · exact absurd hc (h.document_not_mem p)
  · exact h.mem_within_iff.mpr hm

theorem ne_of_detached (h : Sound t) (hi : i ∈ t.within document)
    (hd : t.isAttached (some c) = false) : i ≠ c := by
  rintro rfl
  rw [h.isAttached_iff.mpr hi] at hd
  cases hd

theorem ne_parent_of_detached (h : Sound t) (hi : i ∈ t.within document)
    (hd : t.isAttached (some c) = false) (hc : c ∈ t.children (some p)) : i ≠ p := by
  rintro rfl
  exact h.ne_of_detached ((h.within_iff_of_mem hc).mpr hi) hd rfl

theorem ne_child_of_detached (h : Sound t) (hi : i ∈ t.within document)
    (hd : t.isAttached (some p) = false) (hc : c ∈ t.children (some p)) : i ≠ c := by
  rintro rfl
  exact h.ne_of_detached ((h.within_iff_of_mem hc).mp hi) hd rfl

theorem agreeAt_cut (h : Sound t) (hi : i ∈ t.within document)
    (hd : t.isAttached (some c) = false) {v : Layout} (hv : t.layout.Cut c v) :
    t.layout.AgreeAt v i := by
  cases hv with
  | loose _ => exact ⟨rfl, rfl⟩
  | placed p l r hs =>
    have hc : c ∈ t.layout.kids p := by
      rw [hs]
      exact List.mem_append_right l List.mem_cons_self
    exact Layout.agreeAt_set (h.ne_parent_of_detached hi hd hc) _

/-- An edit of detached nodes leaves attached ones as they are. -/
theorem agreeAt_run (h : Sound t) {e : Edit} (hl : e.Legal t) (ha : e.Aside t)
    (hi : i ∈ t.within document) : t.layout.AgreeAt (e.run t).layout i := by
  have hnew : i ≠ t.size := Nat.ne_of_lt (h.lt_size_of_mem_within h.zero_lt_size hi)
  -- The lists that change are those of nodes that the edit is given and of their parents.
  cases e with
  | createElement name attrs =>
    exact h.layout_createElement name attrs ▸ Layout.agreeAt_put hnew _
  | createText text => exact h.layout_create _ ▸ Layout.agreeAt_put hnew _
  | createComment text => exact h.layout_create _ ▸ Layout.agreeAt_put hnew _
  | createDoctype name publicId systemId => exact h.layout_create _ ▸ Layout.agreeAt_put hnew _
  | append parent child =>
    have hp := h.ne_of_detached hi (ha parent List.mem_cons_self)
    exact h.layout_append hl ▸ Layout.agreeAt_set hp _
  | insertBefore sibling node =>
    obtain ⟨p, l, r, hs, hv⟩ := h.layout_insertBefore hl
    have hp := h.ne_parent_of_detached hi (ha sibling List.mem_cons_self) (p := p) (by simp [hs])
    exact hv ▸ Layout.agreeAt_set hp _
  | appendText parent text =>
    have hd := ha parent List.mem_cons_self
    rcases h.layout_appendText hl text with ⟨last, old, hm, _, hv⟩ | ⟨_, hv⟩
    · have hlast := h.ne_child_of_detached hi hd (List.mem_of_getLast? hm)
      exact hv ▸ Layout.agreeAt_put hlast _
    · exact hv ▸ (Layout.agreeAt_put hnew _).trans (Layout.agreeAt_set (h.ne_of_detached hi hd) _)
  | detach target => exact h.agreeAt_cut hi (ha target List.mem_cons_self) (h.cut_detach target)
  | replace old new =>
    cases hp : t.parent (some old) with
    | none =>
      simp only [Edit.run, Tree.replace, hp, Option.isNone_none, if_true]
      exact ⟨rfl, rfl⟩
    | some p =>
      obtain ⟨l, r, _, hv⟩ := h.layout_replace hl hp
      have hop := h.ne_parent_of_detached hi (ha old List.mem_cons_self) (h.forest.listed p old hp)
      have hd := ha new (List.mem_cons_of_mem old List.mem_cons_self)
      exact hv ▸ (h.agreeAt_cut hi hd (h.cut_detach new)).trans (Layout.agreeAt_set hop _)
  | moveChildren source target =>
    have hs := h.ne_of_detached hi (ha source List.mem_cons_self)
    have ht := h.ne_of_detached hi (ha target (List.mem_cons_of_mem source List.mem_cons_self))
    have hv := h.layout_moveChildren hl
    split at hv
    · exact hv ▸ ⟨rfl, rfl⟩
    · exact hv ▸ (Layout.agreeAt_set hs _).trans (Layout.agreeAt_set ht _)
  | setAttr node name value =>
    exact h.agreeAt_setAttr (h.ne_of_detached hi (ha node List.mem_cons_self)) name value
  | addClass node token =>
    exact h.agreeAt_addClass (h.ne_of_detached hi (ha node List.mem_cons_self)) token
  | removeClass node token =>
    exact h.agreeAt_removeClass (h.ne_of_detached hi (ha node List.mem_cons_self)) token

/-- The page is what attached nodes hold and list. -/
theorem page_eq (h : Sound t) (h' : Sound t')
    (hk : ∀ i ∈ t.within document, t.layout.AgreeAt t'.layout i) : t'.page = t.page := by
  have hm : t'.page.map id = t.page.map id :=
    h.map_page h' (fun i hi => (hk i hi).2) fun i hi => congrArg (Prod.mk i) (hk i hi).1
  rwa [Branch.map_id, Branch.map_id] at hm

theorem page_run (h : Sound t) {e : Edit} (hl : e.Legal t) (ha : e.Aside t) :
    (e.run t).page = t.page :=
  h.page_eq (h.run e hl) fun _ => h.agreeAt_run hl ha

/-- However often detached nodes are edited, the page stays the same. -/
theorem page_asideRun (h : Sound t) {es : List Edit} (hr : AsideRun t es) :
    Sound (es.foldl Edit.run t) ∧ (es.foldl Edit.run t).page = t.page := by
  induction es generalizing t with
  | nil => exact ⟨h, rfl⟩
  | cons e es ih =>
    obtain ⟨⟨hl, ha⟩, hr⟩ := hr
    obtain ⟨hs, hp⟩ := ih (h.run e hl) hr
    exact ⟨hs, hp.trans (h.page_run hl ha)⟩

end Sound

end CoursePage
