import CoursePage.Pass.Navbar
import CoursePage.Proofs.Branch

/-!
Entries of navigation lists. Adding one makes three new nodes and changes one list of children;
all that was in the tree before stays where it was.
-/

namespace CoursePage

open CoursePage.Tree (document)

/-- `t'` is `t` with more nodes. Of the old nodes, only the lists have other children and only the
panes hold something else. -/
structure Grown (lists panes : List NodeId) (t t' : Tree) : Prop where
  size_le : t.size ≤ t'.size
  parent : ∀ i < t.size, t'.parent (some i) = t.parent (some i)
  children : ∀ i < t.size, i ∉ lists → t'.children (some i) = t.children (some i)
  content : ∀ i < t.size, i ∉ panes → t'.content? (some i) = t.content? (some i)

namespace Grown

variable {lists lists' panes panes' : List NodeId} {t t' t'' : Tree} {i : NodeId}

theorem refl (t : Tree) : Grown lists panes t t :=
  ⟨Nat.le_refl _, fun _ _ => rfl, fun _ _ _ => rfl, fun _ _ _ => rfl⟩

theorem trans (h : Grown lists panes t t') (h' : Grown lists panes t' t'') :
    Grown lists panes t t'' where
  size_le := Nat.le_trans h.size_le h'.size_le
  parent i hi := (h'.parent i (Nat.lt_of_lt_of_le hi h.size_le)).trans (h.parent i hi)
  children i hi hl :=
    (h'.children i (Nat.lt_of_lt_of_le hi h.size_le) hl).trans (h.children i hi hl)
  content i hi hp := (h'.content i (Nat.lt_of_lt_of_le hi h.size_le) hp).trans (h.content i hi hp)

theorem mono (h : Grown lists panes t t') (hl : lists ⊆ lists') (hp : panes ⊆ panes') :
    Grown lists' panes' t t' where
  size_le := h.size_le
  parent := h.parent
  children i hi hn := h.children i hi fun hm => hn (hl hm)
  content i hi hn := h.content i hi fun hm => hn (hp hm)

/-- The way up from an old node is what it was. -/
theorem up (h : Grown lists panes t t') (ht : Sound t) (hi : i < t.size) :
    Trail t'.parent (some i) (i :: t.ancestors (some i)) :=
  (ht.forest.up i).congr fun j hj => h.parent j (ht.forest.lt_size_of_mem_up hi hj)

theorem ancestors (h : Grown lists panes t t') (ht : Sound t) (ht' : Sound t') (hi : i < t.size) :
    t'.ancestors (some i) = t.ancestors (some i) :=
  (List.cons.inj ((h.up ht hi).unique (ht'.forest.up i))).2.symm

theorem isAttached (h : Grown lists panes t t') (ht : Sound t) (ht' : Sound t') (hi : i < t.size) :
    t'.isAttached (some i) = t.isAttached (some i) :=
  ht.isAttached_congr ht' (h.up ht hi)

end Grown

namespace Navbar

variable {lists panes navs : List NodeId} {t t' : Tree} {id label : String} {nav item : NodeId}
  {first : NodeId}

/-- An item with a link to an id, under which stands the text. None of the three nodes is older
than the first one. -/
def IsEntry (first : NodeId) (id label : String) (t : Tree) (item : NodeId) : Prop :=
  ∃ link text, (∀ i ∈ [item, link, text], first ≤ i) ∧
    t.content? (some item) = some (.element (.ofAttrs (.html "li") [.plain "class" "nav-item"])) ∧
    t.children (some item) = [link] ∧
    t.content? (some link) = some (.element (.ofAttrs (.html "a")
      [.plain "class" "nav-link", .plain "data-toggle" "tab", .plain "href" ("#" ++ id)])) ∧
    t.children (some link) = [text] ∧
    t.content? (some text) = some (.text label)

theorem IsEntry.of_le {first' : NodeId} (h : IsEntry first id label t item) (hle : first' ≤ first) :
    IsEntry first' id label t item := by
  obtain ⟨link, text, hi, h⟩ := h
  exact ⟨link, text, fun i hm => Nat.le_trans hle (hi i hm), h⟩

/-- An entry is newer than the page that it is added to. -/
theorem IsEntry.le (h : IsEntry first id label t item) : first ≤ item := by
  obtain ⟨link, text, hi, -⟩ := h
  exact hi item List.mem_cons_self

/-- Entries stay as they are while older nodes are worked on. -/
theorem IsEntry.of_grown (h : IsEntry first id label t item) (hg : Grown lists panes t t')
    (hl : ∀ i ∈ lists, i < first) (hp : ∀ i ∈ panes, i < first) :
    IsEntry first id label t' item := by
  obtain ⟨link, text, hi, h1, h2, h3, h4, h5⟩ := h
  have hnl : ∀ i ∈ [item, link, text], i ∉ lists := fun i hm hil =>
    Nat.not_lt.mpr (hi i hm) (hl i hil)
  have hnp : ∀ i ∈ [item, link, text], i ∉ panes := fun i hm hip =>
    Nat.not_lt.mpr (hi i hm) (hp i hip)
  refine ⟨link, text, hi, ?_, ?_, ?_, ?_, ?_⟩
  · rw [hg.content item (Tree.lt_size_of_content? h1) (hnp item (by simp)), h1]
  · rw [hg.children item (Tree.lt_size_of_content? h1) (hnl item (by simp)), h2]
  · rw [hg.content link (Tree.lt_size_of_content? h3) (hnp link (by simp)), h3]
  · rw [hg.children link (Tree.lt_size_of_content? h3) (hnl link (by simp)), h4]
  · rw [hg.content text (Tree.lt_size_of_content? h5) (hnp text (by simp)), h5]

/-- Three unlinked leaves are linked below a node, each one below the one before. -/
theorem links_chain (h : Sound t) (nav item link text : NodeId)
    (hd : [nav, item, link, text].Nodup) (hlt : ∀ i ∈ [nav, item, link, text], i < t.size)
    (hp : ∀ i ∈ [item, link, text], t.parent (some i) = none)
    (hk : ∀ i ∈ [item, link, text], t.children (some i) = [])
    (hr : document ∉ [item, link, text]) :
    let t' := ((t.append (some link) (some text)).append (some item) (some link)).append
      (some nav) (some item)
    Sound t' ∧
      (∀ i ∉ [item, link, text], t'.parent (some i) = t.parent (some i)) ∧
      ∀ q, t'.children (some q) =
        if q = nav then t.children (some nav) ++ [item]
        else if q = item then [link]
        else if q = link then [text]
        else t.children (some q) := by
  simp only [List.mem_cons, List.not_mem_nil, or_false, forall_eq_or_imp, forall_eq,
    List.nodup_cons, not_or, eq_comm (a := document)] at hd hlt hp hk hr
  obtain ⟨⟨hni, hnl, hnt⟩, ⟨hil, hit⟩, hlt', -⟩ := hd
  obtain ⟨hsn, hsi, hsl, hst⟩ := hlt
  obtain ⟨hki, hkl, hkt⟩ := hk
  have hw : t.within text = [text] := by rw [h.within_eq, hkt, List.flatMap_nil]
  have hl1 : (Edit.append link text).Legal t :=
    ⟨hsl, hst, hp.2.2, hr.2.2, by rw [← h.mem_within_iff, hw]; simpa using hlt'⟩
  have h1 := h.append hl1
  have hk1 := h.children_append hl1
  have hw1 : (t.append (some link) (some text)).within link = [link, text] := by
    rw [h1.within_eq, hk1, if_pos rfl, hkl, List.nil_append, List.flatMap_singleton,
      h1.within_eq text, hk1, if_neg (Ne.symm hlt'), hkt, List.flatMap_nil]
  have hl2 : (Edit.append item link).Legal (t.append (some link) (some text)) := by
    refine ⟨by simpa using hsi, by simpa using hsl, ?_, hr.2.1, ?_⟩
    · rw [Tree.parent_append hst, if_neg hlt', hp.2.1]
    · rw [← h1.mem_within_iff, hw1]
      simp [hil, hit]
  have h2 := h1.append hl2
  have hk2 := h1.children_append hl2
  have hw2 : ((t.append (some link) (some text)).append (some item) (some link)).within item =
      [item, link, text] := by
    rw [h2.within_eq, hk2, if_pos rfl, hk1, if_neg hil, hki, List.nil_append,
      List.flatMap_singleton, h2.within_eq link, hk2, if_neg (Ne.symm hil), hk1, if_pos rfl, hkl,
      List.nil_append, List.flatMap_singleton, h2.within_eq text, hk2, if_neg (Ne.symm hit), hk1,
      if_neg (Ne.symm hlt'), hkt, List.flatMap_nil]
  have hl3 : (Edit.append nav item).Legal
      ((t.append (some link) (some text)).append (some item) (some link)) := by
    refine ⟨by simpa using hsn, by simpa using hsi, ?_, hr.1, ?_⟩
    · rw [Tree.parent_append (by simpa using hsl), if_neg hil, Tree.parent_append hst,
        if_neg hit, hp.1]
    · rw [← h2.mem_within_iff, hw2]
      simp [hni, hnl, hnt]
  refine ⟨h2.append hl3, fun i hi => ?_, fun q => ?_⟩
  · simp only [List.mem_cons, List.not_mem_nil, or_false, not_or] at hi
    rw [Tree.parent_append (by simpa using hsi), if_neg hi.1,
      Tree.parent_append (by simpa using hsl), if_neg hi.2.1, Tree.parent_append hst,
      if_neg hi.2.2]
  · rw [h2.children_append hl3, hk2, hk2, hk1, hk1, hk1, if_neg hni, if_neg hnl]
    by_cases hq : q = nav
    · rw [if_pos hq, if_pos hq]
    · by_cases hq' : q = item <;> by_cases hq'' : q = link <;> simp_all

/-- The three new nodes of an entry hold the item, the link and the text. -/
theorem content?_appendEntry (id label : String) (t : Tree) (nav : NodeId) (k : Link) :
    (appendEntry id label t nav).content? k =
      if k = some (t.size + 2) then some (.text label)
      else if k = some (t.size + 1) then some (.element (.ofAttrs (.html "a") (linkAttrs id)))
      else if k = some t.size then some (.element (.ofAttrs (.html "li") itemAttrs))
      else t.content? k := by
  simp [appendEntry, Tree.createText, Tree.content?_create, Tree.content?_createElement]

/-- A new entry stands at the end of its list. -/
theorem links_appendEntry (h : Sound t) (hn : nav < t.size) (id label : String) :
    Sound (appendEntry id label t nav) ∧
      (∀ i < t.size, (appendEntry id label t nav).parent (some i) = t.parent (some i)) ∧
      ∀ q, (appendEntry id label t nav).children (some q) =
        if q = nav then t.children (some nav) ++ [t.size]
        else if q = t.size then [t.size + 1]
        else if q = t.size + 1 then [t.size + 2]
        else t.children (some q) := by
  let t1 := (t.createElement (.html "li") itemAttrs).2
  let t2 := (t1.createElement (.html "a") (linkAttrs id)).2
  let t3 := (t2.createText label).2
  have hs1 : t1.size = t.size + 1 := by simp [t1]
  have hs2 : t2.size = t.size + 2 := by simp [t2, hs1]
  have hs3 : t3.size = t.size + 3 := by simp [t3, Tree.createText, hs2]
  have h3 : Sound t3 :=
    ((h.createElement _ _).createElement _ _).create (Content.synced_of_element?_eq_none rfl)
  have hf3 : Forest t3 fun q => t.children (some q) :=
    ((h.forest.createElement _ _).createElement _ _).create _
  have hp3 : ∀ i, t3.parent (some i) = t.parent (some i) := fun i =>
    h.forest.parent_congr hf3 fun _ => Iff.rfl
  have hnew : ∀ i ∈ [t.size, t.size + 1, t.size + 2], t.size ≤ i := by simp
  have hk : ∀ i ∈ [t.size, t.size + 1, t.size + 2], t3.children (some i) = [] := fun i hi =>
    (hf3.children_eq i).trans (h.children_eq_nil_of_size_le (hnew i hi))
  obtain ⟨hs, hp, hc⟩ := links_chain h3 nav t.size (t.size + 1) (t.size + 2)
    (by simp [Nat.ne_of_lt hn, Nat.ne_of_lt (Nat.lt_add_right 1 hn),
      Nat.ne_of_lt (Nat.lt_add_right 2 hn)])
    (by simp [hs3, Nat.lt_add_right 3 hn])
    (fun i hi => (hp3 i).trans (Tree.parent_eq_none_of_size_le (hnew i hi))) hk
    (fun hd => Nat.not_lt.mpr (hnew _ hd) h.zero_lt_size)
  have he : appendEntry id label t nav =
      ((t3.append (some (t.size + 1)) (some (t.size + 2))).append (some t.size)
        (some (t.size + 1))).append (some nav) (some t.size) := by
    rw [← hs1, ← hs2]
    rfl
  rw [he]
  refine ⟨hs, fun i hi => ?_, fun q => ?_⟩
  · rw [hp i fun hm => Nat.not_lt.mpr (hnew i hm) hi, hp3]
  · rw [hc, hf3.children_eq, hf3.children_eq]

theorem size_appendEntry (id label : String) (t : Tree) (nav : NodeId) :
    (appendEntry id label t nav).size = t.size + 3 := by
  simp [appendEntry, Tree.createText]

/-- An entry has no id, so it takes none. -/
theorem ids_appendEntry (id label : String) (t : Tree) (nav : NodeId) :
    (appendEntry id label t nav).ids = t.ids := by
  have hi : Element.lastValue? "id" itemAttrs = none := rfl
  have hl : Element.lastValue? "id" (linkAttrs id) = none := rfl
  simp [appendEntry, Tree.createText, Tree.createElement, Element.ofAttrs, hi, hl, Tree.claimId]

/-- Neither the item nor the link nor the text has an id. -/
theorem elementId_appendEntry (id label : String) (t : Tree) (nav : NodeId) (k : Link) :
    (appendEntry id label t nav).elementId k = t.elementId k := by
  let t1 := (t.createElement (.html "li") itemAttrs).2
  let t2 := (t1.createElement (.html "a") (linkAttrs id)).2
  have hc : (appendEntry id label t nav).content? k = (t2.createText label).2.content? k := by
    simp [appendEntry, t1, t2]
  rw [Tree.elementId, Tree.element?_congr hc]
  calc (t2.createText label).2.elementId k = t2.elementId k := t2.elementId_create rfl k
    _ = t1.elementId k := t1.elementId_createElement rfl k
    _ = t.elementId k := t.elementId_createElement rfl k

theorem size_appendEntries (id label : String) (navs : List NodeId) (t : Tree) :
    (navs.foldl (appendEntry id label) t).size = t.size + 3 * navs.length := by
  induction navs generalizing t with
  | nil => rfl
  | cons nav navs ih =>
    rw [List.foldl_cons, ih, size_appendEntry, List.length_cons]
    omega

theorem elementId_appendEntries (id label : String) (navs : List NodeId) (t : Tree) (k : Link) :
    (navs.foldl (appendEntry id label) t).elementId k = t.elementId k :=
  List.foldlRecOn (motive := fun t' : Tree => t'.elementId k = t.elementId k) navs _ rfl
    fun t' ht nav _ => (elementId_appendEntry id label t' nav k).trans ht

theorem grown_appendEntry (h : Sound t) (hn : nav < t.size) (hl : nav ∈ lists)
    (id label : String) : Grown lists [] t (appendEntry id label t nav) := by
  obtain ⟨-, hp, hc⟩ := links_appendEntry h hn id label
  refine ⟨by simp [size_appendEntry], hp, fun i hi hil => ?_, fun i hi _ => ?_⟩
  · have hin : i ≠ nav := fun he => hil (he ▸ hl)
    rw [hc, if_neg hin, if_neg (Nat.ne_of_lt hi), if_neg (Nat.ne_of_lt (Nat.lt_succ_of_lt hi))]
  · have hne : ∀ n, i ≠ t.size + n := fun n => Nat.ne_of_lt (Nat.lt_add_right n hi)
    simp [content?_appendEntry, hne, Nat.ne_of_lt hi]

theorem isEntry_appendEntry (h : Sound t) (hn : nav < t.size) (id label : String) :
    IsEntry t.size id label (appendEntry id label t nav) t.size := by
  obtain ⟨-, -, hc⟩ := links_appendEntry h hn id label
  refine ⟨t.size + 1, t.size + 2, by simp, ?_, ?_, ?_, ?_, ?_⟩
  · simp [content?_appendEntry, itemAttrs]
  · rw [hc, if_neg (Nat.ne_of_gt hn), if_pos rfl]
  · simp [content?_appendEntry, linkAttrs]
  · rw [hc, if_neg (Nat.ne_of_gt (Nat.lt_succ_of_lt hn)), if_neg (by simp), if_pos rfl]
  · simp [content?_appendEntry]

/-- `t'` is `t` with one entry more in every list. -/
structure Listed (id label : String) (navs : List NodeId) (t t' : Tree) : Prop where
  sound : Sound t'
  grown : Grown navs [] t t'
  ids : t'.ids = t.ids
  entries : ∀ nav ∈ navs, ∃ item, t'.children (some nav) = t.children (some nav) ++ [item] ∧
    IsEntry t.size id label t' item

/-- Adding entries list by list gives every list one entry. -/
theorem listed_foldl (h : Sound t) (hn : navs.Nodup) (hlt : ∀ nav ∈ navs, nav < t.size)
    (id label : String) : Listed id label navs t (navs.foldl (appendEntry id label) t) := by
  induction navs generalizing t with
  | nil => exact ⟨h, .refl t, rfl, by simp⟩
  | cons nav navs ih =>
    rw [List.nodup_cons] at hn
    have hnav := hlt nav List.mem_cons_self
    have hlt' : ∀ n ∈ navs, n < t.size := fun n hm => hlt n (List.mem_cons_of_mem nav hm)
    obtain ⟨hs, -, hc⟩ := links_appendEntry h hnav id label
    have hg : Grown (nav :: navs) [] t (appendEntry id label t nav) :=
      grown_appendEntry h hnav List.mem_cons_self id label
    have hr := ih hs hn.2 fun n hm => Nat.lt_of_lt_of_le (hlt' n hm) hg.size_le
    have hgr := hr.grown.mono (List.subset_cons_self nav navs) (List.Subset.refl [])
    rw [List.foldl_cons]
    refine ⟨hr.sound, hg.trans hgr, hr.ids.trans (ids_appendEntry id label t nav), fun n hm => ?_⟩
    rcases List.mem_cons.mp hm with rfl | hm
    · refine ⟨t.size, ?_, (isEntry_appendEntry h hnav id label).of_grown hr.grown hlt' (by simp)⟩
      rw [hr.grown.children n (Nat.lt_of_lt_of_le hnav hg.size_le) hn.1, hc,
        if_pos rfl]
    · obtain ⟨item, hi, he⟩ := hr.entries n hm
      have hne : n ≠ nav := fun he => hn.1 (he ▸ hm)
      refine ⟨item, ?_, he.of_le hg.size_le⟩
      rw [hi, hc, if_neg hne, if_neg (Nat.ne_of_lt (hlt' n hm)),
        if_neg (Nat.ne_of_lt (Nat.lt_succ_of_lt (hlt' n hm)))]

end Navbar

end CoursePage
