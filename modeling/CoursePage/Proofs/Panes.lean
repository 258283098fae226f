import CoursePage.Proofs.Entry
import CoursePage.Proofs.Token

/-!
What the pass over the exercises does to any page. One exercise after the other is written and gets
its entries; the nodes that were there keep their places, and the index of ids leads to an exercise
from the id that it has taken. Nothing is asked of the attributes: where an exercise has several of
one local name, it may come to have another id than that of its number.
-/

namespace CoursePage

theorem getElem?_concat_eq_some {α : Type} {l : List α} {a x : α} {i : Nat}
    (h : (l ++ [a])[i]? = some x) : l[i]? = some x ∨ i = l.length ∧ a = x := by
  rcases Nat.lt_trichotomy i l.length with hi | hi | hi
  · exact Or.inl (List.getElem?_append_left hi ▸ h)
  · subst i
    exact Or.inr ⟨rfl, by simpa using h⟩
  · have hn : (l ++ [a])[i]? = none := List.getElem?_eq_none (by rw [List.length_append]; exact hi)
    simp [hn] at h

namespace Navbar

variable {t t' t'' : Tree} {pane : NodeId} {e : Element}

/-- `t'` is `t` with another element at a pane, to which the index leads from the element's id. -/
structure Renewed (t : Tree) (pane : NodeId) (e : Element) (t' : Tree) : Prop where
  sound : Sound t'
  size : t'.size = t.size
  children : ∀ q, t'.children (some q) = t.children (some q)
  content : ∀ k, t'.content? k = if k = some pane then some (.element e) else t.content? k
  lookup : ∀ key, t'.ids.lookup key = if e.id = some key then some pane else t.ids.lookup key

namespace Renewed

theorem element (h : Renewed t pane e t') : t'.element? (some pane) = some e :=
  Tree.element?_of_content? (by rw [h.content, if_pos rfl])

theorem synced (h : Renewed t pane e t') : e = .ofAttrs e.name e.attrs :=
  h.sound.synced pane _ (Tree.content?_of_element? h.element) e rfl

theorem lookup_self (h : Renewed t pane e t') :
    ∀ key, e.id = some key → t'.ids.lookup key = some pane := by
  intro key hk
  rw [h.lookup, if_pos hk]

theorem element?_of_ne (h : Renewed t pane e t') {i : NodeId} (hi : i ≠ pane) :
    t'.element? (some i) = t.element? (some i) := by
  apply Tree.element?_congr
  rw [h.content, if_neg (by simpa using hi)]

theorem elementId (h : Renewed t pane e t') (i : NodeId) :
    t'.elementId (some i) = if i = pane then e.id else t.elementId (some i) := by
  by_cases hi : i = pane
  · rw [if_pos hi, hi, Tree.elementId, h.element]
    rfl
  · rw [if_neg hi, Tree.elementId, Tree.elementId, h.element?_of_ne hi]

theorem setAttr (ht : Sound t) (he : t.element? (some pane) = some e) (name value : String) :
    Renewed t pane (e.withAttr name value) (t.setAttr (some pane) name value) where
  sound := ht.setAttr _ _ _
  size := Tree.size_setAttr _ _ _ _
  children := (ht.forest.setAttr _ _ _).children_eq
  content := Tree.content?_setAttr he _ _
  lookup := Tree.lookup_setAttr he _ _

/-- An element that has a class already is not written, so it does not take its id anew. -/
theorem same_or_renewed (ht : Sound t) (he : t.element? (some pane) = some e) (token : String) :
    (t.addClass (some pane) token = t ∧ e.addClass token = e) ∨
      Renewed t pane (e.addClass token) (t.addClass (some pane) token) := by
  by_cases hc : token ∈ e.classes
  · left
    simp [Tree.addClass, Element.addClass, Tree.hasClass, Tree.classes, he, hc]
  · right
    have hw := setAttr ht he "class" (" ".intercalate (e.classes ++ [token]))
    simpa [Tree.addClass, Element.addClass, Tree.isElement, Tree.hasClass, Tree.classes, he, hc]
      using hw

theorem addClass (h : Renewed t pane e t') (token : String) :
    Renewed t pane (e.addClass token) (t'.addClass (some pane) token) where
  sound := h.sound.addClass _ _
  size := (Tree.size_addClass _ _ _).trans h.size
  children q := ((h.sound.forest.addClass _ _).children_eq q).trans (h.children q)
  content k := by
    rw [Tree.content?_addClass h.element, h.content]
    split <;> rfl
  lookup key := by
    rw [Tree.lookup_addClass h.element h.synced h.lookup_self, h.lookup,
      Element.id_addClass h.synced]

theorem removeClass (h : Renewed t pane e t') (token : String) :
    Renewed t pane (e.removeClass token) (t'.removeClass (some pane) token) where
  sound := h.sound.removeClass _ _
  size := (Tree.size_removeClass _ _ _).trans h.size
  children q := ((h.sound.forest.removeClass _ _).children_eq q).trans (h.children q)
  content k := by
    rw [Tree.content?_removeClass h.element, h.content]
    split <;> rfl
  lookup key := by
    rw [Tree.lookup_removeClass h.element h.synced h.lookup_self, h.lookup,
      Element.id_removeClass h.synced]

theorem addClasses (h : Renewed t pane e t') (tokens : List String) :
    Renewed t pane (tokens.foldl Element.addClass e)
      (tokens.foldl (fun t c => t.addClass (some pane) c) t') := by
  induction tokens generalizing e t' with
  | nil => exact h
  | cons token tokens ih => exact ih (h.addClass token)

theorem grown (h : Renewed t pane e t') (ht : Sound t) (lists : List NodeId) :
    Grown lists [pane] t t' where
  size_le := Nat.le_of_eq h.size.symm
  parent i _ := by
    refine ht.forest.parent_congr h.sound.forest fun q => ?_
    rw [h.children]
  children i _ _ := h.children i
  content i _ hi := by
    rw [h.content, if_neg]
    simpa using hi

end Renewed

variable {s : NavbarSettings} {navs done : List NodeId} {look : Nat → Element → Element}

/-- What an exercise becomes before the first one is shown. They are counted from zero. -/
def paneOf (s : NavbarSettings) (i : Nat) (e : Element) : Element :=
  let e := paneClasses.foldl Element.addClass (e.withAttr "id" (s.sectionId (i + 1)))
  if i = 0 then e else e.removeClass activeClass

/-- What an exercise has become when all is done. -/
def shownPaneOf (s : NavbarSettings) (i : Nat) (e : Element) : Element :=
  if i = 0 then (paneOf s i e).addClass activeClass else paneOf s i e

theorem shownPaneOf_zero (s : NavbarSettings) (e : Element) :
    shownPaneOf s 0 e = (paneOf s 0 e).addClass activeClass :=
  if_pos rfl

theorem shownPaneOf_succ (s : NavbarSettings) (i : Nat) (e : Element) :
    shownPaneOf s (i + 1) e = paneOf s (i + 1) e :=
  if_neg (Nat.succ_ne_zero i)

theorem renewed_markSection (ht : Sound t) (he : t.element? (some pane) = some e)
    (s : NavbarSettings) (i : Nat) : Renewed t pane (paneOf s i e)
      (markSection (s.sectionId (i + 1)) (i == 0) pane t) := by
  have h := (Renewed.setAttr ht he "id" (s.sectionId (i + 1))).addClasses paneClasses
  by_cases hi : i = 0
  · simpa [paneOf, markSection, hi] using h
  · simpa [paneOf, markSection, hi] using h.removeClass activeClass

/-- The index of `t'` leads to a pane from each id that one of the panes has. From all other ids it
leads where the index of `t` led. -/
def Leads (t : Tree) (panes : List NodeId) (t' : Tree) : Prop :=
  ∀ key, (∃ pane ∈ panes, t'.elementId (some pane) = some key ∧ t'.ids.lookup key = some pane) ∨
    (∀ pane ∈ panes, t'.elementId (some pane) ≠ some key) ∧
      t'.ids.lookup key = t.ids.lookup key

namespace Leads

variable {panes : List NodeId}

theorem refl (t : Tree) : Leads t [] t := fun _ => Or.inr ⟨by simp, rfl⟩

theorem congr (h : Leads t panes t') (he : ∀ k, t''.elementId k = t'.elementId k)
    (hi : t''.ids = t'.ids) : Leads t panes t'' := by
  intro key
  simp only [he, hi]
  exact h key

/-- A pane may be written again as long as it keeps its id. -/
theorem renewed (h : Leads t panes t') (hr : Renewed t' pane e t'')
    (hp : pane ∈ panes → t'.elementId (some pane) = e.id) {panes' : List NodeId}
    (hm : ∀ i, i ∈ panes' ↔ i ∈ panes ∨ i = pane) : Leads t panes' t'' := by
  intro key
  by_cases hk : e.id = some key
  · refine Or.inl ⟨pane, (hm pane).mpr (Or.inr rfl), ?_, hr.lookup_self key hk⟩
    rw [hr.elementId, if_pos rfl, hk]
  · rw [hr.lookup, if_neg hk]
    rcases h key with ⟨i, hi, hid, hl⟩ | ⟨hn, hl⟩
    · have hne : i ≠ pane := by
        rintro rfl
        exact hk ((hp hi).symm.trans hid)
      exact Or.inl ⟨i, (hm i).mpr (Or.inl hi), by rw [hr.elementId, if_neg hne, hid], hl⟩
    · refine Or.inr ⟨fun i hi => ?_, hl⟩
      rw [hr.elementId]
      split
      · exact hk
      · exact hn i (((hm i).mp hi).resolve_right ‹_›)

end Leads

/-- Every list has the entries of the first exercises behind its old children. -/
def Entered (s : NavbarSettings) (navs : List NodeId) (t : Tree) (count : Nat) (t' : Tree) : Prop :=
  ∀ nav ∈ navs, ∃ items, t'.children (some nav) = t.children (some nav) ++ items ∧
    items.length = count ∧ ∀ i item, items[i]? = some item →
      IsEntry t.size (s.sectionId (i + 1)) (s.labelFor (i + 1)) t' item

namespace Entered

variable {count : Nat}

/-- Entries stay as they are while old nodes get other contents. -/
theorem of_renewed (h : Entered s navs t count t') (hlt : ∀ nav ∈ navs, nav < t.size)
    (hr : Renewed t' pane e t'') (ht' : Sound t') (hp : pane < t.size) :
    Entered s navs t count t'' := by
  intro nav hv
  obtain ⟨items, hc, hlen, hi⟩ := h nav hv
  refine ⟨items, (hr.children nav).trans hc, hlen, ?_⟩
  intro i item hx
  exact (hi i item hx).of_grown (hr.grown ht' navs) hlt (by simpa using hp)

/-- One entry more in every list makes the entries of one exercise more. -/
theorem concat (h : Entered s navs t count t') (hlt : ∀ nav ∈ navs, nav < t.size)
    (hle : t.size ≤ t'.size)
    (hl : Listed (s.sectionId (count + 1)) (s.labelFor (count + 1)) navs t' t'') :
    Entered s navs t (count + 1) t'' := by
  intro nav hv
  obtain ⟨items, hc, hlen, hi⟩ := h nav hv
  obtain ⟨item, hc', hie⟩ := hl.entries nav hv
  refine ⟨items ++ [item], by rw [hc', hc, List.append_assoc], by simp [hlen], ?_⟩
  intro i x hx
  rcases getElem?_concat_eq_some hx with hx | ⟨rfl, rfl⟩
  · exact (hi i x hx).of_grown hl.grown hlt (by simp)
  · rw [hlen]
    exact hie.of_le hle

end Entered

/-- `t'` is `t` after some exercises became panes: each of them is written, every list has their
entries behind its old children, and these nodes are all that is new. -/
structure Tabbed (s : NavbarSettings) (navs : List NodeId) (look : Nat → Element → Element)
    (t : Tree) (done : List NodeId) (t' : Tree) : Prop where
  sound : Sound t'
  size : t'.size = t.size + 3 * done.length * navs.length
  grown : Grown navs done t t'
  panes : ∀ i pane e, done[i]? = some pane → t.element? (some pane) = some e →
    t'.element? (some pane) = some (look i e)
  entries : Entered s navs t done.length t'
  /-- New nodes have no ids. -/
  ids : ∀ i ∉ done, t'.elementId (some i) = t.elementId (some i)
  leads : Leads t done t'

namespace Tabbed

theorem refl (ht : Sound t) : Tabbed s navs look t [] t where
  sound := ht
  size := by simp
  grown := .refl t
  panes := by simp
  entries nav _ := ⟨[], by simp⟩
  ids _ _ := rfl
  leads := .refl t

theorem elementId (h : Tabbed s navs look t done t') {i : Nat} (hi : done[i]? = some pane)
    (he : t.element? (some pane) = some e) : t'.elementId (some pane) = (look i e).id := by
  rw [Tree.elementId, h.panes i pane e hi he]
  rfl

/-- One exercise more keeps the others and their entries as they are. -/
theorem step (h : Tabbed s navs (paneOf s) t done t') (hnavs : navs.Nodup)
    (hlt : ∀ nav ∈ navs, nav < t.size) (hn : pane ∉ done)
    (he : t.element? (some pane) = some e) :
    Tabbed s navs (paneOf s) t (done ++ [pane])
      (navs.foldl (appendEntry (s.sectionId (done.length + 1)) (s.labelFor (done.length + 1)))
        (markSection (s.sectionId (done.length + 1)) (done.length == 0) pane t')) := by
  have hp := Tree.lt_size_of_element? he
  have he' : t'.element? (some pane) = some e := by
    rw [Tree.element?_congr (h.grown.content pane hp hn), he]
  have hm := renewed_markSection h.sound he' s done.length
  have hlt' : ∀ nav ∈ navs, nav < (markSection (s.sectionId (done.length + 1))
      (done.length == 0) pane t').size := fun nav hv =>
    hm.size ▸ Nat.lt_of_lt_of_le (hlt nav hv) h.grown.size_le
  have hl := listed_foldl hm.sound hnavs hlt' (s.sectionId (done.length + 1))
    (s.labelFor (done.length + 1))
  have hg := (hm.grown h.sound navs).trans
    (hl.grown.mono (List.Subset.refl navs) (List.nil_subset [pane]))
  refine ⟨hl.sound, ?size,
    (h.grown.mono (List.Subset.refl navs) (List.subset_append_left _ _)).trans
      (hg.mono (List.Subset.refl navs) (List.subset_append_right _ _)), ?panes, ?entries, ?ids,
    ?leads⟩
  case size =>
    rw [size_appendEntries, hm.size, h.size, List.length_append, List.length_singleton,
      Nat.mul_add_one, Nat.add_mul, Nat.add_assoc]
  case panes =>
    intro i x e' hx hxe
    rcases getElem?_concat_eq_some hx with hx | ⟨rfl, rfl⟩
    · have hold := h.panes i x e' hx hxe
      have hxp : x ∉ [pane] := by
        intro hxp
        exact hn (List.mem_singleton.mp hxp ▸ List.mem_of_getElem? hx)
      rw [Tree.element?_congr (hg.content x (Tree.lt_size_of_element? hold) hxp), hold]
    · obtain rfl : e = e' := Option.some.inj (he.symm.trans hxe)
      rw [Tree.element?_congr (hl.grown.content pane (Tree.lt_size_of_element? hm.element)
        List.not_mem_nil), hm.element]
  case entries =>
    rw [List.length_append, List.length_singleton]
    exact (h.entries.of_renewed hlt hm h.sound hp).concat hlt
      (Nat.le_trans h.grown.size_le (Nat.le_of_eq hm.size.symm)) hl
  case ids =>
    intro i hi
    rw [List.mem_append, List.mem_singleton, not_or] at hi
    rw [elementId_appendEntries, hm.elementId, if_neg hi.2, h.ids i hi.1]
  case leads =>
    refine Leads.congr ?_ (elementId_appendEntries _ _ _ _) hl.ids
    exact h.leads.renewed hm (fun hm => absurd hm hn) (by simp)

/-- Showing the first exercise leaves the others and the entries as they are. -/
theorem activate {first : NodeId} {rest : List NodeId}
    (h : Tabbed s navs (paneOf s) t (first :: rest) t') (hn : first ∉ rest)
    (hlt : ∀ nav ∈ navs, nav < t.size) (he : t.element? (some first) = some e) :
    Tabbed s navs (shownPaneOf s) t (first :: rest) (t'.addClass (some first) activeClass) := by
  have hfirst := h.panes 0 first e rfl he
  have hmem : ∀ i, i ∈ first :: rest ↔ i ∈ first :: rest ∨ i = first := by simp
  rcases Renewed.same_or_renewed h.sound hfirst activeClass with ⟨hsame, hcls⟩ | hm
  · -- An exercise that has the class stays as it is, even if the index leads elsewhere from its id.
    rw [hsame]
    refine { h with panes := fun i x e' hx hxe => ?_ }
    rw [h.panes i x e' hx hxe]
    cases i with
    | zero =>
      obtain rfl : first = x := Option.some.inj hx
      obtain rfl : e = e' := Option.some.inj (he.symm.trans hxe)
      rw [shownPaneOf_zero, hcls]
    | succ i => rw [shownPaneOf_succ]
  · have hg := hm.grown h.sound navs
    refine ⟨hm.sound, hm.size.trans h.size,
      h.grown.trans (hg.mono (List.Subset.refl navs) (by simp)), ?panes, ?entries, ?ids, ?leads⟩
    case panes =>
      intro i x e' hx hxe
      cases i with
      | zero =>
        obtain rfl : first = x := Option.some.inj hx
        obtain rfl : e = e' := Option.some.inj (he.symm.trans hxe)
        rw [shownPaneOf_zero, hm.element]
      | succ i =>
        have hne : x ≠ first := fun he => hn (he ▸ List.mem_of_getElem? hx)
        rw [shownPaneOf_succ, hm.element?_of_ne hne, h.panes (i + 1) x e' hx hxe]
    case entries => exact h.entries.of_renewed hlt hm h.sound (Tree.lt_size_of_element? he)
    case ids =>
      intro i hi
      rw [hm.elementId, if_neg (List.ne_of_not_mem_cons hi), h.ids i hi]
    case leads =>
      refine h.leads.renewed hm (fun _ => ?_) hmem
      rw [Element.id_addClass (h.sound.synced first _ (Tree.content?_of_element? hfirst) _ rfl),
        Tree.elementId, hfirst]
      rfl

end Tabbed

/-- The loop over the exercises after some of them. -/
def linkedBy (s : NavbarSettings) (parts : Parts) (t : Tree) (done : List NodeId) :
    NavbarReport × Tree :=
  (done.zipIdx 1).foldl (linkSection s parts) ({}, t)

theorem linkedBy_concat (s : NavbarSettings) (parts : Parts) (t : Tree) (done : List NodeId)
    (pane : NodeId) : linkedBy s parts t (done ++ [pane]) =
      linkSection s parts (linkedBy s parts t done) (pane, done.length + 1) := by
  rw [linkedBy, List.zipIdx_append, List.foldl_append, Nat.add_comm 1]
  rfl

/-- All counts but one can be told from the numbers of exercises and lists. -/
theorem report_linkedBy (s : NavbarSettings) (parts : Parts) (t : Tree) (done : List NodeId) :
    ∃ conflicts, (linkedBy s parts t done).1 =
      { sections := done.length, entries := done.length * parts.navs.length, removedNavs := 0,
        idConflicts := conflicts } := by
  induction done using List.reverseRecOn with
  | nil => exact ⟨0, by simp [linkedBy]⟩
  | append_singleton done pane ih =>
    obtain ⟨conflicts, ih⟩ := ih
    rw [linkedBy_concat, linkSection, ih]
    exact ⟨_, by simp [Nat.add_one_mul]; rfl⟩

/-- The parts of a page are nodes of it, and none of them is listed twice. -/
structure Parts.Found (parts : Parts) (t : Tree) : Prop where
  navs : parts.navs.Nodup
  lists : ∀ nav ∈ parts.navs, nav < t.size
  exercises : parts.exercises.Nodup
  elements : ∀ pane ∈ parts.exercises, ∃ e, t.element? (some pane) = some e

/-- The next exercise is an element and none of those before it. -/
theorem Parts.Found.next {parts : Parts} (h : parts.Found t) {rest : List NodeId}
    (hs : parts.exercises = done ++ pane :: rest) :
    pane ∉ done ∧ ∃ e, t.element? (some pane) = some e := by
  constructor
  · intro hm
    have hd := h.exercises
    rw [hs] at hd
    exact List.disjoint_of_nodup_append hd hm List.mem_cons_self
  · exact h.elements pane (by simp [hs])

theorem head_beq_of_nodup {exercises done rest : List NodeId} {pane : NodeId}
    (hs : exercises = done ++ pane :: rest) (hn : pane ∉ done) :
    (exercises.head? == some pane) = (done.length == 0) := by
  cases done with
  | nil => simp [hs]
  | cons first done =>
    have hne : first ≠ pane := fun he => hn (he ▸ List.mem_cons_self)
    simp [hs, hne]

/-- The loop over the exercises makes them panes one after the other. -/
theorem tabbed_linkedBy (s : NavbarSettings) {parts : Parts} (ht : Sound t)
    (hp : parts.Found t) (rest : List NodeId) (hs : parts.exercises = done ++ rest) :
    Tabbed s parts.navs (paneOf s) t done (linkedBy s parts t done).2 := by
  induction done using List.reverseRecOn generalizing rest with
  | nil => exact .refl ht
  | append_singleton done pane ih =>
    rw [List.append_assoc, List.singleton_append] at hs
    obtain ⟨hn, e, hpe⟩ := hp.next hs
    rw [linkedBy_concat, linkSection, head_beq_of_nodup hs hn]
    exact (ih _ hs).step hp.navs hp.lists hn hpe

/-- A page on which the pass found exercises has them as panes, and all else is what it was. -/
theorem tabbed_arrange (s : NavbarSettings) {parts : Parts} (ht : Sound t)
    (hp : parts.Found t) {report : NavbarReport}
    (hr : (arrange s parts t).result = .ok report) (hk : 0 < report.sections) :
    report = (linkedBy s parts t parts.exercises).1 ∧
      Tabbed s parts.navs (shownPaneOf s) t parts.exercises (arrange s parts t).tree := by
  have hl := tabbed_linkedBy s ht hp [] (List.append_nil _).symm
  obtain ⟨exercises, navs⟩ := parts
  cases exercises with
  | nil =>
    obtain rfl : _ = report := Except.ok.inj hr
    exact absurd hk (Nat.lt_irrefl 0)
  | cons first rest =>
    obtain ⟨e, hfe⟩ := hp.elements first List.mem_cons_self
    simp only [arrange] at hr ⊢
    split at hr
    · cases hr
    · rename_i hm
      rw [if_neg hm]
      exact ⟨(Except.ok.inj hr).symm, hl.activate (List.nodup_cons.mp hp.exercises).1 hp.lists hfe⟩

end Navbar

/-- What selectors find are parts of the page. -/
theorem Sound.found_select {t : Tree} (ht : Sound t) (nav exercise : Selector) :
    Navbar.Parts.Found ⟨t.select exercise, t.select nav⟩ t where
  navs := ht.nodup_select nav
  lists _ hm := ht.lt_size_of_mem_select hm
  exercises := ht.nodup_select exercise
  elements _ hm := (ht.mem_select hm).2

theorem Sound.tabbed_buildNavbar {t : Tree} (ht : Sound t) (s : NavbarSettings)
    {nav exercise : Selector} (hn : Selector.parse s.navSelector = .ok nav)
    (he : Selector.parse s.exerciseSelector = .ok exercise) {report : NavbarReport}
    (hr : (buildNavbar s t).result = .ok report) (hk : 0 < report.sections) :
    report = (Navbar.linkedBy s ⟨t.select exercise, t.select nav⟩ t (t.select exercise)).1 ∧
      Navbar.Tabbed s (t.select nav) (Navbar.shownPaneOf s) t (t.select exercise)
        (buildNavbar s t).tree := by
  rw [buildNavbar_of_parse hn he] at hr ⊢
  exact Navbar.tabbed_arrange s ht (ht.found_select nav exercise) hr hk

/-- All counts but one can be told from what the selectors find. -/
theorem Sound.report_buildNavbar {t : Tree} (ht : Sound t) {s : NavbarSettings}
    {nav exercise : Selector} (hn : Selector.parse s.navSelector = .ok nav)
    (he : Selector.parse s.exerciseSelector = .ok exercise) {report : NavbarReport}
    (hr : (buildNavbar s t).result = .ok report) (hk : 0 < report.sections) :
    ∃ conflicts, report =
      { sections := (t.select exercise).length
        entries := (t.select exercise).length * (t.select nav).length
        removedNavs := 0
        idConflicts := conflicts } := by
  obtain ⟨rfl, -⟩ := ht.tabbed_buildNavbar s hn he hr hk
  exact Navbar.report_linkedBy s _ t (t.select exercise)

end CoursePage
