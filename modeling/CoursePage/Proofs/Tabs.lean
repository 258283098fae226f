import CoursePage.Markup.Printer
import CoursePage.Proofs.Panes
import Std.Data.String.ToNat

/-!
Exercises as tab panes. Each one gets the id of its number, and what later exercises and entries
write leaves it with this id, so that every link of a navigation list finds its exercise.
-/

namespace CoursePage

theorem NavbarSettings.sectionId_inj {s : NavbarSettings} {m n : Nat} :
    s.sectionId m = s.sectionId n ↔ m = n := by
  refine ⟨fun h => Nat.repr_injective ?_, congrArg _⟩
  exact (String.append_right_inj _).mp h

namespace Navbar

variable {t t' : Tree} {pane : NodeId} {id : String} {e : Element}

/-- `t'` is `t` with another element at a pane, which has an id and is found by it. -/
structure Marked (t : Tree) (pane : NodeId) (id : String) (e : Element) (t' : Tree) : Prop where
  sound : Sound t'
  size : t'.size = t.size
  children : ∀ q, t'.children (some q) = t.children (some q)
  content : ∀ k, t'.content? k = if k = some pane then some (.element e) else t.content? k
  regular : e.Regular
  holds : e.id = some id
  lookup : ∀ key, t'.ids.lookup key = if id = key then some pane else t.ids.lookup key

namespace Marked

theorem renewed (h : Marked t pane id e t') : Renewed t pane e t' where
  sound := h.sound
  size := h.size
  children := h.children
  content := h.content
  lookup key := by simp only [h.lookup, h.holds, Option.some_inj]

theorem element (h : Marked t pane id e t') : t'.element? (some pane) = some e :=
  h.renewed.element

theorem lookup_self (h : Marked t pane id e t') :
    ∀ key, e.id = some key → t'.ids.lookup key = some pane :=
  h.renewed.lookup_self

/-- A pane that has an id and is found by it is marked as it stands. -/
theorem self (ht : Sound t) (he : t.element? (some pane) = some e) (hr : e.Regular)
    (hi : e.id = some id) (hl : t.ids.lookup id = some pane) : Marked t pane id e t where
  sound := ht
  size := rfl
  children _ := rfl
  content k := by
    split
    · rename_i hk
      rw [hk, Tree.content?_of_element? he]
    · rfl
  regular := hr
  holds := hi
  lookup key := by
    split
    · rename_i hk
      rw [← hk, hl]
    · rfl

/-- A pane stays marked as long as it keeps what it holds and its place in the index. -/
theorem of_grown (h : Marked t pane id e t) (ht' : Sound t') {lists panes : List NodeId}
    (hg : Grown lists panes t t') (hp : pane ∉ panes) (hl : t'.ids.lookup id = some pane) :
    Marked t' pane id e t' := by
  refine .self ht' ?_ h.regular h.holds hl
  rw [Tree.element?_eq, hg.content pane (Tree.lt_size_of_element? h.element) hp,
    ← Tree.element?_eq, h.element]

end Marked

variable {s : NavbarSettings} {navs done : List NodeId} {look : Nat → Element → Element}

theorem regular_paneOf (hr : e.Regular) (s : NavbarSettings) (i : Nat) :
    (paneOf s i e).Regular := by
  have hc := Element.regular_addClasses
    (Element.regular_withAttr hr "id" (s.sectionId (i + 1))) paneClasses
  unfold paneOf
  by_cases hi : i = 0
  · simpa [hi] using hc
  · simpa [hi] using Element.regular_removeClass hc activeClass

theorem id_paneOf (hr : e.Regular) (s : NavbarSettings) (i : Nat) :
    (paneOf s i e).id = some (s.sectionId (i + 1)) := by
  have hid := Element.regular_withAttr hr "id" (s.sectionId (i + 1))
  have hc := (Element.id_addClasses hid paneClasses).trans (Element.id_withAttr_id hr _)
  have hs := (Element.regular_addClasses hid paneClasses).synced
  unfold paneOf
  by_cases hi : i = 0
  · simpa [hi] using hc
  · simpa [hi, Element.id_removeClass hs] using hc

/-- `t'` is `t` after some exercises are linked: each one is marked, and every list has their
entries behind its old children. -/
structure Linked (s : NavbarSettings) (navs : List NodeId) (look : Nat → Element → Element)
    (t : Tree) (done : List NodeId) (t' : Tree) : Prop where
  sound : Sound t'
  grown : Grown navs done t t'
  panes : ∀ i pane e, done[i]? = some pane → t.element? (some pane) = some e →
    Marked t' pane (s.sectionId (i + 1)) (look i e) t'
  entries : ∀ nav ∈ navs, ∃ items, t'.children (some nav) = t.children (some nav) ++ items ∧
    items.length = done.length ∧ ∀ i item, items[i]? = some item →
      IsEntry t.size (s.sectionId (i + 1)) (s.labelFor (i + 1)) t' item

/-- Where no two attributes share a local name, exercises have the ids of their numbers, and the
index leads from these to them. -/
theorem Tabbed.linked (h : Tabbed s navs (paneOf s) t done t')
    (he : ∀ pane ∈ done, ∃ e, t.element? (some pane) = some e ∧ e.Regular) :
    Linked s navs (paneOf s) t done t' := by
  have hid : ∀ i pane, done[i]? = some pane →
      t'.elementId (some pane) = some (s.sectionId (i + 1)) := by
    intro i pane hi
    obtain ⟨e, hpe, hr⟩ := he pane (List.mem_of_getElem? hi)
    rw [h.elementId hi hpe, id_paneOf hr]
  refine ⟨h.sound, h.grown, fun i pane e hi hpe => ?_, h.entries⟩
  obtain ⟨e', hpe', hr⟩ := he pane (List.mem_of_getElem? hi)
  obtain rfl : e' = e := Option.some.inj (hpe'.symm.trans hpe)
  refine .self h.sound (h.panes i pane e' hi hpe) (regular_paneOf hr s i) (id_paneOf hr s i) ?_
  rcases h.leads (s.sectionId (i + 1)) with ⟨x, hx, hxid, hl⟩ | ⟨hn, -⟩
  · obtain ⟨j, hj⟩ := List.mem_iff_getElem?.mp hx
    obtain rfl : j = i := Nat.succ.inj
      (NavbarSettings.sectionId_inj.mp (Option.some.inj ((hid j x hj).symm.trans hxid)))
    rw [hl, ← hj, hi]
  · exact absurd (hid i pane hi) (hn pane (List.mem_of_getElem? hi))

namespace Linked

/-- Showing the first exercise leaves the others and the entries as they are. -/
theorem activate {first : NodeId} {rest : List NodeId}
    (h : Linked s navs (paneOf s) t (first :: rest) t') (hn : first ∉ rest)
    (hlt : ∀ nav ∈ navs, nav < t.size) (he : t.element? (some first) = some e) :
    Linked s navs (shownPaneOf s) t (first :: rest) (t'.addClass (some first) activeClass) := by
  have hfirst := h.panes 0 first e rfl he
  have hm := hfirst.renewed.addClass activeClass
  have hid := (Element.id_addClass hfirst.regular.synced activeClass).trans hfirst.holds
  have hg := hm.grown h.sound navs
  refine ⟨hm.sound, h.grown.trans (hg.mono (List.Subset.refl navs) (by simp)), ?panes, ?entries⟩
  case panes =>
    intro i x e' hx hxe
    cases i with
    | zero =>
      obtain rfl : first = x := Option.some.inj hx
      obtain rfl : e = e' := Option.some.inj (he.symm.trans hxe)
      rw [shownPaneOf_zero]
      exact .self hm.sound hm.element (Element.regular_addClass hfirst.regular _) hid
        (hm.lookup_self _ hid)
    | succ i =>
      have hold := h.panes (i + 1) x e' hx hxe
      have hxf : x ∉ [first] := fun hxf =>
        hn (List.mem_singleton.mp hxf ▸ List.mem_of_getElem? hx)
      have hne : s.sectionId (0 + 1) ≠ s.sectionId (i + 1 + 1) := fun he => by
        simpa using NavbarSettings.sectionId_inj.mp he
      rw [shownPaneOf_succ]
      refine hold.of_grown hm.sound hg hxf ?_
      rw [hm.lookup, hid, if_neg (by simpa using hne), hold.lookup_self _ hold.holds]
  case entries =>
    exact Entered.of_renewed h.entries hlt hm h.sound (Tree.lt_size_of_element? he)

end Linked

/-- The loop over the exercises links all of them and counts what it does. -/
theorem linked_linkSections (s : NavbarSettings) {parts : Parts} (ht : Sound t)
    (hp : parts.Found t)
    (he : ∀ pane ∈ parts.exercises, ∃ e, t.element? (some pane) = some e ∧ e.Regular) :
    Linked s parts.navs (paneOf s) t parts.exercises (linkSections s parts t).2 ∧
      (linkSections s parts t).1.sections = parts.exercises.length ∧
      (linkSections s parts t).1.entries = parts.exercises.length * parts.navs.length ∧
      (linkSections s parts t).1.removedNavs = 0 := by
  have hl := tabbed_linkedBy s ht hp [] (List.append_nil _).symm
  obtain ⟨conflicts, hr⟩ := report_linkedBy s parts t parts.exercises
  refine ⟨hl.linked he, ?_⟩
  change (linkedBy s parts t parts.exercises).1.sections = _ ∧
    (linkedBy s parts t parts.exercises).1.entries = _ ∧
    (linkedBy s parts t parts.exercises).1.removedNavs = _
  rw [hr]
  exact ⟨rfl, rfl, rfl⟩

/-- The pane classes that an element with these classes does not have yet. -/
def missingClasses (classes : List String) : List String :=
  paneClasses.filter fun c => !classes.contains c

theorem isToken_of_mem_paneClasses : ∀ c ∈ paneClasses, Text.IsToken c := by decide

theorem isToken_activeClass : Text.IsToken activeClass := by decide

theorem classes_paneOf (hr : e.Regular) (s : NavbarSettings) (i : Nat) :
    (paneOf s i e).classes =
      if i = 0 then e.classes ++ missingClasses e.classes
      else (e.classes ++ missingClasses e.classes).filter fun c => c != activeClass := by
  have hid := Element.regular_withAttr hr "id" (s.sectionId (i + 1))
  have hc : (paneClasses.foldl Element.addClass (e.withAttr "id" (s.sectionId (i + 1)))).classes =
      e.classes ++ missingClasses e.classes := by
    rw [Element.classes_addClasses hid (by decide) isToken_of_mem_paneClasses,
      Element.classes_withAttr_id hr]
    rfl
  unfold paneOf
  by_cases hi : i = 0
  · simp [hi, ← hc]
  · simp [hi, Element.classes_removeClass (Element.regular_addClasses hid _), hc]

theorem id_shownPaneOf (hr : e.Regular) (s : NavbarSettings) (i : Nat) :
    (shownPaneOf s i e).id = some (s.sectionId (i + 1)) := by
  cases i with
  | zero => rw [shownPaneOf_zero, Element.id_addClass (regular_paneOf hr s 0).synced, id_paneOf hr]
  | succ i => rw [shownPaneOf_succ, id_paneOf hr]

/-- Only the first pane is active. -/
theorem active_mem_shownPaneOf (hr : e.Regular) (s : NavbarSettings) (i : Nat) :
    activeClass ∈ (shownPaneOf s i e).classes ↔ i = 0 := by
  unfold shownPaneOf
  by_cases hi : i = 0
  · rw [if_pos hi, Element.classes_addClass (regular_paneOf hr s i) isToken_activeClass]
    split <;> simp_all
  · simp [hi, classes_paneOf hr]

/-- The other classes are the earlier ones in their order and the pane classes that were missing. -/
theorem filter_shownPaneOf (hr : e.Regular) (s : NavbarSettings) (i : Nat) :
    ((shownPaneOf s i e).classes.filter fun c => c != activeClass) =
      (e.classes.filter fun c => c != activeClass) ++ missingClasses e.classes := by
  have hm : ((missingClasses e.classes).filter fun c => c != activeClass) =
      missingClasses e.classes := by
    refine List.filter_eq_self.mpr fun c hc => ?_
    have hp : ∀ c ∈ paneClasses, (c != activeClass) = true := by decide
    exact hp c (List.mem_filter.mp hc).1
  unfold shownPaneOf
  by_cases hi : i = 0
  · rw [if_pos hi, Element.classes_addClass (regular_paneOf hr s i) isToken_activeClass,
      classes_paneOf hr, if_pos hi]
    split <;> simp [hm]
  · rw [if_neg hi, classes_paneOf hr, if_neg hi]
    simp [hm]

theorem paneClasses_subset_shownPaneOf (hr : e.Regular) (s : NavbarSettings) (i : Nat) :
    paneClasses ⊆ (shownPaneOf s i e).classes := by
  intro c hc
  have hp : ∀ c ∈ paneClasses, (c != activeClass) = true := by decide
  have hf : c ∈ (shownPaneOf s i e).classes.filter fun c => c != activeClass := by
    rw [filter_shownPaneOf hr, List.mem_append]
    by_cases hm : c ∈ e.classes
    · exact Or.inl (List.mem_filter.mpr ⟨hm, hp c hc⟩)
    · exact Or.inr (List.mem_filter.mpr ⟨hc, by simpa using hm⟩)
  exact (List.mem_filter.mp hf).1

/-- Every exercise is a tab pane with an id of its own, and every navigation list leads to all. -/
structure TabsLinked (s : NavbarSettings) (exercises navs : List NodeId) (t : Tree)
    (o : Outcome NavbarReport) : Prop where
  report : ∃ conflicts, o.result = .ok
    { sections := exercises.length, entries := exercises.length * navs.length, removedNavs := 0,
      idConflicts := conflicts }
  distinct : ((List.range exercises.length).map fun i => s.sectionId (i + 1)).Nodup
  id : ∀ i pane, exercises[i]? = some pane →
    o.tree.elementId (some pane) = some (s.sectionId (i + 1))
  /-- The index leads to the exercise, whoever else has its id. -/
  found : ∀ i pane, exercises[i]? = some pane →
    o.tree.getById? (s.sectionId (i + 1)) = some pane
  panes : ∀ pane ∈ exercises, ["tab-pane", "fade", "show"] ⊆ o.tree.classes (some pane)
  active : ∀ i pane, exercises[i]? = some pane →
    ("active" ∈ o.tree.classes (some pane) ↔ i = 0)
  /-- Earlier classes stay in their order, with those of the three that were missing behind them. -/
  kept : ∀ pane ∈ exercises, ((o.tree.classes (some pane)).filter fun c => c != "active") =
    ((t.classes (some pane)).filter fun c => c != "active") ++
      ["tab-pane", "fade", "show"].filter fun c => !(t.classes (some pane)).contains c
  /-- The new items are behind the old children, one for each exercise. -/
  entries : ∀ nav ∈ navs, ∃ items,
    o.tree.children (some nav) = t.children (some nav) ++ items ∧
      items.length = exercises.length ∧ ∀ i item, items[i]? = some item →
        IsEntry t.size (s.sectionId (i + 1)) (s.labelFor (i + 1)) o.tree item

/-- What was done to the tree suffices for all that is asked of it. -/
theorem Linked.tabsLinked {exercises : List NodeId} (ht : Sound t)
    (h : Linked s navs (shownPaneOf s) t exercises t')
    (he : ∀ pane ∈ exercises, ∃ e, t.element? (some pane) = some e ∧ e.Regular)
    (ha : ∀ pane ∈ exercises, t.isAttached (some pane) = true) {report : NavbarReport}
    (h1 : report.sections = exercises.length)
    (h2 : report.entries = exercises.length * navs.length) (h3 : report.removedNavs = 0) :
    TabsLinked s exercises navs t ⟨.ok report, t'⟩ := by
  have hold : ∀ i pane, exercises[i]? = some pane → ∃ e, t.element? (some pane) = some e ∧
      e.Regular ∧ Marked t' pane (s.sectionId (i + 1)) (shownPaneOf s i e) t' := by
    intro i pane hi
    obtain ⟨e, hpe, hr⟩ := he pane (List.mem_of_getElem? hi)
    exact ⟨e, hpe, hr, h.panes i pane e hi hpe⟩
  have hclasses : ∀ i pane e, t.element? (some pane) = some e →
      Marked t' pane (s.sectionId (i + 1)) (shownPaneOf s i e) t' →
      t.classes (some pane) = e.classes ∧
        t'.classes (some pane) = (shownPaneOf s i e).classes := by
    intro i pane e hpe hm
    simp [Tree.classes, hpe, hm.element]
  have hid : ∀ i pane, exercises[i]? = some pane →
      t'.elementId (some pane) = some (s.sectionId (i + 1)) := by
    intro i pane hi
    obtain ⟨e, _, _, hm⟩ := hold i pane hi
    simp [Tree.elementId, hm.element, hm.holds]
  refine ⟨⟨report.idConflicts, ?report⟩, ?distinct, hid, ?found, ?panes, ?active, ?kept, h.entries⟩
  case report =>
    cases report
    simp only at h1 h2 h3
    rw [h1, h2, h3]
  case distinct =>
    refine List.nodup_range.map fun i j hij => ?_
    exact Nat.succ.inj (NavbarSettings.sectionId_inj.mp hij)
  case found =>
    intro i pane hi
    obtain ⟨e, hpe, _, hm⟩ := hold i pane hi
    have hat := h.grown.isAttached ht h.sound (Tree.lt_size_of_element? hpe)
    rw [ha pane (List.mem_of_getElem? hi)] at hat
    simp [Tree.getById?, hm.lookup_self _ hm.holds, hid i pane hi, hat]
  case panes =>
    intro pane hp c hc
    obtain ⟨i, hi⟩ := List.mem_iff_getElem?.mp hp
    obtain ⟨e, hpe, hr, hm⟩ := hold i pane hi
    rw [(hclasses i pane e hpe hm).2]
    exact paneClasses_subset_shownPaneOf hr s i hc
  case active =>
    intro i pane hi
    obtain ⟨e, hpe, hr, hm⟩ := hold i pane hi
    rw [(hclasses i pane e hpe hm).2]
    exact active_mem_shownPaneOf hr s i
  case kept =>
    intro pane hp
    obtain ⟨i, hi⟩ := List.mem_iff_getElem?.mp hp
    obtain ⟨e, hpe, hr, hm⟩ := hold i pane hi
    obtain ⟨hc, hc'⟩ := hclasses i pane e hpe hm
    rw [hc, hc']
    exact filter_shownPaneOf hr s i

end Navbar

/-- No two attributes of an element share a local name. -/
def Tree.NamesDistinct (t : Tree) : Prop :=
  ∀ i e, t.element? (some i) = some e → (e.attrs.map fun a => a.name.name).Nodup

theorem Sound.regular {t : Tree} (h : Sound t) (hu : t.NamesDistinct) {i : NodeId} {e : Element}
    (he : t.element? (some i) = some e) : e.Regular :=
  ⟨h.synced i _ (Tree.content?_of_element? he) e rfl, hu i e he⟩

theorem Sound.regular_of_mem_select {t : Tree} (h : Sound t) (hu : t.NamesDistinct) {s : Selector}
    {i : NodeId} (hi : i ∈ t.select s) : ∃ e, t.element? (some i) = some e ∧ e.Regular := by
  obtain ⟨-, e, he⟩ := h.mem_select hi
  exact ⟨e, he, h.regular hu he⟩

/-- The pass links every exercise that it finds on a page with a place for the tabs, or without
one if that is allowed. -/
theorem Built.tabsLinked_buildNavbar {t : Tree} (h : Built t) (hu : t.NamesDistinct)
    (s : NavbarSettings) {nav exercise : Selector} (hn : Selector.parse s.navSelector = .ok nav)
    (he : Selector.parse s.exerciseSelector = .ok exercise) (hk : t.select exercise ≠ [])
    (hm : t.select nav ≠ [] ∨ s.missingNav = .skip) :
    Navbar.TabsLinked s (t.select exercise) (t.select nav) t (buildNavbar s t) := by
  have ht := h.sound
  obtain ⟨first, rest, hs⟩ := List.exists_cons_of_ne_nil hk
  have hfound := ht.found_select nav exercise
  have hre : ∀ pane ∈ t.select exercise, ∃ e, t.element? (some pane) = some e ∧ e.Regular :=
    fun pane hp => ht.regular_of_mem_select hu hp
  obtain ⟨hl, h1, h2, h3⟩ := Navbar.linked_linkSections s ht hfound hre
  simp only at hl h1 h2 h3
  obtain ⟨e, hfe, _⟩ := hre first (by simp [hs])
  have hm' : ((t.select nav).isEmpty && s.missingNav == .fail) = false := by
    rcases hm with hm | hm <;> simp [hm]
  have hb : buildNavbar s t =
      ⟨.ok (Navbar.linkSections s ⟨t.select exercise, t.select nav⟩ t).1,
        (Navbar.linkSections s ⟨t.select exercise, t.select nav⟩ t).2.addClass (some first)
          Navbar.activeClass⟩ := by
    simp [buildNavbar_of_parse hn he, Navbar.arrange, hs, hm']
  have hact : Navbar.Linked s (t.select nav) (Navbar.shownPaneOf s) t (t.select exercise)
      ((Navbar.linkSections s ⟨t.select exercise, t.select nav⟩ t).2.addClass (some first)
        Navbar.activeClass) := by
    have hd := hfound.exercises
    rw [hs] at hl hd ⊢
    exact hl.activate (List.nodup_cons.mp hd).1 hfound.lists hfe
  rw [hb]
  exact hact.tabsLinked ht hre (fun pane hp => ht.isAttached_of_mem_select hp) h1 h2 h3

/-- An exercise with a list inside that is an exercise as well, and ids that stand in the way. -/
def crossedTabs : List Edit :=
  [.createElement (.html "ul") [.plain "class" "nav"], .append 0 1,
    .createElement (.html "div")
      [.plain "class" "exercise active", .plain "id" "exercise2"], .append 0 2,
    .createElement (.html "ul") [.plain "class" "nav exercise"], .append 2 3,
    .createElement (.html "p") [.plain "id" "exercise1"], .append 0 4]

theorem tabsLinked_crossedTabs :
    ∃ nav exercise, Selector.parse ".nav" = .ok nav ∧ Selector.parse ".exercise" = .ok exercise ∧
      LegalRun .empty crossedTabs ∧ (crossedTabs.foldl Edit.run .empty).NamesDistinct ∧
      (crossedTabs.foldl Edit.run .empty).select nav = [1, 3] ∧
      (crossedTabs.foldl Edit.run .empty).select exercise = [2, 3] ∧
      [2, 3].map (fun pane =>
        (buildNavbar {} (crossedTabs.foldl Edit.run .empty)).tree.classes (some pane)) =
        [["exercise", "active", "tab-pane", "fade", "show"],
          ["nav", "exercise", "tab-pane", "fade", "show"]] ∧
      (buildNavbar {} (crossedTabs.foldl Edit.run .empty)).tree.innerHtml (some 1) =
        "<li class=\"nav-item\"><a class=\"nav-link\" data-toggle=\"tab\" " ++
        "href=\"#exercise1\">Exercise 1</a></li>" ++
        "<li class=\"nav-item\"><a class=\"nav-link\" data-toggle=\"tab\" " ++
        "href=\"#exercise2\">Exercise 2</a></li>" ∧
      Navbar.TabsLinked {} [2, 3] [1, 3] (crossedTabs.foldl Edit.run .empty)
        (buildNavbar {} (crossedTabs.foldl Edit.run .empty)) := by
  have hl : LegalRun .empty crossedTabs := by decide +kernel
  have hu : (crossedTabs.foldl Edit.run .empty).NamesDistinct := by
    have hall : ∀ i < 5, ∀ e ∈ (crossedTabs.foldl Edit.run .empty).element? (some i),
        (e.attrs.map fun a => a.name.name).Nodup := by decide +kernel
    exact fun i e hi => hall i (Tree.lt_size_of_element? hi) e hi
  have hfn : (Selector.parse ".nav").toOption.map (crossedTabs.foldl Edit.run .empty).select =
      some [1, 3] := by decide +kernel
  have hfe : (Selector.parse ".exercise").toOption.map
      (crossedTabs.foldl Edit.run .empty).select = some [2, 3] := by decide +kernel
  obtain ⟨nav, hn, hsn⟩ := Selector.parse_of_select hfn
  obtain ⟨exercise, he, hse⟩ := Selector.parse_of_select hfe
  have ht := (Built.empty.run hl).tabsLinked_buildNavbar hu {} hn he (by simp [hse])
    (by simp [hsn])
  rw [hsn, hse] at ht
  exact ⟨nav, exercise, hn, he, hl, hu, hsn, hse, by decide +kernel, by decide +kernel, ht⟩

end CoursePage
