import CoursePage.Proofs.Panes
import CoursePage.Proofs.Pruned

/-!
What the pass over the exercises leaves as it is. Of the nodes that were there, the exercises lose
nothing but their ids and classes, the navigation lists have their new items behind all others, and
no third node changes. Exercises and lists may be the same nodes and may lie in one another.
-/

namespace CoursePage

open CoursePage.Tree (document)

namespace Element

/-- The attributes that a pane keeps. -/
def keptAttrs (attrs : List Attribute) : List Attribute :=
  attrs.filter fun a => a.name.name != "id" && a.name.name != "class"

/-- An element has the same name and, ids and classes apart, the same attributes as another one. -/
structure Alike (e e' : Element) : Prop where
  name : e'.name = e.name
  attrs : keptAttrs e'.attrs = keptAttrs e.attrs

namespace Alike

variable {e e' e'' : Element}

theorem refl (e : Element) : Alike e e := ⟨rfl, rfl⟩

theorem trans (h : Alike e e') (h' : Alike e' e'') : Alike e e'' :=
  ⟨h'.name.trans h.name, h'.attrs.trans h.attrs⟩

theorem withAttr {name : String} (hn : name ∈ ["id", "class"]) (e : Element) (value : String) :
    Alike e (e.withAttr name value) where
  name := rfl
  attrs := by
    have hp : (name != "id" && name != "class") = false := by
      simp only [List.mem_cons, List.not_mem_nil, or_false] at hn
      rcases hn with rfl | rfl <;> rfl
    exact filter_assign (p := fun n => n != "id" && n != "class") hp value _

theorem addClass (e : Element) (token : String) : Alike e (e.addClass token) := by
  unfold Element.addClass
  split
  · exact .refl e
  · exact .withAttr (by simp) e _

theorem removeClass (e : Element) (token : String) : Alike e (e.removeClass token) := by
  unfold Element.removeClass
  split
  · exact .withAttr (by simp) e _
  · exact .refl e

theorem addClasses (e : Element) (tokens : List String) :
    Alike e (tokens.foldl Element.addClass e) :=
  List.foldlRecOn (motive := Alike e) tokens _ (.refl e) fun e' h token _ =>
    h.trans (.addClass e' token)

end Alike

end Element

namespace Navbar

variable {s : NavbarSettings} {exercises navs : List NodeId} {t t' : Tree}

theorem alike_paneOf (s : NavbarSettings) (i : Nat) (e : Element) : e.Alike (paneOf s i e) := by
  have h := (Element.Alike.withAttr (by simp) e (s.sectionId (i + 1))).trans
    (.addClasses (e.withAttr "id" (s.sectionId (i + 1))) paneClasses)
  unfold paneOf
  by_cases hi : i = 0
  · simpa [hi] using h
  · simpa [hi] using h.trans (.removeClass _ activeClass)

theorem alike_shownPaneOf (s : NavbarSettings) (i : Nat) (e : Element) :
    e.Alike (shownPaneOf s i e) := by
  cases i with
  | zero => exact shownPaneOf_zero s e ▸ (alike_paneOf s 0 e).trans (.addClass _ activeClass)
  | succ i => exact shownPaneOf_succ s i e ▸ alike_paneOf s (i + 1) e

/-- `t'` is `t` with new nodes in the navigation lists and with other ids and classes at the
exercises. Old nodes are those that `t` has. -/
structure Untouched (exercises navs : List NodeId) (t t' : Tree) : Prop where
  added : t'.size = t.size + 3 * exercises.length * navs.length
  content : ∀ i < t.size, i ∉ exercises → t'.content? (some i) = t.content? (some i)
  /-- Texts, comments and doctypes are never exercises. -/
  leaves : ∀ i < t.size, t.element? (some i) = none →
    t'.content? (some i) = t.content? (some i)
  name : ∀ i < t.size, t'.elementName (some i) = t.elementName (some i)
  attrs : ∀ i < t.size,
    Element.keptAttrs (t'.attrs (some i)) = Element.keptAttrs (t.attrs (some i))
  parent : ∀ i < t.size, t'.parent (some i) = t.parent (some i)
  /-- A child has the number among the children of its parent that it had. -/
  place : ∀ (p : NodeId) (n : Nat) (i : NodeId), (t.children (some p))[n]? = some i →
    (t'.children (some p))[n]? = some i
  children : ∀ i < t.size, i ∉ navs → t'.children (some i) = t.children (some i)
  /-- All that is new in a list is behind what is old. -/
  lists : ∀ nav ∈ navs, ∃ items, t'.children (some nav) = t.children (some nav) ++ items ∧
    items.length = exercises.length ∧ ∀ i ∈ items, t.size ≤ i
  order : ((t'.descendants (some document)).filter fun i => i < t.size) =
    t.descendants (some document)

namespace Tabbed

variable {look : Nat → Element → Element}

theorem lists (h : Tabbed s navs look t exercises t') {nav : NodeId} (hv : nav ∈ navs) :
    ∃ items, t'.children (some nav) = t.children (some nav) ++ items ∧
      items.length = exercises.length ∧ ∀ i ∈ items, t.size ≤ i := by
  obtain ⟨items, hc, hlen, hi⟩ := h.entries nav hv
  refine ⟨items, hc, hlen, fun item hm => ?_⟩
  obtain ⟨n, hn⟩ := List.mem_iff_getElem?.mp hm
  exact (hi n item hn).le

/-- The children of an old node are its old children and new ones behind them. -/
theorem children_eq (h : Tabbed s navs look t exercises t') {i : NodeId} (hi : i < t.size) :
    ∃ items, t'.children (some i) = t.children (some i) ++ items ∧ ∀ c ∈ items, t.size ≤ c := by
  by_cases hv : i ∈ navs
  · obtain ⟨items, hc, -, hn⟩ := h.lists hv
    exact ⟨items, hc, hn⟩
  · exact ⟨[], by rw [h.grown.children i hi hv, List.append_nil], by simp⟩

theorem children_filter (h : Tabbed s navs look t exercises t') (ht : Sound t) {i : NodeId}
    (hi : i < t.size) :
    t.children (some i) = (t'.children (some i)).filter fun c => decide (c < t.size) := by
  obtain ⟨items, hc, hn⟩ := h.children_eq hi
  rw [hc, List.filter_append, List.filter_eq_self.mpr, List.filter_eq_nil_iff.mpr, List.append_nil]
  · intro c hm
    simpa using hn c hm
  · intro c hm
    simpa using ht.forest.lt_size_of_mem hm

/-- Without the new nodes, the page lists the nodes that it listed before. -/
theorem descendants_filter (h : Tabbed s navs look t exercises t') (ht : Sound t) :
    ((t'.descendants (some document)).filter fun i => decide (i < t.size)) =
      t.descendants (some document) := by
  have hk : ∀ i, decide (i < t.size) = true → t.children (some i) =
      (t'.children (some i)).filter fun c => decide (c < t.size) :=
    fun i hi => h.children_filter ht (of_decide_eq_true hi)
  rw [h.sound.descendants_filter ht hk (decide_eq_true ht.zero_lt_size)]
  refine List.filter_congr fun i _ => ?_
  -- Above an old node there are old nodes only.
  rw [Bool.eq_iff_iff, List.all_eq_true, decide_eq_true_iff]
  constructor
  · intro hi j hj
    rw [h.grown.ancestors ht h.sound hi] at hj
    exact decide_eq_true (ht.forest.lt_size_of_mem_up hi hj)
  · intro hall
    exact of_decide_eq_true (hall i List.mem_cons_self)

theorem untouched (h : Tabbed s navs look t exercises t') (ht : Sound t)
    (he : ∀ pane ∈ exercises, ∃ e, t.element? (some pane) = some e)
    (hlook : ∀ (i : Nat) (e : Element), e.Alike (look i e)) : Untouched exercises navs t t' := by
  -- An old element is one that it was alike, whether it is an exercise or not.
  have halike : ∀ i < t.size, ∀ e, t.element? (some i) = some e →
      ∃ e', t'.element? (some i) = some e' ∧ e.Alike e' := by
    intro i hi e hie
    by_cases hm : i ∈ exercises
    · obtain ⟨n, hn⟩ := List.mem_iff_getElem?.mp hm
      exact ⟨look n e, h.panes n i e hn hie, hlook n e⟩
    · exact ⟨e, by rw [Tree.element?_congr (h.grown.content i hi hm), hie], .refl e⟩
  have hleaves : ∀ i < t.size, t.element? (some i) = none →
      t'.content? (some i) = t.content? (some i) := by
    intro i hi hn
    refine h.grown.content i hi fun hm => ?_
    obtain ⟨e, hie⟩ := he i hm
    simp [hie] at hn
  refine ⟨h.size, h.grown.content, hleaves, fun i hi => ?name, fun i hi => ?attrs, h.grown.parent,
    fun p n i hn => ?place, h.grown.children, fun nav hv => h.lists hv, h.descendants_filter ht⟩
  case name =>
    cases hie : t.element? (some i) with
    | none => rw [Tree.elementName, Tree.elementName, Tree.element?_congr (hleaves i hi hie)]
    | some e =>
      obtain ⟨e', hie', ha⟩ := halike i hi e hie
      simp [Tree.elementName, hie, hie', ha.name]
  case attrs =>
    cases hie : t.element? (some i) with
    | none => rw [Tree.attrs, Tree.attrs, Tree.element?_congr (hleaves i hi hie)]
    | some e =>
      obtain ⟨e', hie', ha⟩ := halike i hi e hie
      simp [Tree.attrs, hie, hie', ha.attrs]
  case place =>
    have hp : p < t.size := ht.forest.parent_lt_size (List.mem_of_getElem? hn)
    obtain ⟨items, hc, -⟩ := h.children_eq hp
    rw [hc, List.getElem?_append_left (List.getElem?_eq_some_iff.mp hn).1, hn]

end Tabbed

end Navbar

/-- The pass adds the nodes of the entries at the ends of the navigation lists, gives the exercises
other ids and classes, and leaves everything else as it was. -/
theorem Built.untouched_buildNavbar {t : Tree} (h : Built t) (s : NavbarSettings)
    {nav exercise : Selector} (hn : Selector.parse s.navSelector = .ok nav)
    (he : Selector.parse s.exerciseSelector = .ok exercise) {report : NavbarReport}
    (hr : (buildNavbar s t).result = .ok report) (hk : 0 < report.sections) :
    report.sections = (t.select exercise).length ∧
      Navbar.Untouched (t.select exercise) (t.select nav) t (buildNavbar s t).tree := by
  have ht := h.sound
  obtain ⟨-, htab⟩ := ht.tabbed_buildNavbar s hn he hr hk
  obtain ⟨conflicts, hrep⟩ := ht.report_buildNavbar hn he hr hk
  refine ⟨by rw [hrep], ?_⟩
  exact htab.untouched ht (fun pane hp => (ht.mem_select hp).2) (Navbar.alike_shownPaneOf s)

/-- An exercise with a language, a comment and a list inside that is an exercise as well, and a
text behind it. -/
def mixedTabs : List Edit :=
  [.createElement (.html "div")
      [.plain "lang" "en", .plain "class" "exercise", .plain "id" "old", .plain "title" "x"],
    .append 0 1, .createComment "note", .append 1 2,
    .createElement (.html "ul") [.plain "class" "exercise nav", .plain "role" "list"],
    .append 1 3, .appendText 3 "first", .appendText 0 "last"]

theorem untouched_mixedTabs :
    ∃ nav exercise report, Selector.parse ".nav" = .ok nav ∧
      Selector.parse ".exercise" = .ok exercise ∧ LegalRun .empty mixedTabs ∧
      (mixedTabs.foldl Edit.run .empty).select nav = [3] ∧
      (mixedTabs.foldl Edit.run .empty).select exercise = [1, 3] ∧
      (buildNavbar {} (mixedTabs.foldl Edit.run .empty)).result = .ok report ∧
      report.sections = 2 ∧
      Navbar.Untouched [1, 3] [3] (mixedTabs.foldl Edit.run .empty)
        (buildNavbar {} (mixedTabs.foldl Edit.run .empty)).tree := by
  have hl : LegalRun .empty mixedTabs := by decide +kernel
  have hfn : (Selector.parse ".nav").toOption.map (mixedTabs.foldl Edit.run .empty).select =
      some [3] := by decide +kernel
  have hfe : (Selector.parse ".exercise").toOption.map
      (mixedTabs.foldl Edit.run .empty).select = some [1, 3] := by decide +kernel
  obtain ⟨nav, hn, hsn⟩ := Selector.parse_of_select hfn
  obtain ⟨exercise, he, hse⟩ := Selector.parse_of_select hfe
  have hr : (buildNavbar {} (mixedTabs.foldl Edit.run .empty)).result =
      .ok { sections := 2, entries := 2, removedNavs := 0, idConflicts := 0 } := by
    decide +kernel
  obtain ⟨hk, ht⟩ := (Built.empty.run hl).untouched_buildNavbar {} hn he hr (by simp)
  rw [hsn, hse] at ht
  exact ⟨nav, exercise, _, hn, he, hl, hsn, hse, hr, rfl, ht⟩

end CoursePage
