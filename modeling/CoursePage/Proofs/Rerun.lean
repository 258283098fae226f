import CoursePage.Proofs.Calls
import CoursePage.Proofs.Commute
import CoursePage.Proofs.IdIndex
import CoursePage.Proofs.Ready
import CoursePage.Proofs.TabMarkup
import CoursePage.Proofs.Tabs
import CoursePage.Proofs.Untouched

/-!
The pass over the exercises on a page that it has worked on before. What it added is an item, a
link or a text and has none of the classes that it looks for, and what it wrote at an exercise it
would write again. So a second run finds the same elements and changes none of them; it adds its
entries once more.
-/

namespace CoursePage

open CoursePage.Tree (document)

namespace Element

variable {e : Element} {name value token : String} {attrs : List Attribute}

/-- To write the value that is there already changes nothing. -/
theorem assign_of_firstValue? (h : firstValue? name attrs = some value) :
    assign name value attrs = attrs := by
  induction attrs with
  | nil => simp [firstValue?] at h
  | cons a attrs ih =>
    by_cases ha : a.name.name = name
    · obtain rfl : a.value = value := by simpa [firstValue?, ha] using h
      simp [assign, ha]
    · have hrest : firstValue? name attrs = some value := by
        simpa [firstValue?, ha] using h
      rw [assign, if_neg (by simpa using ha), ih hrest]

theorem withAttr_id_self (h : e.Regular) (hi : e.id = some value) : e.withAttr "id" value = e := by
  have hlast : lastValue? "id" e.attrs = some value := by
    rw [h.synced] at hi
    exact hi
  rw [lastValue?_eq_firstValue? h.distinct] at hlast
  rw [withAttr, assign_of_firstValue? hlast, ← h.synced]

theorem addClass_of_mem (h : token ∈ e.classes) : e.addClass token = e := if_pos h

theorem removeClass_of_not_mem (h : token ∉ e.classes) : e.removeClass token = e := if_neg h

theorem addClasses_of_subset {tokens : List String} (h : tokens ⊆ e.classes) :
    tokens.foldl addClass e = e := by
  induction tokens with
  | nil => rfl
  | cons token tokens ih =>
    rw [List.foldl_cons, addClass_of_mem (h List.mem_cons_self)]
    exact ih fun c hc => h (List.mem_cons_of_mem token hc)

end Element

namespace Navbar

variable {s : NavbarSettings} {exercises navs done : List NodeId} {t t' : Tree} {e : Element}

theorem regular_shownPaneOf (hr : e.Regular) (s : NavbarSettings) (i : Nat) :
    (shownPaneOf s i e).Regular := by
  cases i with
  | zero =>
    rw [shownPaneOf_zero]
    exact Element.regular_addClass (regular_paneOf hr s 0) activeClass
  | succ i =>
    rw [shownPaneOf_succ]
    exact regular_paneOf hr s (i + 1)

/-- A pane that is shown as it should be is not changed when it is marked again. -/
theorem shownPaneOf_idem (hr : e.Regular) (s : NavbarSettings) (i : Nat) :
    shownPaneOf s i (shownPaneOf s i e) = shownPaneOf s i e := by
  have hid := id_shownPaneOf hr s i
  have hclasses := paneClasses_subset_shownPaneOf hr s i
  have hactive := active_mem_shownPaneOf hr s i
  have hreg := regular_shownPaneOf hr s i
  generalize shownPaneOf s i e = e' at *
  have hmarked : paneClasses.foldl Element.addClass (e'.withAttr "id" (s.sectionId (i + 1))) =
      e' := by
    rw [Element.withAttr_id_self hreg hid]
    exact Element.addClasses_of_subset hclasses
  cases i with
  | zero =>
    have hpane : paneOf s 0 e' = e' := by
      simp only [paneOf, hmarked, if_pos]
    rw [shownPaneOf_zero, hpane]
    exact Element.addClass_of_mem (hactive.mpr rfl)
  | succ i =>
    have hn : activeClass ∉ e'.classes := by
      intro hm
      exact Nat.succ_ne_zero i (hactive.mp hm)
    rw [shownPaneOf_succ, paneOf, hmarked]
    simp only [Nat.succ_ne_zero, if_false]
    exact Element.removeClass_of_not_mem hn

/-- Of all other classes none is added and none is taken away. -/
theorem mem_classes_shownPaneOf (hr : e.Regular) (s : NavbarSettings) (i : Nat) {token : String}
    (ha : token ≠ activeClass) (hp : token ∉ paneClasses) :
    token ∈ (shownPaneOf s i e).classes ↔ token ∈ e.classes := by
  have hfilter : ∀ classes : List String,
      token ∈ (classes.filter fun c => c != activeClass) ↔ token ∈ classes := by
    intro classes
    simp [ha]
  have hmissing : token ∉ missingClasses e.classes := by
    intro hm
    exact hp (List.mem_filter.mp hm).1
  rw [← hfilter, filter_shownPaneOf hr, List.mem_append, hfilter]
  simp [hmissing]

/-- What the nodes of an entry hold. -/
inductive EntryPart : Content → Prop where
  | item : EntryPart (.element (.ofAttrs (.html "li") itemAttrs))
  | link (id : String) : EntryPart (.element (.ofAttrs (.html "a") (linkAttrs id)))
  | text (label : String) : EntryPart (.text label)

/-- Every node from a number on is a part of an entry. -/
def OnlyEntries (first : NodeId) (t : Tree) : Prop :=
  ∀ i c, first ≤ i → t.content? (some i) = some c → EntryPart c

namespace OnlyEntries

variable {first pane : NodeId}

theorem refl (t : Tree) : OnlyEntries t.size t := by
  intro i c hi hc
  exact absurd (Tree.lt_size_of_content? hc) (Nat.not_lt.mpr hi)

theorem appendEntry (h : OnlyEntries first t) (id label : String) (nav : NodeId) :
    OnlyEntries first (appendEntry id label t nav) := by
  intro i c hi hc
  rw [content?_appendEntry] at hc
  split at hc
  · obtain rfl := Option.some.inj hc
    exact .text label
  · split at hc
    · obtain rfl := Option.some.inj hc
      exact .link id
    · split at hc
      · obtain rfl := Option.some.inj hc
        exact .item
      · exact h i c hi hc

theorem appendEntries (h : OnlyEntries first t) (id label : String) (navs : List NodeId) :
    OnlyEntries first (navs.foldl (Navbar.appendEntry id label) t) := by
  induction navs generalizing t with
  | nil => exact h
  | cons nav navs ih =>
    rw [List.foldl_cons]
    apply ih
    exact h.appendEntry id label nav

/-- Panes are older than all entries. -/
theorem renewed (h : OnlyEntries first t) (hr : Renewed t pane e t') (hp : pane < first) :
    OnlyEntries first t' := by
  intro i c hi hc
  apply h i c hi
  have hne : some i ≠ some pane := by
    intro he
    exact absurd hp (Nat.not_lt.mpr (Option.some.inj he ▸ hi))
  rw [hr.content, if_neg hne] at hc
  exact hc

end OnlyEntries

theorem onlyEntries_linkedBy (s : NavbarSettings) {parts : Parts} (ht : Sound t)
    (hp : parts.Found t) (rest : List NodeId) (hs : parts.exercises = done ++ rest) :
    OnlyEntries t.size (linkedBy s parts t done).2 := by
  induction done using List.reverseRecOn generalizing rest with
  | nil => exact .refl t
  | append_singleton done pane ih =>
    rw [List.append_assoc, List.singleton_append] at hs
    obtain ⟨hn, e, hpe⟩ := hp.next hs
    have htab := tabbed_linkedBy s ht hp (pane :: rest) hs
    have hlast : (linkedBy s parts t done).2.element? (some pane) = some e := by
      rw [Tree.element?_congr (htab.grown.content pane (Tree.lt_size_of_element? hpe) hn), hpe]
    rw [linkedBy_concat, linkSection, head_beq_of_nodup hs hn]
    apply OnlyEntries.appendEntries
    exact (ih _ hs).renewed (renewed_markSection htab.sound hlast s done.length)
      (Tree.lt_size_of_element? hpe)

theorem onlyEntries_arrange (s : NavbarSettings) {parts : Parts} (ht : Sound t)
    (hp : parts.Found t) (hx : parts.exercises ≠ []) :
    OnlyEntries t.size (arrange s parts t).tree := by
  have htab := tabbed_linkedBy s ht hp [] (List.append_nil _).symm
  have honly := onlyEntries_linkedBy s ht hp [] (List.append_nil _).symm
  obtain ⟨exercises, navs⟩ := parts
  obtain ⟨first, rest, rfl⟩ := List.exists_cons_of_ne_nil hx
  obtain ⟨e, hfe⟩ := hp.elements first List.mem_cons_self
  have hfirst := htab.panes 0 first e rfl hfe
  unfold arrange
  simp only
  split
  · exact .refl t
  · rcases Renewed.same_or_renewed htab.sound hfirst activeClass with ⟨hsame, -⟩ | hm
    · change OnlyEntries t.size
        ((linkedBy s _ t (first :: rest)).2.addClass (some first) activeClass)
      rw [hsame]
      exact honly
    · exact honly.renewed hm (Tree.lt_size_of_element? hfe)

theorem EntryPart.classes_subset (h : EntryPart (.element e)) :
    e.classes ⊆ ["nav-item", "nav-link"] := by
  cases h with
  | item =>
    have hitem : (Element.ofAttrs (.html "li") itemAttrs).classes = ["nav-item"] := by
      decide +kernel
    simp [hitem]
  | link id =>
    have hvalue : Element.lastValue? "class" (linkAttrs id) = some "nav-link" := by
      simp [linkAttrs, Attribute.plain, Element.lastValue?]
    have hwords : Text.blankWords "nav-link" = ["nav-link"] := by decide +kernel
    simp [Element.ofAttrs, Element.classTokens, hvalue, hwords]

/-- A node with another class than those of entries is older than all entries. -/
theorem OnlyEntries.lt_of_hasClass {first i : NodeId} (h : OnlyEntries first t) {token : String}
    (hn : token ∉ ["nav-item", "nav-link"]) (hc : t.hasClass (some i) token = true) :
    i < first := by
  apply Nat.lt_of_not_le
  intro hi
  obtain ⟨e, he⟩ := Option.isSome_iff_exists.mp (Tree.isElement_of_hasClass hc)
  have hpart := h i _ hi (Tree.content?_of_element? he)
  have hm : token ∈ e.classes := by
    simpa [Tree.hasClass, Tree.classes, he] using hc
  exact hn (hpart.classes_subset hm)

/-- The classes that the pass writes. -/
def writtenClasses : List String := activeClass :: paneClasses ++ ["nav-item", "nav-link"]

/-- Any other class finds after the pass what it found before. -/
theorem Tabbed.select_class (h : Tabbed s navs (shownPaneOf s) t exercises t') (ht : Sound t)
    (honly : OnlyEntries t.size t')
    (he : ∀ pane ∈ exercises, ∃ e, t.element? (some pane) = some e ∧ e.Regular) (source : String)
    {name : String} (hname : name ∉ writtenClasses) :
    t'.select ⟨source, [.compound [.className name]]⟩ =
      t.select ⟨source, [.compound [.className name]]⟩ := by
  simp only [writtenClasses, List.mem_append, List.mem_cons, not_or] at hname
  obtain ⟨⟨hactive, hpane⟩, hentry⟩ := hname
  have hold : ∀ i < t.size,
      (t'.isElement (some i) && t'.hasClass (some i) name) =
        (t.isElement (some i) && t.hasClass (some i) name) := by
    intro i hi
    by_cases hm : i ∈ exercises
    · obtain ⟨n, hn⟩ := List.mem_iff_getElem?.mp hm
      obtain ⟨e, hie, hr⟩ := he i hm
      have hie' := h.panes n i e hn hie
      have hc := mem_classes_shownPaneOf hr s n hactive hpane
      simp [Tree.isElement, Tree.hasClass, Tree.classes, hie, hie', hc]
    · have hsame := Tree.element?_congr (h.grown.content i hi hm)
      simp only [Tree.isElement, Tree.hasClass, Tree.classes, hsame]
  have hlt : ∀ i, (t'.isElement (some i) && t'.hasClass (some i) name) = true → i < t.size := by
    intro i hi
    rw [Bool.and_eq_true] at hi
    exact honly.lt_of_hasClass (by simpa using hentry) hi.2
  rw [t'.select_of_allSteady rfl, t.select_of_allSteady rfl, ← h.descendants_filter ht,
    List.filter_filter]
  apply List.filter_congr
  intro i _
  rw [Selector.holds_class, Selector.holds_class]
  by_cases hi : i < t.size
  · simp [hi, hold i hi]
  · have hnot : (t'.isElement (some i) && t'.hasClass (some i) name) = false := by
      rw [Bool.eq_false_iff]
      exact fun hx => hi (hlt i hx)
    simp [hi, hnot]

theorem result_arrange (s : NavbarSettings) {parts : Parts} (t : Tree)
    (hx : parts.exercises ≠ []) (hm : ¬(parts.navs = [] ∧ s.missingNav = .fail)) :
    (arrange s parts t).result = .ok (linkedBy s parts t parts.exercises).1 := by
  obtain ⟨exercises, navs⟩ := parts
  obtain ⟨first, rest, rfl⟩ := List.exists_cons_of_ne_nil hx
  have hno : ¬((navs.isEmpty && s.missingNav == .fail) = true) := by
    simpa using hm
  simp only [arrange]
  rw [if_neg hno]
  rfl

namespace Tabbed

variable {t'' : Tree}

/-- A second run changes no node of the page that the first one has left. -/
theorem content?_again (h : Tabbed s navs (shownPaneOf s) t exercises t')
    (h' : Tabbed s navs (shownPaneOf s) t' exercises t'')
    (he : ∀ pane ∈ exercises, ∃ e, t.element? (some pane) = some e ∧ e.Regular) {i : NodeId}
    (hi : i < t'.size) : t''.content? (some i) = t'.content? (some i) := by
  by_cases hm : i ∈ exercises
  · obtain ⟨n, hn⟩ := List.mem_iff_getElem?.mp hm
    obtain ⟨e, hie, hr⟩ := he i hm
    have hfirst := h.panes n i e hn hie
    have hsecond := h'.panes n i _ hn hfirst
    rw [shownPaneOf_idem hr] at hsecond
    rw [Tree.content?_of_element? hfirst, Tree.content?_of_element? hsecond]
  · exact h'.grown.content i hi hm

/-- The second run gives each list the entries of the first one once more. -/
theorem copies (h : Tabbed s navs (shownPaneOf s) t exercises t')
    (h' : Tabbed s navs (shownPaneOf s) t' exercises t'') {list : NodeId} (hl : list ∈ navs) :
    ∃ items copies, t'.children (some list) = t.children (some list) ++ items ∧
      t''.children (some list) = t'.children (some list) ++ copies ∧
      items.length = exercises.length ∧ copies.length = exercises.length ∧
      ∀ i item copy, items[i]? = some item → copies[i]? = some copy →
        IsEntry t.size (s.sectionId (i + 1)) (s.labelFor (i + 1)) t' item ∧
        IsEntry t'.size (s.sectionId (i + 1)) (s.labelFor (i + 1)) t'' copy ∧
        t''.outerHtml (some copy) = t'.outerHtml (some item) := by
  obtain ⟨items, hc, hlen, hitems⟩ := h.entries list hl
  obtain ⟨copies, hc', hlen', hcopies⟩ := h'.entries list hl
  refine ⟨items, copies, hc, hc', hlen, hlen', ?_⟩
  intro i item copy hi hi'
  have hitem := hitems i item hi
  have hcopy := hcopies i copy hi'
  exact ⟨hitem, hcopy, by rw [hitem.outerHtml h.sound, hcopy.outerHtml h'.sound]⟩

end Tabbed

/-- A run on the page `t'` that an earlier run with the same settings has left of `t`. -/
structure RunsAgain (s : NavbarSettings) (nav exercise : Selector) (report : NavbarReport)
    (t t' : Tree) (o : Outcome NavbarReport) : Prop where
  reports : ∃ again, o.result = .ok again ∧ again.sections = report.sections ∧
    again.entries = report.entries
  exercises : t'.select exercise = t.select exercise
  navs : t'.select nav = t.select nav
  attrs : ∀ pane ∈ t.select exercise, o.tree.attrs (some pane) = t'.attrs (some pane)
  /-- Not only the exercises hold what they held. -/
  content : ∀ i < t'.size, o.tree.content? (some i) = t'.content? (some i)
  parent : ∀ i < t'.size, o.tree.parent (some i) = t'.parent (some i)
  children : ∀ i < t'.size, i ∉ t.select nav →
    o.tree.children (some i) = t'.children (some i)
  size : o.tree.size = t'.size + 3 * report.sections * (t.select nav).length
  /-- Each list gets the entries that it got before. -/
  copies : ∀ list ∈ t.select nav, ∃ items copies,
    t'.children (some list) = t.children (some list) ++ items ∧
    o.tree.children (some list) = t'.children (some list) ++ copies ∧
    items.length = report.sections ∧ copies.length = report.sections ∧
    ∀ i item copy, items[i]? = some item → copies[i]? = some copy →
      IsEntry t.size (s.sectionId (i + 1)) (s.labelFor (i + 1)) t' item ∧
      IsEntry t'.size (s.sectionId (i + 1)) (s.labelFor (i + 1)) o.tree copy ∧
      o.tree.outerHtml (some copy) = t'.outerHtml (some item)

end Navbar

/-- All nodes that the pass adds to a page with exercises are parts of entries. -/
theorem Sound.onlyEntries_buildNavbar {t : Tree} (ht : Sound t) (s : NavbarSettings)
    {nav exercise : Selector} (hn : Selector.parse s.navSelector = .ok nav)
    (he : Selector.parse s.exerciseSelector = .ok exercise) (hx : t.select exercise ≠ []) :
    Navbar.OnlyEntries t.size (buildNavbar s t).tree := by
  rw [buildNavbar_of_parse hn he]
  exact Navbar.onlyEntries_arrange s ht (ht.found_select nav exercise) hx

/-- Where the pass has found exercises, the settings do not refuse the page. -/
theorem not_refused_of_result {s : NavbarSettings} {nav exercise : Selector} {t : Tree}
    (hn : Selector.parse s.navSelector = .ok nav)
    (he : Selector.parse s.exerciseSelector = .ok exercise) {report : NavbarReport}
    (hr : (buildNavbar s t).result = .ok report) (hx : t.select exercise ≠ []) :
    ¬(t.select nav = [] ∧ s.missingNav = .fail) := by
  rintro ⟨hnone, hfail⟩
  have hrefused : s.Refuse t (.missingNav (t.select exercise).length s.navSelector) :=
    ⟨nav, exercise, hn, he, hx, hnone, hfail, rfl⟩
  rw [(buildNavbar_error_iff hn he).mpr hrefused] at hr
  cases hr

/-- A pass that reports exercises has found some. -/
theorem Sound.select_ne_nil {t : Tree} (ht : Sound t) {s : NavbarSettings}
    {nav exercise : Selector} (hn : Selector.parse s.navSelector = .ok nav)
    (he : Selector.parse s.exerciseSelector = .ok exercise) {report : NavbarReport}
    (hr : (buildNavbar s t).result = .ok report) (hk : 0 < report.sections) :
    t.select exercise ≠ [] := by
  intro hnone
  obtain ⟨conflicts, hrep⟩ := ht.report_buildNavbar hn he hr hk
  rw [hrep, hnone] at hk
  exact Nat.lt_irrefl 0 hk

/-- Whatever the selectors, a second run changes nothing that the first one has left if it finds the
same elements. -/
theorem Sound.runsAgain {t : Tree} (ht : Sound t) (s : NavbarSettings) {nav exercise : Selector}
    (hn : Selector.parse s.navSelector = .ok nav)
    (he : Selector.parse s.exerciseSelector = .ok exercise) {report : NavbarReport}
    (hr : (buildNavbar s t).result = .ok report) (hk : 0 < report.sections)
    (hregular : ∀ pane ∈ t.select exercise, ∃ e, t.element? (some pane) = some e ∧ e.Regular)
    (hx : (buildNavbar s t).tree.select exercise = t.select exercise)
    (hv : (buildNavbar s t).tree.select nav = t.select nav) :
    Navbar.RunsAgain s nav exercise report t (buildNavbar s t).tree
      (buildNavbar s (buildNavbar s t).tree) := by
  have hsome := ht.select_ne_nil hn he hr hk
  obtain ⟨-, htab⟩ := ht.tabbed_buildNavbar s hn he hr hk
  obtain ⟨conflicts, hrep⟩ := ht.report_buildNavbar hn he hr hk
  generalize (buildNavbar s t).tree = t' at *
  obtain ⟨conflicts', hcount⟩ := Navbar.report_linkedBy s ⟨t.select exercise, t.select nav⟩ t'
    (t.select exercise)
  have hresult : (buildNavbar s t').result =
      .ok (Navbar.linkedBy s ⟨t.select exercise, t.select nav⟩ t' (t.select exercise)).1 := by
    rw [buildNavbar_of_parse hn he, hx, hv]
    exact Navbar.result_arrange s t' hsome (not_refused_of_result hn he hr hsome)
  rw [hcount] at hresult
  obtain ⟨-, htab'⟩ := htab.sound.tabbed_buildNavbar s hn he hresult
    (List.length_pos_iff.mpr hsome)
  rw [hx, hv] at htab'
  have hcontent : ∀ i < t'.size, (buildNavbar s t').tree.content? (some i) = t'.content? (some i) :=
    fun i hi => htab.content?_again htab' hregular hi
  refine ⟨⟨_, hresult, ?_, ?_⟩, hx, hv, ?attrs, hcontent, htab'.grown.parent, htab'.grown.children,
    ?size, ?copies⟩
  · rw [hrep]
  · rw [hrep]
  case attrs =>
    intro pane hp
    have hlt : pane < t'.size :=
      Nat.lt_of_lt_of_le (ht.lt_size_of_mem_select hp) htab.grown.size_le
    rw [Tree.attrs, Tree.attrs, Tree.element?_congr (hcontent pane hlt)]
  case size =>
    rw [htab'.size, hrep]
  case copies =>
    intro list hl
    rw [hrep]
    exact htab.copies htab' hl

/-- Under the usual selectors a second run finds the same exercises and lists, leaves the exercises
as they are and adds the same entries once more. -/
theorem Built.runsAgain_buildNavbar {t : Tree} (h : Built t) (hu : t.NamesDistinct)
    (idPrefix label : String) (missingNav : MissingNav) {nav exercise : Selector}
    (hn : Selector.parse ".nav" = .ok nav) (he : Selector.parse ".exercise" = .ok exercise)
    {report : NavbarReport}
    (hr : (buildNavbar { idPrefix, label, missingNav } t).result = .ok report)
    (hk : 0 < report.sections) :
    Navbar.RunsAgain { idPrefix, label, missingNav } nav exercise report t
      (buildNavbar { idPrefix, label, missingNav } t).tree
      (buildNavbar { idPrefix, label, missingNav }
        (buildNavbar { idPrefix, label, missingNav } t).tree) := by
  have ht := h.sound
  have hregular : ∀ pane ∈ t.select exercise, ∃ e, t.element? (some pane) = some e ∧ e.Regular :=
    fun _ hp => ht.regular_of_mem_select hu hp
  have hn' : Selector.parse ({ idPrefix, label, missingNav } : NavbarSettings).navSelector =
    .ok nav := hn
  have he' : Selector.parse ({ idPrefix, label, missingNav } : NavbarSettings).exerciseSelector =
    .ok exercise := he
  obtain ⟨-, htab⟩ := ht.tabbed_buildNavbar _ hn' he' hr hk
  have honly := ht.onlyEntries_buildNavbar _ hn' he' (ht.select_ne_nil hn' he' hr hk)
  apply ht.runsAgain _ hn' he' hr hk hregular
  · rw [Selector.parse_exercise] at he
    obtain rfl := Except.ok.inj he
    exact htab.select_class ht honly hregular ".exercise" (by decide)
  · rw [Selector.parse_nav] at hn
    obtain rfl := Except.ok.inj hn
    exact htab.select_class ht honly hregular ".nav" (by decide)

/-- Two exercises with ids in the wrong order and classes to be put right, the first one a list. -/
def swappedTabs : List Edit :=
  [.createElement (.html "ul") [.plain "class" " nav  exercise fade", .plain "id" "exercise2"],
    .append 0 1,
    .createElement (.html "div")
      [.plain "id" "exercise1", .plain "class" "active exercise\tactive"], .append 0 2,
    .createElement (.html "ul") [.plain "class" "nav"], .append 2 3]

theorem runsAgain_swappedTabs :
    ∃ nav exercise report, Selector.parse ".nav" = .ok nav ∧
      Selector.parse ".exercise" = .ok exercise ∧ LegalRun .empty swappedTabs ∧
      (swappedTabs.foldl Edit.run .empty).NamesDistinct ∧
      (swappedTabs.foldl Edit.run .empty).select exercise = [1, 2] ∧
      (swappedTabs.foldl Edit.run .empty).select nav = [1, 3] ∧
      (buildNavbar {} (swappedTabs.foldl Edit.run .empty)).result = .ok report ∧
      report.sections = 2 ∧
      Navbar.RunsAgain {} nav exercise report (swappedTabs.foldl Edit.run .empty)
        (buildNavbar {} (swappedTabs.foldl Edit.run .empty)).tree
        (buildNavbar {} (buildNavbar {} (swappedTabs.foldl Edit.run .empty)).tree) := by
  have hl : LegalRun .empty swappedTabs := by decide +kernel
  have hu : (swappedTabs.foldl Edit.run .empty).NamesDistinct := by
    have hall : ∀ i < 4, ∀ e ∈ (swappedTabs.foldl Edit.run .empty).element? (some i),
        (e.attrs.map fun a => a.name.name).Nodup := by decide +kernel
    exact fun i e hi => hall i (Tree.lt_size_of_element? hi) e hi
  have hfn : (Selector.parse ".nav").toOption.map (swappedTabs.foldl Edit.run .empty).select =
      some [1, 3] := by decide +kernel
  have hfe : (Selector.parse ".exercise").toOption.map
      (swappedTabs.foldl Edit.run .empty).select = some [1, 2] := by decide +kernel
  obtain ⟨nav, hn, hsn⟩ := Selector.parse_of_select hfn
  obtain ⟨exercise, he, hse⟩ := Selector.parse_of_select hfe
  have hr : (buildNavbar {} (swappedTabs.foldl Edit.run .empty)).result =
      .ok { sections := 2, entries := 4, removedNavs := 0, idConflicts := 0 } := by
    decide +kernel
  exact ⟨nav, exercise, _, hn, he, hl, hu, hse, hsn, hr, rfl,
    (Built.empty.run hl).runsAgain_buildNavbar hu _ _ _ hn he hr (by simp)⟩

end CoursePage
