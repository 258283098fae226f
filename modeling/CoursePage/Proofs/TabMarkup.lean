import CoursePage.Proofs.DocumentOrder
import CoursePage.Proofs.Nested
import CoursePage.Proofs.Panes

/-!
The markup of a navigation list with its tabs. What was written inside a list stays in front, and
one item for each exercise follows, with the same tags around whatever texts the settings give. The
texts are escaped, so none of them can end the tag or the attribute that it stands in.
-/

namespace CoursePage

open CoursePage.Markup (escapeText escapeValue startTag endTag isVoid isRawText)

namespace Markup

/-- What would end the text that it stands in, or begin a tag inside. -/
def textMarks : List Char := ['<', '>', '\u00a0']

/-- What would end the attribute value that it stands in, or the tag around it. -/
def valueMarks : List Char := '"' :: textMarks

theorem not_mem_escapeTextChar (c : Char) : ∀ m ∈ textMarks, m ∉ escapeTextChar c := by
  unfold escapeTextChar
  split
  · simp [textMarks]
  · simp [textMarks]
  · simp [textMarks]
  · simp [textMarks]
  · -- A character that is not escaped is none of the marks.
    rename_i hn hl hg
    intro m hm hc
    obtain rfl : m = c := List.mem_singleton.mp hc
    simp only [textMarks, List.mem_cons, List.not_mem_nil, or_false] at hm
    rcases hm with rfl | rfl | rfl
    · exact hl rfl
    · exact hg rfl
    · exact hn rfl

theorem quote_not_mem_escapeTextChar {c : Char} (hc : c ≠ '"') : '"' ∉ escapeTextChar c := by
  unfold escapeTextChar
  split
  · simp
  · simp
  · simp
  · simp
  · intro hm
    exact hc (List.mem_singleton.mp hm).symm

theorem not_mem_escapeValueChar (c : Char) : ∀ m ∈ valueMarks, m ∉ escapeValueChar c := by
  unfold escapeValueChar
  split
  · simp [valueMarks, textMarks]
  · rename_i hq
    intro m hm
    rcases List.mem_cons.mp hm with rfl | hm
    · exact quote_not_mem_escapeTextChar hq
    · exact not_mem_escapeTextChar c m hm

theorem not_mem_escapeText (s : String) : ∀ m ∈ textMarks, m ∉ (escapeText s).toList := by
  intro m hm hs
  rw [escapeText, String.toList_ofList] at hs
  obtain ⟨c, -, hc⟩ := List.mem_flatMap.mp hs
  exact not_mem_escapeTextChar c m hm hc

theorem not_mem_escapeValue (s : String) : ∀ m ∈ valueMarks, m ∉ (escapeValue s).toList := by
  intro m hm hs
  rw [escapeValue, String.toList_ofList] at hs
  obtain ⟨c, -, hc⟩ := List.mem_flatMap.mp hs
  exact not_mem_escapeValueChar c m hm hc

end Markup

namespace Navbar

variable {first list item : NodeId} {id label : String} {t t' : Tree}

/-- The markup of an entry that leads to an id. -/
def entryMarkup (id label : String) : String :=
  "<li class=\"nav-item\"><a class=\"nav-link\" data-toggle=\"tab\" href=\"#" ++ escapeValue id ++
    "\">" ++ escapeText label ++ "</a></li>"

theorem startTag_item : startTag (.html "li") itemAttrs = "<li class=\"nav-item\">" := by
  decide +kernel

theorem startTag_link (id : String) : startTag (.html "a") (linkAttrs id) =
    "<a class=\"nav-link\" data-toggle=\"tab\" href=\"#" ++ escapeValue id ++ "\">" := by
  have hclass : escapeValue "nav-link" = "nav-link" := by decide +kernel
  have htoggle : escapeValue "tab" = "tab" := by decide +kernel
  have hhash : escapeValue ("#" ++ id) = "#" ++ escapeValue id := Markup.escapeValue_append "#" id
  have hattrs : String.join ((linkAttrs id).map Markup.attributeText) =
      " class=\"nav-link\" data-toggle=\"tab\" href=\"#" ++ escapeValue id ++ "\"" := by
    simp only [linkAttrs, Attribute.plain, List.map_cons, List.map_nil, String.join_cons,
      String.join_nil, Markup.attributeText, Markup.attributeMark, hclass, htoggle, hhash]
    apply String.toList_inj.mp
    simp
  rw [startTag, hattrs]
  apply String.toList_inj.mp
  simp [QualName.html]

theorem plain_of_mem : ∀ name ∈ ["li", "a"],
    isVoid (.html name) = false ∧ isRawText (.html name) = false := by
  decide

/-- An entry is written as an item with a link around its text. -/
theorem IsEntry.outerHtml (h : IsEntry first id label t item) (ht : Sound t) :
    t.outerHtml (some item) = entryMarkup id label := by
  obtain ⟨link, text, -, hitem, hlink, hl, htext, hx⟩ := h
  obtain ⟨hvi, hri⟩ := plain_of_mem "li" (by simp)
  obtain ⟨hvl, hrl⟩ := plain_of_mem "a" (by simp)
  have hitem' : t.outerHtml (some item) =
      startTag (.html "li") itemAttrs ++ t.innerHtml (some item) ++ endTag (.html "li") :=
    ht.outerHtml_plain (e := .ofAttrs (.html "li") itemAttrs) (Tree.element?_of_content? hitem)
      hvi hri
  have hlink' : t.outerHtml (some link) =
      startTag (.html "a") (linkAttrs id) ++ t.innerHtml (some link) ++ endTag (.html "a") :=
    ht.outerHtml_plain (e := .ofAttrs (.html "a") (linkAttrs id)) (Tree.element?_of_content? hl)
      hvl hrl
  have htext' : t.outerHtml (some text) = escapeText label := by
    rw [Tree.outerHtml, ht.outerEvents_eq_content, hx]
    exact String.empty_append
  have hend : ∀ name, endTag (.html name) = "</" ++ name ++ ">" := fun _ => rfl
  unfold entryMarkup
  rw [hitem', ht.innerHtml_eq_join, hlink, List.map_singleton, hlink', ht.innerHtml_eq_join, htext,
    List.map_singleton, htext', startTag_item, startTag_link, hend, hend, String.join_cons,
    String.join_nil, String.join_cons, String.join_nil]
  apply String.toList_inj.mp
  simp

variable {s : NavbarSettings} {exercises navs : List NodeId} {look : Nat → Element → Element}

/-- What is inside a list without lists and exercises is written as before. -/
theorem Tabbed.outerHtml_child (h : Tabbed s navs look t exercises t') (ht : Sound t)
    (hbelow : ∀ x ∈ t.descendants (some list), x ∉ navs ∧ x ∉ exercises) {c : NodeId}
    (hc : c ∈ t.children (some list)) : t'.outerHtml (some c) = t.outerHtml (some c) := by
  have hold : ∀ x ∈ t.within c, x < t.size ∧ x ∉ navs ∧ x ∉ exercises := by
    intro x hx
    refine ⟨ht.lt_size_of_mem_within (ht.forest.lt_size_of_mem hc) hx, hbelow x ?_⟩
    rw [ht.descendants_eq]
    exact List.mem_flatMap.mpr ⟨c, hc, hx⟩
  apply congrArg Markup.render
  apply ht.outerEvents_congr h.sound
  · intro x hx
    obtain ⟨hlt, -, he⟩ := hold x hx
    exact h.grown.content x hlt he
  · intro x hx
    obtain ⟨hlt, hn, -⟩ := hold x hx
    exact h.grown.children x hlt hn

/-- The entries of a list are written one behind the other. -/
theorem Tabbed.innerHtml_list (h : Tabbed s navs look t exercises t') (ht : Sound t)
    (hl : list ∈ navs)
    (hbelow : ∀ x ∈ t.descendants (some list), x ∉ navs ∧ x ∉ exercises) :
    t'.innerHtml (some list) = t.innerHtml (some list) ++
      String.join ((List.range exercises.length).map fun i =>
        entryMarkup (s.sectionId (i + 1)) (s.labelFor (i + 1))) := by
  obtain ⟨items, hc, hlen, hi⟩ := h.entries list hl
  have hold : (t.children (some list)).map (fun c => t'.outerHtml (some c)) =
      (t.children (some list)).map fun c => t.outerHtml (some c) :=
    List.map_congr_left fun c hm => h.outerHtml_child ht hbelow hm
  have hnew : items.map (fun c => t'.outerHtml (some c)) =
      (List.range exercises.length).map fun i =>
        entryMarkup (s.sectionId (i + 1)) (s.labelFor (i + 1)) := by
    apply List.ext_getElem
    · simp [hlen]
    · intro i hi' _
      rw [List.length_map] at hi'
      have hx := hi i items[i] (List.getElem?_eq_getElem hi')
      simpa using hx.outerHtml h.sound
  rw [h.sound.innerHtml_eq_join, ht.innerHtml_eq_join, hc, List.map_append, String.join_append,
    hold, hnew]

/-- How a navigation list is written with the tabs of some exercises. -/
structure ListWritten (s : NavbarSettings) (count : Nat) (t t' : Tree) (list : NodeId) : Prop where
  /-- The old markup stands in front, and what follows is exactly this. -/
  inner : t'.innerHtml (some list) = t.innerHtml (some list) ++
    String.join ((List.range count).map fun i =>
      entryMarkup (s.sectionId (i + 1)) (s.labelFor (i + 1)))
  /-- No prefix ends the attribute value that it stands in. -/
  quoted : ∀ i, ∀ m ∈ Markup.valueMarks, m ∉ (escapeValue (s.sectionId i)).toList
  /-- No label begins or ends a tag. -/
  text : ∀ i, ∀ m ∈ Markup.textMarks, m ∉ (escapeText (s.labelFor i)).toList

end Navbar

/-- Behind what was in a navigation list, the pass writes one item for each exercise, with the
texts of the settings escaped. -/
theorem Built.listWritten_buildNavbar {t : Tree} (h : Built t) (s : NavbarSettings)
    {nav exercise : Selector} (hn : Selector.parse s.navSelector = .ok nav)
    (he : Selector.parse s.exerciseSelector = .ok exercise) {report : NavbarReport}
    (hr : (buildNavbar s t).result = .ok report) (hk : 0 < report.sections) {list : NodeId}
    (hl : list ∈ t.select nav)
    (hbelow : ∀ x ∈ t.descendants (some list), x ∉ t.select nav ∧ x ∉ t.select exercise) :
    Navbar.ListWritten s report.sections t (buildNavbar s t).tree list := by
  have ht := h.sound
  obtain ⟨-, htab⟩ := ht.tabbed_buildNavbar s hn he hr hk
  obtain ⟨conflicts, hrep⟩ := ht.report_buildNavbar hn he hr hk
  refine ⟨?inner, fun i => Markup.not_mem_escapeValue _, fun i => Markup.not_mem_escapeText _⟩
  case inner =>
    rw [hrep]
    exact htab.innerHtml_list ht hl hbelow

/-- A list that has an item already, beside two exercises. -/
def startedList : List Edit :=
  [.createElement (.html "ul") [.plain "class" "nav"], .append 0 1,
    .createElement (.html "li") [], .append 1 2, .appendText 2 "Q&A",
    .createElement (.html "div") [.plain "class" "exercise"], .append 0 4,
    .createElement (.html "div") [.plain "class" "exercise"], .append 0 5]

/-- A prefix and a label that are markup themselves, the label with a placeholder in a tag. -/
def hostileTexts : NavbarSettings where
  idPrefix := "\"><b "
  label := "</a><script>\x7bn\x7d</script>&\u00a0"

theorem listWritten_startedList :
    ∃ nav exercise report, Selector.parse hostileTexts.navSelector = .ok nav ∧
      Selector.parse hostileTexts.exerciseSelector = .ok exercise ∧
      LegalRun .empty startedList ∧
      (buildNavbar hostileTexts (startedList.foldl Edit.run .empty)).result = .ok report ∧
      report.sections = 2 ∧ 1 ∈ (startedList.foldl Edit.run .empty).select nav ∧
      (∀ x ∈ (startedList.foldl Edit.run .empty).descendants (some 1),
        x ∉ (startedList.foldl Edit.run .empty).select nav ∧
        x ∉ (startedList.foldl Edit.run .empty).select exercise) ∧
      (buildNavbar hostileTexts (startedList.foldl Edit.run .empty)).tree.innerHtml (some 1) =
        "<li>Q&amp;A</li>" ++
        "<li class=\"nav-item\"><a class=\"nav-link\" data-toggle=\"tab\" " ++
        "href=\"#&quot;&gt;&lt;b 1\">" ++
        "&lt;/a&gt;&lt;script&gt;1&lt;/script&gt;&amp;&nbsp;</a></li>" ++
        "<li class=\"nav-item\"><a class=\"nav-link\" data-toggle=\"tab\" " ++
        "href=\"#&quot;&gt;&lt;b 2\">" ++
        "&lt;/a&gt;&lt;script&gt;2&lt;/script&gt;&amp;&nbsp;</a></li>" ∧
      Navbar.ListWritten hostileTexts 2 (startedList.foldl Edit.run .empty)
        (buildNavbar hostileTexts (startedList.foldl Edit.run .empty)).tree 1 := by
  have hl : LegalRun .empty startedList := by decide +kernel
  have hfn : (Selector.parse hostileTexts.navSelector).toOption.map
      (startedList.foldl Edit.run .empty).select = some [1] := by decide +kernel
  have hfe : (Selector.parse hostileTexts.exerciseSelector).toOption.map
      (startedList.foldl Edit.run .empty).select = some [4, 5] := by decide +kernel
  obtain ⟨nav, hn, hsn⟩ := Selector.parse_of_select hfn
  obtain ⟨exercise, he, hse⟩ := Selector.parse_of_select hfe
  have hr : (buildNavbar hostileTexts (startedList.foldl Edit.run .empty)).result =
      .ok { sections := 2, entries := 2, removedNavs := 0, idConflicts := 0 } := by
    decide +kernel
  have hm : 1 ∈ (startedList.foldl Edit.run .empty).select nav := by simp [hsn]
  have hbelow : ∀ x ∈ (startedList.foldl Edit.run .empty).descendants (some 1),
      x ∉ (startedList.foldl Edit.run .empty).select nav ∧
        x ∉ (startedList.foldl Edit.run .empty).select exercise := by
    rw [hsn, hse]
    decide +kernel
  exact ⟨nav, exercise, _, hn, he, hl, hr, rfl, hm, hbelow, by decide +kernel,
    (Built.empty.run hl).listWritten_buildNavbar hostileTexts hn he hr (by simp) hm hbelow⟩

end CoursePage
