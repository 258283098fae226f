import CoursePage.Proofs.DocumentOrder
import CoursePage.Proofs.IdIndex
import CoursePage.Proofs.Tabs

/-!
Ids of exercises that stand elsewhere on the page. The pass looks each id up in the index before an
exercise gets it, and the index knows one element for an id. What is counted is told by the page
that the pass starts from and the ids that it has given; every id that is counted stands outside
the exercises, but not every id that stands there is counted.
-/

namespace CoursePage

open CoursePage.Tree (document)

namespace Navbar

variable {s : NavbarSettings} {navs exercises done : List NodeId} {t t' t'' : Tree} {id : String}
  {look look' : Nat → Element → Element}

/-- Some attached element that is no exercise has the id. -/
def standsOutside (t : Tree) (exercises : List NodeId) (id : String) : Bool :=
  (t.descendants (some document)).any fun i =>
    t.elementId (some i) == some id && !exercises.contains i

theorem standsOutside_iff (h : Sound t) :
    standsOutside t exercises id = true ↔ ∃ i, t.Holds id i ∧ i ∉ exercises := by
  simp only [standsOutside, List.any_eq_true, Bool.and_eq_true, beq_iff_eq, Bool.not_eq_true',
    List.contains_eq_mem, decide_eq_false_iff_not, Tree.Holds, h.isAttached_iff_mem_descendants]
  constructor
  · rintro ⟨i, hm, hi, hn⟩
    exact ⟨i, ⟨Or.inr hm, hi⟩, hn⟩
  · rintro ⟨i, ⟨rfl | hm, hi⟩, hn⟩
    · -- The document is no element.
      rw [Tree.elementId, h.element?_document] at hi
      cases hi
    · exact ⟨i, hm, hi, hn⟩

/-- An id that is found to be taken stands outside the exercises. -/
theorem standsOutside_of_isTaken (h : Sound t) (ht : isTaken t exercises id = true) :
    standsOutside t exercises id = true := by
  rw [isTaken, Option.any_eq_true] at ht
  obtain ⟨i, hi, hn⟩ := ht
  rw [Tree.getById?, Option.filter_eq_some_iff, Bool.and_eq_true, beq_iff_eq] at hi
  exact (standsOutside_iff h).mpr ⟨i, ⟨hi.2.2, hi.2.1⟩, by simpa using hn⟩

/-- Exercises that became panes hide an id that they have, and nothing else hides or shows one. -/
theorem Tabbed.isTaken_eq (h : Tabbed s navs look t done t') (ht : Sound t)
    (hd : done ⊆ exercises) (id : String) : isTaken t' exercises id =
      (isTaken t exercises id && done.all fun pane => t'.elementId (some pane) != some id) := by
  rcases h.leads id with ⟨pane, hp, hid, hl⟩ | ⟨hn, hl⟩
  · have hall : (done.all fun pane => t'.elementId (some pane) != some id) = false := by
      rw [List.all_eq_false]
      exact ⟨pane, hp, by simp [hid]⟩
    rw [hall, Bool.and_false, isTaken, Tree.getById?, hl, Option.filter_some]
    split <;> simp [hd hp]
  · have hall : (done.all fun pane => t'.elementId (some pane) != some id) = true := by
      rw [List.all_eq_true]
      exact fun pane hp => by simpa using hn pane hp
    rw [hall, Bool.and_true, isTaken, isTaken, Tree.getById?, Tree.getById?, hl]
    cases t.ids.lookup id with
    | none => rfl
    | some holder =>
      by_cases hm : holder ∈ exercises
      · rw [Option.filter_some, Option.filter_some]
        split <;> split <;> simp [hm]
      · -- An element outside the exercises has the id that it had, and is as attached.
        have hid := h.ids holder fun hm' => hm (hd hm')
        have hat : t.elementId (some holder) = some id →
            t'.isAttached (some holder) = t.isAttached (some holder) := by
          intro he
          obtain ⟨e, hhe, -⟩ := Option.bind_eq_some_iff.mp he
          exact h.grown.isAttached ht h.sound (Tree.lt_size_of_element? hhe)
        rw [Option.filter_some, Option.filter_some, hid]
        by_cases he : t.elementId (some holder) = some id
        · rw [hat he]
        · simp [he]

/-- The id of an exercise is counted: when the pass starts it is taken, and no earlier exercise
has come to have it. -/
def counted (s : NavbarSettings) (exercises : List NodeId) (t t' : Tree) (i : Nat) : Bool :=
  isTaken t exercises (s.sectionId (i + 1)) &&
    (exercises.take i).all fun pane => t'.elementId (some pane) != some (s.sectionId (i + 1))

/-- Showing the first exercise changes no id. -/
theorem Tabbed.elementId_shown (h : Tabbed s navs (paneOf s) t done t')
    (h' : Tabbed s navs (shownPaneOf s) t exercises t'') {rest : List NodeId}
    (hs : exercises = done ++ rest)
    (he : ∀ pane ∈ exercises, ∃ e, t.element? (some pane) = some e) :
    ∀ pane ∈ done, t''.elementId (some pane) = t'.elementId (some pane) := by
  intro pane hp
  obtain ⟨i, hi⟩ := List.mem_iff_getElem?.mp hp
  have hi' : exercises[i]? = some pane := by
    rw [hs, List.getElem?_append_left (List.getElem?_eq_some_iff.mp hi).1, hi]
  obtain ⟨e, hpe⟩ := he pane (List.mem_of_getElem? hi')
  have hpi := h.panes i pane e hi hpe
  rw [h.elementId hi hpe, h'.elementId hi' hpe]
  cases i with
  | zero =>
    rw [shownPaneOf_zero]
    exact Element.id_addClass
      (h.sound.synced pane _ (Tree.content?_of_element? hpi) _ rfl) activeClass
  | succ i => rw [shownPaneOf_succ]

/-- When the loop comes to an exercise, it counts the exercise's id as told beforehand. -/
theorem isTaken_linked (h : Tabbed s navs (paneOf s) t done t')
    (h' : Tabbed s navs (shownPaneOf s) t exercises t'') (ht : Sound t) {rest : List NodeId}
    (hs : exercises = done ++ rest)
    (he : ∀ pane ∈ exercises, ∃ e, t.element? (some pane) = some e) :
    isTaken t' exercises (s.sectionId (done.length + 1)) =
      counted s exercises t t'' done.length := by
  have htake : exercises.take done.length = done := by rw [hs, List.take_left]
  have hids := h.elementId_shown h' hs he
  rw [h.isTaken_eq ht (hs ▸ List.subset_append_left done rest), counted, htake]
  refine congrArg _ ?_
  rw [Bool.eq_iff_iff, List.all_eq_true, List.all_eq_true]
  exact forall₂_congr fun pane hp => by rw [hids pane hp]

theorem idConflicts_linkedBy (s : NavbarSettings) {parts : Parts} (ht : Sound t)
    (hp : parts.Found t)
    (h' : Tabbed s parts.navs (shownPaneOf s) t parts.exercises t'') (rest : List NodeId)
    (hs : parts.exercises = done ++ rest) : (linkedBy s parts t done).1.idConflicts =
      ((List.range done.length).filter (counted s parts.exercises t t'')).length := by
  induction done using List.reverseRecOn generalizing rest with
  | nil => rfl
  | append_singleton done pane ih =>
    rw [List.append_assoc, List.singleton_append] at hs
    have hl := tabbed_linkedBy s ht hp (pane :: rest) hs
    have hc := isTaken_linked hl h' ht hs hp.elements
    rw [linkedBy_concat, linkSection, hc, ih _ hs, List.length_append, List.length_singleton,
      List.range_succ, List.filter_append, List.length_append]
    cases hd : counted s parts.exercises t t'' done.length <;> simp [hd]

/-- The number of ids that the pass counts, for a page before and after it. The ids that stand
outside the exercises are those it is meant to count. -/
structure ConflictsCounted (s : NavbarSettings) (exercises : List NodeId) (t t' : Tree)
    (conflicts : Nat) : Prop where
  count : conflicts = ((List.range exercises.length).filter (counted s exercises t t')).length
  genuine : ∀ i, counted s exercises t t' i = true →
    standsOutside t exercises (s.sectionId (i + 1)) = true
  /-- The count is right exactly if no id is missed. -/
  exact_iff : conflicts = ((List.range exercises.length).filter fun i =>
      standsOutside t exercises (s.sectionId (i + 1))).length ↔
    ∀ i < exercises.length, standsOutside t exercises (s.sectionId (i + 1)) = true →
      counted s exercises t t' i = true
  /-- Usually an id is counted exactly if the index leads to a holder outside the exercises. -/
  plain : t.NamesDistinct → ∀ i < exercises.length,
    counted s exercises t t' i = isTaken t exercises (s.sectionId (i + 1))

theorem conflictsCounted (ht : Sound t) {conflicts : Nat}
    (hc : conflicts = ((List.range exercises.length).filter (counted s exercises t t')).length)
    (hids : t.NamesDistinct → ∀ i pane, exercises[i]? = some pane →
      t'.elementId (some pane) = some (s.sectionId (i + 1))) :
    ConflictsCounted s exercises t t' conflicts := by
  have hgen : ∀ i, counted s exercises t t' i = true →
      standsOutside t exercises (s.sectionId (i + 1)) = true := by
    intro i hi
    rw [counted, Bool.and_eq_true] at hi
    exact standsOutside_of_isTaken ht hi.1
  refine ⟨hc, hgen, ?exact_iff, fun hu i hi => ?plain⟩
  case exact_iff =>
    have hsub := List.monotone_filter_right (List.range exercises.length) hgen
    rw [hc, hsub.length_eq]
    constructor
    · intro heq i hi ho
      have hm : i ∈ (List.range exercises.length).filter (counted s exercises t t') := by
        rw [heq]
        exact List.mem_filter.mpr ⟨List.mem_range.mpr hi, ho⟩
      exact (List.mem_filter.mp hm).2
    · intro hall
      refine List.filter_congr fun i hi => Bool.eq_iff_iff.mpr ⟨hgen i, ?_⟩
      exact hall i (List.mem_range.mp hi)
  case plain =>
    rw [counted, Bool.and_eq_left_iff_imp]
    intro _
    rw [List.all_eq_true]
    intro pane hp
    obtain ⟨j, hj⟩ := List.mem_iff_getElem?.mp hp
    rw [List.getElem?_take] at hj
    split at hj
    · rename_i hji
      rw [hids hu j pane hj, bne_iff_ne, ne_eq, Option.some_inj, NavbarSettings.sectionId_inj]
      omega
    · cases hj

end Navbar

/-- What the pass reports as conflicts are ids that stand outside the exercises. It reports all of
them exactly if the index leads from each one to an element there when the exercise's turn comes. -/
theorem Built.conflictsCounted_buildNavbar {t : Tree} (h : Built t) (s : NavbarSettings)
    {nav exercise : Selector} (hn : Selector.parse s.navSelector = .ok nav)
    (he : Selector.parse s.exerciseSelector = .ok exercise) {report : NavbarReport}
    (hr : (buildNavbar s t).result = .ok report) (hk : 0 < report.sections) :
    Navbar.ConflictsCounted s (t.select exercise) t (buildNavbar s t).tree report.idConflicts := by
  have ht := h.sound
  obtain ⟨hrep, htab⟩ := ht.tabbed_buildNavbar s hn he hr hk
  have hel : ∀ pane ∈ t.select exercise, ∃ e, t.element? (some pane) = some e := fun pane hp =>
    (ht.mem_select hp).2
  refine Navbar.conflictsCounted ht ?count fun hu i pane hi => ?ids
  case count =>
    rw [hrep, Navbar.idConflicts_linkedBy s ht (ht.found_select nav exercise) htab []
      (List.append_nil _).symm]
  case ids =>
    obtain ⟨e, hpe⟩ := hel pane (List.mem_of_getElem? hi)
    rw [htab.elementId hi hpe, Navbar.id_shownPaneOf (ht.regular hu hpe)]

theorem conflictsCounted_crossedTabs :
    ∃ nav exercise report, Selector.parse ".nav" = .ok nav ∧
      Selector.parse ".exercise" = .ok exercise ∧ LegalRun .empty crossedTabs ∧
      (crossedTabs.foldl Edit.run .empty).select exercise = [2, 3] ∧
      (buildNavbar {} (crossedTabs.foldl Edit.run .empty)).result = .ok report ∧
      report.sections = 2 ∧ report.idConflicts = 1 ∧
      Navbar.ConflictsCounted {} [2, 3] (crossedTabs.foldl Edit.run .empty)
        (buildNavbar {} (crossedTabs.foldl Edit.run .empty)).tree 1 := by
  have hl : LegalRun .empty crossedTabs := by decide +kernel
  have hfn : (Selector.parse ".nav").toOption.map (crossedTabs.foldl Edit.run .empty).select =
      some [1, 3] := by decide +kernel
  have hfe : (Selector.parse ".exercise").toOption.map
      (crossedTabs.foldl Edit.run .empty).select = some [2, 3] := by decide +kernel
  obtain ⟨nav, hn, -⟩ := Selector.parse_of_select hfn
  obtain ⟨exercise, he, hse⟩ := Selector.parse_of_select hfe
  have hr : (buildNavbar {} (crossedTabs.foldl Edit.run .empty)).result =
      .ok { sections := 2, entries := 4, removedNavs := 0, idConflicts := 1 } := by
    decide +kernel
  have ht := (Built.empty.run hl).conflictsCounted_buildNavbar {} hn he hr (by simp)
  rw [hse] at ht
  exact ⟨nav, exercise, _, hn, he, hl, hse, hr, rfl, rfl, ht⟩

/-- A paragraph that has the id of the first exercise, and an exercise that took the same id after
it. -/
def sharedId : List Edit :=
  [.createElement (.html "ul") [.plain "class" "nav"], .append 0 1,
    .createElement (.html "p") [.plain "id" "exercise1"], .append 0 2,
    .createElement (.html "div") [.plain "class" "exercise", .plain "id" "exercise1"],
    .append 0 3]

/-- The paragraph is missed. -/
theorem not_counted_sharedId :
    ∃ nav exercise report, Selector.parse ".nav" = .ok nav ∧
      Selector.parse ".exercise" = .ok exercise ∧ LegalRun .empty sharedId ∧
      (sharedId.foldl Edit.run .empty).select exercise = [3] ∧
      (buildNavbar {} (sharedId.foldl Edit.run .empty)).result = .ok report ∧
      report.sections = 1 ∧ report.idConflicts = 0 ∧
      ((List.range 1).filter fun i => Navbar.standsOutside (sharedId.foldl Edit.run .empty) [3]
        (NavbarSettings.sectionId {} (i + 1))).length = 1 := by
  have hfn : (Selector.parse ".nav").toOption.map (sharedId.foldl Edit.run .empty).select =
      some [1] := by decide +kernel
  have hfe : (Selector.parse ".exercise").toOption.map
      (sharedId.foldl Edit.run .empty).select = some [3] := by decide +kernel
  obtain ⟨nav, hn, -⟩ := Selector.parse_of_select hfn
  obtain ⟨exercise, he, hse⟩ := Selector.parse_of_select hfe
  have hr : (buildNavbar {} (sharedId.foldl Edit.run .empty)).result =
      .ok { sections := 1, entries := 1, removedNavs := 0, idConflicts := 0 } := by
    decide +kernel
  exact ⟨nav, exercise, _, hn, he, by decide +kernel, hse, hr, rfl, rfl, by decide +kernel⟩

end CoursePage
