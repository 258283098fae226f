import CoursePage.Proofs.Mirror
import CoursePage.Proofs.Rename

/-!
The two passes on trees that go side by side. The first one keeps them side by side and reports the
same, except for ids that were taken. What the second one leaves is told by the shape of the page.
-/

namespace CoursePage

variable {R : NodeId → NodeId → Prop}

/-- A report without the number of ids that were taken, which depends on the index. -/
def NavbarReport.withoutConflicts (r : NavbarReport) : NavbarReport := { r with idConflicts := 0 }

/-- Two runs of the first pass went the same way on trees that go side by side. -/
structure SameCourse (R : NodeId → NodeId → Prop) (g : QualName → QualName)
    (o o' : Outcome NavbarReport) : Prop where
  trees : Mirrored R g o.tree o'.tree
  results : o'.result.map NavbarReport.withoutConflicts =
    o.result.map NavbarReport.withoutConflicts

/-- Both runs failed for the same reason, or they report the same. -/
theorem SameCourse.either {g : QualName → QualName} {o o' : Outcome NavbarReport}
    (h : SameCourse R g o o') :
    (∃ failure, o.result = .error failure ∧ o'.result = .error failure) ∨
      ∃ report report', o.result = .ok report ∧ o'.result = .ok report' ∧
        report'.withoutConflicts = report.withoutConflicts := by
  have hr := h.results
  cases h1 : o.result with
  | error failure =>
    cases h2 : o'.result with
    | error failure' =>
      rw [h1, h2] at hr
      cases hr
      exact Or.inl ⟨failure, rfl, rfl⟩
    | ok report' =>
      rw [h1, h2] at hr
      cases hr
  | ok report =>
    cases h2 : o'.result with
    | error failure' =>
      rw [h1, h2] at hr
      cases hr
    | ok report' =>
      rw [h1, h2] at hr
      exact Or.inr ⟨report, report', rfl, rfl, Except.ok.inj hr⟩

/-- Two runs over the exercises have come equally far. -/
structure InStep (R : NodeId → NodeId → Prop) (g : QualName → QualName) (navs : List NodeId)
    (done done' : NavbarReport × Tree) : Prop where
  trees : Mirrored R g done.2 done'.2
  reports : done'.1.withoutConflicts = done.1.withoutConflicts
  lists : ∀ nav ∈ navs, nav < done.2.size

namespace Navbar

theorem size_markSection (id : String) (isFirst : Bool) (pane : NodeId) (t : Tree) :
    (markSection id isFirst pane t).size = t.size := by
  cases isFirst <;> simp [markSection, paneClasses]

end Navbar

namespace Mirrored

variable {g : QualName → QualName} {t t' : Tree} {i j : NodeId} {parts parts' : Navbar.Parts}

theorem markSection (h : Mirrored R g t t') (hij : R i j) (id : String) (isFirst : Bool) :
    Mirrored R g (Navbar.markSection id isFirst i t) (Navbar.markSection id isFirst j t') := by
  have hm := (h.setAttr hij "id" id).addClasses hij Navbar.paneClasses
  simp only [Navbar.markSection]
  split
  · exact hm
  · exact hm.removeClass hij Navbar.activeClass

theorem linkSection {done done' : NavbarReport × Tree} (h : InStep R g parts.navs done done')
    (hg : ∀ name ∈ ["li", "a"], g (.html name) = .html name)
    (he : List.Forall₂ R parts.exercises parts'.exercises)
    (hn : List.Forall₂ R parts.navs parts'.navs) (hij : R i j) (s : NavbarSettings) (number : Nat) :
    InStep R g parts.navs (Navbar.linkSection s parts done (i, number))
      (Navbar.linkSection s parts' done' (j, number)) := by
  obtain ⟨report, t⟩ := done
  obtain ⟨report', t'⟩ := done'
  obtain ⟨ht, hr, hlt⟩ := h
  simp only [NavbarReport.withoutConflicts, NavbarReport.mk.injEq, and_true] at ht hr hlt
  have hfirst : (parts'.exercises.head? == some j) = (parts.exercises.head? == some i) := by
    generalize parts.exercises = l, parts'.exercises = l' at he
    cases he with
    | nil => rfl
    | cons hab _ =>
      rw [Bool.eq_iff_iff]
      simpa using ht.eq_iff hab hij
  have hm := ht.markSection hij (s.sectionId number) (parts.exercises.head? == some i)
  have hlt' : ∀ nav ∈ parts.navs, nav < (Navbar.markSection (s.sectionId number)
      (parts.exercises.head? == some i) i t).size := fun nav hv => by
    rw [Navbar.size_markSection]
    exact hlt nav hv
  refine ⟨?trees, ?reports, fun nav hv => ?lists⟩
  case trees =>
    rw [Navbar.linkSection, Navbar.linkSection, hfirst]
    exact hm.appendEntries hg hn hlt' _ _
  case reports =>
    rw [Navbar.linkSection, Navbar.linkSection]
    simp only [NavbarReport.withoutConflicts, hr, hn.length_eq]
  case lists =>
    rw [Navbar.linkSection, Navbar.size_appendEntries]
    exact Nat.lt_add_right _ (hlt' nav hv)

theorem linkSections (h : Mirrored R g t t')
    (hg : ∀ name ∈ ["li", "a"], g (.html name) = .html name)
    (he : List.Forall₂ R parts.exercises parts'.exercises)
    (hn : List.Forall₂ R parts.navs parts'.navs) (hlt : ∀ nav ∈ parts.navs, nav < t.size)
    (s : NavbarSettings) :
    InStep R g parts.navs (Navbar.linkSections s parts t) (Navbar.linkSections s parts' t') := by
  -- The parts stay those of the whole page while the list of exercises left gets shorter.
  have main : ∀ rest rest', List.Forall₂ R rest rest' → ∀ number done done',
      InStep R g parts.navs done done' →
      InStep R g parts.navs ((rest.zipIdx number).foldl (Navbar.linkSection s parts) done)
        ((rest'.zipIdx number).foldl (Navbar.linkSection s parts') done') := by
    intro rest rest' hr
    induction hr with
    | nil => exact fun _ _ _ hd => hd
    | cons hij _ ih =>
      intro number done done' hd
      rw [List.zipIdx_cons, List.zipIdx_cons, List.foldl_cons, List.foldl_cons]
      exact ih (number + 1) _ _ (linkSection hd hg he hn hij s number)
  exact main _ _ he 1 _ _ ⟨h, rfl, hlt⟩

theorem arrange (h : Mirrored R g t t') (hg : ∀ name ∈ ["li", "a"], g (.html name) = .html name)
    (he : List.Forall₂ R parts.exercises parts'.exercises)
    (hn : List.Forall₂ R parts.navs parts'.navs) (hlt : ∀ nav ∈ parts.navs, nav < t.size)
    (s : NavbarSettings) :
    SameCourse R g (Navbar.arrange s parts t) (Navbar.arrange s parts' t') := by
  have hl := h.linkSections hg he hn hlt s
  obtain ⟨exercises, navs⟩ := parts
  obtain ⟨exercises', navs'⟩ := parts'
  simp only at he hn
  have hempty : navs'.isEmpty = navs.isEmpty := by cases hn <;> rfl
  unfold Navbar.arrange
  cases he with
  | nil =>
    refine ⟨h.removeNavs hn, ?_⟩
    simp [hn.length_eq]
  | cons hij rest =>
    simp only [hempty]
    split
    · refine ⟨h, ?_⟩
      simp [Outcome.refuse, rest.length_eq]
    · refine ⟨hl.trees.addClass hij Navbar.activeClass, ?_⟩
      exact congrArg Except.ok hl.reports

/-- The first pass goes the same way if its selectors find corresponding elements. -/
theorem buildNavbar (h : Mirrored R g t t')
    (hg : ∀ name ∈ ["li", "a"], g (.html name) = .html name) (s : NavbarSettings)
    (hs : ∀ text ∈ [s.navSelector, s.exerciseSelector], ∀ found, Selector.parse text = .ok found →
      List.Forall₂ R (t.select found) (t'.select found)) :
    SameCourse R g (CoursePage.buildNavbar s t) (CoursePage.buildNavbar s t') := by
  unfold CoursePage.buildNavbar
  cases hn : Selector.parse s.navSelector with
  | error failure => exact ⟨h, rfl⟩
  | ok nav =>
    cases he : Selector.parse s.exerciseSelector with
    | error failure => exact ⟨h, rfl⟩
    | ok exercise =>
      simp only [Outcome.check]
      exact h.arrange hg (hs _ (by simp) exercise he) (hs _ (by simp) nav hn)
        (fun _ hm => h.sound.lt_size_of_mem_select hm) s

end Mirrored

namespace Sound

variable {t : Tree}

/-- Renaming tags puts other contents at the places of the elements found. -/
theorem shape_renameTags (h : Sound t) (s : TagSettings) {source : Selector}
    (hs : Selector.parse s.source = .ok source) :
    (renameTags s t).tree.shape = t.page.map fun n =>
      if n.1 ∈ t.select source then n.2.map (Content.renamed s.target) else n.2 := by
  rw [Tree.shape, (h.stage_renameTags s hs).page h (h.document_not_mem_select source),
    Branch.map_map]
  rfl

theorem sound_renameTags (h : Sound t) (s : TagSettings) : Sound (renameTags s t).tree := by
  cases hs : Selector.parse s.source with
  | error failure =>
    simp only [renameTags, hs]
    exact h
  | ok source => exact (h.stage_renameTags s hs).sound

end Sound

end CoursePage
