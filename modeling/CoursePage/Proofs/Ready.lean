import CoursePage.Pass.Ready

/-!
A page is worked on as a whole or not at all. The second pass fails only if its selector cannot
be read, and the check of the settings has read it before the first pass writes anything.
-/

namespace CoursePage

variable {t t' : Tree} {failure : Failure}

/-- Settings that pass the check have selectors that can be read. -/
theorem Settings.parse_of_validate {s : Settings} (h : s.validate = .ok ()) :
    (∃ nav, Selector.parse s.navbar.navSelector = .ok nav) ∧
      (∃ exercise, Selector.parse s.navbar.exerciseSelector = .ok exercise) ∧
      ∃ source, Selector.parse s.tags.source = .ok source := by
  unfold Settings.validate NavbarSettings.validate TagSettings.validate at h
  cases hn : Selector.parse s.navbar.navSelector with
  | error f => simp [hn, bind, Except.bind] at h
  | ok nav =>
    cases he : Selector.parse s.navbar.exerciseSelector with
    | error f => simp [hn, he, bind, Except.bind] at h
    | ok exercise =>
      cases hs : Selector.parse s.tags.source with
      | ok source => exact ⟨⟨nav, rfl⟩, ⟨exercise, rfl⟩, source, rfl⟩
      | error f =>
        simp only [hn, he, hs, bind, Except.bind] at h
        split at h <;> simp at h

namespace Navbar

variable {s : NavbarSettings} {parts : Parts}

/-- Work on a page is refused where there are exercises and no list to hold their tabs. -/
theorem arrange_error_iff : (arrange s parts t).result = .error failure ↔
    parts.exercises ≠ [] ∧ parts.navs = [] ∧ s.missingNav = .fail ∧
      failure = .missingNav parts.exercises.length s.navSelector := by
  unfold arrange
  cases hx : parts.exercises with
  | nil => simp
  | cons first rest =>
    by_cases hm : (parts.navs.isEmpty && s.missingNav == .fail) = true
    · rw [Bool.and_eq_true, List.isEmpty_iff, beq_iff_eq] at hm
      simp [hm, Outcome.refuse, eq_comm]
    · rw [Bool.and_eq_true, List.isEmpty_iff, beq_iff_eq] at hm
      simp [hm]
      exact fun hn hf _ => hm ⟨hn, hf⟩

theorem tree_arrange_of_error (h : (arrange s parts t).result = .error failure) :
    (arrange s parts t).tree = t := by
  obtain ⟨hx, hn, hm, _⟩ := arrange_error_iff.mp h
  obtain ⟨first, rest, hs⟩ := List.exists_cons_of_ne_nil hx
  simp [arrange, hs, hn, hm, Outcome.refuse]

end Navbar

/-- A first pass that fails has not touched the page. -/
theorem tree_buildNavbar_of_error {s : NavbarSettings}
    (h : (buildNavbar s t).result = .error failure) : (buildNavbar s t).tree = t := by
  unfold buildNavbar at h ⊢
  cases hn : Selector.parse s.navSelector with
  | error f => rfl
  | ok nav =>
    cases he : Selector.parse s.exerciseSelector with
    | error f => rfl
    | ok exercise =>
      simp only [hn, he, Outcome.check] at h ⊢
      exact Navbar.tree_arrange_of_error h

/-- The settings refuse a page: it has exercises and no navigation list to hold their tabs. -/
def NavbarSettings.Refuse (s : NavbarSettings) (t : Tree) (failure : Failure) : Prop :=
  ∃ nav exercise, Selector.parse s.navSelector = .ok nav ∧
    Selector.parse s.exerciseSelector = .ok exercise ∧
    t.select exercise ≠ [] ∧ t.select nav = [] ∧ s.missingNav = .fail ∧
    failure = .missingNav (t.select exercise).length s.navSelector

/-- Where both selectors can be read, the first pass fails on refused pages only. -/
theorem buildNavbar_error_iff {s : NavbarSettings} {nav exercise : Selector}
    (hn : Selector.parse s.navSelector = .ok nav)
    (he : Selector.parse s.exerciseSelector = .ok exercise) :
    (buildNavbar s t).result = .error failure ↔ s.Refuse t failure := by
  simp [buildNavbar, NavbarSettings.Refuse, hn, he, Outcome.check, Navbar.arrange_error_iff]

/-- The second pass cannot fail once its selector is read. -/
theorem result_renameTags {s : TagSettings} {source : Selector}
    (hs : Selector.parse s.source = .ok source) :
    (renameTags s t).result = .ok (t.select source).length := by
  rw [renameTags_of_parse hs]

/-- Both passes take place or none of them. -/
structure AllOrNothing (s : Settings) (t : Tree) : Prop where
  /-- The check fails, or it passes and the settings refuse the page. Nothing else goes wrong. -/
  failure : ∀ f, (onReady s t).result = .error f ↔
    s.validate = .error f ∨ s.validate = .ok () ∧ s.navbar.Refuse t f
  kept : ∀ f, (onReady s t).result = .error f → (onReady s t).tree = t
  /-- What the first pass has done to a page, the second one goes on with. -/
  second : s.validate = .ok () → ∀ report, (buildNavbar s.navbar t).result = .ok report →
    ∃ count, (renameTags s.tags (buildNavbar s.navbar t).tree).result = .ok count

/-- A page for which `onReady` fails is exactly what it was before. -/
theorem onReady_allOrNothing (s : Settings) (t : Tree) : AllOrNothing s t := by
  cases hv : s.validate with
  | error f =>
    have ho : onReady s t = .refuse f t := by rw [onReady, hv]; rfl
    refine ⟨fun g => ?_, fun _ _ => by rw [ho]; rfl, fun hok => ?_⟩
    · simp [ho, hv, Outcome.refuse]
    · simp [hv] at hok
  | ok _ =>
    obtain ⟨⟨nav, hn⟩, ⟨exercise, he⟩, source, hs⟩ := Settings.parse_of_validate hv
    have hb : ∀ f, (buildNavbar s.navbar t).result = .error f ↔ s.navbar.Refuse t f := fun _ =>
      buildNavbar_error_iff hn he
    have ho : onReady s t = (buildNavbar s.navbar t).andThen fun navbar t =>
        (renameTags s.tags t).andThen fun tagsReplaced t => ⟨.ok { navbar, tagsReplaced }, t⟩ := by
      rw [onReady, hv]
      rfl
    have hsecond : ∀ t', ∃ count, (renameTags s.tags t').result = .ok count := fun t' =>
      ⟨_, result_renameTags hs⟩
    cases hr : (buildNavbar s.navbar t).result with
    | error f =>
      have hf : onReady s t = .refuse f t := by
        rw [ho, Outcome.andThen, hr, tree_buildNavbar_of_error hr]
      refine ⟨fun g => ?_, fun _ _ => by rw [hf]; rfl, fun _ _ _ => hsecond _⟩
      rw [← hb g, hr, hf]
      simp [hv, Outcome.refuse]
    | ok report =>
      obtain ⟨count, hc⟩ := hsecond (buildNavbar s.navbar t).tree
      have hok : (onReady s t).result = .ok ⟨report, count⟩ := by
        simp only [ho, Outcome.andThen, hr, hc]
      refine ⟨fun g => ?_, fun g hg => ?_, fun _ _ _ => hsecond _⟩
      · rw [← hb g, hr, hok]
        simp [hv]
      · simp [hok] at hg

end CoursePage
