import CoursePage.Proofs.Counting
import CoursePage.Proofs.Printed
import CoursePage.Proofs.Ready
import CoursePage.Proofs.SideBySide

/-!
The passes in either order. Under the usual selectors the first pass asks for classes only, which
an element keeps under another name, and it makes no elements that the second pass renames. The
page with other names goes side by side with the page as it is through the first pass.
-/

namespace CoursePage

open CoursePage.Tree (document)

namespace Selector

variable {t : Tree} {i : NodeId}

/-- A single condition is asked of elements. -/
theorem holds_single (source : String) (p : Simple) :
    (⟨source, [.compound [p]]⟩ : Selector).holds t i =
      (t.isElement (some i) && (p.holds t [] i []).1) := by
  rw [holds_ofCompound, allHold_cons]
  cases p.holds t [] i [] with
  | mk held after => cases held <;> rfl

theorem holds_class (source name : String) :
    (⟨source, [.compound [.className name]]⟩ : Selector).holds t i =
      (t.isElement (some i) && t.hasClass (some i) name) := by
  rw [holds_single, Simple.holds]
  rfl

theorem parse_nav : parse ".nav" = .ok ⟨".nav", [.compound [.className "nav"]]⟩ := by
  with_unfolding_all rfl

theorem parse_exercise :
    parse ".exercise" = .ok ⟨".exercise", [.compound [.className "exercise"]]⟩ := by
  with_unfolding_all rfl

theorem parse_tt : parse "tt" = .ok ⟨"tt", [.compound [.type "tt"]]⟩ := by
  with_unfolding_all rfl

end Selector

/-- Elements on both sides have the same classes, so a class finds corresponding ones. -/
theorem Mirrored.forall₂_select_class {R : NodeId → NodeId → Prop} {g : QualName → QualName}
    {t t' : Tree} (h : Mirrored R g t t') (source name : String) :
    List.Forall₂ R (t.select ⟨source, [.compound [.className name]]⟩)
      (t'.select ⟨source, [.compound [.className name]]⟩) := by
  have hd := h.sound.forall₂_descendants h.sound' h.children h.top
  rw [Tree.select_of_allSteady _ rfl, Tree.select_of_allSteady _ rfl]
  refine forall₂_filter hd fun i j hij => ?_
  rw [Selector.holds_class, Selector.holds_class, h.isElement hij, h.hasClass hij]

namespace Sound

variable {t : Tree} {i : NodeId}

/-- A condition that counts nothing finds the attached elements that meet it. -/
theorem mem_select_single (h : Sound t) (source : String) {p : Selector.Simple}
    (hp : p.isSteady = true) : i ∈ t.select ⟨source, [.compound [p]]⟩ ↔
      i ∈ t.within document ∧ ∃ e, t.element? (some i) = some e ∧ (p.holds t [] i []).1 = true := by
  have hs : Selector.allSteady [.compound [p]] = true := by
    simpa [Selector.allSteady, Selector.Complex.isSteady, Selector.conditionsSteady] using hp
  rw [t.select_of_allSteady (s := ⟨source, [.compound [p]]⟩) hs, List.mem_filter,
    Selector.holds_single, Tree.isElement, h.within_eq_descendants, List.mem_cons]
  cases he : t.element? (some i) with
  | none => simp
  | some e =>
    have hd : i ≠ document := by
      rintro rfl
      simp [h.element?_document] at he
    simp [hd]

/-- A type finds the attached elements with a name. -/
theorem mem_select_type (h : Sound t) (source name : String) :
    i ∈ t.select ⟨source, [.compound [.type name]]⟩ ↔ i ∈ t.within document ∧
      ∃ e, t.element? (some i) = some e ∧ e.name.name = Text.lowered name := by
  rw [h.mem_select_single source rfl, Selector.Simple.holds]
  refine and_congr_right fun _ => exists_congr fun e => and_congr_right fun he => ?_
  change ((t.elementName (some i)).any fun n => n.name == Text.lowered name) = true ↔ _
  simp [Tree.elementName, he]

end Sound

namespace TagRename

/-- The name of an element after the usual renaming. -/
def codeName (n : QualName) : QualName := if n.name = "tt" then .html "code" else n

theorem codeName_html {name : String} (h : name ∈ ["li", "a"]) :
    codeName (.html name) = .html name := by
  have hne : ∀ name ∈ ["li", "a"], name ≠ "tt" := by decide
  exact if_neg (hne name h)

end TagRename

/-- The usual renaming gives every attached element its other name and does nothing else. -/
theorem Sound.shape_renameTags_default {t : Tree} (h : Sound t) : (renameTags {} t).tree.shape =
    t.shape.map (Option.map (Content.mapName TagRename.codeName)) := by
  have hl : Text.lowered "tt" = "tt" := by decide +kernel
  rw [h.shape_renameTags {} Selector.parse_tt, Tree.shape, Branch.map_map]
  refine h.map_page h (fun _ _ => rfl) fun i hi => ?_
  have hm := h.mem_select_type (i := i) "tt" "tt"
  rw [hl] at hm
  by_cases hs : i ∈ t.select ⟨"tt", [.compound [.type "tt"]]⟩
  · obtain ⟨_, e, he, hn⟩ := hm.mp hs
    simp only [if_pos hs, Function.comp_apply, Tree.content?_of_element? he, Option.map_some]
    simp [Content.mapName, Element.mapName, Content.renamed, TagRename.codeName, hn]
  · simp only [if_neg hs, Function.comp_apply]
    cases hc : t.content? (some i) with
    | none => rfl
    | some c =>
      cases c with
      | element e =>
        have hn : e.name.name ≠ "tt" := fun hn =>
          hs (hm.mpr ⟨hi, e, Tree.element?_of_content? hc, hn⟩)
        simp [Content.mapName, Element.mapName, TagRename.codeName, hn]
      | _ => rfl

/-- The order of the passes makes no difference to the page. -/
structure PassesCommute (s : NavbarSettings) (tags : TagSettings) (t : Tree) : Prop where
  /-- The second pass never fails. -/
  renames : ∀ t', ∃ count, (renameTags tags t').result = .ok count
  /-- The first pass fails on both pages or reports the same, but for ids that were taken. -/
  results : (buildNavbar s (renameTags tags t).tree).result.map NavbarReport.withoutConflicts =
    (buildNavbar s t).result.map NavbarReport.withoutConflicts
  succeeds : (∃ report, (buildNavbar s t).result = .ok report) ↔
    ∃ report, (buildNavbar s (renameTags tags t).tree).result = .ok report
  /-- Either order leaves the same attached tree, apart from the numbers of its nodes. -/
  page : (buildNavbar s (renameTags tags t).tree).tree.shape =
    (renameTags tags (buildNavbar s t).tree).tree.shape
  html : (buildNavbar s (renameTags tags t).tree).tree.toHtml =
    (renameTags tags (buildNavbar s t).tree).tree.toHtml

/-- Under the usual selectors the passes commute, whatever elements they both work on. -/
theorem Built.passesCommute {t : Tree} (h : Built t) (idPrefix label : String)
    (missingNav : MissingNav) : PassesCommute { idPrefix, label, missingNav } {} t := by
  have ht := h.sound
  let s : NavbarSettings := { idPrefix, label, missingNav }
  -- The page with other names goes through the first pass beside the page as it is.
  have hm := Mirrored.of_shape ht (ht.sound_renameTags {}) ht.shape_renameTags_default
  have hb := hm.buildNavbar (fun _ => TagRename.codeName_html) s fun text hs found hp => by
    rcases List.mem_pair.mp hs with rfl | rfl
    · rw [Selector.parse_nav] at hp
      cases hp
      exact hm.forall₂_select_class _ _
    · rw [Selector.parse_exercise] at hp
      cases hp
      exact hm.forall₂_select_class _ _
  have hpage : (buildNavbar s (renameTags {} t).tree).tree.shape =
      (renameTags {} (buildNavbar s t).tree).tree.shape := by
    rw [hb.trees.shape, hb.trees.sound.shape_renameTags_default]
  refine ⟨fun t' => ?renames, hb.results, ?succeeds, hpage, ?html⟩
  case renames => exact ⟨_, result_renameTags Selector.parse_tt⟩
  case succeeds =>
    rcases hb.either with ⟨failure, h1, h2⟩ | ⟨report, report', h1, h2, _⟩
    · simp [h1, h2, s]
    · exact iff_of_true ⟨report, h1⟩ ⟨report', h2⟩
  case html =>
    rw [hb.trees.sound'.toHtml_eq, (hb.trees.sound.sound_renameTags {}).toHtml_eq, hpage]

/-- A `tt` in a navigation list, one that is an exercise, and one inside that is such a list. -/
def sharedTags : List Edit :=
  [.createElement (.html "ul") [.plain "class" "nav"], .append 0 1,
    .createElement (.html "tt") [], .append 1 2,
    .createElement (.html "tt") [.plain "class" "exercise"], .append 0 3,
    .createElement (.html "tt") [.plain "class" "nav"], .append 3 4, .createText "x", .append 4 5]

theorem passesCommute_sharedTags :
    LegalRun .empty sharedTags ∧
      (buildNavbar {} (sharedTags.foldl Edit.run .empty)).result.toOption =
        some { sections := 1, entries := 2 } ∧
      (renameTags {} (sharedTags.foldl Edit.run .empty)).result.toOption = some 3 ∧
      PassesCommute {} {} (sharedTags.foldl Edit.run .empty) := by
  have hl : LegalRun .empty sharedTags := by decide +kernel
  exact ⟨hl, by decide +kernel, by decide +kernel, (Built.empty.run hl).passesCommute _ _ _⟩

end CoursePage
