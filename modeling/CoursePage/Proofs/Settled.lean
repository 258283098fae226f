import CoursePage.Proofs.Commute
import CoursePage.Proofs.Wrapping
import Mathlib

/-!
Renaming tags a second time. A local selector asks an element for its name and attributes only, so
what it did not find before the first run it does not find after it, wherever the elements around
have gone. It may find the new elements, which are renamed to what they are called already. A
selector for one type does not even find these, unless the new name is the type's.
-/

namespace CoursePage

open CoursePage.Tree (document)

namespace Text

/-- A text is not what another one becomes in lower case if they differ in more than case. -/
theorem ne_lowered_of_not_sameText {a b : String} (h : sameText a b = false) : b ≠ lowered a := by
  rintro rfl
  have hsame : (lowered a).toList.map Char.toLower = a.toList.map Char.toLower := by
    rw [lowered, String.toList_ofList, List.map_map]
    apply List.map_congr_left
    intro c _
    exact c.toLower_toLower_eq_toLower
  rw [sameText, sameLetters, hsame, beq_self_eq_true] at h
  exact Bool.noConfusion h

end Text

namespace Selector

mutual

/-- A condition that asks an element alone, whatever is around it. -/
def Simple.isLocal : Simple → Bool
  | .noNamespace | .universal | .type _ | .id _ | .className _ | .attribute _ => true
  | .host _ | .usage _ => true
  | .root | .empty | .scope | .position _ => false
  | .not alternatives => allLocal alternatives

def conditionsLocal : List Simple → Bool
  | [] => true
  | p :: ps => p.isLocal && conditionsLocal ps

def Complex.isLocal : Complex → Bool
  | .compound parts => conditionsLocal parts
  | .chain .. => false

/-- Every alternative is a compound of local conditions. -/
def allLocal : List Complex → Bool
  | [] => true
  | s :: ss => s.isLocal && allLocal ss

end

variable {t t' : Tree} {i j : NodeId}

mutual

/-- A local condition holds of both or of none of two nodes that are the same element. -/
theorem Simple.holds_congr (p : Simple) (hp : p.isLocal = true) (f : Frame)
    (he : t'.element? (some j) = t.element? (some i)) : p.holds t' f j = p.holds t f i := by
  match p with
  | .noNamespace => simp only [Simple.holds, Tree.elementName, he]
  | .universal => simp only [Simple.holds]
  | .type name => simp only [Simple.holds, Tree.elementName, he]
  | .id name => simp only [Simple.holds, Tree.elementId, he]
  | .className name => simp only [Simple.holds, Tree.hasClass, Tree.classes, he]
  | .attribute test => simp only [Simple.holds, Tree.attrs, he]
  | .host _ => simp only [Simple.holds]
  | .usage u =>
    simp only [Simple.holds, Usage.holds, Tree.isLink, Tree.elementName, Tree.attr?, Tree.attrs, he]
  | .not alternatives =>
    rw [Simple.isLocal] at hp
    simp only [Simple.holds, someHolds_congr alternatives hp _ he]

theorem allHold_congr (ps : List Simple) (hp : conditionsLocal ps = true) (f : Frame)
    (he : t'.element? (some j) = t.element? (some i)) : allHold t' ps f j = allHold t ps f i := by
  match ps with
  | [] => rfl
  | p :: ps =>
    rw [conditionsLocal, Bool.and_eq_true] at hp
    rw [allHold, allHold, p.holds_congr hp.1 f he, allHold_congr ps hp.2 f he]

theorem Complex.find_congr (s : Complex) (hs : s.isLocal = true) (f : Frame)
    (he : t'.element? (some j) = t.element? (some i)) : s.find t' f j = s.find t f i := by
  match s with
  | .compound parts =>
    rw [Complex.isLocal] at hs
    rw [Complex.find, Complex.find, allHold_congr parts hs f he]

theorem someHolds_congr (ss : List Complex) (hs : allLocal ss = true) (f : Frame)
    (he : t'.element? (some j) = t.element? (some i)) :
    someHolds t' ss f j = someHolds t ss f i := by
  match ss with
  | [] => rfl
  | s :: ss =>
    rw [allLocal, Bool.and_eq_true] at hs
    rw [someHolds, someHolds, s.find_congr hs.1 f he, someHolds_congr ss hs.2 f he]

end

/-- A local selector tells nothing apart that is the same element. -/
theorem holds_congr (s : Selector) (hs : allLocal s.alternatives = true)
    (he : t'.element? (some j) = t.element? (some i)) : s.holds t' j = s.holds t i := by
  rw [holds, holds, asks, asks, someHolds_congr s.alternatives hs [] he, Tree.isElement,
    Tree.isElement, he]

mutual

/-- What asks an element alone counts nothing around it. -/
theorem Simple.isSteady_of_isLocal (p : Simple) (hp : p.isLocal = true) : p.isSteady = true := by
  match p with
  | .noNamespace | .universal | .type _ | .id _ | .className _ | .attribute _ | .host _
  | .usage _ => rfl
  | .not alternatives =>
    rw [Simple.isLocal] at hp
    rw [Simple.isSteady, allSteady_of_allLocal alternatives hp]

theorem conditionsSteady_of_local (ps : List Simple) (hp : conditionsLocal ps = true) :
    conditionsSteady ps = true := by
  match ps with
  | [] => rfl
  | p :: ps =>
    rw [conditionsLocal, Bool.and_eq_true] at hp
    rw [conditionsSteady, p.isSteady_of_isLocal hp.1, conditionsSteady_of_local ps hp.2]
    rfl

theorem Complex.isSteady_of_isLocal (s : Complex) (hs : s.isLocal = true) :
    s.isSteady = true := by
  match s with
  | .compound parts =>
    rw [Complex.isLocal] at hs
    rw [Complex.isSteady, conditionsSteady_of_local parts hs]

theorem allSteady_of_allLocal (ss : List Complex) (hs : allLocal ss = true) :
    allSteady ss = true := by
  match ss with
  | [] => rfl
  | s :: ss =>
    rw [allLocal, Bool.and_eq_true] at hs
    rw [allSteady, s.isSteady_of_isLocal hs.1, allSteady_of_allLocal ss hs.2]
    rfl

end

end Selector

theorem Content.renamed_renamed (target : String) (c : Content) :
    (c.renamed target).renamed target = c.renamed target := by
  cases c <;> rfl

namespace TagRename.Stage

variable {target : String} {found : List NodeId} {t t' : Tree} {i : NodeId}

/-- Of the attached nodes a local selector finds new ones only, once it has found the others. -/
theorem exists_of_mem_select (ht : Sound t) {source : Selector}
    (h : Stage target t (t.select source) t')
    (hl : Selector.allLocal source.alternatives = true) (hi : i ∈ t'.select source) :
    ∃ m ∈ t.select source, i = successor t.size (t.select source) m := by
  have hat := h.sound.isAttached_of_mem_select hi
  rw [h.sound.isAttached_iff] at hat
  obtain ⟨m, hm, rfl⟩ := (h.mem_within_iff ht (ht.document_not_mem_select source)).mp hat
  refine ⟨m, ?_, rfl⟩
  -- An old node that is not renamed is the element that it was.
  by_contra hno
  rw [successor_of_not_mem hno] at hi
  have hlt := ht.lt_size_of_mem_within ht.zero_lt_size hm
  have hsame := source.holds_congr hl (Tree.element?_congr (h.kept m hlt))
  have hd : m ≠ document := by
    rintro rfl
    exact h.sound.document_not_mem_select source hi
  have hsteady := Selector.allSteady_of_allLocal source.alternatives hl
  rw [ht.within_eq_descendants] at hm
  rw [t'.select_of_allSteady hsteady, List.mem_filter, hsame] at hi
  rw [t.select_of_allSteady hsteady] at hno
  exact hno (List.mem_filter.mpr ⟨(List.mem_cons.mp hm).resolve_left hd, hi.2⟩)

end TagRename.Stage

/-- A second run finds nothing but what the first one has made, and makes it again. -/
structure TagRename.Settled (s : TagSettings) (source : Selector) (t t' : Tree) : Prop where
  /-- What is found again is in the place of an element that was found before. -/
  found : ∀ i ∈ t'.select source, ∃ m ∈ t.select source,
    i = successor t.size (t.select source) m
  /-- The attached tree is the same, apart from the numbers of its nodes. -/
  shape : (renameTags s t').tree.shape = t'.shape
  html : (renameTags s t').tree.toHtml = t'.toHtml
  /-- A type is gone from the page if the new name is another one, and then the second run leaves
  the tree as it is, with its index and its numbers. -/
  typed : ∀ name, source.alternatives = [.compound [.type name]] →
    Text.sameText name s.target = false →
    (∀ i e, t'.isAttached (some i) = true → t'.element? (some i) = some e →
      e.name.name ≠ Text.lowered name) ∧ renameTags s t' = ⟨.ok 0, t'⟩

namespace Sound

variable {t : Tree}

theorem shape_renameTags_again (h : Sound t) (s : TagSettings) {source : Selector}
    (hs : Selector.parse s.source = .ok source)
    (hl : Selector.allLocal source.alternatives = true) :
    (renameTags s (renameTags s t).tree).tree.shape = (renameTags s t).tree.shape := by
  have hst := h.stage_renameTags s hs
  rw [hst.sound.shape_renameTags s hs, Tree.shape, hst.page h (h.document_not_mem_select source),
    Branch.map_map, Branch.map_map]
  apply h.map_page h (fun _ _ => rfl)
  intro i hi
  have hlt := h.lt_size_of_mem_within h.zero_lt_size hi
  simp only [Function.comp_apply, TagRename.relabel]
  by_cases hm : i ∈ t.select source
  · -- The new element may be found, but it has the new name already.
    simp only [if_pos hm, Option.map_map]
    split
    · congr 1
      funext c
      exact c.renamed_renamed s.target
    · rfl
  · have hnot : i ∉ (renameTags s t).tree.select source := by
      intro hi'
      obtain ⟨m, hm', rfl⟩ := hst.exists_of_mem_select h hl hi'
      exact Nat.not_lt.mpr (TagRename.le_successor hm') hlt
    rw [TagRename.successor_of_not_mem hm, if_neg hm, if_neg hnot]

/-- A type is not found again under another name. -/
theorem select_type_again (h : Sound t) (s : TagSettings) {source : Selector}
    (hs : Selector.parse s.source = .ok source) {name : String}
    (ha : source.alternatives = [.compound [.type name]])
    (hne : Text.sameText name s.target = false) :
    (renameTags s t).tree.select source = [] := by
  have hst := h.stage_renameTags s hs
  have hl : Selector.allLocal source.alternatives = true := by
    rw [ha]
    rfl
  apply List.eq_nil_iff_forall_not_mem.mpr
  intro i hi
  obtain ⟨m, hm, rfl⟩ := hst.exists_of_mem_select h hl hi
  obtain ⟨-, e, he⟩ := h.mem_select hm
  obtain ⟨text, alternatives⟩ := source
  obtain rfl : alternatives = [.compound [.type name]] := ha
  obtain ⟨-, e', he', hname⟩ := (hst.sound.mem_select_type text name).mp hi
  rw [hst.element? hm he] at he'
  obtain rfl := Option.some.inj he'
  exact Text.ne_lowered_of_not_sameText hne hname

end Sound

/-- To rename tags once more changes nothing, if the selector asks elements for their names and
attributes only. -/
theorem Built.settled_renameTags {t : Tree} (h : Built t) (s : TagSettings) {source : Selector}
    (hs : Selector.parse s.source = .ok source)
    (hl : Selector.allLocal source.alternatives = true) :
    TagRename.Settled s source t (renameTags s t).tree := by
  have ht := h.sound
  have hst := ht.stage_renameTags s hs
  have hshape := ht.shape_renameTags_again s hs hl
  refine ⟨fun i hi => hst.exists_of_mem_select ht hl hi, hshape, ?html, ?typed⟩
  case html =>
    rw [(hst.sound.sound_renameTags s).toHtml_eq, hst.sound.toHtml_eq, hshape]
  case typed =>
    intro name ha hne
    have hnone := ht.select_type_again s hs ha hne
    constructor
    · intro i e hat he hname
      have hm : i ∈ (renameTags s t).tree.select source := by
        obtain ⟨text, alternatives⟩ := source
        obtain rfl : alternatives = [.compound [.type name]] := ha
        exact (hst.sound.mem_select_type text name).mpr
          ⟨hst.sound.isAttached_iff.mp hat, e, he, hname⟩
      rw [hnone] at hm
      exact List.not_mem_nil hm
    · rw [renameTags_of_parse hs, hnone]
      rfl

/-- Tags in one another, of which only the outer one has a class that is looked for. -/
def classedTags : List Edit :=
  [.createElement (.html "p") [], .append 0 1, .createElement (.html "tt") [.plain "class" "cmd"],
    .append 1 2, .createElement (.html "tt") [.plain "id" "x"], .append 2 3,
    .createElement (.html "tt") [.plain "lang" "en"], .append 3 4]

/-- The tag with the class is found again and made again. The type is not found again. -/
theorem settled_classedTags :
    (renameTags {} (classedTags.foldl Edit.run .empty)).result = .ok 3 ∧
      renameTags {} (renameTags {} (classedTags.foldl Edit.run .empty)).tree =
        ⟨.ok 0, (renameTags {} (classedTags.foldl Edit.run .empty)).tree⟩ ∧
    ∃ source, Selector.parse ".cmd, tt:not([lang], #y)" = .ok source ∧
      Selector.allLocal source.alternatives = true ∧ LegalRun .empty classedTags ∧
      (classedTags.foldl Edit.run .empty).select source = [2, 3] ∧
      (renameTags ⟨".cmd, tt:not([lang], #y)", "kbd"⟩
        (classedTags.foldl Edit.run .empty)).tree.select source = [5] ∧
      TagRename.Settled ⟨".cmd, tt:not([lang], #y)", "kbd"⟩ source
        (classedTags.foldl Edit.run .empty)
        (renameTags ⟨".cmd, tt:not([lang], #y)", "kbd"⟩
          (classedTags.foldl Edit.run .empty)).tree := by
  have hl : LegalRun .empty classedTags := by decide +kernel
  have htype := ((Built.empty.run hl).settled_renameTags {} Selector.parse_tt rfl).typed "tt" rfl
    (by decide)
  refine ⟨by decide +kernel, htype.2, ?_⟩
  have hboth : (Selector.parse ".cmd, tt:not([lang], #y)").toOption.map (fun source =>
      (Selector.allLocal source.alternatives, (classedTags.foldl Edit.run .empty).select source,
        (renameTags ⟨".cmd, tt:not([lang], #y)", "kbd"⟩
          (classedTags.foldl Edit.run .empty)).tree.select source)) =
      some (true, [2, 3], [5]) := by decide +kernel
  cases hp : Selector.parse ".cmd, tt:not([lang], #y)" with
  | error failure => simp [hp, Except.toOption] at hboth
  | ok source =>
    simp only [hp, Except.toOption, Option.map_some, Option.some.injEq, Prod.mk.injEq] at hboth
    obtain ⟨hlocal, hfound, hagain⟩ := hboth
    exact ⟨source, rfl, hlocal, hl, hfound, hagain,
      (Built.empty.run hl).settled_renameTags ⟨".cmd, tt:not([lang], #y)", "kbd"⟩ hp hlocal⟩

end CoursePage
