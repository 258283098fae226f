import CoursePage.Proofs.Aside
import CoursePage.Proofs.Matching
import CoursePage.Proofs.Printed
import CoursePage.Proofs.Ready
import CoursePage.Proofs.SideBySide

/-!
Pages that look alike are worked on alike. Neither the numbers of nodes nor the index nor nodes that
are not attached have a part in the markup, in what selectors find or in what the passes do.
-/

namespace CoursePage

open CoursePage.Tree (document)

/-- The content without what an element keeps beside its attributes. -/
def Content.bare : Content → Content
  | .element e => .element { e with id := none, classes := [] }
  | c => c

/-- The content with what an element keeps beside its attributes read from them again. -/
def Content.reread : Content → Content
  | .element e => .element (.ofAttrs e.name e.attrs)
  | c => c

theorem Content.Synced.reread_bare {c : Content} (h : c.Synced) : c.bare.reread = c := by
  cases c with
  | element e => exact congrArg Content.element (h e rfl).symm
  | _ => rfl

theorem Content.mapName_id (c : Content) : c.mapName id = c := by
  cases c <;> rfl

def Report.withoutConflicts (r : Report) : Report := { r with navbar := r.navbar.withoutConflicts }

namespace Sound

variable {t t' : Tree}

/-- What elements keep beside their attributes can be told from the rest of the shape. -/
theorem shape_reread (h : Sound t) :
    (t.shape.map (Option.map Content.bare)).map (Option.map Content.reread) = t.shape := by
  rw [Tree.shape, Branch.map_map, Branch.map_map]
  refine h.map_page h (fun _ _ => rfl) fun i _ => ?_
  cases hc : t.content? (some i) with
  | none => rfl
  | some c => exact congrArg some (h.synced i c hc).reread_bare

theorem lookalike (h : Sound t) (h' : Sound t')
    (hs : t'.shape.map (Option.map Content.bare) = t.shape.map (Option.map Content.bare)) :
    Lookalike t t' where
  sound := h
  sound' := h'
  shape := by rw [← h'.shape_reread, hs, h.shape_reread]

end Sound

namespace Lookalike

variable {t t' : Tree}

theorem mirrored (h : Lookalike t t') : Mirrored (Counterpart t t') id t t' := by
  refine .of_shape h.sound h.sound' ?_
  rw [funext Content.mapName_id]
  exact h.shape.trans (by rw [Option.map_id_fun', Branch.map_id])

theorem buildNavbar (h : Lookalike t t') (s : NavbarSettings) :
    SameCourse (Counterpart t t') id (CoursePage.buildNavbar s t) (CoursePage.buildNavbar s t') :=
  h.mirrored.buildNavbar (fun _ _ => rfl) s fun _ _ found _ =>
    (h.select found).imp fun _ _ hij => Or.inl hij

theorem of_mirrored {R : NodeId → NodeId → Prop} (h : Mirrored R id t t') : Lookalike t t' where
  sound := h.sound
  sound' := h.sound'
  shape := by rw [h.shape, funext Content.mapName_id, Option.map_id_fun', Branch.map_id]

/-- The second pass finds elements at the same places and renames them on both pages. -/
theorem renameTags (h : Lookalike t t') (s : TagSettings) :
    (CoursePage.renameTags s t').result = (CoursePage.renameTags s t).result ∧
      (CoursePage.renameTags s t').tree.shape = (CoursePage.renameTags s t).tree.shape := by
  cases hs : Selector.parse s.source with
  | error failure =>
    simp only [CoursePage.renameTags, hs, Outcome.check]
    exact ⟨rfl, h.shape⟩
  | ok source =>
    have hf := h.select source
    rw [result_renameTags hs, result_renameTags hs, hf.length_eq, h.sound.shape_renameTags s hs,
      h.sound'.shape_renameTags s hs]
    refine ⟨rfl, h.sound.map_branch h.sound' (fun _ _ => h.children) (fun i j hij => ?_) .top⟩
    have hm : i ∈ t.select source ↔ j ∈ t'.select source :=
      List.rel_mem (SamePlace.biUnique h.sound h.sound') hij hf
    simp only [h.content hij, hm]

/-- Both passes go the same way on both pages. -/
theorem onReady (h : Lookalike t t') (s : Settings) :
    (CoursePage.onReady s t').result.map Report.withoutConflicts =
        (CoursePage.onReady s t).result.map Report.withoutConflicts ∧
      (CoursePage.onReady s t').tree.shape = (CoursePage.onReady s t).tree.shape := by
  unfold CoursePage.onReady
  cases hv : s.validate with
  | error failure => exact ⟨rfl, h.shape⟩
  | ok _ =>
    have hb := h.buildNavbar s.navbar
    have ht := of_mirrored hb.trees
    obtain ⟨hcount, hshape⟩ := ht.renameTags s.tags
    simp only [Outcome.check, Outcome.andThen]
    rcases hb.either with ⟨failure, h1, h2⟩ | ⟨report, report', h1, h2, hr⟩
    · simp only [h1, h2]
      exact ⟨rfl, ht.shape⟩
    · cases hc : (CoursePage.renameTags s.tags (CoursePage.buildNavbar s.navbar t).tree).result with
      | error failure =>
        simp only [h1, h2, hcount, hc, Outcome.refuse]
        exact ⟨trivial, hshape⟩
      | ok count =>
        simp only [h1, h2, hcount, hc, Except.map, Report.withoutConflicts, hr]
        exact ⟨trivial, hshape⟩

/-- On pages that are the same, the same place is the same node. -/
theorem select_of_page (h : Lookalike t t') (hp : t'.page = t.page) (s : Selector) :
    t'.select s = t.select s := by
  have hi : ∀ i j, SamePlace t t' i j → i = j := by
    rintro i j ⟨place, hi, hj⟩
    have hb := h.sound'.at?_page place
    rw [hp, h.sound.at?_page, hi, hj] at hb
    have he := congrArg (fun b => b.here.1) (Option.some.inj hb)
    simpa only [h.sound.branch_eq, h.sound'.branch_eq, Branch.here_node] using he
  have hs := (h.select s).imp hi
  rw [List.forall₂_eq_eq_eq] at hs
  exact hs.symm

end Lookalike

/-- Whatever is asked of two pages, the answers are the same apart from the numbers of nodes. -/
structure Indistinct (t t' : Tree) : Prop where
  html : t'.toHtml = t.toHtml
  select : ∀ s : Selector, List.Forall₂ (SamePlace t t') (t.select s) (t'.select s)
  /-- Both fail for the same reason or report the same, but for ids that were taken. -/
  results : ∀ s : Settings, (onReady s t').result.map Report.withoutConflicts =
    (onReady s t).result.map Report.withoutConflicts
  /-- The attached nodes that are left are the same apart from their numbers. -/
  pages : ∀ s : Settings, (onReady s t').tree.shape = (onReady s t).tree.shape

/-- Trees that are built by legal edits cannot be told apart if their attached nodes hold the same
in the same order, and edits of detached nodes do not show. -/
theorem Built.indistinct {t t' : Tree} (h : Built t) (h' : Built t')
    (hs : t'.shape.map (Option.map Content.bare) = t.shape.map (Option.map Content.bare)) :
    Indistinct t t' ∧ ∀ es, AsideRun t es →
      (es.foldl Edit.run t).toHtml = t.toHtml ∧
        ∀ s : Selector, (es.foldl Edit.run t).select s = t.select s := by
  have hl := h.sound.lookalike h'.sound hs
  refine ⟨⟨?html, hl.select, fun s => (hl.onReady s).1, fun s => (hl.onReady s).2⟩, fun es hr => ?_⟩
  case html => rw [hl.sound'.toHtml_eq, hl.sound.toHtml_eq, hl.shape]
  obtain ⟨hu, hp⟩ := h.sound.page_asideRun hr
  have hsame : Lookalike t (es.foldl Edit.run t) := ⟨h.sound, hu, congrArg (Branch.map Prod.snd) hp⟩
  refine ⟨?_, hsame.select_of_page hp⟩
  rw [hu.toHtml_eq, h.sound.toHtml_eq, hsame.shape]

/-- A paragraph with a `tt` in it that is an exercise. -/
def plainTwin : List Edit :=
  [.createElement (.html "p") [.plain "class" "nav"], .append 0 1,
    .createElement (.html "tt") [.plain "class" "exercise"], .append 1 2, .createText "x",
    .append 2 3]

/-- The same page, made in another order and with nodes that were left over. -/
def crowdedTwin : List Edit :=
  [.createText "x", .createElement (.html "tt") [], .addClass 2 "exercise", .append 2 1,
    .createElement (.html "i") [.plain "id" "exercise1"], .createElement (.html "p") [],
    .setAttr 4 "class" "nav", .append 4 3, .append 4 2, .append 0 4, .detach 3]

/-- Work on the item that was left over. -/
def leftoverEdits : List Edit :=
  [.setAttr 3 "id" "exercise2", .createText "y", .append 3 5, .appendText 3 "z",
    .addClass 3 "exercise"]

theorem indistinct_twins :
    LegalRun .empty crowdedTwin ∧ LegalRun .empty plainTwin ∧
      AsideRun (crowdedTwin.foldl Edit.run .empty) leftoverEdits ∧
      Indistinct (crowdedTwin.foldl Edit.run .empty) (plainTwin.foldl Edit.run .empty) ∧
      (leftoverEdits.foldl Edit.run (crowdedTwin.foldl Edit.run .empty)).toHtml =
        (crowdedTwin.foldl Edit.run .empty).toHtml := by
  have hl : LegalRun .empty crowdedTwin := by decide +kernel
  have hl' : LegalRun .empty plainTwin := by decide +kernel
  have hs : (plainTwin.foldl Edit.run .empty).shape.map (Option.map Content.bare) =
      (crowdedTwin.foldl Edit.run .empty).shape.map (Option.map Content.bare) := rfl
  have hr : AsideRun (crowdedTwin.foldl Edit.run .empty) leftoverEdits := by decide +kernel
  obtain ⟨hi, ha⟩ := (Built.empty.run hl).indistinct (Built.empty.run hl') hs
  exact ⟨hl, hl', hr, hi, (ha _ hr).1⟩

end CoursePage
