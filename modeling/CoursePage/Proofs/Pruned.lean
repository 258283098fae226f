import CoursePage.Pass.Navbar
import CoursePage.Proofs.Aside
import CoursePage.Proofs.DocumentOrder
import CoursePage.Proofs.Printed

/-!
Pages that lose branches. Nodes are taken out one after the other, side by side or one within
another, and what is left is the page without the branches at these nodes. A page without exercises
loses its navigation lists in this way and nothing else.
-/

namespace CoursePage

open CoursePage.Tree (document)

/-- Elements that give nothing may be left out before. -/
theorem flatMap_filter {α β : Type} {l : List α} {p : α → Bool} {f g : α → List β}
    (hp : ∀ a ∈ l, p a = true → f a = g a) (hn : ∀ a ∈ l, p a = false → g a = []) :
    (l.filter p).flatMap f = l.flatMap g := by
  induction l with
  | nil => rfl
  | cons a l ih =>
    have ih := ih (fun b hb => hp b (List.mem_cons_of_mem a hb))
      fun b hb => hn b (List.mem_cons_of_mem a hb)
    cases ha : p a with
    | true =>
      rw [List.filter_cons_of_pos ha, List.flatMap_cons, List.flatMap_cons, ih,
        hp a List.mem_cons_self ha]
    | false =>
      rw [List.filter_cons_of_neg (by simp [ha]), List.flatMap_cons, ih,
        hn a List.mem_cons_self ha, List.nil_append]

namespace Branch

variable {α : Type}

/-- The branch without those below its node that a test cuts off. -/
def prune (cut : α → Bool) : Branch α → Branch α
  | node a bs => node a (all bs)
where
  all : List (Branch α) → List (Branch α)
    | [] => []
    | b :: bs => if cut b.here then all bs else b.prune cut :: all bs

theorem prune.all_eq (cut : α → Bool) (bs : List (Branch α)) :
    prune.all cut bs = (bs.filter fun b => !cut b.here).map (prune cut) := by
  induction bs with
  | nil => rfl
  | cons b bs ih => cases hc : cut b.here <;> simp [prune.all, hc, ih]

@[simp] theorem prune_node (cut : α → Bool) (a : α) (bs : List (Branch α)) :
    (node a bs).prune cut = node a ((bs.filter fun b => !cut b.here).map (prune cut)) := by
  rw [prune, prune.all_eq]

end Branch

/-- What is left of a page, apart from the numbers of its nodes, without the branches at some of
them. -/
def Tree.shapeWithout (t : Tree) (cut : List NodeId) : Branch (Option Content) :=
  (t.page.prune fun n => cut.contains n.1).map Prod.snd

/-- Taking nodes out one after the other takes them out of all lists. -/
theorem Forest.removeNavs {t : Tree} {kids : NodeId → List NodeId} (h : Forest t kids)
    (navs : List NodeId) : Forest (Navbar.removeNavs navs t)
      (fun p => (kids p).filter fun c => !navs.contains c) := by
  induction navs generalizing t kids with
  | nil => exact h.of_eq fun p => List.filter_eq_self.mpr fun _ _ => rfl
  | cons nav navs ih =>
    refine (ih (h.detach nav)).of_eq fun p => ?_
    rw [(h.nodup p).erase_eq_filter, List.filter_filter]
    refine List.filter_congr fun c _ => ?_
    rw [List.contains_cons, Bool.not_or, Bool.and_comm]
    rfl

namespace Sound

variable {t t' : Tree} {i : NodeId} {keep : NodeId → Bool}

/-- Where some nodes are left out of all lists of children, a branch lists the nodes that it has
listed before, but for those that are left out and those below them. -/
theorem within_filter (h : Sound t) (h' : Sound t')
    (hk : ∀ i, keep i = true → t'.children (some i) = (t.children (some i)).filter keep)
    (hi : ∀ n ∈ i :: t.ancestors (some i), keep n = true) :
    t'.within i = (t.within i).filter fun x => (x :: t.ancestors (some x)).all keep := by
  induction i using h.descend with
  | step i ih =>
    have hki := hk i (hi i List.mem_cons_self)
    have hpos : (i :: t.ancestors (some i)).all keep = true := List.all_eq_true.mpr hi
    rw [h'.within_eq, h.within_eq, hki, List.filter_cons_of_pos (p := fun x =>
      (x :: t.ancestors (some x)).all keep) hpos, List.filter_flatMap]
    refine congrArg (List.cons i) (flatMap_filter (fun c hc hkc => ?_) fun c hc hkc => ?_)
    · refine ih c hc fun n hn => ?_
      rcases List.mem_cons.mp hn with rfl | hn
      · exact hkc
      · exact hi n (h.ancestors_of_mem hc ▸ hn)
    · -- All nodes below a child that is left out have it on their way up.
      refine List.filter_eq_nil_iff.mpr fun x hx hall => ?_
      have hkc' := List.all_eq_true.mp hall c (h.mem_within_iff.mp hx)
      rw [hkc] at hkc'
      cases hkc'

theorem descendants_filter (h : Sound t) (h' : Sound t')
    (hk : ∀ i, keep i = true → t'.children (some i) = (t.children (some i)).filter keep)
    (hd : keep document = true) : t'.descendants (some document) =
      (t.descendants (some document)).filter fun x => (x :: t.ancestors (some x)).all keep := by
  have htop : ∀ n ∈ document :: t.ancestors (some document), keep n = true := by
    rw [h.ancestors_of_loose h.rooted]
    simpa using hd
  have hw := h.within_filter h' hk htop
  rw [h'.within_eq_descendants, h.within_eq_descendants, List.filter_cons_of_pos (p := fun x =>
    (x :: t.ancestors (some x)).all keep) (List.all_eq_true.mpr htop)] at hw
  exact (List.cons.inj hw).2

section

variable (h : Sound t) (navs : List NodeId)

include h

theorem removeNavs : Sound (Navbar.removeNavs navs t) :=
  List.foldlRecOn (motive := Sound) navs _ h fun _ ht nav _ => ht.detach nav

theorem children_removeNavs (i : NodeId) : (Navbar.removeNavs navs t).children (some i) =
    (t.children (some i)).filter fun c => !navs.contains c :=
  (h.forest.removeNavs navs).children_eq i

end

end Sound

namespace Navbar

variable {t : Tree} {navs : List NodeId}

theorem content?_removeNavs (navs : List NodeId) (t : Tree) (k : Link) :
    (removeNavs navs t).content? k = t.content? k :=
  List.foldlRecOn (motive := fun t' : Tree => t'.content? k = t.content? k) navs _ rfl
    fun t' ht _ _ => (t'.content?_detach _ _).trans ht

theorem size_removeNavs (navs : List NodeId) (t : Tree) : (removeNavs navs t).size = t.size :=
  List.foldlRecOn (motive := fun t' : Tree => t'.size = t.size) navs _ rfl
    fun t' ht _ _ => (t'.size_detach _).trans ht

theorem ids_removeNavs (navs : List NodeId) (t : Tree) : (removeNavs navs t).ids = t.ids :=
  List.foldlRecOn (motive := fun t' : Tree => t'.ids = t.ids) navs _ rfl
    fun t' ht _ _ => (t'.ids_detach _).trans ht

/-- Every branch that is left is the one that was there without the branches taken out. -/
theorem branch_removeNavs (h : Sound t) (navs : List NodeId) (i : NodeId) :
    (removeNavs navs t).branch i = (t.branch i).prune fun n => navs.contains n.1 := by
  induction i using h.descend with
  | step i ih =>
    have hhere : ∀ c, (t.branch c).here = (c, t.content? (some c)) := fun c => by
      rw [h.branch_eq, Branch.here_node]
    rw [(h.removeNavs navs).branch_eq, h.branch_eq, Branch.prune_node, List.filter_map,
      List.map_map, content?_removeNavs, h.children_removeNavs]
    refine congrArg _ ?_
    rw [List.filter_congr fun c _ => congrArg (fun n => !navs.contains n.1) (hhere c).symm]
    exact List.map_congr_left fun c hc => ih c (List.mem_filter.mp hc).1

theorem shape_removeNavs (h : Sound t) (navs : List NodeId) :
    (removeNavs navs t).shape = t.shapeWithout navs := by
  rw [Tree.shape, Tree.page, branch_removeNavs h]
  rfl

theorem toHtml_removeNavs (h : Sound t) (navs : List NodeId) :
    (removeNavs navs t).toHtml = Markup.render (t.shapeWithout navs).events := by
  rw [(h.removeNavs navs).toHtml_eq, shape_removeNavs h]

/-- A node has a navigation list above it, or it is one. -/
def inNav (t : Tree) (navs : List NodeId) (i : NodeId) : Bool :=
  navs.any fun nav => (nav :: t.descendants (some nav)).contains i

theorem inNav_eq (h : Sound t) (navs : List NodeId) (i : NodeId) :
    inNav t navs i = !(i :: t.ancestors (some i)).all fun n => !navs.contains n := by
  have hm : ∀ nav, i ∈ nav :: t.descendants (some nav) ↔ nav ∈ i :: t.ancestors (some i) :=
    fun nav => h.within_eq_descendants nav ▸ h.mem_within_iff
  rw [Bool.eq_iff_iff, inNav, List.any_eq_true, List.not_all_eq_any_not, List.any_eq_true]
  simp only [List.contains_iff_mem, hm, Bool.not_not, and_comm]

/-- The navigation lists are gone with all that is below them, and nothing else has changed. -/
structure NavsRemoved (navs : List NodeId) (t : Tree) (o : Outcome NavbarReport) : Prop where
  report : o.result = .ok
    { sections := 0, entries := 0, removedNavs := navs.length, idConflicts := 0 }
  size : o.tree.size = t.size
  content : ∀ k, o.tree.content? k = t.content? k
  ids : o.tree.ids = t.ids
  /-- What is left below the document stands in the same order as before. -/
  listing : o.tree.descendants (some document) =
    (t.descendants (some document)).filter fun i => !inNav t navs i
  detached : ∀ i, inNav t navs i = true → o.tree.isAttached (some i) = false
  /-- The markup is written from what is left of the page. -/
  html : o.tree.toHtml = Markup.render (t.shapeWithout navs).events
  /-- What is done later to nodes that are not attached does not show. -/
  later : ∀ es, AsideRun o.tree es → (es.foldl Edit.run o.tree).toHtml = o.tree.toHtml

theorem navsRemoved (h : Sound t) (hd : document ∉ navs) :
    NavsRemoved navs t ⟨.ok { removedNavs := navs.length }, removeNavs navs t⟩ := by
  have h' := h.removeNavs navs
  have hlisting : (removeNavs navs t).descendants (some document) =
      (t.descendants (some document)).filter fun i => !inNav t navs i := by
    rw [h.descendants_filter h' (fun i _ => h.children_removeNavs navs i) (by simpa using hd)]
    refine List.filter_congr fun i _ => ?_
    rw [inNav_eq h, Bool.not_not]
  refine ⟨rfl, size_removeNavs navs t, content?_removeNavs navs t, ids_removeNavs navs t, hlisting,
    fun i hi => ?detached, toHtml_removeNavs h navs, fun es he => ?later⟩
  case detached =>
    rw [Bool.eq_false_iff, ne_eq, h'.isAttached_iff_mem_descendants, hlisting, List.mem_filter]
    rintro (rfl | ⟨-, hn⟩)
    · -- The document has nothing above it.
      rw [inNav_eq h, h.ancestors_of_loose h.rooted] at hi
      simp [hd] at hi
    · simp [hi] at hn
  case later =>
    obtain ⟨hs, hp⟩ := h'.page_asideRun he
    rw [hs.toHtml_eq, h'.toHtml_eq, Tree.shape, Tree.shape, hp]

end Navbar

/-- A page without exercises loses its navigation lists and nothing else, and its markup is that of
every page that differs in these lists only. -/
theorem Built.navsRemoved_buildNavbar {t : Tree} (h : Built t) (s : NavbarSettings)
    {nav exercise : Selector} (hn : Selector.parse s.navSelector = .ok nav)
    (he : Selector.parse s.exerciseSelector = .ok exercise) (hk : t.select exercise = []) :
    Navbar.NavsRemoved (t.select nav) t (buildNavbar s t) ∧
      ∀ t', Built t' → t'.select exercise = [] →
        t'.shapeWithout (t'.select nav) = t.shapeWithout (t.select nav) →
          (buildNavbar s t').tree.toHtml = (buildNavbar s t).tree.toHtml := by
  have hrun : ∀ t' : Tree, t'.select exercise = [] → buildNavbar s t' =
      ⟨.ok { removedNavs := (t'.select nav).length }, Navbar.removeNavs (t'.select nav) t'⟩ := by
    intro t' hk'
    simp [buildNavbar_of_parse hn he, Navbar.arrange, hk']
  refine ⟨hrun t hk ▸ Navbar.navsRemoved h.sound (h.sound.document_not_mem_select nav),
    fun t' ht' hk' hs => ?_⟩
  rw [hrun t hk, hrun t' hk', Navbar.toHtml_removeNavs h.sound, Navbar.toHtml_removeNavs ht'.sound,
    hs]

/-- A page with three navigation lists: one in another one, and one right behind that. -/
def nestedNavs : List Edit :=
  [.createElement (.html "p") [], .append 0 1, .createElement (.html "ul") [.plain "class" "nav"],
    .append 0 2, .createElement (.html "ul") [.plain "class" "nav"], .append 2 3,
    .createText "x", .append 3 4, .createElement (.html "ul") [.plain "class" "nav"], .append 0 5,
    .createText "y", .append 0 6]

theorem navsRemoved_nestedNavs :
    ∃ nav exercise, Selector.parse ".nav" = .ok nav ∧ Selector.parse ".exercise" = .ok exercise ∧
      LegalRun .empty nestedNavs ∧
      (nestedNavs.foldl Edit.run .empty).select nav = [2, 3, 5] ∧
      (nestedNavs.foldl Edit.run .empty).select exercise = [] ∧
      (buildNavbar {} (nestedNavs.foldl Edit.run .empty)).tree.descendants (some 0) = [1, 6] ∧
      Navbar.NavsRemoved [2, 3, 5] (nestedNavs.foldl Edit.run .empty)
        (buildNavbar {} (nestedNavs.foldl Edit.run .empty)) := by
  have hl : LegalRun .empty nestedNavs := by decide +kernel
  have hfn : (Selector.parse ".nav").toOption.map (nestedNavs.foldl Edit.run .empty).select =
      some [2, 3, 5] := by decide +kernel
  have hfe : (Selector.parse ".exercise").toOption.map
      (nestedNavs.foldl Edit.run .empty).select = some [] := by decide +kernel
  obtain ⟨nav, hn, hsn⟩ := Selector.parse_of_select hfn
  obtain ⟨exercise, he, hse⟩ := Selector.parse_of_select hfe
  obtain ⟨ht, -⟩ := (Built.empty.run hl).navsRemoved_buildNavbar {} hn he hse
  rw [hsn] at ht
  exact ⟨nav, exercise, hn, he, hl, hsn, hse, by decide +kernel, ht⟩

end CoursePage
