import CoursePage.Proofs.Entry
import CoursePage.Proofs.Place

/-!
Two trees that go side by side. Nodes of one tree correspond to nodes of the other one, which hold
the same up to the names of elements and have corresponding children. New nodes of both trees
correspond to each other, so that the same work on both trees keeps them side by side.
-/

namespace CoursePage

open CoursePage.Tree (document)
open Relator (BiUnique)

/-- The same element under the name that goes with its old one. -/
def Element.mapName (g : QualName → QualName) (e : Element) : Element := { e with name := g e.name }

def Content.mapName (g : QualName → QualName) : Content → Content
  | .element e => .element (e.mapName g)
  | c => c

theorem Content.element?_mapName (g : QualName → QualName) (c : Content) :
    (c.mapName g).element? = c.element?.map (Element.mapName g) := by
  cases c <;> rfl

/-- Corresponding nodes of the trees look the same up to the names of elements. -/
structure Mirrored (R : NodeId → NodeId → Prop) (g : QualName → QualName) (t t' : Tree) : Prop where
  sound : Sound t
  sound' : Sound t'
  unique : BiUnique R
  top : R document document
  /-- Nodes that are made next correspond. -/
  fresh : ∀ k, R (t.size + k) (t'.size + k)
  children : ∀ i j, R i j → List.Forall₂ R (t.children (some i)) (t'.children (some j))
  content : ∀ i j, R i j → t'.content? (some j) = (t.content? (some i)).map (Content.mapName g)

variable {R : NodeId → NodeId → Prop}

theorem eq_iff_of_biUnique (hu : BiUnique R) {i j a b : NodeId} (hij : R i j) (hab : R a b) :
    j = b ↔ i = a := by
  constructor
  · rintro rfl
    exact hu.1 hij hab
  · rintro rfl
    exact hu.2 hij hab

theorem forall₂_erase (hu : BiUnique R) {l l' : List NodeId} (h : List.Forall₂ R l l')
    {i j : NodeId} (hij : R i j) : List.Forall₂ R (l.erase i) (l'.erase j) := by
  induction h with
  | nil => exact .nil
  | cons hab rest ih =>
    rw [List.erase_cons, List.erase_cons]
    simp only [beq_iff_eq, eq_iff_of_biUnique hu hab hij]
    split
    · exact rest
    · exact .cons hab ih

namespace Mirrored

variable {g : QualName → QualName} {t t' : Tree} {i j : NodeId}

section Reading

theorem eq_iff (h : Mirrored R g t t') {a b : NodeId} (hij : R i j) (hab : R a b) :
    j = b ↔ i = a :=
  eq_iff_of_biUnique h.unique hij hab

theorem element? (h : Mirrored R g t t') (hij : R i j) :
    t'.element? (some j) = (t.element? (some i)).map (Element.mapName g) := by
  rw [Tree.element?_eq, Tree.element?_eq, h.content i j hij]
  cases t.content? (some i) with
  | none => rfl
  | some c => exact c.element?_mapName g

theorem isElement (h : Mirrored R g t t') (hij : R i j) :
    t'.isElement (some j) = t.isElement (some i) := by
  rw [Tree.isElement, Tree.isElement, h.element? hij, Option.isSome_map]

theorem classes (h : Mirrored R g t t') (hij : R i j) :
    t'.classes (some j) = t.classes (some i) := by
  rw [Tree.classes, Tree.classes, h.element? hij, Option.map_map]
  rfl

theorem hasClass (h : Mirrored R g t t') (hij : R i j) (token : String) :
    t'.hasClass (some j) token = t.hasClass (some i) token := by
  rw [Tree.hasClass, Tree.hasClass, h.classes hij]

theorem lt_size (h : Mirrored R g t t') (hij : R i j) (hi : i < t.size) : j < t'.size := by
  obtain ⟨n, hn⟩ := Tree.exists_get?_iff.mpr hi
  have hc : t.content? (some i) = some n.content := by simp [Tree.content?, hn]
  exact Tree.lt_size_of_content? ((h.content i j hij).trans (congrArg _ hc))

/-- The attached trees are the same up to the names of elements. -/
theorem shape (h : Mirrored R g t t') :
    t'.shape = t.shape.map (Option.map (Content.mapName g)) := by
  rw [Tree.shape, Tree.shape, Branch.map_map]
  exact h.sound.map_branch h.sound' h.children h.content h.top

end Reading

section Content

theorem setAttr (h : Mirrored R g t t') (hij : R i j) (name value : String) :
    Mirrored R g (t.setAttr (some i) name value) (t'.setAttr (some j) name value) := by
  have he' := h.element? hij
  cases he : t.element? (some i) with
  | none =>
    rw [he] at he'
    rwa [Tree.setAttr_of_not_element he, Tree.setAttr_of_not_element he']
  | some e =>
    rw [he] at he'
    refine ⟨h.sound.setAttr i name value, h.sound'.setAttr j name value, h.unique, h.top,
      fun k => ?_, fun a b hab => ?_, fun a b hab => ?_⟩
    · simpa using h.fresh k
    · rw [(h.sound.forest.setAttr _ _ _).children_eq, (h.sound'.forest.setAttr _ _ _).children_eq]
      exact h.children a b hab
    · rw [Tree.content?_setAttr he, Tree.content?_setAttr he', h.content a b hab]
      simp only [Option.some.injEq, h.eq_iff hab hij]
      split <;> rfl

theorem addClass (h : Mirrored R g t t') (hij : R i j) (token : String) :
    Mirrored R g (t.addClass (some i) token) (t'.addClass (some j) token) := by
  unfold Tree.addClass
  rw [h.isElement hij, h.hasClass hij, h.classes hij]
  split
  · exact h
  · exact h.setAttr hij _ _

theorem addClasses (h : Mirrored R g t t') (hij : R i j) (tokens : List String) :
    Mirrored R g (tokens.foldl (fun t c => t.addClass (some i) c) t)
      (tokens.foldl (fun t c => t.addClass (some j) c) t') := by
  induction tokens generalizing t t' with
  | nil => exact h
  | cons token tokens ih => exact ih (h.addClass hij token)

theorem removeClass (h : Mirrored R g t t') (hij : R i j) (token : String) :
    Mirrored R g (t.removeClass (some i) token) (t'.removeClass (some j) token) := by
  unfold Tree.removeClass
  rw [h.hasClass hij, h.classes hij]
  split
  · exact h.setAttr hij _ _
  · exact h

end Content

section Links

theorem detach (h : Mirrored R g t t') (hij : R i j) :
    Mirrored R g (t.detach (some i)) (t'.detach (some j)) := by
  refine ⟨h.sound.detach i, h.sound'.detach j, h.unique, h.top, fun k => ?_, fun a b hab => ?_,
    fun a b hab => ?_⟩
  · simpa using h.fresh k
  · rw [(h.sound.forest.detach i).children_eq, (h.sound'.forest.detach j).children_eq]
    exact forall₂_erase h.unique (h.children a b hab) hij
  · rw [Tree.content?_detach, Tree.content?_detach]
    exact h.content a b hab

theorem removeNavs (h : Mirrored R g t t') {navs navs' : List NodeId}
    (hn : List.Forall₂ R navs navs') :
    Mirrored R g (Navbar.removeNavs navs t) (Navbar.removeNavs navs' t') := by
  unfold Navbar.removeNavs
  induction hn generalizing t t' with
  | nil => exact h
  | cons hij _ ih => exact ih (h.detach hij)

/-- Entries have elements whose names are kept. -/
theorem appendEntry (h : Mirrored R g t t') (hg : ∀ name ∈ ["li", "a"], g (.html name) = .html name)
    (hij : R i j) (hi : i < t.size) (id label : String) :
    Mirrored R g (Navbar.appendEntry id label t i) (Navbar.appendEntry id label t' j) := by
  obtain ⟨hs, -, hc⟩ := Navbar.links_appendEntry h.sound hi id label
  obtain ⟨hs', -, hc'⟩ := Navbar.links_appendEntry h.sound' (h.lt_size hij hi) id label
  have h0 : R t.size t'.size := h.fresh 0
  have h1 := h.fresh 1
  have h2 := h.fresh 2
  refine ⟨hs, hs', h.unique, h.top, fun k => ?fresh, fun a b hab => ?children,
    fun a b hab => ?content⟩
  case fresh =>
    rw [Navbar.size_appendEntry, Navbar.size_appendEntry, Nat.add_assoc, Nat.add_assoc]
    exact h.fresh (3 + k)
  case children =>
    -- Corresponding nodes are both the list, both one of the new nodes or both something else.
    rw [hc, hc']
    simp only [h.eq_iff hab hij, h.eq_iff hab h0, h.eq_iff hab h1]
    split
    · exact List.rel_append (h.children i j hij) (.cons h0 .nil)
    · split
      · exact .cons h1 .nil
      · split
        · exact .cons h2 .nil
        · exact h.children a b hab
  case content =>
    have hli : (Content.element (.ofAttrs (.html "li") Navbar.itemAttrs)).mapName g =
        .element (.ofAttrs (.html "li") Navbar.itemAttrs) := by
      simp [Content.mapName, Element.mapName, Element.ofAttrs, hg]
    have ha : (Content.element (.ofAttrs (.html "a") (Navbar.linkAttrs id))).mapName g =
        .element (.ofAttrs (.html "a") (Navbar.linkAttrs id)) := by
      simp [Content.mapName, Element.mapName, Element.ofAttrs, hg]
    rw [Navbar.content?_appendEntry, Navbar.content?_appendEntry]
    simp only [Option.some.injEq, h.eq_iff hab h0, h.eq_iff hab h1, h.eq_iff hab h2]
    split
    · rfl
    · split
      · rw [Option.map_some, ha]
      · split
        · rw [Option.map_some, hli]
        · exact h.content a b hab

theorem appendEntries (h : Mirrored R g t t')
    (hg : ∀ name ∈ ["li", "a"], g (.html name) = .html name) {navs navs' : List NodeId}
    (hn : List.Forall₂ R navs navs') (hlt : ∀ nav ∈ navs, nav < t.size) (id label : String) :
    Mirrored R g (navs.foldl (Navbar.appendEntry id label) t)
      (navs'.foldl (Navbar.appendEntry id label) t') := by
  induction hn generalizing t t' with
  | nil => exact h
  | cons hij _ ih =>
    rw [List.foldl_cons, List.foldl_cons]
    have hnext := h.appendEntry hg hij (hlt _ List.mem_cons_self) id label
    refine ih hnext fun nav hm => ?_
    rw [Navbar.size_appendEntry]
    exact Nat.lt_add_right 3 (hlt nav (List.mem_cons_of_mem _ hm))

end Links

end Mirrored

/-- Nodes at the same place correspond, and so do nodes that are made next. -/
def Counterpart (t t' : Tree) (i j : NodeId) : Prop :=
  SamePlace t t' i j ∨ ∃ k, i = t.size + k ∧ j = t'.size + k

theorem Counterpart.biUnique {t t' : Tree} (h : Sound t) (h' : Sound t') :
    BiUnique (Counterpart t t') := by
  have hu := SamePlace.biUnique h h'
  -- Nodes that have a place are older than those that are made next.
  constructor
  · rintro i j k (hi | ⟨m, rfl, rfl⟩) (hj | ⟨n, rfl, hn⟩)
    · exact hu.1 hi hj
    · exact absurd (hn ▸ (hi.lt_size h h').2) (Nat.not_lt.mpr (Nat.le_add_right _ n))
    · exact absurd (hj.lt_size h h').2 (Nat.not_lt.mpr (Nat.le_add_right _ m))
    · rw [Nat.add_left_cancel hn]
  · rintro i j k (hi | ⟨m, rfl, rfl⟩) (hj | ⟨n, hn, rfl⟩)
    · exact hu.2 hi hj
    · exact absurd (hn ▸ (hi.lt_size h h').1) (Nat.not_lt.mpr (Nat.le_add_right _ n))
    · exact absurd (hj.lt_size h h').1 (Nat.not_lt.mpr (Nat.le_add_right _ m))
    · rw [Nat.add_left_cancel hn]

/-- Trees whose attached nodes look the same up to the names of elements go side by side. -/
theorem Mirrored.of_shape {g : QualName → QualName} {t t' : Tree} (h : Sound t) (h' : Sound t')
    (hs : t'.shape = t.shape.map (Option.map (Content.mapName g))) :
    Mirrored (Counterpart t t') g t t' where
  sound := h
  sound' := h'
  unique := Counterpart.biUnique h h'
  top := Or.inl .top
  fresh k := Or.inr ⟨k, rfl, rfl⟩
  children i j hij := by
    rcases hij with hij | ⟨k, rfl, rfl⟩
    · exact (hij.children h h' hs).imp fun _ _ hab => Or.inl hab
    · rw [h.children_eq_nil_of_size_le (Nat.le_add_right _ k),
        h'.children_eq_nil_of_size_le (Nat.le_add_right _ k)]
      exact .nil
  content i j hij := by
    rcases hij with hij | ⟨k, rfl, rfl⟩
    · exact hij.content h h' hs
    · have hnew : ∀ t : Tree, t.content? (some (t.size + k)) = none := fun t =>
        Option.eq_none_iff_forall_ne_some.mpr fun c hc =>
          Nat.not_lt.mpr (Nat.le_add_right _ k) (Tree.lt_size_of_content? hc)
      rw [hnew, hnew]
      rfl

end CoursePage
