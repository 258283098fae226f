import CoursePage.Proofs.Branch
import Mathlib.Data.List.Forall2

/-!
Places on a page. A place is the list of numbers by which children are taken from the document on;
it tells an attached node apart from all others, whatever number the node has in the store.
-/

namespace CoursePage

open CoursePage.Tree (document)
open Relator (BiUnique)

namespace Branch

variable {α β γ : Type}

theorem map_map (f : α → β) (g : β → γ) : ∀ b : Branch α, (b.map f).map g = b.map (g ∘ f)
  | node a bs => by
    rw [map_node, map_node, map_node, List.map_map]
    exact congrArg _ (List.map_congr_left fun b _ => map_map f g b)

theorem map_id : ∀ b : Branch α, b.map id = b
  | node a bs => by
    have hbs : bs.map (map id) = bs.map id := List.map_congr_left fun b _ => map_id b
    rw [map_node, hbs, List.map_id]
    rfl

theorem preorder_map (f : α → β) : ∀ b : Branch α, (b.map f).preorder = b.preorder.map f
  | node a bs => by
    rw [map_node, preorder_node, preorder_node, List.map_cons, List.flatMap_map, List.map_flatMap,
      List.flatMap_def, List.flatMap_def]
    exact congrArg (fun l => f a :: l.flatten) (List.map_congr_left fun b _ => preorder_map f b)

def here : Branch α → α
  | node a _ => a

def beneath : Branch α → List (Branch α)
  | node _ bs => bs

@[simp] theorem here_node (a : α) (bs : List (Branch α)) : (node a bs).here = a := rfl

@[simp] theorem beneath_node (a : α) (bs : List (Branch α)) : (node a bs).beneath = bs := rfl

@[simp] theorem here_map (f : α → β) (b : Branch α) : (b.map f).here = f b.here := by
  cases b
  simp

@[simp] theorem beneath_map (f : α → β) (b : Branch α) :
    (b.map f).beneath = b.beneath.map (map f) := by
  cases b
  simp

/-- The branch at a place. -/
def at? (b : Branch α) (place : List Nat) : Option (Branch α) :=
  place.foldl (fun b k => b.bind fun b => b.beneath[k]?) (some b)

theorem at?_concat (b : Branch α) (place : List Nat) (k : Nat) :
    b.at? (place ++ [k]) = (b.at? place).bind fun b => b.beneath[k]? := by
  simp [at?, List.foldl_append]

theorem at?_map (f : α → β) (b : Branch α) (place : List Nat) :
    (b.map f).at? place = (b.at? place).map (map f) := by
  induction place using List.reverseRecOn with
  | nil => rfl
  | append_singleton place k ih =>
    rw [at?_concat, at?_concat, ih]
    cases b.at? place <;> simp

end Branch

namespace Tree

variable (t : Tree)

/-- The node at a place. -/
def at? (place : List Nat) : Link :=
  place.foldl (fun l k => l.bind fun i => (t.children (some i))[k]?) (some document)

/-- What the nodes of a branch hold, apart from their numbers in the store. -/
def shapeAt (i : NodeId) : Branch (Option Content) := (t.branch i).map Prod.snd

/-- The attached tree apart from the numbers of its nodes. -/
def shape : Branch (Option Content) := t.page.map Prod.snd

theorem at?_concat (place : List Nat) (k : Nat) :
    t.at? (place ++ [k]) = (t.at? place).bind fun i => (t.children (some i))[k]? := by
  simp [at?, List.foldl_append]

end Tree

namespace Sound

variable {t : Tree} {i : NodeId} {place place' : List Nat}

theorem shapeAt_eq (h : Sound t) (i : NodeId) :
    t.shapeAt i = .node (t.content? (some i)) ((t.children (some i)).map t.shapeAt) := by
  rw [Tree.shapeAt, h.branch_eq, Branch.map_node, List.map_map]
  rfl

/-- The branch at a node stands on the page at the node's place. -/
theorem at?_page (h : Sound t) (place : List Nat) :
    t.page.at? place = (t.at? place).map t.branch := by
  induction place using List.reverseRecOn with
  | nil => rfl
  | append_singleton place k ih =>
    rw [Branch.at?_concat, Tree.at?_concat, ih]
    cases t.at? place with
    | none => rfl
    | some i => simp [h.branch_eq i]

theorem at?_shape (h : Sound t) (place : List Nat) :
    t.shape.at? place = (t.at? place).map t.shapeAt := by
  rw [Tree.shape, Branch.at?_map, h.at?_page, Option.map_map]
  rfl

theorem mem_within_of_mem (h : Sound t) {r c : NodeId} (hi : i ∈ t.within r)
    (hc : c ∈ t.children (some i)) : c ∈ t.within r := by
  rw [h.mem_within_iff, h.ancestors_of_mem hc]
  exact List.mem_cons_of_mem c (h.mem_within_iff.mp hi)

theorem attached_of_at? (h : Sound t) (hp : t.at? place = some i) : i ∈ t.within document := by
  induction place using List.reverseRecOn generalizing i with
  | nil =>
    obtain rfl : document = i := Option.some.inj hp
    rw [h.within_eq]
    exact List.mem_cons_self
  | append_singleton place k ih =>
    rw [Tree.at?_concat] at hp
    obtain ⟨p, hp, hk⟩ := Option.bind_eq_some_iff.mp hp
    exact h.mem_within_of_mem (ih hp) (List.mem_of_getElem? hk)

/-- No node has two places. -/
theorem at?_inj (h : Sound t) (hp : t.at? place = some i) (hp' : t.at? place' = some i) :
    place = place' := by
  have hroot : ∀ place k, t.at? (place ++ [k]) ≠ some document := by
    intro place k he
    rw [Tree.at?_concat] at he
    obtain ⟨p, _, hk⟩ := Option.bind_eq_some_iff.mp he
    exact h.document_not_mem p (List.mem_of_getElem? hk)
  induction place using List.reverseRecOn generalizing i place' with
  | nil =>
    obtain rfl : document = i := Option.some.inj hp
    cases place' using List.reverseRecOn with
    | nil => rfl
    | append_singleton place' k => exact absurd hp' (hroot place' k)
  | append_singleton place k ih =>
    cases place' using List.reverseRecOn with
    | nil =>
      obtain rfl : document = i := Option.some.inj hp'
      exact absurd hp (hroot place k)
    | append_singleton place' k' =>
      rw [Tree.at?_concat] at hp hp'
      obtain ⟨p, hp, hk⟩ := Option.bind_eq_some_iff.mp hp
      obtain ⟨p', hp', hk'⟩ := Option.bind_eq_some_iff.mp hp'
      obtain rfl := h.forest.parent_unique (List.mem_of_getElem? hk) (List.mem_of_getElem? hk')
      rw [ih hp hp']
      have hlt : k < (t.children (some p)).length := by
        obtain ⟨hlt, _⟩ := List.getElem?_eq_some_iff.mp hk
        exact hlt
      rw [(List.getElem?_inj hlt (h.forest.nodup p)).mp (hk.trans hk'.symm)]

end Sound

section

variable {t t' : Tree} {R : NodeId → NodeId → Prop} {i j : NodeId}

/-- What holds of all pairs of children, one from each list, may be shown for the children alone. -/
theorem forall₂_of_mem {l l' : List NodeId} {S : NodeId → NodeId → Prop} (h : List.Forall₂ R l l')
    (hs : ∀ a ∈ l, ∀ b, R a b → S a b) : List.Forall₂ S l l' := by
  have hm := (List.forall₂_and_left l l').mpr ⟨fun a (ha : a ∈ l) => ha, h⟩
  exact hm.imp fun a b hab => hs a hab.1 b hab.2

theorem map_eq_of_forall₂ {α : Type} {l l' : List NodeId} {f f' : NodeId → α}
    (h : List.Forall₂ (fun i j => f' j = f i) l l') : l'.map f' = l.map f := by
  induction h with
  | nil => rfl
  | cons he _ ih => rw [List.map_cons, List.map_cons, he, ih]

theorem forall₂_filter {l l' : List NodeId} {p p' : NodeId → Bool} (h : List.Forall₂ R l l')
    (hp : ∀ i j, R i j → p' j = p i) : List.Forall₂ R (l.filter p) (l'.filter p') :=
  List.rel_filter (fun i j hij => Bool.eq_iff_iff.mp (hp i j hij).symm) h

/-- Branches that go side by side become the same if their nodes do. -/
theorem Sound.map_branch {α : Type} {f f' : NodeId × Option Content → α} (h : Sound t)
    (h' : Sound t')
    (hc : ∀ i j, R i j → List.Forall₂ R (t.children (some i)) (t'.children (some j)))
    (hf : ∀ i j, R i j → f' (j, t'.content? (some j)) = f (i, t.content? (some i)))
    (hij : R i j) : (t'.branch j).map f' = (t.branch i).map f := by
  induction i using h.descend generalizing j with
  | step i ih =>
    rw [h.branch_eq, h'.branch_eq, Branch.map_node, Branch.map_node, hf i j hij, List.map_map,
      List.map_map]
    exact congrArg _ (map_eq_of_forall₂ (forall₂_of_mem (hc i j hij) fun c hm _ => ih c hm))

/-- Pages become the same if their attached nodes have the same children and become the same. -/
theorem Sound.map_page {α : Type} {f f' : NodeId × Option Content → α} (h : Sound t)
    (h' : Sound t') (hk : ∀ i ∈ t.within document, t'.children (some i) = t.children (some i))
    (hf : ∀ i ∈ t.within document,
      f' (i, t'.content? (some i)) = f (i, t.content? (some i))) :
    t'.page.map f' = t.page.map f := by
  have hc : ∀ i j, i = j ∧ i ∈ t.within document →
      List.Forall₂ (fun i j => i = j ∧ i ∈ t.within document) (t.children (some i))
        (t'.children (some j)) := by
    rintro i _ ⟨rfl, hi⟩
    rw [hk i hi]
    exact List.forall₂_same.mpr fun c hm => ⟨rfl, h.mem_within_of_mem hi hm⟩
  refine h.map_branch h' hc ?_ ⟨rfl, h.mem_within_iff.mpr List.mem_cons_self⟩
  rintro i _ ⟨rfl, hi⟩
  exact hf i hi

/-- Branches that go side by side list their nodes side by side. -/
theorem Sound.forall₂_within (h : Sound t) (h' : Sound t')
    (hc : ∀ i j, R i j → List.Forall₂ R (t.children (some i)) (t'.children (some j)))
    (hij : R i j) : List.Forall₂ R (t.within i) (t'.within j) := by
  induction i using h.descend generalizing j with
  | step i ih =>
    rw [h.within_eq, h'.within_eq]
    refine .cons hij (List.rel_flatMap (R := fun a b => a ∈ t.children (some i) ∧ R a b)
      ((List.forall₂_and_left _ _).mpr ⟨fun _ hm => hm, hc i j hij⟩) ?_)
    rintro c d ⟨hm, hcd⟩
    exact ih c hm hcd

theorem Sound.forall₂_descendants (h : Sound t) (h' : Sound t')
    (hc : ∀ i j, R i j → List.Forall₂ R (t.children (some i)) (t'.children (some j)))
    (hij : R i j) : List.Forall₂ R (t.descendants (some i)) (t'.descendants (some j)) := by
  have hw := h.forall₂_within h' hc hij
  rw [h.within_eq_descendants, h'.within_eq_descendants] at hw
  exact (List.forall₂_cons.mp hw).2

end

/-- Two nodes have the same place, each one in its tree. -/
def SamePlace (t t' : Tree) (i j : NodeId) : Prop :=
  ∃ place, t.at? place = some i ∧ t'.at? place = some j

namespace SamePlace

variable {t t' : Tree} {i j : NodeId} {f : Option Content → Option Content}

theorem top : SamePlace t t' document document := ⟨[], rfl, rfl⟩

theorem lt_size (hij : SamePlace t t' i j) (h : Sound t) (h' : Sound t') :
    i < t.size ∧ j < t'.size := by
  obtain ⟨place, hi, hj⟩ := hij
  exact ⟨h.lt_size_of_mem_within h.zero_lt_size (h.attached_of_at? hi),
    h'.lt_size_of_mem_within h'.zero_lt_size (h'.attached_of_at? hj)⟩

theorem biUnique (h : Sound t) (h' : Sound t') : BiUnique (SamePlace t t') := by
  constructor
  · rintro i j k ⟨place, hi, hk⟩ ⟨place', hj, hk'⟩
    obtain rfl := h'.at?_inj hk hk'
    exact Option.some.inj (hi.symm.trans hj)
  · rintro i j k ⟨place, hi, hj⟩ ⟨place', hi', hk⟩
    obtain rfl := h.at?_inj hi hi'
    exact Option.some.inj (hj.symm.trans hk)

/-- A node other than the document is at the same number among the children of its parent. -/
theorem up (hij : SamePlace t t' i j) : i = document ∧ j = document ∨
    ∃ (p q : NodeId) (k : Nat), SamePlace t t' p q ∧ (t.children (some p))[k]? = some i ∧
      (t'.children (some q))[k]? = some j := by
  obtain ⟨place, hi, hj⟩ := hij
  cases place using List.reverseRecOn with
  | nil => exact Or.inl ⟨(Option.some.inj hi).symm, (Option.some.inj hj).symm⟩
  | append_singleton place k =>
    rw [Tree.at?_concat] at hi hj
    obtain ⟨p, hp, hi⟩ := Option.bind_eq_some_iff.mp hi
    obtain ⟨q, hq, hj⟩ := Option.bind_eq_some_iff.mp hj
    exact Or.inr ⟨p, q, k, ⟨place, hp, hq⟩, hi, hj⟩

theorem shapeAt (hij : SamePlace t t' i j) (h : Sound t) (h' : Sound t')
    (hs : t'.shape = t.shape.map f) : t'.shapeAt j = (t.shapeAt i).map f := by
  obtain ⟨place, hi, hj⟩ := hij
  have hp := h'.at?_shape place
  rw [hs, Branch.at?_map, h.at?_shape, hi, hj] at hp
  exact (Option.some.inj hp).symm

theorem content (hij : SamePlace t t' i j) (h : Sound t) (h' : Sound t')
    (hs : t'.shape = t.shape.map f) : t'.content? (some j) = f (t.content? (some i)) := by
  have he := congrArg Branch.here (hij.shapeAt h h' hs)
  rwa [h.shapeAt_eq, h'.shapeAt_eq, Branch.map_node] at he

theorem children (hij : SamePlace t t' i j) (h : Sound t) (h' : Sound t')
    (hs : t'.shape = t.shape.map f) :
    List.Forall₂ (SamePlace t t') (t.children (some i)) (t'.children (some j)) := by
  have he := congrArg (fun b => b.beneath.length) (hij.shapeAt h h' hs)
  simp only [h.shapeAt_eq i, h'.shapeAt_eq j, Branch.beneath_map, Branch.beneath_node,
    List.length_map] at he
  obtain ⟨place, hi, hj⟩ := hij
  refine List.forall₂_iff_get.mpr ⟨he.symm, fun k hk hk' => ⟨place ++ [k], ?_, ?_⟩⟩
  · rw [Tree.at?_concat, hi]
    exact List.getElem?_eq_getElem hk
  · rw [Tree.at?_concat, hj]
    exact List.getElem?_eq_getElem hk'

end SamePlace

end CoursePage
