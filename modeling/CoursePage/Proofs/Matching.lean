import CoursePage.Proofs.Kin
import CoursePage.Proofs.Place

/-!
Selectors on trees that look alike. What a condition asks of an element is read from the attached
nodes around it, so it holds of both elements at one place or of none.
-/

namespace CoursePage

open CoursePage.Tree (document)

/-- The attached nodes are the same apart from their numbers. -/
structure Lookalike (t t' : Tree) : Prop where
  sound : Sound t
  sound' : Sound t'
  shape : t'.shape = t.shape

theorem forall₂_takeWhile {R : NodeId → NodeId → Prop} {l l' : List NodeId} {p p' : NodeId → Bool}
    (h : List.Forall₂ R l l') (hp : ∀ i j, R i j → p' j = p i) :
    List.Forall₂ R (l.takeWhile p) (l'.takeWhile p') := by
  induction h with
  | nil => exact .nil
  | cons hij _ ih =>
    rw [List.takeWhile_cons, List.takeWhile_cons, hp _ _ hij]
    split
    · exact .cons hij ih
    · exact .nil

namespace Selector

theorem Combinator.search_eq {R : NodeId → NodeId → Prop} (c : Combinator)
    {find find' : NodeId → StateM IndexCache Finding} (hf : ∀ i j, R i j → find' j = find i)
    {l l' : List NodeId} (h : List.Forall₂ R l l') : c.search find' l' = c.search find l := by
  induction h with
  | nil => rfl
  | cons hij _ ih =>
    unfold Combinator.search
    rw [hf _ _ hij, ih]

end Selector

namespace Lookalike

variable {t t' : Tree} {i j : NodeId}

section Kin

theorem content (h : Lookalike t t') (hij : SamePlace t t' i j) :
    t'.content? (some j) = t.content? (some i) :=
  hij.content h.sound h.sound' (f := id) (h.shape.trans t.shape.map_id.symm)

theorem element? (h : Lookalike t t') (hij : SamePlace t t' i j) :
    t'.element? (some j) = t.element? (some i) := by
  rw [Tree.element?_eq, Tree.element?_eq, h.content hij]

theorem isElement (h : Lookalike t t') (hij : SamePlace t t' i j) :
    t'.isElement (some j) = t.isElement (some i) := by
  rw [Tree.isElement, Tree.isElement, h.element? hij]

theorem elementName (h : Lookalike t t') (hij : SamePlace t t' i j) :
    t'.elementName (some j) = t.elementName (some i) := by
  rw [Tree.elementName, Tree.elementName, h.element? hij]

theorem children (h : Lookalike t t') (hij : SamePlace t t' i j) :
    List.Forall₂ (SamePlace t t') (t.children (some i)) (t'.children (some j)) :=
  hij.children h.sound h.sound' (f := id) (h.shape.trans t.shape.map_id.symm)

/-- Two nodes at one place have parents at one place, and siblings at the same places before and
behind them, unless both are documents. -/
theorem around (h : Lookalike t t') (hij : SamePlace t t' i j) : i = document ∧ j = document ∨
    ∃ p q l r l' r', SamePlace t t' p q ∧ t.children (some p) = l ++ i :: r ∧
      t'.children (some q) = l' ++ j :: r' ∧ List.Forall₂ (SamePlace t t') l l' ∧
      List.Forall₂ (SamePlace t t') r r' := by
  have hsplit : ∀ {l : List NodeId} {k : Nat} {i : NodeId}, l[k]? = some i →
      l = l.take k ++ i :: l.drop (k + 1) := by
    intro l k i hk
    obtain ⟨hlt, rfl⟩ := List.getElem?_eq_some_iff.mp hk
    rw [← List.drop_eq_getElem_cons, List.take_append_drop]
  rcases hij.up with hd | ⟨p, q, k, hpq, hi, hj⟩
  · exact Or.inl hd
  · exact Or.inr ⟨p, q, _, _, _, _, hpq, hsplit hi, hsplit hj,
      List.forall₂_take k (h.children hpq), List.forall₂_drop (k + 1) (h.children hpq)⟩

theorem forall₂_ancestors (h : Lookalike t t') (hij : SamePlace t t' i j) :
    List.Forall₂ (SamePlace t t') (t.ancestors (some i)) (t'.ancestors (some j)) := by
  obtain ⟨place, hi, hj⟩ := hij
  induction place using List.reverseRecOn generalizing i j with
  | nil =>
    obtain rfl : document = i := Option.some.inj hi
    obtain rfl : document = j := Option.some.inj hj
    rw [h.sound.ancestors_of_loose h.sound.rooted, h.sound'.ancestors_of_loose h.sound'.rooted]
    exact .nil
  | append_singleton place k ih =>
    rw [Tree.at?_concat] at hi hj
    obtain ⟨p, hp, hi⟩ := Option.bind_eq_some_iff.mp hi
    obtain ⟨q, hq, hj⟩ := Option.bind_eq_some_iff.mp hj
    rw [h.sound.ancestors_of_mem (List.mem_of_getElem? hi),
      h.sound'.ancestors_of_mem (List.mem_of_getElem? hj)]
    exact .cons ⟨place, hp, hq⟩ (ih hp hq)

theorem outerElements (h : Lookalike t t') (hij : SamePlace t t' i j) :
    List.Forall₂ (SamePlace t t') (t.outerElements (some i)) (t'.outerElements (some j)) := by
  obtain ⟨hi, hj⟩ := hij.lt_size h.sound h.sound'
  rw [h.sound.outerElements_eq hi, h.sound'.outerElements_eq hj]
  exact forall₂_takeWhile (h.forall₂_ancestors hij) fun _ _ => h.isElement

theorem earlierElements (h : Lookalike t t') (hij : SamePlace t t' i j) :
    List.Forall₂ (SamePlace t t') (t.earlierElements (some i)) (t'.earlierElements (some j)) := by
  rcases h.around hij with ⟨rfl, rfl⟩ | ⟨p, q, l, r, l', r', -, hs, hs', hl, -⟩
  · rw [(h.sound.kin_of_loose h.sound.rooted).2.1, (h.sound'.kin_of_loose h.sound'.rooted).2.1]
    exact .nil
  · rw [h.sound.earlierElements_eq hs, h.sound'.earlierElements_eq hs']
    exact forall₂_filter (List.forall₂_reverse_iff.mpr hl) fun _ _ => h.isElement

theorem laterElements (h : Lookalike t t') (hij : SamePlace t t' i j) :
    List.Forall₂ (SamePlace t t') (t.laterElements (some i)) (t'.laterElements (some j)) := by
  rcases h.around hij with ⟨rfl, rfl⟩ | ⟨p, q, l, r, l', r', -, hs, hs', -, hr⟩
  · rw [(h.sound.kin_of_loose h.sound.rooted).2.2, (h.sound'.kin_of_loose h.sound'.rooted).2.2]
    exact .nil
  · rw [h.sound.laterElements_eq hs, h.sound'.laterElements_eq hs']
    exact forall₂_filter hr fun _ _ => h.isElement

theorem prevElement (h : Lookalike t t') (hij : SamePlace t t' i j) :
    List.Forall₂ (SamePlace t t') (t.prevElement (some i)).toList
      (t'.prevElement (some j)).toList := by
  rcases h.around hij with ⟨rfl, rfl⟩ | ⟨p, q, l, r, l', r', -, hs, hs', hl, -⟩
  · rw [(h.sound.kin_of_loose h.sound.rooted).1, (h.sound'.kin_of_loose h.sound'.rooted).1]
    exact .nil
  · rw [h.sound.prevElement_eq hs, h.sound'.prevElement_eq hs', ← List.head?_filter,
      ← List.head?_filter, ← List.take_one, ← List.take_one]
    have hf := forall₂_filter (List.forall₂_reverse_iff.mpr hl) fun _ _ => h.isElement
    exact List.forall₂_take 1 hf

theorem parentElement (h : Lookalike t t') (hij : SamePlace t t' i j) :
    List.Forall₂ (SamePlace t t') (t.parentElement (some i)).toList
      (t'.parentElement (some j)).toList := by
  rcases h.around hij with ⟨rfl, rfl⟩ | ⟨p, q, l, r, l', r', hpq, hs, hs', -⟩
  · rw [Tree.parentElement, Tree.parentElement, h.sound.rooted, h.sound'.rooted]
    exact .nil
  · rw [Tree.parentElement, Tree.parentElement, (h.sound.forest.placed p l i r hs).1,
      (h.sound'.forest.placed q l' j r' hs').1, Option.filter_some, Option.filter_some,
      h.isElement hpq]
    split
    · exact .cons hpq .nil
    · exact .nil

theorem isRoot (h : Lookalike t t') (hij : SamePlace t t' i j) :
    t'.isRoot (some j) = t.isRoot (some i) := by
  change (t'.content? (t'.parent (some j)) == _) = (t.content? (t.parent (some i)) == _)
  rcases h.around hij with ⟨rfl, rfl⟩ | ⟨p, q, l, r, l', r', hpq, hs, hs', -⟩
  · rw [h.sound.rooted, h.sound'.rooted]
    rfl
  · rw [(h.sound.forest.placed p l i r hs).1, (h.sound'.forest.placed q l' j r' hs').1,
      h.content hpq]

theorem isBlankInside (h : Lookalike t t') (hij : SamePlace t t' i j) :
    t'.isBlankInside (some j) = t.isBlankInside (some i) := by
  unfold Tree.isBlankInside
  have hc := h.children hij
  generalize t.children (some i) = l, t'.children (some j) = l' at hc
  induction hc with
  | nil => rfl
  | cons hab _ ih =>
    have he : (t'.get? (some _)).map Node.content = (t.get? (some _)).map Node.content :=
      h.content hab
    rw [List.all_cons, List.all_cons, ih, he]

theorem isLink (h : Lookalike t t') (hij : SamePlace t t' i j) :
    t'.isLink (some j) = t.isLink (some i) := by
  simp only [Tree.isLink, Tree.attr?, Tree.attrs, h.elementName hij, h.element? hij]

end Kin

section Selectors

open Selector

theorem countIndex (h : Lookalike t t') (hij : SamePlace t t' i j) (fromEnd ofType : Bool) :
    Selector.countIndex t' j fromEnd ofType = Selector.countIndex t i fromEnd ofType := by
  have hk : List.Forall₂ (SamePlace t t')
      (if fromEnd then t.laterElements (some i) else t.earlierElements (some i))
      (if fromEnd then t'.laterElements (some j) else t'.earlierElements (some j)) := by
    cases fromEnd
    · exact h.earlierElements hij
    · exact h.laterElements hij
  have hs : ∀ a b, SamePlace t t' a b →
      (!ofType || t'.sameType (some j) (some b)) = (!ofType || t.sameType (some i) (some a)) := by
    intro a b hab
    rw [Tree.sameType, Tree.sameType, h.elementName hij, h.elementName hab]
  exact congrArg (1 + ·) (forall₂_filter hk hs).length_eq.symm

theorem reached (h : Lookalike t t') (hij : SamePlace t t' i j) (c : Combinator) :
    List.Forall₂ (SamePlace t t') (c.reached t i) (c.reached t' j) := by
  cases c with
  | descendant => exact h.outerElements hij
  | child => exact h.parentElement hij
  | nextSibling => exact h.prevElement hij
  | laterSibling => exact h.earlierElements hij

/-- The same index is counted or read, and the same is kept. -/
theorem holds_position (h : Lookalike t t') (hij : SamePlace t t' i j) (p : Position) (f : Frame) :
    p.holds t' f j = p.holds t f i := by
  have hindex : ∀ fromEnd ofType, indexOf t' f j fromEnd ofType = indexOf t f i fromEnd ofType :=
    fun fromEnd ofType => by
      funext cache
      rw [indexOf, indexOf, h.countIndex hij]
  have hempty : ∀ {is js : List NodeId}, List.Forall₂ (SamePlace t t') is js →
      js.isEmpty = is.isEmpty := fun hl => by cases hl <;> rfl
  have houtermost : ∀ fromEnd : Bool,
      (if fromEnd then t'.nextElement (some j) else t'.prevElement (some j)).isNone =
        (if fromEnd then t.nextElement (some i) else t.prevElement (some i)).isNone := by
    intro fromEnd
    cases fromEnd with
    | false =>
      have hprev := hempty (h.earlierElements hij)
      rwa [Tree.earlierElements, Tree.earlierElements, Tree.isEmpty_elementsBy,
        Tree.isEmpty_elementsBy] at hprev
    | true =>
      have hnext := hempty (h.laterElements hij)
      rwa [Tree.laterElements, Tree.laterElements, Tree.isEmpty_elementsBy,
        Tree.isEmpty_elementsBy] at hnext
  have hfrom : ∀ fromEnd, p.holdsFrom t' f j fromEnd = p.holdsFrom t f i fromEnd := by
    intro fromEnd
    rw [Position.holdsFrom, Position.holdsFrom, hindex, houtermost]
  simp only [Position.holds, hfrom]

mutual

/-- A condition is answered alike for both elements at a place. -/
theorem holds_simple (h : Lookalike t t') (p : Simple) (f : Frame) {i j : NodeId}
    (hij : SamePlace t t' i j) : p.holds t' f j = p.holds t f i := by
  match p with
  | .noNamespace => simp only [Simple.holds, h.elementName hij]
  | .universal => simp only [Simple.holds]
  | .type name => simp only [Simple.holds, h.elementName hij]
  | .id name => simp only [Simple.holds, Tree.elementId, h.element? hij]
  | .className name => simp only [Simple.holds, Tree.hasClass, Tree.classes, h.element? hij]
  | .attribute test => simp only [Simple.holds, Tree.attrs, h.element? hij]
  | .root => simp only [Simple.holds, h.isRoot hij]
  | .empty => simp only [Simple.holds, h.isBlankInside hij]
  | .scope => simp only [Simple.holds, h.isRoot hij]
  | .host _ => simp only [Simple.holds]
  | .position p => simp only [Simple.holds, h.holds_position hij]
  | .usage u => simp only [Simple.holds, Usage.holds, h.isLink hij]
  | .not alternatives => simp only [Simple.holds, h.someHolds_eq alternatives _ hij]

theorem allHold_eq (h : Lookalike t t') (ps : List Simple) (f : Frame) {i j : NodeId}
    (hij : SamePlace t t' i j) : allHold t' ps f j = allHold t ps f i := by
  match ps with
  | [] => rfl
  | p :: ps => rw [allHold, allHold, h.holds_simple p f hij, h.allHold_eq ps f hij]

/-- The search for a chain takes the same way on both trees. -/
theorem find_eq (h : Lookalike t t') (s : Selector.Complex) (f : Frame) {i j : NodeId}
    (hij : SamePlace t t' i j) : s.find t' f j = s.find t f i := by
  match s with
  | .compound ps => rw [Selector.Complex.find, Selector.Complex.find, h.allHold_eq ps f hij]
  | .chain left c ps =>
    -- The combinator leads to elements at the same places, and at each of them the rest of the
    -- chain is found or missed in the same way.
    have hs := c.search_eq (fun a b hab => h.find_eq left (.onward :: f) hab) (h.reached hij c)
    rw [Selector.Complex.find, Selector.Complex.find, h.allHold_eq ps f hij, hs]

theorem someHolds_eq (h : Lookalike t t') (ss : List Selector.Complex) (f : Frame) {i j : NodeId}
    (hij : SamePlace t t' i j) : someHolds t' ss f j = someHolds t ss f i := by
  match ss with
  | [] => rfl
  | s :: ss => rw [someHolds, someHolds, h.find_eq s f hij, h.someHolds_eq ss f hij]

end

theorem asks (h : Lookalike t t') (s : Selector) (hij : SamePlace t t' i j) :
    s.asks t' j = s.asks t i := by
  rw [Selector.asks, Selector.asks, h.isElement hij, h.someHolds_eq s.alternatives [] hij]

/-- One list of nodes is asked like the other, so the kept indexes are the same all along. -/
theorem sift (h : Lookalike t t') (s : Selector) {is js : List NodeId}
    (hl : List.Forall₂ (SamePlace t t') is js) (cache : IndexCache) :
    List.Forall₂ (SamePlace t t') (s.sift t is cache).1 (s.sift t' js cache).1 := by
  induction hl generalizing cache with
  | nil => exact .nil
  | cons hij _ ih =>
    rw [Selector.sift_cons, Selector.sift_cons, h.asks s hij]
    split
    · exact .cons hij (ih _)
    · exact ih _

/-- Every selector finds elements at the same places. -/
theorem select (h : Lookalike t t') (s : Selector) :
    List.Forall₂ (SamePlace t t') (t.select s) (t'.select s) :=
  h.sift s (h.sound.forall₂_descendants h.sound' (fun _ _ => h.children) .top) []

end Selectors

end Lookalike

end CoursePage
