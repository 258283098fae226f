import CoursePage.Proofs.Built
import CoursePage.Proofs.Token

/-!
What the index of ids finds. It remembers for each id the element that took it last, whatever has
become of that element since. So what it finds is an attached element with the id, but an element
that took the id later and gave it up or was left out of the page hides all others with that id.
-/

namespace CoursePage

/-- An attached element with an id. -/
def Tree.Holds (t : Tree) (id : String) (i : NodeId) : Prop :=
  t.isAttached (some i) = true ∧ t.elementId (some i) = some id

/-- `t'` is `t` after the attributes of at most one element were written. The index knows that the
element has the id that it has now, and all other elements have the ids that they had. -/
structure Claimed (t t' : Tree) (written : Link) : Prop where
  lookup : ∀ id, t'.ids.lookup id =
    (written.filter fun i => t'.elementId (some i) == some id).or (t.ids.lookup id)
  kept : ∀ i, written ≠ some i → t'.elementId (some i) = t.elementId (some i)

namespace Claimed

variable {t t' : Tree}

theorem of_elements (he : ∀ k, t'.element? k = t.element? k) (hi : t'.ids = t.ids) :
    Claimed t t' none where
  lookup id := by rw [hi]; rfl
  kept i _ := by rw [Tree.elementId, Tree.elementId, he]

theorem of_contents (hc : ∀ k, t'.content? k = t.content? k) (hi : t'.ids = t.ids) :
    Claimed t t' none :=
  of_elements (fun k => Tree.element?_congr (hc k)) hi

/-- One element is written and claims the id that it has then. -/
theorem of_written {i : NodeId} {e : Element}
    (hl : ∀ id, t'.ids.lookup id = if e.id = some id then some i else t.ids.lookup id)
    (hc : ∀ k, t'.content? k = if k = some i then some (.element e) else t.content? k) :
    Claimed t t' (some i) where
  lookup id := by
    have he : t'.elementId (some i) = e.id := by
      simp [Tree.elementId, Tree.element?_eq, hc, Content.element?]
    rw [hl, Option.filter_some, he]
    by_cases hid : e.id = some id <;> simp [hid]
  kept j hj := by
    have hk : t'.content? (some j) = t.content? (some j) := by rw [hc, if_neg (Ne.symm hj)]
    rw [Tree.elementId, Tree.elementId, Tree.element?_congr hk]

theorem createElement (t : Tree) (name : QualName) (attrs : List Attribute) :
    Claimed t (t.createElement name attrs).2 (some t.size) :=
  of_written (fun id => Tree.lookup_claimId _ _ id) (t.content?_createElement name attrs)

theorem setAttr {i : NodeId} (hi : t.isElement (some i) = true) (name value : String) :
    Claimed t (t.setAttr (some i) name value) (some i) := by
  obtain ⟨e, he⟩ := Option.isSome_iff_exists.mp hi
  exact of_written (Tree.lookup_setAttr he name value) (Tree.content?_setAttr he name value)

end Claimed

namespace Tree

/-- Only elements have class tokens. -/
theorem isElement_of_hasClass {t : Tree} {l : Link} {token : String}
    (h : t.hasClass l token = true) : t.isElement l = true := by
  cases he : t.element? l with
  | some e => simp [isElement, he]
  | none => simp [hasClass, classes, he] at h

end Tree

namespace Edit

/-- The element whose attributes an edit writes. -/
def written? (t : Tree) : Edit → Link
  | createElement .. => some t.size
  | setAttr node .. => if t.isElement (some node) then some node else none
  | addClass node token =>
    if t.isElement (some node) && !t.hasClass (some node) token then some node else none
  | removeClass node token => if t.hasClass (some node) token then some node else none
  | createText _ | createComment _ | createDoctype .. | append .. | insertBefore ..
  | appendText .. | detach _ | replace .. | moveChildren .. => none

/-- The element that takes an id by an edit: it is written and has the id then. -/
def taker? (id : String) (t : Tree) (e : Edit) : Link :=
  (e.written? t).filter fun i => (e.run t).elementId (some i) == some id

theorem claimed (t : Tree) (e : Edit) : Claimed t (e.run t) (e.written? t) := by
  cases e with
  | createElement name attrs => exact .createElement t name attrs
  | createText text => exact .of_elements (t.element?_create rfl) (t.ids_create _)
  | createComment text => exact .of_elements (t.element?_create rfl) (t.ids_create _)
  | createDoctype name publicId systemId =>
    exact .of_elements (t.element?_create rfl) (t.ids_create _)
  | append parent child => exact .of_contents (t.content?_append _ _) (t.ids_append _ _)
  | insertBefore sibling node =>
    exact .of_contents (t.content?_insertBefore _ _) (t.ids_insertBefore _ _)
  | appendText parent text => exact .of_elements (t.element?_appendText _ _) (t.ids_appendText _ _)
  | detach target => exact .of_contents (t.content?_detach _) (t.ids_detach _)
  | replace old node => exact .of_contents (t.content?_replace _ _) (t.ids_replace _ _)
  | moveChildren source target =>
    exact .of_contents (t.content?_moveChildren _ _) (t.ids_moveChildren _ _)
  | setAttr node name value =>
    simp only [run, written?]
    split
    · exact .setAttr ‹_› name value
    · rename_i hn
      rw [Tree.setAttr_of_not_element (by simpa [Tree.isElement] using hn)]
      exact .of_elements (fun _ => rfl) rfl
  | addClass node token =>
    simp only [run, written?, Tree.addClass]
    by_cases hn : t.isElement (some node) = true <;> cases hc : t.hasClass (some node) token
    · simpa [hn] using Claimed.setAttr hn _ _
    all_goals simpa [hn] using Claimed.of_elements (fun _ => rfl) rfl
  | removeClass node token =>
    simp only [run, written?, Tree.removeClass]
    split
    · exact .setAttr (Tree.isElement_of_hasClass ‹_›) _ _
    · exact .of_elements (fun _ => rfl) rfl

theorem lookup_run (id : String) (t : Tree) (e : Edit) :
    (e.run t).ids.lookup id = (e.taker? id t).or (t.ids.lookup id) :=
  (e.claimed t).lookup id

/-- An element that has an id after an edit took it by the edit or had it before. -/
theorem took_or_had {id : String} {t : Tree} {e : Edit} {i : NodeId}
    (h : (e.run t).elementId (some i) = some id) :
    e.taker? id t = some i ∨ t.elementId (some i) = some id := by
  by_cases hw : e.written? t = some i
  · left
    rw [taker?, hw, Option.filter_some, if_pos (by simpa using h)]
  · right
    rw [← (e.claimed t).kept i hw, h]

end Edit

/-- The elements that take an id in the course of a run, in this order. -/
def takers (id : String) (t : Tree) : List Edit → List NodeId
  | [] => []
  | e :: es => (e.taker? id t).toList ++ takers id (e.run t) es

/-- The index remembers the last element that took an id. -/
theorem lookup_takers (id : String) (t : Tree) (es : List Edit) :
    (es.foldl Edit.run t).ids.lookup id = (takers id t es).getLast?.or (t.ids.lookup id) := by
  induction es generalizing t with
  | nil => rfl
  | cons e es ih =>
    rw [List.foldl_cons, ih, e.lookup_run, takers, List.getLast?_append, Option.or_assoc]
    cases e.taker? id t <;> rfl

/-- An element that has an id took it or had it from the start. -/
theorem mem_takers {id : String} {t : Tree} {es : List Edit} {i : NodeId}
    (h : (es.foldl Edit.run t).elementId (some i) = some id) :
    i ∈ takers id t es ∨ t.elementId (some i) = some id := by
  induction es generalizing t with
  | nil => exact Or.inr h
  | cons e es ih =>
    rw [takers, List.mem_append]
    rcases ih h with hm | hi
    · exact Or.inl (Or.inr hm)
    · exact (Edit.took_or_had hi).imp_left fun ht => Or.inl (by simp [ht])

/-- The search for an id finds the last element that took it, if it is attached and has the id
still. `taken` are the elements that took the id, in this order. -/
structure FindsLastTaker (t : Tree) (id : String) (taken : List NodeId) : Prop where
  found : ∀ i, t.getById? id = some i ↔ taken.getLast? = some i ∧ t.Holds id i
  took : ∀ i, t.Holds id i → i ∈ taken
  /-- Some element is found whenever there is one, exactly if the last taker of the id is none that
  hides others. -/
  complete : ((∃ i, t.getById? id = some i) ↔ ∃ i, t.Holds id i) ↔
    ∀ i, t.Holds id i → ∃ j, taken.getLast? = some j ∧ t.Holds id j
  /-- An id that only one element ever took is found if that element holds it. -/
  sole : ∀ i, (∀ j ∈ taken, j = i) → (t.getById? id = some i ↔ t.Holds id i)

/-- After any run from the empty page, the search for an id finds its last taker or nothing. -/
theorem findsLastTaker_run (es : List Edit) (id : String) :
    FindsLastTaker (es.foldl Edit.run .empty) id (takers id .empty es) := by
  have hlookup := lookup_takers id .empty es
  have htook : ∀ i, (es.foldl Edit.run .empty).Holds id i → i ∈ takers id .empty es := by
    intro i hi
    refine (mem_takers hi.2).resolve_right fun he => ?_
    cases i <;> cases he
  generalize es.foldl Edit.run .empty = t at *
  generalize takers id .empty es = taken at *
  have hfound : ∀ i, t.getById? id = some i ↔ taken.getLast? = some i ∧ t.Holds id i := by
    intro i
    rw [Tree.getById?, hlookup]
    simp [Option.filter_eq_some_iff, Tree.empty, Tree.Holds, and_comm]
  refine ⟨hfound, htook, ?complete, ?sole⟩
  case complete =>
    simp only [hfound]
    constructor
    · intro h i hi
      exact h.mpr ⟨i, hi⟩
    · intro h
      constructor
      · rintro ⟨i, hi⟩
        exact ⟨i, hi.2⟩
      · rintro ⟨i, hi⟩
        exact h i hi
  case sole =>
    intro i hone
    rw [hfound, and_iff_right_iff_imp]
    intro hi
    have hne : taken ≠ [] := List.ne_nil_of_mem (htook i hi)
    rw [List.getLast?_eq_some_getLast hne, hone _ (List.getLast_mem hne)]

/-- Two elements, the second of which takes the id of the first and then another one. -/
def borrowedId : List Edit :=
  [.createElement (.html "div") [.plain "id" "x"], .append 0 1,
    .createElement (.html "div") [.plain "id" "y"], .append 0 2,
    .setAttr 2 "id" "x", .setAttr 2 "id" "z"]

/-- The only element with an id is attached and not found. -/
theorem getById?_borrowedId :
    LegalRun .empty borrowedId ∧
      (borrowedId.foldl Edit.run .empty).isAttached (some 1) = true ∧
      (borrowedId.foldl Edit.run .empty).elementId (some 1) = some "x" ∧
      (borrowedId.foldl Edit.run .empty).elementId (some 2) = some "z" ∧
      (borrowedId.foldl Edit.run .empty).getById? "x" = none := by
  decide +kernel

end CoursePage
