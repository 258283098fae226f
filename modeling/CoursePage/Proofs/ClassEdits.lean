import CoursePage.Proofs.Calls
import CoursePage.Proofs.Tabs

/-!
The class tokens of an element as an ordered set. A token is added at the end unless it is there,
and is removed wherever it stands. The tokens are joined to one text and cut apart when it is read
again, so the laws are about tokens that a text can hold and elements with at most one `class`.
-/

namespace CoursePage

namespace Element

variable {e e' : Element} {tokens : List String} {token : String}

/-- `e'` is `e` with other class tokens. -/
structure Reclassed (e e' : Element) (tokens : List String) : Prop where
  classes : e'.classes = tokens
  name : e'.name = e.name
  id : e'.id = e.id
  others : e'.attrs.filter (fun a => a.name.name != "class") =
    e.attrs.filter fun a => a.name.name != "class"

namespace Reclassed

/-- A write of `class`, or none, changes the tokens alone. -/
theorem of_write (h : e.Regular) (hw : e' = e ∨ ∃ value, e' = e.withAttr "class" value)
    (hc : e'.classes = tokens) : Reclassed e e' tokens := by
  rcases hw with rfl | ⟨value, rfl⟩
  · exact ⟨hc, rfl, rfl, rfl⟩
  · exact ⟨hc, rfl, id_withAttr_class h.synced value,
      filter_assign (p := fun n => n != "class") (by simp) value _⟩

theorem addClass (h : e.Regular) (ht : Text.IsToken token) : Reclassed e (e.addClass token)
    (if token ∈ e.classes then e.classes else e.classes ++ [token]) := by
  refine of_write h ?_ (classes_addClass h ht)
  unfold Element.addClass
  split
  · exact Or.inl rfl
  · exact Or.inr ⟨_, rfl⟩

theorem removeClass (h : e.Regular) (token : String) :
    Reclassed e (e.removeClass token) (e.classes.filter fun c => c != token) := by
  refine of_write h ?_ (classes_removeClass h)
  unfold Element.removeClass
  split
  · exact Or.inr ⟨_, rfl⟩
  · exact Or.inl rfl

end Reclassed

end Element

namespace Tree

variable {t t' t'' : Tree} {i : NodeId} {e e' : Element} {c : String} {tokens tokens' : List String}

theorem element?_addClass (he : t.element? (some i) = some e) (c : String) :
    (t.addClass (some i) c).element? (some i) = some (e.addClass c) := by
  have hc := content?_addClass he c (some i)
  rw [if_pos rfl] at hc
  exact element?_of_content? hc

theorem element?_removeClass (he : t.element? (some i) = some e) (c : String) :
    (t.removeClass (some i) c).element? (some i) = some (e.removeClass c) := by
  have hc := content?_removeClass he c (some i)
  rw [if_pos rfl] at hc
  exact element?_of_content? hc

/-- `t'` is `t` with other class tokens at one element. -/
structure Reclassed (t t' : Tree) (i : NodeId) (tokens : List String) : Prop where
  classes : t'.classes (some i) = tokens
  /-- The text that is left in the attribute is cut into the same tokens. -/
  written : ((t'.attr? (some i) "class").map Text.blankWords).getD [] = tokens
  /-- All other attributes have the same values in the same order. -/
  others : (t'.attrs (some i)).filter (fun a => a.name.name != "class") =
    (t.attrs (some i)).filter fun a => a.name.name != "class"
  name : t'.elementName (some i) = t.elementName (some i)
  id : t'.elementId (some i) = t.elementId (some i)
  rest : ∀ k, k ≠ some i → t'.get? k = t.get? k
  links : Forest.SameLinks t t'
  size : t'.size = t.size

namespace Reclassed

theorem trans (h : Reclassed t t' i tokens) (h' : Reclassed t' t'' i tokens') :
    Reclassed t t'' i tokens' where
  classes := h'.classes
  written := h'.written
  others := h'.others.trans h.others
  name := h'.name.trans h.name
  id := h'.id.trans h.id
  rest k hk := (h'.rest k hk).trans (h.rest k hk)
  links := h.links.trans h'.links
  size := h'.size.trans h.size

theorem of_write (hw : t' = t ∨ ∃ value, t' = t.setAttr (some i) "class" value)
    (ht' : t'.Regular) (he : t.element? (some i) = some e) (he' : t'.element? (some i) = some e')
    (h : e.Reclassed e' tokens) : Reclassed t t' i tokens where
  classes := by simp [Tree.classes, he', h.classes]
  written := by
    rw [← ht'.cachesAgree.classes, Tree.classes, he']
    exact h.classes
  others := by simpa [attrs, he, he'] using h.others
  name := by simp [elementName, he, he', h.name]
  id := by simp [elementId, he, he', h.id]
  rest k hk := by
    rcases hw with rfl | ⟨value, rfl⟩
    · rfl
    · exact get?_setAttr_of_ne hk _ value
  links := by
    rcases hw with rfl | ⟨value, rfl⟩
    · exact .refl t'
    · exact Forest.sameLinks_setAttr t _ _ value
  size := by
    rcases hw with rfl | ⟨value, rfl⟩
    · rfl
    · exact size_setAttr t _ _ value

theorem addClass (ht : t.Regular) (he : t.element? (some i) = some e) (hc : Text.IsToken c) :
    Reclassed t (t.addClass (some i) c) i
      (if c ∈ t.classes (some i) then t.classes (some i) else t.classes (some i) ++ [c]) := by
  have hcs : t.classes (some i) = e.classes := by simp [Tree.classes, he]
  refine of_write ?_ (ht.addClass _ c) he (element?_addClass he c) (hcs ▸ .addClass (ht _ e he) hc)
  unfold Tree.addClass
  split
  · exact Or.inl rfl
  · exact Or.inr ⟨_, rfl⟩

theorem removeClass (ht : t.Regular) (he : t.element? (some i) = some e) (c : String) :
    Reclassed t (t.removeClass (some i) c) i
      ((t.classes (some i)).filter fun d => d != c) := by
  have hcs : t.classes (some i) = e.classes := by simp [Tree.classes, he]
  refine of_write ?_ (ht.removeClass _ c) he (element?_removeClass he c)
    (hcs ▸ .removeClass (ht _ e he) c)
  unfold Tree.removeClass
  split
  · exact Or.inr ⟨_, rfl⟩
  · exact Or.inl rfl

end Reclassed

theorem addClass_of_mem (h : c ∈ t.classes (some i)) : t.addClass (some i) c = t := by
  simp [addClass, hasClass, h]

theorem removeClass_of_not_mem {l : Link} (h : c ∉ t.classes l) : t.removeClass l c = t := by
  simp [removeClass, hasClass, h]

/-- What adding and removing a token does to the class tokens of an element. -/
structure ClassEdits (t : Tree) (i : NodeId) (c : String) : Prop where
  added : Reclassed t (t.addClass (some i) c) i
    (if c ∈ t.classes (some i) then t.classes (some i) else t.classes (some i) ++ [c])
  removed : Reclassed t (t.removeClass (some i) c) i
    ((t.classes (some i)).filter fun d => d != c)
  present : c ∈ t.classes (some i) → t.addClass (some i) c = t
  absent : c ∉ t.classes (some i) → t.removeClass (some i) c = t
  addedTwice : (t.addClass (some i) c).addClass (some i) c = t.addClass (some i) c
  removedTwice : (t.removeClass (some i) c).removeClass (some i) c = t.removeClass (some i) c
  inserts : ∀ d, (t.addClass (some i) c).hasClass (some i) d = (d == c || t.hasClass (some i) d)
  deletes : ∀ d,
    (t.removeClass (some i) c).hasClass (some i) d = (d != c && t.hasClass (some i) d)
  /-- A token that was not there and is added and removed again leaves the tokens as they were. -/
  undone : c ∉ t.classes (some i) →
    Reclassed t ((t.addClass (some i) c).removeClass (some i) c) i (t.classes (some i))

theorem classEdits_of_regular (ht : t.Regular) (he : t.element? (some i) = some e)
    (hc : Text.IsToken c) : ClassEdits t i c := by
  have hadd := Reclassed.addClass ht he hc
  have hremove := Reclassed.removeClass ht he c
  refine ⟨hadd, hremove, addClass_of_mem, removeClass_of_not_mem, addClass_of_mem ?twice,
    removeClass_of_not_mem ?gone, fun d => ?inserts, fun d => ?deletes, fun hn => ?undone⟩
  case twice =>
    rw [hadd.classes]
    split <;> simp [*]
  case gone => simp [hremove.classes]
  case inserts =>
    rw [hasClass, hadd.classes]
    split
    · by_cases hd : d = c <;> simp [hasClass, *]
    · simp [hasClass, Bool.or_comm, Bool.beq_eq_decide_eq]
  case deletes =>
    rw [hasClass, hremove.classes]
    by_cases hd : d = c <;> simp [hasClass, hd]
  case undone =>
    have hback := Reclassed.removeClass (ht.addClass _ c) (element?_addClass he c) c
    rw [hadd.classes, if_neg hn] at hback
    have hf : (t.classes (some i) ++ [c]).filter (fun d => d != c) = t.classes (some i) := by
      simpa using fun d hd (h : d = c) => hn (h ▸ hd)
    exact hadd.trans (hf ▸ hback)

end Tree

/-- On a page whose elements have no two attributes of one local name, the class tokens of every
element are an ordered set, and nodes that are no elements are not changed. -/
theorem Built.classEdits {t : Tree} (h : Built t) (hu : t.NamesDistinct) {c : String}
    (hc : Text.IsToken c) :
    (∀ i, t.isElement (some i) = true → t.ClassEdits i c) ∧
      ∀ l, t.isElement l = false → t.addClass l c = t ∧ t.removeClass l c = t := by
  have ht : t.Regular := by
    intro l e he
    cases l with
    | none => cases he
    | some i => exact h.sound.regular hu he
  constructor
  · intro i hi
    obtain ⟨e, he⟩ := Option.isSome_iff_exists.mp hi
    exact Tree.classEdits_of_regular ht he hc
  · intro l hl
    have hnone : t.element? l = none := by simpa [Tree.isElement] using hl
    refine ⟨by simp [Tree.addClass, hl], Tree.removeClass_of_not_mem ?_⟩
    simp [Tree.classes, hnone]

/-- An element with blanks of several kinds around its class tokens, one of them twice, a text in it
and an element without a class. -/
def spacedClasses : List Edit :=
  [.createElement (.html "p")
      [.plain "title" "t", .plain "class" " b\ta\u00a0 b\n", .plain "id" "x"],
    .append 0 1, .appendText 1 "b", .createElement (.html "i") [], .append 1 3]

theorem classEdits_spacedClasses :
    LegalRun .empty spacedClasses ∧
      (spacedClasses.foldl Edit.run .empty).NamesDistinct ∧ Text.IsToken "b" ∧
      (spacedClasses.foldl Edit.run .empty).isElement (some 1) = true ∧
      (spacedClasses.foldl Edit.run .empty).classes (some 1) = ["b", "a", "b"] ∧
      (spacedClasses.foldl Edit.run .empty).ClassEdits 1 "b" ∧
      (spacedClasses.foldl Edit.run .empty).ClassEdits 3 "b" ∧
      (spacedClasses.foldl Edit.run .empty).addClass (some 2) "b" =
        spacedClasses.foldl Edit.run .empty := by
  have hl : LegalRun .empty spacedClasses := by decide +kernel
  have hu : (spacedClasses.foldl Edit.run .empty).NamesDistinct := by
    have hall : ∀ i < 4, ∀ e ∈ (spacedClasses.foldl Edit.run .empty).element? (some i),
        (e.attrs.map fun a => a.name.name).Nodup := by decide +kernel
    exact fun i e hi => hall i (Tree.lt_size_of_element? hi) e hi
  have hb : Text.IsToken "b" := by decide
  obtain ⟨helement, hother⟩ := (Built.empty.run hl).classEdits hu hb
  exact ⟨hl, hu, hb, by decide +kernel, by decide +kernel, helement 1 (by decide +kernel),
    helement 3 (by decide +kernel), (hother (some 2) (by decide +kernel)).1⟩

end CoursePage
