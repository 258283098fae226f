import CoursePage.Proofs.IdIndex
import CoursePage.Proofs.Wrapping

/-!
Ids after tags are renamed. A new element takes the id of the element that it replaces, so the last
element renamed with an id is the one that the index knows, and an id that no renamed element has is
looked up as before. Every holder of an id is followed by one holder; whether the search finds it is
settled by the index, which the pass does not repair where it led to no holder.
-/

namespace CoursePage

open CoursePage.Tree (document)

/-- What the search finds is what the index knows, if it holds the id. -/
theorem Tree.getById?_eq_some_iff {t : Tree} {id : String} {i : NodeId} :
    t.getById? id = some i ↔ t.ids.lookup id = some i ∧ t.Holds id i := by
  rw [Tree.getById?, Option.filter_eq_some_iff, Bool.and_eq_true, beq_iff_eq, Tree.Holds]
  constructor
  · rintro ⟨hl, hid, hat⟩
    exact ⟨hl, hat, hid⟩
  · rintro ⟨hl, hat, hid⟩
    exact ⟨hl, hid, hat⟩

namespace TagRename

variable {target id : String} {found : List NodeId} {t t' : Tree} {i j m : NodeId}

/-- The new element claims the id that its attributes give. -/
theorem lookup_renameOne (target : String) (t : Tree) (m : NodeId) (id : String) :
    (renameOne target t m).ids.lookup id =
      if Element.lastValue? "id" (t.attrs (some m)) = some id then some t.size
      else t.ids.lookup id := by
  simp only [renameOne, Tree.ids_replace, Tree.ids_moveChildren]
  exact Tree.lookup_claimId _ _ id

/-- The elements found that have an id. -/
def holdersOf (t : Tree) (found : List NodeId) (id : String) : List NodeId :=
  found.filter fun n => t.elementId (some n) == some id

theorem mem_holdersOf : m ∈ holdersOf t found id ↔ m ∈ found ∧ t.elementId (some m) = some id := by
  rw [holdersOf, List.mem_filter, beq_iff_eq]

theorem holdersOf_concat (t : Tree) (found : List NodeId) (m : NodeId) (id : String) :
    holdersOf t (found ++ [m]) id =
      holdersOf t found id ++ if t.elementId (some m) = some id then [m] else [] := by
  by_cases hid : t.elementId (some m) = some id <;> simp [holdersOf, hid]

/-- One more element found keeps the places of the new elements that there are. -/
theorem successor_concat_of_mem {first : NodeId} (hm : m ∈ found) (n : NodeId) :
    successor first (found ++ [n]) m = successor first found m := by
  rw [successor, successor, if_pos (List.mem_append_left [n] hm), if_pos hm,
    List.idxOf_append_of_mem hm]

theorem successor_concat_self {first : NodeId} (hm : m ∉ found) :
    successor first (found ++ [m]) m = first + found.length := by
  rw [successor, if_pos (by simp), List.idxOf_append_of_notMem hm, List.idxOf_cons_self,
    Nat.add_zero]

/-- An old node has in every stage the attributes and the id that it had. -/
theorem Stage.claims (ht : Sound t) (h : Stage target t found t') {e : Element}
    (he : t.element? (some m) = some e) :
    Element.lastValue? "id" (t'.attrs (some m)) = t.elementId (some m) := by
  have hsame := Tree.element?_congr (h.kept m (Tree.lt_size_of_element? he))
  have hsynced := ht.synced m _ (Tree.content?_of_element? he) e rfl
  simp only [Tree.attrs, Tree.elementId, hsame, he, Option.map_some, Option.getD_some,
    Option.bind_some]
  exact (congrArg Element.id hsynced).symm

/-- The index leads from an id to the new element for the last one found that has the id, and where
it led before if there is none. -/
theorem lookup_run (target : String) (ht : Sound t) (hn : found.Nodup)
    (hf : ∀ m ∈ found, (∃ p, m ∈ t.children (some p)) ∧ ∃ e, t.element? (some m) = some e)
    (id : String) : (found.foldl (renameOne target) t).ids.lookup id =
      ((holdersOf t found id).getLast?.map (successor t.size found)).or (t.ids.lookup id) := by
  induction found using List.reverseRecOn with
  | nil => rfl
  | append_singleton found m ih =>
    rw [List.nodup_append] at hn
    have hm : m ∉ found := fun hm => hn.2.2 m hm m (by simp) rfl
    have hf' := fun x hx => hf x (List.mem_append_left [m] hx)
    obtain ⟨-, e, he⟩ := hf m (by simp)
    have hst := Stage.run target ht hn.1 hf'
    rw [List.foldl_append, List.foldl_cons, List.foldl_nil, lookup_renameOne, hst.claims ht he,
      ih hn.1 hf', hst.size, holdersOf_concat]
    by_cases hid : t.elementId (some m) = some id
    · simp [hid, successor_concat_self hm]
    · have hlast : (holdersOf t found id).getLast?.map (successor t.size (found ++ [m])) =
          (holdersOf t found id).getLast?.map (successor t.size found) := by
        apply Option.map_congr
        intro x hx
        exact successor_concat_of_mem (mem_holdersOf.mp (List.mem_of_getLast? hx)).1 m
      rw [if_neg hid, if_neg hid, List.append_nil, hlast]

namespace Stage

/-- What is in the place of an old node has the id that the node had. -/
theorem elementId (h : Stage target t found t') (hi : i < t.size) :
    t'.elementId (some (successor t.size found i)) = t.elementId (some i) := by
  by_cases hf : i ∈ found
  · rw [Tree.elementId, Tree.elementId, Tree.element?_eq, Tree.element?_eq, h.made i hf]
    cases t.content? (some i) with
    | none => rfl
    | some c => cases c <;> rfl
  · rw [successor_of_not_mem hf, Tree.elementId, Tree.elementId,
      Tree.element?_congr (h.kept i hi)]

/-- The holders of an id are those in the places of the holders that there were. -/
theorem holds_iff (ht : Sound t) (h : Stage target t found t') (hd : document ∉ found) :
    t'.Holds id j ↔ ∃ i, t.Holds id i ∧ j = successor t.size found i := by
  simp only [Tree.Holds, ht.isAttached_iff, h.sound.isAttached_iff, h.mem_within_iff ht hd]
  constructor
  · rintro ⟨⟨i, hi, rfl⟩, hid⟩
    have hlt := ht.lt_size_of_mem_within ht.zero_lt_size hi
    exact ⟨i, ⟨hi, (h.elementId hlt).symm.trans hid⟩, rfl⟩
  · rintro ⟨i, ⟨hi, hid⟩, rfl⟩
    have hlt := ht.lt_size_of_mem_within ht.zero_lt_size hi
    exact ⟨⟨i, hi, rfl⟩, (h.elementId hlt).trans hid⟩

/-- Where no holder is renamed the holders stay the same. -/
theorem holds_iff_of_none (ht : Sound t) (h : Stage target t found t') (hd : document ∉ found)
    (hnone : holdersOf t found id = []) : t'.Holds id j ↔ t.Holds id j := by
  have hself : ∀ i, t.Holds id i → successor t.size found i = i := by
    intro i hi
    apply successor_of_not_mem
    intro hf
    have hm : i ∈ holdersOf t found id := mem_holdersOf.mpr ⟨hf, hi.2⟩
    rw [hnone] at hm
    exact List.not_mem_nil hm
  rw [h.holds_iff ht hd]
  constructor
  · rintro ⟨i, hi, rfl⟩
    rw [hself i hi]
    exact hi
  · intro hj
    exact ⟨j, hj, (hself j hj).symm⟩

theorem getById?_eq (ht : Sound t) (h : Stage target t found t') (hd : document ∉ found)
    (hat : ∀ m ∈ found, t.isAttached (some m) = true)
    (hl : t'.ids.lookup id =
      ((holdersOf t found id).getLast?.map (successor t.size found)).or (t.ids.lookup id)) :
    t'.getById? id =
      ((holdersOf t found id).getLast?.map (successor t.size found)).or (t.getById? id) := by
  cases hlast : (holdersOf t found id).getLast? with
  | some m =>
    obtain ⟨hm, hid⟩ := mem_holdersOf.mp (List.mem_of_getLast? hlast)
    rw [hlast] at hl
    exact Tree.getById?_eq_some_iff.mpr ⟨hl, (h.holds_iff ht hd).mpr ⟨m, ⟨hat m hm, hid⟩, rfl⟩⟩
  | none =>
    rw [hlast] at hl
    apply Option.ext
    intro j
    change t'.getById? id = some j ↔ t.getById? id = some j
    rw [Tree.getById?_eq_some_iff, Tree.getById?_eq_some_iff, hl,
      h.holds_iff_of_none ht hd (List.getLast?_eq_none_iff.mp hlast)]
    rfl

end Stage

/-- How ids stand after tags are renamed. -/
structure IdsKept (found : List NodeId) (t t' : Tree) (id : String) : Prop where
  /-- In the place of each holder there is one holder, and there are no others. -/
  holders : ∀ j, t'.Holds id j ↔ ∃ i, t.Holds id i ∧ j = successor t.size found i
  /-- The last renamed holder is followed by the element that is found. Without a renamed holder the
  search finds what it found. -/
  result : t'.getById? id =
    ((holdersOf t found id).getLast?.map (successor t.size found)).or (t.getById? id)
  /-- If the search found something before, it finds a holder after. -/
  still : (∃ i, t.getById? id = some i) → ∃ j, t'.getById? id = some j ∧ t'.Holds id j
  /-- A sole holder that is renamed is followed by the element that is found. -/
  renamed : ∀ i ∈ found, t.Holds id i → (∀ j, t.Holds id j → j = i) →
    t'.getById? id = some (successor t.size found i)
  /-- A sole holder that is not renamed is found exactly if the search found something before. -/
  left : ∀ i ∉ found, t.Holds id i → (∀ j, t.Holds id j → j = i) →
    (t'.getById? id = some i ↔ ∃ j, t.getById? id = some j)

/-- What the search finds after the pass settles the rest. -/
theorem idsKept (hat : ∀ m ∈ found, t.isAttached (some m) = true)
    (hh : ∀ j, t'.Holds id j ↔ ∃ i, t.Holds id i ∧ j = successor t.size found i)
    (hr : t'.getById? id =
      ((holdersOf t found id).getLast?.map (successor t.size found)).or (t.getById? id)) :
    IdsKept found t t' id := by
  have honly : ∀ i, (∀ j, t.Holds id j → j = i) → ∀ m ∈ holdersOf t found id, m = i := by
    intro i hone m hm
    obtain ⟨hf, hid⟩ := mem_holdersOf.mp hm
    exact hone m ⟨hat m hf, hid⟩
  refine ⟨hh, hr, ?still, ?renamed, ?left⟩
  case still =>
    rintro ⟨i, hi⟩
    have hsome : ∃ j, t'.getById? id = some j := by
      rw [hr, hi]
      cases (holdersOf t found id).getLast? with
      | some m => exact ⟨_, rfl⟩
      | none => exact ⟨i, rfl⟩
    obtain ⟨j, hj⟩ := hsome
    exact ⟨j, hj, (Tree.getById?_eq_some_iff.mp hj).2⟩
  case renamed =>
    intro i hf hi hone
    have hm : i ∈ holdersOf t found id := mem_holdersOf.mpr ⟨hf, hi.2⟩
    have hne := List.ne_nil_of_mem hm
    rw [hr, List.getLast?_eq_some_getLast hne, honly i hone _ (List.getLast_mem hne)]
    rfl
  case left =>
    intro i hf hi hone
    have hnone : holdersOf t found id = [] := by
      apply List.eq_nil_iff_forall_not_mem.mpr
      intro m hm
      exact hf (honly i hone m hm ▸ (mem_holdersOf.mp hm).1)
    have hsame : t'.getById? id = t.getById? id := by
      rw [hr, hnone]
      rfl
    rw [hsame]
    constructor
    · intro hfound
      exact ⟨i, hfound⟩
    · rintro ⟨j, hj⟩
      rw [hj, hone j (Tree.getById?_eq_some_iff.mp hj).2]

end TagRename

/-- The holders of an id keep their places when tags are renamed, and one of them is found if one
was found before or if one of them is new. -/
theorem Built.idsKept_renameTags {t : Tree} (h : Built t) (s : TagSettings) {source : Selector}
    (hs : Selector.parse s.source = .ok source) (id : String) :
    TagRename.IdsKept (t.select source) t (renameTags s t).tree id := by
  have ht := h.sound
  have hd := ht.document_not_mem_select source
  have hst := ht.stage_renameTags s hs
  have hat : ∀ m ∈ t.select source, t.isAttached (some m) = true :=
    fun _ hm => ht.isAttached_of_mem_select hm
  have hlookup : (renameTags s t).tree.ids.lookup id =
      ((TagRename.holdersOf t (t.select source) id).getLast?.map
        (TagRename.successor t.size (t.select source))).or (t.ids.lookup id) := by
    rw [renameTags_of_parse hs]
    exact TagRename.lookup_run s.target ht (ht.nodup_select source)
      (fun _ hm => ht.mem_select hm) id
  exact TagRename.idsKept hat (fun _ => hst.holds_iff ht hd) (hst.getById?_eq ht hd hat hlookup)

/-- Tags in one another with one id, and a paragraph between them with another one. -/
def nestedIds : List Edit :=
  [.createElement (.html "tt") [.plain "id" "x"], .append 0 1,
    .createElement (.html "p") [.plain "id" "y"], .append 1 2,
    .createElement (.html "tt") [.plain "id" "x"], .append 2 3]

theorem idsKept_nestedIds :
    ∃ source, Selector.parse "tt" = .ok source ∧ LegalRun .empty nestedIds ∧
      (nestedIds.foldl Edit.run .empty).select source = [1, 3] ∧
      (nestedIds.foldl Edit.run .empty).getById? "x" = some 3 ∧
      (renameTags {} (nestedIds.foldl Edit.run .empty)).tree.getById? "x" = some 5 ∧
      ∀ id, TagRename.IdsKept [1, 3] (nestedIds.foldl Edit.run .empty)
        (renameTags {} (nestedIds.foldl Edit.run .empty)).tree id := by
  have hl : LegalRun .empty nestedIds := by decide +kernel
  have hf : (Selector.parse "tt").toOption.map (nestedIds.foldl Edit.run .empty).select =
      some [1, 3] := by decide +kernel
  obtain ⟨source, hp, hfound⟩ := Selector.parse_of_select hf
  refine ⟨source, hp, hl, hfound, by decide +kernel, by decide +kernel, ?_⟩
  intro id
  rw [← hfound]
  exact (Built.empty.run hl).idsKept_renameTags {} hp id

/-- Two elements with one id, of which the later one is taken out again, and a tag. -/
def outlivedId : List Edit :=
  [.createElement (.html "p") [.plain "id" "x"], .append 0 1,
    .createElement (.html "div") [.plain "id" "x"], .append 0 2, .detach 2,
    .createElement (.html "tt") [], .append 0 3]

/-- The paragraph is the only attached element with the id. It is no tag, and neither before nor
after the tag is renamed is it found. -/
theorem getById?_outlivedId :
    LegalRun .empty outlivedId ∧
      ((Selector.parse "tt").toOption.map (outlivedId.foldl Edit.run .empty).select) = some [3] ∧
      (∀ i < (outlivedId.foldl Edit.run .empty).size,
        ((outlivedId.foldl Edit.run .empty).isAttached (some i) = true ∧
          (outlivedId.foldl Edit.run .empty).elementId (some i) = some "x") ↔ i = 1) ∧
      (renameTags {} (outlivedId.foldl Edit.run .empty)).result = .ok 1 ∧
      (renameTags {} (outlivedId.foldl Edit.run .empty)).tree.isAttached (some 1) = true ∧
      (renameTags {} (outlivedId.foldl Edit.run .empty)).tree.elementId (some 1) = some "x" ∧
      (renameTags {} (outlivedId.foldl Edit.run .empty)).tree.getById? "x" = none := by
  decide +kernel

end CoursePage
