import CoursePage.Pass.TagRename
import CoursePage.Proofs.Branch

/-!
Renaming tags is a map over the page: a node found gives way to a new node of the wanted name, and
everything else stays. The nodes are found before the first one is renamed, so a node may have a
new parent already when its turn comes.
-/

namespace CoursePage

open CoursePage.Tree (document)

/-- The same element under another name. -/
def Content.renamed (target : String) : Content → Content
  | .element e => .element { e with name := .html target }
  | c => c

/-- An element that agrees with its attributes keeps its id and classes under another name. -/
theorem Content.Synced.ofAttrs_eq {e : Element} (h : (Content.element e).Synced)
    (name : QualName) : Element.ofAttrs name e.attrs = { e with name } := by
  have he := h e rfl
  cases e with
  | mk old attrs id classes =>
    simp only [Element.ofAttrs, Element.mk.injEq, true_and] at he ⊢
    exact ⟨he.1.symm, he.2.symm⟩

namespace TagRename

/-- The node in the place of an old one, where nodes from `first` on replace those found. -/
def successor (first : NodeId) (found : List NodeId) (i : NodeId) : NodeId :=
  if i ∈ found then first + found.idxOf i else i

/-- What stands at a node after the nodes found are renamed. -/
def relabel (target : String) (first : NodeId) (found : List NodeId)
    (n : NodeId × Option Content) : NodeId × Option Content :=
  (successor first found n.1, if n.1 ∈ found then n.2.map (Content.renamed target) else n.2)

variable {first i m p : NodeId} {found : List NodeId} {target : String} {t t' : Tree}

theorem successor_of_not_mem (hi : i ∉ found) : successor first found i = i := if_neg hi

theorem le_successor (hi : i ∈ found) : first ≤ successor first found i := by
  rw [successor, if_pos hi]
  exact Nat.le_add_right _ _

theorem successor_lt (hi : i < first) : successor first found i < first + found.length := by
  unfold successor
  split
  · exact Nat.add_lt_add_left (List.idxOf_lt_length_of_mem ‹_›) _
  · exact Nat.lt_add_right _ hi

theorem successor_eq_iff (hm : m < first) (hn : m ∉ found) :
    successor first found i = m ↔ i = m := by
  by_cases hi : i ∈ found
  · have hne : successor first found i ≠ m := Nat.ne_of_gt (Nat.lt_of_lt_of_le hm (le_successor hi))
    exact iff_of_false hne fun he => hn (he ▸ hi)
  · rw [successor_of_not_mem hi]

/-- Renaming one node more exchanges that node for the next new one. -/
theorem successor_concat (hi : i < first) (hm : m < first) :
    successor first (found ++ [m]) i = exchange m (first + found.length)
      (successor first found i) := by
  by_cases hf : i ∈ found
  · have hne : successor first found i ≠ m := Nat.ne_of_gt (Nat.lt_of_lt_of_le hm (le_successor hf))
    rw [exchange, if_neg hne]
    simp [successor, hf, List.idxOf_append_of_mem hf]
  · rw [successor_of_not_mem hf]
    by_cases he : i = m
    · subst i
      simp [successor, exchange, List.idxOf_append_of_notMem hf]
    · simp [successor, exchange, hf, he]

theorem content?_renameOne (m : NodeId) (k : Link) : (renameOne target t m).content? k =
    if k = some t.size then some (.element (.ofAttrs (.html target) (t.attrs (some m))))
    else t.content? k := by
  simp [renameOne, Tree.content?_createElement]

/-- Renaming a child puts the new node in its place and its children below the new node. -/
theorem forest_renameOne (target : String) (h : Sound t) (hm : m ∈ t.children (some p)) :
    Forest (renameOne target t m) (fun q =>
      ((if q = m then [] else t.children (some q)) ++
        if q = t.size then t.children (some m) else []).map (exchange m t.size)) := by
  have hf : Forest (t.createElement (.html target) (t.attrs (some m))).2 _ :=
    h.forest.createElement _ _
  have hmp := h.forest.parent_of_mem hm
  have hms := h.forest.lt_size_of_mem hm
  have hne : t.size ≠ m := Nat.ne_of_gt hms
  have hnew : ∀ {q}, t.size ∉ t.children (some q) := fun hc =>
    Nat.lt_irrefl _ (h.forest.lt_size_of_mem hc)
  have hup := h.forest.trail_congr hf (h.forest.up p) fun _ _ _ => Iff.rfl
  have hmu : m ∉ p :: t.ancestors (some p) := fun hu => (h.forest.up p).step_ne_start hu hmp
  -- Nothing on the way up from the node's parent moves together with the node's children.
  have hku : ∀ i ∈ p :: t.ancestors (some p), i ∉ t.children (some m) := fun i hi hc =>
    hmu (List.mem_cons_of_mem p (h.forest.mem_ancestors_iff.mpr ⟨i, hi, h.forest.parent_of_mem hc⟩))
  have hnu : t.size ∉ p :: t.ancestors (some p) := fun hu =>
    Nat.lt_irrefl _ (h.forest.lt_size_of_mem_up (h.forest.parent_lt_size hm) hu)
  have hroot : Trail (t.createElement (.html target) (t.attrs (some m))).2.parent (some t.size)
      [t.size] := by
    refine .cons _ _ ?_
    rw [h.forest.parent_congr hf fun _ => Iff.rfl,
      Tree.parent_eq_none_of_size_le (Nat.le_refl _)]
    exact .nil
  have hf' := hf.moveChildren m (by simp) hroot fun c hc he => hnew (List.mem_singleton.mp he ▸ hc)
  have hup' := hf.trail_congr hf' hup fun i hi q => by
    have := hku i hi
    by_cases hq : q = m <;> by_cases hq' : q = t.size <;> simp_all
  have hpm : p ≠ m := fun he => hmu (he ▸ List.mem_cons_self)
  have hr := hf'.replace (by simp [hpm, hm]) (by simp) hup' hnu hne
  refine hr.of_eq fun q => ?_
  rw [List.erase_of_not_mem]
  by_cases hq : q = m <;> by_cases hq' : q = t.size <;> simp [hq, hq', hnew]

/-- Renaming a child keeps a tree sound. -/
theorem sound_renameOne (target : String) (h : Sound t) (hm : m ∈ t.children (some p)) :
    Sound (renameOne target t m) := by
  have h1 := h.createElement (.html target) (t.attrs (some m))
  refine h1.of_links (forest_renameOne target h hm) (fun q hd => ?_) (by simp [renameOne])
  obtain ⟨c, hc, he⟩ := List.mem_map.mp hd
  unfold exchange at he
  split at he
  · exact Nat.ne_of_gt h.zero_lt_size he
  · subst he
    by_cases hq : q = m <;> by_cases hq' : q = t.size <;> simp_all [h.document_not_mem]

/-- The tree `t` after the nodes found so far are renamed. -/
structure Stage (target : String) (t : Tree) (found : List NodeId) (t' : Tree) : Prop where
  sound : Sound t'
  size : t'.size = t.size + found.length
  children : ∀ i < t.size, t'.children (some (successor t.size found i)) =
    (t.children (some i)).map (successor t.size found)
  childless : ∀ m ∈ found, t'.children (some m) = []
  loose : ∀ m ∈ found, t'.parent (some m) = none
  kept : ∀ i < t.size, t'.content? (some i) = t.content? (some i)
  made : ∀ m ∈ found, t'.content? (some (successor t.size found m)) =
    (t.content? (some m)).map (Content.renamed target)

namespace Stage

theorem refl (h : Sound t) : Stage target t [] t where
  sound := h
  size := rfl
  children i _ := by
    have hid : ∀ i, successor t.size [] i = id i := fun i => successor_of_not_mem (by simp)
    rw [hid, funext hid, List.map_id]
    rfl
  childless := by simp
  loose := by simp
  kept _ _ := rfl
  made := by simp

/-- A child that is not renamed yet is still a child, of what is now in its parent's place. -/
theorem mem_children (h : Stage target t found t') (hp : p < t.size) (hn : m ∉ found)
    (hm : m ∈ t.children (some p)) :
    m ∈ t'.children (some (successor t.size found p)) := by
  rw [h.children p hp]
  exact List.mem_map.mpr ⟨m, hm, successor_of_not_mem hn⟩

theorem le_size (h : Stage target t found t') : t.size ≤ t'.size :=
  h.size ▸ Nat.le_add_right _ _

theorem ne_size (h : Stage target t found t') (hi : i < t.size) : i ≠ t'.size :=
  Nat.ne_of_lt (Nat.lt_of_lt_of_le hi h.le_size)

theorem successor_ne_size (h : Stage target t found t') (hi : i < t.size) :
    successor t.size found i ≠ t'.size :=
  Nat.ne_of_lt (h.size ▸ successor_lt hi)

/-- The next new node is the one that takes the place of the next node found. -/
theorem successor_concat (h : Stage target t found t') (hi : i < t.size) (hm : m < t.size) :
    successor t.size (found ++ [m]) i = exchange m t'.size (successor t.size found i) := by
  rw [TagRename.successor_concat hi hm, h.size]

theorem step_children (ht : Sound t) (h : Stage target t found t') (hn : m ∉ found)
    (hm : m ∈ t.children (some p)) (hi : i < t.size) :
    (renameOne target t' m).children (some (successor t.size (found ++ [m]) i)) =
      (t.children (some i)).map (successor t.size (found ++ [m])) := by
  have hms := ht.forest.lt_size_of_mem hm
  have hr := forest_renameOne target h.sound (h.mem_children (ht.forest.parent_lt_size hm) hn hm)
  have hmap : (t.children (some i)).map (successor t.size (found ++ [m])) =
      (t'.children (some (successor t.size found i))).map (exchange m t'.size) := by
    rw [h.children i hi, List.map_map]
    exact List.map_congr_left fun c hc => h.successor_concat (ht.forest.lt_size_of_mem hc) hms
  rw [hr.children_eq, hmap, h.successor_concat hi hms]
  by_cases him : i = m
  · subst i
    have hnew := h.sound.children_eq_nil_of_size_le (Nat.le_refl _)
    simp [successor_of_not_mem hn, exchange, hnew]
  · have hne : successor t.size found i ≠ m := mt (successor_eq_iff hms hn).mp him
    simp [exchange, hne, h.successor_ne_size hi]

theorem step_childless (ht : Sound t) (h : Stage target t found t') (hn : m ∉ found)
    (hm : m ∈ t.children (some p)) {x : NodeId} (hx : x ∈ found ++ [m]) (hxs : x < t.size) :
    (renameOne target t' m).children (some x) = [] := by
  have hr := forest_renameOne target h.sound (h.mem_children (ht.forest.parent_lt_size hm) hn hm)
  rw [hr.children_eq]
  by_cases hxm : x = m
  · subst x
    simp [h.ne_size hxs]
  · have hxf : x ∈ found := by simpa [hxm] using hx
    simp [hxm, h.ne_size hxs, h.childless x hxf]

theorem step_loose (ht : Sound t) (h : Stage target t found t') (hn : m ∉ found)
    (hm : m ∈ t.children (some p)) {x : NodeId} (hx : x ∈ found ++ [m]) (hxs : x < t.size) :
    (renameOne target t' m).parent (some x) = none := by
  have hr := forest_renameOne target h.sound (h.mem_children (ht.forest.parent_lt_size hm) hn hm)
  cases hq : (renameOne target t' m).parent (some x) with
  | none => rfl
  | some q =>
    obtain ⟨c, hc, hcx⟩ := List.mem_map.mp (hr.listed q x hq)
    unfold exchange at hcx
    split at hcx
    · exact absurd hcx.symm (h.ne_size hxs)
    · subst hcx
      have hxf : c ∈ found := by simp_all
      have hloose := fun q => h.sound.forest.loose_not_mem (p := q) (h.loose c hxf)
      by_cases hq : q = m <;> by_cases hq' : q = t'.size <;> simp_all

theorem step_made (ht : Sound t) (h : Stage target t found t') (hn : m ∉ found) {e : Element}
    (he : t.element? (some m) = some e) {x : NodeId} (hx : x ∈ found ++ [m]) (hxs : x < t.size) :
    (renameOne target t' m).content? (some (successor t.size (found ++ [m]) x)) =
      (t.content? (some x)).map (Content.renamed target) := by
  have hc := Tree.content?_of_element? he
  have hms := Tree.lt_size_of_element? he
  rw [content?_renameOne, h.successor_concat hxs hms]
  by_cases hxm : x = m
  · subst x
    have ha : t'.attrs (some m) = e.attrs := by
      simp [Tree.attrs, Tree.element?_eq, h.kept m hms, hc, Content.element?]
    simp [successor_of_not_mem hn, exchange, hc, ha, Content.renamed,
      (ht.synced m _ hc).ofAttrs_eq]
  · have hxf : x ∈ found := by simpa [hxm] using hx
    have hne : successor t.size found x ≠ m := mt (successor_eq_iff hms hn).mp hxm
    simp [exchange, hne, h.successor_ne_size hxs, h.made x hxf]

/-- Renaming one more element of the old tree leads to the next stage. -/
theorem step (ht : Sound t) (h : Stage target t found t') (hf : ∀ x ∈ found, x < t.size)
    (hn : m ∉ found) (hm : m ∈ t.children (some p)) {e : Element}
    (he : t.element? (some m) = some e) :
    Stage target t (found ++ [m]) (renameOne target t' m) := by
  have hold : ∀ x ∈ found ++ [m], x < t.size := by
    intro x hx
    rcases List.mem_append.mp hx with hx | hx
    · exact hf x hx
    · exact List.mem_singleton.mp hx ▸ ht.forest.lt_size_of_mem hm
  refine ⟨sound_renameOne target h.sound (h.mem_children (ht.forest.parent_lt_size hm) hn hm),
    ?size, fun i hi => h.step_children ht hn hm hi,
    fun x hx => h.step_childless ht hn hm hx (hold x hx),
    fun x hx => h.step_loose ht hn hm hx (hold x hx), ?kept,
    fun x hx => h.step_made ht hn he hx (hold x hx)⟩
  case size => simp [renameOne, h.size, Nat.add_assoc]
  case kept =>
    intro i hi
    rw [content?_renameOne, if_neg, h.kept i hi]
    simpa using h.ne_size hi

/-- Renaming elements one after the other leads through all stages. -/
theorem run (target : String) (ht : Sound t) (hn : found.Nodup)
    (hf : ∀ m ∈ found, (∃ p, m ∈ t.children (some p)) ∧ ∃ e, t.element? (some m) = some e) :
    Stage target t found (found.foldl (renameOne target) t) := by
  induction found using List.reverseRecOn with
  | nil => exact .refl ht
  | append_singleton found m ih =>
    rw [List.nodup_append] at hn
    have hf' := fun x hx => hf x (List.mem_append_left [m] hx)
    obtain ⟨⟨p, hm⟩, e, he⟩ := hf m (by simp)
    rw [List.foldl_append, List.foldl_cons, List.foldl_nil]
    refine (ih hn.1 hf').step ht (fun x hx => ?_) (fun hm => hn.2.2 m hm m (by simp) rfl) hm he
    obtain ⟨⟨q, hq⟩, _⟩ := hf' x hx
    exact ht.forest.lt_size_of_mem hq

/-- What stands at the node in the place of an old one. -/
theorem content? (h : Stage target t found t') (hi : i < t.size) :
    (successor t.size found i, t'.content? (some (successor t.size found i))) =
      relabel target t.size found (i, t.content? (some i)) := by
  by_cases hf : i ∈ found
  · simp [relabel, hf, h.made i hf]
  · simp [relabel, hf, successor_of_not_mem hf, h.kept i hi]

/-- Down to every depth the new branches are the old ones relabelled. -/
theorem branchTo (ht : Sound t) (h : Stage target t found t') (depth : Nat) (hi : i < t.size) :
    t'.branchTo depth (successor t.size found i) =
      (t.branchTo depth i).map (relabel target t.size found) := by
  induction depth generalizing i with
  | zero => simp [Tree.branchTo, h.content? hi]
  | succ depth ih =>
    rw [Tree.branchTo, Tree.branchTo, Branch.map_node, h.content? hi, h.children i hi,
      List.map_map, List.map_map]
    congr 1
    exact List.map_congr_left fun c hc => ih (ht.forest.lt_size_of_mem hc)

/-- The branch that stands in the place of an old one is the old one relabelled. -/
theorem branch (ht : Sound t) (h : Stage target t found t') (hi : i < t.size) :
    t'.branch (successor t.size found i) = (t.branch i).map (relabel target t.size found) := by
  rw [Tree.branch, h.branchTo ht t'.size hi, ht.branchTo_eq_branch]
  exact h.size ▸ Nat.le_add_right _ _

theorem page (ht : Sound t) (h : Stage target t found t') (hd : document ∉ found) :
    t'.page = t.page.map (relabel target t.size found) := by
  have hb := h.branch ht ht.zero_lt_size
  rwa [successor_of_not_mem hd] at hb

theorem not_isAttached (h : Stage target t found t') (hd : document ∉ found) (hm : m ∈ found) :
    t'.isAttached (some m) = false := by
  rw [Bool.eq_false_iff, Ne, h.sound.isAttached_iff, h.sound.mem_within_iff,
    h.sound.ancestors_of_loose (h.loose m hm)]
  exact fun hx => hd (List.mem_singleton.mp hx ▸ hm)

end Stage

/-- A tree in which the elements found carry another name. -/
structure Renamed (target : String) (found : List NodeId) (t t' : Tree) : Prop where
  /-- The attached tree is the old one, except that new elements stand for those found. They have
  the wanted name and what else the old ones carry. -/
  page : t'.page = t.page.map (relabel target t.size found)
  /-- No old node changes what it carries, attached or not. -/
  kept : ∀ i < t.size, t'.content? (some i) = t.content? (some i)
  /-- Lists of children keep their order, attached or not. -/
  children : ∀ i < t.size, t'.children (some (successor t.size found i)) =
    (t.children (some i)).map (successor t.size found)
  detached : ∀ m ∈ found, t'.isAttached (some m) = false
  childless : ∀ m ∈ found, t'.children (some m) = []

end TagRename

namespace Sound

variable {t : Tree}

/-- The pass goes through all stages. -/
theorem stage_renameTags (h : Sound t) (s : TagSettings) {source : Selector}
    (hs : Selector.parse s.source = .ok source) :
    TagRename.Stage s.target t (t.select source) (renameTags s t).tree := by
  rw [renameTags_of_parse hs]
  exact TagRename.Stage.run s.target h (h.nodup_select source) fun m hm => h.mem_select hm

end Sound

/-- The pass renames the elements that the source selects, and nothing else. -/
theorem Built.renamed_renameTags {t : Tree} (h : Built t) (s : TagSettings) {source : Selector}
    (hs : Selector.parse s.source = .ok source) :
    (renameTags s t).result = .ok (t.select source).length ∧
      TagRename.Renamed s.target (t.select source) t (renameTags s t).tree := by
  have ht := h.sound
  have hd := ht.document_not_mem_select source
  have hst := ht.stage_renameTags s hs
  refine ⟨?_, hst.page ht hd, hst.kept, hst.children, fun m hm => hst.not_isAttached hd hm,
    hst.childless⟩
  rw [renameTags_of_parse hs]

/-- A tag with a class that holds two neighbours of its kind, the second one with a text. -/
def nestedTags : List Edit :=
  [.createElement (.html "p") [], .append 0 1, .createElement (.html "tt") [.plain "class" "a b"],
    .append 1 2, .createElement (.html "tt") [], .append 2 3, .createElement (.html "tt") [],
    .append 2 4, .createText "x", .append 4 5]

theorem renamed_nestedTags :
    ∃ source, Selector.parse "tt" = .ok source ∧ LegalRun .empty nestedTags ∧
      (nestedTags.foldl Edit.run .empty).select source = [2, 3, 4] ∧
      TagRename.Renamed "code" [2, 3, 4] (nestedTags.foldl Edit.run .empty)
        (renameTags {} (nestedTags.foldl Edit.run .empty)).tree := by
  have hl : LegalRun .empty nestedTags := by decide +kernel
  have hf : (Selector.parse "tt").toOption.map (nestedTags.foldl Edit.run .empty).select =
      some [2, 3, 4] := by decide +kernel
  obtain ⟨source, hp, hs⟩ := Selector.parse_of_select hf
  have hr := (Built.empty.run hl).renamed_renameTags {} hp
  rw [hs] at hr
  exact ⟨source, hp, hl, hs, hr.2⟩

end CoursePage
