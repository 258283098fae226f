import CoursePage.Proofs.Edits

/-!
The trees that edits build from the empty page, and what holds of all of them: the five links of
every node agree with one another and with its children, and cached values agree with attributes.
-/

namespace CoursePage

open CoursePage.Tree (document)

/-- One edit of a tree. -/
inductive Edit where
  | createElement (name : QualName) (attrs : List Attribute)
  | createText (text : String)
  | createComment (text : String)
  | createDoctype (name publicId systemId : String)
  | append (parent child : NodeId)
  | insertBefore (sibling node : NodeId)
  | appendText (parent : NodeId) (text : String)
  | detach (target : NodeId)
  | replace (old node : NodeId)
  | moveChildren (source target : NodeId)
  | setAttr (node : NodeId) (name value : String)
  | addClass (node : NodeId) (token : String)
  | removeClass (node : NodeId) (token : String)
  deriving DecidableEq, Repr

namespace Edit

def run (t : Tree) : Edit → Tree
  | createElement name attrs => (t.createElement name attrs).2
  | createText text => (t.createText text).2
  | createComment text => (t.createComment text).2
  | createDoctype name publicId systemId => (t.createDoctype name publicId systemId).2
  | append parent child => t.append (some parent) (some child)
  | insertBefore sibling node => t.insertBefore (some sibling) (some node)
  | appendText parent text => t.appendText (some parent) text
  | detach target => t.detach (some target)
  | replace old node => t.replace (some old) (some node)
  | moveChildren source target => t.moveChildren (some source) (some target)
  | setAttr node name value => t.setAttr (some node) name value
  | addClass node token => t.addClass (some node) token
  | removeClass node token => t.removeClass (some node) token

/-- What an edit asks of the tree: its nodes exist, a node that gets a place has none yet unless
it gives the old one up, and no node is put below itself. -/
def Legal (t : Tree) : Edit → Prop
  | createElement .. | createText _ | createComment _ | createDoctype .. => True
  | append parent child =>
    parent < t.size ∧ child < t.size ∧ t.parent (some child) = none ∧ child ≠ document ∧
      child ∉ parent :: t.ancestors (some parent)
  | insertBefore sibling node =>
    sibling < t.size ∧ node < t.size ∧ t.parent (some sibling) ≠ none ∧
      t.parent (some node) = none ∧ node ≠ document ∧ node ∉ sibling :: t.ancestors (some sibling)
  | appendText parent _ => parent < t.size
  | detach target => target < t.size
  | replace old node =>
    old < t.size ∧ node < t.size ∧ node ≠ document ∧ node ∉ old :: t.ancestors (some old)
  | moveChildren source target =>
    source < t.size ∧ target < t.size ∧ source ∉ t.ancestors (some target)
  | setAttr node .. | addClass node _ | removeClass node _ => node < t.size

instance (t : Tree) : (e : Edit) → Decidable (e.Legal t)
  | createElement .. | createText _ | createComment _ | createDoctype .. =>
    inferInstanceAs (Decidable True)
  | append .. => inferInstanceAs (Decidable (_ ∧ _ ∧ _ ∧ _ ∧ _))
  | insertBefore .. => inferInstanceAs (Decidable (_ ∧ _ ∧ _ ∧ _ ∧ _ ∧ _))
  | appendText .. | detach _ | setAttr .. | addClass .. | removeClass .. =>
    inferInstanceAs (Decidable (_ < _))
  | replace .. => inferInstanceAs (Decidable (_ ∧ _ ∧ _ ∧ _))
  | moveChildren .. => inferInstanceAs (Decidable (_ ∧ _ ∧ _))

end Edit

/-- Legal edits build the tree from the empty page. -/
inductive Built : Tree → Prop where
  | empty : Built .empty
  | edit {t : Tree} (h : Built t) (e : Edit) (legal : e.Legal t) : Built (e.run t)

/-- All edits of a list are legal where they are made. -/
def LegalRun (t : Tree) : List Edit → Prop
  | [] => True
  | e :: es => e.Legal t ∧ LegalRun (e.run t) es

instance decidableLegalRun (t : Tree) : (es : List Edit) → Decidable (LegalRun t es)
  | [] => inferInstanceAs (Decidable True)
  | e :: es =>
    have := decidableLegalRun (e.run t) es
    inferInstanceAs (Decidable (_ ∧ _))

theorem Built.run {t : Tree} (h : Built t) {es : List Edit} (hl : LegalRun t es) :
    Built (es.foldl Edit.run t) := by
  induction es generalizing t with
  | nil => exact h
  | cons e es ih => exact ih (h.edit e hl.1) hl.2

/-- What holds of every tree that is built by legal edits. -/
structure Sound (t : Tree) : Prop where
  forest : Forest t (fun p => t.children (some p))
  rooted : t.parent (some document) = none
  top : t.content? (some document) = some .document
  synced : ∀ i c, t.content? (some i) = some c → c.Synced

namespace Sound

variable {t t' : Tree} {kids : NodeId → List NodeId} {p c i : NodeId}

theorem document_not_mem (h : Sound t) (p : NodeId) : document ∉ t.children (some p) :=
  h.forest.loose_not_mem h.rooted

/-- An edit keeps a tree sound that spells out lists of children without the document, keeps the
document and makes synced contents only. -/
theorem of_edit (h : Sound t) (hf : Forest t' kids) (hd : ∀ p, document ∉ kids p)
    (htop : t'.content? (some document) = t.content? (some document))
    (hc : ∀ i c, t'.content? (some i) = some c → c.Synced ∨ t.content? (some i) = some c) :
    Sound t' where
  forest := hf.of_eq hf.children_eq
  rooted := by
    cases hp : t'.parent (some document) with
    | none => rfl
    | some p => exact absurd (hf.listed p document hp) (hd p)
  top := htop.trans h.top
  synced i c hi := (hc i c hi).elim id fun hi => h.synced i c hi

/-- An edit of links keeps a tree sound that spells out lists without the document. -/
theorem of_links (h : Sound t) (hf : Forest t' kids) (hd : ∀ p, document ∉ kids p)
    (hc : ∀ k, t'.content? k = t.content? k) : Sound t' :=
  h.of_edit hf hd (hc _) fun i _ hi => Or.inr (hc (some i) ▸ hi)

theorem zero_lt_size (h : Sound t) : document < t.size := Tree.lt_size_of_content? h.top

theorem create (h : Sound t) {content : Content} (hs : content.Synced) :
    Sound (t.create content).2 := by
  refine h.of_edit (h.forest.create content) h.document_not_mem ?_ fun i c hi => ?_
  · rw [Tree.content?_create, if_neg]
    intro he
    exact absurd (Option.some.inj he) (Nat.ne_of_lt h.zero_lt_size)
  · rw [Tree.content?_create] at hi
    split at hi
    · exact Or.inl (Option.some.inj hi ▸ hs)
    · exact Or.inr hi

theorem claimId (h : Sound t) (id : Option String) (i : NodeId) : Sound (t.claimId id i) :=
  h.of_links (h.forest.claimId id i) h.document_not_mem fun k => Tree.content?_claimId t id i k

theorem createElement (h : Sound t) (name : QualName) (attrs : List Attribute) :
    Sound (t.createElement name attrs).2 :=
  (h.create (Content.synced_ofAttrs name attrs)).claimId _ _

theorem append (h : Sound t) (hl : (Edit.append p c).Legal t) :
    Sound (t.append (some p) (some c)) := by
  obtain ⟨hp, hc, hn, hd, hu⟩ := hl
  refine h.of_links (h.forest.append hp hc hn (h.forest.up p) hu) (fun q => ?_) (by simp)
  by_cases hq : q = p <;> simp [hq, h.document_not_mem, Ne.symm hd]

theorem children_append (h : Sound t) (hl : (Edit.append p c).Legal t) (q : NodeId) :
    (t.append (some p) (some c)).children (some q) =
      if q = p then t.children (some p) ++ [c] else t.children (some q) := by
  obtain ⟨hp, hc, hn, _, hu⟩ := hl
  rw [(h.forest.append hp hc hn (h.forest.up p) hu).children_eq, Function.update_apply]

theorem insertBefore (h : Sound t) {s : NodeId} (hl : (Edit.insertBefore s c).Legal t) :
    Sound (t.insertBefore (some s) (some c)) := by
  obtain ⟨_, hc, hs, hn, hd, hu⟩ := hl
  obtain ⟨p, hp⟩ := Option.ne_none_iff_exists'.mp hs
  obtain ⟨l, r, hk⟩ := List.append_of_mem (h.forest.listed p s hp)
  rw [h.forest.ancestors_of_parent hp] at hu
  have hu' : c ∉ p :: t.ancestors (some p) := fun hm => hu (List.mem_cons_of_mem s hm)
  refine h.of_links (h.forest.insertBefore hk hc hn (h.forest.up p) hu') (fun q => ?_) (by simp)
  have hdoc := h.document_not_mem q
  by_cases hq : q = p
  · subst q
    simpa [hk, Ne.symm hd] using hdoc
  · rwa [Function.update_of_ne hq]

theorem detach (h : Sound t) (c : NodeId) : Sound (t.detach (some c)) :=
  h.of_links (h.forest.detach c) (fun q hm => h.document_not_mem q (List.mem_of_mem_erase hm))
    (by simp)

theorem replace (h : Sound t) {old new : NodeId} (hl : (Edit.replace old new).Legal t) :
    Sound (t.replace (some old) (some new)) := by
  obtain ⟨_, hn, hd, hu⟩ := hl
  cases hp : t.parent (some old) with
  | none => simpa [Tree.replace, hp] using h
  | some p =>
    rw [h.forest.ancestors_of_parent hp] at hu
    simp only [List.mem_cons, not_or] at hu
    refine h.of_links (h.forest.replace (h.forest.listed p old hp) hn (h.forest.up p)
      (by simpa using hu.2) hu.1) (fun q hm => ?_) (by simp)
    obtain ⟨c, hc, he⟩ := List.mem_map.mp hm
    unfold exchange at he
    split at he
    · exact hd he
    · exact h.document_not_mem q (he ▸ List.mem_of_mem_erase hc)

theorem moveChildren (h : Sound t) {source target : NodeId}
    (hl : (Edit.moveChildren source target).Legal t) :
    Sound (t.moveChildren (some source) (some target)) := by
  obtain ⟨_, ht, hu⟩ := hl
  refine h.of_links (h.forest.moveChildren source ht (h.forest.up target)
    fun c hc hm => ?_) (fun q => ?_) (by simp)
  · exact hu (h.forest.mem_ancestors_iff.mpr ⟨c, hm, h.forest.parent_of_mem hc⟩)
  · by_cases hq : q = source <;> by_cases hq' : q = target <;> simp [hq, hq', h.document_not_mem]

theorem appendText (h : Sound t) (hp : p < t.size) (text : String) :
    Sound (t.appendText (some p) text) := by
  have hf := h.forest.appendText hp text
  cases hl : t.text? (t.lastChild (some p)) with
  | some old =>
    have hnt : some document ≠ t.lastChild (some p) := fun he =>
      h.document_not_mem p (List.mem_of_getLast? ((h.forest.last p).symm.trans he.symm))
    simp only [Tree.isText, hl, Option.isSome_some, if_true] at hf
    refine h.of_edit hf h.document_not_mem ?_ fun i c hi => ?_
    · simp [Tree.content?_appendText, hl, hnt]
    · simp only [Tree.content?_appendText, hl] at hi
      split at hi
      · obtain ⟨_, _, rfl⟩ := Option.map_eq_some_iff.mp hi
        exact Or.inl (Content.synced_of_element?_eq_none rfl)
      · exact Or.inr hi
  | none =>
    have hnew : document ≠ t.size := Nat.ne_of_lt h.zero_lt_size
    simp only [Tree.isText, hl, Option.isSome_none, Bool.false_eq_true, if_false] at hf
    refine h.of_edit hf (fun q => ?_) ?_ fun i c hi => ?_
    · by_cases hq : q = p <;> simp [hq, h.document_not_mem, hnew]
    · simp [Tree.content?_appendText, hl, hnew]
    · simp only [Tree.content?_appendText, hl] at hi
      split at hi
      · exact Or.inl (Option.some.inj hi ▸ Content.synced_of_element?_eq_none rfl)
      · exact Or.inr hi

theorem setAttr (h : Sound t) (i : NodeId) (name value : String) :
    Sound (t.setAttr (some i) name value) := by
  cases he : t.element? (some i) with
  | none => rwa [Tree.setAttr_of_not_element he]
  | some e =>
    have hi : document ≠ i := by
      rintro rfl
      simp [Tree.element?_eq, h.top, Content.element?] at he
    refine h.of_edit (h.forest.setAttr (some i) name value) h.document_not_mem ?_ fun j c hj => ?_
    · simp [Tree.content?_setAttr he, hi]
    · rw [Tree.content?_setAttr he] at hj
      split at hj
      · exact Or.inl (Option.some.inj hj ▸ Content.synced_ofAttrs _ _)
      · exact Or.inr hj

theorem addClass (h : Sound t) (i : NodeId) (token : String) :
    Sound (t.addClass (some i) token) := by
  unfold Tree.addClass
  split
  · exact h
  · exact h.setAttr i _ _

theorem removeClass (h : Sound t) (i : NodeId) (token : String) :
    Sound (t.removeClass (some i) token) := by
  unfold Tree.removeClass
  split
  · exact h.setAttr i _ _
  · exact h

theorem empty : Sound .empty := by
  have hlink : ∀ (field : Node → Link) (i : NodeId),
      field ⟨.document, none, none, none, none, none⟩ = none →
        (Tree.empty.get? (some i)).bind field = none := by
    intro field i hf
    cases i <;> simp [Tree.empty, Tree.get?, hf]
  have hparent : ∀ i, Tree.empty.parent (some i) = none := fun i => hlink Node.parent i rfl
  have hf : Forest .empty (fun _ => []) := by
    refine ⟨fun p => hlink Node.firstChild p rfl, fun p => hlink Node.lastChild p rfl, by simp,
      fun p c hc => ?_, fun c _ => ⟨hlink Node.prevSibling c rfl, hlink Node.nextSibling c rfl⟩,
      fun i => ⟨[i], .cons i [] ?_⟩⟩
    · simp [hparent] at hc
    · rw [hparent]
      exact .nil
  refine ⟨hf.of_eq hf.children_eq, hparent _, rfl, fun i c hc => ?_⟩
  cases i with
  | zero => exact Option.some.inj hc ▸ Content.synced_of_element?_eq_none rfl
  | succ i => simp [Tree.content?, Tree.get?, Tree.empty] at hc

/-- Every legal edit keeps a tree sound. -/
theorem run (h : Sound t) (e : Edit) (hl : e.Legal t) : Sound (e.run t) := by
  cases e with
  | createElement name attrs => exact h.createElement name attrs
  | createText text => exact h.create (Content.synced_of_element?_eq_none rfl)
  | createComment text => exact h.create (Content.synced_of_element?_eq_none rfl)
  | createDoctype name publicId systemId =>
    exact h.create (Content.synced_of_element?_eq_none rfl)
  | append parent child => exact h.append hl
  | insertBefore sibling node => exact h.insertBefore hl
  | appendText parent text => exact h.appendText hl text
  | detach target => exact h.detach target
  | replace old node => exact h.replace hl
  | moveChildren source target => exact h.moveChildren hl
  | setAttr node name value => exact h.setAttr node name value
  | addClass node token => exact h.addClass node token
  | removeClass node token => exact h.removeClass node token

end Sound

/-- Trees that are built by legal edits are sound. -/
theorem Built.sound {t : Tree} (h : Built t) : Sound t := by
  induction h with
  | empty => exact Sound.empty
  | edit _ e legal ih => exact ih.run e legal

/-- The links of all nodes agree. Walks along links are finite, and the children of a node are
those that name it as their parent. -/
structure LinksAgree (t : Tree) : Prop where
  /-- Every link names no node or one that exists. -/
  known : ∀ i n, t.get? (some i) = some n →
    ∀ l ∈ [n.parent, n.firstChild, n.lastChild, n.prevSibling, n.nextSibling],
      ∀ j, l = some j → j < t.size
  next : ∀ p, Trail t.nextSibling (t.firstChild (some p)) (t.children (some p))
  distinct : ∀ p, (t.children (some p)).Nodup
  last : ∀ p, t.lastChild (some p) = (t.children (some p)).getLast?
  prev : ∀ p, Trail t.prevSibling (t.lastChild (some p)) (t.children (some p)).reverse
  parent : ∀ p c, c ∈ t.children (some p) ↔ t.parent (some c) = some p
  /-- A node without a parent has no neighbours, and the document is one. -/
  loose : ∀ c, t.parent (some c) = none →
    t.prevSibling (some c) = none ∧ t.nextSibling (some c) = none
  root : t.parent (some document) = none
  /-- The way up from every node is finite and never comes back. -/
  up : ∀ i, Trail t.parent (some i) (i :: t.ancestors (some i))
  proper : ∀ i, i ∉ t.ancestors (some i)

theorem Sound.links {t : Tree} (h : Sound t) : LinksAgree t where
  known _ _ hn _ hl _ hj := h.forest.lt_size_of_link hn hl hj
  next := h.forest.trail_next
  distinct := h.forest.nodup
  last := h.forest.last
  prev := h.forest.trail_prev
  parent _ _ := h.forest.mem_iff
  loose := h.forest.loose
  root := h.rooted
  up := h.forest.up
  proper i := (List.nodup_cons.mp (h.forest.up i).nodup).1

/-- Legal edits keep the links of all nodes in agreement. -/
theorem Built.linksAgree {t : Tree} (h : Built t) : LinksAgree t :=
  h.sound.links

/-- A list of three items, of which the middle one gives way to the last one. -/
def shuffledList : List Edit :=
  [.createElement (.html "ul") [], .append 0 1, .createElement (.html "li") [], .append 1 2,
    .createElement (.html "li") [], .append 1 3, .createElement (.html "li") [], .append 1 4,
    .createText "x", .append 4 5, .replace 3 4, .moveChildren 1 1, .insertBefore 2 3]

theorem linksAgree_shuffledList :
    LegalRun .empty shuffledList ∧
      (shuffledList.foldl Edit.run .empty).children (some 1) = [3, 2, 4] ∧
      LinksAgree (shuffledList.foldl Edit.run .empty) := by
  have hl : LegalRun .empty shuffledList := by decide +kernel
  exact ⟨hl, by decide +kernel, (Built.empty.run hl).linksAgree⟩

end CoursePage
