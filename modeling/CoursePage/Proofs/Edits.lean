import CoursePage.Proofs.Contents
import CoursePage.Proofs.Forest

/-!
What each edit does to the lists of children.
-/

namespace CoursePage

/-- Puts one node for another. -/
def exchange (old new c : NodeId) : NodeId := if c = old then new else c

theorem map_exchange_of_not_mem {old new : NodeId} {l : List NodeId} (h : old ∉ l) :
    l.map (exchange old new) = l := by
  have hid : ∀ c ∈ l, exchange old new c = id c := fun c hc =>
    if_neg fun he : c = old => h (he ▸ hc)
  rw [List.map_congr_left hid, List.map_id]

namespace Tree

variable {t : Tree} {c i : NodeId}

theorem lt_size_of_content? {content : Content} (h : t.content? (some i) = some content) :
    i < t.size := by
  obtain ⟨n, hn, _⟩ := Option.map_eq_some_iff.mp h
  exact exists_get?_iff.mp ⟨n, hn⟩

theorem lt_size_of_element? {e : Element} (h : t.element? (some i) = some e) : i < t.size :=
  lt_size_of_content? (content?_of_element? h)

/-- Appending links the child to its parent and leaves the parents of all other nodes. -/
theorem parent_append (hc : c < t.size) (p i : NodeId) :
    (t.append (some p) (some c)).parent (some i) = if i = c then some p else t.parent (some i) := by
  obtain ⟨n, hn⟩ := exists_get?_iff.mpr hc
  simp only [append, parent, bind_get?_update]
  by_cases hi : i = c <;> simp [hi, hn]

end Tree

namespace Forest

variable {t t' : Tree} {kids : NodeId → List NodeId} {p c s i : NodeId} {l r up : List NodeId}

theorem get?_of_mem (h : Forest t kids) (hc : c ∈ kids p) : ∃ n, t.get? (some c) = some n :=
  Tree.exists_get?_iff.mpr (h.lt_size_of_mem hc)

theorem spliced_append (h : Forest t kids) (hp : p < t.size) (hc : c < t.size)
    (hl : t.parent (some c) = none) (hcp : c ≠ p) :
    Spliced t (t.append (some p) (some c)) p c (kids p) [] := by
  obtain ⟨np, hnp⟩ := Tree.exists_get?_iff.mpr hp
  obtain ⟨nc, hnc⟩ := Tree.exists_get?_iff.mpr hc
  have hlast := h.last p
  have hfirst : np.firstChild = (kids p).head? := by simpa [Tree.firstChild, hnp] using h.first p
  constructor <;> intro i
  case parent => exact Tree.parent_append hc p i
  case prev =>
    simp only [Tree.append, Tree.prevSibling, Tree.bind_get?_update]
    by_cases hi : i = c <;> simp [hi, hnc, hlast]
  case next =>
    simp only [Tree.append, Tree.nextSibling, Tree.bind_get?_update, hlast]
    by_cases hi : i = c
    · subst i
      have hne : some c ≠ (kids p).getLast? := fun he =>
        h.loose_not_mem hl (List.mem_of_getLast? he.symm)
      simp [hnc, hne]
    · by_cases hj : (kids p).getLast? = some i
      · obtain ⟨n, hn⟩ := h.get?_of_mem (List.mem_of_getLast? hj)
        simp [hi, hj, hn]
      · simp [hi, hj, Ne.symm hj]
  case first =>
    simp only [Tree.append, Tree.firstChild, Tree.bind_get?_update]
    by_cases hi : i = p
    · subst i
      cases hk : kids p <;> simp [hnp, hfirst, hk, Ne.symm hcp]
    · simp [hi]
  case last =>
    simp only [Tree.append, Tree.lastChild, Tree.bind_get?_update]
    by_cases hi : i = p
    · subst i
      simp [hnp]
    · simp [hi]

/-- Appending adds one node at the end of one list. -/
theorem append (h : Forest t kids) (hp : p < t.size) (hc : c < t.size)
    (hl : t.parent (some c) = none) (hup : Trail t.parent (some p) up) (hcu : c ∉ up) :
    Forest (t.append (some p) (some c)) (Function.update kids p (kids p ++ [c])) := by
  have hcp : c ≠ p := by
    rintro rfl
    cases hup
    simp at hcu
  exact h.splice (by simp) hl hup hcu (h.spliced_append hp hc hl hcp)

theorem spliced_insertBefore (h : Forest t kids) (hs : kids p = l ++ s :: r) (hc : c < t.size)
    (hl : t.parent (some c) = none) (hcp : c ≠ p) :
    Spliced t (t.insertBefore (some s) (some c)) p c l (s :: r) := by
  obtain ⟨np, hnp⟩ := Tree.exists_get?_iff.mpr (h.parent_lt_size (p := p) (c := s) (by simp [hs]))
  obtain ⟨nc, hnc⟩ := Tree.exists_get?_iff.mpr hc
  obtain ⟨ns, hns⟩ := h.get?_of_mem (p := p) (c := s) (by simp [hs])
  obtain ⟨hparent, hprev, _⟩ := h.placed p l s r hs
  have hcs : c ≠ s := fun he => h.loose_not_mem (p := p) hl (by simp [hs, he])
  have hbefore : ∀ d, l.getLast? = some d → d ≠ s ∧ d ≠ c ∧ ∃ n, t.get? (some d) = some n := by
    intro d hd
    have hm : d ∈ kids p := by simp [hs, List.mem_of_getLast? hd]
    refine ⟨?_, fun he => h.loose_not_mem hl (he ▸ hm), h.get?_of_mem hm⟩
    exact fun he => (h.not_mem_around hs).1 (he ▸ List.mem_of_getLast? hd)
  have hnil : l.getLast? = none ↔ l = [] := List.getLast?_eq_none_iff
  constructor <;> intro i
  · grind [Tree.insertBefore, Tree.parent, Tree.bind_get?_update]
  · grind [Tree.insertBefore, Tree.prevSibling, Tree.bind_get?_update]
  · grind [Tree.insertBefore, Tree.nextSibling, Tree.bind_get?_update]
  · grind [Tree.insertBefore, Tree.firstChild, Tree.bind_get?_update]
  · grind [Tree.insertBefore, Tree.lastChild, Tree.bind_get?_update]

/-- Inserting puts one node directly before another one in its list. -/
theorem insertBefore (h : Forest t kids) (hs : kids p = l ++ s :: r) (hc : c < t.size)
    (hl : t.parent (some c) = none) (hup : Trail t.parent (some p) up) (hcu : c ∉ up) :
    Forest (t.insertBefore (some s) (some c)) (Function.update kids p (l ++ c :: s :: r)) := by
  have hcp : c ≠ p := by
    rintro rfl
    cases hup
    simp at hcu
  exact h.splice hs hl hup hcu (h.spliced_insertBefore hs hc hl hcp)

theorem taken_detach (h : Forest t kids) (hs : kids p = l ++ c :: r) :
    Taken t (t.detach (some c)) p c l r := by
  obtain ⟨np, hnp⟩ := Tree.exists_get?_iff.mpr (h.parent_lt_size (p := p) (c := c) (by simp [hs]))
  obtain ⟨nc, hnc⟩ := h.get?_of_mem (p := p) (c := c) (by simp [hs])
  obtain ⟨hparent, hprev, hnext⟩ := h.placed p l c r hs
  simp only [Tree.parent, Tree.prevSibling, Tree.nextSibling, hnc, Option.bind_some]
    at hparent hprev hnext
  obtain ⟨hcl, hcr⟩ := h.not_mem_around hs
  have hbefore : ∀ d, l.getLast? = some d → d ≠ c ∧ ∃ n, t.get? (some d) = some n := by
    intro d hd
    have hm := List.mem_of_getLast? hd
    exact ⟨fun he => hcl (he ▸ hm), h.get?_of_mem (p := p) (by simp [hs, hm])⟩
  have hbehind : ∀ d, r.head? = some d → d ≠ c ∧ ∃ n, t.get? (some d) = some n := by
    intro d hd
    have hm := List.mem_of_head? hd
    exact ⟨fun he => hcr (he ▸ hm), h.get?_of_mem (p := p) (by simp [hs, hm])⟩
  have hnil : l = [] ↔ ¬l.getLast?.isSome := by simp
  have hnil' : r = [] ↔ ¬r.head?.isSome := by simp
  constructor <;> intro i <;>
    simp only [Tree.detach, hnc, hparent, hprev, hnext] <;>
    generalize l.getLast? = before at * <;> generalize r.head? = behind at *
  · grind [Tree.parent, Tree.bind_get?_update]
  · grind [Tree.prevSibling, Tree.bind_get?_update]
  · grind [Tree.nextSibling, Tree.bind_get?_update]
  · grind [Tree.firstChild, Tree.bind_get?_update]
  · grind [Tree.lastChild, Tree.bind_get?_update]

/-- A node that is linked nowhere has no links to take away. -/
theorem unlink_of_loose (h : Forest t kids) (hl : t.parent (some c) = none) :
    (t.update (some c) fun n =>
      { n with parent := none, prevSibling := none, nextSibling := none }) = t := by
  obtain ⟨hprev, hnext⟩ := h.loose c hl
  refine Tree.eq_of_get? (fun k => ?_) rfl
  rw [Tree.get?_update]
  split
  · subst k
    cases hn : t.get? (some c) with
    | none => rfl
    | some n =>
      simp only [Tree.parent, Tree.prevSibling, Tree.nextSibling, hn, Option.bind_some]
        at hl hprev hnext
      cases n
      simp_all
  · rfl

/-- Unlinking a node that is linked nowhere changes nothing. -/
theorem detach_of_loose (h : Forest t kids) (hl : t.parent (some c) = none) :
    t.detach (some c) = t := by
  obtain ⟨hprev, hnext⟩ := h.loose c hl
  have hu := h.unlink_of_loose hl
  cases hn : t.get? (some c) with
  | none => simp [Tree.detach, hn]
  | some n =>
    simp only [Tree.parent, Tree.prevSibling, Tree.nextSibling, hn, Option.bind_some]
      at hl hprev hnext
    simpa [Tree.detach, hn, hl, hprev, hnext, Tree.update] using hu

/-- A node is in one list only, so taking it out of all lists changes that one. -/
theorem erase_eq_update (h : Forest t kids) (hs : kids p = l ++ c :: r) :
    (fun q => (kids q).erase c) = Function.update kids p (l ++ r) := by
  funext q
  by_cases hq : q = p
  · subst q
    rw [Function.update_self, hs, List.erase_append_right _ (h.not_mem_around hs).1]
    simp
  · rw [Function.update_of_ne hq, List.erase_of_not_mem]
    intro hm
    exact hq (h.parent_unique hm (by simp [hs]))

/-- Unlinking takes one node out of the list it is in. -/
theorem detach (h : Forest t kids) (c : NodeId) :
    Forest (t.detach (some c)) (fun p => (kids p).erase c) := by
  cases hp : t.parent (some c) with
  | none =>
    rw [h.detach_of_loose hp]
    simpa only [List.erase_of_not_mem (h.loose_not_mem hp)] using h
  | some p =>
    obtain ⟨l, r, hs⟩ := List.append_of_mem (h.listed p c hp)
    rw [h.erase_eq_update hs]
    exact h.take hs (h.taken_detach hs)

theorem parent_detach_self (h : Forest t kids) : (t.detach (some c)).parent (some c) = none := by
  cases hq : (t.detach (some c)).parent (some c) with
  | none => rfl
  | some q => exact absurd ((h.detach c).listed q c hq) (h.nodup q).not_mem_erase

theorem trail_detach (h : Forest t kids) {k : Link} (hup : Trail t.parent k up) (hc : c ∉ up) :
    Trail (t.detach (some c)).parent k up :=
  h.trail_congr (h.detach c) hup fun _ hi _ => List.mem_erase_of_ne fun he => hc (he ▸ hi)

/-- Replacing takes the new node from wherever it is and gives it the place of the old one. -/
theorem replace (h : Forest t kids) {old new : NodeId} (hp : old ∈ kids p) (hn : new < t.size)
    (hup : Trail t.parent (some p) up) (hnu : new ∉ up) (hne : new ≠ old) :
    Forest (t.replace (some old) (some new))
      (fun q => ((kids q).erase new).map (exchange old new)) := by
  have h1 := h.detach new
  have hp1 : old ∈ (kids p).erase new := (List.mem_erase_of_ne hne.symm).mpr hp
  obtain ⟨l, r, hs⟩ := List.append_of_mem hp1
  obtain ⟨hol, hor⟩ := h1.not_mem_around hs
  have h2 := h1.insertBefore hs (by simpa using hn) h.parent_detach_self
    (h.trail_detach hup hnu) hnu
  have h3 := h2.detach old
  have hr : t.replace (some old) (some new) =
      ((t.detach (some new)).insertBefore (some old) (some new)).detach (some old) := by
    simp [Tree.replace, h.parent_of_mem hp]
  rw [hr]
  refine h3.of_eq fun q => ?_
  by_cases hq : q = p
  · subst q
    have hol' : old ∉ l ++ [new] := by simp [hol, hne.symm]
    rw [Function.update_self, hs, show l ++ new :: old :: r = (l ++ [new]) ++ old :: r by simp,
      List.erase_append_right _ hol']
    simp [map_exchange_of_not_mem hol, map_exchange_of_not_mem hor, exchange]
  · have hoq : old ∉ (kids q).erase new := fun hm => hq (h1.parent_unique hm hp1)
    rw [Function.update_of_ne hq, List.erase_of_not_mem hoq, map_exchange_of_not_mem hoq]

/-- A new node is linked nowhere, as it was before it existed. -/
theorem sameLinks_create (t : Tree) (content : Content) : SameLinks t (t.create content).2 := by
  have hnew : t.get? (some t.size) = none := by simp [Tree.get?, Tree.size]
  constructor <;> intro i <;> by_cases hi : i = t.size
  all_goals simp [Tree.parent, Tree.prevSibling, Tree.nextSibling, Tree.firstChild,
    Tree.lastChild, Tree.get?_create, hi, hnew]

theorem sameLinks_claimId (t : Tree) (id : Option String) (i : NodeId) :
    SameLinks t (t.claimId id i) := by
  cases id <;> exact ⟨fun _ => rfl, fun _ => rfl, fun _ => rfl, fun _ => rfl, fun _ => rfl⟩

/-- What a node holds has no part in how it is linked. -/
theorem sameLinks_content (t : Tree) (k : Link) (f : Node → Content) :
    SameLinks t (t.update k fun n => { n with content := f n }) := by
  constructor <;> intro i
  all_goals simp [Tree.parent, Tree.prevSibling, Tree.nextSibling, Tree.firstChild,
    Tree.lastChild, Tree.bind_get?_update]

theorem SameLinks.refl (t : Tree) : SameLinks t t :=
  ⟨fun _ => rfl, fun _ => rfl, fun _ => rfl, fun _ => rfl, fun _ => rfl⟩

theorem SameLinks.trans {t t' t'' : Tree} (h : SameLinks t t') (h' : SameLinks t' t'') :
    SameLinks t t'' where
  parent i := (h'.parent i).trans (h.parent i)
  prev i := (h'.prev i).trans (h.prev i)
  next i := (h'.next i).trans (h.next i)
  first i := (h'.first i).trans (h.first i)
  last i := (h'.last i).trans (h.last i)

theorem sameLinks_setAttr (t : Tree) (k : Link) (name value : String) :
    SameLinks t (t.setAttr k name value) := by
  unfold Tree.setAttr
  split
  · exact (sameLinks_content t _ _).trans (sameLinks_claimId _ _ _)
  · exact .refl t

theorem create (h : Forest t kids) (content : Content) : Forest (t.create content).2 kids :=
  h.relink (sameLinks_create t content)

theorem claimId (h : Forest t kids) (id : Option String) (i : NodeId) :
    Forest (t.claimId id i) kids :=
  h.relink (sameLinks_claimId t id i)

theorem createElement (h : Forest t kids) (name : QualName) (attrs : List Attribute) :
    Forest (t.createElement name attrs).2 kids :=
  (h.create _).claimId _ _

theorem setAttr (h : Forest t kids) (k : Link) (name value : String) :
    Forest (t.setAttr k name value) kids :=
  h.relink (sameLinks_setAttr t k name value)

theorem addClass (h : Forest t kids) (k : Link) (token : String) :
    Forest (t.addClass k token) kids := by
  unfold Tree.addClass
  split
  · exact h
  · exact h.setAttr k _ _

theorem removeClass (h : Forest t kids) (k : Link) (token : String) :
    Forest (t.removeClass k token) kids := by
  unfold Tree.removeClass
  split
  · exact h.setAttr k _ _
  · exact h

/-- Text goes into a text at the end of the list, or it becomes a new node there. -/
theorem appendText (h : Forest t kids) (hp : p < t.size) (text : String) :
    Forest (t.appendText (some p) text)
      (if t.isText (t.lastChild (some p)) then kids
        else Function.update kids p (kids p ++ [t.size])) := by
  cases hl : t.text? (t.lastChild (some p)) with
  | some old =>
    simp only [Tree.appendText, hl, Tree.isText, Option.isSome_some, if_true]
    exact h.relink (sameLinks_content t _ _)
  | none =>
    simp only [Tree.appendText, hl, Tree.isText, Option.isSome_none, Bool.false_eq_true, if_false]
    change Forest ((t.create (.text text)).2.append (some p) (some t.size)) _
    have hnew := sameLinks_create t (.text text)
    have hup := (h.up p).congr fun i _ => hnew.parent i
    refine (h.create (.text text)).append ?_ ?_ ?_ hup ?_
    · rw [Tree.size_create]
      exact Nat.lt_succ_of_lt hp
    · simp
    · rw [hnew.parent]
      exact Tree.parent_eq_none_of_size_le (Nat.le_refl _)
    · exact fun hm => Nat.lt_irrefl _ (h.lt_size_of_mem_up hp hm)

/-- Moving the front of one list unlinks its nodes and puts them at the end of another list. -/
theorem moveAll (h : Forest t kids) (source : NodeId) {target : NodeId}
    (rest extra : List NodeId) (ht : target < t.size) (hs : kids source = rest ++ extra)
    (hup : Trail t.parent (some target) up) (hru : ∀ c ∈ rest, c ∉ up) :
    Forest (rest.foldl (fun t c => (t.detach (some c)).append (some target) (some c)) t)
      (fun q => (if q = source then extra else kids q) ++ if q = target then rest else []) := by
  induction rest generalizing t kids extra with
  | nil => exact h.of_eq fun q => by by_cases hq : q = source <;> simp [hq, hs]
  | cons c rest ih =>
    have hcs : c ∈ kids source := by simp [hs]
    have hcu := hru c List.mem_cons_self
    have h1 := (h.detach c).of_eq (k := Function.update kids source (rest ++ extra)) fun q => by
      by_cases hq : q = source
      · simp [hq, hs]
      · rw [Function.update_of_ne hq, List.erase_of_not_mem]
        exact fun hm => hq (h.parent_unique hm hcs)
    have hup1 := h.trail_detach hup hcu
    have h2 := h1.append (by simpa using ht) (by simpa using h.lt_size_of_mem hcs)
      h.parent_detach_self hup1 hcu
    have hup2 := h1.trail_congr h2 hup1 fun i hi q => by
      have hic : i ≠ c := fun he => hcu (he ▸ hi)
      by_cases hq : q = target <;> simp [hq, hic]
    -- What is moved to the end of its own list comes behind what was not moved yet.
    have h3 := ih h2 (if source = target then extra ++ [c] else extra) (by simpa using ht)
      (by by_cases hst : source = target <;> simp [hst]) hup2
      (fun d hd => hru d (List.mem_cons_of_mem c hd))
    refine h3.of_eq fun q => ?_
    by_cases hq : q = source <;> by_cases hq' : q = target <;> simp_all

/-- Moving all children unlinks them and puts them at the end of the other list. -/
theorem moveChildren (h : Forest t kids) (source : NodeId) {target : NodeId} (ht : target < t.size)
    (hup : Trail t.parent (some target) up) (hsu : ∀ c ∈ kids source, c ∉ up) :
    Forest (t.moveChildren (some source) (some target))
      (fun q => (if q = source then [] else kids q) ++ if q = target then kids source else []) := by
  have hm := h.moveAll source (kids source) [] ht (by simp) hup hsu
  simpa only [Tree.moveChildren, h.children_eq] using hm

end Forest

end CoursePage
