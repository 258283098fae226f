import CoursePage.Proofs.NoNode
import CoursePage.Proofs.Wrapping

/-!
Text that is put at the end of a node piece by piece. The first piece may need a new text node, and
every further one goes into the text that is then at the end, so the tree does not tell in how many
pieces the text came. The markup inside the node goes on with the escaped text in either case.
-/

namespace CoursePage

open CoursePage.Markup (escapeText)

/-- The same node with a text for its content. -/
def Node.withText (text : String) (n : Node) : Node := { n with content := .text text }

namespace Tree

variable {t : Tree} {p : NodeId} {old : String}

theorem content?_of_text? {l : Link} (h : t.text? l = some old) :
    t.content? l = some (.text old) := by
  rw [text?_eq] at h
  obtain ⟨c, hc, ht⟩ := Option.bind_eq_some_iff.mp h
  cases c with
  | text s =>
    obtain rfl : s = old := Option.some.inj ht
    exact hc
  | _ => cases ht

/-- A text may be written before or after links that do not depend on it. -/
theorem update_update_withText {f : Node → Node} {s : String}
    (hf : ∀ n, (f n).withText s = f (n.withText s)) (t : Tree) (l k : Link) :
    (t.update k f).update l (Node.withText s) = (t.update l (Node.withText s)).update k f := by
  refine eq_of_get? (fun j => ?_) (by simp)
  simp only [get?_update]
  by_cases hl : j = l
  · by_cases hk : j = k
    · subst hl hk
      simp only [if_true, Option.map_map, Function.comp_def, hf]
    · simp only [hk, if_false]
  · simp only [hl, if_false]

theorem update_append (t : Tree) (p c : NodeId) (l : Link) (s : String) :
    (t.append (some p) (some c)).update l (Node.withText s) =
      (t.update l (Node.withText s)).append (some p) (some c) := by
  have hlast : (t.update l (Node.withText s)).lastChild (some p) = t.lastChild (some p) :=
    (Forest.sameLinks_content t l fun _ => .text s).last p
  simp only [append, hlast]
  rw [update_update_withText, update_update_withText, update_update_withText]
  all_goals exact fun _ => rfl

/-- A new text node whose text is written at once is a new node with that text. -/
theorem update_createText (t : Tree) (s u : String) :
    (t.createText s).2.update (some t.size) (Node.withText u) = (t.createText u).2 := by
  refine eq_of_get? (fun k => ?_) (by simp [createText])
  rw [get?_update, createText, createText, get?_create, get?_create]
  split <;> rfl

theorem appendText_of_text (h : t.text? (t.lastChild (some p)) = some old) (s : String) :
    t.appendText (some p) s = t.update (t.lastChild (some p)) (Node.withText (old ++ s)) := by
  simp only [appendText, h]
  rfl

theorem appendText_of_no_text (h : t.text? (t.lastChild (some p)) = none) (s : String) :
    t.appendText (some p) s = (t.createText s).2.append (some p) (some t.size) := by
  simp only [appendText, h]
  rfl

end Tree

namespace Sound

variable {t t' : Tree} {p c : NodeId} {s old : String}

/-- Text in two pieces makes the same tree as the text in one. -/
theorem appendText_appendText (h : Sound t) (hp : p < t.size) (s u : String) :
    (t.appendText (some p) s).appendText (some p) u = t.appendText (some p) (s ++ u) := by
  have hf := h.forest.appendText hp s
  cases ht : t.text? (t.lastChild (some p)) with
  | some old =>
    obtain ⟨n, hn, -⟩ := Option.bind_eq_some_iff.mp ht
    have hlast : (t.appendText (some p) s).lastChild (some p) = t.lastChild (some p) := by
      rw [Tree.appendText_of_text ht]
      exact (Forest.sameLinks_content t _ fun _ => .text (old ++ s)).last p
    have htext : (t.appendText (some p) s).text? (t.lastChild (some p)) = some (old ++ s) := by
      rw [Tree.text?_eq, Tree.content?_appendText, ht]
      simp [Tree.content?, hn, Content.text?]
    rw [Tree.appendText_of_text (hlast ▸ htext), hlast, Tree.appendText_of_text ht,
      Tree.appendText_of_text ht, Tree.update_update (by intro n; rfl), String.append_assoc]
  | none =>
    have hlast : (t.appendText (some p) s).lastChild (some p) = some t.size := by
      rw [Tree.isText, ht] at hf
      simp [hf.last]
    have htext : (t.appendText (some p) s).text? (some t.size) = some s := by
      rw [Tree.text?_eq, Tree.content?_appendText, ht]
      simp [Content.text?]
    rw [Tree.appendText_of_text (hlast ▸ htext), hlast, Tree.appendText_of_no_text ht,
      Tree.appendText_of_no_text ht, Tree.update_append, Tree.update_createText]

/-- However a text is cut into pieces, they make the same tree. -/
theorem foldl_appendText (h : Sound t) (hp : p < t.size) (s : String) (pieces : List String) :
    (s :: pieces).foldl (fun t s => t.appendText (some p) s) t =
      t.appendText (some p) (String.join (s :: pieces)) := by
  induction pieces generalizing s with
  | nil => simp
  | cons u pieces ih =>
    rw [List.foldl_cons, List.foldl_cons, h.appendText_appendText hp, ← List.foldl_cons, ih]
    simp [String.append_assoc]

theorem outerHtml_text (h : Sound t) (hc : t.content? (some c) = some (.text s)) :
    t.outerHtml (some c) = escapeText s := by
  rw [Tree.outerHtml, h.outerEvents_eq_content, hc]
  exact Markup.renderIn_text .outermost s

/-- A node is not in the branch of its child. -/
theorem not_mem_within_of_mem (h : Sound t) (hc : c ∈ t.children (some p)) : p ∉ t.within c := by
  rw [h.mem_within_iff, ← h.ancestors_of_mem hc]
  exact (List.nodup_cons.mp (h.forest.up c).nodup).1

/-- Nor is another child. -/
theorem not_mem_within_of_ne (h : Sound t) {d : NodeId} (hc : c ∈ t.children (some p))
    (hd : d ∈ t.children (some p)) (hne : c ≠ d) : d ∉ t.within c := by
  rw [h.mem_within_iff, List.mem_cons, h.ancestors_of_mem hd, ← h.ancestors_of_mem hc, not_or]
  exact ⟨hne, (List.nodup_cons.mp (h.forest.up c).nodup).1⟩

/-- A branch in which nothing was changed is written as before. -/
theorem outerHtml_congr (h : Sound t) (h' : Sound t')
    (hc : ∀ x ∈ t.within c, t'.layout.content x = t.layout.content x)
    (hk : ∀ x ∈ t.within c, t'.layout.kids x = t.layout.kids x) :
    t'.outerHtml (some c) = t.outerHtml (some c) := by
  rw [Tree.outerHtml, Tree.outerHtml, h.outerEvents_congr h' hc hk]

/-- A text that goes on at the end of a node goes on in the markup inside the node. -/
theorem innerHtml_put (h : Sound t) (h' : Sound t') {last : NodeId}
    (hlast : (t.children (some p)).getLast? = some last) (ht : t.text? (some last) = some old)
    (hv : t'.layout = t.layout.put last (.text (old ++ s))) :
    t'.innerHtml (some p) = t.innerHtml (some p) ++ escapeText s := by
  obtain ⟨front, hk⟩ := List.getLast?_eq_some_iff.mp hlast
  have hk' : t'.children (some p) = front ++ [last] := (congrArg (fun v => v.kids p) hv).trans hk
  have hkept : ∀ c ∈ front, t'.outerHtml (some c) = t.outerHtml (some c) := by
    intro c hc
    have hn : (front ++ [last]).Nodup := hk ▸ h.forest.nodup p
    have hne : c ≠ last := (List.nodup_append.mp hn).2.2 c hc last List.mem_cons_self
    have hx : last ∉ t.within c :=
      h.not_mem_within_of_ne (p := p) (by simp [hk, hc]) (by simp [hk]) hne
    apply h.outerHtml_congr h'
    · intro x hm
      have hxl : x ≠ last := fun he => hx (he ▸ hm)
      rw [hv]
      exact Function.update_of_ne hxl _ _
    · intro x _
      rw [hv]
      rfl
  have hold : t.outerHtml (some last) = escapeText old :=
    h.outerHtml_text (Tree.content?_of_text? ht)
  have hnew : t'.outerHtml (some last) = escapeText (old ++ s) :=
    h'.outerHtml_text ((congrArg (fun v => v.content last) hv).trans (Function.update_self ..))
  rw [h'.innerHtml_eq_join, h.innerHtml_eq_join, hk, hk', List.map_append, List.map_append,
    List.map_congr_left hkept]
  simp [String.join_append, hold, hnew, Markup.escapeText_append, String.append_assoc]

/-- A new text behind the children of a node is written behind them. -/
theorem innerHtml_set_put (h : Sound t) (h' : Sound t')
    (hv : t'.layout = (t.layout.put t.size (.text s)).set p (t.children (some p) ++ [t.size])) :
    t'.innerHtml (some p) = t.innerHtml (some p) ++ escapeText s := by
  have hk' : t'.children (some p) = t.children (some p) ++ [t.size] :=
    (congrArg (fun v => v.kids p) hv).trans (Function.update_self ..)
  have hkept : ∀ c ∈ t.children (some p), t'.outerHtml (some c) = t.outerHtml (some c) := by
    intro c hc
    apply h.outerHtml_congr h'
    · intro x hm
      have hx := h.lt_size_of_mem_within (h.forest.lt_size_of_mem hc) hm
      rw [hv]
      exact Function.update_of_ne (Nat.ne_of_lt hx) _ _
    · intro x hm
      have hx : x ≠ p := fun he => h.not_mem_within_of_mem hc (he ▸ hm)
      rw [hv]
      exact Function.update_of_ne hx _ _
  have hnew : t'.outerHtml (some t.size) = escapeText s :=
    h'.outerHtml_text ((congrArg (fun v => v.content t.size) hv).trans (Function.update_self ..))
  rw [h'.innerHtml_eq_join, h.innerHtml_eq_join, hk', List.map_append, List.map_congr_left hkept]
  simp [hnew]

/-- The markup inside a node goes on with the text that is put at its end. -/
theorem innerHtml_appendText (h : Sound t) (hp : p < t.size) (s : String) :
    (t.appendText (some p) s).innerHtml (some p) = t.innerHtml (some p) ++ escapeText s := by
  have h' := h.appendText hp s
  rcases h.layout_appendText hp s with ⟨last, old, hlast, ht, hv⟩ | ⟨-, hv⟩
  · exact h.innerHtml_put h' hlast ht hv
  · exact h.innerHtml_set_put h' hv

end Sound

/-- Text at the end of a node is the same however it is cut into pieces, and the markup inside the
node goes on with it. -/
structure TakesText (t : Tree) (p : NodeId) : Prop where
  twice : ∀ s u, (t.appendText (some p) s).appendText (some p) u = t.appendText (some p) (s ++ u)
  pieces : ∀ s rest, (s :: rest).foldl (fun t s => t.appendText (some p) s) t =
    t.appendText (some p) (String.join (s :: rest))
  inner : ∀ s, (t.appendText (some p) s).innerHtml (some p) =
    t.innerHtml (some p) ++ escapeText s

/-- On a tree that is built by legal edits, every node takes text in any pieces. -/
theorem Built.takesText {t : Tree} (h : Built t) {p : NodeId} (hp : p < t.size) :
    TakesText t p where
  twice := h.sound.appendText_appendText hp
  pieces := h.sound.foldl_appendText hp
  inner := h.sound.innerHtml_appendText hp

/-- A paragraph that ends with a text, one that ends with an element, and that element, which is
empty. -/
def openParagraphs : List Edit :=
  [.createElement (.html "p") [], .append 0 1, .appendText 1 "a<",
    .createElement (.html "p") [], .append 0 3, .appendText 3 "b", .createElement (.html "br") [],
    .append 3 5]

theorem takesText_openParagraphs :
    LegalRun .empty openParagraphs ∧
      (openParagraphs.foldl Edit.run .empty).toHtml = "<p>a&lt;</p><p>b<br></p>" ∧
      (∀ p ∈ [1, 3, 5], p < (openParagraphs.foldl Edit.run .empty).size ∧
        TakesText (openParagraphs.foldl Edit.run .empty) p) ∧
      ((openParagraphs.foldl Edit.run .empty).appendText (some 1) "&").innerHtml (some 1) =
        "a&lt;&amp;" ∧
      ((openParagraphs.foldl Edit.run .empty).appendText (some 3) "&").innerHtml (some 3) =
        "b<br>&amp;" := by
  have hl : LegalRun .empty openParagraphs := by decide +kernel
  have hsize : ∀ p ∈ [1, 3, 5], p < (openParagraphs.foldl Edit.run .empty).size := by
    decide +kernel
  exact ⟨hl, by decide +kernel,
    fun p hp => ⟨hsize p hp, (Built.empty.run hl).takesText (hsize p hp)⟩,
    by decide +kernel, by decide +kernel⟩

end CoursePage
