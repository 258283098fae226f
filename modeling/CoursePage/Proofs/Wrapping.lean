import CoursePage.Proofs.DocumentOrder
import CoursePage.Proofs.Nested
import CoursePage.Proofs.Ready
import CoursePage.Proofs.Rename

/-!
Elements as tags around their inner markup. Inner markup is what it is at the top of a page, but a
void element has no end tag and swallows the tags inside it, and the texts directly in a raw text
element are not escaped. Names of both kinds pass the check of the settings, so whether a renamed
element is written around its content is a question of the name and of these texts.
-/

namespace CoursePage

open CoursePage.Tree (document)
open CoursePage.Markup (Balanced Event Frame renderIn render startTag endTag isVoid isRawText
  escapeText)

namespace Markup

variable {f g : Frame} {events : List Event} {s : String}

theorem length_escapeTextChar_pos (c : Char) : 0 < (escapeTextChar c).length := by
  unfold escapeTextChar
  split <;> exact Nat.succ_pos _

/-- Escaping never makes a text shorter. -/
theorem length_le_escapeText (s : String) : s.length ≤ (escapeText s).length := by
  have hl : ∀ cs : List Char, cs.length ≤ (cs.flatMap escapeTextChar).length := by
    intro cs
    induction cs with
    | nil => exact Nat.le_refl _
    | cons c cs ih =>
      have hc := length_escapeTextChar_pos c
      rw [List.flatMap_cons, List.length_append, List.length_cons]
      omega
  rw [escapeText, String.length_ofList, ← String.length_toList]
  exact hl s.toList

/-- Inside `f` no more is written than inside `g`. -/
structure Frame.Terser (f g : Frame) : Prop where
  rawText : g.rawText = true → f.rawText = true
  childless : g.childless = true → f.childless = true

namespace Frame.Terser

theorem of_outermost (f : Frame) : f.Terser .outermost := ⟨nofun, nofun⟩

theorem under (h : f.Terser g) (name : QualName) : (f.under name).Terser (g.under name) where
  rawText hr := hr
  childless hc := by
    simp only [Frame.under, Bool.or_eq_true] at hc ⊢
    exact hc.imp_left h.childless

/-- What is written of an element is no longer where no more is written inside. -/
theorem length_wrap_le (h : f.Terser g) (name : QualName) (attrs : List Attribute)
    {inner inner' : String} (hi : inner.length ≤ inner'.length) :
    (f.wrap name attrs inner).length ≤ (g.wrap name attrs inner').length := by
  have hlen : inner.length ≤ (startTag name attrs ++ inner' ++
      if isVoid name then "" else endTag name).length := by
    simp only [String.length_append]
    omega
  unfold Frame.wrap
  cases hg : g.childless with
  | true => simpa [h.childless hg] using hi
  | false =>
    cases f.childless with
    | true => simpa using hlen
    | false =>
      simp only [Bool.false_eq_true, if_false, String.length_append]
      omega

end Frame.Terser

theorem renderIn_text (top : Frame) (s : String) :
    renderIn top [.text s] = if top.rawText then s else escapeText s := by
  simp [renderIn, Printer.write, Printer.top, Printer.emit]

theorem Balanced.length_renderIn_le (h : Balanced events) (hfg : f.Terser g) :
    (renderIn f events).length ≤ (renderIn g events).length := by
  induction h generalizing f g with
  | nil => exact Nat.le_refl _
  | text s =>
    have hr := hfg.rawText
    have hs := length_le_escapeText s
    rw [renderIn_text, renderIn_text]
    split <;> split
    · exact Nat.le_refl _
    · exact hs
    · simp_all
    · exact Nat.le_refl _
  | comment s => exact Nat.le_refl _
  | doctype name => exact Nat.le_refl _
  | element name attrs inner hi ih =>
    rw [hi.renderIn_element, hi.renderIn_element]
    exact hfg.length_wrap_le name attrs (ih (hfg.under name))
  | append front rest hf hr ihf ihr =>
    rw [hf.renderIn_append hr, hf.renderIn_append hr, String.length_append, String.length_append]
    exact Nat.add_le_add (ihf hfg) (ihr hfg)

theorem length_join_map_le {α : Type} {p q : α → String} {as : List α}
    (h : ∀ a ∈ as, (p a).length ≤ (q a).length) :
    (String.join (as.map p)).length ≤ (String.join (as.map q)).length := by
  induction as with
  | nil => exact Nat.le_refl _
  | cons a as ih =>
    simp only [List.map_cons, String.join_cons, String.length_append]
    exact Nat.add_le_add (h a List.mem_cons_self) (ih fun b hb => h b (List.mem_cons_of_mem a hb))

/-- Texts that are no longer than their partners are joined to the same text only if each is its
partner. -/
theorem join_map_eq_iff {α : Type} {p q : α → String} {as : List α}
    (h : ∀ a ∈ as, (p a).length ≤ (q a).length) :
    String.join (as.map p) = String.join (as.map q) ↔ ∀ a ∈ as, p a = q a := by
  induction as with
  | nil => simp
  | cons a as ih =>
    have has : ∀ b ∈ as, (p b).length ≤ (q b).length := fun b hb => h b (List.mem_cons_of_mem a hb)
    have ha := h a List.mem_cons_self
    have hl := length_join_map_le has
    rw [List.map_cons, List.map_cons, String.join_cons, String.join_cons, List.forall_mem_cons,
      ← ih has]
    constructor
    · intro he
      have hlen := congrArg String.length he
      rw [String.length_append, String.length_append] at hlen
      have hlist := congrArg String.toList he
      rw [String.toList_append, String.toList_append] at hlist
      obtain ⟨hp, hr⟩ := List.append_inj hlist (by simp only [String.length_toList]; omega)
      exact ⟨String.toList_inj.mp hp, String.toList_inj.mp hr⟩
    · rintro ⟨hp, hr⟩
      rw [hp, hr]

theorem infix_join {s : String} {l : List String} (h : s ∈ l) :
    s.toList <:+: (String.join l).toList := by
  obtain ⟨front, rest, rfl⟩ := List.append_of_mem h
  simp only [String.join_append, String.join_cons, String.toList_append]
  exact ⟨_, _, List.append_assoc _ _ _⟩

/-- Elements of this name with these texts directly inside are written as tags around their inner
markup. -/
def Wraps (name : QualName) (texts : List String) : Prop :=
  isVoid name = false ∧ (isRawText name = true → ∀ s ∈ texts, escapeText s = s)

end Markup

namespace Tree

theorem text?_eq (t : Tree) (l : Link) : t.text? l = (t.content? l).bind Content.text? := by
  rw [content?, Option.bind_map]
  rfl

/-- The texts among the children of a node. -/
def texts (t : Tree) (i : NodeId) : List String :=
  (t.children (some i)).filterMap fun c => t.text? (some c)

end Tree

namespace Sound

variable {t : Tree} {i c p : NodeId} {e : Element}

/-- Only for texts does it matter whether texts are written as they are. -/
theorem renderIn_raw_eq_iff (h : Sound t) (hd : t.content? (some c) ≠ some .document) :
    renderIn ⟨true, false⟩ (t.outerEvents c) = render (t.outerEvents c) ↔
      ∀ s, t.text? (some c) = some s → escapeText s = s := by
  have hb : Balanced ((t.children (some c)).flatMap t.outerEvents) :=
    .flatMap fun d _ => h.balanced_outerEvents d
  have hr : ∀ events, render events = renderIn .outermost events := fun _ => rfl
  have hnone : ∀ s, (none : Option String) = some s → escapeText s = s := by
    intro s hs
    cases hs
  rw [h.outerEvents_eq_content, Tree.text?_eq, hr]
  cases hc : t.content? (some c) with
  | none => exact iff_of_true rfl hnone
  | some content =>
    cases content with
    | document => exact absurd hc hd
    | element e =>
      simp only [Option.map_some, Option.getD_some, Content.events, hb.renderIn_element]
      exact iff_of_true rfl hnone
    | text s =>
      simp only [Option.map_some, Option.getD_some, Content.events, Markup.renderIn_text]
      simp [Content.text?, Frame.outermost, eq_comm]
    | comment s => exact iff_of_true rfl hnone
    | doctype name publicId systemId => exact iff_of_true rfl hnone

theorem outerHtml_element (h : Sound t) (he : t.element? (some i) = some e) :
    t.outerHtml (some i) = Frame.outermost.wrap e.name e.attrs
      (renderIn (Frame.outermost.under e.name) (t.innerEvents (some i))) := by
  have hc := h.outerEvents_eq_content i
  rw [Tree.content?_of_element? he, ← h.innerEvents_eq_flatMap] at hc
  rw [Tree.outerHtml, hc]
  exact (h.balanced_innerEvents i).renderIn_element .outermost e.name e.attrs

/-- Inner markup is the same inside a raw text element if the texts directly inside allow it. -/
theorem renderIn_raw_innerEvents_iff (h : Sound t)
    (hd : ∀ c ∈ t.children (some i), t.content? (some c) ≠ some .document) :
    renderIn ⟨true, false⟩ (t.innerEvents (some i)) = t.innerHtml (some i) ↔
      ∀ s ∈ t.texts i, escapeText s = s := by
  have hb : ∀ c ∈ t.children (some i), Balanced (t.outerEvents c) := fun c _ =>
    h.balanced_outerEvents c
  have hlen : ∀ c ∈ t.children (some i), (renderIn ⟨true, false⟩ (t.outerEvents c)).length ≤
      (renderIn .outermost (t.outerEvents c)).length := fun c hc =>
    (hb c hc).length_renderIn_le (.of_outermost _)
  have hi : t.innerHtml (some i) = renderIn .outermost (t.innerEvents (some i)) := rfl
  rw [hi, h.innerEvents_eq_flatMap, Markup.renderIn_flatMap hb, Markup.renderIn_flatMap hb,
    Markup.join_map_eq_iff hlen]
  simp only [Tree.texts, List.mem_filterMap]
  constructor
  · rintro hr s ⟨c, hc, hs⟩
    exact (h.renderIn_raw_eq_iff (hd c hc)).mp (hr c hc) s hs
  · intro hs c hc
    exact (h.renderIn_raw_eq_iff (hd c hc)).mpr fun s hcs => hs s ⟨c, hc, hcs⟩

/-- An element is written as tags around its inner markup exactly if its name and the texts directly
inside allow it. -/
theorem outerHtml_eq_iff (h : Sound t) (he : t.element? (some i) = some e)
    (hd : ∀ c ∈ t.children (some i), t.content? (some c) ≠ some .document) :
    t.outerHtml (some i) = startTag e.name e.attrs ++ t.innerHtml (some i) ++ endTag e.name ↔
      Markup.Wraps e.name (t.texts i) := by
  rw [h.outerHtml_element he, Frame.wrap, Markup.Wraps]
  have hc : Frame.outermost.childless = false := rfl
  simp only [hc, Bool.false_eq_true, if_false]
  cases hv : isVoid e.name with
  | true =>
    -- A void element is written without its end tag, and nothing inside it makes up for that.
    refine iff_of_false (fun heq => ?_) fun hw => by cases hw.1
    have hlen := congrArg String.length heq
    have hin := (h.balanced_innerEvents i).length_renderIn_le
      (.of_outermost (Frame.outermost.under e.name))
    have hout : t.innerHtml (some i) = renderIn .outermost (t.innerEvents (some i)) := rfl
    have hend : 0 < (endTag e.name).length := by
      simp only [endTag, String.length_append]
      exact Nat.add_pos_right _ (by decide)
    rw [← hout] at hin
    simp only [if_true, String.length_append, String.length_empty] at hlen
    omega
  | false =>
    have hu : Frame.outermost.under e.name = ⟨isRawText e.name, false⟩ := by
      rw [Frame.under, hv]
      rfl
    rw [hu, if_neg Bool.false_ne_true, String.append_left_inj, String.append_right_inj]
    cases hr : isRawText e.name with
    | false => exact iff_of_true rfl ⟨rfl, fun hraw => absurd hraw Bool.false_ne_true⟩
    | true =>
      rw [h.renderIn_raw_innerEvents_iff hd]
      simp

/-- The markup of an element is part of the markup of an element around it that is not void. -/
theorem outerHtml_infix_of_mem (h : Sound t) (hc : c ∈ t.children (some p)) {e' : Element}
    (he : t.element? (some c) = some e) (hp : t.element? (some p) = some e')
    (hv : isVoid e'.name = false) :
    (t.outerHtml (some c)).toList <:+: (t.outerHtml (some p)).toList := by
  have hb : ∀ d ∈ t.children (some p), Balanced (t.outerEvents d) := fun d _ =>
    h.balanced_outerEvents d
  have hsame : renderIn ⟨isRawText e'.name, false⟩ (t.outerEvents c) = t.outerHtml (some c) := by
    have hx := Tree.content?_of_element? he
    cases isRawText e'.name with
    | false => rfl
    | true =>
      refine (h.renderIn_raw_eq_iff (by simp [hx])).mpr fun s hs => ?_
      simp [Tree.text?_eq, hx, Content.text?] at hs
  have hu : Frame.outermost.under e'.name = ⟨isRawText e'.name, false⟩ := by
    rw [Frame.under, hv]
    rfl
  have hin : (t.outerHtml (some c)).toList <:+:
      (renderIn ⟨isRawText e'.name, false⟩ (t.innerEvents (some p))).toList := by
    rw [h.innerEvents_eq_flatMap, Markup.renderIn_flatMap hb, ← hsame]
    exact Markup.infix_join (List.mem_map_of_mem hc)
  have hf : Frame.outermost.childless = false := rfl
  rw [h.outerHtml_element hp, hu, Frame.wrap, hf, if_neg Bool.false_ne_true]
  simp only [String.toList_append]
  exact hin.trans ⟨_, _, rfl⟩

/-- An attached element shows in the markup of the page as it does by itself, unless it is inside a
void element or a node that is no element. -/
theorem outerHtml_infix_toHtml (h : Sound t) (he : t.element? (some i) = some e)
    (ha : t.isAttached (some i) = true)
    (hv : ∀ a ∈ t.ancestors (some i), a = document ∨
      ∃ e, t.element? (some a) = some e ∧ isVoid e.name = false) :
    (t.outerHtml (some i)).toList <:+: t.toHtml.toList := by
  rw [h.isAttached_iff, h.mem_within_iff] at ha
  have hne : document ≠ i := by
    rintro rfl
    simp [h.element?_document] at he
  -- The induction is on the way up from the element to the document.
  induction hup : t.ancestors (some i) generalizing i e with
  | nil =>
    rw [hup, List.mem_singleton] at ha
    exact absurd ha hne
  | cons p rest ih =>
    cases hq : t.parent (some i) with
    | none =>
      rw [h.ancestors_of_loose hq] at hup
      cases hup
    | some q =>
      have hc := h.forest.listed q i hq
      have hx := h.forest.ancestors_of_parent hq
      obtain ⟨rfl, hrest⟩ := List.cons.inj (hup.symm.trans hx)
      rw [hx] at ha hv
      rcases hv p List.mem_cons_self with rfl | ⟨e', he', hv'⟩
      · rw [Tree.toHtml, Tree.innerHtml, h.innerEvents_eq_flatMap,
          Markup.render_flatMap fun d _ => h.balanced_outerEvents d]
        exact Markup.infix_join (List.mem_map_of_mem (f := fun d => render (t.outerEvents d)) hc)
      · have hnp : document ≠ p := by
          rintro rfl
          simp [h.element?_document] at he'
        have hap := (List.mem_cons.mp ha).resolve_left hne
        refine (h.outerHtml_infix_of_mem hc he he' hv').trans
          (ih he' hap (fun a hm => hv a (List.mem_cons_of_mem p hm)) hnp hrest.symm)

end Sound

/-- No edit makes a document. -/
theorem Edit.content?_of_run {t : Tree} {k : Link} (e : Edit)
    (h : (e.run t).content? k = some .document) : t.content? k = some .document := by
  have hnew : ∀ {c : Content}, c ≠ .document → (t.create c).2.content? k = some .document →
      t.content? k = some .document := by
    intro c hc hk
    rw [Tree.content?_create] at hk
    split at hk
    · exact absurd (Option.some.inj hk) hc
    · exact hk
  have hset : ∀ i name value, (t.setAttr (some i) name value).content? k = some .document →
      t.content? k = some .document := by
    intro i name value hk
    cases he : t.element? (some i) with
    | none => rwa [Tree.setAttr_of_not_element he] at hk
    | some e =>
      rw [Tree.content?_setAttr he] at hk
      split at hk
      · cases Option.some.inj hk
      · exact hk
  cases e with
  | createElement name attrs =>
    rw [run, Tree.content?_createElement] at h
    split at h
    · cases Option.some.inj h
    · exact h
  | createText text => exact hnew (c := .text text) nofun h
  | createComment text => exact hnew (c := .comment text) nofun h
  | createDoctype name publicId systemId =>
    exact hnew (c := .doctype name publicId systemId) nofun h
  | append parent child => rwa [run, Tree.content?_append] at h
  | insertBefore sibling node => rwa [run, Tree.content?_insertBefore] at h
  | appendText parent text =>
    rw [run, Tree.content?_appendText] at h
    split at h <;> split at h
    · obtain ⟨_, _, he⟩ := Option.map_eq_some_iff.mp h
      cases he
    · exact h
    · cases Option.some.inj h
    · exact h
  | detach target => rwa [run, Tree.content?_detach] at h
  | replace old node => rwa [run, Tree.content?_replace] at h
  | moveChildren source target => rwa [run, Tree.content?_moveChildren] at h
  | setAttr node name value => exact hset node name value h
  | addClass node token =>
    rw [run, Tree.addClass] at h
    split at h
    · exact h
    · exact hset node _ _ h
  | removeClass node token =>
    rw [run, Tree.removeClass] at h
    split at h
    · exact hset node _ _ h
    · exact h

/-- There is one document. -/
theorem Built.eq_document {t : Tree} (h : Built t) {i : NodeId}
    (hi : t.content? (some i) = some .document) : i = document := by
  induction h with
  | empty =>
    cases i with
    | zero => rfl
    | succ i => simp [Tree.content?, Tree.get?, Tree.empty] at hi
  | edit _ e _ ih => exact ih (e.content?_of_run hi)

namespace TagRename

variable {target : String} {found : List NodeId} {t t' : Tree} {n i : NodeId}

theorem map_successor_of_not_mem {first : NodeId} {l : List NodeId} (h : ∀ c ∈ l, c ∉ found) :
    l.map (successor first found) = l := by
  have hm : l.map (successor first found) = l.map id :=
    List.map_congr_left fun c hc => successor_of_not_mem (h c hc)
  rw [hm, List.map_id]

namespace Stage

theorem element? (h : Stage target t found t') (hn : n ∈ found) {e : Element}
    (he : t.element? (some n) = some e) :
    t'.element? (some (successor t.size found n)) = some { e with name := .html target } := by
  refine Tree.element?_of_content? ?_
  rw [h.made n hn, Tree.content?_of_element? he]
  rfl

/-- Renaming an element makes no text and no document. -/
theorem text? (h : Stage target t found t') (hi : i < t.size) :
    t'.text? (some (successor t.size found i)) = t.text? (some i) := by
  have hc := congrArg Prod.snd (h.content? hi)
  simp only [relabel] at hc
  rw [Tree.text?_eq, Tree.text?_eq, hc]
  split
  · cases t.content? (some i) with
    | none => rfl
    | some c => cases c <;> rfl
  · rfl

theorem content?_eq_document (h : Stage target t found t') (hi : i < t.size)
    (hd : t'.content? (some (successor t.size found i)) = some .document) :
    t.content? (some i) = some .document := by
  have hc := congrArg Prod.snd (h.content? hi)
  simp only [relabel, hd] at hc
  split at hc
  · obtain ⟨c, hc, he⟩ := Option.map_eq_some_iff.mp hc.symm
    cases c with
    | document => exact hc
    | _ => cases he
  · exact hc.symm

theorem texts (ht : Sound t) (h : Stage target t found t') (hn : n < t.size) :
    t'.texts (successor t.size found n) = t.texts n := by
  rw [Tree.texts, Tree.texts, h.children n hn, List.filterMap_map]
  exact List.filterMap_congr fun c hc => h.text? (ht.forest.lt_size_of_mem hc)

/-- The attached nodes are those in the places of the attached nodes that there were. -/
theorem mem_within_iff (ht : Sound t) (h : Stage target t found t') (hd : document ∉ found) :
    i ∈ t'.within document ↔ ∃ m ∈ t.within document, i = successor t.size found m := by
  have hw : t'.within document = (t.within document).map (successor t.size found) := by
    rw [Tree.within, Tree.within]
    change t'.page.preorder.map Prod.fst = _
    rw [h.page ht hd, Branch.preorder_map, List.map_map, List.map_map]
    rfl
  rw [hw, List.mem_map]
  simp only [eq_comm]

/-- A renamed element is where the old one was. -/
theorem isAttached (ht : Sound t) (h : Stage target t found t') (hd : document ∉ found)
    (ha : t.isAttached (some i) = true) :
    t'.isAttached (some (successor t.size found i)) = true := by
  rw [ht.isAttached_iff] at ha
  rw [h.sound.isAttached_iff, h.mem_within_iff ht hd]
  exact ⟨i, ha, rfl⟩

/-- Where nothing is renamed the events stay the same. -/
theorem outerEvents (ht : Sound t) (h : Stage target t found t') (hi : i < t.size)
    (hn : ∀ x ∈ t.within i, x ∉ found) : t'.outerEvents i = t.outerEvents i := by
  have hlt : ∀ x ∈ t.within i, x < t.size := fun x hx => ht.lt_size_of_mem_within hi hx
  apply ht.outerEvents_congr h.sound
  · intro x hx
    exact h.kept x (hlt x hx)
  · intro x hx
    have hk := h.children x (hlt x hx)
    rwa [successor_of_not_mem (hn x hx), map_successor_of_not_mem fun c hc =>
      hn c (ht.mem_within_of_mem hx hc)] at hk

end Stage

/-- How the element in the place of `n` is written. -/
structure Rewritten (target : String) (found : List NodeId) (t t' : Tree) (n : NodeId) :
    Prop where
  /-- As tags around its inner markup, exactly if its name and the texts directly inside
  allow it. -/
  wrapped : t'.outerHtml (some (successor t.size found n)) =
      startTag (.html target) (t.attrs (some n)) ++
        t'.innerHtml (some (successor t.size found n)) ++ endTag (.html target) ↔
    Markup.Wraps (.html target) (t.texts n)
  /-- Its inner markup is that of the old children, or of what is in their places. -/
  inner : t'.innerHtml (some (successor t.size found n)) =
    String.join ((t.children (some n)).map fun c => t'.outerHtml (some (successor t.size found c)))
  /-- It is what it was unless something inside is renamed as well. -/
  unchanged : (∀ x ∈ t.descendants (some n), x ∉ found) →
    t'.innerHtml (some (successor t.size found n)) = t.innerHtml (some n)
  /-- The page shows it as it is by itself, unless it is inside a void element. -/
  shown : (∀ a ∈ t'.ancestors (some (successor t.size found n)), a = document ∨
      ∃ e, t'.element? (some a) = some e ∧ isVoid e.name = false) →
    (t'.outerHtml (some (successor t.size found n))).toList <:+: t'.toHtml.toList

theorem Stage.rewritten (h : Built t) (hst : Stage target t found t') (hd : document ∉ found)
    (hn : n ∈ found) (ha : t.isAttached (some n) = true) {e : Element}
    (he : t.element? (some n) = some e) : Rewritten target found t t' n := by
  have ht := h.sound
  have hlt := Tree.lt_size_of_element? he
  have he' := hst.element? hn he
  have hk := hst.children n hlt
  have hattrs : t.attrs (some n) = e.attrs := by simp [Tree.attrs, he]
  refine ⟨?wrapped, ?inner, ?unchanged, ?shown⟩
  case wrapped =>
    have hiff := hst.sound.outerHtml_eq_iff he' ?nodoc
    case nodoc =>
      intro d hd' hdoc
      rw [hk] at hd'
      obtain ⟨c, hc, rfl⟩ := List.mem_map.mp hd'
      have hx := hst.content?_eq_document (ht.forest.lt_size_of_mem hc) hdoc
      exact ht.document_not_mem n (h.eq_document hx ▸ hc)
    rwa [hst.texts ht hlt, ← hattrs] at hiff
  case inner =>
    rw [Tree.innerHtml, hst.sound.innerEvents_eq_flatMap, hk,
      Markup.render_flatMap fun d _ => hst.sound.balanced_outerEvents d, List.map_map]
    rfl
  case unchanged =>
    intro hx
    have hc : ∀ c ∈ t.children (some n), c < t.size ∧ ∀ x ∈ t.within c, x ∉ found := by
      intro c hc
      refine ⟨ht.forest.lt_size_of_mem hc, fun x hxc => hx x ?_⟩
      rw [ht.descendants_eq]
      exact List.mem_flatMap.mpr ⟨c, hc, hxc⟩
    rw [Tree.innerHtml, Tree.innerHtml, hst.sound.innerEvents_eq_flatMap,
      ht.innerEvents_eq_flatMap, hk, map_successor_of_not_mem fun c hm =>
        (hc c hm).2 c (ht.mem_within_iff.mpr List.mem_cons_self), List.flatMap_def,
      List.flatMap_def, List.map_congr_left fun c hm => hst.outerEvents ht (hc c hm).1 (hc c hm).2]
  case shown =>
    exact hst.sound.outerHtml_infix_toHtml he' (hst.isAttached ht hd ha)

end TagRename

/-- With settings that pass the check, every renamed element is written as tags around its content
unless its new name or the texts directly inside stand against it. -/
theorem Built.rewritten_renameTags {t : Tree} (h : Built t) {s : Settings}
    (hv : s.validate = .ok ()) : ∃ source, Selector.parse s.tags.source = .ok source ∧
      ∀ n ∈ t.select source, TagRename.Rewritten s.tags.target (t.select source) t
        (renameTags s.tags t).tree n := by
  obtain ⟨_, _, source, hs⟩ := Settings.parse_of_validate hv
  refine ⟨source, hs, fun n hn => ?_⟩
  obtain ⟨_, e, he⟩ := h.sound.mem_select hn
  exact (h.sound.stage_renameTags s.tags hs).rewritten h (h.sound.document_not_mem_select source) hn
    (h.sound.isAttached_of_mem_select hn) he

/-- A command with a text to escape and an element inside. -/
def commandLine : List Edit :=
  [.createElement (.html "p") [], .append 0 1, .createElement (.html "tt") [.plain "class" "cmd"],
    .append 1 2, .appendText 2 "a<b ", .createElement (.html "b") [], .append 2 4,
    .appendText 4 "-l"]

/-- The usual settings, but for the name that tags are given. -/
def Settings.naming (target : String) : Settings := { tags := { target } }

theorem rewritten_commandLine :
    LegalRun .empty commandLine ∧ (Settings.naming "kbd").validate = .ok () ∧
      (renameTags (Settings.naming "kbd").tags (commandLine.foldl Edit.run .empty)).tree.toHtml =
        "<p><kbd class=\"cmd\">a&lt;b <b>-l</b></kbd></p>" ∧
      ∃ source, Selector.parse (Settings.naming "kbd").tags.source = .ok source ∧
        ∀ n ∈ (commandLine.foldl Edit.run .empty).select source,
          TagRename.Rewritten (Settings.naming "kbd").tags.target
            ((commandLine.foldl Edit.run .empty).select source)
            (commandLine.foldl Edit.run .empty)
            (renameTags (Settings.naming "kbd").tags (commandLine.foldl Edit.run .empty)).tree
            n := by
  have hl : LegalRun .empty commandLine := by decide +kernel
  have hv : (Settings.naming "kbd").validate = .ok () := by decide +kernel
  exact ⟨hl, hv, by decide +kernel, (Built.empty.run hl).rewritten_renameTags hv⟩

/-- The check lets names pass under which the content of the new element 6 is not kept: a line break
loses the tags inside it and its own end, and in a script texts are not escaped. -/
theorem not_wrapped_commandLine :
    LegalRun .empty commandLine ∧
      ((Selector.parse "tt").toOption.map (commandLine.foldl Edit.run .empty).select) = some [2] ∧
      ∀ target ∈ ["br", "script"], (Settings.naming target).validate = .ok () ∧
        (renameTags (Settings.naming target).tags (commandLine.foldl Edit.run .empty)).result =
          .ok 1 ∧
        (renameTags (Settings.naming target).tags
          (commandLine.foldl Edit.run .empty)).tree.innerHtml (some 6) = "a&lt;b <b>-l</b>" ∧
        (renameTags (Settings.naming target).tags
          (commandLine.foldl Edit.run .empty)).tree.outerHtml (some 6) ≠
          startTag (.html target) [.plain "class" "cmd"] ++ "a&lt;b <b>-l</b>" ++
            endTag (.html target) := by
  decide +kernel

end CoursePage
