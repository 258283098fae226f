import CoursePage.Proofs.Contents

/-!
Attributes that are written and read back: the id and the class tokens of an element, and the
index of ids.
-/

namespace CoursePage

namespace Text

variable {cut : Char → Bool} {w : List Char}

theorem pieces_of_uncut (hw : ∀ c ∈ w, cut c = false) : pieces cut w = [w] := by
  induction w with
  | nil => rfl
  | cons c w ih =>
    have hc := hw c List.mem_cons_self
    simp [pieces, hc, ih fun d hd => hw d (List.mem_cons_of_mem c hd)]

theorem pieces_append_cons (hw : ∀ c ∈ w, cut c = false) {sep : Char} (hs : cut sep = true)
    (cs : List Char) : pieces cut (w ++ sep :: cs) = w :: pieces cut cs := by
  induction w with
  | nil => simp [pieces, hs]
  | cons c w ih =>
    have hc := hw c List.mem_cons_self
    simp [pieces, hc, ih fun d hd => hw d (List.mem_cons_of_mem c hd)]

/-- Words that are joined with a text behind them are cut off again. -/
theorem words_intercalate_concat {sep : Char} (hs : cut sep = true) {ws : List (List Char)}
    (hw : ∀ w ∈ ws, w ≠ [] ∧ ∀ c ∈ w, cut c = false) (last : List Char) :
    words cut (List.intercalate [sep] (ws ++ [last])) = ws ++ words cut last := by
  induction ws with
  | nil => simp
  | cons w ws ih =>
    obtain ⟨hne, hc⟩ := hw w List.mem_cons_self
    have ih := ih fun v hv => hw v (List.mem_cons_of_mem w hv)
    obtain ⟨v, vs, hv⟩ := List.exists_cons_of_ne_nil (List.concat_ne_nil last ws)
    rw [List.cons_append, hv, List.intercalate_cons_cons, List.append_assoc, List.singleton_append,
      words, pieces_append_cons hc hs, ← hv]
    simpa [words, hne] using ih

/-- Words that are joined with a separator are cut apart again. -/
theorem words_intercalate {sep : Char} (hs : cut sep = true) {ws : List (List Char)}
    (hw : ∀ w ∈ ws, w ≠ [] ∧ ∀ c ∈ w, cut c = false) :
    words cut (List.intercalate [sep] ws) = ws := by
  rcases List.eq_nil_or_concat ws with rfl | ⟨front, last, rfl⟩
  · simp [words, pieces]
  · obtain ⟨hne, hc⟩ := hw last (by simp)
    rw [List.concat_eq_append, words_intercalate_concat hs fun w hm => hw w (by simp [hm]), words,
      pieces_of_uncut hc]
    simp [hne]

/-- A text that can stand between blanks. -/
def IsToken (s : String) : Prop := s ≠ "" ∧ ∀ c ∈ s.toList, isBlank c = false

instance (s : String) : Decidable (IsToken s) :=
  decidable_of_iff (s ≠ "" ∧ s.toList.all (fun c => !isBlank c) = true) (by simp [IsToken])

theorem isToken_of_mem_blankWords {s token : String} (h : token ∈ blankWords s) :
    IsToken token := by
  obtain ⟨w, hw, rfl⟩ := List.mem_map.mp h
  obtain ⟨hp, hne⟩ := List.mem_filter.mp hw
  refine ⟨?_, ?_⟩
  · simpa using hne
  · simpa using not_cut_of_mem_pieces hp

/-- Tokens that are joined with blanks are cut apart again. -/
theorem blankWords_intercalate {tokens : List String} (h : ∀ token ∈ tokens, IsToken token) :
    blankWords (" ".intercalate tokens) = tokens := by
  have hw : ∀ w ∈ tokens.map String.toList, w ≠ [] ∧ ∀ c ∈ w, isBlank c = false := by
    intro w hw
    obtain ⟨token, ht, rfl⟩ := List.mem_map.mp hw
    exact ⟨by simpa using (h token ht).1, (h token ht).2⟩
  have hs : " ".toList = [' '] := rfl
  rw [blankWords, String.toList_intercalate, hs, words_intercalate (by decide) hw, List.map_map]
  simp [Function.comp_def]

end Text

namespace Element

variable {e : Element} {attrs : List Attribute} {name other value token : String}

theorem lastValue?_cons (name : String) (a : Attribute) (attrs : List Attribute) :
    lastValue? name (a :: attrs) =
      (lastValue? name attrs).or (if a.name.name = name then some a.value else none) := by
  by_cases ha : a.name.name = name <;>
    cases hf : attrs.reverse.find? fun a => a.name.name == name <;>
      simp [lastValue?, List.find?_append, hf, ha]

theorem lastValue?_eq_none (h : name ∉ attrs.map fun a => a.name.name) :
    lastValue? name attrs = none := by
  simpa [lastValue?, List.find?_eq_none] using h

/-- Only a name that was not there is added to the names. -/
theorem names_assign (name value : String) (attrs : List Attribute) :
    ((assign name value attrs).map fun a => a.name.name) =
      if name ∈ attrs.map fun a => a.name.name then attrs.map fun a => a.name.name
      else (attrs.map fun a => a.name.name) ++ [name] := by
  induction attrs with
  | nil => rfl
  | cons a attrs ih =>
    by_cases ha : a.name.name = name
    · simp [assign, ha]
    · simp only [assign, beq_iff_eq, ha, if_false, List.map_cons, ih, List.mem_cons, Ne.symm ha,
        false_or]
      split <;> rfl

/-- Attributes that are told apart from the written one by their local names stay in order. -/
theorem filter_assign {p : String → Bool} (hp : p name = false) (value : String)
    (attrs : List Attribute) : (assign name value attrs).filter (fun a => p a.name.name) =
      attrs.filter fun a => p a.name.name := by
  induction attrs with
  | nil => simp [assign, Attribute.plain, hp]
  | cons a attrs ih =>
    by_cases ha : a.name.name = name
    · subst name
      simp [assign, hp]
    · simp [assign, ha, List.filter_cons, ih]

/-- Where no two attributes share a local name, a value that was written is read back. -/
theorem lastValue?_assign_self (h : (attrs.map fun a => a.name.name).Nodup) :
    lastValue? name (assign name value attrs) = some value := by
  induction attrs with
  | nil => simp [assign, lastValue?_cons, lastValue?_eq_none, Attribute.plain]
  | cons a attrs ih =>
    rw [List.map_cons, List.nodup_cons] at h
    by_cases ha : a.name.name = name
    · subst name
      simp [assign, lastValue?_cons, lastValue?_eq_none h.1]
    · simp [assign, ha, lastValue?_cons, ih h.2]

theorem lastValue?_assign_of_ne (h : other ≠ name) :
    lastValue? other (assign name value attrs) = lastValue? other attrs := by
  induction attrs with
  | nil => simp [assign, lastValue?_cons, Attribute.plain, h.symm]
  | cons a attrs ih =>
    by_cases ha : a.name.name = name
    · subst name
      simp [assign, lastValue?_cons, h.symm]
    · simp [assign, ha, lastValue?_cons, ih]

/-- An element that agrees with its attributes, no two of which share a local name. -/
structure Regular (e : Element) : Prop where
  synced : e = ofAttrs e.name e.attrs
  distinct : (e.attrs.map fun a => a.name.name).Nodup

theorem regular_withAttr (h : e.Regular) (name value : String) :
    (e.withAttr name value).Regular where
  synced := rfl
  distinct := by
    have hn : ((assign name value e.attrs).map fun a => a.name.name).Nodup := by
      rw [names_assign]
      split
      · exact h.distinct
      · rename_i hm
        refine List.nodup_append.mpr ⟨h.distinct, by simp, fun a ha b hb hab => hm ?_⟩
        rwa [← List.mem_singleton.mp hb, ← hab]
    exact hn

theorem id_withAttr_id (h : e.Regular) (value : String) : (e.withAttr "id" value).id = some value :=
  lastValue?_assign_self h.distinct

theorem classes_withAttr_id (h : e.Regular) (value : String) :
    (e.withAttr "id" value).classes = e.classes := by
  rw [h.synced]
  simp [withAttr, ofAttrs, classTokens, lastValue?_assign_of_ne]

theorem id_withAttr_class (h : e = ofAttrs e.name e.attrs) (value : String) :
    (e.withAttr "class" value).id = e.id := by
  rw [h]
  simp [withAttr, ofAttrs, lastValue?_assign_of_ne]

theorem classes_withAttr_class (h : e.Regular) {tokens : List String}
    (ht : ∀ token ∈ tokens, Text.IsToken token) :
    (e.withAttr "class" (" ".intercalate tokens)).classes = tokens := by
  simp [withAttr, ofAttrs, classTokens, lastValue?_assign_self h.distinct,
    Text.blankWords_intercalate ht]

theorem isToken_of_mem_classes (h : e.Regular) (ht : token ∈ e.classes) : Text.IsToken token := by
  rw [h.synced] at ht
  simp only [ofAttrs, classTokens] at ht
  split at ht
  · exact Text.isToken_of_mem_blankWords ht
  · simp at ht

/-- The element with one class token more, unless it has the token. -/
def addClass (e : Element) (token : String) : Element :=
  if token ∈ e.classes then e else e.withAttr "class" (" ".intercalate (e.classes ++ [token]))

def removeClass (e : Element) (token : String) : Element :=
  if token ∈ e.classes then
    e.withAttr "class" (" ".intercalate (e.classes.filter fun c => c != token))
  else e

theorem regular_addClass (h : e.Regular) (token : String) : (e.addClass token).Regular := by
  unfold addClass
  split
  · exact h
  · exact regular_withAttr h _ _

theorem regular_removeClass (h : e.Regular) (token : String) : (e.removeClass token).Regular := by
  unfold removeClass
  split
  · exact regular_withAttr h _ _
  · exact h

theorem id_addClass (h : e = ofAttrs e.name e.attrs) (token : String) :
    (e.addClass token).id = e.id := by
  unfold addClass
  split
  · rfl
  · exact id_withAttr_class h _

theorem id_removeClass (h : e = ofAttrs e.name e.attrs) (token : String) :
    (e.removeClass token).id = e.id := by
  unfold removeClass
  split
  · exact id_withAttr_class h _
  · rfl

theorem classes_addClass (h : e.Regular) (ht : Text.IsToken token) :
    (e.addClass token).classes =
      if token ∈ e.classes then e.classes else e.classes ++ [token] := by
  unfold addClass
  split
  · rfl
  · refine classes_withAttr_class h fun c hc => ?_
    rcases List.mem_append.mp hc with hc | hc
    · exact isToken_of_mem_classes h hc
    · exact List.mem_singleton.mp hc ▸ ht

theorem classes_removeClass (h : e.Regular) :
    (e.removeClass token).classes = e.classes.filter fun c => c != token := by
  unfold removeClass
  split
  · exact classes_withAttr_class h fun c hc =>
      isToken_of_mem_classes h (List.mem_filter.mp hc).1
  · rename_i hn
    refine (List.filter_eq_self.mpr fun c hc => ?_).symm
    simpa using fun he : c = token => hn (he ▸ hc)

theorem regular_addClasses (h : e.Regular) (tokens : List String) :
    (tokens.foldl addClass e).Regular := by
  induction tokens generalizing e with
  | nil => exact h
  | cons token tokens ih => exact ih (regular_addClass h token)

theorem id_addClasses (h : e.Regular) (tokens : List String) :
    (tokens.foldl addClass e).id = e.id := by
  induction tokens generalizing e with
  | nil => rfl
  | cons token tokens ih =>
    exact (ih (regular_addClass h token)).trans (id_addClass h.synced token)

/-- Of several tokens those are added that the element does not have, in their order. -/
theorem classes_addClasses (h : e.Regular) {tokens : List String} (hn : tokens.Nodup)
    (ht : ∀ token ∈ tokens, Text.IsToken token) :
    (tokens.foldl addClass e).classes =
      e.classes ++ tokens.filter fun c => !e.classes.contains c := by
  induction tokens generalizing e with
  | nil => simp
  | cons token tokens ih =>
    rw [List.nodup_cons] at hn
    have hc := classes_addClass h (ht token List.mem_cons_self)
    rw [List.foldl_cons, ih (regular_addClass h token) hn.2
      fun c hm => ht c (List.mem_cons_of_mem token hm), hc]
    by_cases hm : token ∈ e.classes
    · simp [hm]
    · have hf : ∀ c ∈ tokens, (!(e.classes ++ [token]).contains c) = !e.classes.contains c := by
        intro c hct
        have hne : c ≠ token := fun he => hn.1 (he ▸ hct)
        simp [hne]
      rw [if_neg hm, List.filter_congr hf]
      simp [hm]

end Element

namespace Tree

variable {t : Tree} {i : NodeId} {e : Element} {name value token : String}

/-- The index gives the node that claimed an id last, and no other id is affected. -/
theorem lookup_claimId (id : Option String) (i : NodeId) (key : String) :
    (t.claimId id i).ids.lookup key = if id = some key then some i else t.ids.lookup key := by
  cases id with
  | none => simp [claimId]
  | some s =>
    by_cases hs : s = key
    · simp [claimId, hs]
    · have hf : (t.ids.filter fun p => p.1 != s).lookup key = t.ids.lookup key := by
        induction t.ids with
        | nil => rfl
        | cons p ps ih =>
          obtain ⟨id, j⟩ := p
          by_cases hp : id = s
          · have hk : (key == s) = false := by simp [Ne.symm hs]
            simp [List.lookup_cons, hp, hk, ih]
          · simp [List.lookup_cons, hp, ih]
      have hk : (key == s) = false := by simp [Ne.symm hs]
      simp [claimId, hs, hf, List.lookup_cons, hk]

theorem lookup_setAttr (he : t.element? (some i) = some e) (name value key : String) :
    (t.setAttr (some i) name value).ids.lookup key =
      if (e.withAttr name value).id = some key then some i else t.ids.lookup key := by
  simp only [setAttr, he, lookup_claimId]
  rfl

/-- A class never changes which node has the element's id. -/
theorem lookup_setAttr_class (he : t.element? (some i) = some e)
    (hs : e = .ofAttrs e.name e.attrs) (hl : ∀ id, e.id = some id → t.ids.lookup id = some i)
    (value key : String) :
    (t.setAttr (some i) "class" value).ids.lookup key = t.ids.lookup key := by
  rw [lookup_setAttr he, Element.id_withAttr_class hs]
  split
  · rename_i hk
    exact (hl key hk).symm
  · rfl

theorem lookup_addClass (he : t.element? (some i) = some e)
    (hs : e = .ofAttrs e.name e.attrs) (hl : ∀ id, e.id = some id → t.ids.lookup id = some i)
    (token key : String) :
    (t.addClass (some i) token).ids.lookup key = t.ids.lookup key := by
  unfold addClass
  split
  · rfl
  · exact lookup_setAttr_class he hs hl _ _

theorem lookup_removeClass (he : t.element? (some i) = some e)
    (hs : e = .ofAttrs e.name e.attrs) (hl : ∀ id, e.id = some id → t.ids.lookup id = some i)
    (token key : String) :
    (t.removeClass (some i) token).ids.lookup key = t.ids.lookup key := by
  unfold removeClass
  split
  · exact lookup_setAttr_class he hs hl _ _
  · rfl

theorem content?_addClass (he : t.element? (some i) = some e) (token : String) (k : Link) :
    (t.addClass (some i) token).content? k =
      if k = some i then some (.element (e.addClass token)) else t.content? k := by
  have hc := content?_of_element? he
  by_cases ht : token ∈ e.classes
  · simp +contextual [addClass, Element.addClass, isElement, hasClass, classes, he, ht, hc]
  · simp [addClass, Element.addClass, isElement, hasClass, classes, he, ht, content?_setAttr he]

theorem content?_removeClass (he : t.element? (some i) = some e) (token : String) (k : Link) :
    (t.removeClass (some i) token).content? k =
      if k = some i then some (.element (e.removeClass token)) else t.content? k := by
  have hc := content?_of_element? he
  by_cases ht : token ∈ e.classes
  · simp [removeClass, Element.removeClass, hasClass, classes, he, ht, content?_setAttr he]
  · simp +contextual [removeClass, Element.removeClass, hasClass, classes, he, ht, hc]

end Tree

end CoursePage
