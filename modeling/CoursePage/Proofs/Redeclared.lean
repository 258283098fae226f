import CoursePage.Proofs.Declared
import CoursePage.Proofs.Octets

/-!
How little is changed to declare UTF-8, and that nothing is left to change. A content type keeps all
but the label behind its first charset, and what is written there is recognised again. Of the page
one attribute of each counted meta element gets another value.
-/

namespace CoursePage

open CoursePage.Tree (document)

namespace Encoding

variable {content front label rest : String}

/-- A content type in three parts: up to the end of its first charset with a sign directly behind
it, the label, and the rest. -/
structure LabelCut (content front label rest : String) : Prop where
  parts : content = front ++ label ++ rest
  key : EndsAtFirst "charset=".toList front.toList
  label : ∀ c ∈ label.toList, endsLabel c = false
  rest : ∀ c ∈ rest.toList.head?, endsLabel c = true

/-- A label names UTF-8, with or without quotes around it. -/
def isQuotedUtf8 (label : String) : Bool :=
  isUtf8Label (String.ofList (Text.trimBy isQuote label.toList))

theorem LabelCut.withUtf8Charset? (h : LabelCut content front label rest) :
    withUtf8Charset? content =
      if isQuotedUtf8 label then none else some (front ++ "utf-8" ++ rest) := by
  have hsplit : splitBehind? "charset=".toList content.toList =
      some (front.toList, label.toList ++ rest.toList) := by
    refine (splitBehind?_eq_some_iff (by decide)).mpr ⟨?_, h.key⟩
    simp [h.parts]
  have htake : (label.toList ++ rest.toList).takeWhile (fun c => !endsLabel c) = label.toList :=
    Text.takeWhile_append_of_stop (fun c hc => by simp [h.label c hc])
      fun c hc => by simp [h.rest c hc]
  have hdrop : (label.toList ++ rest.toList).dropWhile (fun c => !endsLabel c) = rest.toList := by
    have hall := List.takeWhile_append_dropWhile (p := fun c => !endsLabel c)
      (l := label.toList ++ rest.toList)
    rw [htake] at hall
    exact List.append_cancel_left hall
  rw [withUtf8Charset?_of_split hsplit, htake, hdrop, String.ofList_toList, String.ofList_toList]
  rfl

theorem exists_labelCut {cut : List Char × List Char}
    (h : splitBehind? "charset=".toList content.toList = some cut) :
    ∃ front label rest, LabelCut content front label rest := by
  obtain ⟨before, behind⟩ := cut
  obtain ⟨hc, hk⟩ := (splitBehind?_eq_some_iff (by decide)).mp h
  refine ⟨String.ofList before, String.ofList (behind.takeWhile fun c => !endsLabel c),
    String.ofList (behind.dropWhile fun c => !endsLabel c), ?_, by simpa using hk, ?_, ?_⟩
  · rw [String.append_assoc, ← String.ofList_append, ← String.ofList_append,
      List.takeWhile_append_dropWhile, ← hc, String.ofList_toList]
  · intro c hm
    rw [String.toList_ofList] at hm
    simpa using List.mem_takeWhile_imp hm
  · intro c hm
    rw [String.toList_ofList] at hm
    have hd := List.head?_dropWhile_not (fun c => !endsLabel c) behind
    rw [Option.mem_def.mp hm] at hd
    simpa using hd

/-- A content type is rewritten exactly if it has a charset that does not name UTF-8, and then
nothing but its label is. -/
theorem withUtf8Charset?_eq_some_iff {made : String} : withUtf8Charset? content = some made ↔
    ∃ front label rest, LabelCut content front label rest ∧ isQuotedUtf8 label = false ∧
      made = front ++ "utf-8" ++ rest := by
  constructor
  · intro h
    cases hs : splitBehind? "charset=".toList content.toList with
    | none =>
      rw [withUtf8Charset?_of_split_none hs] at h
      cases h
    | some cut =>
      obtain ⟨front, label, rest, hcut⟩ := exists_labelCut hs
      rw [hcut.withUtf8Charset?] at h
      cases hu : isQuotedUtf8 label with
      | true => simp [hu] at h
      | false =>
        rw [hu] at h
        exact ⟨front, label, rest, hcut, hu, (Option.some.inj h).symm⟩
  · rintro ⟨front, label, rest, hcut, hu, rfl⟩
    rw [hcut.withUtf8Charset?, hu]
    rfl

theorem endsLabel_utf8 : ∀ c ∈ "utf-8".toList, endsLabel c = false := by
  have hall : "utf-8".toList.all (fun c => !endsLabel c) = true := by decide
  simpa only [List.all_eq_true, Bool.not_eq_true'] using hall

theorem isQuotedUtf8_utf8 : isQuotedUtf8 "utf-8" = true := by decide +kernel

/-- The label that was written is found at the same place. -/
theorem withUtf8Charset?_of_made {made : String} (h : withUtf8Charset? content = some made) :
    withUtf8Charset? made = none := by
  obtain ⟨front, label, rest, hcut, -, rfl⟩ := withUtf8Charset?_eq_some_iff.mp h
  have hmade : LabelCut (front ++ "utf-8" ++ rest) front "utf-8" rest :=
    ⟨rfl, hcut.key, endsLabel_utf8, hcut.rest⟩
  rw [hmade.withUtf8Charset?, if_pos isQuotedUtf8_utf8]

theorem withUtf8Charset?_madeUtf8 (content : String) :
    withUtf8Charset? (madeUtf8 content) = none := by
  cases h : withUtf8Charset? content with
  | none => rwa [madeUtf8, h]
  | some made =>
    rw [madeUtf8, h]
    exact withUtf8Charset?_of_made h

/-- What the rewriting of a content type does, whatever characters the content type holds. -/
structure LabelRewritten (content : String) : Prop where
  /-- By offsets in octets the text is cut between characters only. -/
  cut : cutUtf8Charset? content = some (withUtf8Charset? content)
  minimal : ∀ made, withUtf8Charset? content = some made ↔
    ∃ front label rest, LabelCut content front label rest ∧ isQuotedUtf8 label = false ∧
      made = front ++ "utf-8" ++ rest
  settled : ∀ made, withUtf8Charset? content = some made → withUtf8Charset? made = none

end Encoding

namespace Element

variable {e : Element} {attrs : List Attribute} {name value old : String}

/-- `e'` is `e` with another value at one attribute, which has one of these local names. -/
def OtherValue (names : List String) (e e' : Element) : Prop :=
  ∃ before a after value, e.attrs = before ++ a :: after ∧ a.name.name ∈ names ∧
    value ≠ a.value ∧ e' = { e with attrs := before ++ { a with value } :: after }

theorem OtherValue.ne {names : List String} {e' : Element} (h : OtherValue names e e') :
    e ≠ e' := by
  obtain ⟨before, a, after, value, ha, -, hv, rfl⟩ := h
  intro he
  have hattrs := congrArg Element.attrs he
  simp only [ha, List.append_cancel_left_eq, List.cons.injEq, and_true] at hattrs
  exact hv (congrArg Attribute.value hattrs).symm

/-- A value that is there is overwritten in its place. -/
theorem exists_of_assign (h : firstValue? name attrs = some old) (value : String) :
    ∃ before a after, attrs = before ++ a :: after ∧ a.name.name = name ∧ a.value = old ∧
      assign name value attrs = before ++ { a with value } :: after := by
  induction attrs with
  | nil => simp [firstValue?] at h
  | cons a attrs ih =>
    rw [firstValue?_cons] at h
    by_cases ha : a.name.name = name
    · rw [if_pos ha] at h
      exact ⟨[], a, attrs, rfl, ha, Option.some.inj h, by simp [assign, ha]⟩
    · rw [if_neg ha] at h
      obtain ⟨before, b, after, rfl, hb, hv, hs⟩ := ih h
      exact ⟨a :: before, b, after, rfl, hb, hv, by simp [assign, ha, hs]⟩

theorem otherValue_withAttr {names : List String} (hs : e = ofAttrs e.name e.attrs)
    (hf : firstValue? name e.attrs = some old) (hv : value ≠ old) (hn : name ∈ names)
    (hi : name ≠ "id") (hc : name ≠ "class") : OtherValue names e (e.withAttr name value) := by
  obtain ⟨before, a, after, ha, rfl, rfl, hw⟩ := exists_of_assign hf value
  refine ⟨before, a, after, value, ha, hn, hv, ?_⟩
  have hid : (e.withAttr a.name.name value).id = e.id := by
    rw [hs]
    exact lastValue?_assign_of_ne hi.symm
  have hclasses : (e.withAttr a.name.name value).classes = e.classes := by
    rw [hs]
    simp only [withAttr, ofAttrs, classTokens, lastValue?_assign_of_ne hc.symm]
  rw [← hw, ← hid, ← hclasses]
  rfl

end Element

namespace Tree

variable {t t' : Tree} {m : NodeId} {done : List NodeId} {name value : String}

/-- What is written is another value for a charset or a content type. -/
theorem exists_of_utf8Declaration? (h : t.utf8Declaration? m = some (name, value)) :
    (name = "charset" ∨ name = "content") ∧
      ∃ old, t.attr? (some m) name = some old ∧ value ≠ old := by
  rw [utf8Declaration?] at h
  split at h
  · rename_i label hl
    split at h
    · cases h
    · rename_i hu
      cases h
      refine ⟨Or.inl rfl, label, hl, ?_⟩
      rintro rfl
      exact hu isUtf8Label_utf8
  · split at h
    · simp only [Option.bind_eq_bind, Option.bind_eq_some_iff, Option.pure_def,
        Option.some.injEq, Prod.mk.injEq] at h
      obtain ⟨old, ho, made, hm, rfl, rfl⟩ := h
      refine ⟨Or.inr rfl, old, ho, ?_⟩
      -- Nothing is rewritten to itself, since what was written is not rewritten again.
      rintro rfl
      rw [Encoding.withUtf8Charset?_of_made hm] at hm
      cases hm
    · cases h

/-- An element that declares UTF-8 already is left alone. -/
theorem Declared.utf8Declaration?_eq_none (h : Declared t done t') (hm : m ∈ done) :
    t'.utf8Declaration? m = none := by
  rw [utf8Declaration?, h.charset hm]
  cases hc : t.attr? (some m) "charset" with
  | some label =>
    rw [Option.map_some]
    refine if_pos ?_
    split
    · assumption
    · exact isUtf8Label_utf8
  | none =>
    by_cases hd : t.declaresContentType m = true
    · simp only [Option.map_none, h.contentType hm, hd, if_true, h.content hm hc hd]
      cases t.attr? (some m) "content" with
      | none => rfl
      | some content => simp [Encoding.withUtf8Charset?_madeUtf8]
    · simp [h.contentType hm, hd]

/-- `after` counts what was changed and holds `t` after the elements `done` were made to declare
UTF-8. -/
structure Recounted (t : Tree) (done : List NodeId) (after : Nat × Tree) : Prop where
  declared : Declared t done after.2
  count : after.1 = (done.filter fun m => (t.utf8Declaration? m).isSome).length
  rest : ∀ k, (∀ i ∈ done, k = some i → t.utf8Declaration? i = none) →
    after.2.get? k = t.get? k
  links : Forest.SameLinks t after.2
  size : after.2.size = t.size

namespace Recounted

variable {after : Nat × Tree}

theorem refl (h : Sound t) : Recounted t [] (0, t) :=
  ⟨.refl h, rfl, fun _ _ => rfl, .refl t, rfl⟩

theorem step (h : Recounted t done after) (hm : m ∉ done) :
    Recounted t (done ++ [m]) (declareUtf8At after m) := by
  -- The element is reached for the first time and says what it said at the start.
  have hself : after.2.utf8Declaration? m = t.utf8Declaration? m :=
    utf8Declaration?_congr (by rw [h.declared.element?, if_neg hm])
  have hdeclared := h.declared.step hm after.1
  cases hd : t.utf8Declaration? m with
  | none =>
    have hs : declareUtf8At after m = after := by simp [declareUtf8At, hself, hd]
    rw [hs] at hdeclared ⊢
    refine ⟨hdeclared, by simp [h.count, hd], fun k hk => h.rest k fun i hi => ?_, h.links, h.size⟩
    exact hk i (List.mem_append_left _ hi)
  | some declaration =>
    obtain ⟨name, value⟩ := declaration
    have hs : declareUtf8At after m =
        (after.1 + 1, after.2.setAttr (some m) name value) := by simp [declareUtf8At, hself, hd]
    rw [hs] at hdeclared ⊢
    refine ⟨hdeclared, by simp [h.count, hd], fun k hk => ?_,
      h.links.trans (Forest.sameLinks_setAttr _ _ _ _), by simpa using h.size⟩
    have hne : k ≠ some m := by
      rintro rfl
      simp [hk m (by simp) rfl] at hd
    rw [get?_setAttr_of_ne hne]
    exact h.rest k fun i hi => hk i (List.mem_append_left _ hi)

theorem run (h : Sound t) {found : List NodeId} (hf : found.Nodup) :
    Recounted t found (found.foldl declareUtf8At (0, t)) := by
  induction found using List.reverseRecOn with
  | nil => exact .refl h
  | append_singleton found m ih =>
    rw [← List.concat_eq_append, List.nodup_concat] at hf
    rw [List.foldl_append]
    exact (ih hf.2).step hf.1

/-- An element for which there is something to declare gets one other value. -/
theorem otherValue (h : Recounted t done after) (ht : Sound t) (hm : m ∈ done)
    (hd : (t.utf8Declaration? m).isSome = true) :
    ∃ e e', t.element? (some m) = some e ∧ after.2.element? (some m) = some e' ∧
      e.OtherValue ["charset", "content"] e' := by
  obtain ⟨⟨name, value⟩, hd⟩ := Option.isSome_iff_exists.mp hd
  obtain ⟨hname, old, ho, hv⟩ := exists_of_utf8Declaration? hd
  have he' := h.declared.element? m
  rw [if_pos hm, hd] at he'
  cases he : t.element? (some m) with
  | none => simp [attr?, attrs, he, Element.firstValue?] at ho
  | some e =>
    refine ⟨e, _, rfl, by rw [he', he]; rfl, ?_⟩
    have hf : Element.firstValue? name e.attrs = some old := by simpa [attr?, attrs, he] using ho
    have hs := ht.synced m _ (content?_of_element? he) e rfl
    exact Element.otherValue_withAttr hs hf hv (by simpa using hname)
      (by rcases hname with rfl | rfl <;> decide) (by rcases hname with rfl | rfl <;> decide)

end Recounted

/-- The nodes that differ in `t'` are meta elements of the page `t`, and each of them has another
value at one attribute that can declare an encoding. -/
structure Revalued (t t' : Tree) (changed : List NodeId) : Prop where
  once : changed.Nodup
  nodes : ∀ k, t'.get? k ≠ t.get? k ↔ ∃ i ∈ changed, k = some i
  attached : ∀ i ∈ changed, t.isAttached (some i) = true
  values : ∀ i ∈ changed, ∃ e e', t.element? (some i) = some e ∧ t'.element? (some i) = some e' ∧
    e.name.name = "meta" ∧ e.OtherValue ["charset", "content"] e'
  links : Forest.SameLinks t t'
  size : t'.size = t.size

/-- What declaring UTF-8 does to a page. -/
structure DeclaredOnce (t : Tree) : Prop where
  /-- Nothing is left to change. -/
  again : t.declareUtf8.2.declareUtf8 = (0, t.declareUtf8.2)
  /-- As many nodes are changed as are counted. -/
  counted : ∃ changed, t.Revalued t.declareUtf8.2 changed ∧ t.declareUtf8.1 = changed.length

/-- With nothing to declare the pass changes nothing and counts nothing. -/
theorem declareUtf8_of_declared (h : ∀ m ∈ t.findTags "meta", t.utf8Declaration? m = none) :
    t.declareUtf8 = (0, t) := by
  refine List.foldlRecOn (motive := fun after => after = (0, t)) _ declareUtf8At rfl ?_
  rintro _ rfl m hm
  simp [declareUtf8At, h m hm]

end Tree

theorem Sound.declaredOnce {t : Tree} (h : Sound t) : t.DeclaredOnce := by
  have hl := h.listsAttached_named "meta"
  have hr : Tree.Recounted t (t.findTags "meta") t.declareUtf8 := .run h hl.once
  refine ⟨Tree.declareUtf8_of_declared fun m hm => ?again,
    (t.findTags "meta").filter fun m => (t.utf8Declaration? m).isSome,
    ⟨hl.once.filter _, fun k => ?nodes, fun i hi => ?attached, fun i hi => ?values, hr.links,
      hr.size⟩, hr.count⟩
  case again =>
    -- The second pass finds the elements that the first one went over.
    obtain ⟨ha, hn⟩ := ((hr.declared.sound.listsAttached_named "meta").mem m).mp hm
    refine hr.declared.utf8Declaration?_eq_none ((hl.mem m).mpr ⟨?_, ?_⟩)
    · rw [← hr.declared.isAttached h, ha]
    · rwa [Tree.elementName, ← hr.declared.name m]
  case nodes =>
    constructor
    · intro hne
      by_contra hn
      refine hne (hr.rest k fun i hi hk => ?_)
      by_contra hd
      exact hn ⟨i, List.mem_filter.mpr ⟨hi, Option.isSome_iff_ne_none.mpr hd⟩, hk⟩
    · rintro ⟨i, hi, rfl⟩ heq
      obtain ⟨hm, hd⟩ := List.mem_filter.mp hi
      obtain ⟨e, e', he, he', ho⟩ := hr.otherValue h hm hd
      rw [Tree.element?, heq] at he'
      exact ho.ne (Option.some.inj (he.symm.trans he'))
  case attached => exact ((hl.mem i).mp (List.mem_filter.mp hi).1).1
  case values =>
    obtain ⟨hm, hd⟩ := List.mem_filter.mp hi
    obtain ⟨e, e', he, he', ho⟩ := hr.otherValue h hm hd
    exact ⟨e, e', he, he', by simpa [Tree.elementName, he] using ((hl.mem i).mp hm).2, ho⟩

/-- A content type is rewritten between its characters, as little as possible and once for all, and
so a page declares UTF-8 after one pass that changes what it counts. -/
theorem labelRewritten_and_declaredOnce :
    (∀ content, Encoding.LabelRewritten content) ∧ ∀ t, Built t → t.DeclaredOnce :=
  ⟨fun content => ⟨Encoding.cutUtf8Charset?_eq content,
    fun _ => Encoding.withUtf8Charset?_eq_some_iff, fun _ => Encoding.withUtf8Charset?_of_made⟩,
    fun _ h => h.sound.declaredOnce⟩

/-- A charset in quotes behind two letters whose small forms have other lengths, a charset that
names UTF-8, one that does not, and one that is not attached. -/
def foreignDeclarations : List Edit :=
  [.createElement (.html "meta")
      [.plain "content" "\u0130\u212a; CHARSET='ibm866'\u2003é", .plain "http-equiv" "CONTENT-type",
        .plain "class" "a"],
    .append 0 1, .createElement (.html "meta") [.plain "charset" " UTF8 "], .append 0 2,
    .createElement (.html "meta") [.plain "id" "x", .plain "charset" "ibm866"], .append 0 3,
    .createElement (.html "meta") [.plain "charset" "ibm866"]]

theorem declaredOnce_foreignDeclarations :
    LegalRun .empty foreignDeclarations ∧
      (foreignDeclarations.foldl Edit.run .empty).declareUtf8.1 = 2 ∧
      (foreignDeclarations.foldl Edit.run .empty).declareUtf8.2.attr? (some 1) "content" =
        some "\u0130\u212a; CHARSET=utf-8\u2003é" ∧
      Encoding.LabelRewritten "\u0130\u212a; CHARSET='ibm866'\u2003é" ∧
      (foreignDeclarations.foldl Edit.run .empty).DeclaredOnce := by
  obtain ⟨hl, hcount, hmade⟩ : LegalRun .empty foreignDeclarations ∧
      (foreignDeclarations.foldl Edit.run .empty).declareUtf8.1 = 2 ∧
      (foreignDeclarations.foldl Edit.run .empty).declareUtf8.2.attr? (some 1) "content" =
        some "\u0130\u212a; CHARSET=utf-8\u2003é" := by decide +kernel
  obtain ⟨hrewritten, honce⟩ := labelRewritten_and_declaredOnce
  exact ⟨hl, hcount, hmade, hrewritten _, honce _ (Built.empty.run hl)⟩

end CoursePage
