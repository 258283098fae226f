import CoursePage.Proofs.Calls
import CoursePage.Proofs.ContentType
import CoursePage.Proofs.DocumentOrder

/-!
The encoding that a page declares. Each meta element is read and written once, and no write reaches
another element, so what the page declares afterwards is known element by element. A content type
with spaces before its equals sign is the one declaration that is overlooked.
-/

namespace CoursePage

open CoursePage.Tree (document)

namespace Element

theorem firstValue?_cons (name : String) (a : Attribute) (attrs : List Attribute) :
    firstValue? name (a :: attrs) =
      if a.name.name = name then some a.value else firstValue? name attrs := by
  by_cases ha : a.name.name = name <;> simp [firstValue?, ha]

theorem firstValue?_assign {name other value : String} {attrs : List Attribute} :
    firstValue? other (assign name value attrs) =
      if other = name then some value else firstValue? other attrs := by
  split
  · subst other
    exact firstValue?_assign_self name value attrs
  · rename_i hn
    induction attrs with
    | nil => simp [assign, firstValue?, Attribute.plain, Ne.symm hn]
    | cons a attrs ih =>
      by_cases ha : a.name.name = name
      · rw [assign, if_pos (by simpa using ha), firstValue?_cons, firstValue?_cons,
          if_neg (ha ▸ Ne.symm hn), if_neg (ha ▸ Ne.symm hn)]
      · rw [assign, if_neg (by simpa using ha), firstValue?_cons, firstValue?_cons, ih]

/-- The element after a declaration was written to it, if there is one to write. -/
def withDeclaration (e : Element) : Option (String × String) → Element
  | none => e
  | some (name, value) => e.withAttr name value

end Element

namespace Tree

variable {t t' : Tree} {m : NodeId}

theorem utf8Declaration?_congr (h : t'.element? (some m) = t.element? (some m)) :
    t'.utf8Declaration? m = t.utf8Declaration? m := by
  have ha : ∀ name, t'.attr? (some m) name = t.attr? (some m) name := by
    simp [attr?, attrs, h]
  unfold utf8Declaration? declaresContentType
  rw [ha, ha, ha]

/-- Declarations are written to the attributes that hold them. -/
theorem ne_httpEquiv_of_utf8Declaration? {name value : String}
    (h : t.utf8Declaration? m = some (name, value)) : "http-equiv" ≠ name := by
  rw [utf8Declaration?] at h
  split at h
  · split at h
    · cases h
    · cases h
      decide
  · split at h
    · simp only [Option.bind_eq_bind, Option.bind_eq_some_iff, Option.pure_def,
        Option.some.injEq, Prod.mk.injEq] at h
      obtain ⟨_, _, _, _, rfl, _⟩ := h
      decide
    · cases h

theorem element?_setAttr (i k : NodeId) (name value : String) :
    (t.setAttr (some i) name value).element? (some k) =
      if k = i then (t.element? (some i)).map (·.withAttr name value) else t.element? (some k) := by
  cases he : t.element? (some i) with
  | none =>
    rw [setAttr_of_not_element he]
    split
    · rename_i hk
      rw [hk, he]
      rfl
    · rfl
  | some e =>
    rw [element?_eq, content?_setAttr he]
    by_cases hk : k = i
    · simp [hk, Content.element?]
    · simp [hk, element?_eq]

/-- Declaring UTF-8 at one element changes no other element. -/
theorem element?_declareUtf8At (done : Nat × Tree) (m k : NodeId) :
    (declareUtf8At done m).2.element? (some k) =
      if k = m then (done.2.element? (some m)).map (·.withDeclaration (done.2.utf8Declaration? m))
      else done.2.element? (some k) := by
  cases hd : done.2.utf8Declaration? m with
  | none =>
    simp only [declareUtf8At, hd]
    split
    · rename_i hk
      subst k
      simp [Element.withDeclaration]
    · rfl
  | some declaration =>
    simp only [declareUtf8At, hd]
    exact element?_setAttr m k _ _

/-- `t'` is `t` after the elements `done` were made to declare UTF-8. -/
structure Declared (t : Tree) (done : List NodeId) (t' : Tree) : Prop where
  sound : Sound t'
  children : ∀ p, t'.children (some p) = t.children (some p)
  element? : ∀ k, t'.element? (some k) =
    if k ∈ done then (t.element? (some k)).map (·.withDeclaration (t.utf8Declaration? k))
    else t.element? (some k)

namespace Declared

variable {done : List NodeId}

theorem refl (h : Sound t) : Declared t [] t := ⟨h, fun _ => rfl, by simp⟩

theorem step (h : Declared t done t') (hm : m ∉ done) (n : Nat) :
    Declared t (done ++ [m]) (declareUtf8At (n, t') m).2 where
  sound := by
    unfold declareUtf8At
    split
    · exact h.sound.setAttr _ _ _
    · exact h.sound
  children p := by
    rw [← h.children]
    unfold declareUtf8At
    split
    · exact (h.sound.forest.setAttr _ _ _).children_eq p
    · rfl
  element? k := by
    have hself : t'.element? (some m) = t.element? (some m) := by rw [h.element?, if_neg hm]
    rw [element?_declareUtf8At]
    by_cases hk : k = m
    · subst k
      simp [hself, utf8Declaration?_congr hself]
    · simp [hk, h.element?]

theorem run (h : Sound t) {found : List NodeId} (hf : found.Nodup) :
    Declared t found (found.foldl declareUtf8At (0, t)).2 := by
  induction found using List.reverseRecOn with
  | nil => exact .refl h
  | append_singleton found m ih =>
    obtain ⟨hn, hm⟩ : found.Nodup ∧ m ∉ found := by
      rw [List.nodup_append] at hf
      exact ⟨hf.1, fun hm => hf.2.2 m hm m (by simp) rfl⟩
    rw [List.foldl_append]
    exact (ih hn).step hm _

/-- What an element that was made to declare UTF-8 says in an attribute. -/
theorem attr? (h : Declared t done t') (hm : m ∈ done) (name : String) :
    t'.attr? (some m) name =
      match t.utf8Declaration? m with
      | none => t.attr? (some m) name
      | some (written, value) => if name = written then some value else t.attr? (some m) name := by
  have he := h.element? m
  rw [if_pos hm] at he
  cases ht : t.element? (some m) with
  | none =>
    have hd : t.utf8Declaration? m = none := by
      simp [utf8Declaration?, declaresContentType, Tree.attr?, attrs, ht, Element.firstValue?]
    rw [hd, Tree.attr?, Tree.attr?, attrs, attrs, he, ht]
    rfl
  | some e =>
    rw [Tree.attr?, Tree.attr?, attrs, attrs, he, ht]
    cases t.utf8Declaration? m with
    | none => rfl
    | some declaration => exact Element.firstValue?_assign

theorem charset (h : Declared t done t') (hm : m ∈ done) : t'.attr? (some m) "charset" =
    (t.attr? (some m) "charset").map fun label =>
      if Encoding.isUtf8Label label then label else "utf-8" := by
  rw [h.attr? hm, utf8Declaration?]
  cases hc : t.attr? (some m) "charset" with
  | some label => by_cases hu : Encoding.isUtf8Label label = true <;> simp [hu]
  | none =>
    by_cases hd : t.declaresContentType m = true
    · cases t.attr? (some m) "content" with
      | none => simp [hd]
      | some content => cases hw : Encoding.withUtf8Charset? content <;> simp [hd, hw]
    · simp [hd]

theorem contentType (h : Declared t done t') (hm : m ∈ done) :
    t'.declaresContentType m = t.declaresContentType m := by
  have ha : t'.attr? (some m) "http-equiv" = t.attr? (some m) "http-equiv" := by
    rw [h.attr? hm]
    split
    · rfl
    · rename_i hd
      exact if_neg (ne_httpEquiv_of_utf8Declaration? hd)
  rw [declaresContentType, declaresContentType, ha]

theorem content (h : Declared t done t') (hm : m ∈ done)
    (hc : t.attr? (some m) "charset" = none) (hd : t.declaresContentType m = true) :
    t'.attr? (some m) "content" = (t.attr? (some m) "content").map Encoding.madeUtf8 := by
  rw [h.attr? hm, utf8Declaration?, hc, hd]
  cases hv : t.attr? (some m) "content" with
  | none => simp
  | some content => cases hw : Encoding.withUtf8Charset? content <;> simp [Encoding.madeUtf8, hw]

theorem isAttached (h : Declared t done t') (ht : Sound t) (k : NodeId) :
    t'.isAttached (some k) = t.isAttached (some k) := by
  refine ht.isAttached_congr h.sound ?_
  refine ht.forest.trail_congr h.sound.forest (ht.forest.up k) fun i _ q => ?_
  rw [h.children]

theorem name (h : Declared t done t') (k : NodeId) :
    (t'.element? (some k)).map Element.name = (t.element? (some k)).map Element.name := by
  rw [h.element?]
  split
  · cases t.element? (some k) with
    | none => rfl
    | some e => cases t.utf8Declaration? k <;> rfl
  · rfl

end Declared

/-- Whatever an element says of the encoding of its page, by a charset or as a content type, is
UTF-8. -/
structure SaysUtf8 (t : Tree) (m : NodeId) : Prop where
  /-- A charset names UTF-8, also for readers that know no blanks but spaces around a label. -/
  charset : ∀ label, t.attr? (some m) "charset" = some label →
    Encoding.isUtf8Label label = true ∧ ∀ e, Encoding.ofLabel? label = some e → e = .utf8
  content : t.attr? (some m) "charset" = none → t.declaresContentType m = true →
    ∀ content, t.attr? (some m) "content" = some content →
      ∀ e, Encoding.ofContentType? content = some e → e = .utf8

/-- An element declares another encoding by a content type with spaces before its equals sign. -/
def OverlooksSign (t : Tree) (m : NodeId) : Prop :=
  t.attr? (some m) "charset" = none ∧ t.declaresContentType m = true ∧
    ∃ content, t.attr? (some m) "content" = some content ∧ Encoding.signApart content = true ∧
      ∃ e, Encoding.ofContentType? content = some e ∧ e ≠ .utf8

theorem isUtf8Label_utf8 : Encoding.isUtf8Label "utf-8" = true := by decide +kernel

theorem Declared.says_iff {done : List NodeId} (h : Declared t done t') (hm : m ∈ done) :
    t'.SaysUtf8 m ↔ ¬ t.OverlooksSign m := by
  constructor
  · rintro hs ⟨hc, hd, content, hv, ha, e, he, hne⟩
    have hc' : t'.attr? (some m) "charset" = none := by rw [h.charset hm, hc, Option.map_none]
    have hv' : t'.attr? (some m) "content" = some (Encoding.madeUtf8 content) := by
      rw [h.content hm hc hd, hv, Option.map_some]
    have hw := hs.content hc' (by rw [h.contentType hm, hd]) _ hv' e
    rw [(Encoding.ofContentType?_madeUtf8 content).1 ha] at hw
    exact hne (hw he)
  · intro hn
    refine ⟨fun label hl => ?_, fun hc hd content hv e he => ?_⟩
    · rw [h.charset hm, Option.map_eq_some_iff] at hl
      obtain ⟨old, -, rfl⟩ := hl
      have hu : Encoding.isUtf8Label (if Encoding.isUtf8Label old then old else "utf-8") =
          true := by
        split
        · assumption
        · exact isUtf8Label_utf8
      exact ⟨hu, fun e => Encoding.eq_utf8_of_isUtf8Label hu⟩
    · rw [h.charset hm, Option.map_eq_none_iff] at hc
      rw [h.contentType hm] at hd
      rw [h.content hm hc hd, Option.map_eq_some_iff] at hv
      obtain ⟨old, ho, rfl⟩ := hv
      cases ha : Encoding.signApart old with
      | false => exact (Encoding.ofContentType?_madeUtf8 old).2 ha e he
      | true =>
        rw [(Encoding.ofContentType?_madeUtf8 old).1 ha] at he
        by_contra hne
        exact hn ⟨hc, hd, old, ho, ha, e, he, hne⟩

end Tree

theorem Sound.listsAttached_named {t : Tree} (h : Sound t) (tag : String) :
    ListsAttached t (fun i => (t.elementName (some i)).any fun n => n.name == tag)
      (t.findTags tag) := by
  have ht : t.findTags tag = (t.descendants (some document)).filter fun i =>
      (t.elementName (some i)).any fun n => n.name == tag := by
    refine List.filter_congr fun i _ => ?_
    cases hn : t.get? (some i) <;>
      simp [Tree.elementName, Tree.element?, Tree.isNamed, hn, Option.any_map]
  rw [ht]
  exact h.listsAttached_filter (by simp [Tree.elementName, h.element?_document])

/-- After the rewriting, a meta element of the page says UTF-8 wherever it names an encoding, unless
it is a content type with spaces before its equals sign that declared another one. -/
theorem Built.saysUtf8_iff {t : Tree} (h : Built t) {m : NodeId}
    (ha : t.declareUtf8.2.isAttached (some m) = true)
    (hn : ((t.declareUtf8.2.elementName (some m)).any fun n => n.name == "meta") = true) :
    t.declareUtf8.2.SaysUtf8 m ↔ ¬ t.OverlooksSign m := by
  have hl := h.sound.listsAttached_named "meta"
  have hd : Tree.Declared t (t.findTags "meta") t.declareUtf8.2 := .run h.sound hl.once
  refine hd.says_iff ((hl.mem m).mpr ⟨?_, ?_⟩)
  · rw [← hd.isAttached h.sound, ha]
  · rwa [Tree.elementName, ← hd.name m]

/-- A page that declares an encoding three times: by a charset, as a content type, and as a content
type with spaces before the equals sign. -/
def declaringPage : List Edit :=
  [.createElement (.html "meta") [.plain "charset" "ibm866"], .append 0 1,
    .createElement (.html "meta")
      [.plain "http-equiv" " Content-Type", .plain "content" "text/html; Charset=ibm866"],
    .append 0 2,
    .createElement (.html "meta")
      [.plain "http-equiv" "content-type", .plain "content" "text/html; charset = ibm866"],
    .append 0 3]

/-- The page after the rewriting. -/
def declaredPage : Tree := (declaringPage.foldl Edit.run .empty).declareUtf8.2

theorem saysUtf8_declaringPage :
    LegalRun .empty declaringPage ∧
      (declaringPage.foldl Edit.run .empty).attr? (some 2) "content" =
        some "text/html; Charset=ibm866" ∧
      declaredPage.SaysUtf8 2 := by
  have hl : LegalRun .empty declaringPage := by decide +kernel
  have hv : (declaringPage.foldl Edit.run .empty).attr? (some 2) "content" =
      some "text/html; Charset=ibm866" := by decide +kernel
  refine ⟨hl, hv, ((Built.empty.run hl).saysUtf8_iff (by decide +kernel)
    (by decide +kernel)).mpr ?_⟩
  rintro ⟨-, -, content, hc, ha, -⟩
  obtain rfl := Option.some.inj (hv.symm.trans hc)
  have hs : Encoding.signApart "text/html; Charset=ibm866" = false := by decide +kernel
  rw [hs] at ha
  cases ha

/-- The third declaration stays and names another encoding. -/
theorem not_saysUtf8_declaringPage :
    LegalRun .empty declaringPage ∧ declaredPage.isAttached (some 3) = true ∧
      declaredPage.elementName (some 3) = some (.html "meta") ∧
      declaredPage.attr? (some 3) "content" = some "text/html; charset = ibm866" ∧
      ¬ declaredPage.SaysUtf8 3 := by
  have hread : LegalRun .empty declaringPage ∧ declaredPage.isAttached (some 3) = true ∧
      declaredPage.elementName (some 3) = some (.html "meta") ∧
      declaredPage.attr? (some 3) "content" = some "text/html; charset = ibm866" ∧
      declaredPage.attr? (some 3) "charset" = none ∧
      declaredPage.declaresContentType 3 = true := by decide +kernel
  obtain ⟨hl, ha, hn, hv, hc, hd⟩ := hread
  refine ⟨hl, ha, hn, hv, fun h => ?_⟩
  have he : Encoding.ofContentType? "text/html; charset = ibm866" =
      some (.singleByte Encoding.ibm866) := by decide +kernel
  cases h.content hc hd _ hv _ he

end CoursePage
