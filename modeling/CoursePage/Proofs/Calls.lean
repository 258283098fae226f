import CoursePage.Encoding.Declaration
import CoursePage.Markup.Builder.Insert
import CoursePage.Pass.Ready
import CoursePage.Proofs.Entry
import CoursePage.Proofs.Token

/-!
Calls of the operations that change a tree, whatever they are given: a node may be missing, and
nodes may be linked where they should not be. However the links come out, an element's id and class
tokens agree with its attributes and no two attributes share a local name, as long as no element is
created otherwise.
-/

namespace CoursePage

/-- A call of an operation that changes a tree. -/
inductive Call where
  | createElement (name : QualName) (attrs : List Attribute)
  | createText (text : String)
  | createComment (text : String)
  | createDoctype (name publicId systemId : String)
  | append (parent child : Link)
  | insertBefore (sibling node : Link)
  | appendText (parent : Link) (text : String)
  | detach (target : Link)
  | replace (old node : Link)
  | moveChildren (source target : Link)
  | setAttr (node : Link) (name value : String)
  | addClass (node : Link) (token : String)
  | removeClass (node : Link) (token : String)
  /-- Adds to an element the attributes of a tag that it lacks. -/
  | addMissing (node : NodeId) (attrs : List Attribute)
  | declareUtf8
  | buildNavbar (settings : NavbarSettings)
  | renameTags (settings : TagSettings)
  deriving DecidableEq, Repr

namespace Call

def run (t : Tree) : Call → Tree
  | createElement name attrs => (t.createElement name attrs).2
  | createText text => (t.createText text).2
  | createComment text => (t.createComment text).2
  | createDoctype name publicId systemId => (t.createDoctype name publicId systemId).2
  | append parent child => t.append parent child
  | insertBefore sibling node => t.insertBefore sibling node
  | appendText parent text => t.appendText parent text
  | detach target => t.detach target
  | replace old node => t.replace old node
  | moveChildren source target => t.moveChildren source target
  | setAttr node name value => t.setAttr node name value
  | addClass node token => t.addClass node token
  | removeClass node token => t.removeClass node token
  | addMissing node attrs => (({ tree := t } : Markup.Builder).addMissing node attrs).tree
  | declareUtf8 => t.declareUtf8.2
  | buildNavbar settings => (CoursePage.buildNavbar settings t).tree
  | renameTags settings => (CoursePage.renameTags settings t).tree

/-- An element is created with attributes of which no two share a local name. -/
def Plain : Call → Prop
  | createElement _ attrs => (attrs.map fun a => a.name.name).Nodup
  | _ => True

instance : (c : Call) → Decidable c.Plain
  | createElement .. => inferInstanceAs (Decidable (List.Nodup _))
  | createText _ | createComment _ | createDoctype .. | append .. | insertBefore .. | appendText ..
  | detach _ | replace .. | moveChildren .. | setAttr .. | addClass .. | removeClass ..
  | addMissing .. | declareUtf8 | buildNavbar _ | renameTags _ => inferInstanceAs (Decidable True)

end Call

namespace Element

variable {e : Element} {attrs : List Attribute} {name value : String}

theorem regular_ofAttrs (h : (attrs.map fun a => a.name.name).Nodup) (name : QualName) :
    (ofAttrs name attrs).Regular :=
  ⟨rfl, h⟩

/-- Where no two attributes share a local name, the first one with a name is the last one. -/
theorem lastValue?_eq_firstValue? (h : (attrs.map fun a => a.name.name).Nodup) (name : String) :
    lastValue? name attrs = firstValue? name attrs := by
  induction attrs with
  | nil => rfl
  | cons a attrs ih =>
    rw [List.map_cons, List.nodup_cons] at h
    rw [lastValue?_cons]
    by_cases ha : a.name.name = name
    · subst name
      simp [firstValue?, lastValue?_eq_none h.1]
    · rw [ih h.2]
      simp [firstValue?, ha]

theorem firstValue?_assign_self (name value : String) (attrs : List Attribute) :
    firstValue? name (assign name value attrs) = some value := by
  induction attrs with
  | nil => simp [assign, firstValue?, Attribute.plain]
  | cons a attrs ih =>
    by_cases ha : a.name.name = name
    · simp [assign, firstValue?, ha]
    · have hf : firstValue? name (a :: assign name value attrs) =
          firstValue? name (assign name value attrs) := by simp [firstValue?, ha]
      rw [assign, if_neg (by simpa using ha), hf, ih]

end Element

/-- A property of elements that is not lost where an attribute is written or another element gets
the attributes, and that an element has from the start if no two of its attributes share a local
name. -/
structure Element.Lasting (P : Element → Prop) : Prop where
  made : ∀ name attrs, (attrs.map fun a => a.name.name).Nodup → P (ofAttrs name attrs)
  written : ∀ e name value, P e → P (e.withAttr name value)
  renamed : ∀ e name, P e → P (ofAttrs name e.attrs)

/-- All elements have a property. -/
def Tree.Every (t : Tree) (P : Element → Prop) : Prop := ∀ l e, t.element? l = some e → P e

/-- All elements are regular. -/
def Tree.Regular (t : Tree) : Prop := ∀ l e, t.element? l = some e → e.Regular

namespace Tree

variable {t t' : Tree} {P : Element → Prop}

theorem get?_claimId (t : Tree) (id : Option String) (i : NodeId) (k : Link) :
    (t.claimId id i).get? k = t.get? k := by
  cases id <;> rfl

theorem get?_setAttr_of_ne {l k : Link} (h : k ≠ l) (name value : String) :
    (t.setAttr l name value).get? k = t.get? k := by
  unfold setAttr
  split
  · rw [get?_claimId, get?_update, if_neg h]
  · rfl

namespace Every

/-- A step that makes elements with a property only keeps all elements so. -/
theorem of_content (h : t.Every P) (hc : ∀ l e, t'.content? l = some (.element e) →
    P e ∨ t.content? l = some (.element e)) : t'.Every P := fun l e he =>
  (hc l e (content?_of_element? he)).elim id fun hl => h l e (element?_of_content? hl)

theorem of_elements (h : t.Every P) (he : ∀ k, t'.element? k = t.element? k) : t'.Every P :=
  fun l e hl => h l e (he l ▸ hl)

theorem of_same (h : t.Every P) (hc : ∀ k, t'.content? k = t.content? k) : t'.Every P :=
  h.of_elements fun k => element?_congr (hc k)

theorem empty : Tree.empty.Every P := by
  intro l e he
  match l with
  | none => cases he
  | some 0 => cases he
  | some (i + 1) => simp [element?, get?, Tree.empty] at he

theorem create (h : t.Every P) {c : Content} (hc : c.element? = none) : (t.create c).2.Every P :=
  h.of_elements (t.element?_create hc)

theorem createElement (h : t.Every P) {name : QualName} {attrs : List Attribute}
    (hn : P (.ofAttrs name attrs)) : (t.createElement name attrs).2.Every P := by
  refine h.of_content fun l e hl => ?_
  rw [content?_createElement] at hl
  split at hl
  · exact Or.inl (Content.element.inj (Option.some.inj hl) ▸ hn)
  · exact Or.inr hl

variable (hP : Element.Lasting P)
include hP

theorem setAttr (h : t.Every P) (l : Link) (name value : String) :
    (t.setAttr l name value).Every P := by
  cases he : t.element? l with
  | none => rwa [setAttr_of_not_element he]
  | some e =>
    cases l with
    | none => cases he
    | some i =>
      refine h.of_content fun k e' hk => ?_
      rw [content?_setAttr he] at hk
      split at hk
      · obtain rfl := Content.element.inj (Option.some.inj hk)
        exact Or.inl (hP.written e name value (h _ e he))
      · exact Or.inr hk

theorem addClass (h : t.Every P) (l : Link) (token : String) : (t.addClass l token).Every P := by
  unfold Tree.addClass
  split
  · exact h
  · exact h.setAttr hP l _ _

theorem removeClass (h : t.Every P) (l : Link) (token : String) :
    (t.removeClass l token).Every P := by
  unfold Tree.removeClass
  split
  · exact h.setAttr hP l _ _
  · exact h

theorem addMissing {b : Markup.Builder} (h : b.tree.Every P) (i : NodeId)
    (attrs : List Attribute) : (b.addMissing i attrs).tree.Every P := by
  refine List.foldlRecOn (motive := (Tree.Every · P)) attrs _ h fun t ht a _ => ?_
  split
  · exact ht
  · exact ht.setAttr hP _ _ _

theorem declareUtf8 (h : t.Every P) : t.declareUtf8.2.Every P := by
  have hstart : ((0, t) : Nat × Tree).2.Every P := h
  refine List.foldlRecOn (motive := fun done => done.2.Every P) _ declareUtf8At hstart
    fun done hd i _ => ?_
  unfold declareUtf8At
  split
  · exact hd.setAttr hP _ _ _
  · exact hd

theorem renameOne (h : t.Every P) (target : String) (old : NodeId) :
    (TagRename.renameOne target t old).Every P := by
  have hnew : P (.ofAttrs (.html target) (t.attrs (some old))) := by
    unfold attrs
    cases he : t.element? (some old) with
    | none => exact hP.made _ _ (by simp)
    | some e => exact hP.renamed e _ (h _ e he)
  exact (h.createElement hnew).of_same fun k => by simp [TagRename.renameOne]

theorem renameTags (h : t.Every P) (s : TagSettings) : (renameTags s t).tree.Every P := by
  unfold CoursePage.renameTags
  cases Selector.parse s.source with
  | error failure => exact h
  | ok source =>
    exact List.foldlRecOn (motive := (Tree.Every · P)) _ _ h fun _ ht old _ =>
      ht.renameOne hP s.target old

end Every

end Tree

namespace Navbar

variable {t : Tree} {P : Element → Prop} (hP : Element.Lasting P)
include hP

theorem every_appendEntry (h : t.Every P) (id label : String) (nav : NodeId) :
    (appendEntry id label t nav).Every P := by
  have hitem : P (.ofAttrs (.html "li") itemAttrs) := hP.made _ _ (by decide)
  have hlink : P (.ofAttrs (.html "a") (linkAttrs id)) :=
    hP.made _ _ (by simp [linkAttrs, Attribute.plain])
  refine h.of_content fun l e hl => ?_
  rw [content?_appendEntry] at hl
  split at hl
  · cases Option.some.inj hl
  · split at hl
    · exact Or.inl (Content.element.inj (Option.some.inj hl) ▸ hlink)
    · split at hl
      · exact Or.inl (Content.element.inj (Option.some.inj hl) ▸ hitem)
      · exact Or.inr hl

theorem every_markSection (h : t.Every P) (id : String) (isFirst : Bool) (pane : NodeId) :
    (markSection id isFirst pane t).Every P := by
  have hp : (paneClasses.foldl (fun t c => t.addClass (some pane) c)
      (t.setAttr (some pane) "id" id)).Every P :=
    List.foldlRecOn (motive := (Tree.Every · P)) _ _ (h.setAttr hP _ _ _) fun _ ht c _ =>
      ht.addClass hP _ c
  simp only [markSection]
  split
  · exact hp
  · exact hp.removeClass hP _ _

theorem every_linkSection {done : NavbarReport × Tree} (h : done.2.Every P) (s : NavbarSettings)
    (parts : Parts) (numbered : NodeId × Nat) : (linkSection s parts done numbered).2.Every P := by
  obtain ⟨report, t⟩ := done
  obtain ⟨pane, number⟩ := numbered
  have hmarked := every_markSection hP h (s.sectionId number) (parts.exercises.head? == some pane)
    pane
  simp only [linkSection]
  exact List.foldlRecOn (motive := (Tree.Every · P)) _ _ hmarked fun _ ht nav _ =>
    every_appendEntry hP ht _ _ nav

theorem every_linkSections (h : t.Every P) (s : NavbarSettings) (parts : Parts) :
    (linkSections s parts t).2.Every P := by
  have hstart : (({}, t) : NavbarReport × Tree).2.Every P := h
  exact List.foldlRecOn (motive := fun done => done.2.Every P) (parts.exercises.zipIdx 1)
    (linkSection s parts) hstart fun _ hd numbered _ => every_linkSection hP hd s parts numbered

theorem every_buildNavbar (h : t.Every P) (s : NavbarSettings) :
    (buildNavbar s t).tree.Every P := by
  unfold buildNavbar
  cases Selector.parse s.navSelector with
  | error failure => exact h
  | ok nav =>
    cases Selector.parse s.exerciseSelector with
    | error failure => exact h
    | ok exercise =>
      simp only [Outcome.check, arrange]
      split
      · exact List.foldlRecOn (motive := (Tree.Every · P)) _ _ h fun _ ht nav _ =>
          ht.of_same fun k => by simp
      · split
        · exact h
        · exact (every_linkSections hP h s _).addClass hP _ _

end Navbar

namespace Tree

variable {t : Tree} {P : Element → Prop}

theorem Every.run (hP : Element.Lasting P) (h : t.Every P) {c : Call}
    (hc : ∀ name attrs, c = .createElement name attrs → P (.ofAttrs name attrs)) :
    (c.run t).Every P := by
  cases c with
  | createElement name attrs => exact h.createElement (hc name attrs rfl)
  | createText text => exact h.create rfl
  | createComment text => exact h.create rfl
  | createDoctype name publicId systemId => exact h.create rfl
  | append parent child => exact h.of_same (t.content?_append parent child)
  | insertBefore sibling node => exact h.of_same (t.content?_insertBefore sibling node)
  | appendText parent text => exact h.of_elements (t.element?_appendText parent text)
  | detach target => exact h.of_same (t.content?_detach target)
  | replace old node => exact h.of_same (t.content?_replace old node)
  | moveChildren source target => exact h.of_same (t.content?_moveChildren source target)
  | setAttr node name value => exact h.setAttr hP node name value
  | addClass node token => exact h.addClass hP node token
  | removeClass node token => exact h.removeClass hP node token
  | addMissing node attrs => exact Every.addMissing (b := { tree := t }) hP h node attrs
  | declareUtf8 => exact h.declareUtf8 hP
  | buildNavbar settings => exact Navbar.every_buildNavbar hP h settings
  | renameTags settings => exact h.renameTags hP settings

/-- Whatever is called, all elements have a lasting property that they are created with. -/
theorem Every.runAll (hP : Element.Lasting P) (h : t.Every P) {calls : List Call}
    (hc : ∀ name attrs, .createElement name attrs ∈ calls → P (.ofAttrs name attrs)) :
    (calls.foldl Call.run t).Every P :=
  List.foldlRecOn (motive := (Tree.Every · P)) calls _ h fun _ ht _ hm =>
    ht.run hP fun name attrs he => hc name attrs (he ▸ hm)

namespace Regular

theorem lasting : Element.Lasting Element.Regular where
  made name _ hn := Element.regular_ofAttrs hn name
  written _ name value h := Element.regular_withAttr h name value
  renamed _ name h := Element.regular_ofAttrs h.distinct name

theorem empty : Tree.empty.Regular := Every.empty

theorem nodup_attrs (h : t.Regular) (l : Link) : ((t.attrs l).map fun a => a.name.name).Nodup := by
  unfold attrs
  cases he : t.element? l with
  | none => simp
  | some e => exact (h l e he).distinct

theorem addClass (h : t.Regular) (l : Link) (token : String) : (t.addClass l token).Regular :=
  Every.addClass lasting h l token

theorem removeClass (h : t.Regular) (l : Link) (token : String) :
    (t.removeClass l token).Regular :=
  Every.removeClass lasting h l token

theorem runAll (h : t.Regular) {calls : List Call} (hc : ∀ c ∈ calls, c.Plain) :
    (calls.foldl Call.run t).Regular :=
  Every.runAll lasting h fun name _ hm => Element.regular_ofAttrs (hc _ hm) name

end Regular

end Tree

/-- `t'` is `t` after a value was written to an attribute of one element. -/
structure Wrote (t t' : Tree) (i : NodeId) (name value : String) : Prop where
  read : t'.attr? (some i) name = some value
  /-- Its other attributes have the same values in the same order. -/
  others : (t'.attrs (some i)).filter (fun a => a.name.name != name) =
    (t.attrs (some i)).filter fun a => a.name.name != name
  rest : ∀ k, k ≠ some i → t'.get? k = t.get? k

theorem wrote_setAttr {t : Tree} {i : NodeId} (he : t.isElement (some i) = true)
    (name value : String) : Wrote t (t.setAttr (some i) name value) i name value := by
  obtain ⟨e, he⟩ := Option.isSome_iff_exists.mp he
  have ha : t.attrs (some i) = e.attrs := by simp [Tree.attrs, he]
  have ha' : (t.setAttr (some i) name value).attrs (some i) =
      Element.assign name value e.attrs := by
    have hc := Tree.content?_setAttr he name value (some i)
    rw [if_pos rfl] at hc
    simp [Tree.attrs, Tree.element?_of_content? hc, Element.withAttr, Element.ofAttrs]
  refine ⟨?_, ?_, fun k hk => Tree.get?_setAttr_of_ne hk name value⟩
  · rw [Tree.attr?, ha', Element.firstValue?_assign_self]
  · rw [ha', ha, Element.filter_assign (p := fun n => n != name) (by simp)]

/-- What elements keep beside their attributes agrees with them. -/
structure CachesAgree (t : Tree) : Prop where
  distinct : ∀ l, ((t.attrs l).map fun a => a.name.name).Nodup
  id : ∀ l, t.elementId l = t.attr? l "id"
  classes : ∀ l, t.classes l = ((t.attr? l "class").map Text.blankWords).getD []
  write : ∀ i name value, t.isElement (some i) = true →
    Wrote t (t.setAttr (some i) name value) i name value

theorem Tree.Regular.cachesAgree {t : Tree} (h : t.Regular) : CachesAgree t where
  distinct := h.nodup_attrs
  id l := by
    rw [attr?, ← Element.lastValue?_eq_firstValue? (h.nodup_attrs l)]
    cases he : t.element? l with
    | none => simp [elementId, attrs, he, Element.lastValue?]
    | some e =>
      have hs : e.id = Element.lastValue? "id" e.attrs := congrArg Element.id (h l e he).synced
      simpa [elementId, attrs, he] using hs
  classes l := by
    rw [attr?, ← Element.lastValue?_eq_firstValue? (h.nodup_attrs l)]
    cases he : t.element? l with
    | none => simp [classes, attrs, he, Element.lastValue?]
    | some e =>
      have hs : e.classes = Element.classTokens e.attrs :=
        congrArg Element.classes (h l e he).synced
      simp only [classes, attrs, he, Option.map_some, Option.getD_some, hs, Element.classTokens]
      cases Element.lastValue? "class" e.attrs <;> rfl
  write _ name value he := wrote_setAttr he name value

/-- Whatever is called, caches agree with attributes as long as no element is created with two
attributes of one local name. -/
theorem cachesAgree_run {calls : List Call} (h : ∀ c ∈ calls, c.Plain) :
    CachesAgree (calls.foldl Call.run .empty) :=
  (Tree.Regular.empty.runAll h).cachesAgree

/-- A page whose links are spoilt, with values that are written and both passes behind it. -/
def roughPage : List Call :=
  [.createElement (.html "ul") [.plain "class" "nav"], .append (some 0) (some 1),
    .createElement (.html "tt") [.plain "id" "x", .plain "class" " exercise\tactive "],
    .append (some 0) (some 2), .createElement (.html "b") [.plain "id" "x"],
    .append (some 3) (some 3), .append (some 1) none, .insertBefore (some 7) (some 2),
    .addClass (some 2) "a  b", .removeClass none "b", .setAttr (some 3) "class" "c\nc",
    .addMissing 2 [.plain "id" "y", .plain "title" "t", .plain "title" "u"],
    .buildNavbar {}, .renameTags {}]

theorem cachesAgree_roughPage :
    (∀ c ∈ roughPage, c.Plain) ∧
      (roughPage.foldl Call.run .empty).attrs (some 7) =
        [.plain "id" "exercise1", .plain "class" "exercise active a b tab-pane fade show",
          .plain "title" "t"] ∧
      (roughPage.foldl Call.run .empty).parent (some 3) = some 3 ∧
      CachesAgree (roughPage.foldl Call.run .empty) := by
  have hp : ∀ c ∈ roughPage, c.Plain := by decide
  exact ⟨hp, by decide +kernel, by decide +kernel, cachesAgree_run hp⟩

end CoursePage
