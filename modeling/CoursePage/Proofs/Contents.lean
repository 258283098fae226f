import CoursePage.Tree.Attr

/-!
What each edit does to the contents of the nodes, to their number and to the index of ids. Edits of
links keep all contents and the index, and edits of attributes change one element.
-/

namespace CoursePage

namespace Element

/-- The element after an attribute was set. -/
def withAttr (e : Element) (name value : String) : Element :=
  ofAttrs e.name (assign name value e.attrs)

end Element

namespace Content

/-- An element's id and class tokens agree with its attributes. -/
def Synced (c : Content) : Prop := ∀ e, c = .element e → e = Element.ofAttrs e.name e.attrs

theorem synced_ofAttrs (name : QualName) (attrs : List Attribute) :
    (Content.element (Element.ofAttrs name attrs)).Synced := by
  rintro e he
  cases he
  rfl

theorem synced_of_element?_eq_none {c : Content} (hc : c.element? = none) : c.Synced := by
  rintro e rfl
  simp [element?] at hc

end Content

namespace Tree

variable (t : Tree)

/-- What the node that a link names holds. -/
def content? (l : Link) : Option Content := (t.get? l).map Node.content

theorem element?_eq (l : Link) : t.element? l = (t.content? l).bind Content.element? := by
  rw [content?, Option.bind_map]
  rfl

theorem element?_congr {t t' : Tree} {l : Link} (h : t'.content? l = t.content? l) :
    t'.element? l = t.element? l := by
  rw [element?_eq, element?_eq, h]

theorem content?_of_element? {t : Tree} {l : Link} {e : Element} (h : t.element? l = some e) :
    t.content? l = some (.element e) := by
  rw [element?_eq] at h
  obtain ⟨c, hc, he⟩ := Option.bind_eq_some_iff.mp h
  cases c with
  | element e' =>
    obtain rfl : e' = e := Option.some.inj he
    exact hc
  | _ => simp [Content.element?] at he

theorem element?_of_content? {t : Tree} {l : Link} {e : Element}
    (h : t.content? l = some (.element e)) : t.element? l = some e := by
  simp [element?_eq, h, Content.element?]

theorem content?_update (l k : Link) (f : Node → Node) : (t.update l f).content? k =
    if k = l then (t.get? k).map (fun n => (f n).content) else t.content? k := by
  by_cases h : k = l <;> simp [content?, get?_update, h, Function.comp_def]

theorem content?_update_links {f : Node → Node} (hf : ∀ n, (f n).content = n.content)
    (l k : Link) : (t.update l f).content? k = t.content? k := by
  rw [content?_update]
  simp only [hf]
  split <;> rfl

@[simp] theorem content?_append (p c k : Link) : (t.append p c).content? k = t.content? k := by
  simp [append, content?_update_links]

@[simp] theorem content?_insertBefore (s c k : Link) :
    (t.insertBefore s c).content? k = t.content? k := by
  simp only [insertBefore]
  split <;> simp [content?_update_links]

@[simp] theorem content?_detach (c k : Link) : (t.detach c).content? k = t.content? k := by
  unfold detach
  split
  · rfl
  · simp only [content?_update_links, implies_true]
    split <;> split <;> simp [content?_update_links]

@[simp] theorem content?_replace (old new k : Link) :
    (t.replace old new).content? k = t.content? k := by
  unfold replace
  split <;> simp

@[simp] theorem content?_moveChildren (source target k : Link) :
    (t.moveChildren source target).content? k = t.content? k := by
  unfold moveChildren
  induction t.children source generalizing t with
  | nil => rfl
  | cons c cs ih => simp [ih]

theorem content?_create (c : Content) (k : Link) :
    (t.create c).2.content? k = if k = some t.size then some c else t.content? k := by
  simp only [content?, get?_create]
  split <;> rfl

@[simp] theorem content?_claimId (id : Option String) (i : NodeId) (k : Link) :
    (t.claimId id i).content? k = t.content? k := by
  cases id <;> rfl

theorem content?_createElement (name : QualName) (attrs : List Attribute) (k : Link) :
    (t.createElement name attrs).2.content? k =
      if k = some t.size then some (.element (.ofAttrs name attrs)) else t.content? k := by
  simp [createElement, content?_create]

theorem content?_appendText (p : Link) (text : String) (k : Link) :
    (t.appendText p text).content? k =
      match t.text? (t.lastChild p) with
      | some old =>
        if k = t.lastChild p then (t.content? k).map fun _ => .text (old ++ text) else t.content? k
      | none => if k = some t.size then some (.text text) else t.content? k := by
  cases hl : t.text? (t.lastChild p) with
  | some old =>
    simp only [appendText, hl, content?_update]
    simp [content?, Function.comp_def]
  | none => simp [appendText, hl, createText, content?_create]

/-- A new node that is no element adds no element. -/
theorem element?_create {c : Content} (hc : c.element? = none) (k : Link) :
    (t.create c).2.element? k = t.element? k := by
  rw [element?_eq, element?_eq, content?_create]
  split
  · rename_i hk
    have hnew : t.content? (some t.size) = none := by simp [content?, get?, size]
    rw [hk, hnew, Option.bind_some, hc]
    rfl
  · rfl

/-- A new node without an id adds no id. -/
theorem elementId_create {c : Content} (hc : c.element?.bind Element.id = none) (k : Link) :
    (t.create c).2.elementId k = t.elementId k := by
  rw [elementId, elementId, element?_eq, element?_eq, content?_create]
  split
  · rename_i hk
    have hnew : t.content? (some t.size) = none := by simp [content?, get?, size]
    rw [hk, hnew, Option.bind_some, hc]
    rfl
  · rfl

theorem elementId_createElement {name : QualName} {attrs : List Attribute}
    (hi : Element.lastValue? "id" attrs = none) (k : Link) :
    (t.createElement name attrs).2.elementId k = t.elementId k := by
  rw [createElement, elementId, element?_congr (content?_claimId _ _ _ _)]
  exact t.elementId_create (c := .element (.ofAttrs name attrs)) hi k

theorem element?_appendText (p : Link) (text : String) (k : Link) :
    (t.appendText p text).element? k = t.element? k := by
  cases hl : t.text? (t.lastChild p) with
  | none =>
    have hc := (t.createText text).2.content?_append p (some (t.createText text).1) k
    rw [appendText, hl]
    exact (element?_congr hc).trans (t.element?_create (c := .text text) rfl k)
  | some old =>
    obtain ⟨n, hn, hx⟩ := Option.bind_eq_some_iff.mp hl
    have he : n.content.element? = none := by
      cases hc : n.content <;> simp_all [Content.text?, Content.element?]
    simp only [appendText, hl, element?, get?_update]
    split
    · rename_i hk
      simp only [hk, hn, Option.map_some, Option.bind_some, he]
      rfl
    · rfl

/-- Setting an attribute changes one element and nothing else. -/
theorem content?_setAttr {t : Tree} {i : NodeId} {e : Element}
    (he : t.element? (some i) = some e) (name value : String) (k : Link) :
    (t.setAttr (some i) name value).content? k =
      if k = some i then some (.element (e.withAttr name value)) else t.content? k := by
  have hc := content?_of_element? he
  simp only [setAttr, he, content?_claimId, content?_update]
  split
  · rename_i hk
    subst hk
    obtain ⟨n, hn, _⟩ := Option.map_eq_some_iff.mp hc
    simp [hn, Element.withAttr]
  · rfl

theorem setAttr_of_not_element {t : Tree} {l : Link} (he : t.element? l = none)
    (name value : String) : t.setAttr l name value = t := by
  cases l <;> simp [setAttr, he]

@[simp] theorem size_append (p c : Link) : (t.append p c).size = t.size := by
  simp [append]

@[simp] theorem size_insertBefore (s c : Link) : (t.insertBefore s c).size = t.size := by
  simp only [insertBefore]
  split <;> simp

@[simp] theorem size_detach (c : Link) : (t.detach c).size = t.size := by
  unfold detach
  split
  · rfl
  · simp only [size_update]
    split <;> split <;> simp

@[simp] theorem size_replace (old new : Link) : (t.replace old new).size = t.size := by
  unfold replace
  split <;> simp

@[simp] theorem size_moveChildren (source target : Link) :
    (t.moveChildren source target).size = t.size := by
  unfold moveChildren
  induction t.children source generalizing t with
  | nil => rfl
  | cons c cs ih => simp [ih]

@[simp] theorem size_create (c : Content) : (t.create c).2.size = t.size + 1 := by
  simp [create, size]

@[simp] theorem size_claimId (id : Option String) (i : NodeId) :
    (t.claimId id i).size = t.size := by
  cases id <;> rfl

@[simp] theorem size_createElement (name : QualName) (attrs : List Attribute) :
    (t.createElement name attrs).2.size = t.size + 1 := by
  simp [createElement]

@[simp] theorem size_setAttr (l : Link) (name value : String) :
    (t.setAttr l name value).size = t.size := by
  unfold setAttr
  split <;> simp

@[simp] theorem size_addClass (l : Link) (token : String) :
    (t.addClass l token).size = t.size := by
  unfold addClass
  split <;> simp

@[simp] theorem size_removeClass (l : Link) (token : String) :
    (t.removeClass l token).size = t.size := by
  unfold removeClass
  split <;> simp

@[simp] theorem ids_update (l : Link) (f : Node → Node) : (t.update l f).ids = t.ids := by
  cases l <;> rfl

@[simp] theorem ids_create (c : Content) : (t.create c).2.ids = t.ids := rfl

@[simp] theorem ids_append (p c : Link) : (t.append p c).ids = t.ids := by
  simp [append]

@[simp] theorem ids_insertBefore (s c : Link) : (t.insertBefore s c).ids = t.ids := by
  simp only [insertBefore]
  split <;> simp

@[simp] theorem ids_appendText (p : Link) (text : String) : (t.appendText p text).ids = t.ids := by
  cases hl : t.text? (t.lastChild p) <;> simp [appendText, hl, createText]

@[simp] theorem ids_detach (c : Link) : (t.detach c).ids = t.ids := by
  unfold detach
  split
  · rfl
  · simp only [ids_update]
    split <;> split <;> simp

@[simp] theorem ids_replace (old new : Link) : (t.replace old new).ids = t.ids := by
  unfold replace
  split <;> simp

@[simp] theorem ids_moveChildren (source target : Link) :
    (t.moveChildren source target).ids = t.ids := by
  unfold moveChildren
  induction t.children source generalizing t with
  | nil => rfl
  | cons c cs ih => simp [ih]

end Tree

end CoursePage
