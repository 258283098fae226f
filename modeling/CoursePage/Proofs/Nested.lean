import CoursePage.Proofs.Printed

/-!
The markup of a node is put together from that of its children. The loop over a stack of tasks
writes what a recursion over the tree writes, which is balanced, and the printer that reads it has
forgotten every element by the time that it has read the element's end.
-/

namespace CoursePage

open CoursePage.Tree (document Task)
open CoursePage.Markup (Event Frame Printer render startTag endTag isVoid isRawText)

namespace Markup

/-- Every start of an element has an end with the same name, and so has what is between them. -/
inductive Balanced : List Event → Prop where
  | nil : Balanced []
  | text (s : String) : Balanced [.text s]
  | comment (s : String) : Balanced [.comment s]
  | doctype (name : String) : Balanced [.doctype name]
  | element (name : QualName) (attrs : List Attribute) (inner : List Event)
      (h : Balanced inner) : Balanced (.start name attrs :: (inner ++ [.finish name]))
  | append (front rest : List Event) (hf : Balanced front) (hr : Balanced rest) :
    Balanced (front ++ rest)

theorem Balanced.flatMap {α : Type} {f : α → List Event} {as : List α}
    (h : ∀ a ∈ as, Balanced (f a)) : Balanced (as.flatMap f) := by
  induction as with
  | nil => exact .nil
  | cons a as ih =>
    rw [List.flatMap_cons]
    exact .append _ _ (h a List.mem_cons_self) (ih fun b hb => h b (List.mem_cons_of_mem a hb))

/-- What the printer remembers of an element that is opened inside another one. -/
def Frame.under (top : Frame) (name : QualName) : Frame :=
  ⟨isRawText name, top.childless || isVoid name⟩

/-- The markup of an element around its inner markup. -/
def Frame.wrap (top : Frame) (name : QualName) (attrs : List Attribute) (inner : String) : String :=
  if top.childless then inner
  else startTag name attrs ++ inner ++ if isVoid name then "" else endTag name

/-- The markup of events inside an element. -/
def renderIn (top : Frame) (events : List Event) : String :=
  (events.foldl Printer.write ⟨[top], ""⟩).output

namespace Printer

variable (top : Frame) (frames : List Frame) (out : String) (name : QualName)

theorem write_start (attrs : List Attribute) :
    write ⟨top :: frames, out⟩ (.start name attrs) = ⟨top.under name :: top :: frames,
      out ++ if top.childless then "" else startTag name attrs⟩ := by
  cases hc : top.childless <;> simp [write, Printer.top, Frame.under, emit, hc]

theorem write_finish : write ⟨top.under name :: top :: frames, out⟩ (.finish name) =
    ⟨top :: frames, out ++ if top.childless || isVoid name then "" else endTag name⟩ := by
  cases hc : top.childless <;> cases hv : isVoid name <;>
    simp [write, Printer.top, Frame.under, emit, hc, hv]

end Printer

/-- Inside an element, the printer writes these events as this text, and then the same elements are
open as before. -/
def Writes (top : Frame) (events : List Event) (text : String) : Prop :=
  ∀ frames out, events.foldl Printer.write ⟨top :: frames, out⟩ = ⟨top :: frames, out ++ text⟩

namespace Writes

variable {top : Frame} {events front rest inner : List Event} {text text' : String}

theorem renderIn_eq (h : Writes top events text) : renderIn top events = text := by
  rw [renderIn, h, String.empty_append]

theorem single {event : Event} (h : ∀ frames out,
    Printer.write ⟨top :: frames, out⟩ event = ⟨top :: frames, out ++ text⟩) :
    Writes top [event] text := fun frames out => h frames out

theorem append (hf : Writes top front text) (hr : Writes top rest text') :
    Writes top (front ++ rest) (text ++ text') := by
  intro frames out
  rw [List.foldl_append, hf, hr, String.append_assoc]

theorem element (name : QualName) (attrs : List Attribute)
    (h : Writes (top.under name) inner text) :
    Writes top (.start name attrs :: (inner ++ [.finish name])) (top.wrap name attrs text) := by
  intro frames out
  rw [List.foldl_cons, Printer.write_start, List.foldl_append, h, List.foldl_cons,
    Printer.write_finish, List.foldl_nil, Frame.wrap]
  cases top.childless <;> cases isVoid name <;> simp [String.append_assoc]

end Writes

/-- How balanced events are written depends on the innermost open element only. -/
theorem Balanced.writes {events : List Event} (h : Balanced events) (top : Frame) :
    Writes top events (renderIn top events) := by
  have hw : ∃ text, Writes top events text := by
    induction h generalizing top with
    | nil => exact ⟨"", fun frames out => by simp⟩
    | text s => exact ⟨if top.rawText then s else escapeText s, .single fun _ _ => rfl⟩
    | comment s => exact ⟨_, .single fun _ _ => rfl⟩
    | doctype name => exact ⟨_, .single fun _ _ => rfl⟩
    | element name attrs inner _ ih =>
      obtain ⟨text, hi⟩ := ih (top.under name)
      exact ⟨_, hi.element name attrs⟩
    | append front rest _ _ ihf ihr =>
      obtain ⟨text, hf⟩ := ihf top
      obtain ⟨text', hr⟩ := ihr top
      exact ⟨_, hf.append hr⟩
  obtain ⟨text, hw⟩ := hw
  rwa [hw.renderIn_eq]

namespace Balanced

theorem renderIn_append {front rest : List Event} (hf : Balanced front) (hr : Balanced rest)
    (top : Frame) : renderIn top (front ++ rest) = renderIn top front ++ renderIn top rest :=
  ((hf.writes top).append (hr.writes top)).renderIn_eq

theorem renderIn_element {inner : List Event} (h : Balanced inner) (top : Frame) (name : QualName)
    (attrs : List Attribute) : renderIn top (.start name attrs :: (inner ++ [.finish name])) =
      top.wrap name attrs (renderIn (top.under name) inner) :=
  ((h.writes (top.under name)).element name attrs).renderIn_eq

end Balanced

theorem renderIn_flatMap {α : Type} {f : α → List Event} {as : List α}
    (h : ∀ a ∈ as, Balanced (f a)) (top : Frame) :
    renderIn top (as.flatMap f) = String.join (as.map fun a => renderIn top (f a)) := by
  induction as with
  | nil => rfl
  | cons a as ih =>
    have has : ∀ b ∈ as, Balanced (f b) := fun b hb => h b (List.mem_cons_of_mem a hb)
    rw [List.flatMap_cons, List.map_cons, String.join_cons, ← ih has]
    exact (h a List.mem_cons_self).renderIn_append (Balanced.flatMap has) top

theorem render_flatMap {α : Type} {f : α → List Event} {as : List α}
    (h : ∀ a ∈ as, Balanced (f a)) :
    render (as.flatMap f) = String.join (as.map fun a => render (f a)) :=
  renderIn_flatMap h .outermost

/-- Inside an element that is neither void nor raw text, markup is what it is at the top. -/
theorem render_element {name : QualName} {inner : List Event} (attrs : List Attribute)
    (h : Balanced inner)
    (hv : isVoid name = false) (hr : isRawText name = false) :
    render (.start name attrs :: (inner ++ [.finish name])) =
      startTag name attrs ++ render inner ++ endTag name := by
  have hu : Frame.outermost.under name = .outermost := by
    rw [Frame.under, hv, hr]
    rfl
  have he := h.renderIn_element .outermost name attrs
  rwa [hu, Frame.wrap, hv] at he

end Markup

/-- The loop over a stack of tasks, which no bound on its steps cuts short, ends and writes these
events. -/
inductive Performs (t : Tree) : List Task → List Event → Prop where
  | nil : Performs t [] []
  | cons (task : Task) (tasks : List Task) (events : List Event)
      (rest : Performs t ((task.step t).2 ++ tasks) events) :
    Performs t (task :: tasks) ((task.step t).1 ++ events)

namespace Sound

variable {t : Tree}

theorem performs (h : Sound t) (tasks : List Task) :
    Performs t tasks (tasks.flatMap (Task.events t)) := by
  generalize hn : Task.total t tasks = n
  induction n using Nat.strongRecOn generalizing tasks with
  | ind n ih =>
    cases tasks with
    | nil => exact .nil
    | cons task tasks =>
      have hlt := h.total_step_lt task
      rw [Task.total] at hn
      rw [List.flatMap_cons, h.events_step, List.append_assoc, ← List.flatMap_append]
      refine .cons task tasks _ (ih _ ?_ _ rfl)
      rw [Task.total_append]
      omega

theorem outerEvents_eq (h : Sound t) (i : NodeId) : t.outerEvents i = (t.shapeAt i).events := by
  have hb := h.length_below_le i
  have hc : Task.total t [.enter i] ≤ t.taskLimit := by
    rw [Task.total, Task.total, h.cost_enter, Tree.enterChildren, Task.total_enter, Tree.taskLimit]
    omega
  rw [Tree.outerEvents, h.perform_eq hc, List.flatMap_singleton]
  rfl

theorem innerEvents_eq_flatMap (h : Sound t) (i : NodeId) :
    t.innerEvents (some i) = (t.children (some i)).flatMap t.outerEvents := by
  rw [h.innerEvents_eq, funext h.outerEvents_eq]

theorem outerEvents_eq_content (h : Sound t) (i : NodeId) : t.outerEvents i =
    ((t.content? (some i)).map
      (Content.events ((t.children (some i)).flatMap t.outerEvents))).getD [] := by
  rw [h.outerEvents_eq, h.events_shapeAt, funext h.outerEvents_eq]

/-- Only one function on the nodes puts the events of each node around those of its children. -/
theorem outerEvents_unique (h : Sound t) {events : NodeId → List Event}
    (he : ∀ i, events i = ((t.content? (some i)).map
      (Content.events ((t.children (some i)).flatMap events))).getD []) (i : NodeId) :
    events i = t.outerEvents i := by
  induction i using h.descend with
  | step i ih =>
    rw [he, h.outerEvents_eq_content, List.flatMap_def, List.flatMap_def, List.map_congr_left ih]

theorem balanced_outerEvents (h : Sound t) (i : NodeId) : Markup.Balanced (t.outerEvents i) := by
  induction i using h.descend with
  | step i ih =>
    have hk := Markup.Balanced.flatMap ih
    rw [h.outerEvents_eq_content]
    cases t.content? (some i) with
    | none => exact .nil
    | some c =>
      cases c with
      | document => exact hk
      | element e => exact .element e.name e.attrs _ hk
      | text s => exact .text s
      | comment s => exact .comment s
      | doctype name _ _ => exact .doctype name

/-- What is written of a node depends on the nodes of its branch only. -/
theorem outerEvents_congr (h : Sound t) {t' : Tree} (h' : Sound t') {i : NodeId}
    (hc : ∀ x ∈ t.within i, t'.content? (some x) = t.content? (some x))
    (hk : ∀ x ∈ t.within i, t'.children (some x) = t.children (some x)) :
    t'.outerEvents i = t.outerEvents i := by
  induction i using h.descend with
  | step i ih =>
    have hself : i ∈ t.within i := h.mem_within_iff.mpr List.mem_cons_self
    have hbelow : ∀ c ∈ t.children (some i), t'.outerEvents c = t.outerEvents c := by
      intro c hm
      have hsub : ∀ x ∈ t.within c, x ∈ t.within i := by
        intro x hx
        rw [h.within_eq]
        exact List.mem_cons_of_mem i (List.mem_flatMap.mpr ⟨c, hm, hx⟩)
      exact ih c hm (fun x hx => hc x (hsub x hx)) fun x hx => hk x (hsub x hx)
    rw [h'.outerEvents_eq_content, h.outerEvents_eq_content, hc i hself, hk i hself,
      List.flatMap_def, List.flatMap_def, List.map_congr_left hbelow]

theorem balanced_innerEvents (h : Sound t) (i : NodeId) :
    Markup.Balanced (t.innerEvents (some i)) := by
  rw [h.innerEvents_eq_flatMap]
  exact .flatMap fun c _ => h.balanced_outerEvents c

theorem innerHtml_eq_join (h : Sound t) (i : NodeId) : t.innerHtml (some i) =
    String.join ((t.children (some i)).map fun c => t.outerHtml (some c)) := by
  rw [Tree.innerHtml, h.innerEvents_eq_flatMap]
  exact Markup.render_flatMap fun c _ => h.balanced_outerEvents c

/-- An element that is neither void nor raw text is written as tags around its inner markup. -/
theorem outerHtml_plain (h : Sound t) {i : NodeId} {e : Element}
    (he : t.element? (some i) = some e) (hv : isVoid e.name = false)
    (hr : isRawText e.name = false) : t.outerHtml (some i) =
      startTag e.name e.attrs ++ t.innerHtml (some i) ++ endTag e.name := by
  have ho := h.outerEvents_eq_content i
  rw [Tree.content?_of_element? he, ← h.innerEvents_eq_flatMap] at ho
  rw [Tree.outerHtml, ho]
  exact Markup.render_element e.attrs (h.balanced_innerEvents i) hv hr

end Sound

/-- What is written of a node is put together from what is written of its children. -/
structure WrittenFromParts (t : Tree) : Prop where
  /-- The loops over tasks end. -/
  outerEnds : ∀ i, Performs t [.enter i] (t.outerEvents i)
  innerEnds : ∀ i, Performs t (t.enterChildren (some i)) (t.innerEvents (some i))
  /-- They write the events of each node around those of its children. -/
  inner : ∀ i, t.innerEvents (some i) = (t.children (some i)).flatMap t.outerEvents
  outer : ∀ i, t.outerEvents i =
    ((t.content? (some i)).map (Content.events (t.innerEvents (some i)))).getD []
  /-- Nothing else does. -/
  unique : ∀ events : NodeId → List Event,
    (∀ i, events i = ((t.content? (some i)).map
      (Content.events ((t.children (some i)).flatMap events))).getD []) →
      ∀ i, events i = t.outerEvents i
  balanced : ∀ i, Markup.Balanced (t.outerEvents i)
  innerHtml : ∀ i, t.innerHtml (some i) =
    String.join ((t.children (some i)).map fun c => t.outerHtml (some c))
  whole : t.toHtml = t.innerHtml (some document)
  element : ∀ i e, t.element? (some i) = some e → isVoid e.name = false →
    isRawText e.name = false → t.outerHtml (some i) =
      startTag e.name e.attrs ++ t.innerHtml (some i) ++ endTag e.name

/-- On a tree that is built by legal edits, the markup of every node is put together from that of
its children. -/
theorem Built.writtenFromParts {t : Tree} (h : Built t) : WrittenFromParts t where
  outerEnds i := by
    have hp := h.sound.performs [.enter i]
    rwa [List.flatMap_singleton, Task.events, ← h.sound.outerEvents_eq] at hp
  innerEnds i := by
    have hp := h.sound.performs (t.enterChildren (some i))
    rwa [Tree.enterChildren, Task.flatMap_enter, ← h.sound.innerEvents_eq] at hp
  inner := h.sound.innerEvents_eq_flatMap
  outer i := by rw [h.sound.innerEvents_eq_flatMap, ← h.sound.outerEvents_eq_content]
  unique _ he := h.sound.outerEvents_unique he
  balanced := h.sound.balanced_outerEvents
  innerHtml := h.sound.innerHtml_eq_join
  whole := rfl
  element _ _ he hv hr := h.sound.outerHtml_plain he hv hr

/-- A paragraph with a void element that has content and with raw text in it. -/
def mixedParagraph : List Edit :=
  [.createElement (.html "p") [.plain "title" "\"&"], .append 0 1, .appendText 1 "a<b",
    .createElement (.html "br") [], .append 1 3, .createElement (.html "b") [], .append 3 4,
    .appendText 4 "&", .createElement (.html "script") [], .append 1 6, .appendText 6 "a<b",
    .createComment "c", .append 1 8]

theorem writtenFromParts_mixedParagraph :
    LegalRun .empty mixedParagraph ∧
      (mixedParagraph.foldl Edit.run .empty).outerHtml (some 1) =
        "<p title=\"&quot;&amp;\">a&lt;b<br>&amp;<script>a<b</script><!--c--></p>" ∧
      WrittenFromParts (mixedParagraph.foldl Edit.run .empty) := by
  have hl : LegalRun .empty mixedParagraph := by decide +kernel
  exact ⟨hl, by decide +kernel, (Built.empty.run hl).writtenFromParts⟩

end CoursePage
