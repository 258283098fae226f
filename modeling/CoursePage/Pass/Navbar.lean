import CoursePage.Pass.Outcome
import CoursePage.Settings.Basic

/-!
The navigation bar: every exercise becomes a tab pane with an id of its own, and every
navigation list gets an entry that leads to it. A page without exercises loses its navigation
lists. Exercises are numbered from one in document order.
-/

namespace CoursePage

structure NavbarReport where
  sections : Nat := 0
  entries : Nat := 0
  removedNavs : Nat := 0
  /-- Ids of exercises that an element outside the exercises had already. -/
  idConflicts : Nat := 0
  deriving DecidableEq, Repr

namespace Navbar

/-- The classes of a tab pane. -/
def paneClasses : List String := ["tab-pane", "fade", "show"]

/-- The class of the pane that is shown first. -/
def activeClass : String := "active"

def itemAttrs : List Attribute := [.plain "class" "nav-item"]

def linkAttrs (id : String) : List Attribute :=
  [.plain "class" "nav-link", .plain "data-toggle" "tab", .plain "href" ("#" ++ id)]

def removeNavs (navs : List NodeId) (t : Tree) : Tree :=
  navs.foldl (fun t nav => t.detach (some nav)) t

/-- Adds an item with a link to an id at the end of a navigation list. -/
def appendEntry (id label : String) (t : Tree) (nav : NodeId) : Tree :=
  let (item, t) := t.createElement (.html "li") itemAttrs
  let (link, t) := t.createElement (.html "a") (linkAttrs id)
  let (text, t) := t.createText label
  let t := t.append (some link) (some text)
  let t := t.append (some item) (some link)
  t.append (some nav) (some item)

/-- Some element that is no exercise holds the id. -/
def isTaken (t : Tree) (exercises : List NodeId) (id : String) : Bool :=
  (t.getById? id).any fun holder => !exercises.contains holder

/-- Makes an exercise a tab pane. Only the first of a page may have been active before. -/
def markSection (id : String) (isFirst : Bool) (pane : NodeId) (t : Tree) : Tree :=
  let t := t.setAttr (some pane) "id" id
  let t := paneClasses.foldl (fun t c => t.addClass (some pane) c) t
  if isFirst then t else t.removeClass (some pane) activeClass

/-- The exercises and the navigation lists of a page, both in document order. -/
structure Parts where
  exercises : List NodeId
  navs : List NodeId

/-- Marks one exercise and adds its entry to every navigation list. -/
def linkSection (s : NavbarSettings) (parts : Parts) (done : NavbarReport × Tree)
    (numbered : NodeId × Nat) : NavbarReport × Tree :=
  let (report, t) := done
  let (pane, number) := numbered
  let id := s.sectionId number
  let taken := isTaken t parts.exercises id
  let t := markSection id (parts.exercises.head? == some pane) pane t
  let t := parts.navs.foldl (appendEntry id (s.labelFor number)) t
  ({ report with
      sections := report.sections + 1
      entries := report.entries + parts.navs.length
      idConflicts := report.idConflicts + if taken then 1 else 0 }, t)

def linkSections (s : NavbarSettings) (parts : Parts) (t : Tree) : NavbarReport × Tree :=
  (parts.exercises.zipIdx 1).foldl (linkSection s parts) ({}, t)

/-- Works on a page whose parts are known. -/
def arrange (s : NavbarSettings) (parts : Parts) (t : Tree) : Outcome NavbarReport :=
  match parts.exercises with
  | [] => ⟨.ok { removedNavs := parts.navs.length }, removeNavs parts.navs t⟩
  | first :: _ =>
    if parts.navs.isEmpty && s.missingNav == .fail then
      .refuse (.missingNav parts.exercises.length s.navSelector) t
    else
      let (report, t) := linkSections s parts t
      ⟨.ok report, t.addClass (some first) activeClass⟩

end Navbar

/-- Builds the navigation bar of a page. -/
def buildNavbar (s : NavbarSettings) (t : Tree) : Outcome NavbarReport :=
  .check (Selector.parse s.navSelector) t fun nav =>
  .check (Selector.parse s.exerciseSelector) t fun exercise =>
    Navbar.arrange s { exercises := t.select exercise, navs := t.select nav } t

/-- With selectors that can be read, the pass works on the parts that they find. -/
theorem buildNavbar_of_parse {s : NavbarSettings} {nav exercise : Selector}
    (hn : Selector.parse s.navSelector = .ok nav)
    (he : Selector.parse s.exerciseSelector = .ok exercise) (t : Tree) :
    buildNavbar s t = Navbar.arrange s ⟨t.select exercise, t.select nav⟩ t := by
  simp only [buildNavbar, hn, he, Outcome.check]

end CoursePage
