import CoursePage.Pass.Outcome
import CoursePage.Settings.Basic

/-!
Renaming elements: each one that is selected gives way to a new element of the wanted name with
the same attributes, the same children and the same place.
-/

namespace CoursePage

namespace TagRename

/-- Puts a new element in the place of an old one. -/
def renameOne (target : String) (t : Tree) (old : NodeId) : Tree :=
  let (new, t) := t.createElement (.html target) (t.attrs (some old))
  let t := t.moveChildren (some old) (some new)
  t.replace (some old) (some new)

end TagRename

/-- Renames all elements that the source selects and counts them. -/
def renameTags (s : TagSettings) (t : Tree) : Outcome Nat :=
  .check (Selector.parse s.source) t fun source =>
    let found := t.select source
    ⟨.ok found.length, found.foldl (TagRename.renameOne s.target) t⟩

/-- With a selector that can be read, the pass renames what it finds. -/
theorem renameTags_of_parse {s : TagSettings} {source : Selector}
    (hs : Selector.parse s.source = .ok source) (t : Tree) : renameTags s t =
      ⟨.ok (t.select source).length,
        (t.select source).foldl (TagRename.renameOne s.target) t⟩ := by
  simp only [renameTags, hs, Outcome.check]

end CoursePage
