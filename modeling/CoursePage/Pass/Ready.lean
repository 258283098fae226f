import CoursePage.Pass.Navbar
import CoursePage.Pass.TagRename

/-!
What is done to a page once it is read: the settings are checked, the navigation bar is built
and the tags are renamed. The check comes first, so settings that are not sound leave the page
as it was.
-/

namespace CoursePage

structure Report where
  navbar : NavbarReport
  tagsReplaced : Nat
  deriving DecidableEq, Repr

/-- Runs both passes. -/
def onReady (s : Settings) (t : Tree) : Outcome Report :=
  .check s.validate t fun _ =>
  (buildNavbar s.navbar t).andThen fun navbar t =>
  (renameTags s.tags t).andThen fun tagsReplaced t =>
    ⟨.ok { navbar, tagsReplaced }, t⟩

end CoursePage
