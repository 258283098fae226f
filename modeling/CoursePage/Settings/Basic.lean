import CoursePage.Selector.Query

/-!
Settings of the two passes over a page: which elements they work on and what they write.
-/

namespace CoursePage

/-- What to do with exercises on a page that has no place for their tabs. -/
inductive MissingNav where
  | fail
  | skip
  deriving DecidableEq, Repr

structure NavbarSettings where
  navSelector : String := ".nav"
  exerciseSelector : String := ".exercise"
  idPrefix : String := "exercise"
  /-- The text of a tab, in which the placeholder stands for its number. -/
  label : String := "Exercise \x7bn\x7d"
  missingNav : MissingNav := .fail
  deriving DecidableEq, Repr

structure TagSettings where
  source : String := "tt"
  target : String := "code"
  deriving DecidableEq, Repr

structure Settings where
  navbar : NavbarSettings := {}
  tags : TagSettings := {}
  deriving DecidableEq, Repr

namespace NavbarSettings

/-- The id of the exercise with a number. -/
def sectionId (s : NavbarSettings) (number : Nat) : String := s.idPrefix ++ toString number

/-- Puts a text for every placeholder. -/
def fill (text : List Char) : List Char → List Char
  | '\x7b' :: 'n' :: '\x7d' :: cs => text ++ fill text cs
  | c :: cs => c :: fill text cs
  | [] => []

/-- The tab text of the exercise with a number. -/
def labelFor (s : NavbarSettings) (number : Nat) : String :=
  String.ofList (fill (toString number).toList s.label.toList)

def idPrefixIsSound (s : NavbarSettings) : Bool :=
  !s.idPrefix.isEmpty && !s.idPrefix.toList.any Text.isBlank

def validate (s : NavbarSettings) : Except Failure Unit := do
  let _ ← Selector.parse s.navSelector
  let _ ← Selector.parse s.exerciseSelector
  unless s.idPrefixIsSound do
    throw (.settings ("id prefix `" ++ s.idPrefix ++
      "` must be non-empty and contain no whitespace"))

end NavbarSettings

namespace TagSettings

/-- An ASCII letter, then ASCII letters, digits and hyphens. -/
def targetIsSound (s : TagSettings) : Bool :=
  s.target.toList.head?.any Char.isAlpha &&
    s.target.toList.all fun c => c.isAlphanum || c == '-'

def validate (s : TagSettings) : Except Failure Unit := do
  let _ ← Selector.parse s.source
  unless s.targetIsSound do
    throw (.settings ("`" ++ s.target ++ "` is not a valid element name"))

end TagSettings

/-- Refuses settings that would spoil a page. -/
def Settings.validate (s : Settings) : Except Failure Unit := do
  s.navbar.validate
  s.tags.validate

end CoursePage
