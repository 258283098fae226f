/-!
Text in which only the ASCII letters have two cases.
-/

namespace CoursePage.Text

/-- Lower-cases the ASCII letters and no others. -/
def lowered (s : String) : String := String.ofList (s.toList.map Char.toLower)

/-- Equality up to the case of ASCII letters. -/
def sameLetters (a b : List Char) : Bool := a.map Char.toLower == b.map Char.toLower

def sameText (a b : String) : Bool := sameLetters a.toList b.toList

/-- How two texts are compared where a rule leaves the case open. -/
inductive CaseRule where
  | exact
  | ignoringCase
  deriving DecidableEq, Repr

def CaseRule.equal : CaseRule → List Char → List Char → Bool
  | .exact, a, b => a == b
  | .ignoringCase, a, b => sameLetters a b

/-- Some suffix of `cs` begins with `part`. -/
def CaseRule.within (rule : CaseRule) (part : List Char) : List Char → Bool
  | [] => part.isEmpty
  | c :: cs => rule.equal ((c :: cs).take part.length) part || rule.within part cs

/-- What follows `part` at the front of `cs`, the case of letters aside. -/
def afterLetters? : List Char → List Char → Option (List Char)
  | [], cs => some cs
  | _ :: _, [] => none
  | p :: ps, c :: cs => if p.toLower == c.toLower then afterLetters? ps cs else none

/-- What follows `part` at the front of `cs`. -/
def exactlyAfter? : List Char → List Char → Option (List Char)
  | [], cs => some cs
  | _ :: _, [] => none
  | p :: ps, c :: cs => if p == c then exactlyAfter? ps cs else none

end CoursePage.Text
