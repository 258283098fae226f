import CoursePage.Files.Basic
import CoursePage.Text.Blank

/-!
Paths of files, and the places that they lead to step by step. A path that begins with a slash
leads outside the directory that paths start from, and so do two dots there.
-/

namespace CoursePage

/-- Names of directories inside one another, the last one's or a file's at the end. -/
abbrev Path := List String

namespace Path

/-- A path, cut at its slashes. -/
def parts (text : String) : Path :=
  (Text.words (fun c => c == '/') text.toList).map String.ofList

def text (path : Path) : String := "/".intercalate path

/-- The last part; a path without parts stays where it starts. -/
def last (text : String) : String := (parts text).getLast?.getD "."

/-- One dot stays where it is and two dots go back. -/
def isStep (part : String) : Bool := part == "." || part == ".."

/-- The text ends in a slash, as only the path of a directory may. -/
def isForDirectory (text : String) : Bool := text.toList.getLast? == some '/'

/-- The greatest number of bytes in a path. -/
def lengthLimit : Nat := 4095

/-- The greatest number of bytes in a name. -/
def nameLimit : Nat := 255

end Path

/-- Where a path has led so far. -/
inductive Place where
  /-- Below the directory that paths start from. -/
  | inside (path : Path)
  /-- Below the outermost directory, or so it is taken. -/
  | outside (path : Path)
  deriving DecidableEq, Repr

namespace Place

/-- Where a path starts. -/
def start (text : String) : Place :=
  if text.toList.head? == some '/' then .outside [] else .inside []

def back : Place → Place
  | .inside [] => .outside []
  | .inside path => .inside path.dropLast
  | .outside path => .outside path.dropLast

def down (name : String) : Place → Place
  | .inside path => .inside (path ++ [name])
  | .outside path => .outside (path ++ [name])

/-- Follows one part of a path, whether or not anything is there. -/
def follow (place : Place) (part : String) : Except FileFault Place :=
  if part == "." then .ok place
  else if part == ".." then .ok place.back
  else if part.utf8ByteSize > Path.nameLimit then .error .nameTooLong
  else .ok (place.down part)

end Place

end CoursePage
