import CoursePage.Encoding.Label
import CoursePage.Tree.Attr

/-!
Declarations of the encoding inside a page. A page is always written as UTF-8, so a declaration
of another encoding is changed to say so.
-/

namespace CoursePage

namespace Encoding

def isUtf8Label (label : String) : Bool := ofLabel? (Text.trimBlank label) == some .utf8

/-- Cuts a text behind the first occurrence of a key, the case of letters aside. -/
def splitBehind? (key : List Char) : List Char → Option (List Char × List Char)
  | [] => (Text.afterLetters? key []).map fun rest => ([], rest)
  | c :: cs =>
    match Text.afterLetters? key (c :: cs) with
    | some rest => some ((c :: cs).take key.length, rest)
    | none => (splitBehind? key cs).map fun p => (c :: p.1, p.2)

def endsLabel (c : Char) : Bool := c == ';' || Text.isBlank c

def isQuote (c : Char) : Bool := c == '"' || c == '\''

/-- A content type with UTF-8 for its charset, unless it has none or has UTF-8 already. -/
def withUtf8Charset? (content : String) : Option String := do
  let (front, rest) ← splitBehind? "charset=".toList content.toList
  let label := rest.takeWhile fun c => !endsLabel c
  if isUtf8Label (String.ofList (Text.trimBy isQuote label)) then none
  else some (String.ofList (front ++ "utf-8".toList ++ rest.drop label.length))

end Encoding

namespace Tree

/-- The value of an attribute of an element names a content type. -/
def declaresContentType (t : Tree) (metaTag : NodeId) : Bool :=
  (t.attr? (some metaTag) "http-equiv").any fun value =>
    Text.sameText (Text.trimBlank value) "content-type"

/-- The attribute to write to an element so that it declares UTF-8, and its value. -/
def utf8Declaration? (t : Tree) (metaTag : NodeId) : Option (String × String) :=
  match t.attr? (some metaTag) "charset" with
  | some label => if Encoding.isUtf8Label label then none else some ("charset", "utf-8")
  | none =>
    if t.declaresContentType metaTag then do
      let content ← t.attr? (some metaTag) "content"
      let value ← Encoding.withUtf8Charset? content
      return ("content", value)
    else none

def declareUtf8At (done : Nat × Tree) (metaTag : NodeId) : Nat × Tree :=
  match done.2.utf8Declaration? metaTag with
  | some (name, value) => (done.1 + 1, done.2.setAttr (some metaTag) name value)
  | none => done

/-- Lets every declaration of an encoding name UTF-8 and counts the changes. -/
def declareUtf8 (t : Tree) : Nat × Tree := (t.findTags "meta").foldl declareUtf8At (0, t)

end Tree

end CoursePage
