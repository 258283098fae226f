import CoursePage.Markup.Token
import CoursePage.Text.Ascii
import CoursePage.Text.Blank

/-!
Tags that declare the encoding of their page: by a charset, or as a content type with one.
-/

namespace CoursePage.Markup

/-- A label in quotes, or up to the next space or semicolon. -/
def labelAt? : List Char → Option (List Char)
  | [] => none
  | c :: cs =>
    if c == '"' || c == '\'' then if cs.contains c then some (cs.takeWhile (· != c)) else none
    else some ((c :: cs).takeWhile fun d => !(Text.isSpace d || d == ';'))

/-- The label behind the first charset with an equals sign in a content type. -/
def charsetOf? : List Char → Option (List Char)
  | [] => none
  | c :: cs =>
    match (Text.afterLetters? "charset".toList (c :: cs)).map (·.dropWhile Text.isSpace) with
    | some ('=' :: rest) => labelAt? (rest.dropWhile Text.isSpace)
    | _ => charsetOf? cs

/-- The tag declares an encoding, known or not. -/
def declaresEncoding (tag : Tag) : Bool :=
  (tag.value? "charset").isSome ||
    ((tag.value? "http-equiv").any (Text.sameText · "content-type") &&
      ((tag.value? "content").bind fun s => charsetOf? s.toList).isSome)

end CoursePage.Markup
