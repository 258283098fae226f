import CoursePage.Markup.Builder.Rules
import CoursePage.Markup.Lexer

/-!
Reading a page: its markup is cut into tokens, which the builder takes one after the other. What
the builder opens decides how the text behind it is cut.
-/

namespace CoursePage

namespace Markup

/-- A page while it is read. -/
structure Reading where
  builder : Builder := {}
  mode : TextMode := .data
  lastStart : String := ""
  /-- What follows is read as if the page began with it. -/
  afresh : Bool := true

namespace Reading

def take (r : Reading) (token : Token) : Reading :=
  let (builder, outlook) := r.builder.take token
  let afresh := outlook == .afresh
  match token with
  | .start tag => { builder, mode := outlook.modeFrom r.mode, lastStart := tag.name, afresh }
  | .finish _ => { r with builder, mode := outlook.modeFrom .data, afresh }
  | _ => { r with builder, mode := outlook.modeFrom r.mode, afresh }

/-- What is left to read, without a byte order mark where the page begins or seems to. -/
def front (r : Reading) (cs : List Char) : List Char :=
  if r.afresh then Lexer.withoutMark cs else cs

/-- Reads on; every step takes a character at least. -/
def run : Nat → Reading → List Char → Reading
  | 0, r, _ => r
  | fuel + 1, r, cs =>
    match r.front cs with
    | [] => r.take .eof
    | cs =>
      let (tokens, rest) := Lexer.next r.mode r.lastStart r.builder.isInForeign cs
      run fuel (tokens.foldl take { r with afresh := false }) rest

end Reading

end Markup

/-- The tree of a page. Every text is a page: what is badly marked up is mended. -/
def Tree.ofMarkup (page : String) : Tree :=
  let cs := Markup.Lexer.input page
  (Markup.Reading.run (cs.length + 1) {} cs).builder.tree

end CoursePage
