import CoursePage.Markup.DoctypeLexer

/-!
Cutting markup into tokens. What a text is to be read as depends on the elements around it, so
the reader is told the mode and the last start tag each time.
-/

namespace CoursePage.Markup.Lexer

/-- Line breaks of all kinds become line feeds. -/
def unifyBreaks : List Char → List Char
  | '\r' :: '\n' :: cs => '\n' :: unifyBreaks cs
  | '\r' :: cs => '\n' :: unifyBreaks cs
  | c :: cs => c :: unifyBreaks cs
  | [] => []

/-- Drops one byte order mark at the front. -/
def withoutMark : List Char → List Char
  | '\ufeff' :: cs => cs
  | cs => cs

/-- The characters of a page. -/
def input (page : String) : List Char := unifyBreaks page.toList

/-- Cuts characters where space and other characters meet. -/
def runs : List Char → List (List Char)
  | [] => []
  | c :: cs =>
    match runs cs with
    | (d :: run) :: rest =>
      if Text.isSpace c == Text.isSpace d then (c :: d :: run) :: rest
      else [c] :: (d :: run) :: rest
    | rest => [c] :: rest

def textTokens (cs : List Char) : List Token := (runs cs).map fun run => .text (String.ofList run)

/-- Tokens of a text in which a `none` marks a fault. -/
def markedTokens (parts : List (Option Char)) : List Token :=
  let step (part : Option Char) (done : List Char × List Token) : List Char × List Token :=
    match part with
    | some c => (c :: done.1, done.2)
    | none => ([], .fault :: textTokens done.1 ++ done.2)
  let (front, rest) := parts.foldr step ([], [])
  textTokens front ++ rest

/-- Reads a comment behind its opening. The page may end in the middle of the closing mark. -/
def readComment : List Char → List Char × List Char
  | [] => ([], [])
  | '-' :: '-' :: '>' :: cs => ([], cs)
  | '-' :: '-' :: '!' :: '>' :: cs => ([], cs)
  | ['-', '-', '!'] => ([], [])
  | ['-', '-'] => ([], [])
  | ['-'] => ([], [])
  | c :: cs =>
    let r := readComment cs
    (visible c :: r.1, r.2)

def comment : List Char → Token × List Char
  | '>' :: cs => (.comment "", cs)
  | '-' :: '>' :: cs => (.comment "", cs)
  | cs =>
    let r := readComment cs
    (.comment (String.ofList r.1), r.2)

/-- Whatever is no tag is a comment up to the next closing bracket. -/
def bogusComment (cs : List Char) : Token × List Char :=
  let text := cs.takeWhile fun c => c != '>'
  (.comment (DoctypeLexer.textOf text), cs.drop (text.length + 1))

/-- Reads a section of plain text inside foreign elements, up to its closing mark. -/
def readSection : List Char → List Char × List Char
  | [] => ([], [])
  | ']' :: ']' :: '>' :: cs => ([], cs)
  | c :: cs =>
    let r := readSection cs
    (c :: r.1, r.2)

/-- Text with the NUL characters in tokens of their own. -/
def nulTokens (cs : List Char) : List Token :=
  let texts := (Text.pieces (fun c => c == '\x00') cs).map textTokens
  List.flatten (texts.intersperse [.nul])

/-- Reads what an exclamation mark opens. -/
def declaration (inForeign : Bool) (cs : List Char) : List Token × List Char :=
  match cs with
  | '-' :: '-' :: rest =>
    let r := comment rest
    ([r.1], r.2)
  | _ =>
    let plain? := if inForeign then Text.exactlyAfter? "[CDATA[".toList cs else none
    match Text.afterLetters? "doctype".toList cs, plain? with
    | some rest, _ =>
      let r := DoctypeLexer.read rest
      ([.doctype r.1], r.2)
    | none, some rest =>
      let r := readSection rest
      (nulTokens r.1, r.2)
    | none, none =>
      let r := bogusComment cs
      ([r.1], r.2)

/-- A tag, or nothing if the page ends in it. -/
def tagToken (make : Tag → Token) (cs : List Char) : List Token × List Char :=
  match TagLexer.read? cs with
  | some (tag, rest) => ([make tag], rest)
  | none => ([], [])

/-- Reads what begins with an opening bracket. -/
def markup (inForeign : Bool) : List Char → List Token × List Char
  | '!' :: cs => declaration inForeign cs
  | '?' :: cs =>
    let r := bogusComment ('?' :: cs)
    ([r.1], r.2)
  | ['/'] => ([.text "</"], [])
  | '/' :: '>' :: cs => ([.fault], cs)
  | '/' :: c :: cs =>
    if c.isAlpha then tagToken (fun tag => .finish tag.name) (c :: cs)
    else
      let r := bogusComment (c :: cs)
      ([r.1], r.2)
  | c :: cs =>
    if c.isAlpha then tagToken .start (c :: cs) else ([.text "<"], c :: cs)
  | [] => ([.text "<"], [])

/-- What follows an opening bracket is the end tag with a name. -/
def closes (name : List Char) (cs : List Char) : Bool :=
  match Text.afterLetters? ('/' :: name) cs with
  | some (c :: _) => Text.isSpace c || c == '/' || c == '>'
  | _ => false

/-- Reads text up to the end tag with a name. -/
def readRaw (name : List Char) : List Char → List Char × List Char
  | [] => ([], [])
  | c :: cs =>
    if c == '<' && closes name cs then ([], c :: cs)
    else
      let r := readRaw name cs
      (visible c :: r.1, r.2)

/-- How deep in comments and scripts inside comments a script text is. -/
inductive ScriptDepth where
  | plain
  | escaped
  | doubly
  deriving DecidableEq

/-- What follows an opening bracket is a tag of a script. -/
def opensScript (mark : List Char) (cs : List Char) : Bool :=
  match Text.afterLetters? (mark ++ "script".toList) cs with
  | some (c :: _) => Text.isSpace c || c == '/' || c == '>'
  | _ => false

/-- The depth behind an opening bracket. -/
def ScriptDepth.behindBracket (depth : ScriptDepth) (cs : List Char) : ScriptDepth :=
  match depth with
  | .plain => if cs.take 3 == ['!', '-', '-'] then .escaped else .plain
  | .escaped => if opensScript [] cs then .doubly else .escaped
  | .doubly => if opensScript ['/'] cs then .escaped else .doubly

/-- Reads a script up to its end tag. Two hyphens and a closing bracket end a comment in it. -/
def readScript (name : List Char) (depth : ScriptDepth) (hyphens : Nat) :
    List Char → List Char × List Char
  | [] => ([], [])
  | c :: cs =>
    if c == '<' && depth != .doubly && closes name cs then ([], c :: cs)
    else
      let depth :=
        if c == '<' then depth.behindBracket cs
        else if c == '>' && hyphens ≥ 2 then .plain
        else depth
      let r := readScript name depth (if c == '-' then hyphens + 1 else 0) cs
      (visible c :: r.1, r.2)

/-- Reads text, then the end tag that cut it, if there was no text before. -/
def rawTokens (tokens : List Char → List Token) (r : List Char × List Char) :
    List Token × List Char :=
  match r with
  | ([], '<' :: cs) => markup false cs
  | (text, rest) => (tokens text, rest)

def endsData (c : Char) : Bool := c == '<' || c == '\x00'

/-- Reads on from the front of a text that is not empty. -/
def next (mode : TextMode) (lastStart : String) (inForeign : Bool) (cs : List Char) :
    List Token × List Char :=
  let name := lastStart.toList
  match mode with
  | .data =>
    match cs with
    | '<' :: rest => markup inForeign rest
    | '\x00' :: rest => ([.nul], rest)
    | _ =>
      let text := cs.takeWhile fun c => !endsData c
      (markedTokens (resolveText text), cs.drop text.length)
  | .escapable => rawTokens (fun text => markedTokens (resolveText text)) (readRaw name cs)
  | .raw => rawTokens textTokens (readRaw name cs)
  | .script => rawTokens textTokens (readScript name .plain 0 cs)
  | .plain => (textTokens (cs.map visible), [])

end CoursePage.Markup.Lexer
