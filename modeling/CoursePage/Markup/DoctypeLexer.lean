import CoursePage.Markup.TagLexer

/-!
Reading a document type behind its keyword. It ends at the first closing bracket, even inside
quotes, and is broken if it does not keep to the form.
-/

namespace CoursePage.Markup.DoctypeLexer

def dropSpace (cs : List Char) : List Char := cs.dropWhile Text.isSpace

def textOf (cs : List Char) : String := String.ofList (cs.map visible)

/-- What one part of a document type gives: the text, what follows, and whether the part was
closed by its quote. -/
structure Quoted where
  text : String
  rest : List Char
  closed : Bool

def quoted? : List Char → Option Quoted
  | c :: cs =>
    if c == '"' || c == '\'' then
      let text := cs.takeWhile fun d => d != c
      some { text := textOf text, rest := cs.drop (text.length + 1),
             closed := text.length < cs.length }
    else none
  | [] => none

/-- What the reader has found, and whether it stopped over something that does not belong. -/
structure Found where
  doctype : Doctype
  stopped : Bool := false

def Found.fail (d : Doctype) : Found := { doctype := { d with broken := true }, stopped := true }

/-- Reads a system identifier. Without a quote the type is broken. -/
def readSystem (d : Doctype) (cs : List Char) : Found :=
  match quoted? cs with
  | none => .fail d
  | some q =>
    let d := { d with systemId := some q.text }
    if !q.closed then { doctype := { d with broken := true } }
    else { doctype := d, stopped := !(dropSpace q.rest).isEmpty }

def readPublic (d : Doctype) (cs : List Char) : Found :=
  match quoted? cs with
  | none => .fail d
  | some q =>
    let d := { d with publicId := some q.text }
    let rest := dropSpace q.rest
    if !q.closed then { doctype := { d with broken := true } }
    else if rest.isEmpty then { doctype := d }
    else readSystem d rest

/-- Reads what follows a keyword. A type that ends there is broken. -/
def afterKeyword (read : Doctype → List Char → Found) (d : Doctype) (cs : List Char) : Found :=
  let rest := dropSpace cs
  if rest.isEmpty then { doctype := { d with broken := true } } else read d rest

def readIds (d : Doctype) (cs : List Char) : Found :=
  if cs.isEmpty then { doctype := d }
  else
    match Text.afterLetters? "public".toList cs, Text.afterLetters? "system".toList cs with
    | some rest, _ => afterKeyword readPublic d rest
    | none, some rest => afterKeyword readSystem d rest
    | none, none => .fail d

def readBody (cs : List Char) : Found :=
  let cs := dropSpace cs
  let name := cs.takeWhile fun c => !Text.isSpace c
  if name.isEmpty then { doctype := { broken := true } }
  else
    readIds { name := some (String.ofList (name.map fun c => (visible c).toLower)) }
      (dropSpace (cs.drop name.length))

/-- Reads a document type and returns what follows it. One that the page does not close is
broken, unless the reader had stopped before. -/
def read (cs : List Char) : Doctype × List Char :=
  let body := cs.takeWhile fun c => c != '>'
  let found := readBody body
  let closed := body.length < cs.length
  let d := found.doctype
  (if closed || found.stopped then d else { d with broken := true }, cs.drop (body.length + 1))

end CoursePage.Markup.DoctypeLexer
