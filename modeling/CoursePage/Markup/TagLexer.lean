import CoursePage.Markup.Reference
import CoursePage.Markup.Token
import CoursePage.Text.Ascii

/-!
Reading a tag behind its opening mark, character by character. A tag that the markup does not
finish is none.
-/

namespace CoursePage.Markup

/-- A NUL stands for no character. -/
def visible (c : Char) : Char := if c == '\x00' then '\ufffd' else c

namespace TagLexer

/-- A tag while it is read. Everything is kept in reverse. -/
structure Draft where
  name : List Char := []
  attrs : List (List Char × List Char) := []
  selfClosing : Bool := false

namespace Draft

def pushName (d : Draft) (c : Char) : Draft := { d with name := (visible c).toLower :: d.name }

/-- Begins an attribute with the first character of its name. -/
def openAttr (d : Draft) (c : Char) : Draft :=
  { d with attrs := ([(visible c).toLower], []) :: d.attrs }

def pushAttrName (d : Draft) (c : Char) : Draft :=
  match d.attrs with
  | (name, value) :: rest => { d with attrs := ((visible c).toLower :: name, value) :: rest }
  | [] => d

def pushValue (d : Draft) (c : Char) : Draft :=
  match d.attrs with
  | (name, value) :: rest => { d with attrs := (name, visible c :: value) :: rest }
  | [] => d

end Draft

/-- Keeps the first attribute of each name. -/
def firstOfName (attrs : List Attribute) : List Attribute :=
  attrs.foldl (fun kept a => if kept.any (fun b => b.name == a.name) then kept else kept ++ [a]) []

def Draft.tag (d : Draft) : Tag where
  name := String.ofList d.name.reverse
  attrs := firstOfName (d.attrs.reverse.map fun a =>
    .plain (String.ofList a.1.reverse) (String.ofList (resolveValue a.2.reverse)))
  selfClosing := d.selfClosing

/-- Where in a tag the reader is. -/
inductive Place where
  | name
  | gap
  | slash
  | attrName
  | behindAttrName
  | beforeValue
  | quoted (quote : Char)
  | unquoted
  | finished

/-- Between attributes. -/
def inGap (d : Draft) (c : Char) : Place × Draft :=
  if Text.isSpace c then (.gap, d)
  else if c == '/' then (.slash, d)
  else if c == '>' then (.finished, d)
  else (.attrName, d.openAttr c)

def step (d : Draft) (c : Char) : Place → Place × Draft
  | .name =>
    if Text.isSpace c || c == '/' || c == '>' then inGap d c else (.name, d.pushName c)
  | .gap => inGap d c
  | .slash => if c == '>' then (.finished, { d with selfClosing := true }) else inGap d c
  | .attrName =>
    if Text.isSpace c then (.behindAttrName, d)
    else if c == '=' then (.beforeValue, d)
    else if c == '/' || c == '>' then inGap d c
    else (.attrName, d.pushAttrName c)
  | .behindAttrName =>
    if Text.isSpace c then (.behindAttrName, d)
    else if c == '=' then (.beforeValue, d)
    else inGap d c
  | .beforeValue =>
    if Text.isSpace c then (.beforeValue, d)
    else if c == '"' || c == '\'' then (.quoted c, d)
    else if c == '>' then (.finished, d)
    else (.unquoted, d.pushValue c)
  | .quoted quote => if c == quote then (.gap, d) else (.quoted quote, d.pushValue c)
  | .unquoted =>
    if Text.isSpace c then (.gap, d)
    else if c == '>' then (.finished, d)
    else (.unquoted, d.pushValue c)
  | .finished => (.finished, d)

/-- Reads up to the end of the tag and returns what follows it. -/
def scan (place : Place) (d : Draft) : List Char → Option (Draft × List Char)
  | [] => none
  | c :: cs =>
    match step d c place with
    | (.finished, d) => some (d, cs)
    | (place, d) => scan place d cs

/-- Reads a tag from its name on. -/
def read? (cs : List Char) : Option (Tag × List Char) :=
  (scan .name {} cs).map fun r => (r.1.tag, r.2)

end TagLexer

end CoursePage.Markup
