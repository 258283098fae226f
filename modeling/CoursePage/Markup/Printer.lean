import CoursePage.Markup.Escape
import CoursePage.Markup.Event

/-!
Writing events as markup. The text directly inside a raw text element is written as it is, and
an element that cannot have content is written without an end tag; elements inside it are not
written at all. The printer is not told what surrounds the events, so text at their top level
is always escaped.
-/

namespace CoursePage

namespace Markup

/-- Elements without content and end tag. -/
def voidTags : List String :=
  ["area", "base", "basefont", "bgsound", "br", "col", "embed", "frame", "hr", "img", "input",
   "keygen", "link", "meta", "param", "source", "track", "wbr"]

/-- Elements whose text is written unescaped. -/
def rawTextTags : List String :=
  ["style", "script", "xmp", "iframe", "noembed", "noframes", "plaintext", "noscript"]

def isVoid (name : QualName) : Bool := name.space == .html && voidTags.contains name.name

def isRawText (name : QualName) : Bool := name.space == .html && rawTextTags.contains name.name

/-- What the printer remembers of an element that is open. -/
structure Frame where
  rawText : Bool
  childless : Bool
  deriving DecidableEq, Repr

def Frame.outermost : Frame := ⟨false, false⟩

structure Printer where
  frames : List Frame
  output : String

def attributeMark (name : QualName) : String :=
  match name.space with
  | .none => ""
  | .xml => "xml:"
  | .xmlns => if name.name == "xmlns" then "" else "xmlns:"
  | .xlink => "xlink:"
  | _ => "unknown_namespace:"

def attributeText (a : Attribute) : String :=
  " " ++ attributeMark a.name ++ a.name.name ++ "=\"" ++ escapeValue a.value ++ "\""

def startTag (name : QualName) (attrs : List Attribute) : String :=
  "<" ++ name.name ++ String.join (attrs.map attributeText) ++ ">"

def endTag (name : QualName) : String := "</" ++ name.name ++ ">"

namespace Printer

def start : Printer := ⟨[.outermost], ""⟩

def top (p : Printer) : Frame := p.frames.headD .outermost

def emit (p : Printer) (s : String) : Printer := { p with output := p.output ++ s }

def write (p : Printer) : Event → Printer
  | .start name attrs =>
    if p.top.childless then { p with frames := ⟨isRawText name, true⟩ :: p.frames }
    else { p.emit (startTag name attrs) with frames := ⟨isRawText name, isVoid name⟩ :: p.frames }
  | .finish name =>
    let q := { p with frames := p.frames.tail }
    if p.top.childless then q else q.emit (endTag name)
  | .text s => p.emit (if p.top.rawText then s else escapeText s)
  | .comment s => p.emit ("<!--" ++ s ++ "-->")
  | .doctype name => p.emit ("<!DOCTYPE " ++ name ++ ">")

end Printer

/-- The markup of a sequence of events. -/
def render (events : List Event) : String := (events.foldl Printer.write .start).output

end Markup

namespace Tree

/-- The markup of a node and all below it. -/
def outerHtml (t : Tree) (l : Link) : String :=
  match l with
  | none => ""
  | some i => Markup.render (t.outerEvents i)

/-- The markup of all nodes below a node. -/
def innerHtml (t : Tree) (l : Link) : String := Markup.render (t.innerEvents l)

/-- The markup of the whole page. -/
def toHtml (t : Tree) : String := t.innerHtml (some document)

end Tree

end CoursePage
