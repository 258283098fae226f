import CoursePage.Markup.Builder.Frameset
import CoursePage.Markup.Builder.Table
import CoursePage.Markup.Doctype

/-!
Taking tokens: each goes to the rules in force, or to those for foreign content if the innermost
open element is foreign, until it has been taken.
-/

namespace CoursePage.Markup.Builder

def takeBy (b : Builder) (mode : Mode) (token : Token) : Taken :=
  match mode with
  | .initial => b.takeInitial token
  | .beforeHtml => b.takeBeforeHtml token
  | .beforeHead => b.takeBeforeHead token
  | .inHead => b.takeInHead token
  | .afterHead => b.takeAfterHead token
  | .inBody => b.takeInBody token
  | .inText => b.takeInText token
  | .inTable => b.takeInTable token
  | .inTableText => b.takeInTableText token
  | .inCaption => b.takeInCaption token
  | .inColumnGroup => b.takeInColumnGroup token
  | .inTableBody => b.takeInTableBody token
  | .inRow => b.takeInRow token
  | .inCell => b.takeInCell token
  | .inTemplate => b.takeInTemplate token
  | .afterBody => b.takeAfterBody token
  | .inFrameset => b.takeInFrameset token
  | .afterFrameset => b.takeAfterFrameset token
  | .afterAfterBody => b.takeAfterAfterBody token
  | .afterAfterFrameset => b.takeAfterAfterFrameset token

/-- The innermost open element is foreign. -/
def isInForeign (b : Builder) : Bool := b.currentIs fun n => n.space != .html

/-- The rules for foreign content have to take a token. -/
def isForeignToken (b : Builder) (token : Token) : Bool :=
  b.currentIs fun n =>
    if n.space == .html then false
    else
      match token with
      | .eof => false
      | .text _ => !(isMathText n || isSvgHtml n)
      | .nul => !(isMathText n || isSvgHtml n)
      | .start tag =>
        !((isMathText n && !(["mglyph", "malignmark"].contains tag.name)) || isSvgHtml n ||
          (n == ⟨.mathml, "annotation-xml"⟩ && tag.name == "svg"))
      | _ => true

/-- A tag of HTML in foreign content, which ends it. -/
def breaksOut (tag : Tag) : Bool :=
  breakoutTags.contains tag.name ||
    (tag.name == "font" && tag.attrs.any fun a =>
      a.name.space == .none && ["color", "face", "size"].contains a.name.name)

/-- Closes foreign elements and lets the rules in force take a token. -/
def breakOut (b : Builder) (token : Token) : Taken :=
  let b := b.closeUpTo fun n => n.space == .html || isMathText n || isSvgHtml n
  b.takeBy b.mode token

/-- Takes an end tag in foreign content. Names are compared without regard to case. -/
def takeForeignFinish (b : Builder) (name : String) : Taken :=
  let foreign := b.stack.takeWhile fun i => (b.nameOf i).space != .html
  match foreign.find? fun i => Text.sameText (b.nameOf i).name name with
  | some i => { b with stack := (b.stack.dropWhile fun j => j != i).tail }.done
  | none => b.takeBy b.mode (.finish name)

def takeForeignStart (b : Builder) (tag : Tag) : Taken :=
  match b.current? with
  | some i => (b.openForeign (Foreign.elementName (b.nameOf i).space tag.name) tag).done
  | none => b.done

def takeForeign (b : Builder) (token : Token) : Taken :=
  match token with
  | .nul => (b.insertText "\ufffd").done
  | .text s => ((if isSpaceText s then b else b.forbidFrameset).insertText s).done
  | .comment s => (b.insertComment s).done
  | .start tag => if breaksOut tag then b.breakOut token else b.takeForeignStart tag
  | .finish name =>
    if name == "br" || name == "p" then b.breakOut token else b.takeForeignFinish name
  | _ => b.done

/-- Takes a token until no other rules are called for. -/
def settle (token : Token) : Nat → Builder → Builder × Outlook
  | 0, b => (b, .same)
  | fuel + 1, b =>
    let (b, verdict) :=
      if b.isForeignToken token then b.takeForeign token else b.takeBy b.mode token
    match verdict with
    | .done => (b, .same)
    | .read mode => (b, .as mode)
    | .afresh => (b, .afresh)
    | .again mode => settle token fuel (b.withMode mode)

/-- More changes of rules than one token can call for. -/
def settleLimit (b : Builder) : Nat := 8 * (b.stack.length + b.templateModes.length) + 40

/-- A document type counts at the front of the page only. -/
def takeDoctype (b : Builder) (d : Doctype) : Builder :=
  if b.mode != .initial then b
  else
    let (i, t) :=
      b.tree.createDoctype (d.name.getD "") (d.publicId.getD "") (d.systemId.getD "")
    { b with
      tree := t.append (some Tree.document) (some i), oldLayout := d.isOld, mode := .beforeHtml }

/-- A text without the line feed at its front. -/
def withoutBreak (s : String) : String :=
  match s.toList with
  | '\n' :: cs => String.ofList cs
  | cs => String.ofList cs

def take (b : Builder) (token : Token) : Builder × Outlook :=
  let dropBreak := b.dropBreak
  let b := { b with dropBreak := false }
  match token with
  | .fault => (b, .same)
  | .doctype d => (b.takeDoctype d, .same)
  | .text s =>
    let s := if dropBreak then withoutBreak s else s
    if s.isEmpty then (b, .same) else settle (.text s) b.settleLimit b
  | token => settle token b.settleLimit b

end CoursePage.Markup.Builder
