import CoursePage.Markup.Builder.Formatting
import CoursePage.Markup.Charset

/-!
Rules for what comes before the body, and for tags of the head wherever they stand.
-/

namespace CoursePage.Markup.Builder

def isSpaceText (s : String) : Bool := s.toList.all Text.isSpace

/-- Opens an element that holds nothing but text. -/
def openText (b : Builder) (tag : Tag) (mode : TextMode) : Taken :=
  ({ b.openTag tag with savedMode := b.mode, mode := .inText }, .read mode)

/-- A template that asks to be the hidden tree of the element around it. -/
def asksForHost (b : Builder) (tag : Tag) : Bool :=
  b.stack.length > 1 && tag.attrs.any fun a =>
    a.name.name == "shadowrootmode" && ["open", "closed"].contains a.value

/-- Opens a template. Hidden trees are not kept, so what is made for one stays unlinked. -/
def openTemplate (b : Builder) (tag : Tag) : Builder :=
  let b := { b.boundFormatting.forbidFrameset with
    mode := .inTemplate, templateModes := .inTemplate :: b.templateModes }
  let b := if b.asksForHost tag then (b.createElement (.html tag.name) tag.attrs).2 else b
  b.openTag tag

/-- Closes a template with everything inside it. -/
def closeTemplate (b : Builder) : Builder :=
  if b.hasOpen "template" then
    let b := ((b.closeWhile endsWithTemplate).closeNamed "template").clearFormatting
    { b with templateModes := b.templateModes.tail }.resetMode
  else b

/-- Takes a start tag of the head. What follows a declaration of the encoding is read afresh. -/
def takeHeadTag (b : Builder) (tag : Tag) : Taken :=
  match tag.name with
  | "title" => b.openText tag .escapable
  | "noframes" => b.openText tag .raw
  | "style" => b.openText tag .raw
  | "script" => b.openText tag .script
  | "template" => (b.openTemplate tag).done
  | _ => (b.addTag tag, if declaresEncoding tag then .afresh else .done)

/-- A second start tag of the root adds attributes to it. -/
def mergeRoot (b : Builder) (tag : Tag) : Taken :=
  match b.root? with
  | some root => (if b.hasOpen "template" then b else b.addMissing root tag.attrs).done
  | none => b.done

/-- End tags that are taken like any other content where no end tag is expected. -/
def closesImplied (name : String) : Bool := ["body", "html", "br"].contains name

def takeInitial (b : Builder) : Token → Taken
  | .comment s => (b.addComment Tree.document s).done
  | .text s =>
    if isSpaceText s then b.done else { b with oldLayout := true }.retake .beforeHtml
  | _ => { b with oldLayout := true }.retake .beforeHtml

/-- Makes the root of the page. -/
def openRoot (b : Builder) (attrs : List Attribute) : Builder :=
  let (i, b) := b.createElement (.html "html") attrs
  { b.push i with tree := b.tree.append (some Tree.document) (some i) }

def takeBeforeHtml (b : Builder) : Token → Taken
  | .comment s => (b.addComment Tree.document s).done
  | .text s => if isSpaceText s then b.done else (b.openRoot []).retake .beforeHead
  | .start tag =>
    if tag.name == "html" then ((b.openRoot tag.attrs).withMode .beforeHead).done
    else (b.openRoot []).retake .beforeHead
  | .finish name =>
    if name == "head" || closesImplied name then (b.openRoot []).retake .beforeHead else b.done
  | _ => (b.openRoot []).retake .beforeHead

/-- Opens the head. -/
def openHead (b : Builder) (tag : Tag) : Builder :=
  let (i, b) := b.insertOpen (.html tag.name) tag.attrs
  { b with head := some i }

def takeBeforeHead (b : Builder) : Token → Taken
  | .comment s => (b.insertComment s).done
  | .text s => if isSpaceText s then b.done else (b.openHead (.plain "head")).retake .inHead
  | .start tag =>
    if tag.name == "html" then b.mergeRoot tag
    else if tag.name == "head" then ((b.openHead tag).withMode .inHead).done
    else (b.openHead (.plain "head")).retake .inHead
  | .finish name =>
    if name == "head" || closesImplied name then (b.openHead (.plain "head")).retake .inHead
    else b.done
  | _ => (b.openHead (.plain "head")).retake .inHead

def takeInHead (b : Builder) : Token → Taken
  | .comment s => (b.insertComment s).done
  | .text s => if isSpaceText s then (b.insertText s).done else b.pop.retake .afterHead
  | .start tag =>
    if tag.name == "html" then b.mergeRoot tag
    else if headTags.contains tag.name then b.takeHeadTag tag
    else if tag.name == "noscript" then b.openText tag .raw
    else if tag.name == "head" then b.done
    else b.pop.retake .afterHead
  | .finish name =>
    if name == "head" then (b.pop.withMode .afterHead).done
    else if name == "template" then b.closeTemplate.done
    else if closesImplied name then b.pop.retake .afterHead
    else b.done
  | _ => b.pop.retake .afterHead

/-- Takes a tag of the head behind the head as if the head were still open. -/
def takeLateHeadTag (b : Builder) (tag : Tag) : Taken :=
  match b.head with
  | some head =>
    let (b, verdict) := (b.push head).takeHeadTag tag
    (b.removeOpen head, verdict)
  | none => b.takeHeadTag tag

def takeAfterHead (b : Builder) : Token → Taken
  | .comment s => (b.insertComment s).done
  | .text s =>
    if isSpaceText s then (b.insertText s).done else (b.openImplied "body").retake .inBody
  | .start tag =>
    if tag.name == "html" then b.mergeRoot tag
    else if tag.name == "body" then ((b.openTag tag).forbidFrameset.withMode .inBody).done
    else if tag.name == "frameset" then ((b.openTag tag).withMode .inFrameset).done
    else if headTags.contains tag.name then b.takeLateHeadTag tag
    else if tag.name == "head" then b.done
    else (b.openImplied "body").retake .inBody
  | .finish name =>
    if name == "template" then b.closeTemplate.done
    else if closesImplied name then (b.openImplied "body").retake .inBody
    else b.done
  | _ => (b.openImplied "body").retake .inBody

end CoursePage.Markup.Builder
