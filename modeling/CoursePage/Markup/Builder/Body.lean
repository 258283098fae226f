import CoursePage.Markup.Builder.Head
import CoursePage.Markup.Foreign
import CoursePage.Text.Ascii

/-!
Rules for the content of the body.
-/

namespace CoursePage.Markup.Builder

/-- The end of the page inside a template closes the template. -/
def takeTemplateEnd (b : Builder) : Taken :=
  if b.hasOpen "template" then
    let b := (b.closeNamed "template").clearFormatting
    let b := { b with templateModes := b.templateModes.tail }
    b.retake b.modeForStack
  else b.done

def isHidden (tag : Tag) : Bool := (tag.value? "type").any (Text.sameText · "hidden")

/-- Opens an element of foreign content, or adds it closed if the tag closes itself. -/
def openForeign (b : Builder) (name : QualName) (tag : Tag) : Builder :=
  let attrs := Foreign.attributes name.space tag.attrs
  if tag.selfClosing then (b.insertClosed name attrs).2 else (b.insertOpen name attrs).2

/-- Closes an element with all that ends by itself inside it, if it is in scope. -/
def closeInScope (b : Builder) (ends : QualName → Bool) (name : String)
    (keep : Option String) : Builder :=
  if b.nameInScope ends name then (b.closeImplied keep).closeNamed name else b

/-- The item that a new list item ends: the innermost of its kind that nothing keeps apart. -/
def openItem? (b : Builder) (names : List String) : Option String :=
  search b.stack
where
  search : List NodeId → Option String
  | [] => none
  | i :: rest =>
    let n := b.nameOf i
    if n.isHtmlIn names then some n.name
    else if keepsItemsApart n then none
    else search rest

def takeItem (b : Builder) (tag : Tag) : Builder :=
  let names := if tag.name == "li" then ["li"] else ["dd", "dt"]
  let b := b.forbidFrameset
  let b :=
    match b.openItem? names with
    | some name => (b.closeImplied (some name)).closeNamed name
    | none => b
  b.closeParagraphInScope.openTag tag

/-- A choice of options that is open ends where something stands that cannot be in it. -/
def endSelect (b : Builder) : Builder :=
  if b.nameInScope endsScope "select" then b.closeNamed "select" else b

/-- Opens an option or a group of them. -/
def takeOption (b : Builder) (keep : Option String) (tag : Tag) : Builder :=
  let b :=
    if b.nameInScope endsScope "select" then b.closeImplied keep
    else if b.currentIs (·.isHtmlNamed "option") then b.pop
    else b
  b.restoreFormatting.openTag tag

def takeFrameset (b : Builder) (tag : Tag) : Builder :=
  match b.framesetOk, b.body? with
  | true, some body =>
    let b := { b with tree := b.tree.detach (some body), stack := b.root?.toList }
    (b.openTag tag).withMode .inFrameset
  | _, _ => b

/-- Adds attributes to the body that is open. -/
def mergeBody (b : Builder) (tag : Tag) : Builder :=
  match b.body? with
  | some body => if b.hasOpen "template" then b else b.forbidFrameset.addMissing body tag.attrs
  | none => b

def takeForm (b : Builder) (tag : Tag) : Builder :=
  let inTemplate := b.hasOpen "template"
  if b.form.isSome && !inTemplate then b
  else
    let (i, b) := b.closeParagraphInScope.insertOpen (.html tag.name) tag.attrs
    if inTemplate then b else { b with form := some i }

/-- Adds an element without content. -/
def takeVoid (b : Builder) (tag : Tag) : Builder := b.restoreFormatting.addTag tag

/-- Takes start tags that have a rule of their own and begin no text. -/
def takeBlockStart (b : Builder) (tag : Tag) : Option Builder :=
  let name := tag.name
  if blockTags.contains name then some (b.closeParagraphInScope.openTag tag)
  else if headingTags.contains name then
    let b := b.closeParagraphInScope
    some ((if b.currentIs isHeading then b.pop else b).openTag tag)
  else if name == "pre" || name == "listing" then
    some { (b.closeParagraphInScope.openTag tag).forbidFrameset with dropBreak := true }
  else if name == "form" then some (b.takeForm tag)
  else if ["li", "dd", "dt"].contains name then some (b.takeItem tag)
  else if name == "button" then
    some ((b.closeInScope endsScope name none).restoreFormatting.openTag tag).forbidFrameset
  else if name == "table" then
    let b := if b.oldLayout then b else b.closeParagraphInScope
    some ((b.openTag tag).forbidFrameset.withMode .inTable)
  else if name == "hr" then
    let b := b.closeParagraphInScope
    let b := if b.nameInScope endsScope "select" then b.closeImplied none else b
    some (b.addTag tag).forbidFrameset
  else none

def takeInlineStart (b : Builder) (tag : Tag) : Option Builder :=
  let name := tag.name
  if name == "a" then some (b.closeLink.restoreFormatting.openFormatting tag)
  else if formattingTags.contains name then some (b.restoreFormatting.openFormatting tag)
  else if name == "nobr" then
    let b := b.restoreFormatting
    let b :=
      if b.nameInScope endsScope name then (b.closeFormatting name).restoreFormatting else b
    some (b.openFormatting tag)
  else if objectTags.contains name then
    some (b.restoreFormatting.openTag tag).boundFormatting.forbidFrameset
  else if ["area", "br", "embed", "img", "keygen", "wbr"].contains name then
    some (b.takeVoid tag).forbidFrameset
  else if name == "image" then some (b.takeVoid { tag with name := "img" }).forbidFrameset
  else if name == "input" then
    let b := b.endSelect.takeVoid tag
    some (if isHidden tag then b else b.forbidFrameset)
  else if ["param", "source", "track"].contains name then some (b.addTag tag)
  else if name == "select" then
    if b.nameInScope endsScope name then some b.endSelect
    else some (b.restoreFormatting.openTag tag).forbidFrameset
  else if name == "option" then some (b.takeOption (some "optgroup") tag)
  else if name == "optgroup" then some (b.takeOption none tag)
  else if name == "rb" || name == "rtc" then
    let b := if b.nameInScope endsScope "ruby" then b.closeImplied none else b
    some (b.openTag tag)
  else if name == "rp" || name == "rt" then
    let b := if b.nameInScope endsScope "ruby" then b.closeImplied (some "rtc") else b
    some (b.openTag tag)
  else none

/-- Takes start tags behind which text is read in another way. -/
def takeTextStart (b : Builder) (tag : Tag) : Option Taken :=
  match tag.name with
  | "plaintext" => some (b.closeParagraphInScope.openTag tag, .read .plain)
  | "textarea" => some ({ b.forbidFrameset with dropBreak := true }.openText tag .escapable)
  | "xmp" =>
    some (b.closeParagraphInScope.restoreFormatting.forbidFrameset.openText tag .raw)
  | "iframe" => some (b.forbidFrameset.openText tag .raw)
  | "noembed" => some (b.openText tag .raw)
  | "noscript" => some (b.openText tag .raw)
  | _ => none

def takeBodyStart (b : Builder) (tag : Tag) : Taken :=
  let name := tag.name
  if name == "html" then b.mergeRoot tag
  else if headTags.contains name then b.takeHeadTag tag
  else if name == "body" then (b.mergeBody tag).done
  else if name == "frameset" then (b.takeFrameset tag).done
  else if name == "math" then (b.openForeign ⟨.mathml, name⟩ tag).done
  else if name == "svg" then (b.openForeign ⟨.svg, name⟩ tag).done
  else if misplacedTags.contains name then b.done
  else
    match b.takeTextStart tag, b.takeBlockStart tag, b.takeInlineStart tag with
    | some taken, _, _ => taken
    | none, some b, _ => b.done
    | none, none, some b => b.done
    | none, none, none => (b.restoreFormatting.openTag tag).done

def closeForm (b : Builder) : Builder :=
  if b.hasOpen "template" then b.closeInScope endsScope "form" none
  else
    match b.form with
    | none => b
    | some form =>
      let b := { b with form := none }
      if b.inScope endsScope (· == form) then (b.closeImplied none).removeOpen form else b

def closeHeading (b : Builder) : Builder :=
  if b.inScope endsScope fun i => isHeading (b.nameOf i) then
    (b.closeImplied none).closeThrough isHeading
  else b

def takeBodyFinish (b : Builder) (name : String) : Taken :=
  if name == "template" then b.closeTemplate.done
  else if name == "body" then
    (if b.nameInScope endsScope "body" then b.withMode .afterBody else b).done
  else if name == "html" then
    if b.nameInScope endsScope "body" then b.retake .afterBody else b.done
  else if blockEndTags.contains name then (b.closeInScope endsScope name none).done
  else if name == "form" then b.closeForm.done
  else if name == "p" then
    let b := if b.nameInScope endsButtonScope name then b else b.openImplied name
    b.closeParagraph.done
  else if name == "li" then (b.closeInScope endsListScope name (some name)).done
  else if name == "dd" || name == "dt" then (b.closeInScope endsScope name (some name)).done
  else if headingTags.contains name then b.closeHeading.done
  else if name == "a" || name == "nobr" || formattingTags.contains name then
    (b.closeFormatting name).done
  else if objectTags.contains name then
    if b.nameInScope endsScope name then
      (b.closeInScope endsScope name none).clearFormatting.done
    else b.done
  else if name == "br" then (b.takeVoid (.plain name)).forbidFrameset.done
  else (b.closeOrdinary name).done

def takeInBody (b : Builder) : Token → Taken
  | .comment s => (b.insertComment s).done
  | .text s =>
    let b := b.restoreFormatting
    ((if isSpaceText s then b else b.forbidFrameset).insertText s).done
  | .start tag => b.takeBodyStart tag
  | .finish name => b.takeBodyFinish name
  | .eof => if b.templateModes.isEmpty then b.done else b.takeTemplateEnd
  | _ => b.done

/-- Takes the content of an element that holds nothing but text. A script may change the page
that follows it, so that is read afresh. -/
def takeInText (b : Builder) : Token → Taken
  | .text s => (b.insertText s).done
  | .finish name => (b.pop.withMode b.savedMode, if name == "script" then .afresh else .done)
  | .eof => b.pop.retake b.savedMode
  | _ => b.done

/-- The rules that a start tag calls for in a template. -/
def templateMode (name : String) : Mode :=
  if ["caption", "colgroup", "tbody", "tfoot", "thead"].contains name then .inTable
  else if name == "col" then .inColumnGroup
  else if name == "tr" then .inTableBody
  else if name == "td" || name == "th" then .inRow
  else .inBody

def takeInTemplate (b : Builder) : Token → Taken
  | .start tag =>
    if headTags.contains tag.name then b.takeHeadTag tag
    else
      let mode := templateMode tag.name
      { b with templateModes := mode :: b.templateModes.tail }.retake mode
  | .finish name => if name == "template" then b.closeTemplate.done else b.done
  | .eof => b.takeTemplateEnd
  | .nul => b.done
  | token => b.takeInBody token

end CoursePage.Markup.Builder
