import CoursePage.Markup.Builder.Body

/-!
Rules for tables. What has no place between the parts of a table is put out of it.
-/

namespace CoursePage.Markup.Builder

/-- Takes a token by the rules of the body, with its content put out of the table. -/
def takeFostered (b : Builder) (token : Token) : Taken :=
  let (b, verdict) := { b with fostering := true }.takeInBody token
  ({ b with fostering := false }, verdict)

/-- Text in the frame of a table waits until all of it is there. -/
def takeTableText (b : Builder) (token : Token) : Taken :=
  if b.currentIs isTableFrame then { b with savedMode := b.mode }.retake .inTableText
  else b.takeFostered token

/-- Closes the parts of a table that are open. -/
def backToTable (b : Builder) : Builder := b.closeUpTo endsTableScope

/-- Tags that belong to another part of a table. -/
def isPartTag (name : String) : Bool :=
  ["caption", "col", "colgroup", "tbody", "tfoot", "thead"].contains name

def takeTableStart (b : Builder) (tag : Tag) : Taken :=
  match tag.name with
  | "caption" =>
    ((b.backToTable.boundFormatting.openTag tag).withMode .inCaption).done
  | "colgroup" => ((b.backToTable.openTag tag).withMode .inColumnGroup).done
  | "col" => (b.backToTable.openImplied "colgroup").retake .inColumnGroup
  | "tbody" => ((b.backToTable.openTag tag).withMode .inTableBody).done
  | "tfoot" => ((b.backToTable.openTag tag).withMode .inTableBody).done
  | "thead" => ((b.backToTable.openTag tag).withMode .inTableBody).done
  | "td" => (b.backToTable.openImplied "tbody").retake .inTableBody
  | "th" => (b.backToTable.openImplied "tbody").retake .inTableBody
  | "tr" => (b.backToTable.openImplied "tbody").retake .inTableBody
  | "table" =>
    if b.nameInScope endsTableScope "table" then
      let b := b.closeNamed "table"
      b.retake b.modeForStack
    else b.done
  | "style" => b.takeHeadTag tag
  | "script" => b.takeHeadTag tag
  | "template" => b.takeHeadTag tag
  | "input" => if isHidden tag then (b.addTag tag).done else b.takeFostered (.start tag)
  | "form" =>
    if b.hasOpen "template" || b.form.isSome then b.done
    else
      let (i, b) := b.insertClosed (.html tag.name) tag.attrs
      { b with form := some i }.done
  | _ => b.takeFostered (.start tag)

def takeTableFinish (b : Builder) (name : String) : Taken :=
  if name == "table" then
    (if b.nameInScope endsTableScope name then (b.closeNamed name).resetMode else b).done
  else if isPartTag name || ["body", "html", "td", "th", "tr"].contains name then b.done
  else if name == "template" then b.closeTemplate.done
  else b.takeFostered (.finish name)

def takeInTable (b : Builder) : Token → Taken
  | .comment s => (b.insertComment s).done
  | .text s => b.takeTableText (.text s)
  | .nul => b.takeTableText .nul
  | .start tag => b.takeTableStart tag
  | .finish name => b.takeTableFinish name
  | token => b.takeInBody token

/-- Places the text that has waited: inside the frame if it is all space, else out of it. -/
def placeTableText (b : Builder) : Builder :=
  let texts := b.tableText
  let b := { b with tableText := [] }
  if texts.all isSpaceText then texts.foldl insertText b
  else texts.foldl (fun b s => (b.takeFostered (.text s)).1) b

def takeInTableText (b : Builder) : Token → Taken
  | .text s => { b with tableText := b.tableText ++ [s] }.done
  | .nul => b.done
  | _ => b.placeTableText.retake b.savedMode

def closeCaption (b : Builder) : Builder :=
  (b.closeInScope endsTableScope "caption" none).clearFormatting

def takeInCaption (b : Builder) (token : Token) : Taken :=
  let isOpen := b.nameInScope endsTableScope "caption"
  match token with
  | .start tag =>
    if isPartTag tag.name || ["td", "th", "tr"].contains tag.name then
      if isOpen then b.closeCaption.retake .inTable else b.done
    else b.takeInBody token
  | .finish name =>
    if name == "caption" then
      (if isOpen then b.closeCaption.withMode .inTable else b).done
    else if name == "table" then
      if isOpen then b.closeCaption.retake .inTable else b.done
    else if isPartTag name || ["body", "html", "td", "th", "tr"].contains name then b.done
    else b.takeInBody token
  | _ => b.takeInBody token

/-- Ends a group of columns where something stands that is no column. -/
def leaveColumnGroup (b : Builder) : Taken :=
  if b.currentIs (·.isHtmlNamed "colgroup") then b.pop.retake .inTable else b.done

def takeInColumnGroup (b : Builder) (token : Token) : Taken :=
  match token with
  | .comment s => (b.insertComment s).done
  | .text s => if isSpaceText s then (b.insertText s).done else b.leaveColumnGroup
  | .start tag =>
    if tag.name == "html" then b.mergeRoot tag
    else if tag.name == "col" then (b.addTag tag).done
    else if tag.name == "template" then b.takeHeadTag tag
    else b.leaveColumnGroup
  | .finish name =>
    if name == "colgroup" then
      if b.currentIs (·.isHtmlNamed "colgroup") then (b.pop.withMode .inTable).done else b.done
    else if name == "col" then b.done
    else if name == "template" then b.closeTemplate.done
    else b.leaveColumnGroup
  | .eof => b.takeInBody token
  | _ => b.leaveColumnGroup

/-- Closes the rows that are open. -/
def backToRows (b : Builder) : Builder := b.closeUpTo isBodyContext

/-- Ends a section of rows and lets the table take the token. -/
def leaveRows (b : Builder) : Taken :=
  if b.inScope endsTableScope fun i => (b.nameOf i).isHtmlIn ["table", "tbody", "tfoot"] then
    b.backToRows.pop.retake .inTable
  else b.done

def takeInTableBody (b : Builder) (token : Token) : Taken :=
  match token with
  | .start tag =>
    if tag.name == "tr" then ((b.backToRows.openTag tag).withMode .inRow).done
    else if tag.name == "td" || tag.name == "th" then
      (b.backToRows.openImplied "tr").retake .inRow
    else if isPartTag tag.name then b.leaveRows
    else b.takeInTable token
  | .finish name =>
    if ["tbody", "tfoot", "thead"].contains name then
      if b.nameInScope endsTableScope name then (b.backToRows.pop.withMode .inTable).done
      else b.done
    else if name == "table" then b.leaveRows
    else if ["body", "caption", "col", "colgroup", "html", "td", "th", "tr"].contains name then
      b.done
    else b.takeInTable token
  | _ => b.takeInTable token

/-- Closes the row that is open. -/
def closeRow (b : Builder) : Builder := (b.closeUpTo isRowContext).pop

/-- Ends a row and lets the section of rows take the token. -/
def leaveRow (b : Builder) : Taken :=
  if b.nameInScope endsTableScope "tr" then b.closeRow.retake .inTableBody else b.done

def takeInRow (b : Builder) (token : Token) : Taken :=
  match token with
  | .start tag =>
    if tag.name == "td" || tag.name == "th" then
      (((b.closeUpTo isRowContext).openTag tag).boundFormatting.withMode .inCell).done
    else if tag.name == "tr" || isPartTag tag.name then b.leaveRow
    else b.takeInTable token
  | .finish name =>
    if name == "tr" then
      if b.nameInScope endsTableScope name then (b.closeRow.withMode .inTableBody).done
      else b.done
    else if name == "table" then b.leaveRow
    else if ["tbody", "tfoot", "thead"].contains name then
      if b.nameInScope endsTableScope name then b.leaveRow else b.done
    else if ["body", "caption", "col", "colgroup", "html", "td", "th"].contains name then b.done
    else b.takeInTable token
  | _ => b.takeInTable token

/-- Closes the cell that is open. -/
def closeCell (b : Builder) : Builder :=
  ((b.closeImplied none).closeThrough isCell).clearFormatting

def takeInCell (b : Builder) (token : Token) : Taken :=
  match token with
  | .start tag =>
    if isPartTag tag.name || ["td", "th", "tr"].contains tag.name then
      if b.inScope endsTableScope fun i => isCell (b.nameOf i) then b.closeCell.retake .inRow
      else b.done
    else b.takeInBody token
  | .finish name =>
    if name == "td" || name == "th" then
      if b.nameInScope endsTableScope name then
        let b := (b.closeImplied none).closeNamed name
        (b.clearFormatting.withMode .inRow).done
      else b.done
    else if ["body", "caption", "col", "colgroup", "html"].contains name then b.done
    else if ["table", "tbody", "tfoot", "thead", "tr"].contains name then
      if b.nameInScope endsTableScope name then b.closeCell.retake .inRow else b.done
    else b.takeInBody token
  | _ => b.takeInBody token

end CoursePage.Markup.Builder
