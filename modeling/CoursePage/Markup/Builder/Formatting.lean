import CoursePage.Markup.Builder.Insert

/-!
Formatting elements. Where a block or an end tag cuts one, it is opened anew behind the cut, so
that a page with badly nested formatting looks as its author meant it.
-/

namespace CoursePage.Markup.Builder

/-- Formatting that needs not be opened anew, nor any before it. -/
def isInForce (b : Builder) : Formatting → Bool
  | .bound => true
  | .element i _ => b.isOpen i

/-- Opens the element of a formatting anew. -/
def reopen (b : Builder) : Formatting → Builder
  | .bound => { b with formatting := .bound :: b.formatting }
  | .element _ tag =>
    let (i, b) := b.insertOpen (.html tag.name) tag.attrs
    { b with formatting := .element i tag :: b.formatting }

/-- Opens all formatting anew that has been cut. -/
def restoreFormatting (b : Builder) : Builder :=
  let cut := b.formatting.takeWhile fun f => !b.isInForce f
  let kept := b.formatting.drop cut.length
  cut.reverse.foldl reopen { b with formatting := kept }

/-- Both tags have the same name and the same attributes, in whatever order. -/
def sameTag (a b : Tag) : Bool :=
  a.name == b.name && a.attrs.length == b.attrs.length && a.attrs.all b.attrs.contains

/-- Drops the earliest formatting since the latest bound that equals a tag. -/
def dropEarliest (b : Builder) (tag : Tag) : Builder :=
  match (b.recentFormatting.filter fun f => sameTag f.2 tag).getLast? with
  | some f => b.removeFormatting f.1
  | none => b

/-- Opens a formatting element. No more than three that are alike are in force. -/
def openFormatting (b : Builder) (tag : Tag) : Builder :=
  let alike := b.recentFormatting.filter fun f => sameTag f.2 tag
  let b := if alike.length ≥ 3 then b.dropEarliest tag else b
  let (i, b) := b.insertOpen (.html tag.name) tag.attrs
  { b with formatting := .element i tag :: b.formatting }

/-- The rule for end tags that have no rule of their own: the element closes unless a special
one stands inside it. -/
def closeOrdinary (b : Builder) (name : String) : Builder :=
  let inner := b.stack.takeWhile fun i =>
    !(b.nameOf i).isHtmlNamed name && !isSpecial (b.nameOf i)
  match b.stack.drop inner.length with
  | i :: _ =>
    if (b.nameOf i).isHtmlNamed name then
      let b := b.closeImplied (some name)
      { b with stack := (b.stack.dropWhile fun j => j != i).tail }
    else b
  | [] => b

/-- Where the formatting of the element that is moved in goes. -/
inductive Bookmark where
  | inPlace
  | behind (node : NodeId)

/-- The state of the walk from a block out to the formatting element that it cuts. -/
structure Lift where
  builder : Builder
  /-- The elements between the two that stay open, innermost first. -/
  kept : List NodeId := []
  last : NodeId
  bookmark : Bookmark := .inPlace
  count : Nat := 0

/-- Takes one element on the way out: formatting is doubled around what comes from inside, and
anything else is closed, as is formatting from the fourth element on. -/
def liftOver (block : NodeId) (l : Lift) (i : NodeId) : Lift :=
  let count := l.count + 1
  let b := l.builder
  match b.formatting.find? fun f => f.node? == some i with
  | some (.element _ tag) =>
    if count > 3 then { l with builder := b.removeFormatting i, count }
    else
      let (copy, b) := b.createElement (.html tag.name) tag.attrs
      let formatting := b.formatting.map fun f =>
        if f.node? == some i then .element copy tag else f
      let tree := (b.tree.detach (some l.last)).append (some copy) (some l.last)
      { builder := { b with formatting, tree }
        kept := l.kept ++ [copy]
        last := copy
        bookmark := if l.last == block then .behind copy else l.bookmark
        count }
  | _ => { l with count }

/-- Puts new formatting where the bookmark says and takes the old one out. -/
def rebook (bookmark : Bookmark) (old : NodeId) (new : Formatting) (fs : List Formatting) :
    List Formatting :=
  match bookmark with
  | .inPlace => fs.map fun f => if f.node? == some old then new else f
  | .behind i =>
    (fs.flatMap fun f => if f.node? == some i then [new, f] else [f]).filter
      fun f => f.node? != some old

/-- Closes a formatting element that a block cuts: what stands in the block is formatted inside
it, and the block moves out. -/
def moveOut (b : Builder) (fmt : NodeId) (tag : Tag) (block : NodeId) : Builder :=
  let inner := b.stack.takeWhile fun i => i != block
  let between := ((b.stack.drop (inner.length + 1)).takeWhile fun i => i != fmt)
  let outer := (b.stack.dropWhile fun i => i != fmt).tail
  let l := between.foldl (liftOver block) { builder := b, last := block }
  let b := { l.builder with tree := l.builder.tree.detach (some l.last) }
  let b :=
    match outer.head? with
    | some around => b.insertInto around (.node l.last)
    | none => b
  let (copy, b) := b.createElement (.html tag.name) tag.attrs
  { b with
    tree := (b.tree.moveChildren (some block) (some copy)).append (some block) (some copy)
    formatting := rebook l.bookmark fmt (.element copy tag) b.formatting
    stack := inner ++ [copy, block] ++ l.kept ++ outer }

/-- One round of closing a formatting element; the flag says whether to go on. -/
def closeFormattingOnce (b : Builder) (name : String) : Builder × Bool :=
  match b.recentFormatting.find? fun f => f.2.name == name with
  | none => (b.closeOrdinary name, false)
  | some (fmt, tag) =>
    if !b.isOpen fmt then (b.removeFormatting fmt, false)
    else if !b.inScope endsScope fun i => i == fmt then (b, false)
    else
      let inside := b.stack.takeWhile fun i => i != fmt
      match (inside.filter fun i => isSpecial (b.nameOf i)).getLast? with
      | some block => (b.moveOut fmt tag block, true)
      | none =>
        ({ b.removeFormatting fmt with
            stack := (b.stack.dropWhile fun i => i != fmt).tail }, false)

def closeFormattingRounds (name : String) : Nat → Builder → Builder
  | 0, b => b
  | rounds + 1, b =>
    let (b, more) := b.closeFormattingOnce name
    if more then closeFormattingRounds name rounds b else b

/-- Takes the end tag of a formatting element. -/
def closeFormatting (b : Builder) (name : String) : Builder :=
  match b.current? with
  | some i =>
    if (b.nameOf i).isHtmlNamed name && !b.formats i then b.pop
    else closeFormattingRounds name 8 b
  | none => b

/-- A link ends where the next one begins. -/
def closeLink (b : Builder) : Builder :=
  match b.recentFormatting.find? fun f => (b.nameOf f.1).isHtmlNamed "a" with
  | some (i, _) => ((b.closeFormatting "a").removeFormatting i).removeOpen i
  | none => b

end CoursePage.Markup.Builder
