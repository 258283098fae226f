import CoursePage.Markup.Builder.Body

/-!
Rules for sets of frames, and for what comes behind the body or the frames.
-/

namespace CoursePage.Markup.Builder

def takeAfterBody (b : Builder) (token : Token) : Taken :=
  match token with
  | .comment s =>
    match b.root? with
    | some root => (b.addComment root s).done
    | none => b.done
  | .text s => if isSpaceText s then b.takeInBody token else b.retake .inBody
  | .start tag => if tag.name == "html" then b.mergeRoot tag else b.retake .inBody
  | .finish name =>
    if name == "html" then (b.withMode .afterAfterBody).done else b.retake .inBody
  | .eof => b.done
  | _ => b.retake .inBody

def takeAfterAfterBody (b : Builder) (token : Token) : Taken :=
  match token with
  | .comment s => (b.addComment Tree.document s).done
  | .text s => if isSpaceText s then b.takeInBody token else b.retake .inBody
  | .start tag => if tag.name == "html" then b.mergeRoot tag else b.retake .inBody
  | .eof => b.done
  | _ => b.retake .inBody

def takeInFrameset (b : Builder) : Token → Taken
  | .comment s => (b.insertComment s).done
  | .text s => (if isSpaceText s then b.insertText s else b).done
  | .start tag =>
    match tag.name with
    | "html" => b.mergeRoot tag
    | "frameset" => (b.openTag tag).done
    | "frame" => (b.addTag tag).done
    | "noframes" => b.takeHeadTag tag
    | _ => b.done
  | .finish name =>
    if name == "frameset" && b.stack.length > 1 then
      let b := b.pop
      (if b.currentIs (·.isHtmlNamed "frameset") then b else b.withMode .afterFrameset).done
    else b.done
  | _ => b.done

def takeAfterFrameset (b : Builder) : Token → Taken
  | .comment s => (b.insertComment s).done
  | .text s => (if isSpaceText s then b.insertText s else b).done
  | .start tag =>
    match tag.name with
    | "html" => b.mergeRoot tag
    | "noframes" => b.takeHeadTag tag
    | _ => b.done
  | .finish name => (if name == "html" then b.withMode .afterAfterFrameset else b).done
  | _ => b.done

def takeAfterAfterFrameset (b : Builder) (token : Token) : Taken :=
  match token with
  | .comment s => (b.addComment Tree.document s).done
  | .text s => if isSpaceText s then b.takeInBody token else b.done
  | .start tag =>
    match tag.name with
    | "html" => b.mergeRoot tag
    | "noframes" => b.takeHeadTag tag
    | _ => b.done
  | _ => b.done

end CoursePage.Markup.Builder
