import CoursePage.Encoding.Declaration
import CoursePage.Encoding.Page
import CoursePage.Files.Basic
import CoursePage.Markup.Parse
import CoursePage.Markup.Printer
import CoursePage.Pass.Ready

/-!
Whole pages: reading them from text or bytes, transforming them, and doing so from file to file.
-/

namespace CoursePage

open Encoding (MultiByteDecoders)

/-- The tree of a page of bytes. It declares UTF-8 wherever it declares an encoding. -/
def Tree.ofBytes [MultiByteDecoders] (bytes : Bytes) : Tree :=
  (Tree.ofMarkup (Encoding.pageText bytes (Encoding.declared? bytes))).declareUtf8.2

/-- The markup of a page on which both passes have run, and what they report. -/
def transformTree (s : Settings) (t : Tree) : Except Failure (Report × String) :=
  let o := onReady s t
  o.result.map fun report => (report, o.tree.toHtml)

def transform (s : Settings) (page : String) : Except Failure String :=
  (transformTree s (.ofMarkup page)).map Prod.snd

/-- Transforms one file into another, which is not written if that fails. -/
def processFile [MultiByteDecoders] {m : Type → Type} [Monad m] (files : Files m)
    (input output : String) (s : Settings) : m (Except Failure Report) := do
  match ← files.read input with
  | .error fault => return .error (.file fault)
  | .ok bytes =>
    match transformTree s (.ofBytes bytes) with
    | .error failure => return .error failure
    | .ok (report, html) =>
      match ← files.write output html.toUTF8.toList with
      | .error fault => return .error (.file fault)
      | .ok () => return .ok report

end CoursePage
