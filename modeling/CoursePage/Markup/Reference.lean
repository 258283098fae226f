import CoursePage.Encoding.Table
import CoursePage.Markup.EntityTable
import CoursePage.Text.Blank

/-!
Character references: an ampersand with a name or a number behind it stands for one or two
characters. A reference that is not sound is read all the same where that can be done, and
what remains is plain text.
-/

namespace CoursePage.Markup

/-- The number that hexadecimal digits write. -/
def hexValue (ds : List Char) : Nat :=
  ds.foldl (fun n d =>
    16 * n + if d.isDigit then d.toNat - '0'.toNat else d.toLower.toNat - 'a'.toNat + 10) 0

def isHexDigit (c : Char) : Bool :=
  c.isDigit || ('a' ≤ c && c ≤ 'f') || ('A' ≤ c && c ≤ 'F')

/-- An entry of a table: a name, the equals sign and numbers with a plus sign between them. -/
def entityOf (entry : List Char) : String × List Char :=
  let name := entry.takeWhile fun c => c != '='
  let numbers := Text.words (fun c => c == '+') (entry.drop (name.length + 1))
  (String.ofList name, numbers.map fun ds => Char.ofNat (hexValue ds))

def entities : List (String × List Char) :=
  entityLines.flatMap fun line => (Text.words Text.isBlank line.toList).map entityOf

/-- The names that count without a semicolon. -/
def bareNames : List String := bareLines.flatMap Text.blankWords

/-- The character for a number. Numbers from 0x80 to 0x9f are bytes of windows-1252. -/
def numberedChar (n : Nat) : Char :=
  if n == 0 || !n.isValidChar then '\ufffd'
  else if 0x80 ≤ n && n ≤ 0x9f then Char.ofNat ((Encoding.windows1252[n - 0x80]?).getD n)
  else Char.ofNat n

/-- A reference that has been read, the ampersand aside. -/
structure Reference where
  chars : List Char
  length : Nat
  /-- It ends in a semicolon. -/
  closed : Bool

/-- Reads the digits of a reference behind `skip` characters. -/
def numberReference? (skip base : Nat) (isDigit : Char → Bool) (cs : List Char) :
    Option Reference :=
  let ds := cs.takeWhile isDigit
  let closed := (cs.drop ds.length).head? == some ';'
  if ds.isEmpty then none
  else
    let n := if base == 16 then hexValue ds else (String.ofList ds).toNat?.getD 0
    some { chars := [numberedChar n], closed,
           length := skip + ds.length + if closed then 1 else 0 }

/-- The longest of the bare names at the front of a run of letters and digits. -/
def bareName? (run : List Char) : Option String :=
  (List.range run.length).findSome? fun k =>
    let name := String.ofList (run.take (run.length - k))
    if bareNames.contains name then some name else none

/-- Inside a value, a bare name with a letter, a digit or an equals sign behind it is text. -/
def bareCounts (inValue : Bool) (behind : Option Char) : Bool :=
  !(inValue && behind.any fun c => c.isAlphanum || c == '=')

def namedReference? (inValue : Bool) (cs : List Char) : Option Reference := do
  let run := cs.takeWhile Char.isAlphanum
  let closed? :=
    if (cs.drop run.length).head? == some ';' then entities.lookup (String.ofList run) else none
  match closed? with
  | some chars => return { chars, length := run.length + 1, closed := true }
  | none =>
    let name ← bareName? run
    let chars ← entities.lookup name
    if bareCounts inValue (cs.drop name.length).head? then
      return { chars, length := name.length, closed := false }
    else none

/-- Reads a reference behind its ampersand. -/
def reference? (inValue : Bool) : List Char → Option Reference
  | '#' :: 'x' :: cs => numberReference? 2 16 isHexDigit cs
  | '#' :: 'X' :: cs => numberReference? 2 16 isHexDigit cs
  | '#' :: cs => numberReference? 1 10 Char.isDigit cs
  | cs => namedReference? inValue cs

/-- Puts characters for references. In front of what comes from a reference without a semicolon
there is a `none`. The number tells how many characters are read already. -/
def resolveFrom (inValue : Bool) : Nat → List Char → List (Option Char)
  | _, [] => []
  | skip + 1, _ :: cs => resolveFrom inValue skip cs
  | 0, c :: cs =>
    match if c == '&' then reference? inValue cs else none with
    | some r =>
      (if r.closed then [] else [none]) ++ r.chars.map some ++ resolveFrom inValue r.length cs
    | none => some c :: resolveFrom inValue 0 cs

/-- The characters of a text, with `none` where its markup is at fault. -/
def resolveText (cs : List Char) : List (Option Char) := resolveFrom false 0 cs

/-- The characters of an attribute value. -/
def resolveValue (cs : List Char) : List Char := (resolveFrom true 0 cs).filterMap id

end CoursePage.Markup
