import CoursePage.Json.Cursor

/-!
Strings in JSON. A string that is only skipped may hold escapes that name no character.
-/

namespace CoursePage.Json

def hexValue? (b : UInt8) : Option Nat :=
  if 48 ≤ b && b ≤ 57 then some (b.toNat - 48)
  else if 97 ≤ b && b ≤ 102 then some (b.toNat - 87)
  else if 65 ≤ b && b ≤ 70 then some (b.toNat - 55)
  else none

/-- Reads four hexadecimal digits. -/
def readHex : Read Nat := do
  let c ← get
  match c.rest with
  | a :: b :: d :: e :: _ =>
    set (Cursor.advanceBy 4 c)
    match [a, b, d, e].mapM hexValue? with
    | some ds => return ds.foldl (fun n x => 16 * n + x) 0
    | none => failHere .badEscape
  | rest =>
    set (Cursor.advanceBy rest.length c)
    failHere .eofInString

/-- The bytes of a character. -/
def bytesOf (c : Char) : List UInt8 := (String.singleton c).toUTF8.toList

/-- Expects one character of the escape for the second half of a surrogate pair. -/
def expectHalf (c : Char) : Read Unit := do
  match ← peek? with
  | none => failHere .eofInString
  | some d =>
    skip
    if d == c then return () else failHere .hexEscapeCut

/-- Reads the number of an escape and that of its second half if it needs one. -/
def readUnicode : Read (List UInt8) := do
  let n ← readHex
  if 0xDC00 ≤ n && n ≤ 0xDFFF then failHere .loneSurrogate
  else if n < 0xD800 || 0xDBFF < n then return bytesOf (Char.ofNat n)
  else
    expectHalf '\\'
    expectHalf 'u'
    let m ← readHex
    if m < 0xDC00 || 0xDFFF < m then failHere .loneSurrogate
    else return bytesOf (Char.ofNat ((n - 0xD800) * 0x400 + (m - 0xDC00) + 0x10000))

/-- What an escape of one letter stands for. -/
def plainEscape? : Char → Option UInt8
  | '"' => some 34
  | '\\' => some 92
  | '/' => some 47
  | 'b' => some 8
  | 'f' => some 12
  | 'n' => some 10
  | 'r' => some 13
  | 't' => some 9
  | _ => none

def readEscape (skipping : Bool) : Read (List UInt8) := do
  match ← peek? with
  | none => failHere .eofInString
  | some c =>
    skip
    if c == 'u' then
      if skipping then
        let _ ← readHex
        return []
      else readUnicode
    else
      match plainEscape? c with
      | some b => return [b]
      | none => failHere .badEscape

def isPlain (b : UInt8) : Bool := b != 34 && b != 92 && 32 ≤ b

/-- Reads the rest of a string. A control character is passed before it is refused, unless the
string is only skipped. -/
def readRest (skipping : Bool) : Nat → Read (List UInt8)
  | 0 => failHere .eofInString
  | fuel + 1 => do
    let plain := (← get).rest.takeWhile isPlain
    skipWhile isPlain
    match ← peek? with
    | none => failHere .eofInString
    | some '"' =>
      skip
      return plain
    | some '\\' =>
      skip
      let e ← readEscape skipping
      let more ← readRest skipping fuel
      return plain ++ e ++ more
    | some _ =>
      unless skipping do skip
      failHere .controlInString

/-- Reads a string behind its opening quote. -/
def readString : Read String := do
  let bytes ← readRest false (← stepLimit)
  return (String.fromUTF8? ⟨bytes.toArray⟩).getD ""

def skipString : Read Unit := do
  let _ ← readRest true (← stepLimit)

end CoursePage.Json
