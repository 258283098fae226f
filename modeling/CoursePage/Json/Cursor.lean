/-!
Reading JSON byte by byte. A fault is put down to a line and a column, both counted in bytes,
and is worded by its cause.
-/

namespace CoursePage.Json

inductive Cause where
  | eofInValue
  | eofInList
  | eofInObject
  | eofInString
  | colonExpected
  | listCommaExpected
  | objectCommaExpected
  | identExpected
  | valueExpected
  | keyExpected
  | badEscape
  | hexEscapeCut
  | loneSurrogate
  | controlInString
  | badNumber
  | numberTooLarge
  | trailingComma
  | trailingCharacters
  | wrongType (found expected : String)
  | duplicateField (name : String)
  | unknownVariant (name : String) (known : List String)
  deriving DecidableEq, Repr

/-- Names in backquotes, tied by a word. -/
def oneOf (names : List String) : String :=
  " or ".intercalate (names.map fun n => "`" ++ n ++ "`")

def Cause.text : Cause → String
  | .eofInValue => "EOF while parsing a value"
  | .eofInList => "EOF while parsing a list"
  | .eofInObject => "EOF while parsing an object"
  | .eofInString => "EOF while parsing a string"
  | .colonExpected => "expected `:`"
  | .listCommaExpected => "expected `,` or `]`"
  | .objectCommaExpected => "expected `,` or `\x7d`"
  | .identExpected => "expected ident"
  | .valueExpected => "expected value"
  | .keyExpected => "key must be a string"
  | .badEscape => "invalid escape"
  | .hexEscapeCut => "unexpected end of hex escape"
  | .loneSurrogate => "lone leading surrogate in hex escape"
  | .controlInString => "control character (\\u0000-\\u001F) found while parsing a string"
  | .badNumber => "invalid number"
  | .numberTooLarge => "number out of range"
  | .trailingComma => "trailing comma"
  | .trailingCharacters => "trailing characters"
  | .wrongType found expected => "invalid type: " ++ found ++ ", expected " ++ expected
  | .duplicateField name => "duplicate field `" ++ name ++ "`"
  | .unknownVariant name known => "unknown variant `" ++ name ++ "`, expected " ++ oneOf known

structure Fault where
  cause : Cause
  line : Nat
  column : Nat
  deriving DecidableEq, Repr

def Fault.text (f : Fault) : String :=
  f.cause.text ++ " at line " ++ toString f.line ++ " column " ++ toString f.column

/-- What is left to read, and how much has been read of the current line. -/
structure Cursor where
  rest : List UInt8
  line : Nat
  column : Nat

namespace Cursor

def start (s : String) : Cursor := ⟨s.toUTF8.toList, 1, 0⟩

/-- Moves past one byte. -/
def advance (c : Cursor) : Cursor :=
  match c.rest with
  | [] => c
  | b :: rest => if b == 10 then ⟨rest, c.line + 1, 0⟩ else ⟨rest, c.line, c.column + 1⟩

def advanceBy : Nat → Cursor → Cursor
  | 0, c => c
  | n + 1, c => advanceBy n c.advance

end Cursor

abbrev Read (α : Type) := StateT Cursor (Except Fault) α

/-- The next byte as a character; the bytes of other characters than ASCII stand for themselves. -/
def peek? : Read (Option Char) := do return (← get).rest.head?.map fun b => Char.ofNat b.toNat

def skip : Read Unit := modify Cursor.advance

def next? : Read (Option Char) := do
  let c ← peek?
  skip
  return c

/-- Fails where the cursor is. -/
def failHere {α : Type} (cause : Cause) : Read α := do
  let c ← get
  throw ⟨cause, c.line, c.column⟩

/-- Fails at the next byte. -/
def failNext {α : Type} (cause : Cause) : Read α := do
  let c := (← get).advance
  throw ⟨cause, c.line, c.column⟩

def isSpace (b : UInt8) : Bool := b == 32 || b == 10 || b == 9 || b == 13

def skipWhile (test : UInt8 → Bool) : Read Unit := do
  let c ← get
  set (Cursor.advanceBy (c.rest.takeWhile test).length c)

/-- The next byte behind white space. -/
def peekToken? : Read (Option Char) := do
  skipWhile isSpace
  peek?

/-- Reads the rest of a word. -/
def readIdent : List Char → Read Unit
  | [] => return ()
  | c :: cs => do
    match ← next? with
    | none => failHere .eofInValue
    | some d => if d == c then readIdent cs else failHere .identExpected

/-- Enough steps for any loop that moves on. -/
def stepLimit : Read Nat := do return (← get).rest.length + 1

end CoursePage.Json
