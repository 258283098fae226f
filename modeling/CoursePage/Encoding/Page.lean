import CoursePage.Encoding.Decode

/-!
The encoding of a page: what the page says of itself near its front, and the text that its
bytes stand for.
-/

namespace CoursePage.Encoding

/-- Only this many bytes are asked for a declaration. -/
def scanLimit : Nat := 1024

def lowerByte (b : UInt8) : UInt8 := if 0x41 ≤ b && b ≤ 0x5a then b + 0x20 else b

/-- What follows a key at the front, the case of letters aside. -/
def afterKey? : List UInt8 → List UInt8 → Option (List UInt8)
  | [], bs => some bs
  | _ :: _, [] => none
  | k :: ks, b :: bs => if lowerByte k == lowerByte b then afterKey? ks bs else none

/-- What follows the first place at which a key occurs. -/
def behind? (key : List UInt8) : List UInt8 → Option (List UInt8)
  | [] => afterKey? key []
  | b :: bs => (afterKey? key (b :: bs)).or (behind? key bs)

/-- A bare label ends at a quote, a semicolon, a slash, an angle bracket or a space. -/
def endsBareLabel (b : UInt8) : Bool :=
  b == 0x22 || b == 0x27 || b == 0x3b || b == 0x20 || b == 0x2f || b == 0x3e || b == 0x09 ||
    b == 0x0d || b == 0x0a

/-- The bytes of a value in quotes or without. -/
def valueBytes : List UInt8 → List UInt8
  | [] => []
  | b :: bs =>
    if b == 0x22 || b == 0x27 then bs.takeWhile (fun c => c != b)
    else (b :: bs).takeWhile fun c => !endsBareLabel c

/-- The value behind the first occurrence of a key. -/
def valueAfter? (key : String) (bytes : List UInt8) : Option String := do
  let rest ← behind? key.toUTF8.toList bytes
  let value ← utf8Text? (valueBytes rest)
  let label := Text.trimBlank value
  if label.isEmpty then none else some label

/-- The label that a page declares for its encoding. -/
def declared? (bytes : List UInt8) : Option String :=
  let front := bytes.take scanLimit
  (valueAfter? "charset=" front).or (valueAfter? "encoding=" front)

/-- The text of a page: UTF-8 if the bytes are sound UTF-8, else what the label says, else
windows-1252. -/
def pageText [MultiByteDecoders] (bytes : List UInt8) (label : Option String) : String :=
  let asUtf8 := decode .utf8 bytes
  if hasFault asUtf8 then
    textOf (decode ((label.bind ofLabel?).getD (.singleByte windows1252)) bytes)
  else textOf asUtf8

end CoursePage.Encoding
