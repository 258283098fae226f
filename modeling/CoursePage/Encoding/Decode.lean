import CoursePage.Encoding.Label

/-!
Decoding bytes. A decoder gives a character or a fault for each part of the input; a fault is
read as the replacement character. A byte order mark at the front overrules the encoding that
was asked for and is no part of the text.
-/

namespace CoursePage.Encoding

/-- What bytes decode to, part by part, with `none` for a fault. -/
abbrev Decoded := List (Option Char)

def replacementChar : Char := '\ufffd'

def textOf (parts : Decoded) : String :=
  String.ofList (parts.map fun part => part.getD replacementChar)

def hasFault (parts : Decoded) : Bool := parts.any Option.isNone

/-- The character with a number, or a fault for numbers that are no characters. -/
def charOf? (n : Nat) : Option Char := if n.isValidChar then some (Char.ofNat n) else none

/-- A character of several bytes of which some are still to come. -/
structure Partial where
  value : Nat
  left : Nat
  /-- The least and the greatest next byte. -/
  low : Nat := 0x80
  high : Nat := 0xbf

inductive Lead where
  | whole (c : Char)
  | begins (p : Partial)
  | bad

/-- What a first byte announces. -/
def leadOf (byte : UInt8) : Lead :=
  let b := byte.toNat
  if b < 0x80 then .whole (Char.ofNat b)
  else if b < 0xc2 then .bad
  else if b < 0xe0 then .begins { value := b - 0xc0, left := 1 }
  else if b == 0xe0 then .begins { value := 0, left := 2, low := 0xa0 }
  else if b == 0xed then .begins { value := 13, left := 2, high := 0x9f }
  else if b < 0xf0 then .begins { value := b - 0xe0, left := 2 }
  else if b == 0xf0 then .begins { value := 0, left := 3, low := 0x90 }
  else if b < 0xf4 then .begins { value := b - 0xf0, left := 3 }
  else if b == 0xf4 then .begins { value := 4, left := 3, high := 0x8f }
  else .bad

/-- Takes a further byte, unless it does not fit. -/
def Partial.take? (p : Partial) (byte : UInt8) : Option Partial :=
  let b := byte.toNat
  if p.low ≤ b && b ≤ p.high then
    some { value := 64 * p.value + (b - 0x80), left := p.left - 1 }
  else none

/-- Decodes UTF-8. The longest sound beginning of a character that breaks off is one fault. -/
def utf8Parts : Option Partial → List UInt8 → Decoded
  | none, [] => []
  | some _, [] => [none]
  | p, b :: bs =>
    match p.bind (·.take? b) with
    | some q =>
      if q.left == 0 then charOf? q.value :: utf8Parts none bs else utf8Parts (some q) bs
    | none =>
      let cut : Decoded := if p.isSome then [none] else []
      match leadOf b with
      | .whole c => cut ++ some c :: utf8Parts none bs
      | .begins q => cut ++ utf8Parts (some q) bs
      | .bad => cut ++ none :: utf8Parts none bs

def decodeUtf8 (bytes : List UInt8) : Decoded := utf8Parts none bytes

/-- Pairs bytes up; one that is left over is given by itself. -/
def pairs (low : UInt8 → UInt8 → Nat) : List UInt8 → List (Option Nat)
  | a :: b :: bs => some (low a b) :: pairs low bs
  | [_] => [none]
  | [] => []

def isLeadUnit (n : Nat) : Bool := 0xd800 ≤ n && n ≤ 0xdbff
def isTrailUnit (n : Nat) : Bool := 0xdc00 ≤ n && n ≤ 0xdfff

/-- Decodes units of 16 bits. A surrogate without its partner is a fault. -/
def utf16Parts : List (Option Nat) → Decoded
  | [] => []
  | some n :: some m :: us =>
    if isLeadUnit n && isTrailUnit m then
      charOf? (0x10000 + 1024 * (n - 0xd800) + (m - 0xdc00)) :: utf16Parts us
    else charOf? n :: utf16Parts (some m :: us)
  | [some n, none] => if isLeadUnit n then [none] else [charOf? n, none]
  | some n :: us => charOf? n :: utf16Parts us
  | none :: us => none :: utf16Parts us

def decodeByte (upper : UpperHalf) (byte : UInt8) : Option Char :=
  if byte < 0x80 then some (Char.ofNat byte.toNat)
  else
    match upper[byte.toNat - 0x80]? with
    | some n => if n == 0xfffd then none else charOf? n
    | none => none

def privateByte (byte : UInt8) : Option Char :=
  if byte < 0x80 then some (Char.ofNat byte.toNat) else charOf? (0xf700 + byte.toNat)

/-- The encoding that a byte order mark shows, and the bytes behind the mark. -/
def mark? : List UInt8 → Option (Encoding × List UInt8)
  | 0xef :: 0xbb :: 0xbf :: bs => some (.utf8, bs)
  | 0xff :: 0xfe :: bs => some (.utf16Little, bs)
  | 0xfe :: 0xff :: bs => some (.utf16Big, bs)
  | _ => none

/-- The decoders of the encodings of East Asia, with their tables. -/
class MultiByteDecoders where
  decode : MultiByte → List UInt8 → Decoded

/-- Where no other decoders are at hand, these read ASCII and nothing else. -/
instance (priority := low) asciiOnly : MultiByteDecoders where
  decode _ bytes := bytes.map (decodeByte [])

section

variable [MultiByteDecoders]

/-- Decodes without asking for a byte order mark. -/
def decodeAs (e : Encoding) (bytes : List UInt8) : Decoded :=
  match e with
  | .utf8 => decodeUtf8 bytes
  | .utf16Little => utf16Parts (pairs (fun a b => a.toNat + 256 * b.toNat) bytes)
  | .utf16Big => utf16Parts (pairs (fun a b => 256 * a.toNat + b.toNat) bytes)
  | .singleByte upper => bytes.map (decodeByte upper)
  | .userDefined => bytes.map privateByte
  | .replacement => if bytes.isEmpty then [] else [none]
  | .multiByte tables => MultiByteDecoders.decode tables bytes

def decode (e : Encoding) (bytes : List UInt8) : Decoded :=
  match mark? bytes with
  | some (marked, rest) => decodeAs marked rest
  | none => decodeAs e bytes

end

/-- Sound UTF-8, with its byte order mark if there is one. -/
def utf8Text? (bytes : List UInt8) : Option String :=
  let parts := decodeUtf8 bytes
  if hasFault parts then none else some (textOf parts)

end CoursePage.Encoding
