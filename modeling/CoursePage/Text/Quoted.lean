import CoursePage.Text.Extending
import CoursePage.Text.Invisible

/-!
Texts and characters in quotes, as messages show them. Backslash, the surrounding quote and the
usual controls are escaped by a backslash; whatever cannot be seen on its own is given by the
hexadecimal number of its code point.
-/

namespace CoursePage.Text

def hexDigits (n : Nat) : List Char := Nat.toDigits 16 n

def escapeByNumber (c : Char) : List Char :=
  ['\\', 'u', '\x7b'] ++ hexDigits c.toNat ++ ['\x7d']

/-- One character inside quotes of the given kind. -/
def quotedChar (quote c : Char) : List Char :=
  if c == '\x00' then ['\\', '0']
  else if c == '\t' then ['\\', 't']
  else if c == '\r' then ['\\', 'r']
  else if c == '\n' then ['\\', 'n']
  else if c == '\\' || c == quote then ['\\', c]
  else if isExtending c || isInvisible c then escapeByNumber c
  else [c]

def quotedBy (quote : Char) (cs : List Char) : String :=
  String.ofList (quote :: cs.flatMap (quotedChar quote) ++ [quote])

/-- A text in double quotes. -/
def quoted (s : String) : String := quotedBy '"' s.toList

/-- A character in single quotes. -/
def quotedSingle (c : Char) : String := quotedBy '\'' [c]

end CoursePage.Text
