import CoursePage.Selector.Syntax

/-!
Selectors as text, and their weight. Names and values are written as they are, without escapes
or quotes, so the text need not read back.
-/

namespace CoursePage.Selector

def Combinator.text : Combinator → String
  | .descendant => " "
  | .child => " > "
  | .nextSibling => " + "
  | .laterSibling => " ~ "

def Operator.text : Operator → String
  | .equal => "="
  | .includes => "~="
  | .dash => "|="
  | .starts => "^="
  | .contains => "*="
  | .ends => "$="

def CaseMark.text : CaseMark → String
  | .unmarked => ""
  | .insensitive => " i"
  | .sensitive => " s"

def ValueTest.text (v : ValueTest) : String := v.operator.text ++ v.value ++ v.mark.text

def AttributeTest.text (a : AttributeTest) : String :=
  "[" ++ (if a.anyNamespace then "*|" else "") ++ a.name ++
    (a.value.map ValueTest.text).getD "" ++ "]"

def Usage.text : Usage → String
  | .link => ":link"
  | .visited => ":visited"
  | .hover => ":hover"
  | .active => ":active"
  | .focus => ":focus"

def Counting.text : Counting → Bool → String
  | .child, true => ":nth-child("
  | .child, false => ":first-child"
  | .lastChild, true => ":nth-last-child("
  | .lastChild, false => ":last-child"
  | .ofType, true => ":nth-of-type("
  | .ofType, false => ":first-of-type"
  | .lastOfType, true => ":nth-last-of-type("
  | .lastOfType, false => ":last-of-type"
  | .onlyChild, _ => ":only-child"
  | .onlyOfType, _ => ":only-of-type"

/-- A whole number with its sign, also a positive one. -/
def signed (n : Int) : String := if n < 0 then toString n else "+" ++ toString n

def stepsText (step offset : Int) : String :=
  let left := if step == 1 then "n" else if step == -1 then "-n" else toString step ++ "n"
  if step == 0 then toString offset
  else if offset == 0 then left
  else left ++ signed offset

def Position.text (p : Position) : String :=
  p.counting.text p.bracketed ++ if p.bracketed then stepsText p.step p.offset ++ ")" else ""

def Simple.isUniversal : Simple → Bool
  | .universal => true
  | _ => false

mutual

def Simple.text : Simple → String
  | .noNamespace => "|"
  | .universal => "*"
  | .type name => name
  | .id name => "#" ++ name
  | .className name => "." ++ name
  | .attribute test => test.text
  | .root => ":root"
  | .empty => ":empty"
  | .scope => ":scope"
  | .host inner => ":host(" ++ inner.text ++ ")"
  | .position p => p.text
  | .usage u => u.text
  | .not alternatives => ":not(" ++ listText alternatives ++ ")"

/-- A star is written only if it is needed: alone, or behind a bar. -/
def compoundText : List Simple → String
  | [.universal] => "*"
  | .noNamespace :: rest => "|" ++ partsText true rest
  | parts => partsText false parts

def partsText (stars : Bool) : List Simple → String
  | [] => ""
  | p :: ps => (if p.isUniversal && !stars then "" else p.text) ++ partsText stars ps

def Complex.text : Complex → String
  | .compound parts => compoundText parts
  | .chain left c parts => left.text ++ c.text ++ compoundText parts

def listText : List Complex → String
  | [] => ""
  | [s] => s.text
  | s :: ss => s.text ++ ", " ++ listText ss

end

/-- How many conditions of each rank a selector has. -/
structure Weight where
  ids : Nat
  classes : Nat
  types : Nat
  deriving DecidableEq, Repr

namespace Weight

def zero : Weight := ⟨0, 0, 0⟩

def add (a b : Weight) : Weight := ⟨a.ids + b.ids, a.classes + b.classes, a.types + b.types⟩

/-- The weight as one number, ten bits to each rank. -/
def number (w : Weight) : Nat :=
  (min w.ids 1023 * 1024 + min w.classes 1023) * 1024 + min w.types 1023

/-- The weight that a number stands for. -/
def ofNumber (n : Nat) : Weight := ⟨n / 1024 / 1024, n / 1024 % 1024, n % 1024⟩

end Weight

mutual

def Simple.weight : Simple → Weight
  | .noNamespace => .zero
  | .universal => .zero
  | .type _ => ⟨0, 0, 1⟩
  | .id _ => ⟨1, 0, 0⟩
  | .host inner => Weight.add ⟨0, 1, 0⟩ (.ofNumber inner.weight.number)
  | .not alternatives => .ofNumber (greatestWeight alternatives)
  | _ => ⟨0, 1, 0⟩

def partsWeight : List Simple → Weight
  | [] => .zero
  | p :: ps => p.weight.add (partsWeight ps)

def Complex.weight : Complex → Weight
  | .compound parts => partsWeight parts
  | .chain left _ parts => left.weight.add (partsWeight parts)

/-- The number of the heaviest alternative. -/
def greatestWeight : List Complex → Nat
  | [] => 0
  | s :: ss => max s.weight.number (greatestWeight ss)

end

end CoursePage.Selector
