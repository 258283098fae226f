import CoursePage.Decimal.Single
import CoursePage.Text.Quoted

/-!
The tokens that selectors are written in, and the form in which messages show them.
-/

namespace CoursePage.Selector

inductive Bracket where
  | round
  | square
  | curly
  deriving DecidableEq, Repr

/-- A number as it is written. -/
structure Numeral where
  sign : Option Char
  whole : List Char
  fraction : Option (List Char)
  exponent : Option (Option Char × List Char)
  deriving DecidableEq, Repr

inductive Token where
  | ident (name : String)
  | atWord (name : String)
  | hash (name : String)
  | idHash (name : String)
  | quoted (text : String)
  | url (text : String)
  | delim (c : Char)
  | number (n : Numeral)
  | percentage (n : Numeral)
  | dimension (n : Numeral) (unit : String)
  | space (text : String)
  | colon
  | semicolon
  | comma
  | includeMatch
  | dashMatch
  | prefixMatch
  | suffixMatch
  | substringMatch
  | commentOpen
  | commentClose
  | function (name : String)
  | opening (b : Bracket)
  | closing (b : Bracket)
  | badUrl (text : String)
  | badQuoted (text : String)
  deriving DecidableEq, Repr

namespace Numeral

def digit (c : Char) : Nat := c.toNat - '0'.toNat

def digitsValue (ds : List Char) : Nat := ds.foldl (fun n c => 10 * n + digit c) 0

def isNegative (n : Numeral) : Bool := n.sign == some '-'

/-- The greatest and the least 32-bit integer. -/
def greatest : Int := 2147483647
def least : Int := -2147483648

/-- The value of a numeral without point and exponent, held between the bounds. -/
def integer? (n : Numeral) : Option Int :=
  match n.fraction, n.exponent with
  | none, none =>
    let v : Int := digitsValue n.whole
    some (max least (min greatest (if n.isNegative then -v else v)))
  | _, _ => none

def floatDigits (ds : List Char) : Float :=
  ds.foldl (fun v c => v * 10.0 + (digit c).toFloat) 0.0

/-- Adds the decimal places one by one, each weighed by a tenth of the weight before it. -/
def floatPlaces (ds : List Char) : Float :=
  (ds.foldl (fun (p : Float × Float) c => (p.1 + (digit c).toFloat * p.2, p.2 * 0.1))
    (0.0, 0.1)).1

def value (n : Numeral) : Float :=
  let sign : Float := if n.isNegative then -1.0 else 1.0
  let v := sign * (floatDigits n.whole + floatPlaces (n.fraction.getD []))
  match n.exponent with
  | none => v
  | some (mark, ds) =>
    let sign : Float := if mark == some '-' then -1.0 else 1.0
    v * Float.pow 10.0 (sign * floatDigits ds)

def valueText (v : Float) : String := Decimal.singleText v.toFloat32.toBits

/-- The fields of a numeral as messages list them, `label` naming its value. -/
def fields (n : Numeral) (label : String) (v : Float) : String :=
  let integer :=
    match n.integer? with
    | some i => "Some(" ++ toString i ++ ")"
    | none => "None"
  "has_sign: " ++ (if n.sign.isSome then "true" else "false") ++ ", " ++ label ++ ": " ++
    valueText v ++ ", int_value: " ++ integer

end Numeral

/-- A token as messages show it. -/
def Token.text : Token → String
  | .ident s => "Ident(" ++ Text.quoted s ++ ")"
  | .atWord s => "AtKeyword(" ++ Text.quoted s ++ ")"
  | .hash s => "Hash(" ++ Text.quoted s ++ ")"
  | .idHash s => "IDHash(" ++ Text.quoted s ++ ")"
  | .quoted s => "QuotedString(" ++ Text.quoted s ++ ")"
  | .url s => "UnquotedUrl(" ++ Text.quoted s ++ ")"
  | .delim c => "Delim(" ++ Text.quotedSingle c ++ ")"
  | .number n => "Number \x7b " ++ n.fields "value" n.value ++ " \x7d"
  | .percentage n => "Percentage \x7b " ++ n.fields "unit_value" (n.value / 100.0) ++ " \x7d"
  | .dimension n unit =>
    "Dimension \x7b " ++ n.fields "value" n.value ++ ", unit: " ++ Text.quoted unit ++ " \x7d"
  | .space s => "WhiteSpace(" ++ Text.quoted s ++ ")"
  | .colon => "Colon"
  | .semicolon => "Semicolon"
  | .comma => "Comma"
  | .includeMatch => "IncludeMatch"
  | .dashMatch => "DashMatch"
  | .prefixMatch => "PrefixMatch"
  | .suffixMatch => "SuffixMatch"
  | .substringMatch => "SubstringMatch"
  | .commentOpen => "CDO"
  | .commentClose => "CDC"
  | .function s => "Function(" ++ Text.quoted s ++ ")"
  | .opening .round => "ParenthesisBlock"
  | .opening .square => "SquareBracketBlock"
  | .opening .curly => "CurlyBracketBlock"
  | .closing .round => "CloseParenthesis"
  | .closing .square => "CloseSquareBracket"
  | .closing .curly => "CloseCurlyBracket"
  | .badUrl s => "BadUrl(" ++ Text.quoted s ++ ")"
  | .badQuoted s => "BadString(" ++ Text.quoted s ++ ")"

end CoursePage.Selector
