import CoursePage.Json.Number
import CoursePage.Json.Quoted
import CoursePage.Text.Quoted

/-!
Values of any form: skipped, or described where another form was expected.
-/

namespace CoursePage.Json

/-- Fails because the next value has the wrong form. -/
def failType {α : Type} (expected : String) : Read α := do
  let fail (found : String) : Read α := failHere (.wrongType found expected)
  match ← peek? with
  | some 'n' =>
    skip
    readIdent ['u', 'l', 'l']
    fail "null"
  | some 't' =>
    skip
    readIdent ['r', 'u', 'e']
    fail "boolean `true`"
  | some 'f' =>
    skip
    readIdent ['a', 'l', 's', 'e']
    fail "boolean `false`"
  | some '-' =>
    skip
    fail (← describeNumber true)
  | some '"' =>
    skip
    fail ("string " ++ Text.quoted (← readString))
  | some '[' => fail "sequence"
  | some '\x7b' => fail "map"
  | some c => if c.isDigit then fail (← describeNumber false) else failNext .valueExpected
  | none => failNext .valueExpected

inductive Enclosing where
  | list
  | object
  deriving DecidableEq, Repr

def Enclosing.close : Enclosing → Char
  | .list => ']'
  | .object => '\x7d'

def Enclosing.commaCause : Enclosing → Cause
  | .list => .listCommaExpected
  | .object => .objectCommaExpected

def Enclosing.eofCause : Enclosing → Cause
  | .list => .eofInList
  | .object => .eofInObject

/-- Closes lists and objects until another value follows. Nothing is returned at the end of the
outermost one. -/
def closeAll : Nat → Bool → List Enclosing → Read (List Enclosing)
  | 0, _, frames => return frames
  | _, _, [] => return []
  | fuel + 1, afterValue, frame :: frames => do
    match ← peekToken? with
    | none => failNext frame.eofCause
    | some c =>
      if c == ',' && afterValue then
        skip
        return frame :: frames
      else if c == frame.close then
        skip
        closeAll fuel true frames
      else if afterValue then failNext frame.commaCause
      else return frame :: frames

/-- Skips the key of an object's next entry. -/
def skipKey : Read Unit := do
  match ← peekToken? with
  | some '"' => skip
  | some _ => failNext .keyExpected
  | none => failNext .eofInObject
  skipString
  match ← peekToken? with
  | some ':' => skip
  | some _ => failNext .colonExpected
  | none => failNext .eofInObject

/-- Skips a value that stands in the given lists and objects, and all that follows in them. -/
def skipValues : Nat → List Enclosing → Read Unit
  | 0, _ => return ()
  | fuel + 1, frames => do
    let opened : Option Enclosing ←
      match ← peekToken? with
      | none => failNext .eofInValue
      | some 'n' => do
        skip
        readIdent ['u', 'l', 'l']
        pure none
      | some 't' => do
        skip
        readIdent ['r', 'u', 'e']
        pure none
      | some 'f' => do
        skip
        readIdent ['a', 'l', 's', 'e']
        pure none
      | some '-' => do
        skip
        skipNumber
        pure none
      | some '"' => do
        skip
        skipString
        pure none
      | some '[' => do
        skip
        pure (some .list)
      | some '\x7b' => do
        skip
        pure (some .object)
      | some c => do
        if c.isDigit then
          skipNumber
          pure none
        else failNext .valueExpected
    let frames ←
      match opened with
      | some frame => closeAll (← stepLimit) false (frame :: frames)
      | none => closeAll (← stepLimit) true frames
    match frames with
    | [] => return ()
    | .list :: _ => skipValues fuel frames
    | .object :: _ =>
      skipKey
      skipValues fuel frames

def skipValue : Read Unit := do skipValues (← stepLimit) []

/-- Reads a string value. -/
def readText (expected : String) : Read String := do
  match ← peekToken? with
  | none => failNext .eofInValue
  | some '"' =>
    skip
    readString
  | some _ => failType expected

end CoursePage.Json
