import CoursePage.Selector.Lexer
import CoursePage.Selector.Reason
import CoursePage.Selector.Syntax

/-!
Reading selectors from tokens. The first fault found from left to right is the one reported.
There are no namespace declarations, no pseudo-elements and no functions that take selectors
but `:not` and `:host`.
-/

namespace CoursePage.Selector.Reader

abbrev Read (α : Type) := Except Reason (α × List Token)

def isSpace : Token → Bool
  | .space _ => true
  | _ => false

def dropSpace (ts : List Token) : List Token := ts.dropWhile isSpace

/-- What may not stand in the selector being read. -/
structure Limits where
  combinators : Bool := true
  pseudoElements : Bool := true
  deriving DecidableEq, Repr

/-- The bracket that a token opens. -/
def opens? : Token → Option Bracket
  | .function _ => some .round
  | .opening b => some b
  | _ => none

/-- Cuts the tokens behind the innermost of the open brackets at the end of the outermost one,
which is not kept. -/
def splitBlock : List Bracket → List Token → List Token × List Token
  | [], ts => ([], ts)
  | _, [] => ([], [])
  | b :: bs, t :: ts =>
    if t == .closing b then
      if bs.isEmpty then ([], ts)
      else
        let r := splitBlock bs ts
        (t :: r.1, r.2)
    else
      let r :=
        match opens? t with
        | some o => splitBlock (o :: b :: bs) ts
        | none => splitBlock (b :: bs) ts
      (t :: r.1, r.2)

/-- Cuts at the commas that stand in no bracket. -/
def splitCommas : List Bracket → List Token → List (List Token)
  | _, [] => [[]]
  | bs, t :: ts =>
    if t == .comma && bs.isEmpty then [] :: splitCommas [] ts
    else
      let rest :=
        match opens? t, bs with
        | some o, _ => splitCommas (o :: bs) ts
        | none, b :: outer => if t == .closing b then splitCommas outer ts else splitCommas bs ts
        | none, [] => splitCommas [] ts
      match rest with
      | [] => [[t]]
      | p :: ps => (t :: p) :: ps

/-- A qualified name: whether any namespace, no namespace or nothing is said of it, and the name
itself unless it is a star. -/
inductive NameSpec where
  | unqualified (name : Option String)
  | anyNamespace (name : Option String)
  | noNamespace (name : Option String)

/-- Reads the name behind the bar of a qualified name. -/
def readAfterBar (inAttribute : Bool) (make : Option String → NameSpec) :
    List Token → Read NameSpec
  | [] => .error .endOfInput
  | .ident name :: ts => .ok (make (some name), ts)
  | t :: ts =>
    if t == .delim '*' && !inAttribute then .ok (make none, ts)
    else if inAttribute then .error (.badNameInAttribute t)
    else .error (.badNameAfterBar t)

/-- Reads a qualified name if one starts here. -/
def readName? (inAttribute : Bool) (ts : List Token) : Read (Option NameSpec) :=
  let some' := fun (r : NameSpec × List Token) => (some r.1, r.2)
  match ts with
  | .ident name :: .delim '|' :: _ => .error (.namespaceExpected name)
  | .ident name :: rest => .ok (some (.unqualified (some name)), rest)
  | .delim '*' :: .delim '|' :: rest => (readAfterBar inAttribute .anyNamespace rest).map some'
  | .delim '*' :: rest =>
    if inAttribute then
      match rest with
      | [] => .error .endOfInput
      | t :: _ => .error (.barExpectedInAttribute t)
    else .ok (some (.unqualified none), rest)
  | .delim '|' :: rest => (readAfterBar inAttribute .noNamespace rest).map some'
  | ts => .ok (none, ts)

/-- Reads the condition on the element's name, if there is one. -/
def readType (ts : List Token) : Read (List Simple) :=
  let named : Option String → Simple
    | some name => .type name
    | none => .universal
  match readName? false ts with
  | .error .endOfInput => .ok ([], [])
  | .error e => .error e
  | .ok (none, rest) => .ok ([], rest)
  | .ok (some (.unqualified name), rest) => .ok ([named name], rest)
  | .ok (some (.anyNamespace name), rest) => .ok ([named name], rest)
  | .ok (some (.noNamespace name), rest) => .ok ([.noNamespace, named name], rest)

/-- All tokens have been read. -/
def finish (ts : List Token) : Except Reason Unit :=
  match dropSpace ts with
  | [] => .ok ()
  | t :: _ => .error (.unexpectedToken t)

def operator? : Token → Option Operator
  | .delim '=' => some .equal
  | .includeMatch => some .includes
  | .dashMatch => some .dash
  | .prefixMatch => some .starts
  | .substringMatch => some .contains
  | .suffixMatch => some .ends
  | _ => none

def readMark (ts : List Token) : Except Reason CaseMark :=
  match dropSpace ts with
  | [] => .ok .unmarked
  | .ident name :: rest =>
    if Text.sameText name "i" then (finish rest).map fun _ => .insensitive
    else if Text.sameText name "s" then (finish rest).map fun _ => .sensitive
    else .error (.unexpectedToken (.ident name))
  | t :: _ => .error (.unexpectedToken t)

/-- Reads what stands between square brackets. -/
def readAttribute (ts : List Token) : Except Reason AttributeTest :=
  match readName? true (dropSpace ts) with
  | .error e => .error e
  | .ok (none, []) => .error .endOfInput
  | .ok (none, t :: _) => .error (.noNameInAttribute t)
  | .ok (some spec, rest) =>
    let (anyNamespace, name) : Bool × String :=
      match spec with
      | .anyNamespace n => (true, n.getD "")
      | .unqualified n => (false, n.getD "")
      | .noNamespace n => (false, n.getD "")
    match dropSpace rest with
    | [] => .ok ⟨anyNamespace, name, none⟩
    | t :: rest =>
      match operator? t with
      | none => .error (.unexpectedInAttribute t)
      | some operator =>
        let test (value : String) (rest : List Token) :=
          (readMark rest).map fun mark => ⟨anyNamespace, name, some ⟨operator, value, mark⟩⟩
        match dropSpace rest with
        | [] => .error .endOfInput
        | .ident value :: rest => test value rest
        | .quoted value :: rest => test value rest
        | t :: _ => .error (.badAttributeValue t)

/-- The number behind `n-` in a name such as `n-12`, sign included. -/
def dashDigits? (name : List Char) : Option Int :=
  match name with
  | n :: '-' :: ds =>
    if n.toLower == 'n' && !ds.isEmpty && ds.all Char.isDigit then
      (Numeral.mk (some '-') ds none none).integer?
    else none
  | _ => none

/-- Reads an offset without a sign of its own. -/
def readUnsigned (step sign : Int) (ts : List Token) : Read (Int × Int) :=
  match dropSpace ts with
  | [] => .error .endOfInput
  | .number n :: rest =>
    match n.sign, n.integer? with
    | none, some b => .ok ((step, sign * b), rest)
    | _, _ => .error (.unexpectedToken (.number n))
  | t :: _ => .error (.unexpectedToken t)

/-- Reads the offset behind a step, if there is one. -/
def readOffset (step : Int) (ts : List Token) : Read (Int × Int) :=
  match dropSpace ts with
  | .delim '+' :: rest => readUnsigned step 1 rest
  | .delim '-' :: rest => readUnsigned step (-1) rest
  | .number n :: rest =>
    match n.sign, n.integer? with
    | some _, some b => .ok ((step, b), rest)
    | _, _ => .ok ((step, 0), ts)
  | _ => .ok ((step, 0), ts)

/-- Reads the rest of a step and offset, given the step and the letters behind it. A fault is
put down to the whole `word` that holds the letters. -/
def readAfterStep (step : Int) (word : String) (letters : List Char) (ts : List Token) :
    Read (Int × Int) :=
  if Text.sameLetters letters ['n'] then readOffset step ts
  else if Text.sameLetters letters ['n', '-'] then readUnsigned step (-1) ts
  else
    match dashDigits? letters with
    | some b => .ok ((step, b), ts)
    | none => .error (.unexpectedToken (.ident word))

/-- Reads a step and an offset as in `2n+1`. -/
def readSteps (ts : List Token) : Read (Int × Int) :=
  match dropSpace ts with
  | [] => .error .endOfInput
  | t :: rest =>
    match t with
    | .number n =>
      match n.integer? with
      | some b => .ok ((0, b), rest)
      | none => .error (.unexpectedToken t)
    | .dimension n unit =>
      match n.integer? with
      | some a => readAfterStep a unit unit.toList rest
      | none => .error (.unexpectedToken t)
    | .ident name =>
      if Text.sameText name "even" then .ok ((2, 0), rest)
      else if Text.sameText name "odd" then .ok ((2, 1), rest)
      else
        match name.toList with
        | '-' :: letters => readAfterStep (-1) name letters rest
        | letters => readAfterStep 1 name letters rest
    | .delim '+' =>
      match rest with
      | [] => .error .endOfInput
      | .ident name :: rest => readAfterStep 1 name name.toList rest
      | t :: _ => .error (.unexpectedToken t)
    | _ => .error (.unexpectedToken t)

/-- The names of pseudo-elements that may be written with one colon. -/
def oldPseudoElements : List String := ["before", "after", "first-line", "first-letter"]

def counting? (name : String) : Option Counting :=
  match Text.lowered name with
  | "nth-child" => some .child
  | "nth-last-child" => some .lastChild
  | "nth-of-type" => some .ofType
  | "nth-last-of-type" => some .lastOfType
  | _ => none

/-- A condition named without brackets. -/
def pseudo? (name : String) : Option Simple :=
  let edge (c : Counting) : Option Simple := some (.position ⟨c, false, 0, 1⟩)
  match Text.lowered name with
  | "first-child" => edge .child
  | "last-child" => edge .lastChild
  | "only-child" => edge .onlyChild
  | "first-of-type" => edge .ofType
  | "last-of-type" => edge .lastOfType
  | "only-of-type" => edge .onlyOfType
  | "root" => some .root
  | "empty" => some .empty
  | "scope" => some .scope
  | "link" => some (.usage .link)
  | "visited" => some (.usage .visited)
  | "hover" => some (.usage .hover)
  | "active" => some (.usage .active)
  | "focus" => some (.usage .focus)
  | _ => none

/-- How the selectors between brackets are read. -/
structure Nested where
  list : Limits → List Token → Except Reason (List Complex)
  single : Limits → List Token → Except Reason Complex

/-- Reads the arguments of a condition in function form. -/
def readFunction (nested : Nested) (limits : Limits) (name : String) (args : List Token) :
    Except Reason Simple :=
  match counting? name with
  | some c => do
    let ((a, b), rest) ← readSteps args
    finish rest
    return .position ⟨c, true, a, b⟩
  | none =>
    match Text.lowered name with
    | "not" => (nested.list { limits with pseudoElements := false } args).map .not
    | "host" =>
      (nested.single { combinators := false, pseudoElements := false } args).map .host
    | _ => .error (.unsupportedPseudo name)

/-- Reads a condition behind its colon. -/
def readPseudo (nested : Nested) (limits : Limits) (ts : List Token) : Read Simple :=
  let go (element : Bool) (t : Token) (rest : List Token) : Read Simple :=
    let check (name : String) (read : Read Simple) : Read Simple :=
      if element || oldPseudoElements.contains (Text.lowered name) then
        if limits.pseudoElements then .error (.unsupportedPseudo name) else .error .invalidState
      else read
    match t with
    | .ident name =>
      check name <|
        match pseudo? name with
        | some s => .ok (s, rest)
        | none => .error (.unsupportedPseudo name)
    | .function name =>
      check name <|
        let (args, rest) := splitBlock [.round] rest
        (readFunction nested limits name args).map fun s => (s, rest)
    | t => .error (.pseudoNeedsName t)
  match ts with
  | [] => .error .endOfInput
  | .colon :: [] => .error .endOfInput
  | .colon :: t :: rest => go true t rest
  | t :: rest => go false t rest

/-- Reads one condition if one starts here. -/
def readSimple? (nested : Nested) (limits : Limits) (ts : List Token) : Read (Option Simple) :=
  let one := fun (r : Simple × List Token) => (some r.1, r.2)
  match ts with
  | .idHash name :: rest => .ok (some (.id name), rest)
  | .delim '.' :: rest =>
    match rest with
    | [] => .error .endOfInput
    | .ident name :: rest => .ok (some (.className name), rest)
    | t :: _ => .error (.classNeedsName t)
  | .opening .square :: rest =>
    let (inside, rest) := splitBlock [.square] rest
    (readAttribute inside).map fun a => (some (.attribute a), rest)
  | .colon :: rest => (readPseudo nested limits rest).map one
  | ts => .ok (none, ts)

/-- Reads conditions for as long as there are any. -/
def readSimples (nested : Nested) (limits : Limits) :
    Nat → List Token → Except Reason (List Simple × List Token)
  | 0, ts => .ok ([], ts)
  | fuel + 1, ts => do
    match ← readSimple? nested limits ts with
    | (none, rest) => return ([], rest)
    | (some s, rest) =>
      let (more, rest) ← readSimples nested limits fuel rest
      return (s :: more, rest)

def readCompound (nested : Nested) (limits : Limits) (ts : List Token) :
    Except Reason (List Simple × List Token) := do
  let (type, rest) ← readType (dropSpace ts)
  let (more, rest) ← readSimples nested limits rest.length rest
  return (type ++ more, rest)

/-- Reads a combinator if one follows. White space before something else is one. -/
def combinator? : Bool → List Token → Option (Combinator × List Token)
  | _, [] => none
  | _, .space _ :: ts => combinator? true ts
  | _, .delim '>' :: ts => some (.child, ts)
  | _, .delim '+' :: ts => some (.nextSibling, ts)
  | _, .delim '~' :: ts => some (.laterSibling, ts)
  | spaced, t :: ts => if spaced then some (.descendant, t :: ts) else none

/-- Reads the compounds that follow the chain read so far. -/
def readChain (nested : Nested) (limits : Limits) :
    Nat → Complex → List Token → Except Reason (Complex × List Token)
  | 0, done, ts => .ok (done, ts)
  | fuel + 1, done, ts =>
    match combinator? false ts with
    | none => .ok (done, ts)
    | some (c, rest) =>
      if limits.combinators then do
        let (conditions, rest) ← readCompound nested limits rest
        if conditions.isEmpty then throw .danglingCombinator
        readChain nested limits fuel (.chain done c conditions) rest
      else .error .invalidState

/-- Reads a chain that takes up all the tokens. -/
def readComplex (nested : Nested) (limits : Limits) (ts : List Token) : Except Reason Complex := do
  let (conditions, rest) ← readCompound nested limits ts
  if conditions.isEmpty then throw .emptySelector
  let (complex, rest) ← readChain nested limits rest.length (.compound conditions) rest
  finish rest
  return complex

/-- Reads selectors with brackets up to a depth. -/
def nestedTo : Nat → Nested
  | 0 => ⟨fun _ _ => .error .emptySelector, fun _ _ => .error .emptySelector⟩
  | depth + 1 =>
    { list := fun limits ts =>
        (splitCommas [] ts).mapM (readComplex (nestedTo depth) limits)
      single := readComplex (nestedTo depth) }

/-- Reads a list of selectors. No bracket is nested deeper than there are tokens. -/
def readList (s : String) : Except Reason (List Complex) :=
  let ts := Lexer.tokens s
  (nestedTo (ts.length + 1)).list {} ts

end CoursePage.Selector.Reader
