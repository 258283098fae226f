import CoursePage.Selector.Syntax
import CoursePage.Tree.Kin

/-!
When an element meets a selector. The names of elements and attributes in a selector are taken
in lower case, for elements of every namespace.

An index that was counted is kept for the next time, but under the memory that refers to the element
and not under the element. Whoever refers to another element from the same memory later on gets the
index of the one before. Memory is told apart here by the calls that it belongs to.
-/

namespace CoursePage.Selector

open Text (CaseRule)

/-- The value of an attribute compares as asked with a value that is not empty where the
comparison is with a part. -/
def Operator.holds (op : Operator) (rule : CaseRule) (value asked : List Char) : Bool :=
  match op with
  | .equal => rule.equal value asked
  | .includes => !asked.isEmpty && (Text.pieces Text.isSpace value).any (rule.equal · asked)
  | .dash =>
    rule.equal value asked ||
      ((value.drop asked.length).head? == some '-' && rule.equal (value.take asked.length) asked)
  | .starts => !asked.isEmpty && rule.equal (value.take asked.length) asked
  | .ends =>
    !asked.isEmpty && asked.length ≤ value.length &&
      rule.equal (value.drop (value.length - asked.length)) asked
  | .contains => !asked.isEmpty && rule.within asked value

/-- The first attribute with the name passes the test. -/
def AttributeTest.holds (test : AttributeTest) (attrs : List Attribute) : Bool :=
  let name := Text.lowered test.name
  let found := attrs.find? fun a =>
    (test.anyNamespace || a.name.space == .none) && a.name.name == name
  match found, test.value with
  | none, _ => false
  | some _, none => true
  | some a, some v =>
    v.operator.holds (test.caseRule v.mark) a.value.toList v.value.toList

/-- Counting from one, `index` is `step * n + offset` for some `n` from zero. An index out of
reach of 32 bits is none. -/
def reaches (step offset : Int) (index : Nat) : Bool :=
  let rest : Int := index - offset
  if rest > 2147483647 then false
  else if step == 0 then rest == 0
  else rest % step == 0 && rest.tdiv step ≥ 0

/-- The index of an element among its siblings from one side, those of its type or all. -/
def countIndex (t : Tree) (i : NodeId) (fromEnd ofType : Bool) : Nat :=
  let others := if fromEnd then t.laterElements (some i) else t.earlierElements (some i)
  1 + (others.filter fun j => !ofType || t.sameType (some i) (some j)).length

/-- From one call to the next while a selector is tried on an element. -/
inductive Step where
  /-- A combinator leads to another element, for which there is a new reference. -/
  | onward
  /-- A negation asks of the same element by the same reference. -/
  | inside
  deriving DecidableEq, Repr

/-- The calls under way, the latest first. -/
abbrev Frame := List Step

/-- The calls up to the one that has made the reference in use. -/
def Frame.owner (f : Frame) : Frame := f.dropWhile (· == .inside)

/-- What an index is kept under: what it counts, and whose reference leads to the element. -/
structure IndexKey where
  fromEnd : Bool
  ofType : Bool
  owner : Frame
  deriving DecidableEq, Repr

abbrev IndexCache := List (IndexKey × Nat)

/-- The index that is kept for the reference to an element, else the one of the element. -/
def indexOf (t : Tree) (f : Frame) (i : NodeId) (fromEnd ofType : Bool) : StateM IndexCache Nat :=
  fun cache =>
    let key : IndexKey := ⟨fromEnd, ofType, f.owner⟩
    match cache.lookup key with
    | some index => (index, cache)
    | none =>
      let index := countIndex t i fromEnd ofType
      (index, (key, index) :: cache)

/-- Elements of other types are not counted. -/
def Counting.isOfType : Counting → Bool
  | .ofType | .lastOfType | .onlyOfType => true
  | .child | .lastChild | .onlyChild => false

/-- The first or the last one of all siblings is asked for, which needs no counting. -/
def Position.isOutermost (p : Position) : Bool :=
  !p.counting.isOfType && p.step == 0 && p.offset == 1

/-- An element is at a position from one end. -/
def Position.holdsFrom (p : Position) (t : Tree) (f : Frame) (i : NodeId) (fromEnd : Bool) :
    StateM IndexCache Bool :=
  if p.isOutermost then
    pure (if fromEnd then t.nextElement (some i) else t.prevElement (some i)).isNone
  else do return reaches p.step p.offset (← indexOf t f i fromEnd p.counting.isOfType)

def Position.holds (p : Position) (t : Tree) (f : Frame) (i : NodeId) : StateM IndexCache Bool :=
  match p.counting with
  | .child | .ofType => p.holdsFrom t f i false
  | .lastChild | .lastOfType => p.holdsFrom t f i true
  | .onlyChild | .onlyOfType => p.holdsFrom t f i false <&&> p.holdsFrom t f i true

def Usage.holds (u : Usage) (t : Tree) (i : NodeId) : Bool := u == .link && t.isLink (some i)

/-- The elements that a combinator leads to from an element. -/
def Combinator.reached (c : Combinator) (t : Tree) (i : NodeId) : List NodeId :=
  match c with
  | .descendant => t.outerElements (some i)
  | .child => (t.parentElement (some i)).toList
  | .nextSibling => (t.prevElement (some i)).toList
  | .laterSibling => t.earlierElements (some i)

/-- How the search for a chain ends that begins at an element. A miss says which other elements
are not worth a try in its place, so that no search is repeated in vain. -/
inductive Finding where
  | held
  | missed
  /-- No sibling of the element would do in its place. -/
  | missedBeside
  /-- No sibling and no element farther out would do. -/
  | missedEverywhere
  deriving DecidableEq, Repr

/-- None of the elements that a combinator leads to begins the chain. -/
def Combinator.exhausted : Combinator → Finding
  | .descendant => .missedEverywhere
  | .child => .missedEverywhere
  | .nextSibling => .missedBeside
  | .laterSibling => .missedBeside

/-- Searches from one element after the other, nearest first, for as long as it is worth it. -/
def Combinator.search (c : Combinator) (find : NodeId → StateM IndexCache Finding) :
    List NodeId → StateM IndexCache Finding
  | [] => pure c.exhausted
  | i :: rest => do
    match ← find i, c with
    | .held, _ => return .held
    | .missedEverywhere, _ => return .missedEverywhere
    | finding, .nextSibling => return finding
    | _, .child => return .missedBeside
    | .missedBeside, .laterSibling => return .missedBeside
    | _, _ => c.search find rest

mutual

def Simple.holds (t : Tree) : Simple → Frame → NodeId → StateM IndexCache Bool
  | .noNamespace, _, i => pure ((t.elementName (some i)).any fun n => n.space == .none)
  | .universal, _, _ => pure true
  | .type name, _, i =>
    pure ((t.elementName (some i)).any fun n => n.name == Text.lowered name)
  | .id name, _, i => pure (t.elementId (some i) == some name)
  | .className name, _, i => pure (t.hasClass (some i) name)
  | .attribute test, _, i => pure (test.holds (t.attrs (some i)))
  | .root, _, i => pure (t.isRoot (some i))
  | .empty, _, i => pure (t.isBlankInside (some i))
  | .scope, _, i => pure (t.isRoot (some i))
  | .host _, _, _ => pure false
  | .position p, f, i => p.holds t f i
  | .usage u, _, i => pure (u.holds t i)
  | .not alternatives, f, i => do return !(← someHolds t alternatives (.inside :: f) i)

/-- An element meets all conditions. -/
def allHold (t : Tree) : List Simple → Frame → NodeId → StateM IndexCache Bool
  | [], _, _ => pure true
  | p :: ps, f, i => p.holds t f i <&&> allHold t ps f i

/-- Searches for a chain from its last element on. -/
def Complex.find (t : Tree) : Complex → Frame → NodeId → StateM IndexCache Finding
  | .compound parts, f, i => do return if ← allHold t parts f i then .held else .missed
  | .chain left c parts, f, i => do
    if ← allHold t parts f i then c.search (fun j => left.find t (.onward :: f) j) (c.reached t i)
    else return .missed

/-- An element meets one of the alternatives. -/
def someHolds (t : Tree) : List Complex → Frame → NodeId → StateM IndexCache Bool
  | [], _, _ => pure false
  | s :: ss, f, i => (do return (← s.find t f i) == .held) <||> someHolds t ss f i

end

end CoursePage.Selector
