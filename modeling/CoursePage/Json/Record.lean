import CoursePage.Json.Value

/-!
Records and choices. A record is an object whose unknown entries are skipped, or a list of its
fields in order; what is not given keeps its default. A choice is its name, or an object from
the name to `null`.
-/

namespace CoursePage.Json

/-- A member of a record by its name, with the reader that stores its value. -/
structure Member (σ : Type) where
  name : String
  read : σ → Read σ

/-- Behind the entries of an object, whether or not one of them was at fault. -/
def passClose (close : Char) : Read Unit := do
  if (← peekToken?) == some close then skip

def failDuplicate {α : Type} (name : String) : Read α := do
  passClose '\x7d'
  failHere (.duplicateField name)

/-- There is another entry in the object being read. -/
def hasKey (first : Bool) : Read Bool := do
  match ← peekToken? with
  | none => failNext .eofInObject
  | some '\x7d' => return false
  | some c =>
    if c == ',' && !first then
      skip
      match ← peekToken? with
      | some '"' => return true
      | some '\x7d' => failNext .trailingComma
      | some _ => failNext .keyExpected
      | none => failNext .eofInValue
    else if !first then failNext .objectCommaExpected
    else if c == '"' then return true
    else failNext .keyExpected

def expectColon : Read Unit := do
  match ← peekToken? with
  | some ':' => skip
  | some _ => failNext .colonExpected
  | none => failNext .eofInObject

/-- Reads entries. `seen` are the names of the fields read so far. -/
def readEntries {σ : Type} (fields : List (Member σ)) : Nat → Bool → List String → σ → Read σ
  | 0, _, _, record => return record
  | fuel + 1, first, seen, record => do
    if ← hasKey first then
      skip
      let key ← readString
      match fields.find? fun f => f.name == key with
      | none =>
        expectColon
        skipValue
        readEntries fields fuel false seen record
      | some field =>
        if seen.contains key then failDuplicate key
        expectColon
        let record ← field.read record
        readEntries fields fuel false (key :: seen) record
    else
      skip
      return record

/-- There is another element in the list being read. -/
def hasElement (first : Bool) : Read Bool := do
  match ← peekToken? with
  | none => failNext .eofInList
  | some ']' => return false
  | some c =>
    if c == ',' && !first then
      skip
      match ← peekToken? with
      | some ']' => failNext .trailingComma
      | some _ => return true
      | none => failNext .eofInValue
    else if first then return true
    else failNext .listCommaExpected

/-- Reads the fields one after the other until the list ends. -/
def readElements {σ : Type} : Bool → List (Member σ) → σ → Read σ
  | _, [], record => return record
  | first, field :: fields, record => do
    if ← hasElement first then
      let record ← field.read record
      readElements false fields record
    else return record

/-- Ends a list of which all wanted elements are read. -/
def closeList : Read Unit := do
  match ← peekToken? with
  | some ']' => skip
  | some ',' =>
    skip
    match ← peekToken? with
    | some ']' => failNext .trailingComma
    | _ => failNext .trailingCharacters
  | some _ => failNext .trailingCharacters
  | none => failNext .eofInList

def readRecord {σ : Type} (expected : String) (fields : List (Member σ)) (default : σ) :
    Read σ := do
  match ← peekToken? with
  | none => failNext .eofInValue
  | some '[' =>
    skip
    let record ← readElements true fields default
    closeList
    return record
  | some '\x7b' =>
    skip
    readEntries fields (← stepLimit) true [] default
  | some _ => failType expected

/-- Reads `null` where nothing else will do. -/
def readNull (expected : String) : Read Unit := do
  match ← peekToken? with
  | none => failNext .eofInValue
  | some 'n' =>
    skip
    readIdent ['u', 'l', 'l']
  | some _ => failType expected

/-- Reads a name from a list of known ones. -/
def readName {α : Type} (known : List (String × α)) : Read α := do
  let name ← readText "variant identifier"
  match known.lookup name with
  | some a => return a
  | none => failHere (.unknownVariant name (known.map Prod.fst))

/-- Expects the key of an object that may not be empty. -/
def expectKey : Read Unit := do
  match ← peekToken? with
  | some '"' => return ()
  | some '\x7d' => failNext .valueExpected
  | some _ => failNext .keyExpected
  | none => failNext .eofInObject

def readChoice {α : Type} (known : List (String × α)) : Read α := do
  match ← peekToken? with
  | none => failNext .eofInValue
  | some '"' => readName known
  | some '\x7b' =>
    skip
    expectKey
    let a ← readName known
    expectColon
    readNull "unit"
    match ← peekToken? with
    | some '\x7d' =>
      skip
      return a
    | some _ => failHere .valueExpected
    | none => failHere .eofInObject
  | some _ => failNext .valueExpected

/-- Reads a text that holds one value and nothing else. -/
def readWhole {α : Type} (read : Read α) (s : String) : Except Fault α := do
  let go : Read α := do
    let a ← read
    match ← peekToken? with
    | none => return a
    | some _ => failNext .trailingCharacters
  (go.run (.start s)).map Prod.fst

end CoursePage.Json
