import CoursePage.Settings.Basic

/-!
The arguments of the command. Options may stand before and behind the input, and none may be
given twice.
-/

namespace CoursePage.Command

structure Arguments where
  input : String
  output : Option String := none
  settingsFile : Option String := none
  label : Option String := none
  missingNav : Option MissingNav := none
  json : Bool := false
  quiet : Bool := false
  verbose : Bool := false
  deriving DecidableEq, Repr

/-- What the arguments ask for. -/
inductive Request where
  | run (arguments : Arguments)
  | help
  | version
  /-- The arguments cannot be understood. -/
  | unusable
  deriving DecidableEq, Repr

/-- Options with a value. -/
inductive Setting where
  | output
  | settingsFile
  | label
  | missingNav
  deriving DecidableEq, Repr

/-- Options without a value. -/
inductive Switch where
  | json
  | quiet
  | verbose
  | help
  | version
  deriving DecidableEq, Repr

inductive Flag where
  | setting (s : Setting)
  | switch (s : Switch)
  deriving DecidableEq, Repr

def longFlags : List (String × Flag) :=
  [("output", .setting .output), ("config", .setting .settingsFile), ("label", .setting .label),
   ("missing-nav", .setting .missingNav), ("json", .switch .json), ("quiet", .switch .quiet),
   ("verbose", .switch .verbose), ("help", .switch .help), ("version", .switch .version)]

def shortFlags : List (Char × Flag) :=
  [('o', .setting .output), ('c', .setting .settingsFile), ('q', .switch .quiet),
   ('v', .switch .verbose), ('h', .switch .help), ('V', .switch .version)]

/-- The arguments as far as they have been read. -/
structure Draft where
  input : Option String := none
  output : Option String := none
  settingsFile : Option String := none
  label : Option String := none
  missingNav : Option MissingNav := none
  json : Bool := false
  quiet : Bool := false
  verbose : Bool := false

/-- Reading goes on, or it ends early. -/
abbrev Step := Except Request Draft

namespace Draft

/-- Sets what has not been set. -/
def once {α : Type} (old : Option α) (new : Option α) (set : Option α → Draft) : Step :=
  match old, new with
  | none, some a => .ok (set (some a))
  | _, _ => .error .unusable

def notEmpty (s : String) : Option String := if s.isEmpty then none else some s

def addInput (d : Draft) (s : String) : Step :=
  once d.input (notEmpty s) fun input => { d with input }

def set (d : Draft) (value : String) : Setting → Step
  | .output => once d.output (notEmpty value) fun output => { d with output }
  | .settingsFile =>
    once d.settingsFile (notEmpty value) fun settingsFile => { d with settingsFile }
  | .label => once d.label (some value) fun label => { d with label }
  | .missingNav =>
    once d.missingNav ([("fail", MissingNav.fail), ("skip", .skip)].lookup value)
      fun missingNav => { d with missingNav }

/-- Turns on what is off. -/
def turnOn (d : Draft) : Switch → Step
  | .json => if d.json then .error .unusable else .ok { d with json := true }
  | .quiet => if d.quiet then .error .unusable else .ok { d with quiet := true }
  | .verbose => if d.verbose then .error .unusable else .ok { d with verbose := true }
  | .help => .error .help
  | .version => .error .version

end Draft

/-- An argument that is no value: a hyphen with something behind it. -/
def isFlagText : List Char → Bool
  | '-' :: _ :: _ => true
  | _ => false

/-- What a cluster of short flags leaves open: nothing, or the value of its last flag. -/
abbrev Open := Draft × Option Setting

/-- Reads a cluster of short flags. The rest of it is the value of a flag that takes one. -/
def readCluster (d : Draft) : List Char → Except Request Open
  | [] => .ok (d, none)
  | c :: cs =>
    match shortFlags.lookup c with
    | none => .error .unusable
    | some (.switch s) => do readCluster (← d.turnOn s) cs
    | some (.setting s) =>
      match cs with
      | [] => .ok (d, some s)
      | '=' :: value => do return (← d.set (String.ofList value) s, none)
      | value => do return (← d.set (String.ofList value) s, none)

/-- Reads a long flag, with or without a value behind an equals sign. -/
def readLong (d : Draft) (cs : List Char) : Except Request Open :=
  let name := cs.takeWhile fun c => c != '='
  match longFlags.lookup (String.ofList name), cs.drop name.length with
  | some (.switch s), [] => do return (← d.turnOn s, none)
  | some (.setting s), [] => .ok (d, some s)
  | some (.setting s), _ :: value => do return (← d.set (String.ofList value) s, none)
  | _, _ => .error .unusable

/-- Reads arguments one by one; `waiting` is the flag that needs a value. -/
def readAll (d : Draft) (waiting : Option Setting) : List String → Step
  | [] => if waiting.isSome then .error .unusable else .ok d
  | arg :: args =>
    match waiting, arg.toList with
    | some s, cs =>
      if isFlagText cs then .error .unusable else do readAll (← d.set arg s) none args
    | none, ['-', '-'] => args.foldlM Draft.addInput d
    | none, '-' :: '-' :: cs => do
      let (d, waiting) ← readLong d cs
      readAll d waiting args
    | none, '-' :: c :: cs => do
      let (d, waiting) ← readCluster d (c :: cs)
      readAll d waiting args
    | none, _ => do readAll (← d.addInput arg) none args

/-- There must be an input, and a report needs a file for the page. -/
def Draft.finish (d : Draft) : Request :=
  match d.input with
  | none => .unusable
  | some input =>
    if d.json && d.output.isNone then .unusable
    else
      .run { input, output := d.output, settingsFile := d.settingsFile, label := d.label,
             missingNav := d.missingNav, json := d.json, quiet := d.quiet, verbose := d.verbose }

def Request.ofArguments (args : List String) : Request :=
  match readAll {} none args with
  | .ok d => d.finish
  | .error r => r

end CoursePage.Command
