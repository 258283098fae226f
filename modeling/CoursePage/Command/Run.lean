import CoursePage.Command.Report
import CoursePage.Page
import CoursePage.Settings.Json

/-!
The command: settings come from a file and from the arguments, the input is transformed, and the
page goes to a file or is printed. What is told of a run on standard error is taken to arrive.
-/

namespace CoursePage.Command

open Encoding (MultiByteDecoders)

/-- What a run leaves besides files. -/
structure Result where
  code : Nat
  /-- What was printed, without what was refused. -/
  out : String := ""
  err : String := ""
  deriving DecidableEq, Repr

def Result.failed (message : String) : Result :=
  { code := 1, err := "error: " ++ message ++ "\n" }

def usage : String := "Usage: jenius-dom [OPTIONS] <INPUT>\n"

def help : String :=
  "Turn generated exercise pages into tabbed pages\n\n" ++ usage ++
  lines
    ["",
     "Arguments:",
     "  <INPUT>  Input HTML page",
     "",
     "Options:",
     "  -o, --output <OUTPUT>            Output file (stdout when omitted)",
     "  -c, --config <FILE>              JSON settings file",
     "      --label <TEMPLATE>           Tab label template, `\x7bn\x7d` is the exercise number",
     "      --missing-nav <MISSING_NAV>  What to do when a page has exercises but no navigation " ++
       "list [possible values: fail, skip]",
     "      --json                       Print the report as JSON on stdout (requires --output)",
     "  -q, --quiet                      Suppress output messages",
     "  -v, --verbose                    Log each pass",
     "  -h, --help                       Print help",
     "  -V, --version                    Print version",
     "",
     "EXAMPLES:",
     "    jenius-dom td1.html -o td1.out.html             Transform a page",
     "    jenius-dom td1.html --label 'Exercice \x7bn\x7d'      French tab labels, print to stdout",
     "    jenius-dom td1.html -o out.html --json          Print the report as JSON"]

def version : String := "jenius-dom 0.1.0\n"

def unprinted : String := "failed printing to stdout: "

/-- Names the file that a message is about. -/
def about (path message : String) : String := path ++ ": " ++ message

/-- Settings from the bytes of a file. -/
def settingsOf (path : String) (bytes : Bytes) : Except String Settings :=
  match Encoding.utf8Text? bytes with
  | none => .error (about path FileFault.notUtf8.text)
  | some text => (Settings.ofJson text).mapError fun failure => about path failure.message

/-- Settings that the arguments override. -/
def override (a : Arguments) (s : Settings) : Settings :=
  { s with
    navbar :=
      { s.navbar with
        label := a.label.getD s.navbar.label
        missingNav := a.missingNav.getD s.navbar.missingNav } }

section

variable {m : Type → Type} [Monad m] (files : Files m)

def fileSettings (a : Arguments) : m (Except String Settings) := do
  match a.settingsFile with
  | none => return .ok {}
  | some path =>
    match ← files.read path with
    | .error fault => return .error (about path fault.text)
    | .ok bytes => return settingsOf path bytes

/-- The settings of a run, checked. -/
def loadSettings (a : Arguments) : m (Except String Settings) := do
  match ← fileSettings files a with
  | .error message => return .error message
  | .ok s =>
    let s := override a s
    match s.validate with
    | .error failure => return .error failure.message
    | .ok () => return .ok s

/-- Writes a page to its file or prints it, and returns what was printed. -/
def deliver (a : Arguments) (html : String) : m (Except String String) := do
  match a.output with
  | none =>
    match ← files.print html with
    | .error fault => return .error fault.text
    | .ok () => return .ok html
  | some path =>
    match ← files.write path html.toUTF8.toList with
    | .error fault => return .error (about path fault.text)
    | .ok () => return .ok ""

/-- Tells of a page that was delivered. A report that cannot be printed ends the run at once. -/
def conclude (a : Arguments) (report : Report) (out : String) : m Result := do
  if a.json then
    match ← files.print (reportJson report) with
    | .error fault => return { code := 101, out, err := unprinted ++ fault.text ++ "\n" }
    | .ok () => return { code := 0, out := out ++ reportJson report }
  else return { code := 0, out, err := if a.quiet then "" else summary a report }

def runWith [MultiByteDecoders] (a : Arguments) (s : Settings) : m Result := do
  match ← files.read a.input with
  | .error fault => return .failed (about a.input fault.text)
  | .ok bytes =>
    match transformTree s (.ofBytes bytes) with
    | .error failure => return .failed failure.message
    | .ok (report, html) =>
      match ← deliver files a html with
      | .error message => return .failed message
      | .ok out => conclude files a report out

/-- Prints a text on request. It does not matter if it is refused. -/
def answer (text : String) : m Result := do
  match ← files.print text with
  | .error _ => return { code := 0 }
  | .ok () => return { code := 0, out := text }

/-- Runs the command. -/
def run [MultiByteDecoders] (args : List String) : m Result := do
  match Request.ofArguments args with
  | .help => answer files help
  | .version => answer files version
  | .unusable => return { code := 2, err := usage }
  | .run a =>
    match ← loadSettings files a with
    | .error message => return .failed message
    | .ok s => runWith files a s

end

end CoursePage.Command
