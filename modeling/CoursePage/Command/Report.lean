import CoursePage.Command.Arguments
import CoursePage.Pass.Ready

/-!
What the command writes about a run, for people and as JSON.
-/

namespace CoursePage.Command

def lines (ls : List String) : String := String.join (ls.map (· ++ "\n"))

/-- The report as JSON. -/
def reportJson (r : Report) : String :=
  lines
    ["\x7b",
     "  \"navbar\": \x7b",
     "    \"sections\": " ++ toString r.navbar.sections ++ ",",
     "    \"entries\": " ++ toString r.navbar.entries ++ ",",
     "    \"removed_navs\": " ++ toString r.navbar.removedNavs ++ ",",
     "    \"id_conflicts\": " ++ toString r.navbar.idConflicts,
     "  \x7d,",
     "  \"tags_replaced\": " ++ toString r.tagsReplaced,
     "\x7d"]

def navbarLine (r : NavbarReport) : String :=
  if r.removedNavs > 0 then
    "  no exercises, removed " ++ toString r.removedNavs ++ " navigation list(s)"
  else
    "  " ++ toString r.sections ++ " exercise(s), " ++ toString r.entries ++ " tab link(s)"

def conflictLines (r : NavbarReport) : List String :=
  if r.idConflicts > 0 then
    ["  warning: " ++ toString r.idConflicts ++
      " section id(s) already used elsewhere in the page"]
  else []

/-- The report for people. -/
def summary (a : Arguments) (r : Report) : String :=
  lines ([a.input ++ " -> " ++ a.output.getD "stdout", navbarLine r.navbar] ++
    conflictLines r.navbar ++ ["  " ++ toString r.tagsReplaced ++ " tag(s) normalized"])

end CoursePage.Command
