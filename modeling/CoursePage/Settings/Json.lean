import CoursePage.Json.Record
import CoursePage.Settings.Basic

/-!
Settings from JSON. What a text leaves out keeps its default.
-/

namespace CoursePage

open Json (Member Read)

def MissingNav.names : List (String × MissingNav) := [("fail", .fail), ("skip", .skip)]

def NavbarSettings.fields : List (Member NavbarSettings) :=
  [{ name := "nav_selector", read := fun s => do
      return { s with navSelector := ← Json.readText "a string" } },
   { name := "exercise_selector", read := fun s => do
      return { s with exerciseSelector := ← Json.readText "a string" } },
   { name := "id_prefix", read := fun s => do
      return { s with idPrefix := ← Json.readText "a string" } },
   { name := "label", read := fun s => do
      return { s with label := ← Json.readText "a string" } },
   { name := "missing_nav", read := fun s => do
      return { s with missingNav := ← Json.readChoice MissingNav.names } }]

def TagSettings.fields : List (Member TagSettings) :=
  [{ name := "source", read := fun s => do
      return { s with source := ← Json.readText "a string" } },
   { name := "target", read := fun s => do
      return { s with target := ← Json.readText "a string" } }]

def Settings.fields : List (Member Settings) :=
  [{ name := "navbar", read := fun s => do
      return { s with navbar := ←
        Json.readRecord "struct NavbarConfig" NavbarSettings.fields {} } },
   { name := "tags", read := fun s => do
      return { s with tags := ← Json.readRecord "struct TagConfig" TagSettings.fields {} } }]

/-- Reads settings without asking whether they are sound. -/
def Settings.ofJson? (text : String) : Except Json.Fault Settings :=
  Json.readWhole (Json.readRecord "struct Config" Settings.fields {}) text

/-- Reads settings and refuses those that are not sound. -/
def Settings.ofJson (text : String) : Except Failure Settings := do
  match Settings.ofJson? text with
  | .error fault => throw (.settings fault.text)
  | .ok s =>
    s.validate
    return s

end CoursePage
