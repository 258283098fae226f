import CoursePage.Name

/-!
Tokens of markup.
-/

namespace CoursePage.Markup

structure Doctype where
  name : Option String := none
  publicId : Option String := none
  systemId : Option String := none
  /-- The markup does not keep to the form, whatever the names say. -/
  broken : Bool := false
  deriving DecidableEq, Repr

structure Tag where
  name : String
  attrs : List Attribute := []
  selfClosing : Bool := false
  deriving DecidableEq, Repr

/-- A tag without attributes. -/
def Tag.plain (name : String) : Tag := { name }

/-- The value of an attribute outside all namespaces. -/
def Tag.value? (tag : Tag) (name : String) : Option String :=
  (tag.attrs.find? fun a => a.name == ⟨.none, name⟩).map (·.value)

/-- The attributes stand outside all namespaces and no name occurs twice. Text is all space or
without any. -/
inductive Token where
  | doctype (doctype : Doctype)
  | start (tag : Tag)
  | finish (name : String)
  | text (text : String)
  | nul
  | comment (text : String)
  | eof
  /-- The markup is at fault and gives nothing. -/
  | fault
  deriving DecidableEq, Repr

/-- How text is read between tags. -/
inductive TextMode where
  /-- Text and tags. -/
  | data
  /-- Text with references up to the end tag of the last start tag. -/
  | escapable
  /-- Text up to that end tag. -/
  | raw
  /-- Text up to that end tag, with comments that can hide it. -/
  | script
  /-- Nothing but text. -/
  | plain
  deriving DecidableEq, Repr

end CoursePage.Markup
