/-!
Qualified names of elements and attributes.
-/

namespace CoursePage

/-- The namespaces that markup gives to names, and any other by its address. -/
inductive Namespace where
  | none
  | html
  | svg
  | mathml
  | xlink
  | xml
  | xmlns
  | other (address : String)
  deriving DecidableEq, Repr

/-- A local name in a namespace. -/
structure QualName where
  space : Namespace
  name : String
  deriving DecidableEq, Repr

def QualName.html (name : String) : QualName := ⟨.html, name⟩

structure Attribute where
  name : QualName
  value : String
  deriving DecidableEq, Repr

/-- An attribute outside all namespaces. -/
def Attribute.plain (name value : String) : Attribute := ⟨⟨.none, name⟩, value⟩

end CoursePage
