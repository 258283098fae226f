import CoursePage.Failure

/-!
Files as the program sees them: by their paths they are read and written as wholes. What it prints
goes to one more place that may refuse it.
-/

namespace CoursePage

abbrev Bytes := List UInt8

/-- Ways to read and to write files, and to print. -/
structure Files (m : Type → Type) where
  read : String → m (Except FileFault Bytes)
  write : String → Bytes → m (Except FileFault Unit)
  print : String → m (Except FileFault Unit)

end CoursePage
