import CoursePage.Selector.Reason

/-!
What can go wrong with a page and its settings, and the messages for it.
-/

namespace CoursePage

/-- Why a file cannot be read or written. -/
inductive FileFault where
  | notFound
  | isDirectory
  | notDirectory
  | nameTooLong
  | notUtf8
  | other (text : String)
  deriving DecidableEq, Repr

def FileFault.text : FileFault → String
  | .notFound => "No such file or directory (os error 2)"
  | .isDirectory => "Is a directory (os error 21)"
  | .notDirectory => "Not a directory (os error 20)"
  | .nameTooLong => "File name too long (os error 36)"
  | .notUtf8 => "stream did not contain valid UTF-8"
  | .other text => text

inductive Failure where
  | file (fault : FileFault)
  /-- There are exercises but nothing to hold their tabs. -/
  | missingNav (exercises : Nat) (selector : String)
  | invalidSelector (selector : String) (reason : Selector.Reason)
  | settings (text : String)
  deriving DecidableEq, Repr

def Failure.message : Failure → String
  | .file fault => "I/O error: " ++ fault.text
  | .missingNav exercises selector =>
    "page has " ++ toString exercises ++
      " exercise section(s) but no navigation container matching `" ++ selector ++ "`"
  | .invalidSelector selector reason => "invalid selector `" ++ selector ++ "`: " ++ reason.text
  | .settings text => "invalid configuration: " ++ text

end CoursePage
