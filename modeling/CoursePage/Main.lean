import CoursePage.Command.Run

/-!
The program: the command on the files of the machine.
-/

namespace CoursePage

/-- The fault behind an error of the machine. -/
def faultOf : IO.Error → FileFault
  | .noFileOrDirectory .. => .notFound
  | .inappropriateType _ code details =>
    if code == 21 then .isDirectory
    else if code == 20 then .notDirectory
    else .other details
  | .invalidArgument _ code details => if code == 36 then .nameTooLong else .other details
  | error => .other (toString error)

def attempt {α : Type} (action : IO α) : IO (Except FileFault α) := do
  match ← action.toBaseIO with
  | .ok a => return .ok a
  | .error error => return .error (faultOf error)

def machineFiles : Files IO where
  read path := attempt do return (← IO.FS.readBinFile path).toList
  write path bytes := attempt (IO.FS.writeBinFile path (ByteArray.mk bytes.toArray))
  print text := attempt do
    let out ← IO.getStdout
    out.putStr text
    out.flush

end CoursePage

open CoursePage in
def main (args : List String) : IO UInt32 := do
  let result ← Command.run machineFiles args
  (← IO.getStderr).putStr result.err
  return UInt32.ofNat result.code
