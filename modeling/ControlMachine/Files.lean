import ControlMachine.Text.Utf8

/- Files that are read by path, and what keeps a path from being read. -/
namespace ControlMachine

inductive ReadFailure where
  | notFound
  | denied
  | notDirectory
  | isDirectory
  | nameTooLong
  | notUtf8
  | other (reason : String)
  deriving DecidableEq, Repr

def ReadFailure.message : ReadFailure → String
  | .notFound => "No such file or directory (os error 2)"
  | .denied => "Permission denied (os error 13)"
  | .notDirectory => "Not a directory (os error 20)"
  | .isDirectory => "Is a directory (os error 21)"
  | .nameTooLong => "File name too long (os error 36)"
  | .notUtf8 => "stream did not contain valid UTF-8"
  | .other reason => reason

/-- Contents of a text file. -/
def textContents (contents : Except ReadFailure (List UInt8)) : Except ReadFailure (List Char) := do
  match Utf8.decode (← contents) with
  | .ok text => return text
  | .error _ => throw .notUtf8

end ControlMachine
