/-!
Why an operation on files fails.
-/

namespace SingleFlight.Files

inductive Failure where
  | missing
  | notDirectory
  | isDirectory
  | exists
  | linkLoop
  | nameTooLong
  | invalidName
  | busy
  | notEmpty
  | notText
  deriving DecidableEq

def Failure.message : Failure → String
  | missing => "No such file or directory"
  | notDirectory => "Not a directory"
  | isDirectory => "Is a directory"
  | .exists => "File exists"
  | linkLoop => "Too many levels of symbolic links"
  | nameTooLong => "File name too long"
  | invalidName => "file name contained an unexpected NUL byte"
  | busy => "Device or resource busy"
  | notEmpty => "Directory not empty"
  | notText => "stream did not contain valid UTF-8"

end SingleFlight.Files
