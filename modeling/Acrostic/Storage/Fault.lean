namespace Acrostic.Storage

-- Why the file system refuses an operation
inductive Fault where
  | notFound
  | exists
  | noDevice
  | notFolder
  | isFolder
  | nameTooLong
deriving DecidableEq, Repr

namespace Fault

def code : Fault → Nat
  | notFound => 2
  | .exists => 17
  | noDevice => 19
  | notFolder => 20
  | isFolder => 21
  | nameTooLong => 36

def description : Fault → String
  | notFound => "No such file or directory"
  | .exists => "File exists"
  | noDevice => "No such device"
  | notFolder => "Not a directory"
  | isFolder => "Is a directory"
  | nameTooLong => "File name too long"

def message (fault : Fault) : String :=
  fault.description ++ " (os error " ++ toString fault.code ++ ")"

end Fault

end Acrostic.Storage
