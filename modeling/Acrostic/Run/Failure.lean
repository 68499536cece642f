import Acrostic.Length
import Acrostic.Rule.Error
import Acrostic.Storage.Path

namespace Acrostic.Run

open Storage (Fault Path)

-- Why a run stops
inductive Failure where
  | storage (fault : Fault)
  | rule (error : Rule.Error)
  | notFile (input : Path)
  | notThere (input : Path)
  | emptyRange (min max : Nat)
  | badSize (given : List Char)
  | notApply
  | notBatch
deriving DecidableEq

namespace Failure

def message : Failure → String
  | storage fault => fault.message
  | rule error => error.message
  | notFile input => "Input file does not exist: " ++ String.ofList input.quoted
  | notThere input => "Input path does not exist: " ++ String.ofList input.quoted
  | emptyRange min max =>
    "Invalid length range: minimum (" ++ toString min ++ ") must be <= maximum (" ++
      toString max ++ ")"
  | badSize given => "Invalid size format: '" ++ String.ofList given ++ "'"
  | notApply => "Not an apply command"
  | notBatch => "Not a batch command"

end Failure

-- The range of lengths between two bounds
def lengthRange (min max : Nat) : Except Failure LengthRange :=
  match LengthRange.ofBounds? min max with
  | some range => .ok range
  | none => .error (.emptyRange min max)

end Acrostic.Run
