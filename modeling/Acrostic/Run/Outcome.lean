import Acrostic.Report.Notice
import Acrostic.Run.Failure
import Acrostic.Storage.Store

namespace Acrostic.Run

-- What a run leaves behind
structure Outcome where
  result : Except Failure Unit
  store : Storage.Store
  statistics : Report.Statistics
  -- where the progress display stands: at a byte of the file, or at a line of the corpus
  position : UInt64
  -- what has been told to the user, in this order
  notices : List Report.Notice

-- How many lines are worked on at once
def chunkSize : Nat := 64 * 1024

-- Notices that a quiet run keeps to itself
def unlessQuiet (quiet : Bool) (notices : List Report.Notice) : List Report.Notice :=
  if quiet then [] else notices

end Acrostic.Run
