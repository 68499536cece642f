import Acrostic.Text.Order

namespace Acrostic.Report

-- What a run has counted. Counters begin again at zero past the largest 64-bit number.
structure Statistics where
  -- the files that are there to be done, and those that are done
  files : UInt64
  filesDone : UInt64
  bytes : UInt64
  bytesDone : UInt64
  lines : UInt64
  written : UInt64
  dropped : UInt64
  lossy : UInt64
  heartbeats : UInt64
  -- how many passwords each named partition holds, in the order of the names
  partitions : List (List Char × UInt64)

namespace Statistics

def zero : Statistics := ⟨0, 0, 0, 0, 0, 0, 0, 0, 0, []⟩

def addFile (statistics : Statistics) (size : UInt64) : Statistics :=
  { statistics with files := statistics.files + 1, bytes := statistics.bytes + size }

def completeFile (statistics : Statistics) (size : UInt64) : Statistics :=
  { statistics with
    filesDone := statistics.filesDone + 1
    bytesDone := statistics.bytesDone + size }

def addLines (statistics : Statistics) (count : UInt64) : Statistics :=
  { statistics with lines := statistics.lines + count }

def addWritten (statistics : Statistics) (count : UInt64) : Statistics :=
  { statistics with written := statistics.written + count }

def addDropped (statistics : Statistics) (count : UInt64) : Statistics :=
  { statistics with dropped := statistics.dropped + count }

def addLossy (statistics : Statistics) (count : UInt64) : Statistics :=
  { statistics with lossy := statistics.lossy + count }

def addHeartbeat (statistics : Statistics) : Statistics :=
  { statistics with heartbeats := statistics.heartbeats + 1 }

-- Counts one more under the name, which is entered where the order of names has it
def increment (name : List Char) : List (List Char × UInt64) → List (List Char × UInt64)
  | [] => [(name, 1)]
  | (other, count) :: rest =>
    if name = other then (other, count + 1) :: rest
    else if Text.precedes name other then (name, 1) :: (other, count) :: rest
    else (other, count) :: increment name rest

def incrementPartition (statistics : Statistics) (name : List Char) : Statistics :=
  { statistics with partitions := increment name statistics.partitions }

end Statistics

end Acrostic.Report
