import Acrostic.Report.Number

namespace Acrostic.Report

def nanosecondsPerSecond : Nat := 1_000_000_000

structure Duration where
  seconds : Nat
  nanoseconds : Nat
  nanoseconds_lt : nanoseconds < nanosecondsPerSecond

namespace Duration

def ofParts (seconds nanoseconds : Nat) : Duration where
  seconds := seconds + nanoseconds / nanosecondsPerSecond
  nanoseconds := nanoseconds % nanosecondsPerSecond
  nanoseconds_lt := Nat.mod_lt _ (by decide)

def zero : Duration := ofParts 0 0

-- The seconds and the fraction of a second are measured each, and so is their sum.
def measure (duration : Duration) : Rat :=
  toPrecision (toPrecision duration.seconds +
    toPrecision (duration.nanoseconds / nanosecondsPerSecond))

-- Below a minute the seconds with one decimal, below an hour minutes and seconds,
-- and hours and minutes from then on
def text (duration : Duration) : List Char :=
  let seconds := duration.seconds
  if seconds < 60 then fixed 1 duration.measure ++ ['s']
  else if seconds < 3600 then
    Text.natural (seconds / 60) ++ ['m', ' '] ++ Text.natural (seconds % 60) ++ ['s']
  else
    Text.natural (seconds / 3600) ++ ['h', ' '] ++ Text.natural (seconds % 3600 / 60) ++ ['m']

end Duration

end Acrostic.Report
