namespace Acrostic.Report

-- Shows now and then that a long run is alive.
structure Heartbeat where
  -- the count that was shown last
  position : UInt64

namespace Heartbeat

-- How many lines lie between two signals
def interval : UInt64 := 1000

-- Whether a signal is due at this count
def isDue (count : UInt64) : Bool :=
  count % interval == 0

def beat (heartbeat : Heartbeat) (count : UInt64) : Bool × Heartbeat :=
  if isDue count then (true, ⟨count⟩) else (false, heartbeat)

end Heartbeat

end Acrostic.Report
