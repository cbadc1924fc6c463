import WirelessSelection.Time

namespace WirelessSelection

structure Clock where
  elapsed : Millis := 0
  wallStart : Millis
  deriving DecidableEq, Repr

namespace Clock

def starting (wallStart : Millis) : Clock where
  wallStart

def setElapsed (c : Clock) (t : Millis) : Clock where
  elapsed := max c.elapsed t
  wallStart := c.wallStart

def advance (c : Clock) (d : Millis) : Clock where
  elapsed := Millis.plus c.elapsed d
  wallStart := c.wallStart

def wall (c : Clock) : Millis :=
  Millis.plus c.wallStart c.elapsed

end Clock

end WirelessSelection
