namespace WirelessSelection

inductive Band
  | ghz24
  | ghz5
  | other
  deriving DecidableEq, Repr

namespace Band

def ofFrequency (mhz : UInt32) : Band :=
  if 2400 < mhz ∧ mhz < 2500 then ghz24
  else if 4900 < mhz ∧ mhz < 5900 then ghz5
  else other

def text : Band → String
  | ghz24 => "2.4GHz"
  | ghz5 => "5GHz"
  | other => "other"

end Band

end WirelessSelection
