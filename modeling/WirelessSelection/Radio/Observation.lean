import WirelessSelection.Radio.Band
import WirelessSelection.Radio.Bssid
import WirelessSelection.Radio.Capabilities
import WirelessSelection.Radio.Ssid
import WirelessSelection.Time

namespace WirelessSelection

structure Observation where
  ssid : Ssid
  bssid : Bssid
  frequency : UInt32
  rssi : Int32
  capabilities : Capabilities
  timestamp : Millis
  deriving DecidableEq, Repr

namespace Observation

def capture (ssid : String) (bssid : Bssid) (frequency : UInt32) (rssi : Int32)
    (capabilities : String) (timestamp : Millis) : Except Fault Observation := do
  let ssid ← Ssid.parse ssid
  return { ssid, bssid, frequency, rssi, capabilities := .ofString capabilities, timestamp }

def band (o : Observation) : Band :=
  .ofFrequency o.frequency

def isOpen (o : Observation) : Bool :=
  o.capabilities.isOpen

def label (o : Observation) : String :=
  o.ssid.quoted ++ ":" ++ o.bssid.text ++ "(" ++ toString o.frequency.toNat ++ "MHz, "
    ++ toString o.rssi.toInt ++ "dBm)"

end Observation

end WirelessSelection
