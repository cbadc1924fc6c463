import WirelessSelection.Json.Decode
import WirelessSelection.Radio.Observation

namespace WirelessSelection

open Json

def Bssid.toJson (b : Bssid) : Json :=
  ofString b.text

def Bssid.ofJson? (j : Json) : Option Bssid :=
  j.text?.bind ofString?

def Observation.toJson (o : Observation) : Json :=
  record [
    ("ssid", ofString o.ssid.text),
    ("bssid", o.bssid.toJson),
    ("frequency_mhz", ofUInt32 o.frequency),
    ("rssi_dbm", ofInt32 o.rssi),
    ("security", ofNat o.capabilities.bits.toNat),
    ("timestamp_ms", ofUInt64 o.timestamp)]

end WirelessSelection
