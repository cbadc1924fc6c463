import WirelessSelection.Gate
import WirelessSelection.Settings

namespace WirelessSelection

namespace Scenario

structure SavedNetwork where
  ssid : String
  security : Security
  disabled : Bool := false
  deriving DecidableEq, Repr

structure Sighting where
  ssid : String
  bssid : Bssid
  frequency : UInt32
  rssi : Int32
  capabilities : String := ""
  deriving DecidableEq, Repr

structure Attachment where
  ssid : Option String := none
  bssid : Bssid
  frequency : UInt32
  rssi : Int32
  deriving DecidableEq, Repr

inductive Step
  | scan (time : Millis) (link : Link) (attachment : Option Attachment) (sightings : List Sighting)
  | userChoice (time : Millis) (ssid : String)
  deriving DecidableEq, Repr

def Step.time : Step → Millis
  | scan time _ _ _ => time
  | userChoice time _ => time

def Step.action : Step → String
  | scan .. => "scan"
  | userChoice .. => "user_choice"

def Sighting.capture (s : Sighting) (time : Millis) : Except Fault Observation :=
  Observation.capture s.ssid s.bssid s.frequency s.rssi s.capabilities time

end Scenario

structure Scenario where
  settings : Settings := {}
  networks : List Scenario.SavedNetwork := []
  untrustedAllowed : Bool := false
  blacklist : List Bssid := []
  wallStart : Millis := 0
  steps : List Scenario.Step := []
  deriving DecidableEq, Repr

end WirelessSelection
