import WirelessSelection.Gate
import WirelessSelection.Json.Decode

namespace WirelessSelection

open Json

def Link.name : Link → String
  | connected => "Connected"
  | disconnected => "Disconnected"
  | transitioning => "Transitioning"

def Link.ofName? : String → Option Link
  | "Connected" => some connected
  | "Disconnected" => some disconnected
  | "Transitioning" => some transitioning
  | _ => none

def SkipReason.toJson : SkipReason → Json
  | noUsableObservations => ofString "NoUsableObservations"
  | linkTransitioning => ofString "LinkTransitioning"
  | associatedSelectionDisabled => ofString "AssociatedSelectionDisabled"
  | currentBssidNotInScan => ofString "CurrentBssidNotInScan"
  | minimumIntervalNotElapsed elapsed =>
    tagged "MinimumIntervalNotElapsed" (record [("elapsed_ms", ofUInt64 elapsed)])
  | currentNetworkSufficient => ofString "CurrentNetworkSufficient"

end WirelessSelection
