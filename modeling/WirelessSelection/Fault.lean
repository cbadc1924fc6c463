import WirelessSelection.NetworkId

namespace WirelessSelection

inductive Fault
  | ssidTooLong
  | invalidBssid
  | panelFull
  | duplicateName
  | invalidSettings (rule : String)
  | unknownNetwork (id : NetworkId)
  | notOpen
  | storage
  | corrupted
  | idsExhausted
  deriving DecidableEq, Repr

namespace Fault

def message : Fault → String
  | ssidTooLong => "SSID exceeds 32 bytes"
  | invalidBssid => "BSSID must be six hex octets"
  | panelFull => "evaluator table full"
  | duplicateName => "evaluator name already registered"
  | invalidSettings rule => "validation failed: " ++ rule
  | unknownNetwork id => "unknown network id " ++ id.text
  | notOpen => "observation is not an open network"
  | storage => "I/O error"
  | corrupted => "profile store corrupted"
  | idsExhausted => "no network ids left"

def area : Fault → String
  | ssidTooLong | invalidBssid => "scan"
  | panelFull | duplicateName => "registry"
  | invalidSettings _ => "config"
  | unknownNetwork _ | notOpen | storage | corrupted | idsExhausted => "repository"

def qualifiedMessage (f : Fault) : String :=
  f.area ++ ": " ++ f.message

end Fault

end WirelessSelection
