import WirelessSelection.Fault

namespace WirelessSelection

structure Ssid where
  text : String
  size_le : text.utf8ByteSize ≤ 32
  deriving DecidableEq, Repr

namespace Ssid

def ofString? (s : String) : Option Ssid :=
  if h : s.utf8ByteSize ≤ 32 then some ⟨s, h⟩ else none

def parse (s : String) : Except Fault Ssid :=
  match ofString? s with
  | some ssid => .ok ssid
  | none => .error .ssidTooLong

def isHidden (s : Ssid) : Bool :=
  s.text.isEmpty

def quoted (s : Ssid) : String :=
  "\"" ++ s.text ++ "\""

end Ssid

end WirelessSelection
