import WirelessSelection.Profile.Security
import WirelessSelection.Radio.Observation

namespace WirelessSelection

structure ProfileKey where
  text : String
  size_lt : text.utf8ByteSize < UInt64.size
  deriving DecidableEq, Repr

namespace ProfileKey

def textOf (name : String) (security : Security) : String :=
  "\"" ++ name ++ "\"" ++ security.keyManagement

theorem utf8ByteSize_textOf_le (name : String) (security : Security) :
    (textOf name security).utf8ByteSize ≤ name.utf8ByteSize + 9 := by
  have hq : "\"".utf8ByteSize = 1 := by decide
  have hk : security.keyManagement.utf8ByteSize ≤ 7 := by cases security <;> decide
  simp only [textOf, String.utf8ByteSize_append, hq]
  omega

def derive (ssid : Ssid) (security : Security) : ProfileKey where
  text := textOf ssid.text security
  size_lt := by
    have := utf8ByteSize_textOf_le ssid.text security
    have := ssid.size_le
    simp only [UInt64.size]
    omega

def ofName? (name : String) (security : Security) : Option ProfileKey :=
  let text := textOf name security
  if h : text.utf8ByteSize < UInt64.size then some ⟨text, h⟩ else none

def ofObservation (o : Observation) : ProfileKey :=
  derive o.ssid (.ofCapabilities o.capabilities)

end ProfileKey

end WirelessSelection
