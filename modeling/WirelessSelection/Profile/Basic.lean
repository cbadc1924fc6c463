import WirelessSelection.Profile.Key
import WirelessSelection.Score

namespace WirelessSelection

inductive Availability
  | enabled
  | temporarilyDisabled
  | permanentlyDisabled
  deriving DecidableEq, Repr

/-- The network that the user preferred over the one holding the choice, and the wall time of it. -/
structure ConnectChoice where
  key : ProfileKey
  timestamp : Millis
  deriving DecidableEq, Repr

structure Status where
  availability : Availability := .enabled
  candidate : Option Observation := none
  score : Option Score := none
  seen : Bool := false
  choice : Option ConnectChoice := none
  deriving DecidableEq, Repr

inductive Change
  | recordCandidate (o : Observation) (s : Score)
  | clearCandidate
  | setEnabled (enabled : Bool)
  | setChoice (choice : ConnectChoice)
  | clearChoice
  | setSeen (seen : Bool)
  deriving DecidableEq, Repr

namespace Status

def isEnabled (s : Status) : Bool :=
  s.availability = .enabled

def apply (s : Status) : Change → Status
  | .recordCandidate o score => { s with candidate := some o, score := some score }
  | .clearCandidate => { s with candidate := none, score := none }
  | .setEnabled enabled =>
    { s with availability := if enabled then .enabled else .permanentlyDisabled }
  | .setChoice choice => { s with choice := some choice }
  | .clearChoice => { s with choice := none }
  | .setSeen seen => { s with seen }

def hasCandidate (s : Status) : Bool :=
  s.candidate.isSome || s.score.isSome

end Status

structure Profile where
  id : NetworkId
  ssid : Ssid
  security : Security
  ephemeral : Bool := false
  status : Status := {}
  deriving DecidableEq, Repr

namespace Profile

def create (id : NetworkId) (ssid : String) (security : Security) : Except Fault Profile := do
  let ssid ← Ssid.parse ssid
  return { id, ssid, security }

def key (p : Profile) : ProfileKey :=
  .derive p.ssid p.security

def isOpen (p : Profile) : Bool :=
  p.security = .unsecured

def isEnabled (p : Profile) : Bool :=
  p.status.isEnabled

def isMatch (p : Profile) (o : Observation) : Bool :=
  p.key = .ofObservation o

def apply (p : Profile) (c : Change) : Profile :=
  { p with status := p.status.apply c }

def label (p : Profile) : String :=
  p.ssid.quoted ++ ":" ++ p.id.text

end Profile

end WirelessSelection
