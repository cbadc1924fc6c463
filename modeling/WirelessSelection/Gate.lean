import WirelessSelection.Profile.Basic
import WirelessSelection.Settings

/-! Whether a round is worth running. A device without an association always selects, one in the
middle of associating never does, and an associated one only if four conditions leave room. -/

namespace WirelessSelection

inductive Link
  | connected
  | disconnected
  | transitioning
  deriving DecidableEq, Repr

structure Association where
  network : Option NetworkId := none
  bssid : Option Bssid := none
  frequency : UInt32 := 0
  rssi : Int32 := -2147483648
  deriving DecidableEq, Repr

namespace Association

def none : Association := {}

def band (a : Association) : Band :=
  .ofFrequency a.frequency

end Association

inductive SkipReason
  | noUsableObservations
  | linkTransitioning
  | associatedSelectionDisabled
  | currentBssidNotInScan
  | minimumIntervalNotElapsed (elapsed : Millis)
  | currentNetworkSufficient
  deriving DecidableEq, Repr

def SkipReason.message : SkipReason → String
  | noUsableObservations => "no usable observations"
  | linkTransitioning => "link in transition"
  | associatedSelectionDisabled => "associated selection disabled"
  | currentBssidNotInScan => "current BSSID not in scan"
  | minimumIntervalNotElapsed elapsed =>
    "only " ++ toString elapsed.toNat ++ "ms since last selection"
  | currentNetworkSufficient => "current network sufficient"

structure Situation where
  link : Link
  association : Association
  current : Option Profile
  usable : List Observation
  lastSelection : Option Millis
  now : Millis

namespace Situation

variable (s : Situation) (settings : Settings)

def offersFasterBand : Bool :=
  s.association.band = .ghz24 && s.usable.any (·.band = .ghz5)

def hasQualifiedSignal : Bool :=
  match settings.thresholds? s.association.band with
  | some t => t.qualified ≤ s.association.rssi
  | none => true

def isSufficient : Bool :=
  match s.current with
  | some p => !p.ephemeral && !p.isOpen && !s.offersFasterBand && s.hasQualifiedSignal settings
  | none => false

def seesCurrentBssid : Bool :=
  match s.association.bssid with
  | some b => s.usable.any (·.bssid = b)
  | none => false

def tooRecent? : Option Millis := do
  let last ← s.lastSelection
  let elapsed := Millis.since s.now last
  if elapsed < settings.minimumInterval then some elapsed else none

def associatedSkip? : Option SkipReason :=
  if !settings.selectsWhileAssociated then some .associatedSelectionDisabled
  else if !s.seesCurrentBssid then some .currentBssidNotInScan
  else
    match s.tooRecent? settings with
    | some elapsed => some (.minimumIntervalNotElapsed elapsed)
    | none => if s.isSufficient settings then some .currentNetworkSufficient else none

def skip? : Option SkipReason :=
  match s.link with
  | .disconnected => none
  | .transitioning => some .linkTransitioning
  | .connected => s.associatedSkip? settings

end Situation

end WirelessSelection
