import WirelessSelection.Radio.Observation
import WirelessSelection.Settings

namespace WirelessSelection

inductive DropReason
  | hidden
  | blacklisted
  | lowSignal
  deriving DecidableEq, Repr

namespace Observation

def isBelowFloor (o : Observation) (settings : Settings) : Bool :=
  match settings.thresholds? o.band with
  | some t => o.rssi < t.floor
  | none => false

def dropReason? (o : Observation) (blacklist : List Bssid) (settings : Settings) :
    Option DropReason :=
  if o.ssid.isHidden then some .hidden
  else if o.bssid ∈ blacklist then some .blacklisted
  else if o.isBelowFloor settings then some .lowSignal
  else none

end Observation

structure Screening where
  kept : List Observation
  hidden : Nat
  blacklisted : Nat
  lowSignal : Nat
  deriving DecidableEq, Repr

namespace Screening

def ofScan (scan : List Observation) (blacklist : List Bssid) (settings : Settings) : Screening :=
  let reason? (o : Observation) := o.dropReason? blacklist settings
  { kept := scan.filter (reason? · = none)
    hidden := scan.countP (reason? · = some .hidden)
    blacklisted := scan.countP (reason? · = some .blacklisted)
    lowSignal := scan.countP (reason? · = some .lowSignal) }

def dropped (s : Screening) : Nat :=
  s.hidden + s.blacklisted + s.lowSignal

end Screening

end WirelessSelection
