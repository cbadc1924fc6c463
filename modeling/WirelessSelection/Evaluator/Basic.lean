import WirelessSelection.Gate
import WirelessSelection.Store.Basic

/-! Selection policies. Each looks at the usable observations of a round, may propose one network,
and reports the observations that it could connect to. -/

namespace WirelessSelection

structure Pairing where
  observation : Observation
  profile : Profile
  deriving DecidableEq, Repr

structure Context where
  currentNetwork : Option NetworkId
  currentBssid : Option Bssid
  link : Link
  untrustedAllowed : Bool
  now : Millis
  settings : Settings
  deriving DecidableEq, Repr

structure Evaluation where
  proposal : Option Profile := none
  connectable : List Pairing := []
  deriving DecidableEq, Repr

structure Evaluator (σ : Type) where
  name : String
  -- Runs on the whole scan, before it is known whether there will be a round.
  update : List Observation → σ → σ := fun _ store => store
  evaluate : List Observation → Context → σ → Evaluation × σ

end WirelessSelection
