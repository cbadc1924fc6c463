import WirelessSelection.Profile.Basic

namespace WirelessSelection

structure Pick where
  id : NetworkId
  timestamp : Millis
  deriving DecidableEq, Repr

/-- Profiles are listed by id. A write gives back the store also when it fails, since the attempt
itself may have left a trace. -/
class ProfileStore (σ : Type) where
  resolve (store : σ) (o : Observation) : Except Fault (Option Profile)
  profile? (store : σ) (id : NetworkId) : Option Profile
  saved (store : σ) : List Profile
  all (store : σ) : List Profile
  lastPick? (store : σ) : Option Pick
  createEphemeral (store : σ) (o : Observation) : Except Fault Profile × σ
  change (store : σ) (id : NetworkId) (c : Change) : Except Fault Unit × σ

end WirelessSelection
