import WirelessSelection.Evaluator.Basic
import WirelessSelection.Event

/-! The user's picks. A pick leaves a choice on every other saved network that was connectable in
the last completed round. Later on, a proposal with a choice gives way to the network it names. -/

namespace WirelessSelection.Override

variable {σ : Type} [ProfileStore σ]

open ProfileStore

/-- Whether a pick of `id` with this key is to be noted on a profile. Choices that name the key
already keep their time. -/
def isOverridden (id : NetworkId) (key : ProfileKey) (p : Profile) : Bool :=
  p.id ≠ id && p.status.seen && (p.status.choice.map (·.key)) ≠ some key

def fanOut (choice : ConnectChoice) (state : Nat × σ) (p : Profile) : Nat × σ :=
  match change state.2 p.id (.setChoice choice) with
  | (.ok (), store) => (state.1 + 1, store)
  | (.error _, store) => (state.1, store)

def reinstate (store : σ) (id : NetworkId) (picked : Profile) : σ :=
  let store := if picked.isEnabled then store else (change store id (.setEnabled true)).2
  if picked.status.choice.isSome then (change store id .clearChoice).2 else store

/-- Records a pick at a wall time. Gives the number of profiles that prefer the network from now on,
or nothing when it is unknown. -/
def pick (store : σ) (id : NetworkId) (wall : Millis) : Option Nat × σ :=
  match profile? store id with
  | none => (none, store)
  | some picked =>
    let store := reinstate store id picked
    let (count, store) :=
      ((saved store).filter (isOverridden id picked.key)).foldl
        (fanOut { key := picked.key, timestamp := wall }) (0, store)
    (some count, store)

def choose (store : σ) (id : NetworkId) (wall : Millis) : Bool × List Event × σ :=
  match pick store id wall with
  | (some overridden, store) => (true, [.userChoiceSet id overridden], store)
  | (none, store) => (false, [], store)

def choice? (store : σ) (p : Profile) : Option ConnectChoice :=
  ((profile? store p.id).getD p).status.choice

/-- The network that takes the place of a proposal: the first connectable one that the proposal's
choice names, as long as it is enabled. Its own choice is not followed. -/
def chosen? (store : σ) (proposal : Profile) (connectable : List Pairing) : Option Profile := do
  let choice ← choice? store proposal
  let pairing ← connectable.find? fun q => q.profile.id ≠ proposal.id && q.profile.key = choice.key
  let chosen := (profile? store pairing.profile.id).getD pairing.profile
  if chosen.isEnabled then some chosen else none

end WirelessSelection.Override
