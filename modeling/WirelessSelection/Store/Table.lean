import WirelessSelection.Store.Basic
import WirelessSelection.Store.IdMap

namespace WirelessSelection

structure ProfileTable where
  profiles : IdMap Profile := .empty
  nextId : NetworkId := 0
  lastPick : Option Pick := none
  deriving DecidableEq, Repr

namespace ProfileTable

def empty : ProfileTable := {}

def find? (t : ProfileTable) (key : ProfileKey) : Option (NetworkId × Profile) :=
  t.profiles.entries.find? fun e => e.2.key = key

def allocate (t : ProfileTable) : Except Fault (NetworkId × NetworkId) :=
  if t.nextId < NetworkId.last then .ok (t.nextId, t.nextId + 1)
  else .error .idsExhausted

def append (t : ProfileTable) (p : Profile) : Except Fault ProfileTable := do
  let (id, next) ← t.allocate
  return { t with profiles := t.profiles.insert id p, nextId := next }

def add (t : ProfileTable) (ssid : String) (security : Security) :
    Except Fault (NetworkId × ProfileTable) := do
  let p ← Profile.create t.nextId ssid security
  match t.find? p.key with
  | some (slot, existing) =>
    return (existing.id,
      { t with profiles := t.profiles.modify slot fun q => { q with ephemeral := false } })
  | none => return (p.id, ← t.append p)

/-- Forgets a profile, and the last pick if it names that one. Choices of other profiles stay. -/
def remove (t : ProfileTable) (id : NetworkId) : Option Profile × ProfileTable :=
  (t.profiles.get? id,
    { t with
      profiles := t.profiles.erase id
      lastPick := t.lastPick.filter (·.id != id) })

def modify (t : ProfileTable) (id : NetworkId) (f : Profile → Profile) :
    Except Fault ProfileTable :=
  if t.profiles.contains id then .ok { t with profiles := t.profiles.modify id f }
  else .error (.unknownNetwork id)

def setAvailability (t : ProfileTable) (id : NetworkId) (a : Availability) :
    Except Fault ProfileTable :=
  t.modify id fun p => { p with status := { p.status with availability := a } }

def markPicked (t : ProfileTable) (id : NetworkId) (timestamp : Millis) :
    Except Fault ProfileTable :=
  if t.profiles.contains id then .ok { t with lastPick := some { id, timestamp } }
  else .error (.unknownNetwork id)

def resolve (t : ProfileTable) (o : Observation) : Option Profile :=
  (t.find? (.ofObservation o)).map Prod.snd

def createEphemeral (t : ProfileTable) (o : Observation) : Except Fault (Profile × ProfileTable) :=
  if !o.isOpen then .error .notOpen
  else
    match t.resolve o with
    | some existing => .ok (existing, t)
    | none => do
      let p : Profile :=
        { id := t.nextId, ssid := o.ssid, security := .unsecured, ephemeral := true }
      return (p, ← t.append p)

def saved (t : ProfileTable) : List Profile :=
  t.profiles.values.filter fun p => !p.ephemeral

def settle {α : Type} (t : ProfileTable) :
    Except Fault (α × ProfileTable) → Except Fault α × ProfileTable
  | .ok (a, t') => (.ok a, t')
  | .error f => (.error f, t)

instance : ProfileStore ProfileTable where
  resolve t o := .ok (t.resolve o)
  profile? t id := t.profiles.get? id
  saved := saved
  all t := t.profiles.values
  lastPick? t := t.lastPick
  createEphemeral t o := t.settle (t.createEphemeral o)
  change t id c := t.settle ((t.modify id (·.apply c)).map ((), ·))

end ProfileTable

end WirelessSelection
