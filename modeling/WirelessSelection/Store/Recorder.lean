import WirelessSelection.Evaluator.Basic

/-! A store that notes the writes attempted on another one, and lets chosen operations fail. -/

namespace WirelessSelection

def Change.name : Change → String
  | recordCandidate .. => "record_candidate"
  | clearCandidate => "clear_candidate"
  | setEnabled _ => "set_enabled"
  | setChoice _ => "set_connect_choice"
  | clearChoice => "clear_connect_choice"
  | setSeen _ => "set_seen"

inductive Attempt
  | resolve (ssid : String)
  | createEphemeral (ssid : String)
  | change (id : NetworkId) (c : Change)
  deriving DecidableEq, Repr

def Attempt.label : Attempt → String
  | resolve ssid => "resolve " ++ ssid
  | createEphemeral ssid => "create_ephemeral " ++ ssid
  | change id c => c.name ++ " " ++ id.text

inductive Note
  | attempt (a : Attempt)
  | update (evaluator : String) (scanned : Nat)
  | evaluate (evaluator : String) (scanned : Nat) (ctx : Context)
  deriving DecidableEq, Repr

structure Recorder (σ : Type) where
  store : σ
  notes : List Note := []
  fails : Attempt → Bool := fun _ => false

namespace Recorder

variable {σ : Type}

def note (r : Recorder σ) (n : Note) : Recorder σ :=
  { r with notes := r.notes ++ [n] }

def attempt {α : Type} (r : Recorder σ) (a : Attempt) (operation : σ → Except Fault α × σ) :
    Except Fault α × Recorder σ :=
  let r := r.note (.attempt a)
  if r.fails a then (.error .storage, r)
  else
    let (result, store) := operation r.store
    (result, { r with store })

variable [ProfileStore σ]

open ProfileStore

instance : ProfileStore (Recorder σ) where
  -- Lookups are not noted, but can fail.
  resolve r o := if r.fails (.resolve o.ssid.text) then .error .storage else resolve r.store o
  profile? r := profile? r.store
  saved r := saved r.store
  all r := all r.store
  lastPick? r := lastPick? r.store
  createEphemeral r o := r.attempt (.createEphemeral o.ssid.text) (createEphemeral · o)
  change r id c := r.attempt (.change id c) (change · id c)

def probe (name : String) : Evaluator (Recorder σ) where
  name
  update scan r := r.note (.update name scan.length)
  evaluate usable ctx r := ({}, r.note (.evaluate name usable.length ctx))

end Recorder

end WirelessSelection
