import WirelessSelection.Evaluator.Basic

namespace WirelessSelection.Scripted

variable {σ : Type}

def pairAll (usable : List Observation) (p : Profile) : List Pairing :=
  usable.map (⟨·, p⟩)

def constant (name : String) (p : Profile) (pairs : Bool) : Evaluator σ where
  name
  evaluate usable _ store :=
    ({ proposal := some p, connectable := if pairs then pairAll usable p else [] }, store)

variable [ProfileStore σ]

open ProfileStore

def fixed (name : String) (id : NetworkId) : Evaluator σ where
  name
  evaluate _ _ store := ({ proposal := profile? store id }, store)

def pairing? (store : σ) (o : Observation) : Option Pairing :=
  match resolve store o with
  | .ok (some p) => some ⟨o, p⟩
  | _ => none

def picking (name : String) (pick : List Pairing → Option Pairing) : Evaluator σ where
  name
  evaluate usable _ store :=
    let pairs := usable.filterMap (pairing? store)
    ({ proposal := (pick pairs).map (·.profile), connectable := pairs }, store)

def pickFirst (name : String) : Evaluator σ :=
  picking name List.head?

def pickLast (name : String) : Evaluator σ :=
  picking name List.getLast?

end WirelessSelection.Scripted
