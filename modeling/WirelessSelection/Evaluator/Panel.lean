import WirelessSelection.Evaluator.Basic

namespace WirelessSelection

structure Seat (σ : Type) where
  priority : UInt8
  evaluator : Evaluator σ

structure Panel (σ : Type) where
  seats : List (Seat σ) := []

structure Verdict where
  candidate : Option Profile := none
  connectable : List Pairing := []
  deriving DecidableEq, Repr

namespace Panel

variable {σ : Type}

def capacity : Nat := 6

def names (panel : Panel σ) : List String :=
  panel.seats.map (·.evaluator.name)

def size (panel : Panel σ) : Nat :=
  panel.seats.length

def insertSeat (seat : Seat σ) : List (Seat σ) → List (Seat σ)
  | [] => [seat]
  | s :: rest => if s.priority ≤ seat.priority then s :: insertSeat seat rest else seat :: s :: rest

def register (panel : Panel σ) (evaluator : Evaluator σ) (priority : UInt8) :
    Except Fault (Panel σ) :=
  if evaluator.name ∈ panel.names then .error .duplicateName
  else if capacity ≤ panel.size then .error .panelFull
  else .ok { seats := insertSeat { priority, evaluator } panel.seats }

def update (panel : Panel σ) (scan : List Observation) (store : σ) : σ :=
  panel.seats.foldl (fun store s => s.evaluator.update scan store) store

def resolve (resolution : Resolution) (candidate proposal : Option Profile) : Option Profile :=
  match resolution with
  | .lastWins => proposal <|> candidate
  | .firstWins => candidate <|> proposal

def hear (usable : List Observation) (ctx : Context) (state : Verdict × σ) (seat : Seat σ) :
    Verdict × σ :=
  let (evaluation, store) := seat.evaluator.evaluate usable ctx state.2
  ({ candidate := resolve ctx.settings.resolution state.1.candidate evaluation.proposal
     connectable := state.1.connectable ++ evaluation.connectable }, store)

def evaluate (panel : Panel σ) (usable : List Observation) (ctx : Context) (store : σ) :
    Verdict × σ :=
  panel.seats.foldl (hear usable ctx) ({}, store)

end Panel

end WirelessSelection
