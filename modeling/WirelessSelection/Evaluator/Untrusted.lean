import WirelessSelection.Evaluator.Basic

/-! The policy for open networks that the user never saved. Where the request allows such networks,
each is backed by an ephemeral profile and the strongest is proposed; elsewhere it is silent. -/

namespace WirelessSelection.UntrustedNetworks

variable {σ : Type} [ProfileStore σ]

open ProfileStore

def ephemeral? (store : σ) (o : Observation) : Option Profile × σ :=
  match resolve store o with
  | .ok (some p) => (if p.ephemeral then some p else none, store)
  | .ok none =>
    match createEphemeral store o with
    | (.ok p, store) => (some p, store)
    | (.error _, store) => (none, store)
  | .error _ => (none, store)

structure Tally where
  best : Option Int32 := none
  evaluation : Evaluation := {}

def Tally.push (t : Tally) (o : Observation) (p : Profile) : Tally :=
  let ahead : Bool := match t.best with
    | some rssi => rssi < o.rssi
    | none => true
  { best := if ahead then some o.rssi else t.best
    evaluation :=
      { proposal := if ahead then some p else t.evaluation.proposal
        connectable := t.evaluation.connectable ++ [⟨o, p⟩] } }

def consider (state : Tally × σ) (o : Observation) : Tally × σ :=
  match ephemeral? state.2 o with
  | (some p, store) => (if p.isEnabled then state.1.push o p else state.1, store)
  | (none, store) => (state.1, store)

def evaluate (usable : List Observation) (ctx : Context) (store : σ) : Evaluation × σ :=
  if ctx.untrustedAllowed then
    let (tally, store) := (usable.filter (·.isOpen)).foldl consider ({}, store)
    (tally.evaluation, store)
  else ({}, store)

def evaluator : Evaluator σ where
  name := "UntrustedNetworkEvaluator"
  evaluate

end WirelessSelection.UntrustedNetworks
