import WirelessSelection.Evaluator.Basic

/-! The policy for saved networks: score every observation of an enabled saved profile and propose
the profile of the best one. -/

namespace WirelessSelection.SavedNetworks

variable {σ : Type} [ProfileStore σ]

open ProfileStore

def usableSignal (settings : Settings) (o : Observation) : Int32 :=
  let rssi := max (-127) (min o.rssi 0)
  match settings.thresholds? o.band with
  | some t => min rssi t.saturated
  | none => rssi

def minutesSince (now earlier : Millis) : Score :=
  .saturate (Millis.since now earlier / 60000).toNat

def lastPickAward (ctx : Context) (pick : Pick) : Score :=
  max 0 (Score.sub ctx.settings.weights.lastPickAward (minutesSince ctx.now pick.timestamp))

def awards (ctx : Context) (last : Option Pick) (o : Observation) (p : Profile) : List Score :=
  let w := ctx.settings.weights
  (if o.band = .ghz5 then [w.ghz5Award] else [])
    ++ (last.filter (·.id = p.id)).toList.map (lastPickAward ctx)
    ++ (if ctx.currentNetwork = some p.id then
          w.sameNetworkAward
            :: (if ctx.currentBssid = some o.bssid then [w.sameBssidAward] else [])
        else [])
    ++ (if p.isOpen then [] else [w.securityAward])

def score (ctx : Context) (last : Option Pick) (o : Observation) (p : Profile) : Score :=
  let w := ctx.settings.weights
  (awards ctx last o p).foldl Score.add
    (Score.mul (Score.add (usableSignal ctx.settings o) w.rssiOffset) w.rssiSlope)

/-- The scores recorded so far in a round, newest first, and its best score. -/
structure Tally where
  recorded : List (NetworkId × Score) := []
  best : Option Score := none
  evaluation : Evaluation := {}

def beats (s : Score) : Option Score → Bool
  | some t => t < s
  | none => true

def record (tally : Tally) (store : σ) (id : NetworkId) (o : Observation) (s : Score) :
    List (NetworkId × Score) × σ :=
  if beats s (tally.recorded.lookup id) then
    match change store id (.recordCandidate o s) with
    | (.ok (), store) => ((id, s) :: tally.recorded, store)
    | (.error _, store) => (tally.recorded, store)
  else (tally.recorded, store)

def rate (ctx : Context) (last : Option Pick) (tally : Tally) (store : σ) (o : Observation)
    (p : Profile) : Tally × σ :=
  let s := score ctx last o p
  let (recorded, store) := record tally store p.id o s
  let ahead := beats s tally.best
  ({ recorded
     best := if ahead then some s else tally.best
     evaluation :=
      { proposal := if ahead then some p else tally.evaluation.proposal
        connectable := tally.evaluation.connectable ++ [⟨o, p⟩] } }, store)

def consider (ctx : Context) (last : Option Pick) (state : Tally × σ) (o : Observation) :
    Tally × σ :=
  match resolve state.2 o with
  | .ok (some p) => if !p.ephemeral && p.isEnabled then rate ctx last state.1 state.2 o p else state
  | _ => state

def evaluate (usable : List Observation) (ctx : Context) (store : σ) : Evaluation × σ :=
  let (tally, store) := usable.foldl (consider ctx (lastPick? store)) ({}, store)
  (tally.evaluation, store)

def update (_ : List Observation) (store : σ) : σ :=
  ((saved store).filter (·.status.hasCandidate)).foldl
    (fun store p => (change store p.id .clearCandidate).2) store

def evaluator : Evaluator σ where
  name := "SavedNetworkEvaluator"
  update
  evaluate

end WirelessSelection.SavedNetworks
