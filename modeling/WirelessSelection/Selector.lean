import WirelessSelection.Evaluator.Panel
import WirelessSelection.Evaluator.Saved
import WirelessSelection.Evaluator.Untrusted
import WirelessSelection.Event
import WirelessSelection.Override
import WirelessSelection.Screening
import WirelessSelection.Store.IdMap

/-! Selection rounds: screen the scan, ask the gate, hear the panel, mark what is connectable, and
let the user's choices have the last word. -/

namespace WirelessSelection

structure Request where
  scan : List Observation
  blacklist : List Bssid := []
  association : Association := .none
  link : Link
  untrustedAllowed : Bool := false
  deriving DecidableEq, Repr

structure Memory where
  lastSelection : Option Millis := none
  connectable : List Pairing := []
  openUnsaved : List Observation := []
  deriving DecidableEq, Repr

structure Selector (σ : Type) where
  settings : Settings
  panel : Panel σ := {}
  memory : Memory := {}

structure Round (σ : Type) where
  candidate : Option Profile
  events : List Event
  memory : Memory
  store : σ

namespace Selector

variable {σ : Type} [ProfileStore σ]

open ProfileStore

def create (settings : Settings) : Except Fault (Selector σ) := do
  settings.validate
  return { settings }

def register (sel : Selector σ) (evaluator : Evaluator σ) (priority : UInt8) :
    Except Fault (Selector σ) := do
  return { sel with panel := ← sel.panel.register evaluator priority }

def withDefaultEvaluators (settings : Settings) : Except Fault (Selector σ) := do
  let sel ← create settings
  let sel ← sel.register UntrustedNetworks.evaluator 1
  sel.register SavedNetworks.evaluator 2

theorem withDefaultEvaluators_eq (settings : Settings) :
    (withDefaultEvaluators settings : Except Fault (Selector σ)) =
      settings.validate.map fun _ => {
        settings
        panel.seats := [⟨1, UntrustedNetworks.evaluator⟩, ⟨2, SavedNetworks.evaluator⟩] } := by
  rw [withDefaultEvaluators, create]
  cases settings.validate with
  | error f => rfl
  | ok _ => rfl

def refreshSeen (connectable : List Pairing) (store : σ) : σ :=
  let ids := sortedIds (connectable.map (·.profile.id))
  let store := ids.foldl (fun store id => (change store id (.setSeen true)).2) store
  ((all store).filter fun p => p.status.seen && p.id ∉ ids).foldl
    (fun store p => (change store p.id (.setSeen false)).2) store

def isUnsaved (store : σ) (o : Observation) : Bool :=
  match resolve store o with
  | .ok (some p) => p.ephemeral
  | _ => true

def situation (sel : Selector σ) (req : Request) (usable : List Observation) (now : Millis)
    (store : σ) : Situation where
  link := req.link
  association := req.association
  current := req.association.network.bind (profile? store)
  usable
  lastSelection := sel.memory.lastSelection
  now

def context (sel : Selector σ) (req : Request) (now : Millis) : Context where
  currentNetwork := req.association.network
  currentBssid := req.association.bssid
  link := req.link
  untrustedAllowed := req.untrustedAllowed
  now
  settings := sel.settings

def settle (store : σ) (connectable : List Pairing) (proposal : Profile) : Profile × List Event :=
  match Override.chosen? store proposal connectable with
  | some chosen => (chosen, [.candidateOverridden proposal.id chosen.id])
  | none => ((profile? store proposal.id).getD proposal, [])

def skip (sel : Selector σ) (reason : SkipReason) (store : σ) : Round σ where
  candidate := none
  events := [.roundSkipped reason]
  memory := { lastSelection := sel.memory.lastSelection }
  store

def complete (sel : Selector σ) (req : Request) (usable : List Observation) (now : Millis)
    (store : σ) : Round σ :=
  let (verdict, store) := sel.panel.evaluate usable (sel.context req now) store
  let store := refreshSeen verdict.connectable store
  let openUnsaved := (usable.filter (·.isOpen)).filter (isUnsaved store)
  let settled := verdict.candidate.map (settle store verdict.connectable)
  let candidate := settled.map Prod.fst
  { candidate
    events := (settled.map Prod.snd).getD [] ++
      [.roundCompleted
        { candidate := candidate.map (·.id)
          scanned := req.scan.length
          usable := usable.length
          connectable := verdict.connectable.length
          openUnsaved := openUnsaved.length }]
    memory := { lastSelection := some now, connectable := verdict.connectable, openUnsaved }
    store }

def skip? (sel : Selector σ) (req : Request) (usable : List Observation) (now : Millis)
    (store : σ) : Option SkipReason :=
  if usable.isEmpty then some .noUsableObservations
  else (sel.situation req usable now store).skip? sel.settings

def select (sel : Selector σ) (req : Request) (now : Millis) (store : σ) : Round σ :=
  let store := sel.panel.update req.scan store
  let usable := (Screening.ofScan req.scan req.blacklist sel.settings).kept
  match sel.skip? req usable now store with
  | some reason => sel.skip reason store
  | none => sel.complete req usable now store

def after (sel : Selector σ) (r : Round σ) : Selector σ :=
  { sel with memory := r.memory }

end Selector

end WirelessSelection
