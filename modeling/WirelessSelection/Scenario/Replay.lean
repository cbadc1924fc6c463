import WirelessSelection.Clock
import WirelessSelection.Scenario.Basic
import WirelessSelection.Selector
import WirelessSelection.Store.Table

namespace WirelessSelection

structure Report where
  time : Millis
  action : String
  candidate : Option String := none
  connectable : List String := []
  openUnsaved : List String := []
  accepted : Option Bool := none
  deriving DecidableEq, Repr

namespace Scenario

structure Progress where
  selector : Selector ProfileTable
  clock : Clock
  table : ProfileTable
  events : List Event := []
  reports : List Report := []

structure Outcome where
  reports : Except Fault (List Report)
  events : List Event
  table : ProfileTable

def savedId (table : ProfileTable) (ssid : String) : Except Fault NetworkId :=
  match table.saved.find? (·.ssid.text = ssid) with
  | some p => .ok p.id
  | none => .error (.invalidSettings "step names an SSID with no saved network")

def Attachment.resolve (table : ProfileTable) : Option Attachment → Except Fault Association
  | none => .ok .none
  | some a => do
    return {
      network := ← a.ssid.mapM (savedId table)
      bssid := some a.bssid
      frequency := a.frequency
      rssi := a.rssi }

def request (s : Scenario) (table : ProfileTable) (time : Millis) (link : Link)
    (attachment : Option Attachment) (sightings : List Sighting) : Except Fault Request := do
  let scan ← sightings.mapM (·.capture time)
  let association ← Attachment.resolve table attachment
  return {
    scan
    blacklist := s.blacklist
    association
    link
    untrustedAllowed := s.untrustedAllowed }

def runScan (r : Progress) (time : Millis) (request : Request) : Progress :=
  let clock := r.clock.setElapsed time
  let round := r.selector.select request clock.elapsed r.table
  { selector := r.selector.after round
    clock
    table := round.store
    events := r.events ++ round.events
    reports := r.reports ++
      [{ time
         action := "scan"
         candidate := round.candidate.map (·.label)
         connectable := round.memory.connectable.map (·.observation.label)
         openUnsaved := round.memory.openUnsaved.map (·.label) }] }

/-- An accepted pick is also noted as the last one, with the time of the step. -/
def runChoice (r : Progress) (time : Millis) (id : NetworkId) : Except Fault Progress := do
  let clock := r.clock.setElapsed time
  let (accepted, events, table) := Override.choose r.table id clock.wall
  let table ← if accepted then table.markPicked id time else .ok table
  return {
    selector := r.selector
    clock
    table
    events := r.events ++ events
    reports := r.reports ++ [{ time, action := "user_choice", accepted := some accepted }] }

def runStep (s : Scenario) (r : Progress) : Step → Except Fault Progress
  | .scan time link attachment sightings => do
    return runScan r time (← s.request r.table time link attachment sightings)
  | .userChoice time ssid => do runChoice r time (← savedId r.table ssid)

def runSteps (s : Scenario) : List Step → Progress → Option Fault × Progress
  | [], r => (none, r)
  | step :: rest, r =>
    match s.runStep r step with
    | .ok r => s.runSteps rest r
    | .error f => (some f, r)

def setUpNetwork (table : ProfileTable) (n : SavedNetwork) : Except Fault Unit × ProfileTable :=
  match table.add n.ssid n.security with
  | .error f => (.error f, table)
  | .ok (id, table) =>
    if n.disabled then ProfileStore.change table id (.setEnabled false) else (.ok (), table)

def setUp : List SavedNetwork → ProfileTable → Option Fault × ProfileTable
  | [], table => (none, table)
  | n :: rest, table =>
    match setUpNetwork table n with
    | (.ok (), table) => setUp rest table
    | (.error f, table) => (some f, table)

def replay (s : Scenario) (table : ProfileTable) : Outcome :=
  match Selector.withDefaultEvaluators s.settings with
  | .error f => { reports := .error f, events := [], table }
  | .ok selector =>
    match setUp s.networks table with
    | (some f, table) => { reports := .error f, events := [], table }
    | (none, table) =>
      match s.runSteps s.steps { selector, clock := .starting s.wallStart, table } with
      | (some f, r) => { reports := .error f, events := r.events, table := r.table }
      | (none, r) => { reports := .ok r.reports, events := r.events, table := r.table }

end Scenario

end WirelessSelection
