import WirelessSelection.CommandLine.Arguments
import WirelessSelection.CommandLine.Host
import WirelessSelection.Scenario.Json
import WirelessSelection.Scenario.Report
import WirelessSelection.Store.Snapshot

/-! The program: replays a scenario, prints a report for each step, and carries the table of
profiles from one run to the next in a file. -/

namespace WirelessSelection.CommandLine

structure Failure where
  message : String
  cause : Option String
  deriving DecidableEq, Repr

def Failure.caused (message cause : String) : Failure where
  message
  cause := some cause

variable {m : Type → Type} [Monad m]

def readText (host : Host m) (path : String) : ExceptT Failure m String := do
  let failure := Failure.caused ("reading " ++ path)
  match ← host.read path with
  | .error e => throw (failure e.message)
  | .ok bytes =>
    match String.fromUTF8? ⟨bytes.toArray⟩ with
    | some text => return text
    | none => throw (failure "stream did not contain valid UTF-8")

def loadScenario (host : Host m) (path : String) : ExceptT Failure m Scenario := do
  match Scenario.parse? (← readText host path) with
  | none => throw { message := "parsing " ++ path, cause := none }
  | some scenario =>
    match scenario.settings.validate with
    | .ok () => return scenario
    | .error f => throw (.caused "invalid selector configuration" f.message)

def loadTable (host : Host m) : Option String → ExceptT Failure m ProfileTable
  | none => return .empty
  | some path => do
    if ← host.isPresent path then
      match ← host.read path with
      | .error e => throw (.caused ("reading " ++ path) e.message)
      | .ok bytes =>
        match Snapshot.decode bytes with
        | .ok table => return table
        | .error f => throw (.caused ("decoding " ++ path) f.message)
    else return .empty

def saveTable (host : Host m) (table : ProfileTable) : Option String → ExceptT Failure m Unit
  | none => return ()
  | some path => do
    match ← host.write path (Snapshot.encode table) with
    | .ok () => return ()
    | .error e => throw (.caused ("writing " ++ path) e.message)

/-- A failed replay prints nothing and keeps the file of the table as it is. -/
def execute (host : Host m) (args : Arguments) : ExceptT Failure m Unit := do
  let scenario ← loadScenario host args.scenario
  let table ← loadTable host args.state
  let outcome := scenario.replay table
  match outcome.reports with
  | .error f => throw (.caused "replay failed" f.qualifiedMessage)
  | .ok reports =>
    reports.forM fun r => (host.print r.line : m Unit)
    saveTable host outcome.table args.state

inductive Ending
  | success
  | failure (f : Failure)
  | misuse
  deriving DecidableEq, Repr

def Ending.exitCode : Ending → Nat
  | success => 0
  | failure _ => 1
  | misuse => 2

def run (host : Host m) (args : List String) : m Ending := do
  match Arguments.parse? args with
  | none => return .misuse
  | some args =>
    match ← (execute host args).run with
    | .ok () => return .success
    | .error f => return .failure f

end WirelessSelection.CommandLine
