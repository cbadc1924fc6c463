namespace WirelessSelection.CommandLine

structure Arguments where
  scenario : String
  state : Option String := none
  deriving DecidableEq, Repr

namespace Arguments

def looksLikeOption (s : String) : Bool :=
  match s.toList with
  | '-' :: _ :: _ => true
  | _ => false

def attachedState? (s : String) : Option String :=
  if "--state=".toList.isPrefixOf s.toList then some (String.ofList (s.toList.drop 8)) else none

structure Parsed where
  scenario : Option String := none
  state : Option String := none

def Parsed.addScenario (p : Parsed) (s : String) : Option Parsed :=
  if s.isEmpty || p.scenario.isSome then none else some { p with scenario := some s }

def Parsed.addState (p : Parsed) (s : String) : Option Parsed :=
  if s.isEmpty || p.state.isSome then none else some { p with state := some s }

def parseFiles : List String → Parsed → Option Parsed
  | [], p => some p
  | s :: rest, p => do parseFiles rest (← p.addScenario s)

def parseFrom : List String → Parsed → Option Parsed
  | [], p => some p
  | "--" :: rest, p => parseFiles rest p
  | "--state" :: s :: rest, p => do
    if looksLikeOption s then none else parseFrom rest (← p.addState s)
  | s :: rest, p => do
    match attachedState? s with
    | some file => parseFrom rest (← p.addState file)
    | none => if looksLikeOption s then none else parseFrom rest (← p.addScenario s)

def parse? (args : List String) : Option Arguments := do
  let p ← parseFrom args {}
  return { scenario := ← p.scenario, state := p.state }

end Arguments

end WirelessSelection.CommandLine
