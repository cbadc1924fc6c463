namespace WirelessSelection.CommandLine

inductive Component
  | stay
  | up
  | name (s : String)
  deriving DecidableEq, Repr

def Component.ofString? (s : String) : Option Component :=
  if s.isEmpty then none
  else if s = "." then some stay
  else if s = ".." then some up
  else some (name s)

structure Goal where
  name : String
  isSlashed : Bool
  deriving DecidableEq, Repr

structure Path where
  isAbsolute : Bool
  way : List Component
  goal : Option Goal
  deriving DecidableEq, Repr

namespace Path

def maximumSize : Nat := 4095

def ofString (s : String) : Path :=
  let components := (s.splitOn "/").filterMap Component.ofString?
  let isAbsolute := s.startsWith "/"
  match components.getLast? with
  | some (.name name) =>
    { isAbsolute, way := components.dropLast, goal := some { name, isSlashed := s.endsWith "/" } }
  | _ => { isAbsolute, way := components, goal := none }

end Path

end WirelessSelection.CommandLine
