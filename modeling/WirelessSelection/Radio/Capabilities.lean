namespace WirelessSelection

structure Capabilities where
  bits : UInt8
  deriving DecidableEq, Repr

namespace Capabilities

def none : Capabilities := ⟨0⟩

def wep : Capabilities := ⟨1⟩

def psk : Capabilities := ⟨2⟩

def eap : Capabilities := ⟨4⟩

def sae : Capabilities := ⟨8⟩

def union (a b : Capabilities) : Capabilities :=
  ⟨a.bits ||| b.bits⟩

def contains (a b : Capabilities) : Bool :=
  a.bits &&& b.bits == b.bits

def isOpen (a : Capabilities) : Bool :=
  a.bits == 0

def tokens : List (String × Capabilities) :=
  [("WEP", wep), ("PSK", psk), ("EAP", eap), ("SAE", sae)]

def occurs (token : List Char) : List Char → Bool
  | [] => token.isEmpty
  | c :: rest => token.isPrefixOf (c :: rest) || occurs token rest

theorem occurs_iff {token l : List Char} : occurs token l = true ↔ token <:+: l := by
  induction l with
  | nil => simp [occurs]
  | cons c l ih => simp [occurs, ih, List.infix_cons_iff]

def ofString (s : String) : Capabilities :=
  let chars := s.toList
  (tokens.filter fun t => occurs t.1.toList chars).foldl (fun c t => c.union t.2) none

end Capabilities

end WirelessSelection
