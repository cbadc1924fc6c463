import WirelessSelection.Json.Numeral

namespace WirelessSelection

/-- What a string stands for. Half of a surrogate pair on its own stands for no text. -/
inductive Literal
  | text (s : String)
  | unpaired
  deriving DecidableEq, Repr

def Literal.text? : Literal → Option String
  | .text s => some s
  | .unpaired => none

inductive Json
  | null
  | bool (b : Bool)
  | number (n : Numeral)
  | string (s : Literal)
  | array (items : List Json)
  | object (members : List (Literal × Json))

namespace Json

instance : Inhabited Json := ⟨null⟩

def ofString (s : String) : Json :=
  string (.text s)

def ofInt (n : Int) : Json :=
  number (.ofInt n)

def ofNat (n : Nat) : Json :=
  ofInt n

def ofInt32 (n : Int32) : Json :=
  ofInt n.toInt

def ofUInt32 (n : UInt32) : Json :=
  ofNat n.toNat

def ofUInt64 (n : UInt64) : Json :=
  ofNat n.toNat

def ofOption {α : Type} (f : α → Json) : Option α → Json
  | some a => f a
  | none => null

def record (members : List (String × Json)) : Json :=
  object (members.map fun m => (.text m.1, m.2))

def tagged (name : String) (content : Json) : Json :=
  record [(name, content)]

end Json

end WirelessSelection
