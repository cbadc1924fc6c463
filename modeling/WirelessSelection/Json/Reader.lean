import WirelessSelection.Json.Token

/-! Reading JSON text. The tokens run through a machine with a stack of the containers that are
still open; blanks may stand between tokens, and nothing else may follow the value. -/

namespace WirelessSelection.Json

inductive Frame
  -- The contents are newest first.
  | array (items : List Json)
  | object (members : List (Literal × Json)) (key : Literal)

inductive Expected
  | value
  | firstItem
  | firstKey (members : List (Literal × Json))
  | key (members : List (Literal × Json))
  | colon (members : List (Literal × Json)) (key : Literal)
  | separator (j : Json)

structure Reader where
  expected : Expected := .value
  stack : List Frame := []

namespace Reader

def openValue (stack : List Frame) : Token → Option Reader
  | .scalar j => some { expected := .separator j, stack }
  | .openBracket => some { expected := .firstItem, stack }
  | .openBrace => some { expected := .firstKey [], stack }
  | _ => none

def openKey (stack : List Frame) (members : List (Literal × Json)) : Token → Option Reader
  | .scalar (.string key) => some { expected := .colon members key, stack }
  | _ => none

def separate (j : Json) : List Frame → Token → Option Reader
  | .array items :: stack, .comma =>
    some { expected := .value, stack := .array (j :: items) :: stack }
  | .array items :: stack, .closeBracket =>
    some { expected := .separator (.array (j :: items).reverse), stack }
  | .object members key :: stack, .comma =>
    some { expected := .key ((key, j) :: members), stack }
  | .object members key :: stack, .closeBrace =>
    some { expected := .separator (.object ((key, j) :: members).reverse), stack }
  | _, _ => none

def step (r : Reader) (t : Token) : Option Reader :=
  match r.expected, t with
  | .value, t => openValue r.stack t
  | .firstItem, .closeBracket => some { expected := .separator (.array []), stack := r.stack }
  | .firstItem, t => openValue (.array [] :: r.stack) t
  | .firstKey _, .closeBrace => some { expected := .separator (.object []), stack := r.stack }
  | .firstKey members, t => openKey r.stack members t
  | .key members, t => openKey r.stack members t
  | .colon members key, .colon =>
    some { expected := .value, stack := .object members key :: r.stack }
  | .colon _ _, _ => none
  | .separator j, t => separate j r.stack t

def finish (r : Reader) : Option Json :=
  match r.expected, r.stack with
  | .separator j, [] => some j
  | _, _ => none

end Reader

def ofTokens? (l : List Token) : Option Json := do
  (← l.foldlM Reader.step {}).finish

def parse? (s : String) : Option Json := do
  ofTokens? (← Token.ofChars? s.toList)

end WirelessSelection.Json
