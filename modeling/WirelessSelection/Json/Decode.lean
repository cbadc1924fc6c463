import WirelessSelection.Json.Basic

/-! Typed reading of JSON values. A record is an object with its fields in any order, or an array
with them in the order of their declaration. -/

namespace WirelessSelection.Json

variable {α : Type}

def text? : Json → Option String
  | string s => s.text?
  | _ => none

def bool? : Json → Option Bool
  | bool b => some b
  | _ => none

def int? : Json → Option Int
  | number n => n.int?
  | _ => none

def intIn? (low high : Int) (j : Json) : Option Int := do
  let n ← j.int?
  if low ≤ n ∧ n < high then some n else none

def uint8? (j : Json) : Option UInt8 :=
  (j.intIn? 0 UInt8.size).map fun n => UInt8.ofNat n.toNat

def uint32? (j : Json) : Option UInt32 :=
  (j.intIn? 0 UInt32.size).map fun n => UInt32.ofNat n.toNat

def uint64? (j : Json) : Option UInt64 :=
  (j.intIn? 0 UInt64.size).map fun n => UInt64.ofNat n.toNat

def int32? (j : Json) : Option Int32 :=
  (j.intIn? Int32.minValue.toInt (Int32.maxValue.toInt + 1)).map Int32.ofInt

def list? (decode? : Json → Option α) : Json → Option (List α)
  | array items => items.mapM decode?
  | _ => none

def nullable? (decode? : Json → Option α) : Json → Option (Option α)
  | null => some none
  | j => (decode? j).map some

def member? (members : List (String × Json)) (name : String) : Option (Option Json) :=
  match members.filter (·.1 = name) with
  | [] => some none
  | [m] => some (some m.2)
  | _ => none

def namedMembers? (members : List (Literal × Json)) : Option (List (String × Json)) :=
  members.mapM fun m => m.1.text?.map (·, m.2)

/-- What is given for each of some fields. Members of other names do not count, and an array may
stop early but not go on. -/
def fields? (names : List String) : Json → Option (List (Option Json))
  | object members => do names.mapM (member? (← namedMembers? members))
  | array items =>
    if items.length ≤ names.length then
      some (items.map some ++ List.replicate (names.length - items.length) none)
    else none
  | _ => none

def required? (decode? : Json → Option α) (field : Option Json) : Option α :=
  field.bind decode?

def defaulted? (decode? : Json → Option α) (default : α) : Option Json → Option α
  | some j => decode? j
  | none => some default

def variant? : Json → Option String
  | string s => s.text?
  | object [(key, null)] => key.text?
  | _ => none

mutual

def isSound : Nat → Json → Bool
  | _, number n => n.isFinite
  | _, string s => s.text?.isSome
  | 0, array _ => false
  | depth + 1, array items => areSound depth items
  | 0, object _ => false
  | depth + 1, object members => areSoundMembers depth members
  | _, _ => true

def areSound : Nat → List Json → Bool
  | _, [] => true
  | depth, j :: rest => isSound depth j && areSound depth rest

def areSoundMembers : Nat → List (Literal × Json) → Bool
  | _, [] => true
  | depth, (key, j) :: rest => key.text?.isSome && isSound depth j && areSoundMembers depth rest

end

end WirelessSelection.Json
