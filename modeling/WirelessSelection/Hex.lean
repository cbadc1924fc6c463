namespace WirelessSelection.Hex

def value? (c : Char) : Option Nat :=
  if '0' ≤ c ∧ c ≤ '9' then some (c.toNat - '0'.toNat)
  else if 'a' ≤ c ∧ c ≤ 'f' then some (c.toNat - 'a'.toNat + 10)
  else if 'A' ≤ c ∧ c ≤ 'F' then some (c.toNat - 'A'.toNat + 10)
  else none

def digit (n : Nat) : Char :=
  if n < 10 then Char.ofNat ('0'.toNat + n) else Char.ofNat ('a'.toNat + (n - 10))

def pair (b : UInt8) : List Char :=
  [digit (b.toNat / 16), digit (b.toNat % 16)]

def pair? (high low : Char) : Option UInt8 := do
  let h ← value? high
  let l ← value? low
  return UInt8.ofNat (16 * h + l)

def encode (bytes : List UInt8) : String :=
  String.ofList (bytes.flatMap pair)

def decode? : List Char → Option (List UInt8)
  | [] => some []
  | a :: b :: rest => do return (← pair? a b) :: (← decode? rest)
  | [_] => none

theorem value?_digit {n : Nat} (h : n < 16) : value? (digit n) = some n := by
  have : ∀ k : Fin 16, value? (digit k) = some k.val := by decide
  exact this ⟨n, h⟩

theorem pair?_pair (b : UInt8) : pair? (digit (b.toNat / 16)) (digit (b.toNat % 16)) = some b := by
  have hb := b.toNat_lt
  rw [pair?, value?_digit (by omega), value?_digit (by omega)]
  simp only [bind, pure, Option.bind_some, Nat.div_add_mod, UInt8.ofNat_toNat]

end WirelessSelection.Hex
