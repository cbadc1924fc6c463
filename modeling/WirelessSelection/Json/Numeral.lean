namespace WirelessSelection

structure Numeral where
  negative : Bool := false
  whole : Nat
  fraction : Option (List Nat) := none
  exponent : Option Int := none
  deriving DecidableEq, Repr

namespace Numeral

def ofInt (n : Int) : Numeral where
  negative := n < 0
  whole := n.natAbs

def int? (n : Numeral) : Option Int :=
  if n.fraction.isSome || n.exponent.isSome || (n.negative && n.whole == 0) then none
  else some (if n.negative then -n.whole else n.whole)

theorem int?_ofInt (n : Int) : (ofInt n).int? = some n := by
  simp only [int?, ofInt, Option.isSome_none, Bool.false_or, Bool.and_eq_true, decide_eq_true_eq,
    beq_iff_eq]
  rw [if_neg (by omega)]
  split <;> congr 1 <;> omega

def digit? (c : Char) : Option Nat :=
  if '0' ≤ c ∧ c ≤ '9' then some (c.toNat - '0'.toNat) else none

def digits? (l : List Char) : Option (List Nat) :=
  if l.isEmpty then none else l.mapM digit?

def ofDigits (l : List Nat) : Nat :=
  l.foldl (fun n d => 10 * n + d) 0

def wholeOf? (l : List Char) : Option Nat := do
  let ds ← digits? l
  if ds.head? = some 0 ∧ 1 < ds.length then none else some (ofDigits ds)

def exponentOf? : List Char → Option Int
  | '-' :: l => (digits? l).map fun ds => -(ofDigits ds : Int)
  | '+' :: l => (digits? l).map fun ds => (ofDigits ds : Int)
  | l => (digits? l).map fun ds => (ofDigits ds : Int)

def cut (isSeparator : Char → Bool) (l : List Char) : List Char × Option (List Char) :=
  (l.takeWhile (!isSeparator ·), (l.dropWhile (!isSeparator ·)).tail?)

def ofChars? (l : List Char) : Option Numeral := do
  let (negative, l) := match l with
    | '-' :: l => (true, l)
    | l => (false, l)
  let (mantissa, exponent) := cut (fun c => c = 'e' || c = 'E') l
  let (whole, fraction) := cut (· = '.') mantissa
  let whole ← wholeOf? whole
  let fraction ← fraction.mapM digits?
  let exponent ← exponent.mapM exponentOf?
  return { negative, whole, fraction, exponent }

def takeDigits : Nat → List Nat → Nat × Nat
  | n, [] => (n, 0)
  | n, d :: ds =>
    if 10 * n + d < UInt64.size then takeDigits (10 * n + d) ds else (n, (d :: ds).length)

/-- The nearest number of at most 53 binary digits before its final zeros; of two the even one. -/
def round53 (n : Nat) : Nat :=
  let zeros := n.log2 - 52
  let unit := 1 <<< zeros
  let q := n / unit
  let r := n % unit
  if unit < 2 * r ∨ (unit = 2 * r ∧ q % 2 = 1) then (q + 1) * unit else q * unit

def scientific (n : Numeral) : Nat × Int :=
  let fraction := n.fraction.getD []
  let (s, wholeLeft) := takeDigits 0 ((Nat.toDigits 10 n.whole).filterMap digit?)
  let (s, fractionLeft) := takeDigits s fraction
  (s, wholeLeft - (fraction.length - fractionLeft) + n.exponent.getD 0)

/-- An integer of 64 bits is kept as it is. Any other number is read as a product in binary64, of
its leading digits and a power of ten rounded each, and must not overflow. -/
def isFinite (n : Numeral) : Bool :=
  if n.fraction.isNone && n.exponent.isNone && n.whole < UInt64.size then true else
  let (s, e) := n.scientific
  if s = 0 ∨ e < 0 then true
  else if 308 < e then false
  else round53 s * round53 (Nat.pow 10 e.toNat) < 1 <<< 1024 - 1 <<< 970

def text (n : Numeral) : String :=
  (if n.negative then "-" else "") ++ toString n.whole
    ++ (match n.fraction with
      | some ds => "." ++ String.join (ds.map toString)
      | none => "")
    ++ (match n.exponent with
      | some e => "e" ++ toString e
      | none => "")

end Numeral

end WirelessSelection
