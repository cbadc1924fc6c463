import WirelessSelection.Hex
import WirelessSelection.Json.Basic

namespace WirelessSelection.Json

inductive Token
  | openBrace
  | closeBrace
  | openBracket
  | closeBracket
  | comma
  | colon
  | scalar (j : Json)

namespace Token

def isHighSurrogate (n : Nat) : Bool :=
  0xD800 ≤ n && n < 0xDC00

def isLowSurrogate (n : Nat) : Bool :=
  0xDC00 ≤ n && n < 0xE000

def joinSurrogates : List Nat → Option (List Char)
  | [] => some []
  | [n] => if isHighSurrogate n || isLowSurrogate n then none else some [Char.ofNat n]
  | n :: m :: rest =>
    if isHighSurrogate n then
      if isLowSurrogate m then
        (joinSurrogates rest).map (Char.ofNat (0x10000 + (n - 0xD800) * 0x400 + (m - 0xDC00)) :: ·)
      else none
    else if isLowSurrogate n then none
    else (joinSurrogates (m :: rest)).map (Char.ofNat n :: ·)

def literal (units : List Nat) : Literal :=
  match joinSurrogates units with
  | some cs => .text (String.ofList cs)
  | none => .unpaired

inductive Mode
  -- What has been collected is newest first.
  | between
  | word (chars : List Char)
  | numeral (chars : List Char)
  | quoted (units : List Nat)
  | escape (units : List Nat)
  | hex (units : List Nat) (value missing : Nat)

structure Machine where
  mode : Mode := .between
  tokens : List Token := []

def punctuation? : Char → Option Token
  | '\x7b' => some openBrace
  | '\x7d' => some closeBrace
  | '[' => some openBracket
  | ']' => some closeBracket
  | ',' => some comma
  | ':' => some colon
  | _ => none

def isBlank (c : Char) : Bool :=
  c = ' ' || c = '\t' || c = '\n' || c = '\r'

def word? : List Char → Option Json
  | ['n', 'u', 'l', 'l'] => some .null
  | ['t', 'r', 'u', 'e'] => some (.bool true)
  | ['f', 'a', 'l', 's', 'e'] => some (.bool false)
  | _ => none

def escaped? : Char → Option Char
  | '"' => some '"'
  | '\\' => some '\\'
  | '/' => some '/'
  | 'b' => some '\x08'
  | 'f' => some '\x0c'
  | 'n' => some '\n'
  | 'r' => some '\r'
  | 't' => some '\t'
  | _ => none

def isNumeralChar (c : Char) : Bool :=
  c.isDigit || c = '-' || c = '+' || c = '.' || c = 'e' || c = 'E'

def start (tokens : List Token) (c : Char) : Option Machine :=
  if isBlank c then some { tokens }
  else if c = '"' then some { mode := .quoted [], tokens }
  else if c.isDigit || c = '-' then some { mode := .numeral [c], tokens }
  else if c.isAlpha then some { mode := .word [c], tokens }
  else (punctuation? c).map fun t => { tokens := t :: tokens }

def finish (m : Machine) : Option (List Token) :=
  match m.mode with
  | .between => some m.tokens
  | .word cs => (word? cs.reverse).map (scalar · :: m.tokens)
  | .numeral cs => (Numeral.ofChars? cs.reverse).map fun n => scalar (.number n) :: m.tokens
  | _ => none

def step (m : Machine) (c : Char) : Option Machine :=
  match m.mode with
  | .between => start m.tokens c
  | .word cs =>
    if c.isAlpha then some { m with mode := .word (c :: cs) } else do start (← finish m) c
  | .numeral cs =>
    if isNumeralChar c then some { m with mode := .numeral (c :: cs) } else do start (← finish m) c
  | .quoted us =>
    if c = '"' then some { tokens := scalar (.string (literal us.reverse)) :: m.tokens }
    else if c = '\\' then some { m with mode := .escape us }
    else if c.toNat < 0x20 then none
    else some { m with mode := .quoted (c.toNat :: us) }
  | .escape us =>
    if c = 'u' then some { m with mode := .hex us 0 4 }
    else (escaped? c).map fun e => { m with mode := .quoted (e.toNat :: us) }
  | .hex us value missing => do
    let value := 16 * value + (← Hex.value? c)
    return { m with
      mode := if missing ≤ 1 then .quoted (value :: us) else .hex us value (missing - 1) }

def ofChars? (l : List Char) : Option (List Token) := do
  let m ← l.foldlM step {}
  return (← finish m).reverse

end Token

end WirelessSelection.Json
