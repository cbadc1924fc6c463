import WirelessSelection.Fault
import WirelessSelection.Hex

namespace WirelessSelection

structure Bssid where
  octets : Vector UInt8 6
  deriving DecidableEq, Repr

namespace Bssid

def octets? : List Char → Option (List UInt8)
  | [a, b] => do return [← Hex.pair? a b]
  | a :: b :: ':' :: rest => do return (← Hex.pair? a b) :: (← octets? rest)
  | _ => none

def ofOctets? (l : List UInt8) : Option Bssid :=
  if h : l.length = 6 then some ⟨⟨l.toArray, by simpa using h⟩⟩ else none

def ofString? (s : String) : Option Bssid := do
  ofOctets? (← octets? s.toList)

def parse (s : String) : Except Fault Bssid :=
  match ofString? s with
  | some b => .ok b
  | none => .error .invalidBssid

def chars (b : Bssid) : List Char :=
  [':'].intercalate (b.octets.toList.map Hex.pair)

def text (b : Bssid) : String :=
  String.ofList b.chars

theorem octets?_intercalate {l : List UInt8} (h : l ≠ []) :
    octets? ([':'].intercalate (l.map Hex.pair)) = some l := by
  induction l with
  | nil => exact absurd rfl h
  | cons a l ih =>
    cases l with
    | nil => simp [List.intercalate, Hex.pair, octets?, Hex.pair?_pair]
    | cons b l =>
      have := ih (List.cons_ne_nil b l)
      simp only [List.map_cons, List.intercalate, List.intersperse_cons_cons,
        List.flatten_cons] at this ⊢
      simp only [Hex.pair, List.cons_append, List.nil_append, octets?, Hex.pair?_pair] at this ⊢
      simp [this]

theorem ofOctets?_toList (b : Bssid) : ofOctets? b.octets.toList = some b := by
  obtain ⟨⟨a, h⟩⟩ := b
  simp [ofOctets?, Vector.toList, h]

theorem ofString?_text (b : Bssid) : ofString? b.text = some b := by
  have h : b.octets.toList ≠ [] := List.ne_nil_of_length_pos (by simp)
  simp [ofString?, text, chars, octets?_intercalate h, ofOctets?_toList]

theorem length_intercalate_pair (l : List UInt8) :
    ([':'].intercalate (l.map Hex.pair)).length = 3 * l.length - 1 := by
  induction l with
  | nil => rfl
  | cons a l ih =>
    cases l with
    | nil => rfl
    | cons b l =>
      simp only [List.map_cons, List.intercalate, List.intersperse_cons_cons, List.flatten_cons,
        List.length_append, List.length_cons] at ih ⊢
      rw [ih, Hex.pair]
      simp only [List.length_cons, List.length_nil]
      omega

theorem length_chars (b : Bssid) : b.chars.length = 17 := by
  simp [chars, length_intercalate_pair]

def compare (a b : Bssid) : Ordering :=
  List.compareLex (fun x y => compareOfLessAndEq x y) a.octets.toList b.octets.toList

end Bssid

end WirelessSelection
