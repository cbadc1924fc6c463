namespace WirelessSelection

abbrev Score := Int32

namespace Score

def saturate (n : Int) : Score :=
  Int32.ofInt (max Int32.minValue.toInt (min n Int32.maxValue.toInt))

def add (a b : Score) : Score :=
  saturate (a.toInt + b.toInt)

def sub (a b : Score) : Score :=
  saturate (a.toInt - b.toInt)

def mul (a b : Score) : Score :=
  saturate (a.toInt * b.toInt)

theorem toInt_max (a b : Score) : (max a b).toInt = max a.toInt b.toInt := by
  change (if a ≤ b then b else a).toInt = _
  simp only [Int32.le_iff_toInt_le]
  split <;> omega

theorem toInt_min (a b : Score) : (min a b).toInt = min a.toInt b.toInt := by
  change (if a ≤ b then a else b).toInt = _
  simp only [Int32.le_iff_toInt_le]
  split <;> omega

theorem toInt_saturate (n : Int) :
    (saturate n).toInt = max Int32.minValue.toInt (min n Int32.maxValue.toInt) := by
  have hl : Int32.minValue.toInt = -2147483648 := by decide
  have hu : Int32.maxValue.toInt = 2147483647 := by decide
  rw [saturate, Int32.toInt_ofInt_of_le] <;> omega

theorem toInt_saturate_of_le {n : Int} (hl : Int32.minValue.toInt ≤ n)
    (hu : n ≤ Int32.maxValue.toInt) :
    (saturate n).toInt = n := by
  rw [toInt_saturate]
  omega

end Score

end WirelessSelection
