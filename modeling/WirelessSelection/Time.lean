namespace WirelessSelection

abbrev Millis := UInt64

namespace Millis

def plus (a b : Millis) : Millis :=
  UInt64.ofNat (min (a.toNat + b.toNat) (UInt64.size - 1))

def since (a b : Millis) : Millis :=
  if b ≤ a then a - b else 0

theorem toNat_plus (a b : Millis) :
    (plus a b).toNat = min (a.toNat + b.toNat) (UInt64.size - 1) := by
  rw [plus, UInt64.toNat_ofNat_of_lt']
  simp only [UInt64.size]
  omega

theorem toNat_since (a b : Millis) : (since a b).toNat = a.toNat - b.toNat := by
  unfold since
  split
  · next h => exact UInt64.toNat_sub_of_le _ _ h
  · next h =>
    have := UInt64.not_le.mp h
    rw [UInt64.lt_iff_toNat_lt] at this
    simp only [UInt64.reduceToNat]
    omega

end Millis

end WirelessSelection
