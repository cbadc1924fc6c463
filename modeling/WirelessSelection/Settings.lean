import WirelessSelection.Fault
import WirelessSelection.Radio.Band
import WirelessSelection.Score
import WirelessSelection.Time

namespace WirelessSelection

structure Thresholds where
  floor : Int32
  qualified : Int32
  saturated : Int32
  deriving DecidableEq, Repr

def Thresholds.Ordered (t : Thresholds) : Prop :=
  t.floor ≤ t.qualified ∧ t.qualified ≤ t.saturated

instance (t : Thresholds) : Decidable t.Ordered :=
  inferInstanceAs (Decidable (_ ∧ _))

structure Weights where
  rssiOffset : Score := 85
  rssiSlope : Score := 4
  ghz5Award : Score := 40
  lastPickAward : Score := 480
  sameNetworkAward : Score := 16
  sameBssidAward : Score := 24
  securityAward : Score := 80
  deriving DecidableEq, Repr

inductive Resolution
  | lastWins
  | firstWins
  deriving DecidableEq, Repr

structure Settings where
  ghz24 : Thresholds := { floor := -85, qualified := -73, saturated := -60 }
  ghz5 : Thresholds := { floor := -82, qualified := -70, saturated := -57 }
  minimumInterval : Millis := 10000
  selectsWhileAssociated : Bool := true
  resolution : Resolution := .lastWins
  weights : Weights := {}
  deriving DecidableEq, Repr

namespace Settings

def thresholds? (s : Settings) : Band → Option Thresholds
  | .ghz24 => some s.ghz24
  | .ghz5 => some s.ghz5
  | .other => none

structure Valid (s : Settings) : Prop where
  ghz24_ordered : s.ghz24.Ordered
  ghz5_ordered : s.ghz5.Ordered
  slope_pos : 0 < s.weights.rssiSlope

def violation? (s : Settings) : Option String :=
  if ¬ s.ghz24.Ordered then some "2.4GHz thresholds must satisfy floor <= qualified <= saturated"
  else if ¬ s.ghz5.Ordered then some "5GHz thresholds must satisfy floor <= qualified <= saturated"
  else if s.weights.rssiSlope ≤ 0 then some "rssi_score_slope must be positive"
  else none

def validate (s : Settings) : Except Fault Unit :=
  match s.violation? with
  | some rule => .error (.invalidSettings rule)
  | none => .ok ()

theorem violation?_eq_none_iff (s : Settings) : s.violation? = none ↔ s.Valid := by
  unfold violation?
  constructor
  · intro h
    split at h
    · simp at h
    split at h
    · simp at h
    split at h
    · simp at h
    next h₁ h₂ h₃ =>
    exact ⟨Decidable.not_not.mp h₁, Decidable.not_not.mp h₂, Int32.not_le.mp h₃⟩
  · intro h
    rw [if_neg (not_not_intro h.ghz24_ordered), if_neg (not_not_intro h.ghz5_ordered),
      if_neg (Int32.not_le.mpr h.slope_pos)]

theorem validate_eq_ok_iff (s : Settings) : s.validate = .ok () ↔ s.Valid := by
  rw [← violation?_eq_none_iff, validate]
  cases s.violation? <;> simp

end Settings

end WirelessSelection
