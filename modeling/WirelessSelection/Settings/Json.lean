import WirelessSelection.Json.Decode
import WirelessSelection.Settings

namespace WirelessSelection

open Json

def Thresholds.ofJson? (j : Json) : Option Thresholds := do
  match ← j.fields? ["floor", "qualified", "saturated"] with
  | [floor, qualified, saturated] =>
    return {
      floor := ← required? int32? floor
      qualified := ← required? int32? qualified
      saturated := ← required? int32? saturated }
  | _ => none

def Thresholds.toJson (t : Thresholds) : Json :=
  record [
    ("floor", ofInt32 t.floor),
    ("qualified", ofInt32 t.qualified),
    ("saturated", ofInt32 t.saturated)]

def Weights.ofJson? (j : Json) : Option Weights := do
  let d : Weights := {}
  match ← j.fields? ["rssi_score_offset", "rssi_score_slope", "band_5ghz_award",
    "last_selection_award", "same_network_award", "same_bssid_award", "security_award"] with
  | [offset, slope, ghz5, lastPick, sameNetwork, sameBssid, security] =>
    return {
      rssiOffset := ← defaulted? int32? d.rssiOffset offset
      rssiSlope := ← defaulted? int32? d.rssiSlope slope
      ghz5Award := ← defaulted? int32? d.ghz5Award ghz5
      lastPickAward := ← defaulted? int32? d.lastPickAward lastPick
      sameNetworkAward := ← defaulted? int32? d.sameNetworkAward sameNetwork
      sameBssidAward := ← defaulted? int32? d.sameBssidAward sameBssid
      securityAward := ← defaulted? int32? d.securityAward security }
  | _ => none

def Weights.toJson (w : Weights) : Json :=
  record [
    ("rssi_score_offset", ofInt32 w.rssiOffset),
    ("rssi_score_slope", ofInt32 w.rssiSlope),
    ("band_5ghz_award", ofInt32 w.ghz5Award),
    ("last_selection_award", ofInt32 w.lastPickAward),
    ("same_network_award", ofInt32 w.sameNetworkAward),
    ("same_bssid_award", ofInt32 w.sameBssidAward),
    ("security_award", ofInt32 w.securityAward)]

def Resolution.name : Resolution → String
  | lastWins => "LastWins"
  | firstWins => "FirstWins"

def Resolution.ofName? : String → Option Resolution
  | "LastWins" => some lastWins
  | "FirstWins" => some firstWins
  | _ => none

def Resolution.ofJson? (j : Json) : Option Resolution :=
  j.variant?.bind ofName?

def Settings.ofJson? (j : Json) : Option Settings := do
  let d : Settings := {}
  match ← j.fields? ["thresholds_24ghz", "thresholds_5ghz", "min_selection_interval_ms",
    "associated_selection_enabled", "proposal_resolution", "scoring"] with
  | [ghz24, ghz5, interval, associated, resolution, weights] =>
    return {
      ghz24 := ← defaulted? Thresholds.ofJson? d.ghz24 ghz24
      ghz5 := ← defaulted? Thresholds.ofJson? d.ghz5 ghz5
      minimumInterval := ← defaulted? uint64? d.minimumInterval interval
      selectsWhileAssociated := ← defaulted? bool? d.selectsWhileAssociated associated
      resolution := ← defaulted? Resolution.ofJson? d.resolution resolution
      weights := ← defaulted? Weights.ofJson? d.weights weights }
  | _ => none

def Settings.toJson (s : Settings) : Json :=
  record [
    ("thresholds_24ghz", s.ghz24.toJson),
    ("thresholds_5ghz", s.ghz5.toJson),
    ("min_selection_interval_ms", ofUInt64 s.minimumInterval),
    ("associated_selection_enabled", .bool s.selectsWhileAssociated),
    ("proposal_resolution", ofString s.resolution.name),
    ("scoring", s.weights.toJson)]

end WirelessSelection
