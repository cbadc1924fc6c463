import WirelessSelection.Profile.Basic
import WirelessSelection.Radio.Json

namespace WirelessSelection

open Json

def Security.name : Security → String
  | unsecured => "Open"
  | wep => "Wep"
  | psk => "Psk"
  | sae => "Sae"
  | eap => "Eap"

def Security.ofName? : String → Option Security
  | "Open" => some unsecured
  | "Wep" => some wep
  | "Psk" => some psk
  | "Sae" => some sae
  | "Eap" => some eap
  | _ => none

def Security.ofJson? (j : Json) : Option Security :=
  j.variant?.bind ofName?

def Availability.name : Availability → String
  | enabled => "Enabled"
  | temporarilyDisabled => "TemporarilyDisabled"
  | permanentlyDisabled => "PermanentlyDisabled"

def Availability.ofName? : String → Option Availability
  | "Enabled" => some enabled
  | "TemporarilyDisabled" => some temporarilyDisabled
  | "PermanentlyDisabled" => some permanentlyDisabled
  | _ => none

def ConnectChoice.toJson (c : ConnectChoice) : Json :=
  record [("config_key", ofString c.key.text), ("timestamp_ms", ofUInt64 c.timestamp)]

def Status.toJson (s : Status) : Json :=
  record [
    ("state", ofString s.availability.name),
    ("candidate", ofOption Observation.toJson s.candidate),
    ("candidate_score", ofOption ofInt32 s.score),
    ("seen_in_last_round", .bool s.seen),
    ("connect_choice", ofOption ConnectChoice.toJson s.choice)]

def Profile.toJson (p : Profile) : Json :=
  record [
    ("id", ofUInt32 p.id),
    ("ssid", ofString p.ssid.text),
    ("security", ofString p.security.name),
    ("ephemeral", .bool p.ephemeral),
    ("status", p.status.toJson)]

end WirelessSelection
