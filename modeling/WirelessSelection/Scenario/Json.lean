import WirelessSelection.Gate.Json
import WirelessSelection.Json.Reader
import WirelessSelection.Profile.Json
import WirelessSelection.Scenario.Basic
import WirelessSelection.Settings.Json

namespace WirelessSelection.Scenario

open Json

def SavedNetwork.ofJson? (j : Json) : Option SavedNetwork := do
  match ← j.fields? ["ssid", "security", "disabled"] with
  | [ssid, security, disabled] =>
    return {
      ssid := ← required? text? ssid
      security := ← required? Security.ofJson? security
      disabled := ← defaulted? bool? false disabled }
  | _ => none

def SavedNetwork.toJson (n : SavedNetwork) : Json :=
  record [
    ("ssid", ofString n.ssid),
    ("security", ofString n.security.name),
    ("disabled", .bool n.disabled)]

def Sighting.ofJson? (j : Json) : Option Sighting := do
  match ← j.fields? ["ssid", "bssid", "frequency_mhz", "rssi_dbm", "capabilities"] with
  | [ssid, bssid, frequency, rssi, capabilities] =>
    return {
      ssid := ← required? text? ssid
      bssid := ← required? Bssid.ofJson? bssid
      frequency := ← required? uint32? frequency
      rssi := ← required? int32? rssi
      capabilities := ← defaulted? text? "" capabilities }
  | _ => none

def Sighting.toJson (s : Sighting) : Json :=
  record [
    ("ssid", ofString s.ssid),
    ("bssid", s.bssid.toJson),
    ("frequency_mhz", ofUInt32 s.frequency),
    ("rssi_dbm", ofInt32 s.rssi),
    ("capabilities", ofString s.capabilities)]

def Attachment.ofJson? (j : Json) : Option Attachment := do
  match ← j.fields? ["ssid", "bssid", "frequency_mhz", "rssi_dbm"] with
  | [ssid, bssid, frequency, rssi] =>
    return {
      ssid := ← defaulted? (nullable? text?) none ssid
      bssid := ← required? Bssid.ofJson? bssid
      frequency := ← required? uint32? frequency
      rssi := ← required? int32? rssi }
  | _ => none

def Attachment.toJson (a : Attachment) : Json :=
  record [
    ("ssid", ofOption ofString a.ssid),
    ("bssid", a.bssid.toJson),
    ("frequency_mhz", ofUInt32 a.frequency),
    ("rssi_dbm", ofInt32 a.rssi)]

/-- Inside a step the name of a link state may also be given an empty object. -/
def linkOfJson? : Json → Option Link
  | .object [(key, .object [])] => key.text?.bind Link.ofName?
  | j => j.variant?.bind Link.ofName?

def Step.scanOfJson? (j : Json) : Option Step := do
  match ← j.fields? ["at_ms", "link", "association", "observations"] with
  | [time, link, attachment, sightings] =>
    return .scan (← required? uint64? time) (← required? linkOfJson? link)
      (← defaulted? (nullable? Attachment.ofJson?) none attachment)
      (← required? (list? Sighting.ofJson?) sightings)
  | _ => none

def Step.userChoiceOfJson? (j : Json) : Option Step := do
  match ← j.fields? ["at_ms", "ssid"] with
  | [time, ssid] => return .userChoice (← required? uint64? time) (← required? text? ssid)
  | _ => none

def Step.ofAction? (action : String) (j : Json) : Option Step :=
  match action with
  | "scan" => scanOfJson? j
  | "user_choice" => userChoiceOfJson? j
  | _ => none

/-- A text may nest 127 containers, and a step lies in the third. -/
def Step.depthLimit : Nat := 124

def Step.ofJson? : Json → Option Step
  | .object members => do
    -- All of a step must be sound, also what no field takes.
    if !areSoundMembers depthLimit members then none
    let action ← member? (← namedMembers? members) "action"
    ofAction? (← required? text? action) (.object members)
  | .array (action :: fields) => do
    if !areSound depthLimit fields then none
    ofAction? (← action.text?) (.array fields)
  | _ => none

def Step.toJson : Step → Json
  | scan time link attachment sightings =>
    record [
      ("action", ofString "scan"),
      ("at_ms", ofUInt64 time),
      ("link", ofString link.name),
      ("association", ofOption Attachment.toJson attachment),
      ("observations", .array (sightings.map Sighting.toJson))]
  | userChoice time ssid =>
    record [
      ("action", ofString "user_choice"),
      ("at_ms", ofUInt64 time),
      ("ssid", ofString ssid)]

def ofJson? (j : Json) : Option Scenario := do
  match ← j.fields? ["config", "networks", "untrusted_allowed", "blacklist", "wall_clock_start_ms",
    "steps"] with
  | [settings, networks, untrustedAllowed, blacklist, wallStart, steps] =>
    return {
      settings := ← defaulted? Settings.ofJson? {} settings
      networks := ← defaulted? (list? SavedNetwork.ofJson?) [] networks
      untrustedAllowed := ← defaulted? bool? false untrustedAllowed
      blacklist := ← defaulted? (list? Bssid.ofJson?) [] blacklist
      wallStart := ← defaulted? uint64? 0 wallStart
      steps := ← defaulted? (list? Step.ofJson?) [] steps }
  | _ => none

def toJson (s : Scenario) : Json :=
  record [
    ("config", s.settings.toJson),
    ("networks", .array (s.networks.map SavedNetwork.toJson)),
    ("untrusted_allowed", .bool s.untrustedAllowed),
    ("blacklist", .array (s.blacklist.map Bssid.toJson)),
    ("wall_clock_start_ms", ofUInt64 s.wallStart),
    ("steps", .array (s.steps.map Step.toJson))]

def parse? (text : String) : Option Scenario := do
  ofJson? (← Json.parse? text)

end WirelessSelection.Scenario
