import WirelessSelection.Json.Writer
import WirelessSelection.Scenario.Replay

namespace WirelessSelection.Report

open Json

def toJson (r : Report) : Json :=
  record [
    ("at_ms", ofUInt64 r.time),
    ("action", ofString r.action),
    ("candidate", ofOption ofString r.candidate),
    ("connectable", .array (r.connectable.map ofString)),
    ("open_unsaved", .array (r.openUnsaved.map ofString)),
    ("accepted", ofOption .bool r.accepted)]

def line (r : Report) : String :=
  r.toJson.render

end WirelessSelection.Report
