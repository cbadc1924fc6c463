import WirelessSelection.Event
import WirelessSelection.Gate.Json

namespace WirelessSelection

open Json

def RoundSummary.toJson (s : RoundSummary) : Json :=
  record [
    ("candidate", ofOption ofUInt32 s.candidate),
    ("scanned", ofNat s.scanned),
    ("filtered", ofNat s.usable),
    ("connectable", ofNat s.connectable),
    ("open_unsaved", ofNat s.openUnsaved)]

def Event.toJson : Event → Json
  | roundSkipped reason => tagged "RoundSkipped" reason.toJson
  | roundCompleted summary => tagged "RoundCompleted" summary.toJson
  | candidateOverridden proposed chosen =>
    tagged "CandidateOverridden"
      (record [("proposed", ofUInt32 proposed), ("chosen", ofUInt32 chosen)])
  | userChoiceSet id overridden =>
    tagged "UserChoiceSet" (record [("network_id", ofUInt32 id), ("overridden", ofNat overridden)])

end WirelessSelection
