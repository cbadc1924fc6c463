import WirelessSelection.Gate

namespace WirelessSelection

structure RoundSummary where
  candidate : Option NetworkId
  scanned : Nat
  usable : Nat
  connectable : Nat
  openUnsaved : Nat
  deriving DecidableEq, Repr

inductive Event
  | roundSkipped (reason : SkipReason)
  | roundCompleted (summary : RoundSummary)
  | candidateOverridden (proposed chosen : NetworkId)
  | userChoiceSet (id : NetworkId) (overridden : Nat)
  deriving DecidableEq, Repr

def RoundSummary.line (s : RoundSummary) : String :=
  let candidate := match s.candidate with
    | some id => id.text
    | none => "none"
  "ROUND | candidate=" ++ candidate ++ " | scanned=" ++ toString s.scanned ++ " filtered="
    ++ toString s.usable ++ " connectable=" ++ toString s.connectable ++ " open_unsaved="
    ++ toString s.openUnsaved

def Event.line : Event → String
  | roundSkipped reason => "SKIP  | " ++ reason.message
  | roundCompleted summary => summary.line
  | candidateOverridden proposed chosen =>
    "USER  | override " ++ proposed.text ++ " -> " ++ chosen.text
  | userChoiceSet id overridden =>
    "USER  | chose " ++ id.text ++ " over " ++ toString overridden ++ " network(s)"

end WirelessSelection
