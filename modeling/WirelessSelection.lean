import WirelessSelection.CommandLine.FileTree
import WirelessSelection.Event.Json
import WirelessSelection.Evaluator.Scripted
import WirelessSelection.Main
import WirelessSelection.Store.Recorder
import WirelessSelection.Proofs.Store.Entries
import WirelessSelection.Proofs.Store.WellFormed
import WirelessSelection.Proofs.Store.Frame
import WirelessSelection.Proofs.Round
import WirelessSelection.Proofs.Verdict
import WirelessSelection.Proofs.Operation
import WirelessSelection.Proofs.SeenFlags
import WirelessSelection.Proofs.Hysteresis
import WirelessSelection.Proofs.Preference
import WirelessSelection.Proofs.Invariant
import WirelessSelection.Proofs.RoundTrip
import WirelessSelection.Proofs.Capture
import WirelessSelection.Proofs.Connectable
import WirelessSelection.Proofs.Replay
import WirelessSelection.Proofs.Restart
import WirelessSelection.Proofs.Choice
import WirelessSelection.Proofs.Displacement
import WirelessSelection.Proofs.Issuance
import WirelessSelection.Proofs.Acceptance
import WirelessSelection.Proofs.Footprint
import WirelessSelection.Proofs.Agreement
import WirelessSelection.Proofs.Noninterference
import WirelessSelection.Proofs.Repetition
import WirelessSelection.Proofs.Transcript
import WirelessSelection.Proofs.Store.Recording
import WirelessSelection.Proofs.Store.Likeness
import WirelessSelection.Proofs.Readiness
import WirelessSelection.Proofs.Resilience
import WirelessSelection.Proofs.Lookup
import WirelessSelection.Proofs.Decay
import WirelessSelection.Proofs.PickTime
import WirelessSelection.Proofs.Candidates
import WirelessSelection.Proofs.Failure
import WirelessSelection.Proofs.FanOut
import WirelessSelection.Proofs.Overlay
import WirelessSelection.Proofs.Unsaved
import WirelessSelection.Proofs.Monotonicity
import WirelessSelection.Proofs.Provision
import WirelessSelection.Proofs.Truncation
import WirelessSelection.Proofs.Identity
import WirelessSelection.Proofs.Atomicity
import WirelessSelection.Proofs.Turns
import WirelessSelection.Proofs.Registration
import WirelessSelection.Proofs.Accounting
import WirelessSelection.Proofs.AddressText
import WirelessSelection.Proofs.Json.Arrangement
import WirelessSelection.Proofs.Json.Scenario
