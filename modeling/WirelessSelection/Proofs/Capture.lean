import Mathlib.Data.List.Sublists
import WirelessSelection.Proofs.Identity

namespace WirelessSelection

lemma Capabilities.isOpen_ofString {s : String}
    (h : Security.ofCapabilities (ofString s) = .unsecured) : (ofString s).isOpen = true := by
  have hall : ∀ l ∈ tokens.sublists,
      Security.ofCapabilities (l.foldl (fun c t => c.union t.2) none) = .unsecured →
        (l.foldl (fun c t => c.union t.2) none).isOpen = true := by
    decide
  exact hall _ (List.mem_sublists.mpr List.filter_sublist) h

namespace Observation

def IsCaptured (o : Observation) : Prop :=
  ∃ ssid bssid frequency rssi capabilities timestamp,
    capture ssid bssid frequency rssi capabilities timestamp = .ok o

variable {o : Observation}

lemma isCaptured_iff : o.IsCaptured ↔ ∃ s, o.capabilities = .ofString s := by
  constructor
  · rintro ⟨ssid, bssid, frequency, rssi, capabilities, timestamp, h⟩
    rw [capture] at h
    cases hs : Ssid.parse ssid with
    | error f => simp [hs, bind, Except.bind] at h
    | ok name =>
      simp only [hs, bind, Except.bind, pure, Except.pure, Except.ok.injEq] at h
      exact ⟨capabilities, by rw [← h]⟩
  · rintro ⟨s, hs⟩
    refine ⟨o.ssid.text, o.bssid, o.frequency, o.rssi, s, o.timestamp, ?_⟩
    rw [capture, Ssid.parse_text, ← hs]
    rfl

lemma IsCaptured.isOpen_of_resolve (h : o.IsCaptured) {t : ProfileTable} (ht : t.WellFormed)
    {p : Profile} (hp : t.resolve o = some p) (he : p.ephemeral = true) : o.isOpen = true := by
  obtain ⟨hget, hmatch⟩ := ht.resolve_eq_some_iff.mp hp
  obtain ⟨s, hs⟩ := isCaptured_iff.mp h
  have hsec := (Profile.isMatch_iff.mp hmatch).2
  rw [ht.ephemeral_unsecured hget he, hs] at hsec
  rw [isOpen, hs]
  exact Capabilities.isOpen_ofString hsec.symm

end Observation

end WirelessSelection
