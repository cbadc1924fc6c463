import WirelessSelection.Proofs.Hysteresis
import WirelessSelection.Proofs.Selection

/-! What lets a round go on: more observations, a shorter blacklist, a later time and a weaker
signal of the current network never hold up one that would have gone on without them. -/

namespace WirelessSelection

lemma Millis.since_le_since {a a' : Millis} (h : a ≤ a') (b : Millis) : since a b ≤ since a' b := by
  rw [UInt64.le_iff_toNat_le] at h ⊢
  rw [toNat_since, toNat_since]
  omega

namespace Situation

variable {s s' : Situation} {settings : Settings}

structure LeavesRoom (s : Situation) (settings : Settings) : Prop where
  selects : settings.selectsWhileAssociated = true
  sees : s.seesCurrentBssid = true
  rested : s.tooRecent? settings = none
  insufficient : s.isSufficient settings = false

lemma associatedSkip?_eq_none_iff : s.associatedSkip? settings = none ↔ s.LeavesRoom settings := by
  rw [associatedSkip?]
  constructor
  · intro h
    split at h
    · contradiction
    split at h
    · contradiction
    split at h
    · contradiction
    split at h
    · contradiction
    next hselects hsees _ hrested hinsufficient =>
    exact ⟨by simpa using hselects, by simpa using hsees, hrested, by simpa using hinsufficient⟩
  · intro h
    simp [h.selects, h.sees, h.rested, h.insufficient]

lemma skip?_eq_none_iff : s.skip? settings = none ↔
    s.link = .disconnected ∨ s.link = .connected ∧ s.LeavesRoom settings := by
  rw [skip?]
  cases s.link <;> simp [associatedSkip?_eq_none_iff]

/-- A situation with the same association, in which no less is seen of other networks, no less time
has passed, and the current signal is no better. -/
structure Eases (s s' : Situation) : Prop where
  link_eq : s'.link = s.link
  current_eq : s'.current = s.current
  bssid_eq : s'.association.bssid = s.association.bssid
  frequency_eq : s'.association.frequency = s.association.frequency
  rssi_le : s'.association.rssi ≤ s.association.rssi
  usable_subset : s.usable ⊆ s'.usable
  lastSelection_eq : s'.lastSelection = s.lastSelection
  le_now : s.now ≤ s'.now

namespace Eases

lemma any_usable (h : s.Eases s') {f : Observation → Bool} (hs : s.usable.any f = true) :
    s'.usable.any f = true := by
  obtain ⟨o, ho, hf⟩ := List.any_eq_true.mp hs
  exact List.any_eq_true.mpr ⟨o, h.usable_subset ho, hf⟩

lemma band_eq (h : s.Eases s') : s'.association.band = s.association.band :=
  congrArg Band.ofFrequency h.frequency_eq

lemma seesCurrentBssid (h : s.Eases s') (hs : s.seesCurrentBssid = true) :
    s'.seesCurrentBssid = true := by
  rw [Situation.seesCurrentBssid] at hs ⊢
  rw [h.bssid_eq]
  cases hb : s.association.bssid with
  | none =>
    rw [hb] at hs
    contradiction
  | some b =>
    rw [hb] at hs
    exact h.any_usable hs

lemma offersFasterBand (h : s.Eases s') (hs : s.offersFasterBand = true) :
    s'.offersFasterBand = true := by
  rw [Situation.offersFasterBand, Bool.and_eq_true] at hs ⊢
  rw [h.band_eq]
  exact ⟨hs.1, h.any_usable hs.2⟩

lemma hasQualifiedSignal (h : s.Eases s') (hs : s.hasQualifiedSignal settings = false) :
    s'.hasQualifiedSignal settings = false := by
  rw [Situation.hasQualifiedSignal] at hs ⊢
  rw [h.band_eq]
  cases ht : settings.thresholds? s.association.band with
  | none =>
    rw [ht] at hs
    contradiction
  | some t =>
    rw [ht] at hs
    have hweak := of_decide_eq_false hs
    exact decide_eq_false fun hq => hweak (Int32.le_trans hq h.rssi_le)

lemma tooRecent?_eq_none (h : s.Eases s') (hs : s.tooRecent? settings = none) :
    s'.tooRecent? settings = none := by
  rw [Option.eq_none_iff_forall_ne_some]
  intro elapsed he
  obtain ⟨last, hlast, rfl, hlt⟩ := tooRecent?_eq_some_iff.mp he
  rw [h.lastSelection_eq] at hlast
  have hearlier := Millis.since_le_since h.le_now last
  have hsome := tooRecent?_eq_some_iff.mpr
    ⟨last, hlast, rfl, UInt64.lt_of_le_of_lt hearlier hlt⟩
  exact Option.some_ne_none _ (hsome.symm.trans hs)

lemma isSufficient (h : s.Eases s') (hs : s.isSufficient settings = false) :
    s'.isSufficient settings = false := by
  rw [Situation.isSufficient] at hs ⊢
  rw [h.current_eq]
  cases hp : s.current with
  | none => rfl
  | some p =>
    rw [hp] at hs
    simp only [Bool.and_eq_false_iff, Bool.not_eq_false'] at hs ⊢
    obtain (hkind | hfaster) | hweak := hs
    · exact .inl (.inl hkind)
    · exact .inl (.inr (h.offersFasterBand hfaster))
    · exact .inr (h.hasQualifiedSignal hweak)

lemma leavesRoom (h : s.Eases s') (hs : s.LeavesRoom settings) : s'.LeavesRoom settings where
  selects := hs.selects
  sees := h.seesCurrentBssid hs.sees
  rested := h.tooRecent?_eq_none hs.rested
  insufficient := h.isSufficient hs.insufficient

lemma skip?_eq_none (h : s.Eases s') (hs : s.skip? settings = none) : s'.skip? settings = none := by
  rw [skip?_eq_none_iff] at hs ⊢
  rw [h.link_eq]
  exact hs.imp_right fun ⟨hl, hroom⟩ => ⟨hl, h.leavesRoom hroom⟩

end Eases

end Situation

/-- A request of a device on the same access point that has seen no less, rules out no more and
receives its own network no better. Which untrusted networks it allows plays no part. -/
structure Request.Eases (req req' : Request) : Prop where
  link_eq : req'.link = req.link
  network_eq : req'.association.network = req.association.network
  bssid_eq : req'.association.bssid = req.association.bssid
  frequency_eq : req'.association.frequency = req.association.frequency
  rssi_le : req'.association.rssi ≤ req.association.rssi
  scan_subset : req.scan ⊆ req'.scan
  blacklist_subset : req'.blacklist ⊆ req.blacklist

namespace Selector

variable {σ : Type} [ProfileStore σ] {sel : Selector σ} {req req' : Request} {now now' : Millis}

lemma usable_subset_of_eases {σ : Type} {sel : Selector σ} (h : req.Eases req') :
    sel.usable req ⊆ sel.usable req' := by
  intro o ho
  obtain ⟨hscanned, hnamed, hunlisted, haudible⟩ := mem_usable_iff.mp ho
  exact mem_usable_iff.mpr
    ⟨h.scan_subset hscanned, hnamed, fun hb => hunlisted (h.blacklist_subset hb), haudible⟩

lemma situation_eases (h : req.Eases req') (hnow : now ≤ now') (store : σ) :
    (sel.situation req (sel.usable req) now store).Eases
      (sel.situation req' (sel.usable req') now' store) where
  link_eq := h.link_eq
  current_eq := congrArg (·.bind (ProfileStore.profile? store)) h.network_eq
  bssid_eq := h.bssid_eq
  frequency_eq := h.frequency_eq
  rssi_le := h.rssi_le
  usable_subset := usable_subset_of_eases h
  lastSelection_eq := rfl
  le_now := hnow

lemma skip?_eq_none_of_eases (h : req.Eases req') (hnow : now ≤ now') {store : σ}
    (hs : sel.skip? req (sel.usable req) now store = none) :
    sel.skip? req' (sel.usable req') now' store = none := by
  rw [skip?] at hs ⊢
  split at hs
  · contradiction
  · next hsome =>
    rw [if_neg]
    · exact (situation_eases h hnow store).skip?_eq_none hs
    · rw [List.isEmpty_iff] at hsome ⊢
      intro hnil
      have hsubset : sel.usable req ⊆ sel.usable req' := usable_subset_of_eases h
      rw [hnil] at hsubset
      exact hsome (List.subset_nil.mp hsubset)

theorem isCompleted_of_eases (h : sel.IsDefault) (he : req.Eases req') (hnow : now ≤ now')
    {store : σ} (hc : (sel.select req now store).isCompleted = true) :
    (sel.select req' now' store).isCompleted = true := by
  -- The update of the default evaluators does not look at the scan.
  have hupdate : sel.panel.update req'.scan store = sel.panel.update req.scan store := by
    rw [h.update_eq, h.update_eq]
    rfl
  rw [isCompleted_select, Option.isNone_iff_eq_none] at hc ⊢
  rw [hupdate]
  exact skip?_eq_none_of_eases he hnow hc

theorem isCompleted_of_eases_home :
    let sel := { Sample.selector with memory := { lastSelection := some 0 } }
    let req : Request := {
      scan := [Sample.home, Sample.office]
      blacklist := [Sample.office.bssid]
      association := ⟨some 0, some Sample.home.bssid, 2412, -74⟩
      link := .connected }
    let req' : Request := {
      scan := [{ Sample.cafe with frequency := 5180 }, Sample.office, Sample.home]
      association := ⟨some 0, some Sample.home.bssid, 2412, -80⟩
      link := .connected
      untrustedAllowed := true }
    req.Eases req' ∧ (sel.select req 10000 Sample.table).isCompleted = true ∧
      (sel.select req' 10001 Sample.table).isCompleted = true ∧
      (sel.select req 9999 Sample.table).isCompleted = false := by
  intro sel req req'
  have hdefault : sel.IsDefault := ⟨{}, rfl⟩
  have heases : req.Eases req' := by
    constructor <;> decide
  have hc : (sel.select req 10000 Sample.table).isCompleted = true := by decide
  exact ⟨heases, hc, isCompleted_of_eases hdefault heases (by decide) hc, by decide⟩

end Selector

end WirelessSelection
