import WirelessSelection.Proofs.Operation
import WirelessSelection.Proofs.Verdict

/-! Whatever a round returns can be connected to. The evaluators and the user's choices look at
profiles as they were at some point of the round, so each is followed to its record at the end. -/

namespace WirelessSelection

structure Observation.Passes (o : Observation) (req : Request) (settings : Settings) : Prop where
  scanned : o ∈ req.scan
  named : o.ssid.text ≠ ""
  unlisted : o.bssid ∉ req.blacklist
  audible {th} : settings.thresholds? o.band = some th → th.floor ≤ o.rssi

lemma Observation.isBelowFloor_eq_false_iff {o : Observation} {settings : Settings} :
    o.isBelowFloor settings = false ↔
      ∀ th, settings.thresholds? o.band = some th → th.floor ≤ o.rssi := by
  rw [isBelowFloor]
  cases settings.thresholds? o.band with
  | none => simp
  | some th => simp [Int32.not_lt]

lemma Observation.dropReason?_eq_none_iff {o : Observation} {blacklist : List Bssid}
    {settings : Settings} : o.dropReason? blacklist settings = none ↔
      o.ssid.text ≠ "" ∧ o.bssid ∉ blacklist ∧
        ∀ th, settings.thresholds? o.band = some th → th.floor ≤ o.rssi := by
  have hn : o.ssid.isHidden = true ↔ o.ssid.text = "" := String.isEmpty_iff
  rw [← isBelowFloor_eq_false_iff, dropReason?]
  split
  · simp_all
  split
  · simp_all
  split <;> simp_all

lemma Override.chosen?_eq_some_iff {σ : Type} [ProfileStore σ] {store : σ} {proposal n : Profile}
    {connectable : List Pairing} : chosen? store proposal connectable = some n ↔
      ∃ choice q, choice? store proposal = some choice ∧
        connectable.find? (fun q => q.profile.id ≠ proposal.id && q.profile.key = choice.key) =
          some q ∧
        (ProfileStore.profile? store q.profile.id).getD q.profile = n ∧ n.isEnabled = true := by
  rw [chosen?]
  simp only [bind, Option.bind_eq_some_iff, Option.ite_none_right_eq_some, Option.some.injEq]
  constructor
  · rintro ⟨choice, hc, q, hq, he, rfl⟩
    exact ⟨choice, q, hc, hq, rfl, he⟩
  · rintro ⟨choice, q, hc, hq, rfl, he⟩
    exact ⟨choice, hc, q, hq, he, rfl⟩

namespace Selector

variable {sel : Selector ProfileTable} {t : ProfileTable} {req : Request} {now : Millis}

lemma mem_usable_iff {σ : Type} {sel : Selector σ} {o : Observation} :
    o ∈ sel.usable req ↔ o.Passes req sel.settings := by
  rw [usable, Screening.ofScan, List.mem_filter, decide_eq_true_eq,
    Observation.dropReason?_eq_none_iff]
  constructor
  · rintro ⟨hs, hn, hb, hf⟩
    exact ⟨hs, hn, hb, hf _⟩
  · rintro ⟨hs, hn, hb, hf⟩
    exact ⟨hs, hn, hb, fun _ => hf⟩

lemma connectable_of_not_isCompleted (h : (sel.select req now t).isCompleted = false) :
    (sel.select req now t).memory.connectable = [] ∧ (sel.select req now t).candidate = none := by
  obtain ⟨reason, -, hs⟩ := select_of_not_isCompleted h
  rw [hs]
  exact ⟨rfl, rfl⟩

lemma settle_mem {usable : List Observation} {connectable : List Pairing}
    (hb : ∀ q ∈ connectable, q.Backed usable t) {q : Pairing} (hq : q ∈ connectable) :
    ∃ q' ∈ connectable,
      t.profiles.get? q'.profile.id = some (settle t connectable q.profile).1 := by
  have hrecord {q : Pairing} (hq : q ∈ connectable) : t.profiles.get? q.profile.id =
      some ((ProfileStore.profile? t q.profile.id).getD q.profile) := by
    obtain ⟨p, hp, -⟩ := (hb q hq).stored
    rw [ProfileTable.profile?_eq, hp, Option.getD_some]
  rw [settle]
  cases hc : Override.chosen? t q.profile connectable with
  | none => exact ⟨q, hq, hrecord hq⟩
  | some n =>
    obtain ⟨choice, q', -, hfind, rfl, -⟩ := Override.chosen?_eq_some_iff.mp hc
    exact ⟨q', List.mem_of_find?_eq_some hfind, hrecord (List.mem_of_find?_eq_some hfind)⟩

namespace IsDefault

lemma backed_of_mem_connectable (h : sel.IsDefault) (ht : t.WellFormed) {q : Pairing}
    (hq : q ∈ (sel.select req now t).memory.connectable) :
    q.Backed (sel.usable req) (sel.select req now t).store ∧
      (q.profile.ephemeral = true → req.untrustedAllowed = true) := by
  cases hc : (sel.select req now t).isCompleted with
  | false =>
    rw [(connectable_of_not_isCompleted hc).1] at hq
    exact absurd hq List.not_mem_nil
  | true =>
    rw [select_of_isCompleted hc] at hq ⊢
    have hup := ht.writes (h.within.update_writes req.scan t)
    obtain ⟨hb, hallowed⟩ := h.backed_of_mem hup hq
    have hwf := hup.writes (h.within.evaluate_writes (sel.usable req) (sel.context req now) _)
    rw [complete_store]
    exact ⟨hb.of_extends (.of_writes hwf (refreshSeen_ofRound _ _)), hallowed⟩

lemma candidate_mem_connectable (h : sel.IsDefault) (ht : t.WellFormed) {n : Profile}
    (hn : (sel.select req now t).candidate = some n) :
    ∃ q ∈ (sel.select req now t).memory.connectable,
      (sel.select req now t).store.profiles.get? q.profile.id = some n := by
  cases hc : (sel.select req now t).isCompleted with
  | false =>
    rw [(connectable_of_not_isCompleted hc).2] at hn
    contradiction
  | true =>
    have hback (q : Pairing) (hq : q ∈ (sel.select req now t).memory.connectable) :
        q.Backed (sel.usable req) (sel.select req now t).store :=
      (h.backed_of_mem_connectable ht hq).1
    rw [candidate_of_isCompleted hc] at hn
    obtain ⟨p, hp, rfl⟩ := Option.map_eq_some_iff.mp hn
    obtain ⟨q, hq, rfl⟩ := h.candidate_mem (ht.writes (h.within.update_writes req.scan t)) hp
    rw [← verdict, ← connectable_of_isCompleted hc] at hq
    exact settle_mem hback hq

end IsDefault

theorem select_sound (ht : t.Reachable) (h : sel.IsDefault) (req : Request) (now : Millis) :
    let r := sel.select req now t
    (∀ n, r.candidate = some n →
      r.store.profiles.get? n.id = some n ∧ n.isEnabled = true ∧
      n.id ∈ r.memory.connectable.map (·.profile.id) ∧
      (∃ o : Observation, o.Passes req sel.settings ∧ n.isMatch o = true) ∧
      (n.ephemeral = true → req.untrustedAllowed = true)) ∧
    ∀ q ∈ r.memory.connectable,
      q.observation.Passes req sel.settings ∧ q.profile.isMatch q.observation = true := by
  intro r
  have hwf := ht.wellFormed
  refine ⟨?_, ?_⟩
  · intro n hn
    obtain ⟨q, hq, hget⟩ := h.candidate_mem_connectable hwf hn
    obtain ⟨hb, hallowed⟩ := h.backed_of_mem_connectable hwf hq
    have hcore := hb.core_eq hget
    have hid : n.id = q.profile.id := Profile.id_eq_of_core hcore
    refine ⟨hid ▸ hget, ?_, ?_, ⟨q.observation, mem_usable_iff.mp hb.mem, ?_⟩, ?_⟩
    · exact (Profile.isEnabled_eq_of_core hcore).trans hb.isEnabled
    · exact hid ▸ List.mem_map_of_mem hq
    · exact (Profile.isMatch_eq_of_core hcore _).trans hb.isMatch
    · intro he
      exact hallowed ((Profile.ephemeral_eq_of_core hcore).symm.trans he)
  · intro q hq
    have hb := (h.backed_of_mem_connectable hwf hq).1
    exact ⟨mem_usable_iff.mp hb.mem, hb.isMatch⟩

theorem select_sound_sample :
    let r := Sample.selector.select (Sample.request .disconnected) 0 Sample.table
    ∃ n, r.candidate = some n ∧ r.store.profiles.get? n.id = some n ∧ n.isEnabled = true ∧
      n.id ∈ r.memory.connectable.map (·.profile.id) := by
  intro r
  have hsome : r.candidate.isSome = true := by decide
  obtain ⟨n, hn⟩ := Option.isSome_iff_exists.mp hsome
  have hsound := select_sound Sample.reachable_table Sample.isDefault_selector
    (Sample.request .disconnected) 0
  obtain ⟨hget, hen, hmem, -⟩ := hsound.1 n hn
  exact ⟨n, hn, hget, hen, hmem⟩

end Selector

end WirelessSelection
