import WirelessSelection.Proofs.Store.Entries
import WirelessSelection.Store.Table

namespace WirelessSelection

namespace ProfileTable

structure WellFormed (t : ProfileTable) : Prop where
  id_eq {id p} : t.profiles.get? id = some p → p.id = id
  key_injective {i j p q} : t.profiles.get? i = some p → t.profiles.get? j = some q →
    p.key = q.key → i = j
  ephemeral_unsecured {id p} : t.profiles.get? id = some p → p.ephemeral = true →
    p.security = .unsecured
  lt_nextId {id p} : t.profiles.get? id = some p → id < t.nextId
  candidate_scored {id p} : t.profiles.get? id = some p →
    p.status.candidate.isSome = p.status.score.isSome
  lastPick_stored {pick} : t.lastPick = some pick → (t.profiles.get? pick.id).isSome

variable {t t' : ProfileTable}

lemma empty_wellFormed : empty.WellFormed := by
  constructor <;> intros <;> contradiction

lemma find?_eq_none_iff {key : ProfileKey} :
    t.find? key = none ↔ ∀ id p, t.profiles.get? id = some p → p.key ≠ key := by
  rw [find?, List.find?_eq_none]
  constructor
  · intro h id p hp
    simpa using h (id, p) (IdMap.mem_entries_iff.mpr hp)
  · intro h e he
    simpa using h e.1 e.2 (IdMap.mem_entries_iff.mp he)

lemma get?_of_find? {key : ProfileKey} {id : NetworkId} {p : Profile}
    (h : t.find? key = some (id, p)) : t.profiles.get? id = some p ∧ p.key = key :=
  ⟨IdMap.mem_entries_iff.mp (List.mem_of_find?_eq_some h), by simpa using List.find?_some h⟩

lemma WellFormed.find?_eq_some_iff (h : t.WellFormed) {key : ProfileKey} {id : NetworkId}
    {p : Profile} : t.find? key = some (id, p) ↔ t.profiles.get? id = some p ∧ p.key = key := by
  refine ⟨get?_of_find?, ?_⟩
  rintro ⟨hp, hk⟩
  cases hf : t.find? key with
  | none => exact absurd hk (find?_eq_none_iff.mp hf id p hp)
  | some e =>
    obtain ⟨he, hek⟩ := get?_of_find? hf
    obtain rfl : e.1 = id := h.key_injective he hp (hek.trans hk.symm)
    obtain rfl : e.2 = p := Option.some.inj (he.symm.trans hp)
    rfl

lemma WellFormed.mem_values_iff (h : t.WellFormed) {p : Profile} :
    p ∈ t.profiles.values ↔ t.profiles.get? p.id = some p := by
  rw [IdMap.mem_values_iff]
  constructor
  · rintro ⟨id, hp⟩
    rwa [h.id_eq hp]
  · intro hp
    exact ⟨p.id, hp⟩

lemma WellFormed.resolve_eq_some_iff (h : t.WellFormed) {o : Observation} {p : Profile} :
    t.resolve o = some p ↔ t.profiles.get? p.id = some p ∧ p.isMatch o = true := by
  simp only [resolve, Option.map_eq_some_iff, Profile.isMatch, decide_eq_true_eq]
  constructor
  · rintro ⟨⟨id, q⟩, hf, rfl⟩
    obtain ⟨hp, hk⟩ := h.find?_eq_some_iff.mp hf
    exact ⟨(h.id_eq hp).symm ▸ hp, hk⟩
  · intro hp
    exact ⟨(p.id, p), h.find?_eq_some_iff.mpr hp, rfl⟩

lemma mem_values_of_resolve {o : Observation} {p : Profile} (h : t.resolve o = some p) :
    p ∈ t.profiles.values := by
  obtain ⟨e, he, rfl⟩ := Option.map_eq_some_iff.mp h
  exact List.mem_map_of_mem (List.mem_of_find?_eq_some he)

lemma resolve_eq_none_iff {o : Observation} :
    t.resolve o = none ↔ t.find? (.ofObservation o) = none :=
  Option.map_eq_none_iff

structure Harmless (f : Profile → Profile) : Prop where
  id (p) : (f p).id = p.id
  ssid (p) : (f p).ssid = p.ssid
  security (p) : (f p).security = p.security
  ephemeral (p) : (f p).ephemeral = true → p.ephemeral = true
  candidate (p) : p.status.candidate.isSome = p.status.score.isSome →
    (f p).status.candidate.isSome = (f p).status.score.isSome

lemma Harmless.key {f : Profile → Profile} (hf : Harmless f) (p : Profile) : (f p).key = p.key := by
  rw [Profile.key, Profile.key, hf.ssid, hf.security]

lemma harmless_apply (c : Change) : Harmless (·.apply c) where
  id _ := rfl
  ssid _ := rfl
  security _ := rfl
  ephemeral _ h := h
  candidate p h := by
    cases c with
    | recordCandidate | clearCandidate => rfl
    | setEnabled | setChoice | clearChoice | setSeen => exact h

lemma harmless_setAvailability (a : Availability) :
    Harmless fun p => { p with status := { p.status with availability := a } } where
  id _ := rfl
  ssid _ := rfl
  security _ := rfl
  ephemeral _ h := h
  candidate _ h := h

lemma harmless_save : Harmless fun p => { p with ephemeral := false } where
  id _ := rfl
  ssid _ := rfl
  security _ := rfl
  ephemeral _ h := by contradiction
  candidate _ h := h

lemma get?_modify_cases {id i : NetworkId} {f : Profile → Profile} {p : Profile}
    (h : (t.profiles.modify id f).get? i = some p) :
    ∃ q, t.profiles.get? i = some q ∧ (p = f q ∨ p = q) := by
  rw [IdMap.get?_modify] at h
  split at h
  · obtain ⟨q, hq, rfl⟩ := Option.map_eq_some_iff.mp h
    exact ⟨q, ‹i = id› ▸ hq, .inl rfl⟩
  · exact ⟨p, h, .inr rfl⟩

lemma WellFormed.modify (h : t.WellFormed) (id : NetworkId) {f : Profile → Profile}
    (hf : Harmless f) : WellFormed { t with profiles := t.profiles.modify id f } where
  id_eq hp := by
    obtain ⟨q, hq, rfl | rfl⟩ := get?_modify_cases hp
    · exact (hf.id q).trans (h.id_eq hq)
    · exact h.id_eq hq
  key_injective {i j p q} hp hq hk := by
    have hkey {k : NetworkId} {r : Profile} (hr : (t.profiles.modify id f).get? k = some r) :
        ∃ s, t.profiles.get? k = some s ∧ r.key = s.key := by
      obtain ⟨s, hs, rfl | rfl⟩ := get?_modify_cases hr
      · exact ⟨s, hs, hf.key s⟩
      · exact ⟨_, hs, rfl⟩
    obtain ⟨p', hp', hpk⟩ := hkey hp
    obtain ⟨q', hq', hqk⟩ := hkey hq
    exact h.key_injective hp' hq' (hpk.symm.trans (hk.trans hqk))
  ephemeral_unsecured hp he := by
    obtain ⟨q, hq, rfl | rfl⟩ := get?_modify_cases hp
    · exact (hf.security q).trans (h.ephemeral_unsecured hq (hf.ephemeral q he))
    · exact h.ephemeral_unsecured hq he
  lt_nextId hp := by
    obtain ⟨q, hq, -⟩ := get?_modify_cases hp
    exact h.lt_nextId hq
  candidate_scored hp := by
    obtain ⟨q, hq, rfl | rfl⟩ := get?_modify_cases hp
    · exact hf.candidate q (h.candidate_scored hq)
    · exact h.candidate_scored hq
  lastPick_stored {pick} hp := by
    have := h.lastPick_stored hp
    rw [IdMap.get?_modify]
    split
    · rwa [Option.isSome_map]
    · exact this

lemma lt_succ_of_lt_last {n : NetworkId} (h : n < NetworkId.last) : n < n + 1 := by
  rw [UInt32.lt_iff_toNat_lt] at h ⊢
  have hlast : NetworkId.last.toNat = 4294967295 := rfl
  rw [UInt32.toNat_add]
  simp only [UInt32.reduceToNat]
  omega

lemma append_eq_ok_iff {p : Profile} :
    t.append p = .ok t' ↔ t.nextId < NetworkId.last ∧
      t' = { t with profiles := t.profiles.insert t.nextId p, nextId := t.nextId + 1 } := by
  rw [append, allocate]
  by_cases h : t.nextId < NetworkId.last
  · simp [h, bind, Except.bind, pure, Except.pure, eq_comm]
  · simp [h, bind, Except.bind]

lemma WellFormed.append (h : t.WellFormed) {p : Profile} (ht : t.append p = .ok t')
    (hid : p.id = t.nextId) (hkey : t.find? p.key = none)
    (hsec : p.ephemeral = true → p.security = .unsecured)
    (hscore : p.status.candidate.isSome = p.status.score.isSome) : t'.WellFormed := by
  obtain ⟨hlast, rfl⟩ := append_eq_ok_iff.mp ht
  have hcases {i : NetworkId} {q : Profile}
      (hq : (t.profiles.insert t.nextId p).get? i = some q) :
      i = t.nextId ∧ q = p ∨ t.profiles.get? i = some q := by
    rw [IdMap.get?_insert] at hq
    split at hq
    · exact .inl ⟨‹_›, (Option.some.inj hq).symm⟩
    · exact .inr hq
  have hnew := find?_eq_none_iff.mp hkey
  constructor
  case id_eq =>
    intro i q hq
    obtain ⟨rfl, rfl⟩ | hq := hcases hq
    · exact hid
    · exact h.id_eq hq
  case key_injective =>
    intro i j q r hq hr hk
    obtain ⟨hi, hqp⟩ | hq' := hcases hq <;> obtain ⟨hj, hrp⟩ | hr' := hcases hr
    · exact hi.trans hj.symm
    · exact absurd (hqp ▸ hk.symm) (hnew j r hr')
    · exact absurd (hrp ▸ hk) (hnew i q hq')
    · exact h.key_injective hq' hr' hk
  case ephemeral_unsecured =>
    intro i q hq he
    obtain ⟨-, rfl⟩ | hq := hcases hq
    · exact hsec he
    · exact h.ephemeral_unsecured hq he
  case lt_nextId =>
    intro i q hq
    obtain ⟨rfl, -⟩ | hq := hcases hq
    · exact lt_succ_of_lt_last hlast
    · exact UInt32.lt_trans (h.lt_nextId hq) (lt_succ_of_lt_last hlast)
  case candidate_scored =>
    intro i q hq
    obtain ⟨-, rfl⟩ | hq := hcases hq
    · exact hscore
    · exact h.candidate_scored hq
  case lastPick_stored =>
    intro pick hp
    have := h.lastPick_stored hp
    rw [IdMap.get?_insert]
    split
    · rfl
    · exact this

lemma add_cases {name : String} {security : Security} {id : NetworkId}
    (h : t.add name security = .ok (id, t')) :
    ∃ ssid, Ssid.parse name = .ok ssid ∧
      ((∃ slot p, t.find? (.derive ssid security) = some (slot, p) ∧ id = p.id ∧
          t' = { t with profiles := t.profiles.modify slot fun q => { q with ephemeral := false } }) ∨
        (t.find? (.derive ssid security) = none ∧ id = t.nextId ∧
          t.append { id := t.nextId, ssid, security } = .ok t')) := by
  rw [add, Profile.create] at h
  cases hs : Ssid.parse name with
  | error f => simp [hs, bind, Except.bind] at h
  | ok ssid =>
    refine ⟨ssid, rfl, ?_⟩
    simp only [hs, bind, Except.bind, pure, Except.pure, Profile.key] at h
    cases hf : t.find? (.derive ssid security) with
    | some e =>
      simp only [hf, Except.ok.injEq, Prod.mk.injEq] at h
      exact .inl ⟨e.1, e.2, rfl, h.1.symm, h.2.symm⟩
    | none =>
      simp only [hf] at h
      split at h
      · simp at h
      · next ht =>
        simp only [Except.ok.injEq, Prod.mk.injEq] at h
        obtain ⟨rfl, rfl⟩ := h
        exact .inr ⟨rfl, rfl, ht⟩

lemma WellFormed.add (h : t.WellFormed) {name : String} {security : Security} {id : NetworkId}
    (ht : t.add name security = .ok (id, t')) : t'.WellFormed := by
  obtain ⟨ssid, -, ⟨slot, p, -, -, rfl⟩ | ⟨hnew, -, ha⟩⟩ := add_cases ht
  · exact h.modify slot harmless_save
  · exact h.append ha rfl hnew (fun he => by contradiction) rfl

def untrusted (id : NetworkId) (o : Observation) : Profile where
  id
  ssid := o.ssid
  security := .unsecured
  ephemeral := true

lemma ofCapabilities_of_isOpen {o : Observation} (h : o.isOpen = true) :
    Security.ofCapabilities o.capabilities = .unsecured := by
  have hb : o.capabilities = ⟨0⟩ := by
    rw [Observation.isOpen, Capabilities.isOpen, beq_iff_eq] at h
    rw [← h]
  rw [hb]
  rfl

lemma untrusted_isMatch (id : NetworkId) {o : Observation} (h : o.isOpen = true) :
    (untrusted id o).key = .ofObservation o := by
  rw [ProfileKey.ofObservation, ofCapabilities_of_isOpen h]
  rfl

lemma createEphemeral_cases {o : Observation} {p : Profile}
    (h : t.createEphemeral o = .ok (p, t')) :
    o.isOpen = true ∧ ((t.resolve o = some p ∧ t' = t) ∨
      (t.resolve o = none ∧ p = untrusted t.nextId o ∧ t.append p = .ok t')) := by
  rw [createEphemeral] at h
  split at h
  · simp at h
  · next ho =>
    refine ⟨by simpa using ho, ?_⟩
    split at h
    · next q hq =>
      simp only [Except.ok.injEq, Prod.mk.injEq] at h
      exact .inl ⟨hq.trans (congrArg some h.1), h.2.symm⟩
    · next hq =>
      refine .inr ⟨hq, ?_⟩
      change (t.append (untrusted t.nextId o)).bind (fun a => .ok (untrusted t.nextId o, a)) = _ at h
      cases ht : t.append (untrusted t.nextId o) with
      | error f => simp [ht, Except.bind] at h
      | ok a =>
        simp only [ht, Except.bind, Except.ok.injEq, Prod.mk.injEq] at h
        obtain ⟨rfl, rfl⟩ := h
        exact ⟨rfl, ht⟩

lemma WellFormed.append_untrusted (h : t.WellFormed) {o : Observation} (ho : o.isOpen = true)
    (hr : t.resolve o = none) (ha : t.append (untrusted t.nextId o) = .ok t') :
    t'.WellFormed := by
  refine h.append ha rfl ?_ (fun _ => rfl) rfl
  rw [untrusted_isMatch _ ho]
  exact resolve_eq_none_iff.mp hr

lemma get?_of_remove {id i : NetworkId} {p : Profile}
    (hp : (t.remove id).2.profiles.get? i = some p) : t.profiles.get? i = some p := by
  rw [remove, IdMap.get?_erase] at hp
  split at hp
  · contradiction
  · exact hp

lemma WellFormed.remove (h : t.WellFormed) (id : NetworkId) : (t.remove id).2.WellFormed := by
  constructor
  case id_eq => exact fun hp => h.id_eq (get?_of_remove hp)
  case key_injective => exact fun hp hq => h.key_injective (get?_of_remove hp) (get?_of_remove hq)
  case ephemeral_unsecured => exact fun hp => h.ephemeral_unsecured (get?_of_remove hp)
  case lt_nextId => exact fun hp => h.lt_nextId (get?_of_remove hp)
  case candidate_scored => exact fun hp => h.candidate_scored (get?_of_remove hp)
  case lastPick_stored =>
    intro pick hp
    obtain ⟨hp, hne⟩ := Option.filter_eq_some_iff.mp hp
    have hstored := h.lastPick_stored hp
    rw [ProfileTable.remove, IdMap.get?_erase, if_neg (by simpa using hne)]
    exact hstored

lemma WellFormed.markPicked (h : t.WellFormed) {id : NetworkId} {timestamp : Millis}
    (ht : t.markPicked id timestamp = .ok t') : t'.WellFormed := by
  rw [ProfileTable.markPicked] at ht
  split at ht
  · next hc =>
    cases ht
    refine { h with lastPick_stored := ?_ }
    rintro pick ⟨⟩
    exact hc
  · contradiction

end ProfileTable

end WirelessSelection
