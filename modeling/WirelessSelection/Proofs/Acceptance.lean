import WirelessSelection.Proofs.Invariant

/-! Which tables are read from bytes. Reading looks at the ids in use and at the counter alone. -/

namespace WirelessSelection

namespace ProfileTable

variable {t : ProfileTable}

structure Coherent (t : ProfileTable) : Prop where
  id_eq {id p} : t.profiles.get? id = some p → p.id = id
  keys_nodup : (t.profiles.values.map Profile.key).Nodup
  lastPick_stored {pick} : t.lastPick = some pick → (t.profiles.get? pick.id).isSome

lemma WellFormed.coherent (h : t.WellFormed) : t.Coherent where
  id_eq := h.id_eq
  keys_nodup := h.keys_nodup
  lastPick_stored := h.lastPick_stored

lemma coherent_with_nextId (n : NetworkId) : Coherent { t with nextId := n } ↔ t.Coherent := by
  constructor
  · intro h
    exact ⟨h.id_eq, h.keys_nodup, h.lastPick_stored⟩
  · intro h
    exact ⟨h.id_eq, h.keys_nodup, h.lastPick_stored⟩

end ProfileTable

namespace Snapshot

lemma decode_eq_corrupted_iff {b : Bytes} :
    decode b = .error .corrupted ↔ ∀ t, Holds b t → NetworkId.last ∈ t.profiles.keys := by
  cases hd : decode b with
  | ok t' =>
    obtain ⟨t, ht, hrepair⟩ := decode_eq_ok_iff.mp hd
    have hlast := ProfileTable.exists_repair?_iff.mp ⟨t', hrepair⟩
    exact iff_of_false nofun fun h => hlast (h t ht)
  | error f =>
    have hf : f = .corrupted := by
      rw [decode] at hd
      split at hd
      · contradiction
      · exact (Except.error.inj hd).symm
    refine iff_of_true (by rw [hf]) ?_
    intro t ht
    by_contra hlast
    obtain ⟨t', hrepair⟩ := ProfileTable.exists_repair?_iff.mpr hlast
    rw [ht.decode_eq_ok_iff.mpr hrepair] at hd
    contradiction

theorem coherent_decode_iff (b : Bytes) :
    (decode b = .error .corrupted ↔ ∀ t, Holds b t → NetworkId.last ∈ t.profiles.keys) ∧
    (∀ t', decode b = .ok t' → t'.HasFreshId) ∧
    (∀ t, Holds b t → NetworkId.last ∉ t.profiles.keys →
      ∃ t', decode b = .ok t' ∧ t' = { t with nextId := t'.nextId } ∧ t.nextId ≤ t'.nextId ∧
        (t'.Coherent ↔ t.Coherent)) ∧
    ∀ t, Holds b t → t.Arises → decode b = .ok t ∧ t.Coherent := by
  refine ⟨decode_eq_corrupted_iff, fun t' => ProfileTable.hasFreshId_of_decode, ?_, ?_⟩
  · intro t ht hlast
    obtain ⟨t', hrepair⟩ := ProfileTable.exists_repair?_iff.mpr hlast
    obtain ⟨heq, hle⟩ := ProfileTable.eq_of_repair? hrepair
    refine ⟨t', ht.decode_eq_ok_iff.mpr hrepair, heq, hle, ?_⟩
    rw [heq]
    exact ProfileTable.coherent_with_nextId t'.nextId
  · intro t ht harises
    have hwf := harises.reachable.wellFormed
    exact ⟨ht.decode_eq_ok_iff.mpr hwf.hasFreshId.repair?_eq, hwf.coherent⟩

theorem coherent_decode_iff_picked :
    let t := (Operation.markPicked 1 7).run Sample.table
    let stale := { t with nextId := 0 }
    let b := encode stale ++ [255]
    Holds b stale ∧ NetworkId.last ∉ stale.profiles.keys ∧ ¬ stale.HasFreshId ∧
      ∃ t', decode b = .ok t' ∧ t'.HasFreshId ∧ t'.Coherent := by
  intro t stale b
  have hb : Holds b stale := holds_encode_append stale [255]
  have hlast : NetworkId.last ∉ stale.profiles.keys := by decide
  have ht : t.Arises :=
    .operation (.operation (.operation .empty (.add "home" .psk)) (.add "office" .psk)) _
  obtain ⟨-, -, -, hwritten⟩ := coherent_decode_iff (encode t ++ [])
  have hstale : stale.Coherent :=
    (ProfileTable.coherent_with_nextId 0).mpr (hwritten t (holds_encode_append t []) ht).2
  obtain ⟨-, hfresh, hrestored, -⟩ := coherent_decode_iff b
  obtain ⟨t', hdecode, -, -, hiff⟩ := hrestored stale hb hlast
  exact ⟨hb, hlast, by decide, t', hdecode, hfresh t' hdecode, hiff.mpr hstale⟩

/-- Home is stored twice, or goes by another id than the one it is stored under, or was picked and
is not stored at all. -/
theorem not_coherent_of_decode :
    (∃ t, decode [1, 2, 0, 0, 4, 104, 111, 109, 101, 2, 0, 0, 0, 0, 0, 0,
        1, 1, 4, 104, 111, 109, 101, 2, 0, 0, 0, 0, 0, 0, 2, 0] = .ok t ∧
      ¬ (t.profiles.values.map Profile.key).Nodup) ∧
    (∃ t, decode [1, 1, 0, 7, 4, 104, 111, 109, 101, 2, 0, 0, 0, 0, 0, 0, 1, 0] = .ok t ∧
      ∃ p, t.profiles.get? 0 = some p ∧ p.id = 7 ∧ t.resolve Sample.home = some p ∧
        t.markPicked p.id 0 = .error (.unknownNetwork 7)) ∧
    ∃ t, decode [1, 0, 0, 1, 0, 0] = .ok t ∧
      ∃ pick, t.lastPick = some pick ∧ t.profiles.get? pick.id = none := by
  let home (id : NetworkId) : Profile := { id, ssid := Sample.home.ssid, security := .psk }
  refine ⟨?_, ?_, ?_⟩
  · exact ⟨⟨.ofList [(0, home 0), (1, home 1)], 2, none⟩, by decide, by decide⟩
  · refine ⟨⟨.ofList [(0, home 7)], 1, none⟩, by decide, home 7, ?_⟩
    decide
  · exact ⟨⟨.empty, 0, some ⟨0, 0⟩⟩, by decide, ⟨0, 0⟩, by decide⟩

end Snapshot

end WirelessSelection
