import WirelessSelection.Proofs.Invariant

namespace WirelessSelection

namespace Snapshot

theorem decode_encode_restores :
    (∀ t : ProfileTable, decode (encode t) = .ok t ↔ t.HasFreshId) ∧
    (∀ t : ProfileTable, t.Arises → t.HasFreshId) ∧
    ∀ (b : Bytes) (t : ProfileTable), decode b = .ok t →
      t.HasFreshId ∧ decode (encode t) = .ok t := by
  refine ⟨?_, fun t ht => ht.reachable.wellFormed.hasFreshId, ?_⟩
  · intro t
    constructor
    · intro h
      exact ProfileTable.hasFreshId_of_repair? (ProfileTable.decode_encode_eq_ok_iff.mp h)
    · exact ProfileTable.HasFreshId.decode_encode
  · intro b t h
    have ht := ProfileTable.hasFreshId_of_decode h
    exact ⟨ht, ht.decode_encode⟩

def fullTable : ProfileTable where
  profiles := .ofList [(4294967294,
    { id := 4294967294
      ssid := Sample.cafe.ssid
      security := .unsecured
      ephemeral := true
      status :=
        { availability := .temporarilyDisabled
          candidate := some Sample.cafe
          score := some Int32.minValue
          seen := true
          choice := some ⟨.ofObservation Sample.home, 18446744073709551615⟩ } })]
  nextId := 4294967295
  lastPick := some ⟨4294967294, 18446744073709551615⟩

theorem decode_encode_restores_fullTable :
    decode (encode fullTable) = .ok fullTable ∧
      decode (encode { fullTable with nextId := 0 } ++ [255]) = .ok fullTable ∧
      fullTable.HasFreshId := by
  have hstale : decode (encode { fullTable with nextId := 0 } ++ [255]) = .ok fullTable := by
    have hrepair : repair? { fullTable with nextId := 0 } = some fullTable := by decide
    rw [decode, decode?_encode_append, hrepair]
  have hfresh : fullTable.HasFreshId := by decide
  exact ⟨(decode_encode_restores.1 fullTable).mpr hfresh, hstale,
    (decode_encode_restores.2.2 _ _ hstale).1⟩

end Snapshot

end WirelessSelection
