import WirelessSelection.Proofs.Store.WellFormed
import WirelessSelection.Store.Snapshot

namespace WirelessSelection

namespace Snapshot

variable {b : Bytes} {t t' : ProfileTable}

/-- What a table is written as, in any of its spellings, and then any bytes at all. -/
def Holds (b : Bytes) (t : ProfileTable) : Prop :=
  ∃ body rest, b = version :: body ∧ table.read body = some (t, rest)

lemma holds_encode_append (t : ProfileTable) (rest : Bytes) : Holds (encode t ++ rest) t :=
  ⟨table.write t ++ rest, rest, rfl, table.read_write t rest⟩

lemma Holds.eq (h : Holds b t) (h' : Holds b t') : t = t' := by
  obtain ⟨body, rest, rfl, hread⟩ := h
  obtain ⟨body', rest', hb, hread'⟩ := h'
  obtain rfl := List.tail_eq_of_cons_eq hb
  rw [hread, Option.some.injEq, Prod.mk.injEq] at hread'
  exact hread'.1

lemma decode_eq_ok_iff : decode b = .ok t' ↔ ∃ t, Holds b t ∧ repair? t = some t' := by
  cases b with
  | nil => simp [decode, decode?, Holds]
  | cons v body =>
    rw [decode, decode?]
    by_cases hv : v = version
    · cases hr : table.read body with
      | none => simp [Holds, hv, hr]
      | some r =>
        obtain ⟨t, rest⟩ := r
        cases hrep : repair? t <;> simp [Holds, hv, hr, hrep]
    · simp [Holds, hv]

lemma Holds.decode_eq_ok_iff (h : Holds b t) : decode b = .ok t' ↔ repair? t = some t' := by
  rw [Snapshot.decode_eq_ok_iff]
  constructor
  · rintro ⟨t₁, h₁, hrepair⟩
    rwa [h.eq h₁]
  · intro hrepair
    exact ⟨t, h, hrepair⟩

end Snapshot

namespace ProfileTable

variable {t t' : ProfileTable}

def HasFreshId (t : ProfileTable) : Prop :=
  ∀ id ∈ t.profiles.keys, id < t.nextId

instance (t : ProfileTable) : Decidable t.HasFreshId :=
  List.decidableBAll (· < t.nextId) t.profiles.keys

lemma WellFormed.hasFreshId (h : t.WellFormed) : t.HasFreshId := by
  intro id hid
  obtain ⟨p, hp⟩ := Option.isSome_iff_exists.mp (IdMap.mem_keys_iff.mp hid)
  exact h.lt_nextId hp

lemma lt_last_of_ne {n : NetworkId} (h : n ≠ NetworkId.last) : n < NetworkId.last := by
  refine UInt32.lt_of_le_of_ne (UInt32.le_iff_toNat_le.mpr ?_) h
  exact Nat.le_of_lt_succ n.toNat_lt

lemma repair?_eq_some_iff : Snapshot.repair? t = some t' ↔
    (t.profiles.lastKey? = none ∧ t' = t) ∨
      ∃ last, t.profiles.lastKey? = some last ∧ last < NetworkId.last ∧
        t' = { t with nextId := if t.nextId ≤ last + 1 then last + 1 else t.nextId } := by
  rw [Snapshot.repair?]
  cases hl : t.profiles.lastKey? with
  | none => simp [eq_comm]
  | some last =>
    change (if last = NetworkId.last then none else some { t with
      nextId := if t.nextId ≤ last + 1 then last + 1 else t.nextId }) = some t' ↔ _
    by_cases h : last = NetworkId.last
    · simp [h, UInt32.lt_irrefl]
    · simp [h, lt_last_of_ne h, eq_comm]

lemma exists_repair?_iff :
    (∃ t', Snapshot.repair? t = some t') ↔ NetworkId.last ∉ t.profiles.keys := by
  constructor
  · rintro ⟨t', h⟩ hm
    obtain ⟨hl, -⟩ | ⟨last, hl, hlast, -⟩ := repair?_eq_some_iff.mp h
    · rw [IdMap.keys_of_lastKey?_eq_none hl] at hm
      contradiction
    · exact UInt32.lt_irrefl _ (UInt32.lt_of_lt_of_le hlast (IdMap.le_of_lastKey? hl hm))
  · intro h
    cases hl : t.profiles.lastKey? with
    | none => exact ⟨_, repair?_eq_some_iff.mpr (.inl ⟨hl, rfl⟩)⟩
    | some last =>
      have hlast : last ≠ NetworkId.last := fun he => h (he ▸ List.mem_of_getLast? hl)
      exact ⟨_, repair?_eq_some_iff.mpr (.inr ⟨last, hl, lt_last_of_ne hlast, rfl⟩)⟩

lemma eq_of_repair? (h : Snapshot.repair? t = some t') :
    t' = { t with nextId := t'.nextId } ∧ t.nextId ≤ t'.nextId := by
  obtain ⟨-, rfl⟩ | ⟨last, -, -, rfl⟩ := repair?_eq_some_iff.mp h
  · exact ⟨rfl, UInt32.le_refl _⟩
  · refine ⟨rfl, ?_⟩
    split
    · assumption
    · exact UInt32.le_refl _

lemma hasFreshId_of_repair? (h : Snapshot.repair? t = some t') : t'.HasFreshId := by
  intro id hid
  obtain ⟨hl, rfl⟩ | ⟨last, hl, hlast, rfl⟩ := repair?_eq_some_iff.mp h
  · rw [IdMap.keys_of_lastKey?_eq_none hl] at hid
    contradiction
  · have hlt := UInt32.lt_of_le_of_lt (IdMap.le_of_lastKey? hl hid) (lt_succ_of_lt_last hlast)
    split
    · exact hlt
    · next hn => exact UInt32.lt_trans hlt (UInt32.not_le.mp hn)

lemma HasFreshId.repair?_eq (h : t.HasFreshId) : Snapshot.repair? t = some t := by
  rw [repair?_eq_some_iff]
  cases hl : t.profiles.lastKey? with
  | none => exact .inl ⟨rfl, rfl⟩
  | some last =>
    have hlt := UInt32.lt_iff_toNat_lt.mp (h last (List.mem_of_getLast? hl))
    have hbound := t.nextId.toNat_lt
    have hlast : last < NetworkId.last := by
      refine lt_last_of_ne ?_
      rintro rfl
      have : NetworkId.last.toNat = 4294967295 := rfl
      omega
    have hsucc : (last + 1).toNat = last.toNat + 1 := by
      rw [UInt32.toNat_add]
      simp only [UInt32.reduceToNat]
      omega
    refine .inr ⟨last, rfl, hlast, ?_⟩
    split
    · next hle =>
      rw [UInt32.le_iff_toNat_le] at hle
      have heq : t.nextId = last + 1 := UInt32.toNat_inj.mp (by omega)
      rw [← heq]
    · rfl

lemma hasFreshId_of_decode {b : Bytes} (h : Snapshot.decode b = .ok t) : t.HasFreshId := by
  obtain ⟨_, -, hrepair⟩ := Snapshot.decode_eq_ok_iff.mp h
  exact hasFreshId_of_repair? hrepair

lemma decode_encode_eq_ok_iff :
    Snapshot.decode (Snapshot.encode t) = .ok t' ↔ Snapshot.repair? t = some t' := by
  have h := Snapshot.holds_encode_append t []
  rw [List.append_nil] at h
  exact h.decode_eq_ok_iff

lemma HasFreshId.decode_encode (h : t.HasFreshId) :
    Snapshot.decode (Snapshot.encode t) = .ok t :=
  decode_encode_eq_ok_iff.mpr h.repair?_eq

end ProfileTable

end WirelessSelection
