import WirelessSelection.Proofs.Acceptance

/-! Snapshots that were cut short. What a reader accepts it accepts with any bytes behind it, so no
snapshot is the beginning of another one, in whatever spelling. -/

namespace WirelessSelection

lemma Format.read_eq_none_of_append {α : Type} {f : Format α} {a : α} {b t : Bytes}
    (h : f.read (b ++ t) = some (a, [])) (ht : t ≠ []) : f.read b = none := by
  cases hb : f.read b with
  | none => rfl
  | some r =>
    have hread : f.read (b ++ t) = some (r.1, r.2 ++ t) := f.read_append hb t
    rw [h, Option.some.injEq, Prod.mk.injEq] at hread
    exact absurd (List.append_eq_nil_iff.mp hread.2.symm).2 ht

namespace Snapshot

variable {b cut : Bytes} {t t' : ProfileTable}

def Spells (b : Bytes) (t : ProfileTable) : Prop :=
  ∃ body, b = version :: body ∧ table.read body = some (t, [])

lemma spells_encode (t : ProfileTable) : Spells (encode t) t := by
  have hread := table.read_write t []
  rw [List.append_nil] at hread
  exact ⟨table.write t, rfl, hread⟩

lemma Spells.not_holds_of_cut (h : Spells b t) (hcut : cut <+: b) (hne : cut ≠ b) :
    ¬ Holds cut t' := by
  rintro ⟨body, rest, rfl, hread⟩
  obtain ⟨whole, rfl, hwhole⟩ := h
  obtain ⟨missing, rfl⟩ := (List.cons_prefix_cons.mp hcut).2
  have hmissing : missing ≠ [] := by
    rintro rfl
    exact hne (by rw [List.append_nil])
  rw [Format.read_eq_none_of_append hwhole hmissing] at hread
  contradiction

lemma Spells.decode_of_cut (h : Spells b t) (hcut : cut <+: b) (hne : cut ≠ b) :
    decode cut = .error .corrupted :=
  decode_eq_corrupted_iff.mpr fun _ ht => absurd ht (h.not_holds_of_cut hcut hne)

theorem decode_of_strict_prefix :
    (∀ (t : ProfileTable) (cut : Bytes), cut <+: encode t → cut ≠ encode t →
      decode cut = .error .corrupted) ∧
    ∀ t : ProfileTable, t.Arises → ∀ rest, decode (encode t ++ rest) = .ok t := by
  constructor
  · intro t cut hcut hne
    exact (spells_encode t).decode_of_cut hcut hne
  · intro t ht rest
    have hfresh := ht.reachable.wellFormed.hasFreshId
    rw [decode, decode?_encode_append, hfresh.repair?_eq]

theorem decode_of_strict_prefix_picked :
    let seen := (Operation.select Sample.selector Sample.isDefault_selector
      (Sample.request .disconnected) 0).run Sample.table
    let t := (Operation.markPicked 1 600000).run ((Operation.choose 1 300).run seen)
    (encode t).length = 133 ∧ t.profiles.keys = [0, 1, 2] ∧ t.lastPick = some ⟨1, 600000⟩ ∧
      (∀ n ∈ [0, 60, 128, 132], decode ((encode t).take n) = .error .corrupted) ∧
      decode (encode t ++ [255]) = .ok t := by
  intro seen t
  have ht : t.Arises := .operation (.operation (.operation (.operation (.operation .empty
    (.add "home" .psk)) (.add "office" .psk)) _) _) _
  have hlength : (encode t).length = 133 := by decide +kernel
  have hlt : ∀ n ∈ [0, 60, 128, 132], n < (encode t).length := by
    rw [hlength]
    decide
  obtain ⟨hcut, hlong⟩ := decode_of_strict_prefix
  refine ⟨hlength, by decide, by decide, ?_, hlong t ht [255]⟩
  intro n hn
  refine hcut t _ (List.take_prefix n _) ?_
  intro heq
  have htaken := List.length_take_of_le (Nat.le_of_lt (hlt n hn))
  rw [heq] at htaken
  exact (hlt n hn).ne' htaken

end Snapshot

end WirelessSelection
