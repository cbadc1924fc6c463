import WirelessSelection.Codec.Format

namespace WirelessSelection.Varint

def capacity : Nat → Nat
  | 0 => 1
  | limit + 1 => 128 * capacity limit

def writeGroups : Nat → Nat → Bytes
  | 0, _ => []
  | limit + 1, n =>
    if n < 128 then [UInt8.ofNat n] else UInt8.ofNat (n % 128 + 128) :: writeGroups limit (n / 128)

def readGroups : Nat → Bytes → Option (Nat × Bytes)
  | 0, _ => none
  | _, [] => none
  | limit + 1, b :: rest =>
    if b.toNat < 128 then some (b.toNat, rest)
    else do
      let (n, rest) ← readGroups limit rest
      return (b.toNat - 128 + 128 * n, rest)

theorem readGroups_writeGroups {limit n : Nat} (h : n < capacity limit) (hl : 0 < limit)
    (rest : Bytes) : readGroups limit (writeGroups limit n ++ rest) = some (n, rest) := by
  induction limit generalizing n with
  | zero => omega
  | succ limit ih =>
    unfold writeGroups
    split
    · next hn =>
      have : (UInt8.ofNat n).toNat = n :=
        UInt8.toNat_ofNat_of_lt' (by simp only [UInt8.size]; omega)
      simp [readGroups, this, hn]
    · next hn =>
      have hb : (UInt8.ofNat (n % 128 + 128)).toNat = n % 128 + 128 :=
        UInt8.toNat_ofNat_of_lt' (by simp only [UInt8.size]; omega)
      have hd : n / 128 < capacity limit := Nat.div_lt_of_lt_mul h
      have hp : 0 < limit := by
        rcases Nat.eq_zero_or_pos limit with rfl | hp
        · simp only [capacity] at hd
          omega
        · exact hp
      simp only [List.cons_append, readGroups, hb, ih hd hp]
      simp only [show ¬ n % 128 + 128 < 128 by omega, ↓reduceIte, bind, pure, Option.bind_some,
        Option.some.injEq, Prod.mk.injEq, and_true]
      omega

theorem readGroups_append {limit n : Nat} {b rest : Bytes} (h : readGroups limit b = some (n, rest))
    (t : Bytes) : readGroups limit (b ++ t) = some (n, rest ++ t) := by
  induction limit generalizing n b with
  | zero => simp [readGroups] at h
  | succ limit ih =>
    cases b with
    | nil => simp [readGroups] at h
    | cons x l =>
      simp only [readGroups, List.cons_append] at h ⊢
      split at h
      · next hx =>
        simp only [Option.some.injEq, Prod.mk.injEq] at h
        rw [if_pos hx, h.1, h.2]
      · next hx =>
        simp only [hx, ↓reduceIte, bind, pure, Option.bind_eq_some_iff] at h ⊢
        obtain ⟨⟨m, b₁⟩, h₁, h₂⟩ := h
        simp only [Option.some.injEq, Prod.mk.injEq] at h₂
        obtain ⟨rfl, rfl⟩ := h₂
        exact ⟨(m, b₁ ++ t), ih h₁, rfl⟩

def bounded (bound limit : Nat) (h : bound ≤ capacity limit) (hl : 0 < limit) :
    Format (Fin bound) where
  write n := writeGroups limit n
  read b := do
    let (n, b) ← readGroups limit b
    if hn : n < bound then return (⟨n, hn⟩, b) else none
  read_write n rest := by
    simp [readGroups_writeGroups (Nat.lt_of_lt_of_le n.isLt h) hl]
  read_append {b rest v} hb t := by
    simp only [bind, pure, Option.bind_eq_some_iff] at hb ⊢
    obtain ⟨⟨n, b₁⟩, h₁, h₂⟩ := hb
    refine ⟨(n, b₁ ++ t), readGroups_append h₁ t, ?_⟩
    split at h₂
    · next hn =>
      simp only [Option.some.injEq, Prod.mk.injEq] at h₂
      simp [hn, h₂]
    · simp at h₂

def word32 : Format UInt32 :=
  (bounded UInt32.size 5 (by decide) (by decide)).iso .ofFin (·.toFin) fun _ => rfl

def word64 : Format UInt64 :=
  (bounded UInt64.size 10 (by decide) (by decide)).iso .ofFin (·.toFin) fun _ => rfl

def count : Format (Fin UInt64.size) :=
  bounded UInt64.size 10 (by decide) (by decide)

/-- Signed numbers in the order 0, -1, 1, -2, … -/
def zigzag (n : Int32) : UInt32 :=
  UInt32.ofNat (if 0 ≤ n.toInt then 2 * n.toInt.toNat else 2 * (-n.toInt).toNat - 1)

def unzigzag (w : UInt32) : Int32 :=
  Int32.ofInt (if w.toNat % 2 = 0 then w.toNat / 2 else -(w.toNat / 2) - 1)

theorem unzigzag_zigzag (n : Int32) : unzigzag (zigzag n) = n := by
  have hl := n.le_toInt
  have hu := n.toInt_lt
  have ht : (zigzag n).toNat =
      if 0 ≤ n.toInt then 2 * n.toInt.toNat else 2 * (-n.toInt).toNat - 1 := by
    refine UInt32.toNat_ofNat_of_lt' ?_
    simp only [UInt32.size]
    split <;> omega
  refine Int32.toInt_inj.mp ?_
  rw [unzigzag, ht, Int32.toInt_ofInt_of_le]
  all_goals split <;> split <;> omega

def int32 : Format Int32 :=
  word32.iso unzigzag zigzag unzigzag_zigzag

end WirelessSelection.Varint
