import WirelessSelection.Codec.Varint

namespace WirelessSelection

structure ShortText where
  text : String
  size_lt : text.utf8ByteSize < UInt64.size

namespace Format

def takeBytes (n : Nat) (b : Bytes) : Option (Bytes × Bytes) :=
  if n ≤ b.length then some (b.take n, b.drop n) else none

theorem takeBytes_append_self (a rest : Bytes) :
    takeBytes a.length (a ++ rest) = some (a, rest) := by
  simp [takeBytes]

theorem takeBytes_append {n : Nat} {b a rest : Bytes} (h : takeBytes n b = some (a, rest))
    (t : Bytes) : takeBytes n (b ++ t) = some (a, rest ++ t) := by
  unfold takeBytes at h ⊢
  split at h
  · next hn =>
    simp only [Option.some.injEq, Prod.mk.injEq] at h
    rw [if_pos (by simp only [List.length_append]; omega), List.take_append_of_le_length hn,
      List.drop_append_of_le_length hn, h.1, h.2]
  · simp at h

def readText (b : Bytes) : Option (ShortText × Bytes) := do
  let (n, b) ← Varint.count.read b
  let (content, b) ← takeBytes n.val b
  let s ← String.fromUTF8? ⟨content.toArray⟩
  if h : s.utf8ByteSize < UInt64.size then return (⟨s, h⟩, b) else none

theorem fromUTF8?_toByteArray (s : String) :
    String.fromUTF8? ⟨s.toByteArray.data.toList.toArray⟩ = some s := by
  simp [String.fromUTF8?, String.fromUTF8, s.isValidUTF8]

def shortText : Format ShortText where
  write s := Varint.count.write ⟨s.text.utf8ByteSize, s.size_lt⟩ ++ s.text.toByteArray.data.toList
  read := readText
  read_write s rest := by
    have hn : s.text.utf8ByteSize = s.text.toByteArray.data.toList.length := rfl
    simp only [readText, List.append_assoc, Varint.count.read_write, bind, Option.bind_some]
    rw [hn, takeBytes_append_self]
    simp only [Option.bind_some]
    rw [fromUTF8?_toByteArray, Option.bind_some, dif_pos s.size_lt]
    rfl
  read_append {b rest v} h t := by
    simp only [readText, bind, Option.bind_eq_some_iff] at h ⊢
    obtain ⟨⟨n, b₁⟩, h₁, ⟨c, b₂⟩, h₂, s, h₃, h₄⟩ := h
    refine ⟨(n, b₁ ++ t), Varint.count.read_append h₁ t, (c, b₂ ++ t), takeBytes_append h₂ t,
      s, h₃, ?_⟩
    split at h₄
    · next hs =>
      simp only [pure, Option.some.injEq, Prod.mk.injEq] at h₄
      rw [dif_pos hs, h₄.1, h₄.2]
      rfl
    · simp at h₄

end Format

end WirelessSelection
