/-! Binary formats: a writer and a reader for the front of a byte string, with the two laws that
make formats compose. -/

namespace WirelessSelection

abbrev Bytes := List UInt8

/-- What is written is read back whatever follows it, and what follows has no part in reading. -/
structure Format (α : Type) where
  write : α → Bytes
  read : Bytes → Option (α × Bytes)
  read_write (a : α) (rest : Bytes) : read (write a ++ rest) = some (a, rest)
  read_append {b rest : Bytes} {a : α} (h : read b = some (a, rest)) (t : Bytes) :
    read (b ++ t) = some (a, rest ++ t)

namespace Format

variable {α β : Type}

def readByte : Bytes → Option (UInt8 × Bytes)
  | [] => none
  | b :: rest => some (b, rest)

def byte : Format UInt8 where
  write b := [b]
  read := readByte
  read_write _ _ := rfl
  read_append {b _ _} h t := by
    cases b with
    | nil => simp [readByte] at h
    | cons x l =>
      simp only [readByte, Option.some.injEq, Prod.mk.injEq] at h
      obtain ⟨rfl, rfl⟩ := h
      rfl

def pair (f : Format α) (g : Format β) : Format (α × β) where
  write v := f.write v.1 ++ g.write v.2
  read b := do
    let (a, b) ← f.read b
    let (c, b) ← g.read b
    return ((a, c), b)
  read_write v rest := by
    simp [List.append_assoc, f.read_write, g.read_write]
  read_append {b rest v} h t := by
    simp only [bind, pure, Option.bind_eq_some_iff] at h ⊢
    obtain ⟨⟨a, b₁⟩, h₁, ⟨c, b₂⟩, h₂, h₃⟩ := h
    refine ⟨(a, b₁ ++ t), f.read_append h₁ t, (c, b₂ ++ t), g.read_append h₂ t, ?_⟩
    simp only [Option.some.injEq, Prod.mk.injEq] at h₃ ⊢
    simp [h₃]

def adapt (f : Format α) (decode? : α → Option β) (encode : β → α)
    (decode_encode : ∀ v, decode? (encode v) = some v) : Format β where
  write v := f.write (encode v)
  read b := do
    let (a, b) ← f.read b
    return (← decode? a, b)
  read_write v rest := by
    simp [f.read_write, decode_encode]
  read_append {b rest v} h t := by
    simp only [bind, pure, Option.bind_eq_some_iff] at h ⊢
    obtain ⟨⟨a, b₁⟩, h₁, c, h₂, h₃⟩ := h
    refine ⟨(a, b₁ ++ t), f.read_append h₁ t, c, h₂, ?_⟩
    simp only [Option.some.injEq, Prod.mk.injEq] at h₃ ⊢
    simp [h₃]

def iso (f : Format α) (decode : α → β) (encode : β → α)
    (decode_encode : ∀ v, decode (encode v) = v) : Format β :=
  f.adapt (fun a => some (decode a)) encode fun v => by rw [decode_encode]

def bit : Format Bool :=
  byte.adapt (fun b => if b = 0 then some false else if b = 1 then some true else none)
    (fun v => if v then 1 else 0) (by decide)

def readOption (f : Format α) (b : Bytes) : Option (Option α × Bytes) := do
  let (present, b) ← bit.read b
  if present then
    let (a, b) ← f.read b
    return (some a, b)
  else return (none, b)

def option (f : Format α) : Format (Option α) where
  write
    | none => bit.write false
    | some a => bit.write true ++ f.write a
  read := readOption f
  read_write v rest := by
    cases v <;> simp [readOption, List.append_assoc, bit.read_write, f.read_write]
  read_append {b rest v} h t := by
    simp only [readOption, bind, pure, Option.bind_eq_some_iff] at h ⊢
    obtain ⟨⟨present, b₁⟩, h₁, h₂⟩ := h
    refine ⟨(present, b₁ ++ t), bit.read_append h₁ t, ?_⟩
    cases present with
    | false =>
      simp only [Bool.false_eq_true, ↓reduceIte, Option.some.injEq, Prod.mk.injEq] at h₂ ⊢
      simp [h₂]
    | true =>
      simp only [↓reduceIte, Option.bind_eq_some_iff] at h₂ ⊢
      obtain ⟨⟨a, b₂⟩, h₂, h₃⟩ := h₂
      refine ⟨(a, b₂ ++ t), f.read_append h₂ t, ?_⟩
      simp only [Option.some.injEq, Prod.mk.injEq] at h₃ ⊢
      simp [h₃]

def readMany (f : Format α) : Nat → Bytes → Option (List α × Bytes)
  | 0, b => some ([], b)
  | n + 1, b => do
    let (a, b) ← f.read b
    let (l, b) ← readMany f n b
    return (a :: l, b)

theorem readMany_write (f : Format α) (l : List α) (rest : Bytes) :
    readMany f l.length (l.flatMap f.write ++ rest) = some (l, rest) := by
  induction l with
  | nil => rfl
  | cons a l ih => simp [readMany, List.append_assoc, f.read_write, ih]

theorem readMany_append (f : Format α) {n : Nat} {b rest : Bytes} {l : List α}
    (h : readMany f n b = some (l, rest)) (t : Bytes) :
    readMany f n (b ++ t) = some (l, rest ++ t) := by
  induction n generalizing b rest l with
  | zero =>
    simp only [readMany, Option.some.injEq, Prod.mk.injEq] at h ⊢
    simp [h]
  | succ n ih =>
    simp only [readMany, bind, pure, Option.bind_eq_some_iff] at h ⊢
    obtain ⟨⟨a, b₁⟩, h₁, ⟨l', b₂⟩, h₂, h₃⟩ := h
    refine ⟨(a, b₁ ++ t), f.read_append h₁ t, (l', b₂ ++ t), ih h₂, ?_⟩
    simp only [Option.some.injEq, Prod.mk.injEq] at h₃ ⊢
    simp [h₃]

theorem length_of_readMany (f : Format α) {n : Nat} {b rest : Bytes} {l : List α}
    (h : readMany f n b = some (l, rest)) : l.length = n := by
  induction n generalizing b rest l with
  | zero =>
    simp only [readMany, Option.some.injEq, Prod.mk.injEq] at h
    simp [← h.1]
  | succ n ih =>
    simp only [readMany, bind, pure, Option.bind_eq_some_iff] at h
    obtain ⟨⟨a, b₁⟩, _, ⟨l', b₂⟩, h₂, h₃⟩ := h
    simp only [Option.some.injEq, Prod.mk.injEq] at h₃
    simp [← h₃.1, ih h₂]

end Format

end WirelessSelection
