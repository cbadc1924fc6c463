import WirelessSelection.Fault

/-! Finite maps keyed by network id, kept in increasing order of the keys, so that equal maps are
equal values. -/

namespace WirelessSelection

structure IdMap (α : Type) where
  entries : List (NetworkId × α)
  ordered : entries.Pairwise (·.1 < ·.1)
  deriving DecidableEq, Repr

namespace IdMap

variable {α : Type}

def insertEntry (k : NetworkId) (v : α) : List (NetworkId × α) → List (NetworkId × α)
  | [] => [(k, v)]
  | e :: rest =>
    if k < e.1 then (k, v) :: e :: rest
    else if k = e.1 then (k, v) :: rest
    else e :: insertEntry k v rest

theorem mem_insertEntry {k : NetworkId} {v : α} {e : NetworkId × α} {l : List (NetworkId × α)}
    (h : e ∈ insertEntry k v l) : e = (k, v) ∨ e ∈ l := by
  induction l with
  | nil => simpa [insertEntry] using h
  | cons a l ih =>
    unfold insertEntry at h
    split at h
    · simpa using h
    split at h
    · simp only [List.mem_cons] at h ⊢
      exact h.imp_right .inr
    · simp only [List.mem_cons] at h ⊢
      rcases h with h | h
      · exact .inr (.inl h)
      · exact (ih h).imp_right .inr

theorem pairwise_insertEntry (k : NetworkId) (v : α) {l : List (NetworkId × α)}
    (h : l.Pairwise (·.1 < ·.1)) : (insertEntry k v l).Pairwise (·.1 < ·.1) := by
  induction l with
  | nil => simp [insertEntry]
  | cons a l ih =>
    have ha := (List.pairwise_cons.mp h).1
    have hl := (List.pairwise_cons.mp h).2
    unfold insertEntry
    split
    · next hk =>
      refine List.pairwise_cons.mpr ⟨?_, h⟩
      intro b hb
      rcases List.mem_cons.mp hb with rfl | hb
      · exact hk
      · exact UInt32.lt_trans hk (ha b hb)
    split
    · next hk =>
      subst hk
      exact List.pairwise_cons.mpr ⟨ha, hl⟩
    · next h₁ h₂ =>
      refine List.pairwise_cons.mpr ⟨?_, ih hl⟩
      intro b hb
      rcases mem_insertEntry hb with rfl | hb
      · exact UInt32.lt_of_le_of_ne (UInt32.not_lt.mp h₁) (Ne.symm h₂)
      · exact ha b hb

def empty : IdMap α where
  entries := []
  ordered := .nil

instance : Inhabited (IdMap α) := ⟨empty⟩

def get? (m : IdMap α) (k : NetworkId) : Option α :=
  m.entries.lookup k

def contains (m : IdMap α) (k : NetworkId) : Bool :=
  (m.get? k).isSome

def insert (m : IdMap α) (k : NetworkId) (v : α) : IdMap α where
  entries := insertEntry k v m.entries
  ordered := pairwise_insertEntry k v m.ordered

def erase (m : IdMap α) (k : NetworkId) : IdMap α where
  entries := m.entries.filter (·.1 != k)
  ordered := m.ordered.filter _

def modify (m : IdMap α) (k : NetworkId) (f : α → α) : IdMap α where
  entries := m.entries.map fun e => if e.1 = k then (e.1, f e.2) else e
  ordered := by
    refine List.pairwise_map.mpr (m.ordered.imp ?_)
    intro a b h
    have hf (e : NetworkId × α) : (if e.1 = k then (e.1, f e.2) else e).1 = e.1 := by
      split <;> rfl
    rw [hf, hf]
    exact h

theorem lookup_cons (i : NetworkId) (e : NetworkId × α) (l : List (NetworkId × α)) :
    (e :: l).lookup i = if i = e.1 then some e.2 else l.lookup i := by
  change (match i == e.1 with
    | true => some e.2
    | false => l.lookup i) = _
  split
  · next h => rw [if_pos (beq_iff_eq.mp h)]
  · next h => rw [if_neg (beq_eq_false_iff_ne.mp h)]

theorem lookup_insertEntry (k i : NetworkId) (v : α) (l : List (NetworkId × α)) :
    (insertEntry k v l).lookup i = if i = k then some v else l.lookup i := by
  induction l with
  | nil => exact lookup_cons i (k, v) []
  | cons a l ih =>
    unfold insertEntry
    split
    · exact lookup_cons i (k, v) (a :: l)
    split
    · next h =>
      subst h
      rw [lookup_cons, lookup_cons]
      split <;> rfl
    · next h =>
      rw [lookup_cons, lookup_cons, ih]
      split
      · next hi => rw [if_neg (hi ▸ Ne.symm h)]
      · rfl

theorem get?_insert (m : IdMap α) (k i : NetworkId) (v : α) :
    (m.insert k v).get? i = if i = k then some v else m.get? i :=
  lookup_insertEntry k i v m.entries

theorem lookup_filter_ne (k i : NetworkId) (l : List (NetworkId × α)) :
    (l.filter (·.1 != k)).lookup i = if i = k then none else l.lookup i := by
  induction l with
  | nil => exact (ite_self none).symm
  | cons a l ih =>
    rw [List.filter_cons, lookup_cons]
    by_cases h : a.1 = k
    · subst h
      rw [if_neg (by simp), ih]
      by_cases hi : i = a.1 <;> simp [hi]
    · rw [if_pos (by simpa using h), lookup_cons, ih]
      by_cases hi : i = a.1
      · rw [if_pos hi, if_pos hi, if_neg (hi ▸ h)]
      · rw [if_neg hi, if_neg hi]

theorem get?_erase (m : IdMap α) (k i : NetworkId) :
    (m.erase k).get? i = if i = k then none else m.get? i :=
  lookup_filter_ne k i m.entries

theorem lookup_map_ite (k i : NetworkId) (f : α → α) (l : List (NetworkId × α)) :
    (l.map fun e => if e.1 = k then (e.1, f e.2) else e).lookup i =
      if i = k then (l.lookup i).map f else l.lookup i := by
  induction l with
  | nil => exact (ite_self none).symm
  | cons a l ih =>
    rw [List.map_cons, lookup_cons, lookup_cons, ih]
    by_cases h : a.1 = k
    · subst h
      by_cases hi : i = a.1 <;> simp [hi]
    · by_cases hi : i = a.1
      · simp [h, hi]
      · simp only [h, hi, ↓reduceIte]

theorem get?_modify (m : IdMap α) (k i : NetworkId) (f : α → α) :
    (m.modify k f).get? i = if i = k then (m.get? i).map f else m.get? i :=
  lookup_map_ite k i f m.entries

def ofList (l : List (NetworkId × α)) : IdMap α :=
  l.foldl (fun m e => m.insert e.1 e.2) empty

theorem insertEntry_of_forall_lt (k : NetworkId) (v : α) {l : List (NetworkId × α)}
    (h : ∀ e ∈ l, e.1 < k) : insertEntry k v l = l ++ [(k, v)] := by
  induction l with
  | nil => rfl
  | cons a l ih =>
    have ha := h a List.mem_cons_self
    rw [insertEntry, if_neg (UInt32.lt_asymm ha), if_neg (UInt32.ne_of_lt ha).symm,
      ih fun e he => h e (List.mem_cons_of_mem a he), List.cons_append]

theorem entries_foldl_insert (l : List (NetworkId × α)) (m : IdMap α)
    (h : (m.entries ++ l).Pairwise (·.1 < ·.1)) :
    (l.foldl (fun m e => m.insert e.1 e.2) m).entries = m.entries ++ l := by
  induction l generalizing m with
  | nil => simp
  | cons e l ih =>
    have hm : (m.insert e.1 e.2).entries = m.entries ++ [e] :=
      insertEntry_of_forall_lt e.1 e.2 fun a ha =>
        (List.pairwise_append.mp h).2.2 a ha e List.mem_cons_self
    rw [List.foldl_cons, ih _ (by rw [hm]; simpa using h), hm]
    simp

theorem ext_entries {m n : IdMap α} (h : m.entries = n.entries) : m = n := by
  cases m
  cases n
  cases h
  rfl

theorem ofList_entries (m : IdMap α) : ofList m.entries = m :=
  ext_entries (entries_foldl_insert m.entries empty m.ordered)

theorem length_add_le_of_forall_le {l : List (NetworkId × α)} (h : l.Pairwise (·.1 < ·.1)) {k : Nat}
    (hk : k ≤ UInt32.size) (hl : ∀ e ∈ l, k ≤ e.1.toNat) : l.length + k ≤ UInt32.size := by
  induction l generalizing k with
  | nil => simpa using hk
  | cons a l ih =>
    have ha : a.1.toNat < UInt32.size := a.1.toNat_lt
    have hka := hl a List.mem_cons_self
    have := ih (List.pairwise_cons.mp h).2 (k := a.1.toNat + 1) ha fun e he =>
      UInt32.lt_iff_toNat_lt.mp ((List.pairwise_cons.mp h).1 e he)
    simp only [List.length_cons]
    omega

theorem length_entries_le (m : IdMap α) : m.entries.length ≤ UInt32.size := by
  simpa using length_add_le_of_forall_le m.ordered (Nat.zero_le _) fun _ _ => Nat.zero_le _

def keys (m : IdMap α) : List NetworkId :=
  m.entries.map Prod.fst

def values (m : IdMap α) : List α :=
  m.entries.map Prod.snd

def lastKey? (m : IdMap α) : Option NetworkId :=
  m.keys.getLast?

end IdMap

def sortedIds (ids : List NetworkId) : List NetworkId :=
  (IdMap.ofList (ids.map fun i => (i, ()))).keys

end WirelessSelection
