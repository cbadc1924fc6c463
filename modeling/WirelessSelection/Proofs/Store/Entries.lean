import Mathlib.Data.List.Sort
import WirelessSelection.Store.IdMap

namespace WirelessSelection

lemma map_eq_map_cases {α β : Type} {f : α → β} {x x' : Option α} (h : x'.map f = x.map f) :
    x = none ∧ x' = none ∨ ∃ a a', x = some a ∧ x' = some a' ∧ f a' = f a := by
  cases x with
  | none => exact .inl ⟨rfl, Option.map_eq_none_iff.mp h⟩
  | some a =>
    obtain ⟨a', ha', hf⟩ := Option.map_eq_some_iff.mp h
    exact .inr ⟨a, a', rfl, ha', hf⟩

namespace IdMap

variable {α β : Type} {m : IdMap α} {k i : NetworkId}

lemma lookup_eq_some_iff_mem {l : List (NetworkId × α)} (h : l.Pairwise (·.1 < ·.1)) {v : α} :
    l.lookup k = some v ↔ (k, v) ∈ l := by
  induction l with
  | nil => simp
  | cons e l ih =>
    have hl := List.pairwise_cons.mp h
    rw [lookup_cons, List.mem_cons, ← ih hl.2]
    by_cases hk : k = e.1
    · rw [if_pos hk]
      constructor
      · intro hv
        exact .inl (Prod.ext hk (Option.some.inj hv).symm)
      · rintro (rfl | hv)
        · rfl
        · have hlt := hl.1 _ ((ih hl.2).mp hv)
          exact absurd (hk ▸ hlt) (UInt32.lt_irrefl _)
    · rw [if_neg hk]
      constructor
      · exact .inr
      · rintro (rfl | hv)
        · exact absurd rfl hk
        · exact hv

lemma mem_entries_iff {v : α} : (k, v) ∈ m.entries ↔ m.get? k = some v :=
  (lookup_eq_some_iff_mem m.ordered).symm

lemma mem_values_iff {v : α} : v ∈ m.values ↔ ∃ k, m.get? k = some v := by
  constructor
  · intro h
    obtain ⟨e, he, rfl⟩ := List.mem_map.mp h
    exact ⟨e.1, mem_entries_iff.mp he⟩
  · rintro ⟨k, h⟩
    exact List.mem_map.mpr ⟨(k, v), mem_entries_iff.mpr h, rfl⟩

lemma mem_keys_iff : k ∈ m.keys ↔ (m.get? k).isSome := by
  rw [Option.isSome_iff_exists]
  constructor
  · intro h
    obtain ⟨e, he, rfl⟩ := List.mem_map.mp h
    exact ⟨e.2, mem_entries_iff.mp he⟩
  · rintro ⟨v, h⟩
    exact List.mem_map.mpr ⟨(k, v), mem_entries_iff.mpr h, rfl⟩

lemma keys_modify (m : IdMap α) (k : NetworkId) (f : α → α) : (m.modify k f).keys = m.keys := by
  rw [keys, keys, modify, List.map_map]
  apply List.map_congr_left
  intro e _
  by_cases hk : e.1 = k <;> simp [hk]

lemma mem_keys_of_erase (h : i ∈ (m.erase k).keys) : i ∈ m.keys := by
  obtain ⟨e, he, rfl⟩ := List.mem_map.mp h
  exact List.mem_map_of_mem (List.mem_of_mem_filter he)

lemma keys_of_lastKey?_eq_none (h : m.lastKey? = none) : m.keys = [] :=
  List.getLast?_eq_none_iff.mp h

lemma le_of_lastKey? (h : m.lastKey? = some k) (hi : i ∈ m.keys) : i ≤ k := by
  obtain ⟨l, hl⟩ := List.getLast?_eq_some_iff.mp h
  have hp : m.keys.Pairwise (· < ·) := List.pairwise_map.mpr m.ordered
  rw [hl] at hp hi
  obtain hi | hi := List.mem_append.mp hi
  · exact UInt32.le_of_lt ((List.pairwise_append.mp hp).2.2 i hi k List.mem_cons_self)
  · exact List.mem_singleton.mp hi ▸ UInt32.le_refl _

lemma modify_eq_self {g : α → α} (h : ∀ v, m.get? k = some v → g v = v) : m.modify k g = m := by
  apply ext_entries
  refine (List.map_congr_left ?_).trans (List.map_id _)
  intro e he
  split
  · next hk => rw [h e.2 (mem_entries_iff.mp (hk ▸ he)), id_eq]
  · rfl

lemma modify_of_get?_eq_none (h : m.get? k = none) (g : α → α) : m.modify k g = m :=
  modify_eq_self fun v hv => absurd (h.symm.trans hv) (Option.some_ne_none v).symm

lemma forall_lt_of_get? {n : NetworkId} (h : ∀ k v, m.get? k = some v → k < n) :
    ∀ e ∈ m.entries, e.1 < n :=
  fun e he => h e.1 e.2 (mem_entries_iff.mp he)

def view (m : IdMap α) (f : α → β) : List (NetworkId × β) :=
  m.entries.map fun e => (e.1, f e.2)

lemma mem_view {f : α → β} {b : β} : (k, b) ∈ m.view f ↔ ∃ v, m.get? k = some v ∧ f v = b := by
  constructor
  · intro h
    obtain ⟨e, he, heq⟩ := List.mem_map.mp h
    cases heq
    exact ⟨e.2, mem_entries_iff.mp he, rfl⟩
  · rintro ⟨v, hv, rfl⟩
    exact List.mem_map.mpr ⟨(k, v), mem_entries_iff.mpr hv, rfl⟩

lemma view_congr {f g : α → β} {n : IdMap α}
    (h : ∀ i, (n.get? i).map g = (m.get? i).map f) : n.view g = m.view f := by
  have : Std.Irrefl fun a b : NetworkId × β => a.1 < b.1 := ⟨fun _ => UInt32.lt_irrefl _⟩
  have : Std.Antisymm fun a b : NetworkId × β => a.1 < b.1 :=
    ⟨fun _ _ hab hba => absurd hba (UInt32.lt_asymm hab)⟩
  have hsorted (m : IdMap α) (f : α → β) : (m.view f).Pairwise (·.1 < ·.1) :=
    List.pairwise_map.mpr m.ordered
  apply (hsorted n g).eq_of_mem_iff (hsorted m f)
  rintro ⟨i, b⟩
  rw [mem_view, mem_view, ← Option.map_eq_some_iff, ← Option.map_eq_some_iff, h]

lemma ext_get? {n : IdMap α} (h : ∀ i, m.get? i = n.get? i) : m = n := by
  have hview : m.view id = n.view id := view_congr fun i => by rw [h]
  exact ext_entries ((List.map_id _).symm.trans (hview.trans (List.map_id _)))

lemma countP_values (m : IdMap α) (f : α → Bool) :
    m.values.countP f = (m.view f).countP (·.2) := by
  rw [values, view, List.countP_map, List.countP_map]
  rfl

lemma get?_map_of_view {f : α → β} {n : IdMap α} (h : n.view f = m.view f) (i : NetworkId) :
    (n.get? i).map f = (m.get? i).map f := by
  ext b
  rw [Option.map_eq_some_iff, Option.map_eq_some_iff, ← mem_view, ← mem_view, h]

lemma view_modify {f : α → β} {g : α → α} (h : ∀ v, f (g v) = f v) :
    (m.modify k g).view f = m.view f := by
  rw [view, view, modify, List.map_map]
  apply List.map_congr_left
  intro e _
  by_cases hk : e.1 = k <;> simp [hk, h]

lemma view_insert_of_forall_lt {f : α → β} {v : α} (h : ∀ e ∈ m.entries, e.1 < k) :
    (m.insert k v).view f = m.view f ++ [(k, f v)] := by
  have he : (m.insert k v).entries = m.entries ++ [(k, v)] := insertEntry_of_forall_lt k v h
  rw [view, he, List.map_append]
  rfl

lemma mem_keys_insert {v : α} : i ∈ (m.insert k v).keys ↔ i = k ∨ i ∈ m.keys := by
  rw [mem_keys_iff, mem_keys_iff, get?_insert]
  by_cases h : i = k <;> simp [h]

lemma mem_keys_foldl_insert (l : List (NetworkId × α)) (m : IdMap α) :
    i ∈ (l.foldl (fun m e => m.insert e.1 e.2) m).keys ↔ i ∈ m.keys ∨ i ∈ l.map Prod.fst := by
  induction l generalizing m with
  | nil => simp
  | cons e l ih =>
    rw [List.foldl_cons, ih, mem_keys_insert, List.map_cons, List.mem_cons]
    tauto

end IdMap

lemma mem_sortedIds {i : NetworkId} {ids : List NetworkId} : i ∈ sortedIds ids ↔ i ∈ ids := by
  rw [sortedIds, IdMap.ofList, IdMap.mem_keys_foldl_insert]
  simp [IdMap.keys, IdMap.empty, Function.comp_def]

end WirelessSelection
