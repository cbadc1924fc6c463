import WirelessSelection.Proofs.Store.Frame
import WirelessSelection.Store.Recorder

namespace WirelessSelection.Recorder

open ProfileStore

section Attempts

variable {σ α : Type} {r : Recorder σ} {a : Attempt}

lemma attempt_of_fails (h : r.fails a = true) (operation : σ → Except Fault α × σ) :
    r.attempt a operation = (.error .storage, r.note (.attempt a)) :=
  if_pos h

lemma attempt_of_not_fails (h : r.fails a = false) (operation : σ → Except Fault α × σ) :
    r.attempt a operation = ((operation r.store).1,
      { r.note (.attempt a) with store := (operation r.store).2 }) :=
  if_neg (ne_true_of_eq_false h)

lemma store_attempt (r : Recorder σ) (a : Attempt) (operation : σ → Except Fault α × σ) :
    (r.attempt a operation).2.store = if r.fails a then r.store else (operation r.store).2 := by
  cases h : r.fails a with
  | true => rw [attempt_of_fails h]; rfl
  | false => rw [attempt_of_not_fails h]; rfl

lemma fails_attempt (r : Recorder σ) (a : Attempt) (operation : σ → Except Fault α × σ) :
    (r.attempt a operation).2.fails = r.fails := by
  cases h : r.fails a with
  | true => rw [attempt_of_fails h]; rfl
  | false => rw [attempt_of_not_fails h]; rfl

end Attempts

section Writes

variable {σ : Type} [ProfileStore σ] {allowed : Write → Prop} {r r' : Recorder σ}

lemma store_change (r : Recorder σ) (id : NetworkId) (c : Change) : (change r id c).2.store =
    if r.fails (.change id c) then r.store else (change r.store id c).2 :=
  r.store_attempt ..

lemma fails_change (r : Recorder σ) (id : NetworkId) (c : Change) :
    (change r id c).2.fails = r.fails :=
  r.fails_attempt ..

lemma fails_run (w : Write) (r : Recorder σ) : (w.run r).fails = r.fails := by
  cases w with
  | change id c => exact r.fails_attempt ..
  | createEphemeral o => exact r.fails_attempt ..

lemma store_run_cases (w : Write) (r : Recorder σ) :
    (w.run r).store = r.store ∨ (w.run r).store = w.run r.store := by
  cases w with
  | change id c =>
    have hstore := r.store_change id c
    exact (ite_eq_or_eq ..).imp hstore.trans hstore.trans
  | createEphemeral o =>
    have hstore := r.store_attempt (.createEphemeral o.ssid.text) (createEphemeral · o)
    exact (ite_eq_or_eq ..).imp hstore.trans hstore.trans

lemma fails_of_writes (h : Writes allowed r r') : r'.fails = r.fails := by
  induction h with
  | refl => rfl
  | tail _ hs ih =>
    obtain ⟨w, -, rfl⟩ := hs
    rw [fails_run, ih]

lemma writes_store (h : Writes allowed r r') : Writes allowed r.store r'.store := by
  induction h with
  | refl => exact .refl
  | @tail b _ _ hs ih =>
    obtain ⟨w, hw, rfl⟩ := hs
    obtain hsame | hdone := store_run_cases w b
    · rwa [hsame]
    · rw [hdone]
      exact ih.tail ⟨w, hw, rfl⟩

end Writes

lemma profile?_eq (r : Recorder ProfileTable) (id : NetworkId) :
    profile? r id = r.store.profiles.get? id :=
  rfl

lemma get?_change (r : Recorder ProfileTable) (id : NetworkId) (c : Change) (i : NetworkId) :
    (change r id c).2.store.profiles.get? i =
      if i = id ∧ r.fails (.change i c) = false then (r.store.profiles.get? i).map (·.apply c)
      else r.store.profiles.get? i := by
  rw [store_change]
  cases hf : r.fails (.change id c) with
  | true =>
    rw [if_pos rfl, if_neg]
    rintro ⟨rfl, h⟩
    exact Bool.false_ne_true (h.symm.trans hf)
  | false =>
    rw [if_neg Bool.false_ne_true, ProfileTable.change_snd, ProfileTable.get?_changed]
    by_cases hi : i = id <;> simp [hi, hf]

lemma get?_foldl_change {α : Type} (f : α → NetworkId) (c : Change) (l : List α)
    (r : Recorder ProfileTable) (i : NetworkId) :
    (l.foldl (fun r a => (change r (f a) c).2) r).store.profiles.get? i =
      if i ∈ l.map f ∧ r.fails (.change i c) = false then
        (r.store.profiles.get? i).map (·.apply c)
      else r.store.profiles.get? i := by
  induction l generalizing r with
  | nil => simp
  | cons a l ih =>
    rw [List.foldl_cons, ih, fails_change, get?_change, List.map_cons]
    by_cases hf : r.fails (.change i c) = true
    · simp [hf]
    · rw [Bool.not_eq_true] at hf
      simp only [hf, and_true, List.mem_cons]
      by_cases hl : i ∈ l.map f
      · simp only [hl, or_true, if_true]
        split
        · rw [Option.map_map, Profile.apply_comp_apply]
        · rfl
      · simp only [hl, or_false, if_false]

lemma get?_foldl_change_filter {r : Recorder ProfileTable} (hr : r.store.WellFormed)
    (kind : Profile → Bool) (c : Change) (i : NetworkId) :
    ((r.store.profiles.values.filter kind).foldl
        (fun r p => (change r p.id c).2) r).store.profiles.get? i =
      (r.store.profiles.get? i).map fun p =>
        if kind p = true ∧ r.fails (.change i c) = false then p.apply c else p := by
  rw [get?_foldl_change]
  cases hi : r.store.profiles.get? i with
  | none => simp
  | some p =>
    have hmem : i ∈ (r.store.profiles.values.filter kind).map (·.id) ↔ kind p = true := by
      rw [hr.mem_ids_filter_iff, hi]
      simp
    simp only [hmem, Option.map_some]
    split <;> rfl

end WirelessSelection.Recorder
