import WirelessSelection.Proofs.Store.Writes

namespace WirelessSelection

namespace Profile

def core (p : Profile) : Profile :=
  { p with status := { p.status with candidate := none, score := none, seen := false } }

variable {p q : Profile}

lemma id_eq_of_core (h : p.core = q.core) : p.id = q.id :=
  congrArg (·.id) h

lemma key_eq_of_core (h : p.core = q.core) : p.key = q.key :=
  congrArg (·.key) h

lemma ephemeral_eq_of_core (h : p.core = q.core) : p.ephemeral = q.ephemeral :=
  congrArg (·.ephemeral) h

lemma isEnabled_eq_of_core (h : p.core = q.core) : p.isEnabled = q.isEnabled :=
  congrArg (·.isEnabled) h

lemma choice_eq_of_core (h : p.core = q.core) : p.status.choice = q.status.choice :=
  congrArg (·.status.choice) h

lemma isMatch_eq_of_core (h : p.core = q.core) (o : Observation) : p.isMatch o = q.isMatch o :=
  congrArg (·.isMatch o) h

lemma eq_of_core (h : q.core = p.core) : q = { p with status := { p.status with
    candidate := q.status.candidate, score := q.status.score, seen := q.status.seen } } := by
  obtain ⟨id, ssid, security, ephemeral, status⟩ := q
  obtain ⟨availability, candidate, score, seen, choice⟩ := status
  cases h
  rfl

lemma core_apply {c : Change} (h : c.OfRound) (p : Profile) : (p.apply c).core = p.core := by
  cases c with
  | recordCandidate | clearCandidate | setSeen => rfl
  | setEnabled | setChoice | clearChoice => contradiction

lemma filter_core {kind : Profile → Bool} (h : ∀ p, kind p.core = kind p) (x : Option Profile) :
    (x.filter kind).map core = (x.map core).filter kind := by
  cases x with
  | none => rfl
  | some p =>
    rw [Option.map_some, Option.filter_some, Option.filter_some, h]
    split <;> rfl

lemma apply_apply (p : Profile) (c : Change) : (p.apply c).apply c = p.apply c := by
  cases c <;> rfl

lemma apply_comp_apply (c : Change) : (·.apply c) ∘ (·.apply c) = fun p : Profile => p.apply c :=
  funext fun p => p.apply_apply c

end Profile

namespace ProfileTable

variable {t t' t'' : ProfileTable}

def changed (t : ProfileTable) (id : NetworkId) (c : Change) : ProfileTable :=
  { t with profiles := t.profiles.modify id (·.apply c) }

lemma resolve_eq (t : ProfileTable) (o : Observation) :
    ProfileStore.resolve t o = .ok (t.resolve o) :=
  rfl

lemma profile?_eq (t : ProfileTable) (id : NetworkId) :
    ProfileStore.profile? t id = t.profiles.get? id :=
  rfl

lemma change_snd (t : ProfileTable) (id : NetworkId) (c : Change) :
    (ProfileStore.change t id c).2 = t.changed id c := by
  change (t.settle ((t.modify id (·.apply c)).map ((), ·))).2 = _
  rw [modify]
  split
  · rfl
  · next h =>
    have hnone : t.profiles.get? id = none := by simpa [IdMap.contains] using h
    rw [changed, IdMap.modify_of_get?_eq_none hnone]
    rfl

lemma change_of_stored {id : NetworkId} {p : Profile} (hp : t.profiles.get? id = some p)
    (c : Change) : ProfileStore.change t id c = (.ok (), t.changed id c) := by
  change t.settle ((t.modify id (·.apply c)).map ((), ·)) = _
  rw [modify, IdMap.contains, hp]
  rfl

lemma get?_changed (t : ProfileTable) (i id : NetworkId) (c : Change) :
    (t.changed id c).profiles.get? i =
      if i = id then (t.profiles.get? i).map (·.apply c) else t.profiles.get? i :=
  IdMap.get?_modify t.profiles id i (·.apply c)

lemma get?_foldl_change {α : Type} (f : α → NetworkId) (c : Change) (l : List α)
    (t : ProfileTable) (i : NetworkId) :
    (l.foldl (fun t a => (ProfileStore.change t (f a) c).2) t).profiles.get? i =
      if i ∈ l.map f then (t.profiles.get? i).map (·.apply c) else t.profiles.get? i := by
  induction l generalizing t with
  | nil => rfl
  | cons a l ih =>
    rw [List.foldl_cons, ih, change_snd, get?_changed, List.map_cons]
    by_cases ha : i = f a <;> by_cases hl : i ∈ l.map f <;> simp [ha, hl, Profile.apply_comp_apply]

lemma WellFormed.mem_ids_filter_iff (h : t.WellFormed) {kind : Profile → Bool} {i : NetworkId} :
    i ∈ (t.profiles.values.filter kind).map (·.id) ↔
      ∃ p, t.profiles.get? i = some p ∧ kind p = true := by
  simp only [List.mem_map, List.mem_filter, IdMap.mem_values_iff]
  constructor
  · rintro ⟨p, ⟨⟨k, hk⟩, hp⟩, rfl⟩
    obtain rfl := h.id_eq hk
    exact ⟨p, hk, hp⟩
  · rintro ⟨p, hi, hp⟩
    exact ⟨p, ⟨⟨i, hi⟩, hp⟩, h.id_eq hi⟩

lemma WellFormed.get?_foldl_change (h : t.WellFormed) (kind : Profile → Bool) (c : Change)
    (i : NetworkId) : ((t.profiles.values.filter kind).foldl
        (fun t p => (ProfileStore.change t p.id c).2) t).profiles.get? i =
      (t.profiles.get? i).map fun p => if kind p then p.apply c else p := by
  rw [ProfileTable.get?_foldl_change]
  cases hi : t.profiles.get? i with
  | none => simp
  | some p =>
    by_cases hp : kind p = true
    · rw [if_pos (h.mem_ids_filter_iff.mpr ⟨p, hi, hp⟩), Option.map_some, Option.map_some,
        if_pos hp]
    · rw [if_neg, Option.map_some, if_neg hp]
      intro hm
      obtain ⟨q, hq, hk⟩ := h.mem_ids_filter_iff.mp hm
      obtain rfl := Option.some.inj (hi.symm.trans hq)
      exact hp hk

lemma createEphemeral_of_resolved {o : Observation} {p : Profile} (h : t.resolve o = some p) :
    (ProfileStore.createEphemeral t o).2 = t := by
  change (t.settle (t.createEphemeral o)).2 = t
  rw [createEphemeral, h]
  split <;> rfl

lemma createEphemeral_of_unresolved {o : Observation} (h : t.resolve o = none) :
    (∃ f, ProfileStore.createEphemeral t o = (.error f, t) ∧
      (o.isOpen = true → ¬t.nextId < NetworkId.last)) ∨ ∃ t',
      ProfileStore.createEphemeral t o = (.ok (untrusted t.nextId o), t') ∧ o.isOpen = true ∧
        t.append (untrusted t.nextId o) = .ok t' := by
  change (∃ f, t.settle (t.createEphemeral o) = _ ∧ _) ∨
    ∃ t', t.settle (t.createEphemeral o) = _ ∧ _
  cases hc : t.createEphemeral o with
  | error f =>
    refine .inl ⟨f, rfl, ?_⟩
    intro ho hlast
    have ha : t.append (untrusted t.nextId o) = .ok _ := append_eq_ok_iff.mpr ⟨hlast, rfl⟩
    rw [createEphemeral, ho, h] at hc
    change (t.append (untrusted t.nextId o)).bind _ = _ at hc
    rw [ha] at hc
    contradiction
  | ok r =>
    obtain ⟨ho, ⟨hr, -⟩ | ⟨-, hp, ha⟩⟩ := createEphemeral_cases hc
    · rw [h] at hr
      contradiction
    · rw [hp] at ha
      exact .inr ⟨r.2, congrArg (fun p => (Except.ok p, r.2)) hp, ho, ha⟩

lemma createEphemeral_snd (t : ProfileTable) (o : Observation) :
    (ProfileStore.createEphemeral t o).2 = t ∨ o.isOpen = true ∧ t.resolve o = none ∧
      t.append (untrusted t.nextId o) = .ok (ProfileStore.createEphemeral t o).2 := by
  cases hr : t.resolve o with
  | some p => exact .inl (createEphemeral_of_resolved hr)
  | none =>
    obtain ⟨f, hc, -⟩ | ⟨t', hc, ho, ha⟩ := createEphemeral_of_unresolved hr <;> rw [hc]
    · exact .inl rfl
    · exact .inr ⟨ho, rfl, ha⟩

lemma WellFormed.run (h : t.WellFormed) (w : Write) : (w.run t).WellFormed := by
  cases w with
  | change id c =>
    rw [Write.run, change_snd]
    exact h.modify id (harmless_apply c)
  | createEphemeral o =>
    obtain ht | ⟨ho, hr, ha⟩ := createEphemeral_snd t o
    · rwa [Write.run, ht]
    · exact h.append_untrusted ho hr ha

lemma WellFormed.writes (h : t.WellFormed) {allowed : Write → Prop} (hw : Writes allowed t t') :
    t'.WellFormed := by
  induction hw with
  | refl => exact h
  | tail _ hs ih =>
    obtain ⟨w, -, rfl⟩ := hs
    exact ih.run w

lemma WellFormed.get?_of_creates (ht : t.WellFormed) {allowed : Write → Prop}
    (hc : ∀ w, allowed w → w.Creates) (h : Writes allowed t t') (i : NetworkId) :
    t'.profiles.get? i = t.profiles.get? i ∨ t.profiles.get? i = none ∧
      ∃ o, allowed (.createEphemeral o) ∧ t'.profiles.get? i = some (untrusted i o) := by
  induction h with
  | refl => exact .inl rfl
  | @tail b _ hp hs ih =>
    obtain ⟨w, hw, rfl⟩ := hs
    cases w with
    | change id c => exact (hc _ hw).elim
    | createEphemeral o =>
      obtain he | ⟨-, -, ha⟩ := createEphemeral_snd b o
      · rwa [Write.run, he]
      · obtain ⟨-, he⟩ := append_eq_ok_iff.mp ha
        rw [Write.run, he, IdMap.get?_insert]
        split
        · next hi =>
          -- The next id of a table is not in use, and it was not before.
          have hfree : b.profiles.get? i = none := by
            rw [Option.eq_none_iff_forall_ne_some]
            intro p hp'
            exact UInt32.lt_irrefl _ (hi ▸ (ht.writes hp).lt_nextId hp')
          obtain hsame | ⟨-, o', -, hnew⟩ := ih
          · exact .inr ⟨hsame.symm.trans hfree, o, hw, hi ▸ rfl⟩
          · exact absurd (hnew.symm.trans hfree) (Option.some_ne_none _)
        · exact ih

lemma view_of_writes {β : Type} {f : Profile → β} {allowed : Change → Prop}
    (hf : ∀ c, allowed c → ∀ p : Profile, f (p.apply c) = f p)
    (h : Writes (Write.Changes allowed) t t') : t'.profiles.view f = t.profiles.view f := by
  induction h with
  | refl => rfl
  | tail _ hs ih =>
    obtain ⟨w, hw, rfl⟩ := hs
    cases w with
    | change id c =>
      rw [Write.run, change_snd, changed, IdMap.view_modify (hf c hw), ih]
    | createEphemeral o => exact hw.elim

lemma resolve_core (t : ProfileTable) (o : Observation) : (t.resolve o).map Profile.core =
    ((t.profiles.view Profile.core).find? fun e => e.2.key = .ofObservation o).map Prod.snd := by
  rw [resolve, find?, IdMap.view, List.find?_map, Option.map_map, Option.map_map]
  rfl

lemma counters_of_writes {allowed : Change → Prop} (h : Writes (Write.Changes allowed) t t') :
    t'.nextId = t.nextId ∧ t'.lastPick = t.lastPick := by
  induction h with
  | refl => exact ⟨rfl, rfl⟩
  | tail _ hs ih =>
    obtain ⟨w, hw, rfl⟩ := hs
    cases w with
    | change id c => rwa [Write.run, change_snd]
    | createEphemeral o => exact hw.elim

/-- All that a round may do: note things on profiles, and make ephemeral ones under new ids. -/
structure Extends (t t' : ProfileTable) : Prop where
  core : ∃ new, t'.profiles.view Profile.core = t.profiles.view Profile.core ++ new ∧
    ∀ e ∈ new, ∃ o, e.2 = untrusted e.1 o
  nextId_le : t.nextId ≤ t'.nextId
  lastPick_eq : t'.lastPick = t.lastPick

namespace Extends

lemma refl (t : ProfileTable) : Extends t t where
  core := ⟨[], (List.append_nil _).symm, fun _ h => nomatch h⟩
  nextId_le := UInt32.le_refl _
  lastPick_eq := rfl

lemma trans (h : Extends t t') (h' : Extends t' t'') : Extends t t'' where
  core := by
    obtain ⟨l, hl, hnew⟩ := h.core
    obtain ⟨l', hl', hnew'⟩ := h'.core
    refine ⟨l ++ l', by rw [hl', hl, List.append_assoc], ?_⟩
    intro e he
    exact (List.mem_append.mp he).elim (hnew e) (hnew' e)
  nextId_le := UInt32.le_trans h.nextId_le h'.nextId_le
  lastPick_eq := h'.lastPick_eq.trans h.lastPick_eq

lemma run (ht : t.WellFormed) {w : Write} (hw : w.OfRound) : Extends t (w.run t) := by
  cases w with
  | change id c =>
    rw [Write.run, change_snd]
    refine ⟨⟨[], ?_, fun _ h => nomatch h⟩, UInt32.le_refl _, rfl⟩
    rw [changed, IdMap.view_modify (Profile.core_apply hw), List.append_nil]
  | createEphemeral o =>
    obtain he | ⟨-, -, ha⟩ := createEphemeral_snd t o
    · rw [Write.run, he]
      exact refl t
    · obtain ⟨hlast, he⟩ := append_eq_ok_iff.mp ha
      rw [Write.run, he]
      refine ⟨⟨[(t.nextId, untrusted t.nextId o)], ?_, ?_⟩,
        UInt32.le_of_lt (lt_succ_of_lt_last hlast), rfl⟩
      · exact IdMap.view_insert_of_forall_lt (IdMap.forall_lt_of_get? fun _ _ => ht.lt_nextId)
      · intro e he
        rw [List.mem_singleton.mp he]
        exact ⟨o, rfl⟩

lemma of_writes (ht : t.WellFormed) (h : Writes Write.OfRound t t') : Extends t t' := by
  induction h with
  | refl => exact refl t
  | tail hp hs ih =>
    obtain ⟨w, hw, rfl⟩ := hs
    exact ih.trans (run (ht.writes hp) hw)

lemma get?_core (h : Extends t t') {id : NetworkId} {p : Profile}
    (hp : t.profiles.get? id = some p) :
    ∃ q, t'.profiles.get? id = some q ∧ q.core = p.core := by
  obtain ⟨new, hnew, -⟩ := h.core
  apply IdMap.mem_view.mp
  rw [hnew]
  exact List.mem_append_left _ (IdMap.mem_view.mpr ⟨p, hp, rfl⟩)

lemma get?_core_of_saved (h : Extends t t') {id : NetworkId} {q : Profile}
    (hq : t'.profiles.get? id = some q) (hs : q.ephemeral = false) :
    ∃ p, t.profiles.get? id = some p ∧ p.core = q.core := by
  obtain ⟨new, hnew, he⟩ := h.core
  have hm : (id, q.core) ∈ t.profiles.view Profile.core ++ new := by
    rw [← hnew]
    exact IdMap.mem_view.mpr ⟨q, hq, rfl⟩
  obtain hm | hm := List.mem_append.mp hm
  · exact IdMap.mem_view.mp hm
  · obtain ⟨o, ho⟩ := he _ hm
    have := congrArg Profile.ephemeral ho
    exact absurd (hs.symm.trans this) Bool.false_ne_true

lemma resolve_core (h : Extends t t') (ht : t.WellFormed) (ht' : t'.WellFormed) {o : Observation}
    {p : Profile} (hp : t.resolve o = some p) :
    ∃ q, t'.resolve o = some q ∧ q.core = p.core := by
  obtain ⟨hget, hmatch⟩ := ht.resolve_eq_some_iff.mp hp
  obtain ⟨q, hq, hc⟩ := h.get?_core hget
  refine ⟨q, ht'.resolve_eq_some_iff.mpr ⟨?_, ?_⟩, hc⟩
  · rwa [Profile.id_eq_of_core hc]
  · rwa [Profile.isMatch_eq_of_core hc]

end Extends

end ProfileTable

end WirelessSelection
