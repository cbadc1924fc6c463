import WirelessSelection.Proofs.Store.Restoration

namespace WirelessSelection

lemma bind_eq_ok_iff {α β : Type} {x : Except Fault α} {f : α → Except Fault β} {b : β} :
    x >>= f = .ok b ↔ ∃ a, x = .ok a ∧ f a = .ok b := by
  cases x with
  | error e => exact iff_of_false (fun h => by contradiction) (fun ⟨_, h, _⟩ => by contradiction)
  | ok a => exact ⟨fun h => ⟨a, rfl, h⟩, fun ⟨_, ha, h⟩ => Except.ok.inj ha ▸ h⟩

lemma bind_eq_error_iff {α β : Type} {x : Except Fault α} {g : α → Except Fault β} {f : Fault} :
    x >>= g = .error f ↔ x = .error f ∨ ∃ a, x = .ok a ∧ g a = .error f := by
  cases x with
  | error e => simp [bind, Except.bind]
  | ok a => simp [bind, Except.bind]

lemma map_eq_error_iff {α β : Type} {x : Except Fault α} {g : α → β} {f : Fault} :
    x.map g = .error f ↔ x = .error f := by
  cases x <;> simp [Except.map]

lemma Ssid.parse_eq_error_iff {name : String} {f : Fault} :
    Ssid.parse name = .error f ↔ 32 < name.utf8ByteSize ∧ f = .ssidTooLong := by
  rw [parse, ofString?]
  by_cases h : name.utf8ByteSize ≤ 32
  · simp [h]
  · simp [h, Nat.not_le.mp h, eq_comm]

namespace ProfileTable

variable {t t' : ProfileTable} {f : Fault} {id : NetworkId}

lemma append_eq_error_iff {p : Profile} :
    t.append p = .error f ↔ t.nextId = NetworkId.last ∧ f = .idsExhausted := by
  rw [append, allocate]
  by_cases h : t.nextId = NetworkId.last
  · simp [h, UInt32.lt_irrefl, bind, Except.bind, eq_comm]
  · simp [h, lt_last_of_ne h, bind, Except.bind, pure, Except.pure]

lemma append_bind_eq_error_iff {α : Type} {p : Profile} {g : ProfileTable → α} :
    (do let t' ← t.append p; return g t' : Except Fault α) = .error f ↔
      t.nextId = NetworkId.last ∧ f = .idsExhausted := by
  rw [← append_eq_error_iff (p := p)]
  refine bind_eq_error_iff.trans (or_iff_left ?_)
  rintro ⟨t', -, h⟩
  contradiction

lemma add_eq_error_iff {name : String} {security : Security} : t.add name security = .error f ↔
    (32 < name.utf8ByteSize ∧ f = .ssidTooLong) ∨ ∃ ssid, Ssid.parse name = .ok ssid ∧
      t.find? (.derive ssid security) = none ∧ t.nextId = NetworkId.last ∧ f = .idsExhausted := by
  rw [← Ssid.parse_eq_error_iff, add, Profile.create]
  cases Ssid.parse name with
  | error e => simp [bind, Except.bind]
  | ok ssid =>
    simp only [bind, Except.bind, pure, Except.pure, Profile.key, reduceCtorEq, false_or,
      Except.ok.injEq, exists_eq_left']
    cases t.find? (.derive ssid security) with
    | some e => simp
    | none => exact append_bind_eq_error_iff.trans (by simp)

lemma createEphemeral_eq_error_iff {o : Observation} : t.createEphemeral o = .error f ↔
    (o.isOpen = false ∧ f = .notOpen) ∨
      o.isOpen = true ∧ t.resolve o = none ∧ t.nextId = NetworkId.last ∧ f = .idsExhausted := by
  rw [createEphemeral]
  cases o.isOpen with
  | false => simp [eq_comm]
  | true =>
    cases t.resolve o with
    | some p => simp
    | none => exact append_bind_eq_error_iff.trans (by simp)

lemma settle_eq_error_iff {α : Type} {r : Except Fault (α × ProfileTable)} :
    t.settle r = (.error f, t') ↔ r = .error f ∧ t' = t := by
  cases r with
  | error e => simp [settle, eq_comm]
  | ok r => simp [settle]

lemma settle_eq_ok_iff {α : Type} {r : Except Fault (α × ProfileTable)} {a : α} :
    t.settle r = (.ok a, t') ↔ r = .ok (a, t') := by
  cases r with
  | error e => simp [settle]
  | ok r => simp [settle, Prod.ext_iff]

lemma createEphemeral_eq_settle (t : ProfileTable) (o : Observation) :
    ProfileStore.createEphemeral t o = t.settle (t.createEphemeral o) :=
  rfl

lemma change_eq_settle (t : ProfileTable) (id : NetworkId) (c : Change) :
    ProfileStore.change t id c = t.settle ((t.modify id (·.apply c)).map ((), ·)) :=
  rfl

lemma map_mk_eq_ok_iff {α : Type} {r : Except Fault ProfileTable} {a : α} :
    r.map (a, ·) = .ok (a, t') ↔ r = .ok t' := by
  cases r <;> simp [Except.map]

lemma contains_eq_false_iff : t.profiles.contains id = false ↔ t.profiles.get? id = none := by
  rw [IdMap.contains, Option.isSome_eq_false_iff, Option.isNone_iff_eq_none]

lemma modify_eq_error_iff {g : Profile → Profile} :
    t.modify id g = .error f ↔ t.profiles.get? id = none ∧ f = .unknownNetwork id := by
  rw [← contains_eq_false_iff, modify]
  cases t.profiles.contains id <;> simp [eq_comm]

lemma markPicked_eq_error_iff {timestamp : Millis} :
    t.markPicked id timestamp = .error f ↔ t.profiles.get? id = none ∧ f = .unknownNetwork id := by
  rw [← contains_eq_false_iff, markPicked]
  cases t.profiles.contains id <;> simp [eq_comm]

end ProfileTable

end WirelessSelection
