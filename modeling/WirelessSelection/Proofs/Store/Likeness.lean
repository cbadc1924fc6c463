import WirelessSelection.Proofs.Store.Recording

namespace WirelessSelection

def Attempt.Annotates : Attempt → Prop
  | change _ c => c.OfRound
  | resolve _ | createEphemeral _ => False

namespace ProfileTable

variable {t t' u u' : ProfileTable}

structure Alike (t t' : ProfileTable) : Prop where
  wellFormed : t.WellFormed
  wellFormed' : t'.WellFormed
  core : t'.profiles.view Profile.core = t.profiles.view Profile.core
  nextId_eq : t'.nextId = t.nextId
  lastPick_eq : t'.lastPick = t.lastPick

namespace Alike

lemma refl (h : t.WellFormed) : Alike t t :=
  ⟨h, h, rfl, rfl, rfl⟩

lemma get?_core (h : Alike t t') (i : NetworkId) :
    (t'.profiles.get? i).map Profile.core = (t.profiles.get? i).map Profile.core :=
  IdMap.get?_map_of_view h.core i

lemma resolve_core (h : Alike t t') (o : Observation) :
    (t'.resolve o).map Profile.core = (t.resolve o).map Profile.core := by
  rw [ProfileTable.resolve_core, ProfileTable.resolve_core, h.core]

lemma of_changes (h : Alike t t') {allowed : Change → Prop} (ha : ∀ c, allowed c → c.OfRound)
    (hu : Writes (Write.Changes allowed) t u) (hu' : Writes (Write.Changes allowed) t' u') :
    Alike u u' := by
  have hview {v w : ProfileTable} (hw : Writes (Write.Changes allowed) v w) :
      w.profiles.view Profile.core = v.profiles.view Profile.core :=
    view_of_writes (fun c hc p => Profile.core_apply (ha c hc) p) hw
  obtain ⟨hn, hl⟩ := counters_of_writes hu
  obtain ⟨hn', hl'⟩ := counters_of_writes hu'
  constructor
  case wellFormed => exact h.wellFormed.writes hu
  case wellFormed' => exact h.wellFormed'.writes hu'
  case core => rw [hview hu, hview hu', h.core]
  case nextId_eq => rw [hn, hn', h.nextId_eq]
  case lastPick_eq => rw [hl, hl', h.lastPick_eq]

lemma append_untrusted (h : Alike t t') {o : Observation} (ho : o.isOpen = true)
    (hr : t.resolve o = none) (hr' : t'.resolve o = none)
    (hu : t.append (untrusted t.nextId o) = .ok u)
    (hu' : t'.append (untrusted t'.nextId o) = .ok u') : Alike u u' := by
  have hwf := h.wellFormed.append_untrusted ho hr hu
  have hwf' := h.wellFormed'.append_untrusted ho hr' hu'
  obtain ⟨-, rfl⟩ := append_eq_ok_iff.mp hu
  obtain ⟨-, rfl⟩ := append_eq_ok_iff.mp hu'
  constructor
  case wellFormed => exact hwf
  case wellFormed' => exact hwf'
  case core =>
    change (t'.profiles.insert _ _).view _ = (t.profiles.insert _ _).view _
    rw [IdMap.view_insert_of_forall_lt (IdMap.forall_lt_of_get? fun _ _ => h.wellFormed.lt_nextId),
      IdMap.view_insert_of_forall_lt (IdMap.forall_lt_of_get? fun _ _ => h.wellFormed'.lt_nextId),
      h.core, h.nextId_eq]
  case nextId_eq => exact congrArg (· + 1) h.nextId_eq
  case lastPick_eq => exact h.lastPick_eq

lemma createEphemeral (h : Alike t t') {o : Observation} (hr : t.resolve o = none)
    (hr' : t'.resolve o = none) :
    (∃ f f', ProfileStore.createEphemeral t o = (.error f, t) ∧
      ProfileStore.createEphemeral t' o = (.error f', t')) ∨
    ∃ p u u', ProfileStore.createEphemeral t o = (.ok p, u) ∧
      ProfileStore.createEphemeral t' o = (.ok p, u') ∧ Alike u u' := by
  obtain ⟨f, hc, hlast⟩ | ⟨u, hc, ho, ha⟩ := createEphemeral_of_unresolved hr <;>
    obtain ⟨f', hc', hlast'⟩ | ⟨u', hc', ho', ha'⟩ := createEphemeral_of_unresolved hr'
  · exact .inl ⟨f, f', hc, hc'⟩
  · have hroom := (append_eq_ok_iff.mp ha').1
    rw [h.nextId_eq] at hroom
    exact absurd hroom (hlast ho')
  · have hroom := (append_eq_ok_iff.mp ha).1
    rw [← h.nextId_eq] at hroom
    exact absurd hroom (hlast' ho)
  · refine .inr ⟨_, u, u', hc, ?_, h.append_untrusted ho hr hr' ha ha'⟩
    rw [hc', h.nextId_eq]

end Alike

end ProfileTable

/-- A recorder in whose place a table could stand: only annotations fail, and of those nothing is
promised. -/
structure Recorder.Mirrors (r : Recorder ProfileTable) (t : ProfileTable) : Prop where
  annotates {a : Attempt} (h : r.fails a = true) : a.Annotates
  alike : t.Alike r.store

namespace Recorder.Mirrors

variable {r r' : Recorder ProfileTable} {t t' : ProfileTable}

lemma resolve_eq (h : r.Mirrors t) (o : Observation) :
    ProfileStore.resolve r o = .ok (r.store.resolve o) := by
  refine if_neg ?_
  exact fun hf => h.annotates hf

lemma createEphemeral_eq (h : r.Mirrors t) (o : Observation) :
    ∃ r', ProfileStore.createEphemeral r o =
        ((ProfileStore.createEphemeral r.store o).1, r') ∧ r'.fails = r.fails ∧
      r'.store = (ProfileStore.createEphemeral r.store o).2 := by
  have hf : r.fails (.createEphemeral o.ssid.text) = false := by
    rw [← Bool.not_eq_true]
    exact fun hf => h.annotates hf
  exact ⟨_, attempt_of_not_fails hf _, rfl, rfl⟩

lemma of_changes (h : r.Mirrors t) {allowed : Change → Prop} (ha : ∀ c, allowed c → c.OfRound)
    (hr : Writes (Write.Changes allowed) r r') (ht : Writes (Write.Changes allowed) t t') :
    r'.Mirrors t' where
  annotates hf := h.annotates (fails_of_writes hr ▸ hf)
  alike := h.alike.of_changes ha ht (writes_store hr)

lemma profile?_core (h : r.Mirrors t) (i : NetworkId) :
    (ProfileStore.profile? r i).map Profile.core = (ProfileStore.profile? t i).map Profile.core :=
  h.alike.get?_core i

end Recorder.Mirrors

end WirelessSelection
