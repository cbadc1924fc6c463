import WirelessSelection.Proofs.Operation

namespace WirelessSelection

namespace Profile

def cleared (p : Profile) : Profile :=
  if p.ephemeral then p
  else { p with status := { p.status with candidate := none, score := none } }

variable {p : Profile}

lemma cleared_of_saved (h : p.ephemeral = false) : p.cleared = p.apply .clearCandidate := by
  rw [cleared, if_neg (by simp [h])]
  rfl

lemma cleared_of_ephemeral (h : p.ephemeral = true) : p.cleared = p :=
  if_pos h

lemma apply_clearCandidate (h : p.status.hasCandidate = false) : p.apply .clearCandidate = p := by
  obtain ⟨id, ssid, security, ephemeral, availability, candidate, score, seen, choice⟩ := p
  obtain ⟨hc, hs⟩ := Bool.or_eq_false_iff.mp h
  obtain rfl : candidate = none := Option.not_isSome_iff_eq_none.mp (ne_true_of_eq_false hc)
  obtain rfl : score = none := Option.not_isSome_iff_eq_none.mp (ne_true_of_eq_false hs)
  rfl

end Profile

namespace SavedNetworks

lemma get?_update {t : ProfileTable} (ht : t.WellFormed) (scan : List Observation)
    (i : NetworkId) :
    (update scan t).profiles.get? i = (t.profiles.get? i).map Profile.cleared := by
  change ((t.saved.filter (·.status.hasCandidate)).foldl
    (fun t p => (ProfileStore.change t p.id .clearCandidate).2) t).profiles.get? i = _
  rw [ProfileTable.saved, List.filter_filter, ht.get?_foldl_change]
  congr 1
  funext p
  cases he : p.ephemeral with
  | true => simp [Profile.cleared_of_ephemeral he]
  | false =>
    rw [Profile.cleared_of_saved he]
    split
    · rfl
    · next h => exact (Profile.apply_clearCandidate (by simpa using h)).symm

end SavedNetworks

namespace Selector

variable {sel : Selector ProfileTable} {t : ProfileTable} {req : Request} {now : Millis}

lemma IsDefault.select_changes {σ : Type} [ProfileStore σ] {sel : Selector σ} (h : sel.IsDefault)
    (hu : req.untrustedAllowed = false) (now : Millis) (store : σ) :
    Writes (Write.Changes Change.OfRound) store (sel.select req now store).store := by
  have hup : Writes (Write.Changes Change.OfRound) store (sel.panel.update req.scan store) := by
    refine (h.update_writes req.scan store).mono_changes ?_
    rintro _ rfl
    trivial
  cases hc : (sel.select req now store).isCompleted with
  | false =>
    obtain ⟨reason, -, hs⟩ := select_of_not_isCompleted hc
    rw [hs]
    exact hup
  | true =>
    rw [select_of_isCompleted hc, complete_store, h.evaluate_eq,
      UntrustedNetworks.evaluate_of_not_allowed _ hu]
    refine hup.trans (((SavedNetworks.evaluate_writes ..).mono_changes ?_).trans
      ((refreshSeen_writes ..).mono_changes ?_))
    · rintro _ ⟨o, s, rfl⟩
      trivial
    · rintro _ ⟨seen, rfl⟩
      trivial

lemma IsDefault.of_new (h : sel.IsDefault) (ht : t.WellFormed) {id : NetworkId} {q : Profile}
    (hq : (sel.select req now t).store.profiles.get? id = some q)
    (hnew : t.profiles.get? id = none) :
    q.ephemeral = true ∧ q.security = .unsecured ∧ req.untrustedAllowed = true := by
  have hext := ProfileTable.Extends.of_writes ht (select_ofRound h req now t)
  obtain ⟨new, hview, hnews⟩ := hext.core
  have hmem : (id, q.core) ∈ (sel.select req now t).store.profiles.view Profile.core :=
    IdMap.mem_view.mpr ⟨q, hq, rfl⟩
  have hold : (id, q.core) ∉ t.profiles.view Profile.core := by
    intro hm
    obtain ⟨p, hp, -⟩ := IdMap.mem_view.mp hm
    exact Option.some_ne_none _ (hp.symm.trans hnew)
  rw [hview, List.mem_append] at hmem
  obtain ⟨o, ho⟩ := hnews _ (hmem.resolve_left hold)
  refine ⟨congrArg Profile.ephemeral ho, congrArg Profile.security ho, ?_⟩
  rw [← Bool.not_eq_false]
  intro hu
  have hv := ProfileTable.view_of_writes (f := Profile.core) (fun _ => Profile.core_apply)
    (h.select_changes hu now t)
  exact hold (hv ▸ IdMap.mem_view.mpr ⟨q, hq, rfl⟩)

theorem select_frame (ht : t.Reachable) (h : sel.IsDefault) (req : Request) (now : Millis) :
    let r := sel.select req now t
    (r.isCompleted = false →
      (∀ id, r.store.profiles.get? id = (t.profiles.get? id).map fun p =>
        if p.ephemeral then p
        else { p with status := { p.status with candidate := none, score := none } }) ∧
      r.store.nextId = t.nextId ∧ r.store.lastPick = t.lastPick ∧
      r.memory.connectable = [] ∧ r.memory.openUnsaved = [] ∧
      r.memory.lastSelection = sel.memory.lastSelection) ∧
    (r.isCompleted = true →
      (∀ id p, t.profiles.get? id = some p → ∃ candidate score seen,
        r.store.profiles.get? id =
          some { p with status := { p.status with candidate, score, seen } }) ∧
      r.store.lastPick = t.lastPick ∧
      ∀ id q, r.store.profiles.get? id = some q → t.profiles.get? id = none →
        q.ephemeral = true ∧ q.security = .unsecured ∧ req.untrustedAllowed = true) := by
  intro r
  have hwf := ht.wellFormed
  have hext := ProfileTable.Extends.of_writes hwf (select_ofRound h req now t)
  constructor
  · intro hc
    obtain ⟨reason, -, hs⟩ := select_of_not_isCompleted hc
    obtain ⟨hnext, hlast⟩ := ProfileTable.counters_of_writes (skip_writes h hc)
    refine ⟨?_, hnext, hlast, ?_⟩
    · intro id
      have hr : r.store = SavedNetworks.update req.scan t := by
        rw [← h.update_eq]
        exact congrArg (·.store) hs
      rw [hr]
      exact SavedNetworks.get?_update hwf req.scan id
    · rw [show r = _ from hs]
      exact ⟨rfl, rfl, rfl⟩
  · intro _
    refine ⟨?_, hext.lastPick_eq, fun id q => h.of_new hwf⟩
    intro id p hp
    obtain ⟨q, hq, hcore⟩ := hext.get?_core hp
    exact ⟨_, _, _, hq.trans (congrArg some (Profile.eq_of_core hcore))⟩

theorem select_frame_cafe :
    let r := Sample.selector.select (Sample.request .disconnected) 0 Sample.table
    let r' := Sample.selector.select (Sample.request .transitioning) 10 r.store
    r.isCompleted = true ∧ r'.isCompleted = false ∧
      (∃ p candidate score seen, Sample.table.profiles.get? 0 = some p ∧
        r.store.profiles.get? 0 =
          some { p with status := { p.status with candidate, score, seen } }) ∧
      (∃ q, r.store.profiles.get? 2 = some q ∧ q.ephemeral = true ∧ q.security = .unsecured) ∧
      r.store.lastPick = none ∧ r'.store.profiles.get? 2 = r.store.profiles.get? 2 ∧
      (r.store.profiles.get? 0).map (·.status.hasCandidate) = some true ∧
      (r'.store.profiles.get? 0).map (·.status.hasCandidate) = some false ∧
      r'.memory.connectable = [] := by
  intro r r'
  have hc : r.isCompleted = true := by decide
  have hs : r'.isCompleted = false := by decide
  have hreach : r.store.Reachable :=
    ⟨[.add "home" .psk, .add "office" .psk,
      .select Sample.selector Sample.isDefault_selector (Sample.request .disconnected) 0], rfl⟩
  obtain ⟨hkept, hlast, hnew⟩ := (select_frame Sample.reachable_table Sample.isDefault_selector
    (Sample.request .disconnected) 0).2 hc
  obtain ⟨hcleared, -, -, hviews, -, -⟩ := (select_frame hreach Sample.isDefault_selector
    (Sample.request .transitioning) 10).1 hs
  have hold : (Sample.table.profiles.get? 0).isSome = true := by decide
  have hcafe : (r.store.profiles.get? 2).map (·.ephemeral) = some true := by decide
  have hhome : (r.store.profiles.get? 0).map (fun p => (p.ephemeral, p.status.hasCandidate)) =
      some (false, true) := by decide
  obtain ⟨p₀, hp₀⟩ := Option.isSome_iff_exists.mp hold
  obtain ⟨candidate, score, seen, hnoted⟩ := hkept 0 p₀ hp₀
  obtain ⟨q, hq, he⟩ := Option.map_eq_some_iff.mp hcafe
  obtain ⟨p, hp, hpair⟩ := Option.map_eq_some_iff.mp hhome
  obtain ⟨hsaved, hcand⟩ := Prod.mk.inj hpair
  obtain ⟨-, hsec, -⟩ := hnew 2 q hq (by decide)
  refine ⟨hc, hs, ⟨p₀, candidate, score, seen, hp₀, hnoted⟩, ⟨q, hq, he, hsec⟩, hlast, ?_, ?_, ?_,
    hviews⟩
  · rw [hcleared, hq, Option.map_some, if_pos he]
  · rw [hp, Option.map_some, hcand]
  · rw [hcleared, hp, Option.map_some, if_neg (by simp [hsaved])]
    rfl

end Selector

end WirelessSelection
