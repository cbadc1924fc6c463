import WirelessSelection.Proofs.Noninterference

/-! The open networks of a round that the user never saved. They are listed after profiles have been
made for some of them, and yet the list depends on the saved profiles alone. -/

namespace WirelessSelection

namespace ProfileTable

variable {t t' : ProfileTable}

def savedCore (t : ProfileTable) (i : NetworkId) : Option Profile :=
  ((t.profiles.get? i).filter fun p => !p.ephemeral).map Profile.core

def SavesAlike (t t' : ProfileTable) : Prop :=
  ∀ i, t'.savedCore i = t.savedCore i

namespace SavesAlike

variable {t'' : ProfileTable}

lemma symm (h : t.SavesAlike t') : t'.SavesAlike t :=
  fun i => (h i).symm

lemma trans (h : t.SavesAlike t') (h' : t'.SavesAlike t'') : t.SavesAlike t'' :=
  fun i => (h' i).trans (h i)

end SavesAlike

lemma savedCore_eq_some_iff {i : NetworkId} {c : Profile} : t.savedCore i = some c ↔
    ∃ p, t.profiles.get? i = some p ∧ p.ephemeral = false ∧ p.core = c := by
  simp only [savedCore, Option.map_eq_some_iff, Option.filter_eq_some_iff, Bool.not_eq_true',
    and_assoc]

lemma Extends.savesAlike (h : t.Extends t') : t.SavesAlike t' := by
  intro i
  ext c
  rw [savedCore_eq_some_iff, savedCore_eq_some_iff]
  constructor
  · rintro ⟨q, hq, hs, rfl⟩
    obtain ⟨p, hp, hcore⟩ := h.get?_core_of_saved hq hs
    exact ⟨p, hp, (Profile.ephemeral_eq_of_core hcore).trans hs, hcore⟩
  · rintro ⟨p, hp, hs, rfl⟩
    obtain ⟨q, hq, hcore⟩ := h.get?_core hp
    exact ⟨q, hq, (Profile.ephemeral_eq_of_core hcore).trans hs, hcore⟩

lemma mem_saved_iff {p : Profile} :
    p ∈ t.saved ↔ (∃ i, t.profiles.get? i = some p) ∧ p.ephemeral = false := by
  rw [saved, List.mem_filter, IdMap.mem_values_iff, Bool.not_eq_true']

lemma any_saved_isMatch_iff {o : Observation} : t.saved.any (·.isMatch o) = true ↔
    ∃ i c, t.savedCore i = some c ∧ c.isMatch o = true := by
  simp only [List.any_eq_true, mem_saved_iff, savedCore_eq_some_iff]
  constructor
  · rintro ⟨p, ⟨⟨i, hp⟩, hs⟩, hm⟩
    exact ⟨i, p.core, ⟨p, hp, hs, rfl⟩, hm⟩
  · rintro ⟨i, _, ⟨p, hp, hs, rfl⟩, hm⟩
    exact ⟨p, ⟨⟨i, hp⟩, hs⟩, hm⟩

lemma SavesAlike.any_isMatch (h : t.SavesAlike t') (o : Observation) :
    t'.saved.any (·.isMatch o) = t.saved.any (·.isMatch o) := by
  rw [Bool.eq_iff_iff, any_saved_isMatch_iff, any_saved_isMatch_iff]
  simp only [h _]

lemma WellFormed.isUnsaved_eq (h : t.WellFormed) (o : Observation) :
    Selector.isUnsaved t o = !t.saved.any (·.isMatch o) := by
  have hsaved : t.saved.any (·.isMatch o) = true ↔
      ∃ p, t.resolve o = some p ∧ p.ephemeral = false := by
    simp only [List.any_eq_true, mem_saved_iff, h.resolve_eq_some_iff]
    constructor
    · rintro ⟨p, ⟨⟨i, hp⟩, hs⟩, hm⟩
      obtain rfl := h.id_eq hp
      exact ⟨p, ⟨hp, hm⟩, hs⟩
    · rintro ⟨p, ⟨hp, hm⟩, hs⟩
      exact ⟨p, ⟨⟨p.id, hp⟩, hs⟩, hm⟩
  rw [Selector.isUnsaved, resolve_eq, ← Bool.not_eq_not, Bool.not_not, Bool.eq_iff_iff, hsaved]
  cases t.resolve o with
  | none => simp
  | some p => simp

end ProfileTable

namespace Selector

variable {sel : Selector ProfileTable} {t t' : ProfileTable}

lemma skip?_of_savesAlike (h : t.SavesAlike t') (req : Request) (usable : List Observation)
    (now : Millis) : sel.skip? req usable now t' = sel.skip? req usable now t := by
  have hcurrent : ((sel.situation req usable now t').current.filter fun p => !p.ephemeral).map
      Profile.core = ((sel.situation req usable now t).current.filter fun p => !p.ephemeral).map
      Profile.core := by
    rw [situation, situation]
    cases req.association.network with
    | none => rfl
    | some id => exact h id
  rw [skip?, skip?, Situation.skip?_of_saved sel.settings hcurrent rfl]

lemma isCompleted_of_savesAlike (h : sel.IsDefault) (ht : t.WellFormed) (ht' : t'.WellFormed)
    (hs : t.SavesAlike t') (req : Request) (now : Millis) :
    (sel.select req now t').isCompleted = (sel.select req now t).isCompleted := by
  have hupdated : (sel.panel.update req.scan t).SavesAlike (sel.panel.update req.scan t') :=
    ((ProfileTable.Extends.of_writes ht (h.within.update_writes req.scan t)).savesAlike.symm.trans
      hs).trans (ProfileTable.Extends.of_writes ht' (h.within.update_writes req.scan t')).savesAlike
  rw [isCompleted_select, isCompleted_select, skip?_of_savesAlike hupdated]

lemma isCompleted_allowing (req : Request) (untrustedAllowed : Bool) (now : Millis)
    (t : ProfileTable) : (sel.select (req.allowing untrustedAllowed) now t).isCompleted =
      (sel.select req now t).isCompleted := by
  rw [isCompleted_select, isCompleted_select]
  rfl

lemma openUnsaved_eq (h : sel.IsDefault) (ht : t.WellFormed) {req : Request} {now : Millis}
    (hc : (sel.select req now t).isCompleted = true) :
    (sel.select req now t).memory.openUnsaved =
      (sel.usable req).filter fun o => o.isOpen && !t.saved.any (·.isMatch o) := by
  have hw := select_ofRound h req now t
  have hsaves := (ProfileTable.Extends.of_writes ht hw).savesAlike
  rw [openUnsaved_of_isCompleted hc, List.filter_filter]
  apply List.filter_congr
  intro o _
  rw [(ht.writes hw).isUnsaved_eq, hsaves.any_isMatch, Bool.and_comm]

lemma openUnsaved_of_not_isCompleted {σ : Type} [ProfileStore σ] {sel : Selector σ}
    {req : Request} {now : Millis} {store : σ}
    (hc : (sel.select req now store).isCompleted = false) :
    (sel.select req now store).memory.openUnsaved = [] := by
  obtain ⟨reason, -, hs⟩ := select_of_not_isCompleted hc
  rw [hs]
  rfl

theorem openUnsaved_exact (ht : t.Reachable) (h : sel.IsDefault) (req : Request) (now : Millis) :
    let r := sel.select req now t
    (r.isCompleted = true → r.memory.openUnsaved =
      (sel.usable req).filter fun o => o.isOpen && !t.saved.any (·.isMatch o)) ∧
    (r.isCompleted = false → r.memory.openUnsaved = []) ∧
    t.SavesAlike r.store ∧
    ∀ t' untrustedAllowed, t'.Reachable → t.SavesAlike t' →
      (sel.select (req.allowing untrustedAllowed) now t').memory.openUnsaved =
        r.memory.openUnsaved := by
  intro r
  have hwf := ht.wellFormed
  refine ⟨openUnsaved_eq h hwf, openUnsaved_of_not_isCompleted, ?_, ?_⟩
  · exact (ProfileTable.Extends.of_writes hwf (select_ofRound h req now t)).savesAlike
  · intro t' untrustedAllowed ht' hs
    have hsame : (sel.select (req.allowing untrustedAllowed) now t').isCompleted = r.isCompleted :=
      (isCompleted_allowing req untrustedAllowed now t').trans
        (isCompleted_of_savesAlike h hwf ht'.wellFormed hs req now)
    cases hc : r.isCompleted with
    | false =>
      rw [openUnsaved_of_not_isCompleted (hsame.trans hc), openUnsaved_of_not_isCompleted hc]
    | true =>
      rw [openUnsaved_eq h ht'.wellFormed (hsame.trans hc), openUnsaved_eq h hwf hc]
      simp only [hs.any_isMatch]
      rfl

theorem openUnsaved_exact_cafe :
    let t := Operation.runAll [.add "home" .psk, .add "bar" .unsecured] .empty
    let r := Sample.selector.select Sample.openScan 0 t
    r.memory.openUnsaved = [Sample.cafe, Sample.farCafe] ∧ t.profiles.keys = [0, 1] ∧
      r.store.profiles.keys = [0, 1, 2] ∧
      (Sample.selector.select (Sample.openScan.allowing false) 0 r.store).memory.openUnsaved =
        [Sample.cafe, Sample.farCafe] ∧
      (Sample.selector.select { Sample.openScan with link := .transitioning } 0
        t).memory.openUnsaved = [] := by
  intro t r
  have ht : t.Reachable := ⟨_, rfl⟩
  obtain ⟨hview, -, hsaves, hsame⟩ :=
    openUnsaved_exact ht Sample.isDefault_selector Sample.openScan 0
  obtain ⟨-, hnone, -⟩ := openUnsaved_exact ht Sample.isDefault_selector
    { Sample.openScan with link := .transitioning } 0
  have hreach : r.store.Reachable := ht.run (.select _ Sample.isDefault_selector Sample.openScan 0)
  have hkeys : t.profiles.keys = [0, 1] ∧ r.store.profiles.keys = [0, 1, 2] := by decide
  refine ⟨?_, hkeys.1, hkeys.2, ?_, ?_⟩
  · rw [hview (by decide)]
    decide
  · rw [hsame r.store false hreach hsaves, hview (by decide)]
    decide
  · rw [hnone (by decide)]

end Selector

end WirelessSelection
