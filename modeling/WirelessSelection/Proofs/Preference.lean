import WirelessSelection.Proofs.Overlay
import WirelessSelection.Proofs.SeenFlags

namespace WirelessSelection

namespace Profile

variable {p : Profile}

lemma apply_setEnabled (h : p.isEnabled = true) : p.apply (.setEnabled true) = p := by
  obtain ⟨id, ssid, security, ephemeral, status⟩ := p
  have ha : status.availability = .enabled := of_decide_eq_true h
  rw [apply, Status.apply, if_pos rfl, ← ha]

lemma apply_clearChoice (h : p.status.choice = none) : p.apply .clearChoice = p := by
  obtain ⟨id, ssid, security, ephemeral, status⟩ := p
  rw [apply, Status.apply, ← h]

end Profile

namespace Override

variable {t : ProfileTable} {u : NetworkId}

def reinstated (p : Profile) : Profile :=
  (p.apply (.setEnabled true)).apply .clearChoice

def yielded (u : NetworkId) (choice : ConnectChoice) (p : Profile) : Profile :=
  if isOverridden u choice.key p && !p.ephemeral then p.apply (.setChoice choice) else p

lemma get?_reinstate {p : Profile} (hp : t.profiles.get? u = some p) (i : NetworkId) :
    (reinstate t u p).profiles.get? i =
      if i = u then some (reinstated p) else t.profiles.get? i := by
  let enabled := if p.isEnabled then t else (ProfileStore.change t u (.setEnabled true)).2
  have henabled : enabled.profiles.get? i =
      if i = u then some (p.apply (.setEnabled true)) else t.profiles.get? i := by
    by_cases he : p.isEnabled = true
    · rw [Profile.apply_setEnabled he]
      simp only [enabled, if_pos he]
      split
      · next hi => rw [hi, hp]
      · rfl
    · simp only [enabled, if_neg he, ProfileTable.change_snd, ProfileTable.get?_changed]
      split
      · next hi => rw [hi, hp, Option.map_some]
      · rfl
  change (if p.status.choice.isSome then (ProfileStore.change enabled u .clearChoice).2
    else enabled).profiles.get? i = _
  by_cases hc : p.status.choice.isSome = true
  · rw [if_pos hc, ProfileTable.change_snd, ProfileTable.get?_changed, henabled]
    split <;> rfl
  · have hnone : (p.apply (.setEnabled true)).status.choice = none :=
      Option.not_isSome_iff_eq_none.mp hc
    rw [if_neg hc, henabled, reinstated, Profile.apply_clearChoice hnone]

lemma foldl_fanOut_snd {σ : Type} [ProfileStore σ] (choice : ConnectChoice) (l : List Profile)
    (n : Nat) (store : σ) : (l.foldl (fanOut choice) (n, store)).2 =
      l.foldl (fun store p => (ProfileStore.change store p.id (.setChoice choice)).2) store := by
  induction l generalizing n store with
  | nil => rfl
  | cons p l ih =>
    rw [List.foldl_cons, List.foldl_cons, ← fanOut_snd choice (n, store) p]
    exact ih _ _

lemma get?_choose (ht : t.WellFormed) {p : Profile} (hp : t.profiles.get? u = some p)
    (wall : Millis) (i : NetworkId) : (choose t u wall).2.2.profiles.get? i =
      if i = u then some (reinstated p)
      else (t.profiles.get? i).map (yielded u ⟨p.key, wall⟩) := by
  let back := reinstate t u p
  have hwf : back.WellFormed := ht.writes (reinstate_writes t u p)
  have hchoose : (choose t u wall).2.2 =
      ((back.profiles.values.filter fun q => isOverridden u p.key q && !q.ephemeral).foldl
        (fun t q => (ProfileStore.change t q.id (.setChoice ⟨p.key, wall⟩)).2) back) := by
    rw [← foldl_fanOut_snd _ _ 0, ← List.filter_filter, choose_snd, pick,
      ProfileTable.profile?_eq, hp]
    rfl
  rw [hchoose, hwf.get?_foldl_change, get?_reinstate hp]
  split
  · next hi =>
    have hid : p.id = u := ht.id_eq hp
    have hself : isOverridden u p.key (reinstated p) = false := by
      simp [isOverridden, reinstated, Profile.apply, hid]
    rw [Option.map_some, hself]
    rfl
  · rfl

lemma yielded_ephemeral (u : NetworkId) (choice : ConnectChoice) (p : Profile) :
    (yielded u choice p).ephemeral = p.ephemeral := by
  rw [yielded]
  split <;> rfl

lemma choice_yielded {choice : ConnectChoice} {p : Profile} (hid : p.id ≠ u)
    (hseen : p.status.seen = true) (hs : p.ephemeral = false) :
    (yielded u choice p).status.choice.map (·.key) = some choice.key := by
  rw [yielded]
  split
  · rfl
  · next h => simpa [isOverridden, hid, hseen, hs] using h

end Override

namespace ProfileTable

variable {t t' : ProfileTable} {u : NetworkId} {key : ProfileKey} {rivals : List NetworkId}

structure Prefers (t : ProfileTable) (u : NetworkId) (key : ProfileKey) (rivals : List NetworkId) :
    Prop where
  picked : ∃ p, t.profiles.get? u = some p ∧ p.key = key ∧ p.ephemeral = false ∧
    p.isEnabled = true ∧ p.status.choice = none
  yields {i p} : t.profiles.get? i = some p → i ∈ rivals → i ≠ u → p.ephemeral = false →
    p.status.choice.map (·.key) = some key

lemma prefers_choose (ht : t.WellFormed) {p : Profile} (hp : t.profiles.get? u = some p)
    (hs : p.ephemeral = false)
    (hseen : ∀ i q, t.profiles.get? i = some q → i ∈ rivals → q.status.seen = true)
    (wall : Millis) : (Override.choose t u wall).2.2.Prefers u p.key rivals where
  picked := by
    refine ⟨Override.reinstated p, ?_, rfl, hs, rfl, rfl⟩
    rw [Override.get?_choose ht hp, if_pos rfl]
  yields {i q} hq hi hne hqs := by
    rw [Override.get?_choose ht hp, if_neg hne] at hq
    obtain ⟨q₀, hq₀, rfl⟩ := Option.map_eq_some_iff.mp hq
    rw [Override.yielded_ephemeral] at hqs
    exact Override.choice_yielded (fun h => hne ((ht.id_eq hq₀).symm.trans h))
      (hseen i q₀ hq₀ hi) hqs

lemma Prefers.of_extends (h : t.Prefers u key rivals) (he : t.Extends t') :
    t'.Prefers u key rivals where
  picked := by
    obtain ⟨p, hp, hk, hs, hen, hc⟩ := h.picked
    obtain ⟨q, hq, hcore⟩ := he.get?_core hp
    refine ⟨q, hq, ?_, ?_, ?_, ?_⟩
    · exact (Profile.key_eq_of_core hcore).trans hk
    · exact (Profile.ephemeral_eq_of_core hcore).trans hs
    · exact (Profile.isEnabled_eq_of_core hcore).trans hen
    · exact (Profile.choice_eq_of_core hcore).trans hc
  yields hq hi hne hs := by
    obtain ⟨p, hp, hcore⟩ := he.get?_core_of_saved hq hs
    rw [← Profile.choice_eq_of_core hcore]
    exact h.yields hp hi hne ((Profile.ephemeral_eq_of_core hcore).trans hs)

section Settle

variable {usable : List Observation} {connectable : List Pairing} {q : Pairing}

lemma settle_of_choice_eq_none {r : Profile} (hr : t.profiles.get? q.profile.id = some r)
    (hc : r.status.choice = none) : (Selector.settle t connectable q.profile).1 = r := by
  have hnone : Override.chosen? t q.profile connectable = none := by
    rw [Override.chosen?, choice?_of_stored hr, hc]
    rfl
  rw [Selector.settle, hnone, profile?_eq, hr, Option.getD_some]

lemma settle_of_choice (ht : t.WellFormed) (hb : ∀ q ∈ connectable, q.Backed usable t)
    {p r : Profile} {choice : ConnectChoice} (hr : t.profiles.get? q.profile.id = some r)
    (hc : r.status.choice = some choice) (hp : t.profiles.get? u = some p) (hk : p.key = choice.key)
    (he : p.isEnabled = true) (hne : q.profile.id ≠ u)
    (hu : ∃ q' ∈ connectable, q'.profile.id = u) :
    (Selector.settle t connectable q.profile).1 = p := by
  have hpid : p.id = u := ht.id_eq hp
  have hchosen : Override.chosen? t q.profile connectable = some p := by
    rw [Override.chosen?_eq_some_iff_preferred ht.indexed hr (knows_of_backed hb)]
    refine ⟨?_, he, ?_, ?_, ?_⟩
    · rw [hpid, hp]
    · exact List.mem_map.mpr (hpid ▸ hu)
    · rw [hc, Option.map_some, hk]
    · rw [hpid, ht.id_eq hr]
      exact hne.symm
  rw [Selector.settle, hchosen]

lemma Prefers.settle_id (ht : t.WellFormed) (h : t.Prefers u key rivals)
    (hb : ∀ q ∈ connectable, q.Backed usable t) (hu : ∃ q ∈ connectable, q.profile.id = u)
    (hq : q ∈ connectable) (hs : q.profile.ephemeral = false)
    (hr : q.profile.id ≠ u → q.profile.id ∈ rivals) :
    (Selector.settle t connectable q.profile).1.id = u := by
  obtain ⟨p, hp, hk, -, he, hc⟩ := h.picked
  obtain ⟨r, hrecord, hcore⟩ := (hb q hq).stored
  by_cases hid : q.profile.id = u
  · rw [settle_of_choice_eq_none (hid ▸ hp) hc]
    exact ht.id_eq hp
  · have hyields := h.yields hrecord (hr hid) hid ((Profile.ephemeral_eq_of_core hcore).trans hs)
    obtain ⟨choice, hchoice, hkey⟩ := Option.map_eq_some_iff.mp hyields
    rw [settle_of_choice ht hb hrecord hchoice hp (hk.trans hkey.symm) he hid hu]
    exact ht.id_eq hp

end Settle

end ProfileTable

namespace Selector

def Skips : ProfileTable → ProfileTable → Prop :=
  Relation.ReflTransGen fun t t' => ∃ sel req now, IsDefault sel ∧
    (sel.select req now t).isCompleted = false ∧ (sel.select req now t).store = t'

variable {t t' : ProfileTable} {sel : Selector ProfileTable} {req : Request} {now : Millis}

lemma Skips.writes (h : Skips t t') : Writes (Write.Changes (· = .clearCandidate)) t t' := by
  induction h with
  | refl => exact .refl
  | tail _ hs ih =>
    obtain ⟨sel, req, now, hd, hc, rfl⟩ := hs
    exact ih.trans (skip_writes hd hc)

lemma Skips.extends (h : Skips t t') (ht : t.WellFormed) : t.Extends t' := by
  refine .of_writes ht (h.writes.ofRound ?_)
  rintro _ rfl
  trivial

lemma Skips.seen_eq (h : Skips t t') {i : NetworkId} {p : Profile}
    (hp : t'.profiles.get? i = some p) :
    ∃ q, t.profiles.get? i = some q ∧ q.status.seen = p.status.seen := by
  have hv := ProfileTable.view_of_writes (f := fun p => p.status.seen)
    (by rintro _ rfl _; rfl) h.writes
  apply IdMap.mem_view.mp
  rw [← hv]
  exact IdMap.mem_view.mpr ⟨p, hp, rfl⟩

namespace IsDefault

lemma exists_connectable_of_resolve (h : sel.IsDefault) (ht : t.WellFormed)
    (hc : (sel.select req now t).isCompleted = true) {o : Observation}
    (ho : o.Passes req sel.settings) {p : Profile} (hr : t.resolve o = some p)
    (hs : p.ephemeral = false) (he : p.isEnabled = true) :
    ∃ q ∈ (sel.select req now t).memory.connectable, q.profile.core = p.core := by
  have hup := ht.writes (h.within.update_writes req.scan t)
  have hext := ProfileTable.Extends.of_writes ht (h.within.update_writes req.scan t)
  obtain ⟨p', hr', hcore⟩ := hext.resolve_core ht hup hr
  obtain ⟨q, hq, hqc⟩ := h.mem_connectable_of_resolve (sel.context req now) hup
    (mem_usable_iff.mpr ho) hr' ((Profile.ephemeral_eq_of_core hcore).trans hs)
    ((Profile.isEnabled_eq_of_core hcore).trans he)
  rw [connectable_of_isCompleted hc]
  exact ⟨q, hq, hqc.trans hcore⟩

lemma exists_resolve_of_mem_connectable (h : sel.IsDefault) (ht : t.WellFormed) {q : Pairing}
    (hq : q ∈ (sel.select req now t).memory.connectable) (hs : q.profile.ephemeral = false) :
    ∃ p, t.resolve q.observation = some p ∧ p.core = q.profile.core := by
  have hext := ProfileTable.Extends.of_writes ht (select_ofRound h req now t)
  have hb := (h.backed_of_mem_connectable ht hq).1
  obtain ⟨r, hr, hcore⟩ := hb.stored
  obtain ⟨p, hp, hpr⟩ := hext.get?_core_of_saved hr ((Profile.ephemeral_eq_of_core hcore).trans hs)
  have hpq := hpr.trans hcore
  have hid : p.id = q.profile.id := Profile.id_eq_of_core hpq
  refine ⟨p, ht.resolve_eq_some_iff.mpr ⟨hid ▸ hp, ?_⟩, hpq⟩
  rw [Profile.isMatch_eq_of_core hpq, hb.isMatch]

lemma candidate_of_prefers (h : sel.IsDefault) (hlast : sel.settings.resolution = .lastWins)
    (ht : t.WellFormed) {u : NetworkId} {key : ProfileKey} {rivals : List NetworkId}
    (hp : t.Prefers u key rivals) (hc : (sel.select req now t).isCompleted = true)
    (hu : ∃ o : Observation, o.Passes req sel.settings ∧ ∃ p, t.resolve o = some p ∧ p.id = u)
    (hrivals : ∀ o : Observation, o.Passes req sel.settings → ∀ p, t.resolve o = some p →
      p.ephemeral = false → p.isEnabled = true → p.id ≠ u → p.id ∈ rivals) :
    ∃ n, (sel.select req now t).candidate = some n ∧ n.id = u := by
  have hwrites := select_ofRound h req now t
  have hback (q : Pairing) (hq : q ∈ (sel.select req now t).memory.connectable) :=
    (h.backed_of_mem_connectable ht hq).1
  obtain ⟨o, ho, p, hr, rfl⟩ := hu
  obtain ⟨p', hp', -, hs, he, -⟩ := hp.picked
  obtain rfl : p = p' := Option.some.inj ((ht.resolve_eq_some_iff.mp hr).1.symm.trans hp')
  obtain ⟨q, hq, hcore⟩ := h.exists_connectable_of_resolve ht hc ho hr hs he
  have hq' := hq
  rw [connectable_of_isCompleted hc] at hq'
  have hup := ht.writes (h.within.update_writes req.scan t)
  obtain ⟨r, hr, hrs, hcand⟩ := h.candidate_of_lastWins hup
    hlast hq' ((Profile.ephemeral_eq_of_core hcore).trans hs)
  rw [← verdict, ← connectable_of_isCompleted hc] at hr
  refine ⟨_, by rw [candidate_of_isCompleted hc, verdict, hcand, Option.map_some], ?_⟩
  refine (hp.of_extends (.of_writes ht hwrites)).settle_id (ht.writes hwrites) hback
    ⟨q, hq, Profile.id_eq_of_core hcore⟩ hr hrs ?_
  -- A proposal other than the pick belongs to an observation of the request, so it is a rival.
  intro hne
  obtain ⟨r₀, hr₀, hrcore⟩ := h.exists_resolve_of_mem_connectable ht hr hrs
  rw [← Profile.id_eq_of_core hrcore] at hne ⊢
  refine hrivals r.observation (mem_usable_iff.mp (hback r hr).mem) r₀ hr₀ ?_ ?_ hne
  · exact (Profile.ephemeral_eq_of_core hrcore).trans hrs
  · exact (Profile.isEnabled_eq_of_core hrcore).trans (hback r hr).isEnabled

end IsDefault

theorem select_of_pick (ht : t.Reachable) {first second : Selector ProfileTable}
    (hfirst : first.IsDefault) (hsecond : second.IsDefault)
    (hlast : second.settings.resolution = .lastWins) {req₁ req₂ : Request} {now₁ now₂ wall : Millis}
    {t₁ t₂ t₃ : ProfileTable} {u : NetworkId} {events : List Event}
    (h₁ : (first.select req₁ now₁ t).isCompleted = true)
    (hskips₁ : Skips (first.select req₁ now₁ t).store t₁)
    (hsaved : ∃ p ∈ t₁.saved, p.id = u) (hpick : Override.choose t₁ u wall = (true, events, t₂))
    (hskips₂ : Skips t₂ t₃) (h₂ : (second.select req₂ now₂ t₃).isCompleted = true)
    (hu : ∃ o : Observation, o.Passes req₂ second.settings ∧
      ∃ p, t₃.resolve o = some p ∧ p.id = u)
    (hothers : ∀ o : Observation, o.Passes req₂ second.settings → ∀ p, t₃.resolve o = some p →
      p.ephemeral = false → p.isEnabled = true → p.id ≠ u →
        p.id ∈ (first.select req₁ now₁ t).memory.connectable.map (·.profile.id)) :
    ∃ n, (second.select req₂ now₂ t₃).candidate = some n ∧ n.id = u := by
  have hwf := ht.wellFormed
  have hwf₁ := (hwf.writes (select_ofRound hfirst req₁ now₁ t)).writes hskips₁.writes
  obtain ⟨p, hp, rfl⟩ := hsaved
  obtain ⟨hv, hs⟩ := List.mem_filter.mp hp
  obtain ⟨k, hk⟩ := IdMap.mem_values_iff.mp hv
  obtain rfl := hwf₁.id_eq hk
  have ht₂ : (Override.choose t₁ p.id wall).2.2 = t₂ := congrArg (·.2.2) hpick
  have hseen : ∀ i q, t₁.profiles.get? i = some q →
      i ∈ (first.select req₁ now₁ t).memory.connectable.map (·.profile.id) →
        q.status.seen = true := by
    intro i q hq hi
    obtain ⟨q₀, hq₀, heq⟩ := hskips₁.seen_eq hq
    rw [← heq]
    exact ((seen_select hfirst hwf h₁).2 i q₀ hq₀).mpr hi
  have hprefers := ProfileTable.prefers_choose hwf₁ hk (by simpa using hs) hseen wall
  have hwf₂ := hwf₁.writes (Override.pick_writes t₁ p.id wall)
  rw [← Override.choose_snd, ht₂] at hwf₂
  rw [ht₂] at hprefers
  exact hsecond.candidate_of_prefers hlast (hwf₂.writes hskips₂.writes)
    (hprefers.of_extends (hskips₂.extends hwf₂)) h₂ hu hothers

theorem select_of_pick_office :
    let r₁ := Sample.selector.select (Sample.request .disconnected) 0 Sample.table
    let t₁ := (Sample.selector.select (Sample.request .transitioning) 10 r₁.store).store
    let t₂ := (Override.choose t₁ 1 15).2.2
    let t₃ := (Sample.selector.select (Sample.request .transitioning) 20 t₂).store
    r₁.candidate.map (·.id) = some 0 ∧
      ∃ n, ((Sample.selector.after r₁).select (Sample.request .disconnected) 30 t₃).candidate =
        some n ∧ n.id = 1 := by
  intro r₁ t₁ t₂ t₃
  have hskips₁ : Skips r₁.store t₁ :=
    .single ⟨Sample.selector, _, _, Sample.isDefault_selector, by decide, rfl⟩
  have hskips₂ : Skips t₂ t₃ :=
    .single ⟨Sample.selector, _, _, Sample.isDefault_selector, by decide, rfl⟩
  have husable : Sample.office ∈ Sample.selector.usable (Sample.request .disconnected) := by decide
  have hoffice : (t₃.resolve Sample.office).map (·.id) = some 1 := by decide
  have hids : ∀ p ∈ t₃.profiles.values, p.id ∈ r₁.memory.connectable.map (·.profile.id) := by
    decide
  have hpicked : ∃ n, ((Sample.selector.after r₁).select (Sample.request .disconnected) 30
      t₃).candidate = some n ∧ n.id = 1 := by
    refine select_of_pick Sample.reachable_table Sample.isDefault_selector
      (Sample.isDefault_selector.after r₁) rfl (by decide) hskips₁ (by decide)
      (Prod.ext (by decide) rfl) hskips₂ (by decide) ?_ ?_
    · exact ⟨Sample.office, mem_usable_iff.mp husable, Option.map_eq_some_iff.mp hoffice⟩
    · intro o _ p hp _ _ _
      exact hids p (ProfileTable.mem_values_of_resolve hp)
  exact ⟨by decide, hpicked⟩

end Selector

end WirelessSelection
