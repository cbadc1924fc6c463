import Mathlib.Data.List.Induction
import WirelessSelection.Proofs.Round

namespace WirelessSelection

structure Pairing.Backed (q : Pairing) (usable : List Observation) (t : ProfileTable) : Prop where
  mem : q.observation ∈ usable
  isMatch : q.profile.isMatch q.observation = true
  isEnabled : q.profile.isEnabled = true
  stored : ∃ p, t.profiles.get? q.profile.id = some p ∧ p.core = q.profile.core

lemma Pairing.Backed.of_extends {q : Pairing} {usable : List Observation} {t t' : ProfileTable}
    (h : q.Backed usable t) (he : t.Extends t') : q.Backed usable t' where
  mem := h.mem
  isMatch := h.isMatch
  isEnabled := h.isEnabled
  stored := by
    obtain ⟨p, hp, hc⟩ := h.stored
    obtain ⟨p', hp', hc'⟩ := he.get?_core hp
    exact ⟨p', hp', hc'.trans hc⟩

lemma Pairing.Backed.core_eq {q : Pairing} {usable : List Observation} {t : ProfileTable}
    (h : q.Backed usable t) {p : Profile} (hp : t.profiles.get? q.profile.id = some p) :
    p.core = q.profile.core := by
  obtain ⟨p', hp', hc⟩ := h.stored
  rwa [Option.some.inj (hp.symm.trans hp')]

namespace SavedNetworks

variable {t t' : ProfileTable} {ctx : Context} {last : Option Pick}

def eligible? (t : ProfileTable) (o : Observation) : Option Profile :=
  (t.resolve o).filter fun p => !p.ephemeral && p.isEnabled

lemma eligible?_eq_some_iff {o : Observation} {p : Profile} :
    eligible? t o = some p ↔ t.resolve o = some p ∧ p.ephemeral = false ∧ p.isEnabled = true := by
  simp [eligible?, Option.filter_eq_some_iff]

lemma eligible?_core (hv : t'.profiles.view Profile.core = t.profiles.view Profile.core)
    (o : Observation) : (eligible? t' o).map Profile.core = (eligible? t o).map Profile.core := by
  have hr : (t'.resolve o).map Profile.core = (t.resolve o).map Profile.core := by
    rw [ProfileTable.resolve_core, ProfileTable.resolve_core, hv]
  have hk (p : Profile) : (!p.core.ephemeral && p.core.isEnabled) = (!p.ephemeral && p.isEnabled) :=
    rfl
  rw [eligible?, eligible?, Profile.filter_core hk, Profile.filter_core hk, hr]

lemma consider_eq (state : Tally × ProfileTable) (o : Observation) :
    consider ctx last state o = match eligible? state.2 o with
      | some p => rate ctx last state.1 state.2 o p
      | none => state := by
  rw [consider, ProfileTable.resolve_eq]
  cases hr : state.2.resolve o with
  | none => rw [eligible?, hr]; rfl
  | some p =>
    rw [eligible?, hr, Option.filter_some]
    by_cases hp : (!p.ephemeral && p.isEnabled) = true
    · simp only [hp, if_true]
    · simp only [hp, if_false, Bool.false_eq_true]

structure Scored (t : ProfileTable) (scored : List Observation) (tally : Tally) : Prop where
  connectable : tally.evaluation.connectable.map (fun q => (q.observation, q.profile.core)) =
    scored.filterMap fun o => (eligible? t o).map fun p => (o, p.core)
  proposal_mem {p} : tally.evaluation.proposal = some p →
    ∃ q ∈ tally.evaluation.connectable, q.profile = p
  best_none : tally.best = none ↔ tally.evaluation.proposal = none
  proposed : tally.evaluation.proposal = none → tally.evaluation.connectable = []

lemma scored_consider {scored : List Observation} {state : Tally × ProfileTable}
    (h : Scored t scored state.1)
    (hv : state.2.profiles.view Profile.core = t.profiles.view Profile.core) (o : Observation) :
    Scored t (scored ++ [o]) (consider ctx last state o).1 := by
  have hc := eligible?_core hv o
  rw [consider_eq]
  cases he : eligible? state.2 o with
  | none =>
    rw [he, Option.map_none, eq_comm, Option.map_eq_none_iff] at hc
    refine { h with connectable := ?_ }
    simp [h.connectable, hc]
  | some p =>
    rw [he, Option.map_some, eq_comm, Option.map_eq_some_iff] at hc
    obtain ⟨p₀, hp₀, hcore⟩ := hc
    simp only [rate]
    refine ⟨?_, ?_, ?_, ?_⟩
    · simp [h.connectable, hp₀, hcore]
    · intro p' hp'
      split at hp'
      · exact ⟨⟨o, p⟩, List.mem_append_right _ List.mem_cons_self, Option.some.inj hp'⟩
      · obtain ⟨q, hq, hqp⟩ := h.proposal_mem hp'
        exact ⟨q, List.mem_append_left _ hq, hqp⟩
    · split
      · simp
      · exact h.best_none
    · -- A score that does not get ahead stands behind an earlier one.
      intro hn
      split at hn
      · contradiction
      · next hb =>
        rw [← h.best_none] at hn
        rw [hn] at hb
        exact absurd rfl hb

lemma scored_evaluate (ctx : Context) (last : Option Pick) (t : ProfileTable)
    (usable : List Observation) :
    Scored t usable (usable.foldl (consider ctx last) ({}, t)).1 := by
  induction usable using List.reverseRecOn with
  | nil => exact ⟨rfl, fun h => absurd h (Option.some_ne_none _).symm, iff_of_true rfl rfl,
      fun _ => rfl⟩
  | append_singleton l o ih =>
    have hw := Writes.foldl Prod.snd (fun b o _ => consider_writes ctx last b o) (({} : Tally), t)
      (l := l)
    have hv := ProfileTable.view_of_writes (f := Profile.core) (by rintro _ ⟨o, s, rfl⟩ _; rfl) hw
    rw [List.foldl_append]
    exact scored_consider ih hv o

lemma mem_connectable_iff {usable : List Observation} {o : Observation} {c : Profile} :
    (∃ q ∈ (evaluate usable ctx t).1.connectable, q.observation = o ∧ q.profile.core = c) ↔
      o ∈ usable ∧ ∃ p, eligible? t o = some p ∧ p.core = c := by
  have hs := (scored_evaluate ctx (ProfileStore.lastPick? t) t usable).connectable
  have hm : (o, c) ∈ (evaluate usable ctx t).1.connectable.map
      (fun q => (q.observation, q.profile.core)) ↔
      (o, c) ∈ usable.filterMap fun o => (eligible? t o).map fun p => (o, p.core) := by
    rw [← hs]
    rfl
  simp only [List.mem_map, Prod.mk.injEq, List.mem_filterMap, Option.map_eq_some_iff] at hm
  rw [hm]
  constructor
  · rintro ⟨o', ho, p, hp, rfl, rfl⟩
    exact ⟨ho, p, hp, rfl⟩
  · rintro ⟨ho, p, hp, rfl⟩
    exact ⟨o, ho, p, hp, rfl, rfl⟩

lemma proposal_mem {usable : List Observation} {p : Profile}
    (h : (evaluate usable ctx t).1.proposal = some p) :
    ∃ q ∈ (evaluate usable ctx t).1.connectable, q.profile = p :=
  (scored_evaluate _ _ t usable).proposal_mem h

lemma proposal_isSome {usable : List Observation} {q : Pairing}
    (h : q ∈ (evaluate usable ctx t).1.connectable) :
    ∃ p, (evaluate usable ctx t).1.proposal = some p := by
  rw [← Option.isSome_iff_exists, Option.isSome_iff_ne_none]
  intro hn
  have he := (scored_evaluate _ _ t usable).proposed hn
  exact List.not_mem_nil (he ▸ h)

lemma backed_of_mem (ht : t.WellFormed) {usable : List Observation} {q : Pairing}
    (h : q ∈ (evaluate usable ctx t).1.connectable) :
    q.Backed usable (evaluate usable ctx t).2 ∧ q.profile.ephemeral = false := by
  obtain ⟨hmem, p, hp, hc⟩ := mem_connectable_iff.mp ⟨q, h, rfl, rfl⟩
  obtain ⟨hr, hs, he⟩ := eligible?_eq_some_iff.mp hp
  obtain ⟨hget, hmatch⟩ := ht.resolve_eq_some_iff.mp hr
  have hext := ProfileTable.Extends.of_writes ht (evaluate_ofRound usable ctx t)
  obtain ⟨p', hp', hc'⟩ := hext.get?_core hget
  refine ⟨⟨hmem, ?_, ?_, ?_⟩, (Profile.ephemeral_eq_of_core hc.symm).trans hs⟩
  · rw [← Profile.isMatch_eq_of_core hc, hmatch]
  · rw [← Profile.isEnabled_eq_of_core hc, he]
  · rw [← Profile.id_eq_of_core hc]
    exact ⟨p', hp', hc'.trans hc⟩

end SavedNetworks

namespace UntrustedNetworks

variable {t : ProfileTable}

lemma ephemeral?_spec (ht : t.WellFormed) {o : Observation} {p : Profile}
    (h : (ephemeral? t o).1 = some p) :
    (ephemeral? t o).2.profiles.get? p.id = some p ∧ p.isMatch o = true ∧ p.ephemeral = true := by
  rw [ephemeral?, ProfileTable.resolve_eq] at h ⊢
  cases hr : t.resolve o with
  | some q =>
    simp only [hr] at h ⊢
    split at h
    · next he =>
      obtain rfl := Option.some.inj h
      obtain ⟨hget, hmatch⟩ := ht.resolve_eq_some_iff.mp hr
      exact ⟨hget, hmatch, he⟩
    · contradiction
  | none =>
    obtain ⟨f, hc, -⟩ | ⟨t', hc, ho, ha⟩ := ProfileTable.createEphemeral_of_unresolved hr
    · simp only [hr, hc] at h
      contradiction
    · simp only [hr, hc, Option.some.injEq] at h ⊢
      subst h
      obtain ⟨-, rfl⟩ := ProfileTable.append_eq_ok_iff.mp ha
      refine ⟨?_, ?_, rfl⟩
      · exact (IdMap.get?_insert ..).trans (if_pos rfl)
      · rw [Profile.isMatch, ProfileTable.untrusted_isMatch _ ho, decide_eq_true_eq]

lemma proposal_push {tally : Tally} {o : Observation} {p p' : Profile}
    (h : (tally.push o p).evaluation.proposal = some p') :
    p = p' ∨ tally.evaluation.proposal = some p' := by
  obtain ⟨-, h⟩ | ⟨-, h⟩ := ite_eq_iff.mp h
  · exact .inl (Option.some.inj h)
  · exact .inr h

structure Paired (usable : List Observation) (state : Tally × ProfileTable) : Prop where
  wellFormed : state.2.WellFormed
  backed {q} : q ∈ state.1.evaluation.connectable →
    q.Backed usable state.2 ∧ q.profile.ephemeral = true
  proposal_mem {p} : state.1.evaluation.proposal = some p →
    ∃ q ∈ state.1.evaluation.connectable, q.profile = p

lemma paired_consider {usable : List Observation} {state : Tally × ProfileTable}
    (h : Paired usable state) {o : Observation} (ho : o ∈ usable) :
    Paired usable (consider state o) := by
  have hw := ephemeral?_ofRound state.2 o
  have hext := ProfileTable.Extends.of_writes h.wellFormed hw
  have hwf := h.wellFormed.writes hw
  have hold {q : Pairing} (hq : q ∈ state.1.evaluation.connectable) :
      q.Backed usable (ephemeral? state.2 o).2 ∧ q.profile.ephemeral = true :=
    ⟨(h.backed hq).1.of_extends hext, (h.backed hq).2⟩
  rw [consider]
  cases he : ephemeral? state.2 o with
  | mk found t' =>
    rw [he] at hwf hold
    cases found with
    | none => exact ⟨hwf, hold, h.proposal_mem⟩
    | some p =>
      have hspec := ephemeral?_spec h.wellFormed (congrArg Prod.fst he)
      rw [he] at hspec
      obtain ⟨hget, hmatch, heph⟩ := hspec
      by_cases hen : p.isEnabled = true
      · simp only [hen, if_true]
        refine ⟨hwf, ?_, ?_⟩
        · intro q hq
          obtain hq | hq := List.mem_append.mp hq
          · exact hold hq
          · rw [List.mem_singleton.mp hq]
            exact ⟨⟨ho, hmatch, hen, p, hget, rfl⟩, heph⟩
        · intro p' hp'
          obtain rfl | hp' := proposal_push hp'
          · exact ⟨⟨o, p⟩, List.mem_append_right _ List.mem_cons_self, rfl⟩
          · obtain ⟨q, hq, hqp⟩ := h.proposal_mem hp'
            exact ⟨q, List.mem_append_left _ hq, hqp⟩
      · simp only [hen, if_false, Bool.false_eq_true]
        exact ⟨hwf, hold, h.proposal_mem⟩

lemma paired_foldl {usable l : List Observation} {state : Tally × ProfileTable}
    (h : Paired usable state) (hl : ∀ o ∈ l, o ∈ usable) :
    Paired usable (l.foldl consider state) := by
  induction l generalizing state with
  | nil => exact h
  | cons o l ih =>
    exact ih (paired_consider h (hl o List.mem_cons_self))
      fun o ho => hl o (List.mem_cons_of_mem _ ho)

lemma paired_evaluate (ht : t.WellFormed) (usable : List Observation) (ctx : Context) :
    ∃ tally : Tally, (evaluate usable ctx t).1 = tally.evaluation ∧
      Paired usable (tally, (evaluate usable ctx t).2) := by
  have hstart : Paired usable (({} : Tally), t) :=
    ⟨ht, fun h => absurd h List.not_mem_nil, fun h => absurd h (Option.some_ne_none _).symm⟩
  rw [evaluate]
  split
  · refine ⟨_, rfl, paired_foldl hstart ?_⟩
    intro o ho
    exact List.mem_of_mem_filter ho
  · exact ⟨{}, rfl, hstart⟩

lemma allowed_of_mem {usable : List Observation} {ctx : Context} {q : Pairing}
    (h : q ∈ (evaluate usable ctx t).1.connectable) : ctx.untrustedAllowed = true := by
  by_contra hn
  rw [evaluate, if_neg hn] at h
  exact List.not_mem_nil h

end UntrustedNetworks

namespace Selector.IsDefault

variable {sel : Selector ProfileTable} {t : ProfileTable} {usable : List Observation}
  {ctx : Context}

lemma backed_of_mem (h : sel.IsDefault) (ht : t.WellFormed) {q : Pairing}
    (hq : q ∈ (sel.panel.evaluate usable ctx t).1.connectable) :
    q.Backed usable (sel.panel.evaluate usable ctx t).2 ∧
      (q.profile.ephemeral = true → ctx.untrustedAllowed = true) := by
  rw [h.evaluate_eq] at hq ⊢
  obtain ⟨tally, hu, hp⟩ := UntrustedNetworks.paired_evaluate ht usable ctx
  obtain hq | hq := List.mem_append.mp hq
  · have hb := (hp.backed (hu ▸ hq)).1
    have hw := SavedNetworks.evaluate_ofRound usable ctx (UntrustedNetworks.evaluate usable ctx t).2
    exact ⟨hb.of_extends (.of_writes hp.wellFormed hw),
      fun _ => UntrustedNetworks.allowed_of_mem hq⟩
  · obtain ⟨hb, hs⟩ := SavedNetworks.backed_of_mem hp.wellFormed hq
    exact ⟨hb, fun he => absurd (hs.symm.trans he) Bool.false_ne_true⟩

lemma candidate_mem (h : sel.IsDefault) (ht : t.WellFormed) {p : Profile}
    (hp : (sel.panel.evaluate usable ctx t).1.candidate = some p) :
    ∃ q ∈ (sel.panel.evaluate usable ctx t).1.connectable, q.profile = p := by
  rw [h.evaluate_eq] at hp ⊢
  obtain ⟨tally, hu, hpair⟩ := UntrustedNetworks.paired_evaluate ht usable ctx
  have hcases {r : Resolution} {a b : Option Profile} (hr : Panel.resolve r a b = some p) :
      a = some p ∨ b = some p := by
    cases r <;> cases a <;> cases b <;> simp_all [Panel.resolve]
  obtain hp | hp := hcases hp
  · obtain ⟨q, hq, hqp⟩ := hpair.proposal_mem (hu ▸ hp)
    exact ⟨q, List.mem_append_left _ (hu ▸ hq), hqp⟩
  · obtain ⟨q, hq, hqp⟩ := SavedNetworks.proposal_mem hp
    exact ⟨q, List.mem_append_right _ hq, hqp⟩

lemma mem_connectable_of_resolve (h : sel.IsDefault) (ctx : Context) (ht : t.WellFormed)
    {o : Observation} (ho : o ∈ usable) {p : Profile} (hr : t.resolve o = some p)
    (hs : p.ephemeral = false) (he : p.isEnabled = true) :
    ∃ q ∈ (sel.panel.evaluate usable ctx t).1.connectable, q.profile.core = p.core := by
  rw [h.evaluate_eq]
  have hw := UntrustedNetworks.evaluate_ofRound usable ctx t
  obtain ⟨p', hr', hc⟩ := (ProfileTable.Extends.of_writes ht hw).resolve_core ht (ht.writes hw) hr
  have hel : SavedNetworks.eligible? (UntrustedNetworks.evaluate usable ctx t).2 o = some p' := by
    rw [SavedNetworks.eligible?_eq_some_iff, Profile.ephemeral_eq_of_core hc,
      Profile.isEnabled_eq_of_core hc]
    exact ⟨hr', hs, he⟩
  obtain ⟨q, hq, -, hqc⟩ := SavedNetworks.mem_connectable_iff.mpr ⟨ho, p', hel, hc⟩
  exact ⟨q, List.mem_append_right _ hq, hqc⟩

lemma candidate_of_lastWins (h : sel.IsDefault) (ht : t.WellFormed)
    (hlast : ctx.settings.resolution = .lastWins) {q : Pairing}
    (hq : q ∈ (sel.panel.evaluate usable ctx t).1.connectable) (hs : q.profile.ephemeral = false) :
    ∃ q' ∈ (sel.panel.evaluate usable ctx t).1.connectable, q'.profile.ephemeral = false ∧
      (sel.panel.evaluate usable ctx t).1.candidate = some q'.profile := by
  rw [h.evaluate_eq] at hq ⊢
  obtain ⟨tally, hu, hpair⟩ := UntrustedNetworks.paired_evaluate ht usable ctx
  obtain hq | hq := List.mem_append.mp hq
  · have he := (hpair.backed (hu ▸ hq)).2
    exact absurd (hs.symm.trans he) Bool.false_ne_true
  · obtain ⟨p, hp⟩ := SavedNetworks.proposal_isSome hq
    obtain ⟨q', hq', rfl⟩ := SavedNetworks.proposal_mem hp
    refine ⟨q', List.mem_append_right _ hq', ?_, ?_⟩
    · exact (SavedNetworks.backed_of_mem hpair.wellFormed hq').2
    · change Panel.resolve ctx.settings.resolution _ _ = _
      rw [hlast, hp]
      rfl

end Selector.IsDefault

end WirelessSelection
