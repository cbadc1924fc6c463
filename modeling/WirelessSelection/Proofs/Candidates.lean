import Mathlib.Data.List.Induction
import WirelessSelection.Proofs.Repetition

/-! What a completed round rates. Ratings and the proposal are running maxima over one scan: where
scores are equal, the earlier observation counts. -/

namespace WirelessSelection

namespace SavedNetworks

variable {t : ProfileTable} {ctx : Context} {last : Option Pick} {o : Observation}
  {scan scored : List Observation} {p q : Profile}

/-- The first element of a list with the highest score. -/
def highest? {α : Type} (f : α → Score) (l : List α) : Option α :=
  l.find? fun a => l.all fun b => f b ≤ f a

section Highest

variable {α : Type} {f : α → Score} {l : List α} {a b : α}

lemma mem_of_highest? (h : highest? f l = some b) : b ∈ l :=
  List.mem_of_find?_eq_some h

lemma le_of_highest? (h : highest? f l = some b) (ha : a ∈ l) : f a ≤ f b := by
  have hall := List.find?_some h
  exact of_decide_eq_true (List.all_eq_true.mp hall a ha)

lemma highest?_append_of_forall_lt (h : ∀ b ∈ l, f b < f a) : highest? f (l ++ [a]) = some a := by
  have hnone : (l.find? fun b => (l ++ [a]).all fun c => f c ≤ f b) = none := by
    rw [List.find?_eq_none]
    intro b hb hall
    have hle := of_decide_eq_true (List.all_eq_true.mp hall a (by simp))
    exact Int32.not_lt.mpr hle (h b hb)
  have hall : ((l ++ [a]).all fun c => f c ≤ f a) = true := by
    simp only [List.all_append, List.all_cons, List.all_nil, Bool.and_true, Bool.and_eq_true,
      List.all_eq_true, decide_eq_true_eq]
    exact ⟨fun b hb => Int32.le_of_lt (h b hb), Int32.le_refl _⟩
  rw [highest?, List.find?_append, hnone, List.find?_cons, hall]
  rfl

lemma highest?_append_of_le (h : highest? f l = some b) (ha : f a ≤ f b) :
    highest? f (l ++ [a]) = some b := by
  obtain ⟨hb, before, after, rfl, hbefore⟩ := List.find?_eq_some_iff_append.mp h
  refine List.find?_eq_some_iff_append.mpr ⟨?_, before, after ++ [a], by simp, ?_⟩
  · rw [List.all_append, hb]
    simpa using ha
  · intro c hc
    have hnot := hbefore c hc
    rw [Bool.not_eq_true'] at hnot ⊢
    rw [List.all_append, hnot, Bool.false_and]

lemma highest?_append_of_lt (h : highest? f l = some b) (ha : f b < f a) :
    highest? f (l ++ [a]) = some a :=
  highest?_append_of_forall_lt fun _ hc => Int32.lt_of_le_of_lt (le_of_highest? h hc) ha

lemma exists_highest? (hl : l ≠ []) : ∃ b, highest? f l = some b := by
  induction l using List.reverseRecOn with
  | nil => contradiction
  | append_singleton l a ih =>
    by_cases hnil : l = []
    · subst hnil
      exact ⟨a, highest?_append_of_forall_lt (by simp)⟩
    · obtain ⟨b, hb⟩ := ih hnil
      by_cases ha : f a ≤ f b
      · exact ⟨b, highest?_append_of_le hb ha⟩
      · exact ⟨a, highest?_append_of_lt hb (Int32.not_le.mp ha)⟩

lemma highest?_append_singleton (f : α → Score) (l : List α) (a : α) :
    highest? f (l ++ [a]) =
      if beats (f a) ((highest? f l).map f) then some a else highest? f l := by
  cases h : highest? f l with
  | none =>
    have hnil : l = [] := by
      by_contra hl
      obtain ⟨b, hb⟩ := exists_highest? (f := f) hl
      exact Option.some_ne_none _ (hb.symm.trans h)
    subst hnil
    exact highest?_append_of_forall_lt (by simp)
  | some b =>
    rw [Option.map_some, beats]
    split
    · next hlt => exact highest?_append_of_lt h (of_decide_eq_true hlt)
    · next hle => exact highest?_append_of_le h (Int32.not_lt.mp (by simpa using hle))

end Highest

def best? (ctx : Context) (last : Option Pick) (scan : List Observation) (p : Profile) :
    Option Observation :=
  if p.isEnabled then highest? (score ctx last · p) (scan.filter p.isMatch) else none

def leader? (ctx : Context) (last : Option Pick) (pairs : List (Observation × Profile)) :
    Option (Observation × Profile) :=
  highest? (fun q => score ctx last q.1 q.2) pairs

lemma score_le_of_leader? {pairs : List (Observation × Profile)} {c d : Observation × Profile}
    (h : leader? ctx last pairs = some c) (hd : d ∈ pairs) :
    score ctx last d.1 d.2 ≤ score ctx last c.1 c.2 :=
  le_of_highest? (f := fun q : Observation × Profile => score ctx last q.1 q.2) h hd

lemma best?_of_core (h : q.core = p.core) (scan : List Observation) :
    best? ctx last scan q = best? ctx last scan p := by
  change best? ctx last scan q.core = best? ctx last scan p.core
  rw [h]

lemma best?_append_of_match (ctx : Context) (last : Option Pick) (scan : List Observation)
    (he : p.isEnabled = true) (hm : p.isMatch o = true) : best? ctx last (scan ++ [o]) p =
      if beats (score ctx last o p) ((best? ctx last scan p).map (score ctx last · p)) then some o
      else best? ctx last scan p := by
  rw [best?, if_pos he, best?, if_pos he, List.filter_append, List.filter_cons, if_pos hm,
    List.filter_nil, highest?_append_singleton]

lemma best?_append_of_not_match (h : ¬ (p.isEnabled = true ∧ p.isMatch o = true)) :
    best? ctx last (scan ++ [o]) p = best? ctx last scan p := by
  rw [best?, best?]
  split
  · next he =>
    have hm : ¬ p.isMatch o = true := fun hm => h ⟨he, hm⟩
    rw [List.filter_append, List.filter_cons, if_neg hm, List.filter_nil, List.append_nil]
  · rfl

lemma eligible?_eq_some_iff_of_stored {i : NetworkId} (ht : t.WellFormed)
    (hp : t.profiles.get? i = some p) (hs : p.ephemeral = false) :
    eligible? t o = some p ↔ p.isEnabled = true ∧ p.isMatch o = true := by
  obtain rfl := ht.id_eq hp
  rw [eligible?_eq_some_iff, ht.resolve_eq_some_iff]
  constructor
  · rintro ⟨⟨-, hm⟩, -, he⟩
    exact ⟨he, hm⟩
  · rintro ⟨he, hm⟩
    exact ⟨⟨hp, hm⟩, hs, he⟩

abbrev ofSaved (p : Profile) : Bool :=
  !p.ephemeral && p.isEnabled

structure Led (ctx : Context) (last : Option Pick) (pairs : List (Observation × Profile))
    (tally : Tally) : Prop where
  best : tally.best = (leader? ctx last pairs).map fun q => score ctx last q.1 q.2
  proposal : tally.evaluation.proposal.map Profile.core = (leader? ctx last pairs).map Prod.snd

lemma Led.rate {σ : Type} [ProfileStore σ] {pairs : List (Observation × Profile)} {tally : Tally}
    (h : Led ctx last pairs tally) (store : σ) (o : Observation) (p : Profile) :
    Led ctx last (pairs ++ [(o, p.core)]) (rate ctx last tally store o p).1 := by
  have hscore : score ctx last o p.core = score ctx last o p :=
    score_of_core (show p.core.core = p.core from rfl) o
  have hleader : leader? ctx last (pairs ++ [(o, p.core)]) =
      if beats (score ctx last o p) tally.best then some (o, p.core)
      else leader? ctx last pairs := by
    rw [leader?, highest?_append_singleton, ← leader?, h.best, hscore]
  constructor
  · rw [hleader]
    change (if beats _ tally.best then some _ else tally.best) = _
    split
    · rw [Option.map_some, hscore]
    · exact h.best
  · rw [hleader]
    change (if beats _ tally.best then some p else tally.evaluation.proposal).map _ = _
    split
    · rfl
    · exact h.proposal

/-- Once some observations are scored, each saved profile is rated by the best of its own, and the
policy is about to propose the profile of the best of all. -/
structure Rated (ctx : Context) (last : Option Pick) (t : ProfileTable)
    (scored : List Observation) (state : Tally × ProfileTable) : Prop where
  wellFormed : state.2.WellFormed
  view : state.2.profiles.view Profile.core = t.profiles.view Profile.core
  profile {i p} : state.2.profiles.get? i = some p → p.ephemeral = false →
    p.status.candidate = best? ctx last scored p ∧
      p.status.score = (best? ctx last scored p).map (score ctx last · p) ∧
      state.1.recorded.lookup i = p.status.score
  best : state.1.best =
    (leader? ctx last (t.pairings ofSaved scored)).map fun q => score ctx last q.1 q.2
  proposal : state.1.evaluation.proposal.map Profile.core =
    (leader? ctx last (t.pairings ofSaved scored)).map Prod.snd

variable {state : Tally × ProfileTable}

lemma pairings_append_eligible? (t : ProfileTable) (scored : List Observation) (o : Observation) :
    t.pairings ofSaved (scored ++ [o]) = t.pairings ofSaved scored ++
      ((eligible? t o).map fun p => (o, p.core)).toList :=
  t.pairings_append_singleton ofSaved scored o

lemma Rated.profile_of_not_match (h : Rated ctx last t scored state) {i : NetworkId}
    (hp : state.2.profiles.get? i = some p) (hs : p.ephemeral = false)
    (hm : eligible? state.2 o ≠ some p) :
    p.status.candidate = best? ctx last (scored ++ [o]) p ∧
      p.status.score = (best? ctx last (scored ++ [o]) p).map (score ctx last · p) ∧
      state.1.recorded.lookup i = p.status.score := by
  rw [Ne, eligible?_eq_some_iff_of_stored h.wellFormed hp hs] at hm
  rw [best?_append_of_not_match hm]
  exact h.profile hp hs

lemma Rated.skip (h : Rated ctx last t scored state) (ho : eligible? state.2 o = none) :
    Rated ctx last t (scored ++ [o]) state := by
  have hcore := eligible?_core h.view o
  rw [ho, Option.map_none, eq_comm, Option.map_eq_none_iff] at hcore
  have hpairs : t.pairings ofSaved (scored ++ [o]) = t.pairings ofSaved scored := by
    rw [pairings_append_eligible?, hcore]
    exact List.append_nil _
  refine ⟨h.wellFormed, h.view, ?_, ?_, ?_⟩
  · intro i p hp hs
    exact h.profile_of_not_match hp hs (by simp [ho])
  · rw [hpairs, h.best]
  · rw [hpairs, h.proposal]

lemma Rated.profile_rate (h : Rated ctx last t scored state) (ho : eligible? state.2 o = some q)
    {i : NetworkId} (hp : (rate ctx last state.1 state.2 o q).2.profiles.get? i = some p)
    (hs : p.ephemeral = false) :
    p.status.candidate = best? ctx last (scored ++ [o]) p ∧
      p.status.score = (best? ctx last (scored ++ [o]) p).map (score ctx last · p) ∧
      (rate ctx last state.1 state.2 o q).1.recorded.lookup i = p.status.score := by
  obtain ⟨hr, hqs, he⟩ := eligible?_eq_some_iff.mp ho
  obtain ⟨hq, hm⟩ := h.wellFormed.resolve_eq_some_iff.mp hr
  obtain ⟨hcandidate, hscore, hlookup⟩ := h.profile hq hqs
  have hbest := best?_append_of_match ctx last scored he hm
  rw [← hscore, ← hlookup] at hbest
  -- Only the profile of the observation can be rated anew.
  have hother (hi : i ≠ q.id) (hp : state.2.profiles.get? i = some p) :
      eligible? state.2 o ≠ some p := by
    intro heq
    have hid : q.id = p.id := congrArg (·.id) (Option.some.inj (ho.symm.trans heq))
    exact hi ((h.wellFormed.id_eq hp).symm.trans hid.symm)
  change (record state.1 state.2 q.id o (score ctx last o q)).2.profiles.get? i = some p at hp
  change _ ∧ _ ∧ (record state.1 state.2 q.id o (score ctx last o q)).1.lookup i = _
  rw [record_of_stored state.1 hq] at hp ⊢
  by_cases hahead : beats (score ctx last o q) (state.1.recorded.lookup q.id) = true
  · rw [if_pos hahead] at hp hbest ⊢
    rw [ProfileTable.get?_changed] at hp
    rw [IdMap.lookup_cons]
    split at hp
    · next hi =>
      rw [hi, hq, Option.map_some, Option.some.injEq] at hp
      have hcore : p.core = q.core := by rw [← hp]; rfl
      rw [best?_of_core hcore, hbest, if_pos hi, ← hp]
      exact ⟨rfl, rfl, rfl⟩
    · next hi =>
      rw [if_neg hi]
      exact h.profile_of_not_match hp hs (hother hi hp)
  · rw [if_neg hahead] at hp hbest ⊢
    by_cases hi : i = q.id
    · rw [hi, hq, Option.some.injEq] at hp
      rw [← hp, hbest, hi]
      exact ⟨hcandidate, hscore, hlookup⟩
    · exact h.profile_of_not_match hp hs (hother hi hp)

lemma Rated.rate (h : Rated ctx last t scored state) (ho : eligible? state.2 o = some q) :
    Rated ctx last t (scored ++ [o]) (rate ctx last state.1 state.2 o q) := by
  have hw := consider_writes ctx last state o
  rw [consider_eq, ho] at hw
  have hview := ProfileTable.view_of_writes (f := Profile.core) (by rintro _ ⟨o, s, rfl⟩ _; rfl) hw
  have hcore := eligible?_core h.view o
  rw [ho, Option.map_some, eq_comm, Option.map_eq_some_iff] at hcore
  obtain ⟨q₀, ho₀, hq₀⟩ := hcore
  have hpairs : t.pairings ofSaved (scored ++ [o]) =
      t.pairings ofSaved scored ++ [(o, q.core)] := by
    rw [pairings_append_eligible?, ho₀, ← hq₀]
    rfl
  obtain ⟨hbest, hproposal⟩ := (Led.mk h.best h.proposal).rate state.2 o q
  rw [← hpairs] at hbest hproposal
  exact ⟨h.wellFormed.writes hw, hview.trans h.view, h.profile_rate ho, hbest, hproposal⟩

lemma Rated.consider (h : Rated ctx last t scored state) (o : Observation) :
    Rated ctx last t (scored ++ [o]) (consider ctx last state o) := by
  rw [consider_eq]
  cases ho : eligible? state.2 o with
  | none => exact h.skip ho
  | some q => exact h.rate ho

lemma rated_foldl (ctx : Context) (last : Option Pick) (ht : t.WellFormed)
    (hclear : ∀ i, (t.profiles.get? i).map Profile.cleared = t.profiles.get? i)
    (usable : List Observation) :
    Rated ctx last t usable (usable.foldl (SavedNetworks.consider ctx last) ({}, t)) := by
  induction usable using List.reverseRecOn with
  | nil =>
    refine ⟨ht, rfl, ?_, rfl, rfl⟩
    intro i p hp hs
    have hnone : best? ctx last [] p = none := ite_self none
    have hsame := hclear i
    rw [show t.profiles.get? i = some p from hp, Option.map_some, Option.some.injEq,
      Profile.cleared_of_saved hs] at hsame
    rw [hnone, ← hsame]
    exact ⟨rfl, rfl, rfl⟩
  | append_singleton l o ih =>
    rw [List.foldl_append]
    exact ih.consider o

lemma led_consider {σ : Type} [ProfileStore σ] {state : Tally × σ}
    (h : Led ctx last (state.1.evaluation.connectable.map Pairing.core) state.1)
    (o : Observation) :
    Led ctx last ((consider ctx last state o).1.evaluation.connectable.map Pairing.core)
      (consider ctx last state o).1 := by
  rw [consider]
  split
  · next p _ =>
    split
    · have hpairs : (rate ctx last state.1 state.2 o p).1.evaluation.connectable.map
          Pairing.core = state.1.evaluation.connectable.map Pairing.core ++ [(o, p.core)] :=
        List.map_append
      rw [hpairs]
      exact h.rate state.2 o p
    · exact h
  · exact h

lemma led_foldl {σ : Type} [ProfileStore σ] (ctx : Context) (last : Option Pick) (store : σ)
    (scan : List Observation) :
    Led ctx last
      ((scan.foldl (consider ctx last) ({}, store)).1.evaluation.connectable.map Pairing.core)
      (scan.foldl (consider ctx last) ({}, store)).1 := by
  induction scan using List.reverseRecOn with
  | nil => exact ⟨rfl, rfl⟩
  | append_singleton l o ih =>
    rw [List.foldl_append]
    exact led_consider ih o

lemma proposal_evaluate (t : ProfileTable) (usable : List Observation) (ctx : Context) :
    (evaluate usable ctx t).1.proposal.map Profile.core =
      (leader? ctx t.lastPick (t.pairings ofSaved usable)).map Prod.snd := by
  have hled := led_foldl ctx t.lastPick t usable
  have hpairs : (usable.foldl (consider ctx t.lastPick) ({}, t)).1.evaluation.connectable.map
      Pairing.core = t.pairings ofSaved usable :=
    (scored_evaluate ctx t.lastPick t usable).connectable
  rw [hpairs] at hled
  exact hled.proposal

lemma exists_best?_of_match (ctx : Context) (last : Option Pick) (he : p.isEnabled = true)
    (ho : o ∈ scan) (hm : p.isMatch o = true) :
    ∃ b, best? ctx last scan p = some b ∧ score ctx last o p ≤ score ctx last b p := by
  have hmem : o ∈ scan.filter p.isMatch := List.mem_filter.mpr ⟨ho, hm⟩
  obtain ⟨b, hb⟩ := exists_highest? (f := (score ctx last · p)) (List.ne_nil_of_mem hmem)
  rw [best?, if_pos he]
  exact ⟨b, hb, le_of_highest? (f := (score ctx last · p)) hb hmem⟩

lemma of_best?_eq_some (h : best? ctx last scan p = some o) :
    p.isEnabled = true ∧ o ∈ scan ∧ p.isMatch o = true := by
  rw [best?] at h
  split at h
  · next he => exact ⟨he, List.mem_filter.mp (mem_of_highest? h)⟩
  · contradiction

end SavedNetworks

namespace ProfileTable

variable {t : ProfileTable}

lemma mem_pairings_iff {kind : Profile → Bool} {scan : List Observation} {o : Observation}
    {c : Profile} : (o, c) ∈ t.pairings kind scan ↔
      o ∈ scan ∧ ∃ p, t.resolve o = some p ∧ kind p = true ∧ p.core = c := by
  simp only [pairings, List.mem_filterMap, Option.map_eq_some_iff, Option.filter_eq_some_iff,
    Prod.mk.injEq]
  constructor
  · rintro ⟨o', ho, p, ⟨hr, hk⟩, rfl, rfl⟩
    exact ⟨ho, p, hr, hk, rfl⟩
  · rintro ⟨ho, p, hr, hk, rfl⟩
    exact ⟨o, ho, p, ⟨hr, hk⟩, rfl, rfl⟩

end ProfileTable

namespace SavedNetworks

lemma exists_best?_of_leader? {t : ProfileTable} (ht : t.WellFormed) {ctx : Context}
    {last : Option Pick} {scan : List Observation} {o : Observation} {c : Profile}
    (h : leader? ctx last (t.pairings ofSaved scan) = some (o, c)) :
    ∃ p b, t.profiles.get? p.id = some p ∧ p.core = c ∧ p.ephemeral = false ∧
      best? ctx last scan p = some b ∧ ∀ i q b', t.profiles.get? i = some q →
        q.ephemeral = false → best? ctx last scan q = some b' →
          score ctx last b' q ≤ score ctx last b p := by
  obtain ⟨ho, p, hr, hk, hcore⟩ := ProfileTable.mem_pairings_iff.mp (mem_of_highest? h)
  obtain ⟨hp, hm⟩ := ht.resolve_eq_some_iff.mp hr
  obtain ⟨hs, he⟩ : p.ephemeral = false ∧ p.isEnabled = true := by simpa using hk
  obtain ⟨b, hb, hle⟩ := exists_best?_of_match ctx last he ho hm
  refine ⟨p, b, hp, hcore, hs, hb, ?_⟩
  intro i q b' hq hqs hb'
  obtain ⟨hqe, hb'scan, hb'm⟩ := of_best?_eq_some hb'
  have hqr : t.resolve b' = some q :=
    ht.resolve_eq_some_iff.mpr ⟨(ht.id_eq hq).symm ▸ hq, hb'm⟩
  have hmem : (b', q.core) ∈ t.pairings ofSaved scan :=
    ProfileTable.mem_pairings_iff.mpr ⟨hb'scan, q, hqr, by simp [hqs, hqe], rfl⟩
  have hscore (p : Profile) (o : Observation) : score ctx last o p.core = score ctx last o p :=
    score_of_core (show p.core.core = p.core from rfl) o
  have hlead := score_le_of_leader? h hmem
  rw [← hcore, hscore, hscore] at hlead
  exact Int32.le_trans hlead hle

end SavedNetworks

def Write.RatesSaved (t : ProfileTable) : Write → Prop
  | .change id (.recordCandidate ..) | .change id .clearCandidate =>
    ∃ p, t.profiles.get? id = some p ∧ p.ephemeral = false
  | _ => True

namespace SavedNetworks

variable {t : ProfileTable} {ctx : Context} {last : Option Pick}

lemma update_ratesSaved (ht : t.WellFormed) (scan : List Observation) :
    Writes (Write.RatesSaved t) t (update scan t) := by
  refine Writes.foldl id (fun s p hp => ?_) t
  have hsaved : p ∈ t.saved := List.mem_of_mem_filter hp
  obtain ⟨hv, hs⟩ := List.mem_filter.mp hsaved
  exact Writes.change s p.id .clearCandidate ⟨p, ht.mem_values_iff.mp hv, by simpa using hs⟩

lemma consider_ratesSaved {state : Tally × ProfileTable} (ht : state.2.WellFormed)
    (hext : t.Extends state.2) (o : Observation) :
    Writes (Write.RatesSaved t) state.2 (consider ctx last state o).2 := by
  rw [consider_eq]
  cases ho : eligible? state.2 o with
  | none => exact .refl
  | some p =>
    obtain ⟨hr, hs, -⟩ := eligible?_eq_some_iff.mp ho
    obtain ⟨hp, -⟩ := ht.resolve_eq_some_iff.mp hr
    obtain ⟨q, hq, hcore⟩ := hext.get?_core_of_saved hp hs
    change Writes _ state.2 (record state.1 state.2 p.id o (score ctx last o p)).2
    rw [record_snd]
    split
    · exact Writes.change _ _ _ ⟨q, hq, (Profile.ephemeral_eq_of_core hcore).trans hs⟩
    · exact .refl

lemma evaluate_ratesSaved {t' : ProfileTable} (ht' : t'.WellFormed) (hext : t.Extends t')
    (usable : List Observation) (ctx : Context) :
    Writes (Write.RatesSaved t) t' (evaluate usable ctx t').2 := by
  change Writes _ t' (usable.foldl (consider ctx _) ({}, t')).2
  induction usable using List.reverseRecOn with
  | nil => exact .refl
  | append_singleton l o ih =>
    have hw := evaluate_ofRound l ctx t'
    have hext' := hext.trans (.of_writes ht' hw)
    rw [List.foldl_append]
    exact ih.trans (consider_ratesSaved (ht'.writes hw) hext' o)

end SavedNetworks

namespace Selector

open SavedNetworks

variable {sel : Selector ProfileTable} {t : ProfileTable} {req : Request} {now : Millis}

lemma IsDefault.ratesSaved_select (h : sel.IsDefault) (ht : t.WellFormed)
    (hc : (sel.select req now t).isCompleted = true) :
    Writes (Write.RatesSaved t) t (sel.select req now t).store := by
  have hstage := sel.untrustedStage_ofRound req now t
  have hupdate := update_ratesSaved ht req.scan
  have hcreate : Writes (Write.RatesSaved t) (update req.scan t)
      (sel.untrustedStage req now t).2 := by
    refine (sel.untrustedStage_creates req now t).mono ?_
    rintro (⟨id, c⟩ | o) hw
    · exact hw.elim
    · trivial
  have hrate := evaluate_ratesSaved (ht.writes hstage) (.of_writes ht hstage) (sel.usable req)
    (sel.context req now)
  rw [h.store_eq hc]
  refine hupdate.trans (hcreate.trans (hrate.trans ((refreshSeen_writes _ _).mono ?_)))
  rintro (⟨id, c⟩ | o) hw
  · obtain ⟨seen, rfl⟩ := hw
    trivial
  · exact hw.elim

lemma rated_savedStage (sel : Selector ProfileTable) (ht : t.WellFormed) (req : Request)
    (now : Millis) : ∃ state, sel.savedStage req now t = (state.1.evaluation, state.2) ∧
      Rated (sel.context req now) t.lastPick (sel.untrustedStage req now t).2 (sel.usable req)
        state := by
  have hw := sel.untrustedStage_ofRound req now t
  have hlast := (ProfileTable.Extends.of_writes ht hw).lastPick_eq
  have hrated := rated_foldl (sel.context req now) t.lastPick (ht.writes hw)
    (sel.cleared_untrustedStage ht req now) (sel.usable req)
  rw [← hlast] at hrated ⊢
  exact ⟨_, rfl, hrated⟩

namespace IsDefault

lemma get?_select (h : sel.IsDefault) (ht : t.WellFormed)
    (hc : (sel.select req now t).isCompleted = true) {i : NetworkId} {p : Profile}
    (hp : (sel.select req now t).store.profiles.get? i = some p) :
    ∃ q seen, (sel.savedStage req now t).2.profiles.get? i = some q ∧
      p = q.apply (.setSeen seen) := by
  rw [h.store_eq hc, get?_refreshSeen (ht.writes (sel.savedStage_ofRound req now t))] at hp
  obtain ⟨q, hq, rfl⟩ := Option.map_eq_some_iff.mp hp
  exact ⟨q, _, hq, rfl⟩

lemma rating_select (h : sel.IsDefault) (ht : t.WellFormed)
    (hc : (sel.select req now t).isCompleted = true) {i : NetworkId} {p : Profile}
    (hp : (sel.select req now t).store.profiles.get? i = some p) (hs : p.ephemeral = false) :
    p.status.candidate = best? (sel.context req now) t.lastPick (sel.usable req) p ∧
      p.status.score = (best? (sel.context req now) t.lastPick (sel.usable req) p).map
        (score (sel.context req now) t.lastPick · p) := by
  obtain ⟨q, seen, hq, rfl⟩ := h.get?_select ht hc hp
  obtain ⟨state, hstage, hrated⟩ := sel.rated_savedStage ht req now
  rw [hstage] at hq
  obtain ⟨hcandidate, hscore, -⟩ := hrated.profile hq hs
  exact ⟨hcandidate, hscore⟩

lemma rating_select_of_ephemeral (h : sel.IsDefault) (ht : t.WellFormed)
    (hc : (sel.select req now t).isCompleted = true) {i : NetworkId} {p : Profile}
    (hp : (sel.select req now t).store.profiles.get? i = some p) (he : p.ephemeral = true) :
    (∃ q, t.profiles.get? i = some q ∧ p.status.candidate = q.status.candidate ∧
        p.status.score = q.status.score) ∨
      t.profiles.get? i = none ∧ p.status.candidate = none ∧ p.status.score = none := by
  obtain ⟨p', seen, hp', rfl⟩ := h.get?_select ht hc hp
  have he' : p'.ephemeral = true := he
  have hup := ht.writes (SavedNetworks.update_ofRound req.scan t)
  -- Ephemeral profiles come out of the policy for saved networks as they went in.
  have hbefore : (sel.untrustedStage req now t).2.profiles.get? i = some p' := by
    have hcleared := cleared_evaluate (ht.writes (sel.untrustedStage_ofRound req now t))
      (sel.usable req) (sel.context req now) i
    rw [← savedStage, hp', sel.cleared_untrustedStage ht, Option.map_some,
      Profile.cleared_of_ephemeral he'] at hcleared
    exact hcleared.symm
  obtain hsame | ⟨hnone, o, -, hnew⟩ := hup.get?_of_creates (fun _ => id)
    (sel.untrustedStage_creates req now t) i
  · rw [hbefore, SavedNetworks.get?_update ht, eq_comm, Option.map_eq_some_iff] at hsame
    obtain ⟨q, hq, rfl⟩ := hsame
    have hqe : q.ephemeral = true := by
      rw [Profile.cleared] at he'
      split at he'
      · assumption
      · exact he'
    rw [Profile.cleared_of_ephemeral hqe]
    exact .inl ⟨q, hq, rfl, rfl⟩
  · rw [SavedNetworks.get?_update ht, Option.map_eq_none_iff] at hnone
    obtain rfl := Option.some.inj (hbefore.symm.trans hnew)
    exact .inr ⟨hnone, rfl, rfl⟩

lemma proposal_select (h : sel.IsDefault) (ht : t.WellFormed)
    (hc : (sel.select req now t).isCompleted = true) :
    (sel.savedStage req now t).1.proposal.map Profile.core =
      (leader? (sel.context req now) t.lastPick
        ((sel.select req now t).store.pairings ofSaved (sel.usable req))).map Prod.snd := by
  obtain ⟨state, hstage, hrated⟩ := sel.rated_savedStage ht req now
  have hpairs : (sel.select req now t).store.pairings ofSaved (sel.usable req) =
      (sel.untrustedStage req now t).2.pairings ofSaved (sel.usable req) := by
    rw [h.store_eq hc, ProfileTable.pairings_of_writes (fun _ => rfl)
      (by rintro _ ⟨seen, rfl⟩; trivial) (refreshSeen_writes ..)]
    exact ProfileTable.pairings_of_writes (fun _ => rfl) (by rintro _ ⟨o, s, rfl⟩; trivial)
      (evaluate_writes ..) _
  rw [hpairs, hstage]
  exact hrated.proposal

end IsDefault

end Selector

namespace Sample

def farHome : Observation :=
  observation home.ssid 6 (-70) .psk

def otherHome : Observation :=
  observation home.ssid 7 home.rssi .psk

def crowd : Request where
  scan := [farHome, cafe, home, otherHome]
  link := .disconnected
  untrustedAllowed := true

end Sample

namespace Selector

open SavedNetworks

variable {sel : Selector ProfileTable} {t : ProfileTable} {req : Request} {now : Millis}

theorem select_rates_best (ht : t.Reachable) (h : sel.IsDefault)
    (hc : (sel.select req now t).isCompleted = true) :
    let r := sel.select req now t
    let best := best? (sel.context req now) t.lastPick (sel.usable req)
    let score := score (sel.context req now) t.lastPick
    let proposal := (sel.savedStage req now t).1.proposal
    (∀ i p, r.store.profiles.get? i = some p → p.ephemeral = false →
      p.status.candidate = best p ∧ p.status.score = (best p).map (score · p)) ∧
    Writes (Write.RatesSaved t) t r.store ∧
    (∀ i p, r.store.profiles.get? i = some p → p.ephemeral = true →
      (∃ q, t.profiles.get? i = some q ∧ p.status.candidate = q.status.candidate ∧
        p.status.score = q.status.score) ∨
      t.profiles.get? i = none ∧ p.status.candidate = none ∧ p.status.score = none) ∧
    proposal.map Profile.core =
      (leader? (sel.context req now) t.lastPick
        (r.store.pairings ofSaved (sel.usable req))).map Prod.snd ∧
    ∀ n, proposal = some n → ∃ p s, r.store.profiles.get? n.id = some p ∧
      p.status.score = some s ∧ ∀ i q s', r.store.profiles.get? i = some q →
        q.ephemeral = false → q.status.score = some s' → s' ≤ s := by
  intro r best score proposal
  have hwf := ht.wellFormed
  have hstore : r.store.WellFormed := hwf.writes (select_ofRound h req now t)
  have hrating {i p} := h.rating_select hwf hc (i := i) (p := p)
  have hproposal := h.proposal_select hwf hc
  refine ⟨fun i p => hrating, h.ratesSaved_select hwf hc,
    fun i p => h.rating_select_of_ephemeral hwf hc, hproposal, ?_⟩
  intro n hn
  rw [show (sel.savedStage req now t).1.proposal = some n from hn, Option.map_some, eq_comm,
    Option.map_eq_some_iff] at hproposal
  obtain ⟨⟨o, c⟩, hleader, hn⟩ := hproposal
  obtain ⟨p, b, hp, rfl, hs, hb, hmax⟩ := exists_best?_of_leader? hstore hleader
  have hid : p.id = n.id := Profile.id_eq_of_core hn
  refine ⟨p, score b p, hid ▸ hp, ?_, ?_⟩
  · rw [(hrating hp hs).2, hb, Option.map_some]
  · intro i q s' hq hqs hs'
    rw [(hrating hq hqs).2, Option.map_eq_some_iff] at hs'
    obtain ⟨b', hb', rfl⟩ := hs'
    exact hmax i q b' hq hqs hb'

theorem select_rates_best_crowd :
    let t := (Sample.selector.select (Sample.request .disconnected) 0 Sample.table).store
    let r := Sample.selector.select Sample.crowd 10 t
    (t.profiles.get? 1).map (·.status.candidate) = some (some Sample.office) ∧
      (∃ p, r.store.profiles.get? 0 = some p ∧ p.status.candidate = some Sample.home ∧
        p.status.score = some 180) ∧
      (∃ p, r.store.profiles.get? 1 = some p ∧ p.status.candidate = none ∧
        p.status.score = none) ∧
      (∃ p, r.store.profiles.get? 2 = some p ∧ p.ephemeral = true ∧ p.status.candidate = none) ∧
      ∃ n p, (Sample.selector.savedStage Sample.crowd 10 t).1.proposal = some n ∧ n.id = 0 ∧
        r.store.profiles.get? n.id = some p ∧ p.status.score = some 180 := by
  intro t r
  have ht : t.Reachable := ⟨[.add "home" .psk, .add "office" .psk,
    .select Sample.selector Sample.isDefault_selector (Sample.request .disconnected) 0], rfl⟩
  let best := best? (Sample.selector.context Sample.crowd 10) t.lastPick
    (Sample.selector.usable Sample.crowd)
  let rate (p : Profile) := (best p).map
    (score (Sample.selector.context Sample.crowd 10) t.lastPick · p)
  have hc : r.isCompleted = true := by decide
  obtain ⟨hrating, -, hkept, -, hmax⟩ := select_rates_best ht Sample.isDefault_selector hc
  have hr : Sample.selector.select Sample.crowd 10 t = r := rfl
  simp only [hr] at hrating hkept hmax
  have hhome : (r.store.profiles.get? 0).map (fun p => (p.ephemeral, best p, rate p)) =
      some (false, some Sample.home, some 180) := by decide +kernel
  have hoffice : (r.store.profiles.get? 1).map (fun p => (p.ephemeral, best p)) =
      some (false, none) := by decide +kernel
  have hcafe : (r.store.profiles.get? 2).map (·.ephemeral) = some true := by decide +kernel
  have hcafe₀ : (t.profiles.get? 2).map (·.status.candidate) = some none := by decide +kernel
  have hproposal : ((Sample.selector.savedStage Sample.crowd 10 t).1.proposal).map (·.id) =
      some 0 := by decide +kernel
  obtain ⟨p, hp, hpair⟩ := Option.map_eq_some_iff.mp hhome
  obtain ⟨hs, hbest, hrate⟩ : p.ephemeral = false ∧ best p = some Sample.home ∧
    rate p = some 180 := by simpa using hpair
  obtain ⟨hcandidate, hscore⟩ := hrating 0 p hp hs
  refine ⟨by decide, ⟨p, hp, hcandidate.trans hbest, hscore.trans hrate⟩, ?_, ?_, ?_⟩
  · obtain ⟨q, hq, hpair⟩ := Option.map_eq_some_iff.mp hoffice
    obtain ⟨hqs, hnone⟩ := Prod.mk.inj hpair
    obtain ⟨hcandidate, hscore⟩ := hrating 1 q hq hqs
    refine ⟨q, hq, hcandidate.trans hnone, hscore.trans ?_⟩
    change (best q).map _ = none
    rw [hnone]
    rfl
  · obtain ⟨q, hq, he⟩ := Option.map_eq_some_iff.mp hcafe
    refine ⟨q, hq, he, ?_⟩
    obtain ⟨q₀, hq₀, hsame, -⟩ | ⟨-, hnone, -⟩ := hkept 2 q hq he
    · rw [hq₀] at hcafe₀
      exact hsame.trans (Option.some.inj hcafe₀)
    · exact hnone
  · obtain ⟨n, hn, hid⟩ := Option.map_eq_some_iff.mp hproposal
    obtain ⟨q, s, hq, hqs, -⟩ := hmax n hn
    refine ⟨n, q, hn, hid, hq, ?_⟩
    rw [hid, hp, Option.some.injEq] at hq
    rw [← hq]
    exact hscore.trans hrate

end Selector

end WirelessSelection
