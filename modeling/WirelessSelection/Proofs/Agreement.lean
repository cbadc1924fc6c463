import WirelessSelection.Proofs.Connectable
import WirelessSelection.Proofs.SeenFlags
import WirelessSelection.Proofs.Selection

/-! Two tables that hold the same profiles of some kind, up to which of them were seen. -/

namespace WirelessSelection

namespace Profile

def unseen (p : Profile) : Profile :=
  p.apply (.setSeen false)

variable {p q : Profile} {kind : Profile → Bool}

structure CoversSaved (kind : Profile → Bool) : Prop where
  core (p : Profile) : kind p.core = kind p
  saved {p : Profile} (h : p.ephemeral = false) : kind p = true

lemma coversSaved_saved : CoversSaved fun p => !p.ephemeral where
  core _ := rfl
  saved h := congrArg (!·) h

lemma coversSaved_all : CoversSaved fun _ => true where
  core _ := rfl
  saved _ := rfl

lemma core_eq_of_unseen (h : p.unseen = q.unseen) : p.core = q.core :=
  congrArg (·.core) h

lemma CoversSaved.apply (hk : CoversSaved kind) {c : Change} (hc : c.OfRound) (p : Profile) :
    kind (p.apply c) = kind p := by
  rw [← hk.core, core_apply hc, hk.core]

lemma CoversSaved.filter_map (hk : CoversSaved kind) {c : Change} (hc : c.OfRound)
    (x : Option Profile) : (x.map (·.apply c)).filter kind = (x.filter kind).map (·.apply c) := by
  rw [Option.filter_map, show kind ∘ (·.apply c) = kind from funext (hk.apply hc)]

lemma filter_true (x : Option Profile) : x.filter (fun _ => true) = x := by
  cases x <;> rfl

end Profile

namespace ProfileTable

variable {t t' : ProfileTable} {kind : Profile → Bool}

def Agree (kind : Profile → Bool) (t t' : ProfileTable) : Prop :=
  ∀ i, ((t'.profiles.get? i).filter kind).map Profile.unseen =
    ((t.profiles.get? i).filter kind).map Profile.unseen

lemma agree_true_iff : Agree (fun _ => true) t t' ↔
    ∀ i, (t'.profiles.get? i).map Profile.unseen = (t.profiles.get? i).map Profile.unseen := by
  simp only [Agree, Profile.filter_true]

namespace Agree

lemma symm (h : Agree kind t t') : Agree kind t' t :=
  fun i => (h i).symm

lemma stored (h : Agree kind t t') {i : NetworkId} {p : Profile}
    (hp : t.profiles.get? i = some p) (hk : kind p = true) :
    ∃ p', t'.profiles.get? i = some p' ∧ p'.unseen = p.unseen := by
  have hi := h i
  rw [hp, Option.filter_some, if_pos hk, Option.map_some] at hi
  obtain ⟨p', hp', hu⟩ := Option.map_eq_some_iff.mp hi
  exact ⟨p', (Option.filter_eq_some_iff.mp hp').1, hu⟩

lemma recordCandidate (h : Agree kind t t') (hk : Profile.CoversSaved kind) (id : NetworkId)
    (o : Observation) (s : Score) :
    Agree kind (t.changed id (.recordCandidate o s)) (t'.changed id (.recordCandidate o s)) := by
  have hrecord (x : Option Profile) :
      ((x.map (·.apply (.recordCandidate o s))).filter kind).map Profile.unseen =
        ((x.filter kind).map Profile.unseen).map (·.apply (.recordCandidate o s)) := by
    have hround : (Change.recordCandidate o s).OfRound := trivial
    rw [hk.filter_map hround, Option.map_map, Option.map_map]
    rfl
  intro i
  rw [get?_changed, get?_changed]
  split
  · rw [hrecord, hrecord, h i]
  · exact h i

lemma exists_resolve (h : Agree kind t t') (ht : t.WellFormed) (ht' : t'.WellFormed)
    {o : Observation} {p : Profile} (hp : t.resolve o = some p) (hk : kind p = true) :
    ∃ p', t'.resolve o = some p' ∧ p'.unseen = p.unseen := by
  obtain ⟨hget, hmatch⟩ := ht.resolve_eq_some_iff.mp hp
  obtain ⟨p', hp', hu⟩ := h.stored hget hk
  have hcore := Profile.core_eq_of_unseen hu
  refine ⟨p', ht'.resolve_eq_some_iff.mpr ⟨?_, ?_⟩, hu⟩
  · rwa [Profile.id_eq_of_core hcore]
  · rwa [Profile.isMatch_eq_of_core hcore]

lemma resolve_core (h : Agree (fun _ => true) t t') (ht : t.WellFormed) (ht' : t'.WellFormed)
    (o : Observation) : (t'.resolve o).map Profile.core = (t.resolve o).map Profile.core := by
  cases hp : t.resolve o with
  | some p =>
    obtain ⟨p', hp', hu⟩ := h.exists_resolve ht ht' hp rfl
    rw [hp', Option.map_some, Option.map_some, Profile.core_eq_of_unseen hu]
  | none =>
    rw [Option.map_none, Option.map_eq_none_iff, Option.eq_none_iff_forall_ne_some]
    intro p' hp'
    obtain ⟨p, hp'', -⟩ := h.symm.exists_resolve ht' ht hp' rfl
    exact Option.some_ne_none _ (hp''.symm.trans hp)

lemma exists_eligible? (h : Agree kind t t') (hk : Profile.CoversSaved kind) (ht : t.WellFormed)
    (ht' : t'.WellFormed) {o : Observation} {p : Profile}
    (hp : SavedNetworks.eligible? t o = some p) :
    ∃ p', SavedNetworks.eligible? t' o = some p' ∧ p'.unseen = p.unseen := by
  obtain ⟨hr, hsaved, hen⟩ := SavedNetworks.eligible?_eq_some_iff.mp hp
  obtain ⟨p', hp', hu⟩ := h.exists_resolve ht ht' hr (hk.saved hsaved)
  have hcore := Profile.core_eq_of_unseen hu
  refine ⟨p', SavedNetworks.eligible?_eq_some_iff.mpr ⟨hp', ?_, ?_⟩, hu⟩
  · rwa [Profile.ephemeral_eq_of_core hcore]
  · rwa [Profile.isEnabled_eq_of_core hcore]

lemma eligible?_eq_none (h : Agree kind t t') (hk : Profile.CoversSaved kind) (ht : t.WellFormed)
    (ht' : t'.WellFormed) {o : Observation}
    (hn : SavedNetworks.eligible? t o = none) : SavedNetworks.eligible? t' o = none := by
  rw [Option.eq_none_iff_forall_ne_some]
  intro p' hp'
  obtain ⟨p, hp, -⟩ := h.symm.exists_eligible? hk ht' ht hp'
  exact Option.some_ne_none _ (hp.symm.trans hn)

lemma refreshSeen (h : Agree kind t t') (hk : Profile.CoversSaved kind) (ht : t.WellFormed)
    (ht' : t'.WellFormed) {connectable connectable' : List Pairing}
    (hids : ∀ i p, t.profiles.get? i = some p → kind p = true →
      (i ∈ connectable'.map (·.profile.id) ↔ i ∈ connectable.map (·.profile.id)))
    (i : NetworkId) :
    ((Selector.refreshSeen connectable' t').profiles.get? i).filter kind =
      ((Selector.refreshSeen connectable t).profiles.get? i).filter kind := by
  have hmark (x : Option Profile) (seen : Bool) : x.map (·.apply (.setSeen seen)) =
      (x.map Profile.unseen).map (·.apply (.setSeen seen)) := by
    rw [Option.map_map]
    rfl
  have hround (seen : Bool) : (Change.setSeen seen).OfRound := trivial
  rw [get?_refreshSeen ht, get?_refreshSeen ht', hk.filter_map (hround _),
    hk.filter_map (hround _), hmark, h i, ← hmark]
  cases hp : (t.profiles.get? i).filter kind with
  | none => rfl
  | some p =>
    obtain ⟨hget, hkind⟩ := Option.filter_eq_some_iff.mp hp
    rw [decide_eq_decide.mpr (hids i p hget hkind)]

end Agree

end ProfileTable

lemma Pairing.map_of_core {β : Type} {l l' : List Pairing} (h : l'.map core = l.map core)
    (f : Observation × Profile → β) : l'.map (fun q => f q.core) = l.map fun q => f q.core := by
  have hmap := congrArg (List.map f) h
  rwa [List.map_map, List.map_map] at hmap

def Evaluation.core (e : Evaluation) : Option Profile × List (Observation × Profile) :=
  (e.proposal.map Profile.core, e.connectable.map Pairing.core)

namespace SavedNetworks

variable {t t' : ProfileTable} {ctx : Context} {last : Option Pick} {kind : Profile → Bool}

lemma record_of_stored (tally : Tally) {id : NetworkId} {p : Profile}
    (hp : t.profiles.get? id = some p) (o : Observation) (s : Score) :
    record tally t id o s =
      if beats s (tally.recorded.lookup id) then
        ((id, s) :: tally.recorded, t.changed id (.recordCandidate o s))
      else (tally.recorded, t) := by
  rw [record, ProfileTable.change_of_stored hp]

lemma score_of_core {p p' : Profile} (h : p'.core = p.core) (o : Observation) :
    score ctx last o p' = score ctx last o p := by
  change score ctx last o p'.core = score ctx last o p.core
  rw [h]

lemma rate_of_core {σ σ' : Type} [ProfileStore σ] [ProfileStore σ'] {tally tally' : Tally}
    (hbest : tally'.best = tally.best) (hcore : tally'.evaluation.core = tally.evaluation.core)
    {p p' : Profile} (hp : p'.core = p.core) (o : Observation) (store : σ) (store' : σ') :
    (rate ctx last tally' store' o p').1.best = (rate ctx last tally store o p).1.best ∧
      (rate ctx last tally' store' o p').1.evaluation.core =
        (rate ctx last tally store o p).1.evaluation.core := by
  have hpair : (⟨o, p'⟩ : Pairing).core = (⟨o, p⟩ : Pairing).core := congrArg (o, ·) hp
  obtain ⟨hproposal, hconnectable⟩ := Prod.mk.inj hcore
  refine ⟨?_, Prod.ext ?_ ?_⟩
  · simp only [rate, score_of_core hp, hbest]
  · simp only [rate, Evaluation.core, score_of_core hp, hbest]
    split
    · exact congrArg some hp
    · exact hproposal
  · simp only [rate, Evaluation.core, List.map_append, hconnectable, List.map_cons, hpair]

structure InStep (kind : Profile → Bool) (state state' : Tally × ProfileTable) : Prop where
  agree : state.2.Agree kind state'.2
  wellFormed : state.2.WellFormed
  wellFormed' : state'.2.WellFormed
  recorded : state'.1.recorded = state.1.recorded
  best : state'.1.best = state.1.best
  evaluation : state'.1.evaluation.core = state.1.evaluation.core

variable {state state' : Tally × ProfileTable}

lemma InStep.rate (h : InStep kind state state') (hk : Profile.CoversSaved kind)
    {o : Observation} {p p' : Profile} (hp : state.2.profiles.get? p.id = some p)
    (hp' : state'.2.profiles.get? p'.id = some p') (hcore : p'.core = p.core)
    (hwf : (rate ctx last state.1 state.2 o p).2.WellFormed)
    (hwf' : (rate ctx last state'.1 state'.2 o p').2.WellFormed) :
    InStep kind (rate ctx last state.1 state.2 o p) (rate ctx last state'.1 state'.2 o p') := by
  have hid : p'.id = p.id := Profile.id_eq_of_core hcore
  have hscore : score ctx last o p' = score ctx last o p := score_of_core hcore o
  have hrecord := record_of_stored state.1 hp o (score ctx last o p)
  have hrecord' := record_of_stored state'.1 hp' o (score ctx last o p')
  rw [hid, hscore, h.recorded] at hrecord'
  obtain ⟨hbest, heval⟩ := rate_of_core h.best h.evaluation hcore o state.2 state'.2
  constructor
  case wellFormed => exact hwf
  case wellFormed' => exact hwf'
  case agree =>
    change ProfileTable.Agree kind (record _ _ _ _ _).2 (record _ _ _ _ _).2
    rw [hid, hscore, hrecord, hrecord']
    split
    · exact h.agree.recordCandidate hk _ _ _
    · exact h.agree
  case recorded =>
    change (record _ _ _ _ _).1 = (record _ _ _ _ _).1
    rw [hid, hscore, hrecord, hrecord']
    split <;> rfl
  case best => exact hbest
  case evaluation => exact heval

lemma InStep.consider (h : InStep kind state state') (hk : Profile.CoversSaved kind)
    (o : Observation) :
    InStep kind (consider ctx last state o) (consider ctx last state' o) := by
  have hwf := h.wellFormed.writes (consider_writes ctx last state o)
  have hwf' := h.wellFormed'.writes (consider_writes ctx last state' o)
  have hstored {t : ProfileTable} (ht : t.WellFormed) {p : Profile} (hp : eligible? t o = some p) :
      t.profiles.get? p.id = some p :=
    (ht.resolve_eq_some_iff.mp (eligible?_eq_some_iff.mp hp).1).1
  rw [consider_eq] at hwf hwf' ⊢
  rw [consider_eq]
  cases hp : eligible? state.2 o with
  | none =>
    rw [h.agree.eligible?_eq_none hk h.wellFormed h.wellFormed' hp]
    exact h
  | some p =>
    obtain ⟨p', hp', hu⟩ := h.agree.exists_eligible? hk h.wellFormed h.wellFormed' hp
    rw [hp] at hwf
    rw [hp'] at hwf' ⊢
    exact h.rate hk (hstored h.wellFormed hp) (hstored h.wellFormed' hp')
      (Profile.core_eq_of_unseen hu) hwf hwf'

lemma InStep.foldl (h : InStep kind state state') (hk : Profile.CoversSaved kind)
    (ctx : Context) (last : Option Pick) (scan : List Observation) :
    InStep kind (scan.foldl (SavedNetworks.consider ctx last) state)
      (scan.foldl (SavedNetworks.consider ctx last) state') := by
  induction scan generalizing state state' with
  | nil => exact h
  | cons o scan ih => exact ih (h.consider hk o)

lemma evaluate_of_agree (h : t.Agree kind t') (hk : Profile.CoversSaved kind)
    (ht : t.WellFormed) (ht' : t'.WellFormed) (hlast : t'.lastPick = t.lastPick)
    (usable : List Observation) (ctx : Context) :
    (evaluate usable ctx t').1.core = (evaluate usable ctx t).1.core ∧
      (evaluate usable ctx t).2.Agree kind (evaluate usable ctx t').2 := by
  have hstart : InStep kind (({} : Tally), t) ({}, t') := ⟨h, ht, ht', rfl, rfl, rfl⟩
  have hrun := hstart.foldl hk ctx t.lastPick usable
  rw [evaluate, evaluate, show ProfileStore.lastPick? t' = t.lastPick from hlast]
  exact ⟨hrun.evaluation, hrun.agree⟩

end SavedNetworks

section Settle

variable {t t' : ProfileTable} {connectable connectable' : List Pairing} {q : Pairing}

lemma Override.find?_of_core (h : connectable'.map Pairing.core = connectable.map Pairing.core)
    (id : NetworkId) (key : ProfileKey) :
    (connectable'.find? fun q => q.profile.id ≠ id && q.profile.key = key).map Pairing.core =
      (connectable.find? fun q => q.profile.id ≠ id && q.profile.key = key).map Pairing.core := by
  have hfind (l : List Pairing) :
      (l.find? fun q => q.profile.id ≠ id && q.profile.key = key).map Pairing.core =
        (l.map Pairing.core).find? fun c => c.2.id ≠ id && c.2.key = key := by
    rw [List.find?_map]
    rfl
  rw [hfind, hfind, h]

lemma Override.chosen?_congr (hc : connectable'.map Pairing.core = connectable.map Pairing.core)
    (hget : ∀ q ∈ connectable, ∃ r, t.profiles.get? q.profile.id = some r ∧
      t'.profiles.get? q.profile.id = some r)
    (hq : q ∈ connectable) {p : Profile} (hp : p.core = q.profile.core) :
    chosen? t' p connectable' = chosen? t q.profile connectable := by
  obtain ⟨r, hr, hr'⟩ := hget q hq
  have hid : p.id = q.profile.id := Profile.id_eq_of_core hp
  have hchoice : choice? t' p = choice? t q.profile := by
    rw [choice?, choice?, ProfileTable.profile?_eq, ProfileTable.profile?_eq, hid,
      hr, hr', Option.getD_some, Option.getD_some]
  rw [chosen?, chosen?, hchoice, hid]
  congr 1
  funext choice
  obtain ⟨hx, hx'⟩ | ⟨x, x', hx, hx', hcore⟩ :=
    map_eq_map_cases (find?_of_core hc q.profile.id choice.key) <;> rw [hx, hx']
  · rfl
  · obtain ⟨s, hs, hs'⟩ := hget x (List.mem_of_find?_eq_some hx)
    have hxid : x'.profile.id = x.profile.id := congrArg (·.2.id) hcore
    change (if ((ProfileStore.profile? t' x'.profile.id).getD x'.profile).isEnabled then _ else _) =
      if ((ProfileStore.profile? t x.profile.id).getD x.profile).isEnabled then _ else _
    rw [ProfileTable.profile?_eq, ProfileTable.profile?_eq, hxid, hs, hs', Option.getD_some,
      Option.getD_some]

lemma Selector.settle_congr (hc : connectable'.map Pairing.core = connectable.map Pairing.core)
    (hget : ∀ q ∈ connectable, ∃ r, t.profiles.get? q.profile.id = some r ∧
      t'.profiles.get? q.profile.id = some r)
    (hq : q ∈ connectable) {p : Profile} (hp : p.core = q.profile.core) :
    settle t' connectable' p = settle t connectable q.profile := by
  obtain ⟨r, hr, hr'⟩ := hget q hq
  have hid : p.id = q.profile.id := Profile.id_eq_of_core hp
  rw [settle, settle, Override.chosen?_congr hc hget hq hp, hid, ProfileTable.profile?_eq,
    ProfileTable.profile?_eq, hr, hr', Option.getD_some, Option.getD_some]

end Settle

end WirelessSelection
