import WirelessSelection.Proofs.Agreement
import WirelessSelection.Proofs.Footprint

/-! A round asked for again at once. The first of the two may make profiles and notes things on all
of them, so the second starts from a table that agrees only up to those. -/

namespace WirelessSelection

namespace Profile

lemma cleared_cleared (p : Profile) : p.cleared.cleared = p.cleared := by
  cases he : p.ephemeral with
  | true => rw [cleared_of_ephemeral he, cleared_of_ephemeral he]
  | false =>
    rw [cleared_of_saved he, cleared_of_saved (p := p.apply .clearCandidate) he, apply_apply]

lemma cleared_recordCandidate {p : Profile} (h : p.ephemeral = false) (o : Observation)
    (s : Score) : (p.apply (.recordCandidate o s)).cleared = p.cleared := by
  rw [cleared_of_saved h]
  exact cleared_of_saved (p := p.apply (.recordCandidate o s)) h

lemma unseen_cleared_setSeen (p : Profile) (seen : Bool) :
    (p.apply (.setSeen seen)).cleared.unseen = p.cleared.unseen := by
  cases he : p.ephemeral with
  | true =>
    rw [cleared_of_ephemeral he, cleared_of_ephemeral (p := p.apply (.setSeen seen)) he]
    rfl
  | false =>
    rw [cleared_of_saved he, cleared_of_saved (p := p.apply (.setSeen seen)) he]
    rfl

end Profile

lemma ProfileTable.eq_of_get? {t t' : ProfileTable}
    (h : ∀ i, t'.profiles.get? i = t.profiles.get? i)
    (hc : t'.nextId = t.nextId ∧ t'.lastPick = t.lastPick) : t' = t := by
  change ProfileTable.mk t'.profiles t'.nextId t'.lastPick = t
  rw [IdMap.ext_get? h, hc.1, hc.2]

namespace UntrustedNetworks

variable {t t' : ProfileTable}

def Tally.ofPairs (pairs : List Pairing) : Tally :=
  pairs.foldl (fun tally q => tally.push q.observation q.profile) {}

def Tally.core (tally : Tally) : Tally where
  best := tally.best
  evaluation.proposal := tally.evaluation.proposal.map Profile.core
  evaluation.connectable :=
    tally.evaluation.connectable.map fun q => ⟨q.observation, q.profile.core⟩

lemma Tally.core_push (tally : Tally) (o : Observation) (p : Profile) :
    (tally.push o p).core = tally.core.push o p.core := by
  simp only [core, push, apply_ite (Option.map Profile.core), Option.map_some, List.map_append,
    List.map_cons, List.map_nil]
  rfl

lemma Tally.core_ofPairs (pairs : List Pairing) : (ofPairs pairs).core =
    (pairs.map Pairing.core).foldl (fun tally c => tally.push c.1 c.2) {} := by
  rw [List.foldl_map]
  exact (List.foldl_hom core fun tally q => (tally.core_push q.observation q.profile).symm).symm

lemma tally_foldl {σ : Type} [ProfileStore σ] (store : σ) (scan : List Observation) :
    (scan.foldl consider ({}, store)).1 =
      .ofPairs (scan.foldl consider ({}, store)).1.evaluation.connectable := by
  induction scan using List.reverseRecOn with
  | nil => rfl
  | append_singleton scan o ih =>
    rw [List.foldl_append]
    generalize scan.foldl consider ({}, store) = state at ih
    change (consider state o).1 = .ofPairs (consider state o).1.evaluation.connectable
    have hpush (p : Profile) : state.1.push o p =
        .ofPairs (state.1.push o p).evaluation.connectable := by
      change _ = Tally.ofPairs (state.1.evaluation.connectable ++ [⟨o, p⟩])
      rw [Tally.ofPairs, List.foldl_append, ← Tally.ofPairs, ← ih]
      rfl
    rw [consider]
    split
    · next p _ _ =>
      split
      · exact hpush p
      · exact ih
    · exact ih

lemma core_evaluate {usable : List Observation} {ctx : Context}
    (h : (evaluate usable ctx t').1.connectable.map Pairing.core =
      (evaluate usable ctx t).1.connectable.map Pairing.core) :
    (evaluate usable ctx t').1.core = (evaluate usable ctx t).1.core := by
  have htally (t : ProfileTable) : ∃ tally : Tally, (evaluate usable ctx t).1 = tally.evaluation ∧
      tally = .ofPairs tally.evaluation.connectable := by
    rw [evaluate]
    split
    · exact ⟨_, rfl, tally_foldl t _⟩
    · exact ⟨{}, rfl, rfl⟩
  obtain ⟨tally, he, hpairs⟩ := htally t
  obtain ⟨tally', he', hpairs'⟩ := htally t'
  rw [he, he'] at h ⊢
  have hcore : tally'.core = tally.core := by
    rw [hpairs, hpairs', Tally.core_ofPairs, Tally.core_ofPairs, h]
  exact Prod.ext (congrArg (·.evaluation.proposal) hcore) h

lemma ephemeral?_snd (ht : t.WellFormed) {o : Observation} (ho : o.isOpen = true)
    (h : t.nextId < NetworkId.last → ∃ p, t.resolve o = some p) : (ephemeral? t o).2 = t := by
  obtain ⟨p, -, hf⟩ | ⟨-, -, hf⟩ | ⟨t', hlast, -, hf⟩ := ephemeral?_cases ht ho
  · rw [hf]
  · rw [hf]
  · obtain ⟨p, hp⟩ := h hlast
    rw [ephemeral?, ProfileTable.resolve_eq, hp]

lemma foldl_consider_snd (ht : t.WellFormed) {scan : List Observation}
    (hscan : ∀ o ∈ scan, o.isOpen = true)
    (h : ∀ o ∈ scan, t.nextId < NetworkId.last → ∃ p, t.resolve o = some p) (tally : Tally) :
    (scan.foldl consider (tally, t)).2 = t := by
  induction scan generalizing tally with
  | nil => rfl
  | cons o scan ih =>
    have hstep : (consider (tally, t) o).2 = t := by
      rw [consider_snd]
      exact ephemeral?_snd ht (hscan o List.mem_cons_self) (h o List.mem_cons_self)
    rw [List.foldl_cons, ← Prod.mk.eta (p := consider (tally, t) o), hstep]
    exact ih (fun o ho => hscan o (List.mem_cons_of_mem _ ho))
      (fun o ho => h o (List.mem_cons_of_mem _ ho)) _

lemma evaluate_of_agree (ht : t.WellFormed) (ht' : t'.WellFormed) {usable : List Observation}
    {ctx : Context} (h : (evaluate usable ctx t).2.Agree (fun _ => true) t')
    (hnext : t'.nextId = (evaluate usable ctx t).2.nextId) :
    (evaluate usable ctx t').1.core = (evaluate usable ctx t).1.core ∧
      (evaluate usable ctx t').2 = t' := by
  cases hu : ctx.untrustedAllowed with
  | false =>
    rw [evaluate_of_not_allowed usable hu, evaluate_of_not_allowed usable hu]
    exact ⟨rfl, rfl⟩
  | true =>
    let scan := usable.filter (·.isOpen)
    have hopen : ∀ o ∈ scan, o.isOpen = true := fun _ ho => List.of_mem_filter ho
    have heval (t : ProfileTable) : evaluate usable ctx t =
        ((scan.foldl consider ({}, t)).1.evaluation, (scan.foldl consider ({}, t)).2) := by
      rw [evaluate, if_pos hu]
    have hfirst := complete_foldl ht hopen
    have hsecond := complete_foldl ht' hopen
    rw [heval] at h hnext
    have hsilent : (scan.foldl consider ({}, t')).2 = t' := by
      refine foldl_consider_snd ht' hopen ?_ {}
      intro o ho hlast
      rw [hnext] at hlast
      obtain ⟨p, hp⟩ := hfirst.resolved ho hlast
      obtain ⟨p', hp', -⟩ := h.exists_resolve hfirst.wellFormed ht' hp rfl
      exact ⟨p', hp'⟩
    refine ⟨core_evaluate ?_, by rw [heval, hsilent]⟩
    rw [heval, heval, hfirst.connectable, hsecond.connectable, hsilent]
    apply ProfileTable.pairings_congr fun _ => rfl
    intro o _
    exact h.resolve_core hfirst.wellFormed ht' o

end UntrustedNetworks

namespace SavedNetworks

variable {t : ProfileTable} {ctx : Context} {last : Option Pick}

lemma update_update (ht : t.WellFormed) (scan : List Observation) :
    update scan (update scan t) = update scan t := by
  apply ProfileTable.eq_of_get?
  · intro i
    rw [get?_update (ht.writes (update_ofRound scan t)), get?_update ht, Option.map_map]
    congr 1
    exact funext Profile.cleared_cleared
  · exact ProfileTable.counters_of_writes (update_writes scan (update scan t))

lemma cleared_consider {state : Tally × ProfileTable} (ht : state.2.WellFormed) (o : Observation)
    (i : NetworkId) : ((consider ctx last state o).2.profiles.get? i).map Profile.cleared =
      (state.2.profiles.get? i).map Profile.cleared := by
  rw [consider_eq]
  cases he : eligible? state.2 o with
  | none => rfl
  | some p =>
    obtain ⟨hr, hs, -⟩ := eligible?_eq_some_iff.mp he
    have hget := (ht.resolve_eq_some_iff.mp hr).1
    change ((record state.1 state.2 p.id o _).2.profiles.get? i).map _ = _
    rw [record_of_stored _ hget]
    split
    · rw [ProfileTable.get?_changed]
      split
      · next hi => rw [hi, hget, Option.map_some, Option.map_some, Option.map_some,
          Profile.cleared_recordCandidate hs]
      · rfl
    · rfl

lemma cleared_evaluate (ht : t.WellFormed) (usable : List Observation) (ctx : Context)
    (i : NetworkId) : ((evaluate usable ctx t).2.profiles.get? i).map Profile.cleared =
      (t.profiles.get? i).map Profile.cleared := by
  change ((usable.foldl (consider ctx _) ({}, t)).2.profiles.get? i).map Profile.cleared = _
  induction usable using List.reverseRecOn with
  | nil => rfl
  | append_singleton usable o ih =>
    have hw := Writes.foldl Prod.snd
      (fun b o _ => consider_writes ctx (ProfileStore.lastPick? t) b o) (({} : Tally), t)
      (l := usable)
    rw [List.foldl_append, ← ih]
    exact cleared_consider (ht.writes hw) o i

end SavedNetworks

namespace Selector

variable {sel : Selector ProfileTable} {t : ProfileTable} {req : Request} {now : Millis}

lemma cleared_untrustedStage (sel : Selector ProfileTable) (ht : t.WellFormed) (req : Request)
    (now : Millis) (i : NetworkId) :
    ((sel.untrustedStage req now t).2.profiles.get? i).map Profile.cleared =
      (sel.untrustedStage req now t).2.profiles.get? i := by
  have hup := ht.writes (SavedNetworks.update_ofRound req.scan t)
  obtain hi | ⟨-, o, -, ho⟩ := hup.get?_of_creates (fun _ => id)
    (sel.untrustedStage_creates req now t) i
  · rw [hi, SavedNetworks.get?_update ht, Option.map_map]
    congr 1
    exact funext Profile.cleared_cleared
  · rw [ho]
    rfl

namespace IsDefault

lemma counters_select (h : sel.IsDefault) (hc : (sel.select req now t).isCompleted = true) :
    (sel.select req now t).store.nextId = (sel.untrustedStage req now t).2.nextId ∧
      (sel.select req now t).store.lastPick = (sel.untrustedStage req now t).2.lastPick := by
  obtain ⟨hn, hl⟩ := ProfileTable.counters_of_writes
    (SavedNetworks.evaluate_writes (sel.usable req) (sel.context req now)
      (sel.untrustedStage req now t).2)
  obtain ⟨hn', hl'⟩ := ProfileTable.counters_of_writes
    (refreshSeen_writes (sel.select req now t).memory.connectable (sel.savedStage req now t).2)
  rw [h.store_eq hc]
  exact ⟨hn'.trans hn, hl'.trans hl⟩

lemma agree_update_select (h : sel.IsDefault) (ht : t.WellFormed)
    (hc : (sel.select req now t).isCompleted = true) :
    (sel.untrustedStage req now t).2.Agree (fun _ => true)
      (SavedNetworks.update req.scan (sel.select req now t).store) := by
  have hmade := ht.writes (sel.untrustedStage_ofRound req now t)
  have hseen (x : Option Profile) (seen : Bool) :
      ((x.map (·.apply (.setSeen seen))).map Profile.cleared).map Profile.unseen =
        (x.map Profile.cleared).map Profile.unseen := by
    rw [Option.map_map, Option.map_map, Option.map_map]
    congr 1
    exact funext fun p => p.unseen_cleared_setSeen seen
  rw [ProfileTable.agree_true_iff]
  intro i
  rw [SavedNetworks.get?_update (ht.writes (select_ofRound h req now t)), h.store_eq hc,
    get?_refreshSeen (ht.writes (sel.savedStage_ofRound req now t)), hseen, savedStage,
    SavedNetworks.cleared_evaluate hmade, cleared_untrustedStage sel ht]

lemma untrustedStage_select (h : sel.IsDefault) (ht : t.WellFormed)
    (hc : (sel.select req now t).isCompleted = true) :
    (sel.untrustedStage req now (sel.select req now t).store).1.core =
        (sel.untrustedStage req now t).1.core ∧
      (sel.untrustedStage req now (sel.select req now t).store).2 =
        SavedNetworks.update req.scan (sel.select req now t).store := by
  have hup := ht.writes (SavedNetworks.update_ofRound req.scan t)
  have hup' := (ht.writes (select_ofRound h req now t)).writes
    (SavedNetworks.update_ofRound req.scan _)
  obtain ⟨hn, -⟩ := ProfileTable.counters_of_writes
    (SavedNetworks.update_writes req.scan (sel.select req now t).store)
  exact UntrustedNetworks.evaluate_of_agree hup hup' (h.agree_update_select ht hc)
    (hn.trans (h.counters_select hc).1)

lemma savedStage_select (h : sel.IsDefault) (ht : t.WellFormed)
    (hc : (sel.select req now t).isCompleted = true) :
    (sel.savedStage req now (sel.select req now t).store).1.core =
        (sel.savedStage req now t).1.core ∧
      (sel.savedStage req now t).2.Agree (fun _ => true)
        (sel.savedStage req now (sel.select req now t).store).2 := by
  have hmade := ht.writes (sel.untrustedStage_ofRound req now t)
  have hup' := (ht.writes (select_ofRound h req now t)).writes
    (SavedNetworks.update_ofRound req.scan _)
  obtain ⟨-, hl⟩ := ProfileTable.counters_of_writes
    (SavedNetworks.update_writes req.scan (sel.select req now t).store)
  rw [savedStage, (h.untrustedStage_select ht hc).2]
  exact SavedNetworks.evaluate_of_agree (h.agree_update_select ht hc) Profile.coversSaved_all
    hmade hup' (hl.trans (h.counters_select hc).2) _ _

end IsDefault

def selectAgain (sel : Selector ProfileTable) (req : Request) (now : Millis) (t : ProfileTable) :
    Round ProfileTable :=
  (sel.after (sel.select req now t)).select req now (sel.select req now t).store

namespace IsDefault

lemma connectable_selectAgain (h : sel.IsDefault) (ht : t.WellFormed)
    (hc : (sel.select req now t).isCompleted = true)
    (hc' : (sel.selectAgain req now t).isCompleted = true) :
    (sel.selectAgain req now t).memory.connectable.map Pairing.core =
      (sel.select req now t).memory.connectable.map Pairing.core := by
  rw [selectAgain, h.connectable_eq hc, IsDefault.connectable_eq (h.after _) hc', List.map_append,
    List.map_append]
  exact congrArg₂ (· ++ ·) (Prod.mk.inj (h.untrustedStage_select ht hc).1).2
    (Prod.mk.inj (h.savedStage_select ht hc).1).2

lemma store_selectAgain (h : sel.IsDefault) (ht : t.WellFormed)
    (hc : (sel.select req now t).isCompleted = true)
    (hc' : (sel.selectAgain req now t).isCompleted = true) :
    (sel.selectAgain req now t).store = (sel.select req now t).store := by
  have hstore := ht.writes (select_ofRound h req now t)
  apply ProfileTable.eq_of_get?
  · intro i
    have hids : (sel.selectAgain req now t).memory.connectable.map (·.profile.id) =
        (sel.select req now t).memory.connectable.map (·.profile.id) :=
      Pairing.map_of_core (h.connectable_selectAgain ht hc hc') (·.2.id)
    have hget := (h.savedStage_select ht hc).2.refreshSeen Profile.coversSaved_all
      (ht.writes (sel.savedStage_ofRound req now t))
      (hstore.writes (sel.savedStage_ofRound req now _))
      (fun i _ _ _ => iff_of_eq (congrArg (i ∈ ·) hids)) i
    rw [Profile.filter_true, Profile.filter_true, ← h.store_eq hc] at hget
    rw [← hget, selectAgain, IsDefault.store_eq (h.after _) hc']
    rfl
  · obtain ⟨hn, hl⟩ := IsDefault.counters_select (h.after _) hc'
    have hmade := (h.untrustedStage_select ht hc).2
    have hcounters := ProfileTable.counters_of_writes
      (SavedNetworks.update_writes req.scan (sel.select req now t).store)
    rw [← hmade] at hcounters
    exact ⟨hn.trans hcounters.1, hl.trans hcounters.2⟩

lemma settle_selectAgain (h : sel.IsDefault) (ht : t.WellFormed)
    (hc : (sel.select req now t).isCompleted = true)
    (hc' : (sel.selectAgain req now t).isCompleted = true) {q : Pairing}
    (hq : q ∈ (sel.select req now t).memory.connectable) {p : Profile}
    (hp : p.core = q.profile.core) :
    settle (sel.selectAgain req now t).store (sel.selectAgain req now t).memory.connectable p =
      settle (sel.select req now t).store (sel.select req now t).memory.connectable q.profile := by
  rw [h.store_selectAgain ht hc hc']
  refine settle_congr (h.connectable_selectAgain ht hc hc') ?_ hq hp
  intro q hq
  obtain ⟨r, hr, -⟩ := (h.backed_of_mem_connectable ht hq).1.stored
  exact ⟨r, hr, hr⟩

lemma candidate_selectAgain (h : sel.IsDefault) (ht : t.WellFormed)
    (hc : (sel.select req now t).isCompleted = true)
    (hc' : (sel.selectAgain req now t).isCompleted = true) :
    (sel.selectAgain req now t).candidate = (sel.select req now t).candidate := by
  have hverdict : ((sel.after (sel.select req now t)).verdict req now
        (sel.select req now t).store).candidate.map Profile.core =
      (sel.verdict req now t).candidate.map Profile.core := by
    rw [h.verdict_candidate, IsDefault.verdict_candidate (h.after _), map_resolve, map_resolve]
    exact congrArg₂ (Panel.resolve sel.settings.resolution)
      (Prod.mk.inj (h.untrustedStage_select ht hc).1).1
      (Prod.mk.inj (h.savedStage_select ht hc).1).1
  have hcandidate := candidate_of_isCompleted hc
  have hcandidate' : (sel.selectAgain req now t).candidate = Option.map (fun p =>
      (settle (sel.selectAgain req now t).store
        (sel.selectAgain req now t).memory.connectable p).1) _ := candidate_of_isCompleted hc'
  obtain ⟨hp, hp'⟩ | ⟨p, p', hp, hp', hcore⟩ := map_eq_map_cases hverdict
  · rw [hp] at hcandidate
    rw [hp'] at hcandidate'
    exact hcandidate'.trans hcandidate.symm
  · have hmem : ∃ q ∈ (sel.select req now t).memory.connectable, q.profile = p := by
      rw [connectable_of_isCompleted hc]
      exact h.candidate_mem (ht.writes (h.within.update_writes req.scan t)) hp
    obtain ⟨q, hq, rfl⟩ := hmem
    rw [hp] at hcandidate
    rw [hp'] at hcandidate'
    rw [hcandidate, hcandidate', Option.map_some, Option.map_some,
      h.settle_selectAgain ht hc hc' hq hcore]

end IsDefault

lemma skip?_of_disconnected (hl : req.link = .disconnected) (usable : List Observation)
    (store : ProfileTable) : sel.skip? req usable now store =
      if usable.isEmpty then some .noUsableObservations else none := by
  rw [skip?, Situation.skip?, situation, hl]

theorem select_select (ht : t.Reachable) (h : sel.IsDefault) (hl : req.link = .disconnected)
    (now : Millis) :
    let r := sel.select req now t
    let r' := (sel.after r).select req now r.store
    r'.candidate = r.candidate ∧ r'.store = r.store ∧
      r'.memory.openUnsaved = r.memory.openUnsaved ∧
      r'.memory.connectable.map (fun q => (q.observation, q.profile.id)) =
        r.memory.connectable.map fun q => (q.observation, q.profile.id) := by
  intro r r'
  have hwf := ht.wellFormed
  -- Both rounds look at the same scan, which is all that could stop one of them.
  have hcompleted : r'.isCompleted = r.isCompleted := by
    rw [isCompleted_select, isCompleted_select, skip?_of_disconnected hl, skip?_of_disconnected hl]
    rfl
  cases hc : r.isCompleted with
  | false =>
    obtain ⟨reason, -, hs⟩ := select_of_not_isCompleted hc
    obtain ⟨reason', -, hs'⟩ := select_of_not_isCompleted (hcompleted.trans hc)
    have hstore : r.store = SavedNetworks.update req.scan t := by
      rw [← h.update_eq]
      exact congrArg (·.store) hs
    have hstore' : r'.store = r.store := by
      rw [hstore, ← SavedNetworks.update_update hwf, ← hstore, ← h.update_eq]
      exact congrArg (·.store) hs'
    refine ⟨?_, hstore', ?_, ?_⟩ <;> rw [show r = _ from hs, show r' = _ from hs'] <;> rfl
  | true =>
    have hc' : r'.isCompleted = true := hcompleted.trans hc
    have hstore : r'.store = r.store := h.store_selectAgain hwf hc hc'
    refine ⟨h.candidate_selectAgain hwf hc hc', hstore, ?_, ?_⟩
    · rw [openUnsaved_of_isCompleted hc, openUnsaved_of_isCompleted hc', hstore]
      rfl
    · exact Pairing.map_of_core (h.connectable_selectAgain hwf hc hc') fun c => (c.1, c.2.id)

theorem select_select_scarceTable :
    let r := Sample.selector.select Sample.openScan 0 Sample.scarceTable
    let r' := (Sample.selector.after r).select Sample.openScan 0 r.store
    r.store ≠ Sample.scarceTable ∧ r.store.nextId = NetworkId.last ∧ r'.store = r.store ∧
      r'.candidate.map (·.id) = some 4294967293 ∧
      r'.memory.openUnsaved = [Sample.cafe, Sample.bar, Sample.farCafe] ∧
      r'.memory.connectable.map (fun q => (q.observation, q.profile.id)) =
        [(Sample.cafe, 4294967294), (Sample.farCafe, 4294967294), (Sample.home, 4294967293)] := by
  have ht : Sample.scarceTable.Arises := .operation (Sample.arises_of_nextId _) _
  have hl : Sample.openScan.link = .disconnected := rfl
  obtain ⟨hcandidate, hstore, hopen, hconn⟩ :=
    select_select ht.reachable Sample.isDefault_selector hl 0
  refine ⟨by decide, by decide, hstore, ?_, ?_, ?_⟩
  · rw [hcandidate]
    decide
  · rw [hopen]
    decide
  · rw [hconn]
    decide

end Selector

end WirelessSelection
