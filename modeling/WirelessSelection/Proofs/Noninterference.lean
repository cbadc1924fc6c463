import WirelessSelection.Proofs.Agreement

/-! Whether a request allows untrusted networks or not, rounds note the same on every saved profile
and propose the same saved network. -/

namespace WirelessSelection

def Request.allowing (req : Request) (untrustedAllowed : Bool) : Request :=
  { req with untrustedAllowed }

namespace ProfileTable

lemma agree_of_creates {t t' : ProfileTable} (ht : t.WellFormed) (h : Writes Write.Creates t t') :
    Agree (fun p => !p.ephemeral) t t' := by
  intro i
  obtain hi | ⟨hnone, o, -, hnew⟩ := ht.get?_of_creates (fun _ => id) h i
  · rw [hi]
  · rw [hnone, hnew]
    rfl

end ProfileTable

namespace Selector

variable {sel : Selector ProfileTable} {t : ProfileTable} {req : Request} {now : Millis}

lemma settle_append {usable : List Observation} {first rest : List Pairing}
    (hfirst : ∀ q ∈ first, q.Backed usable t) (p : Profile) :
    settle t (first ++ rest) p = settle t rest p ∨
      ∃ q ∈ first, t.profiles.get? q.profile.id = some (settle t (first ++ rest) p).1 := by
  cases hc : Override.choice? t p with
  | none =>
    have hnone (l : List Pairing) : Override.chosen? t p l = none := by
      rw [Override.chosen?, hc]
      rfl
    exact .inl (by rw [settle, settle, hnone, hnone])
  | some choice =>
    cases hq : first.find? fun q => q.profile.id ≠ p.id && q.profile.key = choice.key with
    | none =>
      have hrest : Override.chosen? t p (first ++ rest) = Override.chosen? t p rest := by
        rw [Override.chosen?, Override.chosen?, hc]
        simp only [bind, Option.bind_some, List.find?_append, hq, Option.none_or]
      exact .inl (by rw [settle, settle, hrest])
    | some q =>
      have hmem := List.mem_of_find?_eq_some hq
      obtain ⟨r, hr, hcore⟩ := (hfirst q hmem).stored
      have hen : r.isEnabled = true :=
        (Profile.isEnabled_eq_of_core hcore).trans (hfirst q hmem).isEnabled
      have hchosen : Override.chosen? t p (first ++ rest) = some r := by
        refine Override.chosen?_eq_some_iff.mpr ⟨choice, q, hc, ?_, ?_, hen⟩
        · rw [List.find?_append, hq, Option.some_or]
        · rw [ProfileTable.profile?_eq, hr, Option.getD_some]
      exact .inr ⟨q, hmem, by rw [settle, hchosen, hr]⟩

lemma savedStage_of_allowed (sel : Selector ProfileTable) (ht : t.WellFormed) (req : Request)
    (now : Millis) :
    (sel.savedStage (req.allowing true) now t).1.core =
        (sel.savedStage (req.allowing false) now t).1.core ∧
      (sel.savedStage (req.allowing false) now t).2.Agree (fun p => !p.ephemeral)
        (sel.savedStage (req.allowing true) now t).2 := by
  have hup := ht.writes (SavedNetworks.update_ofRound req.scan t)
  have hcreates := sel.untrustedStage_creates (req.allowing true) now t
  have hext := ProfileTable.Extends.of_writes hup (hcreates.mono fun _ => Write.Creates.ofRound)
  have hrefused : sel.savedStage (req.allowing false) now t = SavedNetworks.evaluate
      (sel.usable req) (sel.context (req.allowing true) now) (SavedNetworks.update req.scan t) := by
    rw [savedStage, sel.untrustedStage_of_not_allowed rfl]
    rfl
  rw [hrefused]
  exact SavedNetworks.evaluate_of_agree (ProfileTable.agree_of_creates hup hcreates)
    Profile.coversSaved_saved hup (hup.writes hcreates) hext.lastPick_eq _ _

lemma backed_of_mem_untrustedStage (ht : t.WellFormed) {q : Pairing}
    (hq : q ∈ (sel.untrustedStage req now t).1.connectable) :
    q.Backed (sel.usable req) (sel.savedStage req now t).2 ∧ q.profile.ephemeral = true := by
  have hup := ht.writes (SavedNetworks.update_ofRound req.scan t)
  obtain ⟨tally, hu, hp⟩ :=
    UntrustedNetworks.paired_evaluate hup (sel.usable req) (sel.context req now)
  obtain ⟨hb, he⟩ := hp.backed (hu ▸ hq)
  exact ⟨hb.of_extends (.of_writes hp.wellFormed (SavedNetworks.evaluate_ofRound ..)), he⟩

namespace IsDefault

lemma saved_of_allowed (h : sel.IsDefault) (ht : t.WellFormed)
    (hc : (sel.select (req.allowing false) now t).isCompleted = true)
    (hc' : (sel.select (req.allowing true) now t).isCompleted = true) (i : NetworkId) {p : Profile}
    (hp : p.ephemeral = false) :
    (sel.select (req.allowing false) now t).store.profiles.get? i = some p ↔
      (sel.select (req.allowing true) now t).store.profiles.get? i = some p := by
  have hfilter (x : Option Profile) : x = some p ↔ x.filter (fun p => !p.ephemeral) = some p := by
    simp [Option.filter_eq_some_iff, hp]
  obtain ⟨hcore, hagree⟩ := sel.savedStage_of_allowed ht req now
  have hids : (sel.savedStage (req.allowing true) now t).1.connectable.map (·.profile.id) =
      (sel.savedStage (req.allowing false) now t).1.connectable.map (·.profile.id) :=
    Pairing.map_of_core (Prod.mk.inj hcore).2 (·.2.id)
  rw [h.store_eq hc, h.store_eq hc', (h.select_of_not_allowed rfl hc).1, h.connectable_eq hc']
  refine ((hfilter _).trans ?_).trans (hfilter _).symm
  rw [hagree.refreshSeen Profile.coversSaved_saved (ht.writes (sel.savedStage_ofRound ..))
    (ht.writes (sel.savedStage_ofRound ..))]
  intro i p hp hsaved
  -- No pair of the first policy stands for a saved profile.
  have hout : i ∉ (sel.untrustedStage (req.allowing true) now t).1.connectable.map
      (·.profile.id) := by
    intro hi
    obtain ⟨q, hq, rfl⟩ := List.mem_map.mp hi
    obtain ⟨hb, he⟩ := backed_of_mem_untrustedStage ht hq
    obtain ⟨p', hp', hu⟩ := hagree.stored hp hsaved
    have hsame := Profile.ephemeral_eq_of_core (Profile.core_eq_of_unseen hu)
    rw [← hsame, Profile.ephemeral_eq_of_core (hb.core_eq hp'), he] at hsaved
    contradiction
  rw [List.map_append, List.mem_append, or_iff_right hout, hids]

lemma ephemeral_of_mem_untrustedStage (h : sel.IsDefault) (ht : t.WellFormed)
    (hc : (sel.select req now t).isCompleted = true) {q : Pairing}
    (hq : q ∈ (sel.untrustedStage req now t).1.connectable) {m : Profile}
    (hm : (sel.select req now t).store.profiles.get? q.profile.id = some m) :
    m.ephemeral = true := by
  have hmem : q ∈ (sel.select req now t).memory.connectable := by
    rw [h.connectable_eq hc]
    exact List.mem_append_left _ hq
  have hcore := (h.backed_of_mem_connectable ht hmem).1.core_eq hm
  exact (Profile.ephemeral_eq_of_core hcore).trans (backed_of_mem_untrustedStage ht hq).2

lemma settle_of_allowed (h : sel.IsDefault) (ht : t.WellFormed)
    (hc : (sel.select (req.allowing false) now t).isCompleted = true)
    (hc' : (sel.select (req.allowing true) now t).isCompleted = true) {q : Pairing}
    (hq : q ∈ (sel.savedStage (req.allowing false) now t).1.connectable) {p : Profile}
    (hp : p.core = q.profile.core) :
    settle (sel.select (req.allowing true) now t).store
        (sel.savedStage (req.allowing true) now t).1.connectable p =
      settle (sel.select (req.allowing false) now t).store
        (sel.savedStage (req.allowing false) now t).1.connectable q.profile := by
  refine settle_congr (Prod.mk.inj (sel.savedStage_of_allowed ht req now).1).2 ?_ hq hp
  intro q hq
  have hmem : q ∈ (sel.select (req.allowing false) now t).memory.connectable := by
    rwa [(h.select_of_not_allowed rfl hc).1]
  have hsaved : q.profile.ephemeral = false := by
    rw [← Bool.not_eq_true]
    intro he
    exact absurd ((h.backed_of_mem_connectable ht hmem).2 he) Bool.false_ne_true
  obtain ⟨r, hr, hcore⟩ := (h.backed_of_mem_connectable ht hmem).1.stored
  have hrs : r.ephemeral = false := (Profile.ephemeral_eq_of_core hcore).trans hsaved
  exact ⟨r, hr, (h.saved_of_allowed ht hc hc' q.profile.id hrs).mp hr⟩

lemma candidate_of_allowed (h : sel.IsDefault) (ht : t.WellFormed)
    (hlast : sel.settings.resolution = .lastWins)
    (hc : (sel.select (req.allowing false) now t).isCompleted = true)
    (hc' : (sel.select (req.allowing true) now t).isCompleted = true) :
    ((sel.select (req.allowing false) now t).candidate = none ∧
      ∀ m, (sel.select (req.allowing true) now t).candidate = some m → m.ephemeral = true) ∨
    ∃ n m, (sel.select (req.allowing false) now t).candidate = some n ∧
      (sel.select (req.allowing true) now t).candidate = some m ∧ (m = n ∨ m.ephemeral = true) := by
  obtain ⟨hproposal, -⟩ := Prod.mk.inj (sel.savedStage_of_allowed ht req now).1
  have hrefused := (h.select_of_not_allowed rfl hc).2
  have hallowed := h.candidate_eq hc'
  cases hp : (sel.savedStage (req.allowing false) now t).1.proposal with
  | none =>
    -- Without a saved proposal no saved network was connectable either.
    refine .inl ⟨by rw [hrefused, hp]; rfl, ?_⟩
    intro m hm
    obtain ⟨q, hq, hget⟩ := h.candidate_mem_connectable ht hm
    rw [hp, Option.map_none, Option.map_eq_none_iff] at hproposal
    rw [h.connectable_eq hc', List.mem_append] at hq
    obtain hq | hq := hq
    · exact h.ephemeral_of_mem_untrustedStage ht hc' hq hget
    · obtain ⟨p, hp'⟩ := SavedNetworks.proposal_isSome hq
      exact absurd (hp'.symm.trans hproposal) (Option.some_ne_none _)
  | some p =>
    obtain ⟨q, hq, rfl⟩ := SavedNetworks.proposal_mem hp
    rw [hp, Option.map_some] at hproposal
    obtain ⟨p', hp', hcore⟩ := Option.map_eq_some_iff.mp hproposal
    rw [hp] at hrefused
    rw [hp', hlast] at hallowed
    refine .inr ⟨_, _, hrefused, hallowed, ?_⟩
    rw [h.connectable_eq hc']
    have hbacked : ∀ q' ∈ (sel.untrustedStage (req.allowing true) now t).1.connectable,
        q'.Backed (sel.usable req) (sel.select (req.allowing true) now t).store := by
      intro q' hq'
      have hmem : q' ∈ (sel.select (req.allowing true) now t).memory.connectable := by
        rw [h.connectable_eq hc']
        exact List.mem_append_left _ hq'
      exact (h.backed_of_mem_connectable ht hmem).1
    obtain hsame | ⟨q', hq', hget⟩ := settle_append hbacked p'
    · have hsettled := h.settle_of_allowed ht hc hc' hq hcore
      exact .inl (congrArg Prod.fst (hsame.trans hsettled))
    · exact .inr (h.ephemeral_of_mem_untrustedStage ht hc' hq' hget)

end IsDefault

theorem select_untrustedAllowed (ht : t.Reachable) (h : sel.IsDefault)
    (hlast : sel.settings.resolution = .lastWins) (req : Request) (now : Millis) :
    let refused := sel.select (req.allowing false) now t
    let allowed := sel.select (req.allowing true) now t
    ((∃ reason, refused.events = [.roundSkipped reason] ∧ allowed.events = [.roundSkipped reason]) ∨
      refused.isCompleted = true ∧ allowed.isCompleted = true) ∧
    (∀ id p, p.ephemeral = false →
      (refused.store.profiles.get? id = some p ↔ allowed.store.profiles.get? id = some p)) ∧
    (∀ n, allowed.candidate = some n → n.ephemeral = false → refused.candidate = some n) ∧
    ∀ n, refused.candidate = some n →
      ∃ m, allowed.candidate = some m ∧ (m = n ∨ m.ephemeral = true) := by
  intro refused allowed
  cases hs : sel.skip? req (sel.usable req) now (sel.panel.update req.scan t) with
  | some reason =>
    have hrefused : refused = sel.skip reason (sel.panel.update req.scan t) := select_of_skip? hs
    have hallowed : allowed = sel.skip reason (sel.panel.update req.scan t) := select_of_skip? hs
    rw [hrefused, hallowed]
    exact ⟨.inl ⟨reason, rfl, rfl⟩, fun _ _ _ => Iff.rfl, fun _ hn _ => hn,
      fun n hn => ⟨n, hn, .inl rfl⟩⟩
  | none =>
    have hc : refused.isCompleted = true := by
      rw [isCompleted_select]
      exact congrArg Option.isNone hs
    have hc' : allowed.isCompleted = true := by
      rw [isCompleted_select]
      exact congrArg Option.isNone hs
    have hwf := ht.wellFormed
    have hcases := h.candidate_of_allowed hwf hlast hc hc'
    refine ⟨.inr ⟨hc, hc'⟩, fun id p hp => h.saved_of_allowed hwf hc hc' id hp, ?_, ?_⟩
    · intro n hn hs
      obtain ⟨-, hephemeral⟩ | ⟨n', m, hn', hm, hcase⟩ := hcases
      · exact absurd (hs.symm.trans (hephemeral n hn)) Bool.false_ne_true
      · obtain rfl : n = m := Option.some.inj (hn.symm.trans hm)
        obtain rfl | he := hcase
        · exact hn'
        · exact absurd (hs.symm.trans he) Bool.false_ne_true
    · intro n hn
      obtain ⟨hnone, -⟩ | ⟨n', m, hn', hm, hcase⟩ := hcases
      · exact absurd (hnone.symm.trans hn) (Option.some_ne_none _).symm
      · obtain rfl : n = n' := Option.some.inj (hn.symm.trans hn')
        exact ⟨m, hm, hcase⟩

theorem select_untrustedAllowed_cafe :
    let t := (Operation.choose 2 10).run ((Operation.select Sample.selector
      Sample.isDefault_selector (Sample.request .disconnected) 0).run Sample.table)
    let req := Sample.request .disconnected
    let refused := Sample.selector.select (req.allowing false) 20 t
    let allowed := Sample.selector.select (req.allowing true) 20 t
    refused.isCompleted = true ∧ allowed.isCompleted = true ∧
      (∃ n, refused.candidate = some n ∧ n.id = 0 ∧ n.ephemeral = false ∧
        allowed.store.profiles.get? 0 = some n) ∧
      ∃ m, allowed.candidate = some m ∧ m.id = 2 ∧ m.ephemeral = true := by
  intro t req
  have ht : t.Reachable := ⟨[.add "home" .psk, .add "office" .psk,
    .select Sample.selector Sample.isDefault_selector (Sample.request .disconnected) 0,
    .choose 2 10], rfl⟩
  obtain ⟨-, hkept, -, hcand⟩ := select_untrustedAllowed ht Sample.isDefault_selector rfl req 20
  generalize hr : Sample.selector.select (req.allowing false) 20 t = refused at hkept hcand ⊢
  generalize ha : Sample.selector.select (req.allowing true) 20 t = allowed at hkept hcand ⊢
  have hhome : refused.candidate.map (fun n => (n.id, n.ephemeral)) = some (0, false) := by
    rw [← hr]
    decide
  have hcafe : allowed.candidate.map (fun n => (n.id, n.ephemeral)) = some (2, true) := by
    rw [← ha]
    decide
  have hget : refused.store.profiles.get? 0 = refused.candidate := by
    rw [← hr]
    decide
  have hdone : refused.isCompleted = true ∧ allowed.isCompleted = true := by
    rw [← hr, ← ha]
    decide
  obtain ⟨n, hn, hpair⟩ := Option.map_eq_some_iff.mp hhome
  obtain ⟨hid, hs⟩ := Prod.mk.inj hpair
  obtain ⟨m, hm, -⟩ := hcand n hn
  rw [hm, Option.map_some, Option.some.injEq, Prod.mk.injEq] at hcafe
  refine ⟨hdone.1, hdone.2, ⟨n, hn, hid, hs, ?_⟩, m, hm, hcafe⟩
  exact (hkept 0 n hs).mp (hget.trans hn)

end Selector

end WirelessSelection
