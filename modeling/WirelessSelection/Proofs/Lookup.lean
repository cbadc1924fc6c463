import WirelessSelection.Proofs.Resilience

/-! An evaluation over a store in which some networks cannot be looked up comes to the same as one
of the scan without these networks. -/

namespace WirelessSelection

def Attempt.LooksUp : Attempt → Prop
  | resolve _ => True
  | createEphemeral _ | change .. => False

namespace Recorder

variable {σ α : Type} {fails : Attempt → Bool}

def finds (fails : Attempt → Bool) (o : Observation) : Bool :=
  !fails (.resolve o.ssid.text)

lemma resolve_of_finds [ProfileStore σ] {r : Recorder σ} {o : Observation}
    (h : finds r.fails o = true) : ProfileStore.resolve r o = ProfileStore.resolve r.store o := by
  rw [finds, Bool.not_eq_true'] at h
  exact if_neg (ne_true_of_eq_false h)

lemma resolve_of_not_finds [ProfileStore σ] {r : Recorder σ} {o : Observation}
    (h : finds r.fails o = false) : ProfileStore.resolve r o = .error .storage := by
  rw [finds, Bool.not_eq_false'] at h
  exact if_pos h

structure Shows (fails : Attempt → Bool) (state : α × σ) (state' : α × Recorder σ) : Prop where
  eq : state = (state'.1, state'.2.store)
  fails_eq : state'.2.fails = fails

lemma attempt_shows (hf : ∀ a, fails a = true → a.LooksUp) {r : Recorder σ} (hr : r.fails = fails)
    {a : Attempt} (ha : ¬a.LooksUp) (operation : σ → Except Fault α × σ) :
    Shows fails (operation r.store) (r.attempt a operation) := by
  have hok : r.fails a = false := by
    rw [hr, ← Bool.not_eq_true]
    exact fun h => ha (hf a h)
  rw [attempt_of_not_fails hok]
  exact ⟨rfl, hr⟩

lemma Shows.foldl_filter {state : α × σ} {state' : α × Recorder σ} (h : Shows fails state state')
    {f : α × σ → Observation → α × σ} {f' : α × Recorder σ → Observation → α × Recorder σ}
    (hfound : ∀ o s s', finds fails o = true → Shows fails s s' → Shows fails (f s o) (f' s' o))
    (hlost : ∀ o s', finds s'.2.fails o = false → f' s' o = s') (scan : List Observation) :
    Shows fails ((scan.filter (finds fails)).foldl f state) (scan.foldl f' state') := by
  rw [List.foldl_filter]
  refine List.foldl_rel h fun o _ s s' hs => ?_
  cases ho : finds fails o with
  | true => exact hfound o s s' ho hs
  | false =>
    rw [hlost o s' (hs.fails_eq ▸ ho)]
    exact hs

end Recorder

open Recorder

namespace UntrustedNetworks

variable {σ : Type} [ProfileStore σ] {fails : Attempt → Bool} {o : Observation}

lemma ephemeral?_shows (hf : ∀ a, fails a = true → a.LooksUp) {r : Recorder σ}
    (hr : r.fails = fails) (ho : finds fails o = true) :
    Shows fails (ephemeral? r.store o) (ephemeral? r o) := by
  have hmake : Shows fails (ProfileStore.createEphemeral r.store o)
      (ProfileStore.createEphemeral r o) :=
    attempt_shows hf hr (a := .createEphemeral o.ssid.text) not_false
      (ProfileStore.createEphemeral · o)
  obtain ⟨hmade, hfails⟩ := hmake
  rw [ephemeral?, ephemeral?, resolve_of_finds (hr ▸ ho)]
  split
  · exact ⟨rfl, hr⟩
  · rw [hmade]
    cases hc : ProfileStore.createEphemeral r o with
    | mk result r' =>
      rw [hc] at hfails
      cases result <;> exact ⟨rfl, hfails⟩
  · exact ⟨rfl, hr⟩

lemma consider_shows (hf : ∀ a, fails a = true → a.LooksUp) (ho : finds fails o = true)
    {state : Tally × σ} {state' : Tally × Recorder σ} (h : Shows fails state state') :
    Shows fails (consider state o) (consider state' o) := by
  obtain ⟨rfl, hr⟩ := h
  obtain ⟨hfound, hfails⟩ := ephemeral?_shows hf hr ho
  rw [consider, consider, hfound]
  cases hc : ephemeral? state'.2 o with
  | mk found r' =>
    rw [hc] at hfails
    cases found <;> exact ⟨rfl, hfails⟩

lemma consider_of_not_finds {state : Tally × Recorder σ} (ho : finds state.2.fails o = false) :
    consider state o = state := by
  rw [consider, ephemeral?, resolve_of_not_finds ho]

lemma evaluate_shows (hf : ∀ a, fails a = true → a.LooksUp) {r : Recorder σ} (hr : r.fails = fails)
    (usable : List Observation) (ctx : Context) :
    Shows fails (evaluate (usable.filter (finds fails)) ctx r.store) (evaluate usable ctx r) := by
  have hstart : Shows fails (({} : Tally), r.store) ({}, r) := ⟨rfl, hr⟩
  obtain ⟨hrun, hfails⟩ := hstart.foldl_filter (fun _ _ _ ho hs => consider_shows hf ho hs)
    (fun _ _ => consider_of_not_finds) (usable.filter (·.isOpen))
  rw [evaluate, evaluate]
  split
  · rw [List.filter_comm, hrun]
    exact ⟨rfl, hfails⟩
  · exact ⟨rfl, hr⟩

end UntrustedNetworks

namespace SavedNetworks

variable {σ : Type} [ProfileStore σ] {fails : Attempt → Bool} {o : Observation} {ctx : Context}
  {last : Option Pick}

lemma record_shows (hf : ∀ a, fails a = true → a.LooksUp) {r : Recorder σ} (hr : r.fails = fails)
    (tally : Tally) (id : NetworkId) (o : Observation) (s : Score) :
    Shows fails (record tally r.store id o s) (record tally r id o s) := by
  have hchange : Shows fails (ProfileStore.change r.store id (.recordCandidate o s))
      (ProfileStore.change r id (.recordCandidate o s)) :=
    attempt_shows hf hr (a := .change id (.recordCandidate o s)) not_false
      (ProfileStore.change · id (.recordCandidate o s))
  obtain ⟨hchanged, hfails⟩ := hchange
  rw [record, record]
  split
  · rw [hchanged]
    cases hc : ProfileStore.change r id (.recordCandidate o s) with
    | mk result r' =>
      rw [hc] at hfails
      cases result <;> exact ⟨rfl, hfails⟩
  · exact ⟨rfl, hr⟩

lemma consider_shows (ctx : Context) (last : Option Pick)
    (hf : ∀ a, fails a = true → a.LooksUp) (ho : finds fails o = true)
    {state : Tally × σ} {state' : Tally × Recorder σ} (h : Shows fails state state') :
    Shows fails (consider ctx last state o) (consider ctx last state' o) := by
  obtain ⟨rfl, hr⟩ := h
  rw [consider, consider, resolve_of_finds (hr ▸ ho)]
  cases ProfileStore.resolve state'.2.store o with
  | error f => exact ⟨rfl, hr⟩
  | ok found =>
    cases found with
    | none => exact ⟨rfl, hr⟩
    | some p =>
      dsimp only
      split
      · obtain ⟨hrecorded, hfails⟩ := record_shows hf hr state'.1 p.id o (score ctx last o p)
        simp only [rate, hrecorded]
        exact ⟨rfl, hfails⟩
      · exact ⟨rfl, hr⟩

lemma consider_of_not_finds {state : Tally × Recorder σ} (ho : finds state.2.fails o = false) :
    consider ctx last state o = state := by
  rw [consider, resolve_of_not_finds ho]

lemma evaluate_shows (hf : ∀ a, fails a = true → a.LooksUp) {r : Recorder σ} (hr : r.fails = fails)
    (usable : List Observation) (ctx : Context) :
    Shows fails (evaluate (usable.filter (finds fails)) ctx r.store) (evaluate usable ctx r) := by
  have hstart : Shows fails (({} : Tally), r.store) ({}, r) := ⟨rfl, hr⟩
  have hrun (last : Option Pick) := hstart.foldl_filter
    (fun _ _ _ ho hs => consider_shows ctx last hf ho hs)
    (fun _ _ => consider_of_not_finds) usable
  obtain ⟨hlast, hfails⟩ := hrun (ProfileStore.lastPick? r.store)
  exact ⟨congrArg (fun x => (x.1.evaluation, x.2)) hlast, hfails⟩

end SavedNetworks

namespace Sample

def unreadable : Recorder ProfileTable where
  store := Operation.runAll [.add "home" .psk, .add "cafe" .unsecured] .empty
  fails
    | .resolve ssid => ssid = "cafe"
    | _ => false

end Sample

namespace Selector

lemma IsDefault.evaluate_shows {σ : Type} [ProfileStore σ] {sel : Selector σ}
    {sel' : Selector (Recorder σ)} (h : sel.IsDefault) (h' : sel'.IsDefault)
    {fails : Attempt → Bool} (hf : ∀ a, fails a = true → a.LooksUp) {r : Recorder σ}
    (hr : r.fails = fails) (usable : List Observation) (ctx : Context) :
    Shows fails (sel.panel.evaluate (usable.filter (finds fails)) ctx r.store)
      (sel'.panel.evaluate usable ctx r) := by
  obtain ⟨hu, hmade⟩ := UntrustedNetworks.evaluate_shows hf hr usable ctx
  obtain ⟨hs, hrated⟩ := SavedNetworks.evaluate_shows hf hmade usable ctx
  rw [h.evaluate_eq, h'.evaluate_eq]
  simp only [hu, hs]
  exact ⟨rfl, hrated⟩

lemma IsDefault.exists_ssid_eq_of_new {sel : Selector ProfileTable} (h : sel.IsDefault)
    {t : ProfileTable} (ht : t.WellFormed) {usable : List Observation} {ctx : Context}
    {i : NetworkId} {p : Profile}
    (hp : (sel.panel.evaluate usable ctx t).2.profiles.get? i = some p)
    (hnew : t.profiles.get? i = none) : ∃ o ∈ usable, o.ssid = p.ssid := by
  let made := (UntrustedNetworks.evaluate usable ctx t).2
  have hmade : Writes (fun w => ∃ o ∈ usable, w = .createEphemeral o) t made :=
    UntrustedNetworks.evaluate_writes (fun o ho => ⟨o, ho, rfl⟩) ctx t
  have hcreates : ∀ w, (∃ o ∈ usable, w = Write.createEphemeral o) → w.Creates := by
    rintro _ ⟨o, -, rfl⟩
    trivial
  rw [h.evaluate_eq] at hp
  have hview := ProfileTable.view_of_writes (f := (·.ssid)) (by rintro _ ⟨o, s, rfl⟩ _; rfl)
    (SavedNetworks.evaluate_writes usable ctx made)
  obtain ⟨q, hq, hssid⟩ := IdMap.mem_view.mp (hview ▸ IdMap.mem_view.mpr ⟨p, hp, rfl⟩)
  obtain hsame | ⟨-, o, ⟨o', ho', heq⟩, hget⟩ := ht.get?_of_creates hcreates hmade i
  · exact absurd (hq.symm.trans (hsame.trans hnew)) (Option.some_ne_none _)
  · obtain rfl := Write.createEphemeral.inj heq
    obtain rfl := Option.some.inj (hget.symm.trans hq)
    exact ⟨o, ho', hssid⟩

variable {sel : Selector ProfileTable} {sel' : Selector (Recorder ProfileTable)}
  {r : Recorder ProfileTable}

lemma mem_openUnsaved_of_not_finds {σ : Type} [ProfileStore σ] {sel : Selector (Recorder σ)}
    (h : sel.IsDefault) {r : Recorder σ} {req : Request} {now : Millis}
    (hc : (sel.select req now r).isCompleted = true) {o : Observation} (ho : o ∈ sel.usable req)
    (hopen : o.isOpen = true) (hlost : finds r.fails o = false) :
    o ∈ (sel.select req now r).memory.openUnsaved := by
  rw [← fails_of_writes (select_ofRound h req now r)] at hlost
  rw [openUnsaved_of_isCompleted hc, List.mem_filter, List.mem_filter]
  refine ⟨⟨ho, hopen⟩, ?_⟩
  rw [isUnsaved, resolve_of_not_finds hlost]

theorem evaluate_of_failing_lookups (hr : r.store.Reachable)
    (hf : ∀ a, r.fails a = true → a.LooksUp) (h : sel.IsDefault) (h' : sel'.IsDefault) :
    (∀ scan ctx,
      let e := sel.panel.evaluate (scan.filter fun o => !r.fails (.resolve o.ssid.text)) ctx r.store
      let e' := sel'.panel.evaluate scan ctx r
      e'.1 = e.1 ∧ e'.2.store = e.2 ∧
        ∀ i p, e'.2.store.profiles.get? i = some p → r.store.profiles.get? i = none →
          r.fails (.resolve p.ssid.text) = false) ∧
    ∀ req now, (sel'.select req now r).isCompleted = true → ∀ o ∈ sel'.usable req,
      o.isOpen = true → r.fails (.resolve o.ssid.text) = true →
        o ∈ (sel'.select req now r).memory.openUnsaved := by
  constructor
  · intro scan ctx e e'
    have hshows : e = (e'.1, e'.2.store) := (h.evaluate_shows h' hf rfl scan ctx).eq
    have hstore : e'.2.store = e.2 := (congrArg Prod.snd hshows).symm
    refine ⟨(congrArg Prod.fst hshows).symm, hstore, ?_⟩
    intro i p hp hnew
    rw [hstore] at hp
    obtain ⟨o, ho, hssid⟩ := h.exists_ssid_eq_of_new hr.wellFormed hp hnew
    rw [← hssid, ← Bool.not_eq_true']
    exact (List.mem_filter.mp ho).2
  · intro req now hc o ho hopen hlost
    refine mem_openUnsaved_of_not_finds h' hc ho hopen ?_
    rw [finds, hlost]
    rfl

theorem evaluate_of_failing_lookups_unreadable :
    let ctx := Sample.selector.context Sample.openScan 0
    let e := Sample.selector.panel.evaluate [Sample.bar, Sample.home] ctx Sample.unreadable.store
    let e' := Sample.recordingSelector.panel.evaluate Sample.openScan.scan ctx Sample.unreadable
    e'.1 = e.1 ∧ e'.2.store = e.2 ∧ e'.1.connectable.map (·.profile.id) = [2, 0] ∧
      isUnsaved Sample.unreadable.store Sample.cafe = false ∧
      Sample.cafe ∈ (Sample.recordingSelector.select Sample.openScan 0
        Sample.unreadable).memory.openUnsaved := by
  intro ctx e e'
  have hreach : Sample.unreadable.store.Reachable :=
    ⟨[.add "home" .psk, .add "cafe" .unsecured], rfl⟩
  have hf : ∀ a, Sample.unreadable.fails a = true → a.LooksUp := by
    intro a ha
    cases a with
    | resolve => trivial
    | createEphemeral | change => contradiction
  obtain ⟨heval, hround⟩ := evaluate_of_failing_lookups hreach hf Sample.isDefault_selector
    Sample.isDefault_recordingSelector
  have hkept : (Sample.openScan.scan.filter fun o =>
      !Sample.unreadable.fails (.resolve o.ssid.text)) = [Sample.bar, Sample.home] := by decide
  have hsame := heval Sample.openScan.scan ctx
  rw [hkept] at hsame
  obtain ⟨hverdict, hstore, -⟩ := hsame
  refine ⟨hverdict, hstore, ?_, by decide, ?_⟩
  · rw [hverdict]
    decide
  · exact hround Sample.openScan 0 (by decide) Sample.cafe (by decide) (by decide) (by decide)

end Selector

end WirelessSelection
