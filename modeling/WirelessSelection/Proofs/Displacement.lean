import WirelessSelection.Proofs.Choice

/-! Untrusted networks that are selected although a saved one is connectable. Behind each of them is
a pick of a network with the same key, which may be forgotten by now. -/

namespace WirelessSelection

namespace ProfileTable

variable {t : ProfileTable} {op : Operation} {ops : List Operation}

lemma stored_run (ht : t.WellFormed) (hop : op.SetsNoChoice) {id : NetworkId}
    (hremove : op ≠ .remove id) {p : Profile} (hp : t.profiles.get? id = some p) :
    ∃ q, (op.run t).profiles.get? id = some q ∧ q.key = p.key := by
  obtain ⟨u, wall, picked, rfl, hu⟩ | ⟨u, rfl⟩ | hk := run_cases ht hop
  · rw [Operation.run, Override.get?_choose ht hu]
    split
    · next hi =>
      obtain rfl : picked = p := Option.some.inj (hu.symm.trans (hi ▸ hp))
      exact ⟨_, rfl, rfl⟩
    · rw [hp]
      exact ⟨_, rfl, Override.key_yielded ..⟩
  · refine ⟨p, ?_, rfl⟩
    rw [Operation.run, remove, IdMap.get?_erase, if_neg, hp]
    rintro rfl
    exact hremove rfl
  · exact hk.stored hp

lemma stored_runAll (ht : t.WellFormed) (hops : ∀ op ∈ ops, op.SetsNoChoice) {id : NetworkId}
    (hremove : .remove id ∉ ops) {p : Profile} (hp : t.profiles.get? id = some p) :
    ∃ q, (Operation.runAll ops t).profiles.get? id = some q ∧ q.key = p.key := by
  induction ops generalizing t p with
  | nil => exact ⟨p, hp, rfl⟩
  | cons op ops ih =>
    rw [List.mem_cons, not_or] at hremove
    obtain ⟨q, hq, hk⟩ := stored_run ht (hops op List.mem_cons_self) (Ne.symm hremove.1) hp
    obtain ⟨r, hr, hk'⟩ := ih (ht.run_operation op)
      (fun op' ho => hops op' (List.mem_cons_of_mem op ho)) hremove.2 hq
    exact ⟨r, hr, hk'.trans hk⟩

lemma choice_run (ht : t.WellFormed) (hop : op.SetsNoChoice) {i : NetworkId} {p : Profile}
    {c : ConnectChoice} (hp : (op.run t).profiles.get? i = some p) (hc : p.status.choice = some c) :
    (∃ q, t.profiles.get? i = some q ∧ q.status.choice = some c) ∨
      ∃ u wall picked, op = .choose u wall ∧ t.profiles.get? u = some picked ∧
        picked.key = c.key := by
  obtain ⟨u, wall, picked, rfl, hu⟩ | ⟨u, rfl⟩ | hk := run_cases ht hop
  · rw [Operation.run, Override.get?_choose ht hu] at hp
    split at hp
    · rw [← Option.some.inj hp] at hc
      contradiction
    · obtain ⟨q, hq, rfl⟩ := Option.map_eq_some_iff.mp hp
      obtain rfl | hqc := Override.choice_yielded_cases hc
      · exact .inr ⟨u, wall, picked, rfl, hu, rfl⟩
      · exact .inl ⟨q, hq, hqc⟩
  · exact .inl ⟨p, get?_of_remove hp, hc⟩
  · obtain ⟨q, hq, -, hqc⟩ := hk.choice hp hc
    exact .inl ⟨q, hq, hqc⟩

lemma exists_pick_of_choice (hops : ∀ op ∈ ops, op.SetsNoChoice) {i : NetworkId} {p : Profile}
    {c : ConnectChoice}
    (hp : (Operation.runAll ops .empty).profiles.get? i = some p) (hc : p.status.choice = some c) :
    ∃ past u wall rest picked, ops = past ++ .choose u wall :: rest ∧
      (Operation.runAll past .empty).profiles.get? u = some picked ∧ picked.key = c.key := by
  induction ops using List.reverseRecOn generalizing p with
  | nil => contradiction
  | append_singleton ops op ih =>
    have hpast := fun op' ho => hops op' (List.mem_append_left [op] ho)
    rw [Operation.runAll_append] at hp
    obtain ⟨q, hq, hqc⟩ | ⟨u, wall, picked, rfl, hu, hk⟩ :=
      choice_run (empty_wellFormed.runAll ops) (hops op (by simp)) hp hc
    · obtain ⟨past, u, wall, rest, picked, rfl, hu, hk⟩ := ih hpast hq hqc
      exact ⟨past, u, wall, rest ++ [op], picked, by simp, hu, hk⟩
    · exact ⟨ops, u, wall, [], picked, rfl, hu, hk⟩

end ProfileTable

namespace Selector

variable {sel : Selector ProfileTable} {t : ProfileTable} {req : Request} {now : Millis}

lemma IsDefault.choice_of_displaced (h : sel.IsDefault)
    (hlast : sel.settings.resolution = .lastWins) (ht : t.WellFormed)
    (hc : (sel.select req now t).isCompleted = true)
    (hsaved : ∃ q ∈ (sel.select req now t).memory.connectable, q.profile.ephemeral = false)
    {n : Profile} (hn : (sel.select req now t).candidate = some n) (he : n.ephemeral = true) :
    ∃ i p c, t.profiles.get? i = some p ∧ p.status.choice = some c ∧ c.key = n.key := by
  have hwrites := select_ofRound h req now t
  have hback (q : Pairing) (hq : q ∈ (sel.select req now t).memory.connectable) :=
    (h.backed_of_mem_connectable ht hq).1
  obtain ⟨q₀, hq₀, hs₀⟩ := hsaved
  rw [connectable_of_isCompleted hc] at hq₀
  obtain ⟨q, hq, hs, hcand⟩ :=
    h.candidate_of_lastWins (ht.writes (h.within.update_writes req.scan t)) hlast hq₀ hs₀
  rw [← verdict, ← connectable_of_isCompleted hc] at hq
  rw [candidate_of_isCompleted hc, verdict, hcand, Option.map_some, Option.some.injEq] at hn
  obtain ⟨r, hr, hcore⟩ := (hback q hq).stored
  rw [settle] at hn
  split at hn
  · next chosen hchosen =>
    subst hn
    obtain ⟨c, q', hchoice, hfind, hget, -⟩ := Override.chosen?_eq_some_iff.mp hchosen
    rw [ProfileTable.choice?_of_stored hr] at hchoice
    obtain ⟨r', hr', hcore'⟩ := (hback q' (List.mem_of_find?_eq_some hfind)).stored
    rw [ProfileTable.profile?_eq, hr', Option.getD_some] at hget
    have hkey := List.find?_some hfind
    simp only [Bool.and_eq_true, decide_eq_true_eq] at hkey
    have hkeeps := ProfileTable.Keeps.of_writes ht (hwrites.mono fun _ => Write.OfRound.setsNoChoice)
    obtain ⟨p, hp, -, hpc⟩ := hkeeps.choice hr hchoice
    refine ⟨_, p, c, hp, hpc, ?_⟩
    rw [← hget, Profile.key_eq_of_core hcore', hkey.2]
  · rw [ProfileTable.profile?_eq, hr, Option.getD_some] at hn
    rw [← hn, Profile.ephemeral_eq_of_core hcore, hs] at he
    contradiction

theorem pick_of_displaced {ops : List Operation} (hops : ∀ op ∈ ops, op.SetsNoChoice)
    (h : sel.IsDefault) (hlast : sel.settings.resolution = .lastWins) :
    let r := sel.select req now (Operation.runAll ops .empty)
    r.isCompleted = true → (∃ q ∈ r.memory.connectable, q.profile.ephemeral = false) →
      ∀ n, r.candidate = some n → n.ephemeral = true →
        ∃ past id wall rest p, ops = past ++ .choose id wall :: rest ∧
          (Override.choose (Operation.runAll past .empty) id wall).1 = true ∧
          (Operation.runAll past .empty).profiles.get? id = some p ∧ p.key = n.key ∧
          (id = n.id ∨ .remove id ∈ rest) := by
  intro r hc hsaved n hn he
  have ht : (Operation.runAll ops .empty).WellFormed := ProfileTable.empty_wellFormed.runAll ops
  obtain ⟨i, q, c, hq, hqc, hkey⟩ := h.choice_of_displaced hlast ht hc hsaved hn he
  obtain ⟨past, id, wall, rest, p, heq, hp, hpk⟩ :=
    ProfileTable.exists_pick_of_choice hops hq hqc
  refine ⟨past, id, wall, rest, p, heq, Override.choose_of_stored hp wall, hp, hpk.trans hkey, ?_⟩
  by_cases hremove : .remove id ∈ rest
  · exact .inr hremove
  -- The picked profile is still there, and keys are unique, so it is the one that was selected.
  have hkept : .remove id ∉ Operation.choose id wall :: rest := by simpa using hremove
  obtain ⟨p', hp', hk'⟩ := ProfileTable.stored_runAll (ProfileTable.empty_wellFormed.runAll past)
    (fun op ho => hops op (heq ▸ List.mem_append_right past ho)) hkept hp
  rw [← Operation.runAll_append, ← heq] at hp'
  have hround := select_ofRound h req now (Operation.runAll ops .empty)
  obtain ⟨p'', hp'', hcore⟩ := (ProfileTable.Extends.of_writes ht hround).get?_core hp'
  obtain ⟨q', -, hget⟩ := h.candidate_mem_connectable ht hn
  rw [(ht.writes hround).id_eq hget]
  refine .inl ((ht.writes hround).key_injective hp'' hget ?_)
  rw [Profile.key_eq_of_core hcore, hk', hpk, hkey]

theorem pick_of_displaced_saved :
    let ops : List Operation := [.add "home" .psk, .add "cafe" .unsecured,
      .select Sample.selector Sample.isDefault_selector (Sample.request .disconnected) 0,
      .choose 1 5, .remove 1]
    let r := Sample.selector.select (Sample.request .disconnected) 10 (Operation.runAll ops .empty)
    ∃ n, r.candidate = some n ∧ n.ephemeral = true ∧
      ∃ past id wall rest p, ops = past ++ .choose id wall :: rest ∧
        (Operation.runAll past .empty).profiles.get? id = some p ∧ p.key = n.key ∧
        (id = n.id ∨ .remove id ∈ rest) := by
  intro ops r
  have hsome : (r.candidate.map (·.ephemeral)) = some true := by decide
  obtain ⟨n, hn, he⟩ := Option.map_eq_some_iff.mp hsome
  have hops : ∀ op ∈ ops, op.SetsNoChoice := by simp [ops, Operation.SetsNoChoice]
  obtain ⟨past, id, wall, rest, p, heq, -, hp⟩ := pick_of_displaced hops
    Sample.isDefault_selector rfl (by decide) (by decide) n hn he
  exact ⟨n, hn, he, past, id, wall, rest, p, heq, hp⟩

/-- An untrusted network is picked and forgotten, and its successor is selected under a new id. -/
theorem not_picked_of_displaced :
    let ops : List Operation := [.add "home" .psk,
      .select Sample.selector Sample.isDefault_selector (Sample.request .disconnected) 0,
      .choose 1 1, .remove 1]
    let r := Sample.selector.select (Sample.request .disconnected) 10 (Operation.runAll ops .empty)
    r.isCompleted = true ∧ (∃ q ∈ r.memory.connectable, q.profile.ephemeral = false) ∧
      ∃ n, r.candidate = some n ∧ n.ephemeral = true ∧ ∀ wall, .choose n.id wall ∉ ops := by
  intro ops r
  have hsome : (r.candidate.map fun n => (n.ephemeral, n.id)) = some (true, 2) := by decide
  obtain ⟨n, hn, he⟩ := Option.map_eq_some_iff.mp hsome
  obtain ⟨he, hid⟩ := Prod.mk.inj he
  refine ⟨by decide, by decide, n, hn, he, ?_⟩
  rw [hid]
  simp [ops]

end Selector

end WirelessSelection
