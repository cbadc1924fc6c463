import WirelessSelection.Proofs.Selection

/-! What a proposal gives way to. Profiles are told apart by their keys, so it does not matter how
often and in which order the connectable networks are listed, nor what was noted on them when they
were. -/

namespace WirelessSelection

def Profile.identity (p : Profile) : NetworkId × Ssid × Security :=
  (p.id, p.ssid, p.security)

lemma Profile.key_eq_of_identity {p q : Profile} (h : p.identity = q.identity) : p.key = q.key := by
  have hssid : p.ssid = q.ssid := congrArg (·.2.1) h
  have hsecurity : p.security = q.security := congrArg (·.2.2) h
  rw [key, key, hssid, hsecurity]

namespace ProfileTable

variable {t : ProfileTable} {connectable : List Pairing}

structure Indexed (t : ProfileTable) : Prop where
  id_eq {id p} : t.profiles.get? id = some p → p.id = id
  key_injective {i j p q} : t.profiles.get? i = some p → t.profiles.get? j = some q →
    p.key = q.key → i = j

lemma WellFormed.indexed (h : t.WellFormed) : t.Indexed where
  id_eq := h.id_eq
  key_injective := h.key_injective

def Knows (t : ProfileTable) (connectable : List Pairing) : Prop :=
  ∀ q ∈ connectable, ∃ p, t.profiles.get? q.profile.id = some p ∧ p.identity = q.profile.identity

lemma knows_of_backed {usable : List Observation} (h : ∀ q ∈ connectable, q.Backed usable t) :
    t.Knows connectable := by
  intro q hq
  obtain ⟨p, hp, hcore⟩ := (h q hq).stored
  have hsame : p.core.identity = q.profile.core.identity := congrArg Profile.identity hcore
  exact ⟨p, hp, hsame⟩

lemma choice?_of_stored {p r : Profile} (hr : t.profiles.get? p.id = some r) :
    Override.choice? t p = r.status.choice := by
  rw [Override.choice?, profile?_eq, hr, Option.getD_some]

lemma Indexed.get?_changed (h : t.Indexed) (id i : NetworkId) (c : Change) :
    (t.changed id c).profiles.get? i =
      (t.profiles.get? i).map fun p => if p.id = id then p.apply c else p := by
  rw [ProfileTable.get?_changed]
  cases hp : t.profiles.get? i with
  | none => simp
  | some p => rw [Option.map_some, Option.map_some, h.id_eq hp, apply_ite some]

lemma Indexed.get?_of_changed (h : t.Indexed) {id i : NetworkId} {c : Change} {p : Profile}
    (hp : (t.changed id c).profiles.get? i = some p) :
    ∃ q, t.profiles.get? i = some q ∧ p.identity = q.identity := by
  rw [h.get?_changed] at hp
  obtain ⟨q, hq, rfl⟩ := Option.map_eq_some_iff.mp hp
  refine ⟨q, hq, ?_⟩
  split <;> rfl

lemma Indexed.changed (h : t.Indexed) (id : NetworkId) (c : Change) : (t.changed id c).Indexed where
  id_eq hp := by
    obtain ⟨q, hq, hsame⟩ := h.get?_of_changed hp
    have hid := congrArg Prod.fst hsame
    exact hid.trans (h.id_eq hq)
  key_injective hp hq hk := by
    obtain ⟨p', hp', hsame⟩ := h.get?_of_changed hp
    obtain ⟨q', hq', hsame'⟩ := h.get?_of_changed hq
    rw [Profile.key_eq_of_identity hsame, Profile.key_eq_of_identity hsame'] at hk
    exact h.key_injective hp' hq' hk

lemma Knows.changed (h : t.Knows connectable) (ht : t.Indexed) (id : NetworkId) (c : Change) :
    (t.changed id c).Knows connectable := by
  intro q hq
  obtain ⟨p, hp, hsame⟩ := h q hq
  refine ⟨_, by rw [ht.get?_changed, hp, Option.map_some], ?_⟩
  rw [← hsame]
  split <;> rfl

end ProfileTable

namespace Override

variable {t : ProfileTable} {proposal p u : Profile} {connectable connectable' : List Pairing}

/-- The network that `p` gives way to: connectable, usable and named by the choice of `p`. -/
structure Preferred (t : ProfileTable) (p : Profile) (connectable : List Pairing) (u : Profile) :
    Prop where
  stored : t.profiles.get? u.id = some u
  isEnabled : u.isEnabled = true
  mem : u.id ∈ connectable.map (·.profile.id)
  chosen : p.status.choice.map (·.key) = some u.key
  ne : u.id ≠ p.id

lemma Preferred.unique (ht : t.Indexed) {v : Profile} (hu : Preferred t p connectable u)
    (hv : Preferred t p connectable v) : u = v := by
  have hkey : u.key = v.key := Option.some.inj (hu.chosen.symm.trans hv.chosen)
  have hid : u.id = v.id := ht.key_injective hu.stored hv.stored hkey
  have hstored := hv.stored
  rw [← hid, hu.stored] at hstored
  exact Option.some.inj hstored

lemma chosen?_eq_some_iff_preferred (ht : t.Indexed) (hp : t.profiles.get? proposal.id = some p)
    (hl : t.Knows connectable) :
    chosen? t proposal connectable = some u ↔ Preferred t p connectable u := by
  have hid : p.id = proposal.id := ht.id_eq hp
  rw [chosen?_eq_some_iff, ProfileTable.choice?_of_stored hp]
  constructor
  · rintro ⟨choice, q, hchoice, hfind, hget, he⟩
    have hq := List.mem_of_find?_eq_some hfind
    have hkey := List.find?_some hfind
    simp only [Bool.and_eq_true, decide_eq_true_eq] at hkey
    obtain ⟨r, hr, hsame⟩ := hl q hq
    rw [ProfileTable.profile?_eq, hr, Option.getD_some] at hget
    subst hget
    have hrid : r.id = q.profile.id := ht.id_eq hr
    refine ⟨hrid ▸ hr, he, hrid ▸ List.mem_map_of_mem hq, ?_, ?_⟩
    · rw [hchoice, Option.map_some, Profile.key_eq_of_identity hsame, hkey.2]
    · rw [hrid, hid]
      exact hkey.1
  · intro hu
    obtain ⟨choice, hchoice, hkey⟩ := Option.map_eq_some_iff.mp hu.chosen
    obtain ⟨q, hq, hqid⟩ := List.mem_map.mp hu.mem
    have hpair : ∃ q ∈ connectable,
        (q.profile.id ≠ proposal.id && q.profile.key = choice.key) = true := by
      obtain ⟨r, hr, hsame⟩ := hl q hq
      obtain rfl : u = r := Option.some.inj (hu.stored.symm.trans (hqid ▸ hr))
      refine ⟨q, hq, ?_⟩
      simp [hqid, ← hid, hu.ne, ← Profile.key_eq_of_identity hsame, hkey]
    obtain ⟨q', hfind⟩ := Option.isSome_iff_exists.mp (List.find?_isSome.mpr hpair)
    have hkey' := List.find?_some hfind
    simp only [Bool.and_eq_true, decide_eq_true_eq] at hkey'
    obtain ⟨r', hr', hsame'⟩ := hl q' (List.mem_of_find?_eq_some hfind)
    -- Keys are unique, so the first pair with the key is one of the network that the choice names.
    have hfound : q'.profile.id = u.id := by
      apply ht.key_injective hr' hu.stored
      rw [Profile.key_eq_of_identity hsame', hkey'.2, hkey]
    refine ⟨choice, q', hchoice, hfind, ?_, hu.isEnabled⟩
    rw [ProfileTable.profile?_eq, hfound, hu.stored, Option.getD_some]

lemma chosen?_congr_of_preferred {t' : ProfileTable} (ht : t.Indexed) (ht' : t'.Indexed)
    {proposal' p' : Profile} (hp : t.profiles.get? proposal.id = some p)
    (hp' : t'.profiles.get? proposal'.id = some p') (hl : t.Knows connectable)
    (hl' : t'.Knows connectable') {f : Profile → Profile}
    (h : ∀ u', Preferred t' p' connectable' u' ↔ ∃ u, Preferred t p connectable u ∧ f u = u') :
    chosen? t' proposal' connectable' = (chosen? t proposal connectable).map f := by
  ext u'
  rw [chosen?_eq_some_iff_preferred ht' hp' hl', h, Option.map_eq_some_iff]
  simp only [chosen?_eq_some_iff_preferred ht hp hl]

lemma preferred_changed_iff (ht : t.Indexed) {id : NetworkId} {c : Change}
    (hc : ∀ enabled, c ≠ .setEnabled enabled) {u' : Profile} :
    Preferred (t.changed id c) p connectable u' ↔
      ∃ u, Preferred t p connectable u ∧ (if u.id = id then u.apply c else u) = u' := by
  have hsame (u : Profile) :
      (if u.id = id then u.apply c else u).identity = u.identity ∧
        (if u.id = id then u.apply c else u).isEnabled = u.isEnabled := by
    split
    · cases c with
      | setEnabled enabled => exact absurd rfl (hc enabled)
      | recordCandidate | clearCandidate | setChoice | clearChoice | setSeen => exact ⟨rfl, rfl⟩
    · exact ⟨rfl, rfl⟩
  have hid (u : Profile) : (if u.id = id then u.apply c else u).id = u.id :=
    congrArg Prod.fst (hsame u).1
  constructor
  · intro hu
    have hstored := hu.stored
    rw [ht.get?_changed] at hstored
    obtain ⟨u, hget, rfl⟩ := Option.map_eq_some_iff.mp hstored
    rw [hid u] at hget
    refine ⟨u, ⟨hget, ?_, ?_, ?_, ?_⟩, rfl⟩
    · exact (hsame u).2.symm.trans hu.isEnabled
    · exact hid u ▸ hu.mem
    · rw [← Profile.key_eq_of_identity (hsame u).1]
      exact hu.chosen
    · exact hid u ▸ hu.ne
  · rintro ⟨u, hu, rfl⟩
    refine ⟨?_, ?_, ?_, ?_, ?_⟩
    · rw [hid u, ht.get?_changed, hu.stored, Option.map_some]
    · exact (hsame u).2.trans hu.isEnabled
    · exact (hid u).symm ▸ hu.mem
    · rw [Profile.key_eq_of_identity (hsame u).1]
      exact hu.chosen
    · exact (hid u).symm ▸ hu.ne

/-- The last two parts say what has no influence: order, repetition and statuses of the pairs, the
status of the proposal as it is passed, and what is noted on other networks, choices included. -/
theorem chosen_iff_preferred (ht : t.Indexed) (hp : t.profiles.get? proposal.id = some p)
    (hl : t.Knows connectable) :
    (∀ u, chosen? t proposal connectable = some u ↔ Preferred t p connectable u) ∧
    (∀ u v, Preferred t p connectable u → Preferred t p connectable v → u = v) ∧
    (∀ proposal' connectable', proposal'.id = proposal.id →
      (∀ n, n ∈ connectable'.map (·.profile.identity) ↔
        n ∈ connectable.map (·.profile.identity)) →
      chosen? t proposal' connectable' = chosen? t proposal connectable) ∧
    ∀ id c, id ≠ proposal.id → (∀ enabled, c ≠ .setEnabled enabled) →
      chosen? (t.changed id c) proposal connectable =
        (chosen? t proposal connectable).map fun u => if u.id = id then u.apply c else u := by
  refine ⟨fun u => chosen?_eq_some_iff_preferred ht hp hl, fun u v hu hv => hu.unique ht hv, ?_, ?_⟩
  · intro proposal' connectable' hid hsame
    have hl' : t.Knows connectable' := by
      intro q hq
      obtain ⟨q', hq', he⟩ := List.mem_map.mp ((hsame _).mp (List.mem_map_of_mem hq))
      obtain ⟨r, hr, hrq⟩ := hl q' hq'
      have hqid : q'.profile.id = q.profile.id := congrArg Prod.fst he
      exact ⟨r, hqid ▸ hr, hrq.trans he⟩
    have hids (i : NetworkId) : i ∈ connectable'.map (·.profile.id) ↔
        i ∈ connectable.map (·.profile.id) := by
      have hfst (l : List Pairing) : l.map (·.profile.id) =
          (l.map (·.profile.identity)).map Prod.fst := by
        rw [List.map_map]
        rfl
      rw [hfst, hfst, List.mem_map, List.mem_map]
      simp only [hsame]
    have hsome (u : Profile) : Preferred t p connectable' u ↔ Preferred t p connectable u := by
      constructor
      · intro hu
        exact { hu with mem := (hids _).mp hu.mem }
      · intro hu
        exact { hu with mem := (hids _).mpr hu.mem }
    rw [chosen?_congr_of_preferred ht ht hp (hid ▸ hp) hl hl' (f := fun u => u), Option.map_id']
    intro u'
    rw [hsome]
    simp
  · intro id c hid hc
    refine chosen?_congr_of_preferred ht (ht.changed id c) hp ?_ hl (hl.changed ht id c)
      fun u' => preferred_changed_iff ht hc
    rw [ProfileTable.get?_changed, if_neg hid.symm, hp]

end Override

namespace Sample

def rivals : ProfileTable :=
  Operation.runAll [.add "home" .psk, .add "office" .psk,
    .write (.change 0 (.setChoice ⟨.derive office.ssid .psk, 5⟩)),
    .write (.change 1 (.setChoice ⟨.derive home.ssid .psk, 6⟩))] .empty

def pairing (o : Observation) (id : NetworkId) (status : Status) : Pairing where
  observation := o
  profile := { id, ssid := o.ssid, security := .psk, status }

end Sample

namespace Override

theorem chosen_iff_preferred_rivals :
    let stale := Sample.pairing Sample.office 1 { availability := .permanentlyDisabled }
    let home := Sample.pairing Sample.home 0 {}
    let staleHome := Sample.pairing Sample.home 0 { seen := true }
    ∃ u, chosen? Sample.rivals home.profile [home, stale] = some u ∧ u.id = 1 ∧
      u.isEnabled = true ∧ Sample.rivals.profiles.get? 1 = some u ∧
      chosen? Sample.rivals staleHome.profile
        [stale, Sample.pairing Sample.office 1 {}, stale, staleHome] = some u ∧
      chosen? (Sample.rivals.changed 1 .clearChoice) home.profile [home, stale] =
        some (u.apply .clearChoice) := by
  intro stale home staleHome
  have ht : Sample.rivals.Indexed :=
    (ProfileTable.empty_wellFormed.runAll _).indexed
  have hstored : (Sample.rivals.profiles.get? 0).map (·.identity) = some home.profile.identity ∧
      (Sample.rivals.profiles.get? 1).map (·.identity) = some stale.profile.identity := by decide
  obtain ⟨p, hp, hsame⟩ := Option.map_eq_some_iff.mp hstored.1
  obtain ⟨q, hq, hsame'⟩ := Option.map_eq_some_iff.mp hstored.2
  have hl : Sample.rivals.Knows [home, stale] := by
    simp only [ProfileTable.Knows, List.forall_mem_cons]
    exact ⟨⟨p, hp, hsame⟩, ⟨q, hq, hsame'⟩, fun _ h => absurd h List.not_mem_nil⟩
  have hp : Sample.rivals.profiles.get? home.profile.id = some p := hp
  obtain ⟨hiff, -, hrest, hnotes⟩ := chosen_iff_preferred ht hp hl
  have hsome : (chosen? Sample.rivals home.profile [home, stale]).map (·.id) = some 1 := by decide
  obtain ⟨u, hu, hid⟩ := Option.map_eq_some_iff.mp hsome
  have hpreferred := (hiff u).mp hu
  refine ⟨u, hu, hid, hpreferred.isEnabled, hid ▸ hpreferred.stored, ?_, ?_⟩
  · refine (hrest staleHome.profile _ rfl fun n => ?_).trans hu
    simp only [List.map_cons, List.map_nil, List.mem_cons, List.not_mem_nil, or_false]
    change n = stale.profile.identity ∨ n = stale.profile.identity ∨
      n = stale.profile.identity ∨ n = home.profile.identity ↔ _
    tauto
  · rw [hnotes 1 .clearChoice (by decide) (by simp), hu, Option.map_some, if_pos hid]

end Override

end WirelessSelection
