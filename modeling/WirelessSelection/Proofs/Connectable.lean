import WirelessSelection.Proofs.Capture
import WirelessSelection.Proofs.Invariant
import WirelessSelection.Proofs.Verdict

/-! The connectable set of a completed round. Profiles are made during the scan until there are no
ids left, so a table is followed from each observation to the end of the round. -/

namespace WirelessSelection

def Pairing.core (q : Pairing) : Observation × Profile :=
  (q.observation, q.profile.core)

lemma filterMap_append_singleton {α β : Type} (f : α → Option β) (l : List α) (a : α) :
    (l ++ [a]).filterMap f = l.filterMap f ++ (f a).toList := by
  rw [List.filterMap_append, List.filterMap_cons, List.filterMap_nil]
  cases f a <;> rfl

namespace ProfileTable

variable {t t' : ProfileTable} {kind : Profile → Bool}

def pairings (t : ProfileTable) (kind : Profile → Bool) (scan : List Observation) :
    List (Observation × Profile) :=
  scan.filterMap fun o => ((t.resolve o).filter kind).map fun p => (o, p.core)

lemma pairings_append_singleton (t : ProfileTable) (kind : Profile → Bool)
    (scan : List Observation) (o : Observation) : t.pairings kind (scan ++ [o]) =
      t.pairings kind scan ++ (((t.resolve o).filter kind).map fun p => (o, p.core)).toList :=
  filterMap_append_singleton _ scan o

lemma pairings_congr (hk : ∀ p, kind p.core = kind p) {scan : List Observation}
    (h : ∀ o ∈ scan, (t'.resolve o).map Profile.core = (t.resolve o).map Profile.core) :
    t'.pairings kind scan = t.pairings kind scan := by
  have hpair (t : ProfileTable) (o : Observation) :
      ((t.resolve o).filter kind).map (fun p => (o, p.core)) =
        (((t.resolve o).map Profile.core).filter kind).map (o, ·) := by
    rw [← Profile.filter_core hk, Option.map_map]
    rfl
  apply List.filterMap_congr
  intro o ho
  rw [hpair, hpair, h o ho]

lemma pairings_of_writes (hk : ∀ p, kind p.core = kind p) {allowed : Change → Prop}
    (hc : ∀ c, allowed c → c.OfRound) (hw : Writes (Write.Changes allowed) t t')
    (scan : List Observation) : t'.pairings kind scan = t.pairings kind scan := by
  apply pairings_congr hk
  intro o _
  rw [resolve_core, resolve_core, view_of_writes (fun c h => Profile.core_apply (hc c h)) hw]

lemma pairings_filter_isOpen (ht : t.WellFormed) {scan : List Observation}
    (hscan : ∀ o ∈ scan, o.IsCaptured) :
    t.pairings (fun p => p.ephemeral && p.isEnabled) (scan.filter (·.isOpen)) =
      t.pairings (fun p => p.ephemeral && p.isEnabled) scan := by
  rw [pairings, List.filterMap_filter, pairings]
  apply List.filterMap_congr
  intro o ho
  split
  · rfl
  · next hclosed =>
    cases hr : t.resolve o with
    | none => rfl
    | some p =>
      have he : p.ephemeral = false := by
        rw [← Bool.not_eq_true]
        exact fun he => hclosed ((hscan o ho).isOpen_of_resolve ht hr he)
      rw [Option.filter_some, he]
      rfl

end ProfileTable

namespace UntrustedNetworks

variable {t : ProfileTable} {o : Observation} {scanned : List Observation}
  {state : Tally × ProfileTable}

lemma ephemeral?_of_resolved {p : Profile} (hr : t.resolve o = some p) :
    ephemeral? t o = (if p.ephemeral then some p else none, t) := by
  rw [ephemeral?, ProfileTable.resolve_eq, hr]

lemma ephemeral?_cases (ht : t.WellFormed) (ho : o.isOpen = true) :
    (∃ p, t.resolve o = some p ∧ ephemeral? t o = (if p.ephemeral then some p else none, t)) ∨
    (t.resolve o = none ∧ ¬t.nextId < NetworkId.last ∧ ephemeral? t o = (none, t)) ∨
    ∃ t', t.nextId < NetworkId.last ∧ t'.resolve o = some (ProfileTable.untrusted t.nextId o) ∧
      ephemeral? t o = (some (ProfileTable.untrusted t.nextId o), t') := by
  cases hr : t.resolve o with
  | some p => exact .inl ⟨p, rfl, ephemeral?_of_resolved hr⟩
  | none =>
    obtain ⟨f, hc, hlast⟩ | ⟨t', hc, -, ha⟩ := ProfileTable.createEphemeral_of_unresolved hr
    · refine .inr (.inl ⟨rfl, hlast ho, ?_⟩)
      simp only [ephemeral?, ProfileTable.resolve_eq, hr, hc]
    · have hfound : ephemeral? t o = (some (ProfileTable.untrusted t.nextId o), t') := by
        simp only [ephemeral?, ProfileTable.resolve_eq, hr, hc]
      have hwf := ht.writes (ephemeral?_ofRound t o)
      obtain ⟨hget, hmatch, -⟩ := ephemeral?_spec ht (congrArg Prod.fst hfound)
      rw [hfound] at hwf hget
      refine .inr (.inr ⟨t', (ProfileTable.append_eq_ok_iff.mp ha).1, ?_, hfound⟩)
      exact hwf.resolve_eq_some_iff.mpr ⟨hget, hmatch⟩

lemma filter_ephemeral? (ht : t.WellFormed) (ho : o.isOpen = true) :
    (ephemeral? t o).1.filter (·.isEnabled) =
      ((ephemeral? t o).2.resolve o).filter fun p => p.ephemeral && p.isEnabled := by
  obtain ⟨p, hr, hf⟩ | ⟨hr, -, hf⟩ | ⟨t', -, hr, hf⟩ := ephemeral?_cases ht ho
  · rw [hf, hr]
    cases he : p.ephemeral <;> simp [he, Option.filter_some]
  · rw [hf, hr]
    rfl
  · rw [hf, hr]
    rfl

lemma connectable_consider (state : Tally × ProfileTable) (o : Observation) :
    (consider state o).1.evaluation.connectable = state.1.evaluation.connectable ++
      (((ephemeral? state.2 o).1.filter (·.isEnabled)).map (⟨o, ·⟩)).toList := by
  rw [consider]
  split
  · next p t' hf =>
    rw [hf, Option.filter_some]
    split
    · rfl
    · exact (List.append_nil _).symm
  · next t' hf =>
    rw [hf]
    exact (List.append_nil _).symm

/-- What is reported after a part of the scan fits the table of that point, and as long as there
are ids left, every observation of that part has a profile. -/
structure Complete (scanned : List Observation) (state : Tally × ProfileTable) : Prop where
  wellFormed : state.2.WellFormed
  connectable : state.1.evaluation.connectable.map Pairing.core =
    state.2.pairings (fun p => p.ephemeral && p.isEnabled) scanned
  resolved {o' : Observation} : o' ∈ scanned → state.2.nextId < NetworkId.last →
    ∃ p, state.2.resolve o' = some p

lemma Complete.pairings_ephemeral? (h : Complete scanned state) (ho : o.isOpen = true) :
    (ephemeral? state.2 o).2.pairings (fun p => p.ephemeral && p.isEnabled) scanned =
      state.2.pairings (fun p => p.ephemeral && p.isEnabled) scanned := by
  have hw := ephemeral?_ofRound state.2 o
  obtain ⟨p, -, hf⟩ | ⟨-, -, hf⟩ | ⟨t', hlast, -, hf⟩ := ephemeral?_cases h.wellFormed ho
  · rw [hf]
  · rw [hf]
  · -- There was an id left, so what was scanned before had its profiles, and keeps them.
    apply ProfileTable.pairings_congr (fun _ => rfl)
    intro o' ho'
    obtain ⟨p, hp⟩ := h.resolved ho' hlast
    obtain ⟨q, hq, hcore⟩ := (ProfileTable.Extends.of_writes h.wellFormed hw).resolve_core
      h.wellFormed (h.wellFormed.writes hw) hp
    rw [hp, hq, Option.map_some, Option.map_some, hcore]

lemma complete_consider (h : Complete scanned state) (ho : o.isOpen = true) :
    Complete (scanned ++ [o]) (consider state o) := by
  have hw := ephemeral?_ofRound state.2 o
  have hext := ProfileTable.Extends.of_writes h.wellFormed hw
  have hwf := h.wellFormed.writes hw
  have hcases := ephemeral?_cases h.wellFormed ho
  constructor
  case wellFormed => rwa [consider_snd]
  case connectable =>
    rw [connectable_consider, consider_snd, List.map_append, h.connectable,
      ← h.pairings_ephemeral? ho, ProfileTable.pairings_append_singleton, ← Option.toList_map,
      Option.map_map]
    congr 3
    exact filter_ephemeral? h.wellFormed ho
  case resolved =>
    intro o' ho' hlast
    rw [consider_snd] at hlast ⊢
    obtain ho' | ho' := List.mem_append.mp ho'
    · obtain ⟨p, hp⟩ := h.resolved ho' (UInt32.lt_of_le_of_lt hext.nextId_le hlast)
      obtain ⟨q, hq, -⟩ := hext.resolve_core h.wellFormed hwf hp
      exact ⟨q, hq⟩
    · obtain rfl := List.mem_singleton.mp ho'
      obtain ⟨p, hr, hf⟩ | ⟨-, hnone, hf⟩ | ⟨t', -, hr, hf⟩ := hcases
      · rw [hf]
        exact ⟨p, hr⟩
      · rw [hf] at hlast
        exact absurd hlast hnone
      · rw [hf]
        exact ⟨_, hr⟩

lemma complete_foldl (ht : t.WellFormed) {scan : List Observation}
    (hscan : ∀ o ∈ scan, o.isOpen = true) : Complete scan (scan.foldl consider ({}, t)) := by
  induction scan using List.reverseRecOn with
  | nil => exact ⟨ht, rfl, fun h => absurd h List.not_mem_nil⟩
  | append_singleton l o ih =>
    rw [List.foldl_append]
    have hl := ih fun o ho => hscan o (List.mem_append_left _ ho)
    exact complete_consider hl (hscan o (List.mem_append_right _ List.mem_cons_self))

lemma connectable_evaluate (ht : t.WellFormed) {usable : List Observation}
    (husable : ∀ o ∈ usable, o.IsCaptured) (ctx : Context) :
    (evaluate usable ctx t).1.connectable.map Pairing.core =
      if ctx.untrustedAllowed then
        (evaluate usable ctx t).2.pairings (fun p => p.ephemeral && p.isEnabled) usable
      else [] := by
  rw [evaluate]
  split
  · have hopen : ∀ o ∈ usable.filter (·.isOpen), o.isOpen = true := fun _ ho => List.of_mem_filter ho
    have hc := complete_foldl ht hopen
    exact hc.connectable.trans (ProfileTable.pairings_filter_isOpen hc.wellFormed husable)
  · rfl

end UntrustedNetworks

namespace SavedNetworks

lemma connectable_evaluate (t : ProfileTable) (usable : List Observation) (ctx : Context) :
    (evaluate usable ctx t).1.connectable.map Pairing.core =
      (evaluate usable ctx t).2.pairings (fun p => !p.ephemeral && p.isEnabled) usable := by
  rw [ProfileTable.pairings_of_writes (fun _ => rfl) (by rintro _ ⟨o, s, rfl⟩; trivial)
    (evaluate_writes usable ctx t)]
  exact (scored_evaluate ctx (ProfileStore.lastPick? t) t usable).connectable

end SavedNetworks

namespace Selector

variable {sel : Selector ProfileTable} {t : ProfileTable} {req : Request} {now : Millis}

lemma IsDefault.connectable_evaluate (h : sel.IsDefault) (ht : t.WellFormed)
    {usable : List Observation} (husable : ∀ o ∈ usable, o.IsCaptured) (ctx : Context) :
    let t' := (sel.panel.evaluate usable ctx t).2
    (sel.panel.evaluate usable ctx t).1.connectable.map Pairing.core =
      (if ctx.untrustedAllowed then t'.pairings (fun p => p.ephemeral && p.isEnabled) usable
        else []) ++ t'.pairings (fun p => !p.ephemeral && p.isEnabled) usable := by
  intro t'
  have hw := SavedNetworks.evaluate_writes usable ctx (UntrustedNetworks.evaluate usable ctx t).2
  have ht' : t' = (SavedNetworks.evaluate usable ctx
      (UntrustedNetworks.evaluate usable ctx t).2).2 :=
    congrArg Prod.snd (h.evaluate_eq usable ctx t)
  have hpairs {kind : Profile → Bool} (hk : ∀ p, kind p.core = kind p) :
      t'.pairings kind usable =
        (UntrustedNetworks.evaluate usable ctx t).2.pairings kind usable := by
    rw [ht']
    exact ProfileTable.pairings_of_writes hk (by rintro _ ⟨o, s, rfl⟩; trivial) hw usable
  rw [hpairs (fun _ => rfl), ht', h.evaluate_eq, List.map_append,
    UntrustedNetworks.connectable_evaluate ht husable, SavedNetworks.connectable_evaluate]

theorem connectable_exact (ht : t.Arises) (h : sel.IsDefault)
    (hscan : ∀ o ∈ req.scan, o.IsCaptured) (hc : (sel.select req now t).isCompleted = true) :
    let r := sel.select req now t
    r.memory.connectable.map Pairing.core =
      (if req.untrustedAllowed then
        r.store.pairings (fun p => p.ephemeral && p.isEnabled) (sel.usable req) else []) ++
      r.store.pairings (fun p => !p.ephemeral && p.isEnabled) (sel.usable req) := by
  intro r
  have hup := ht.reachable.wellFormed.writes (h.within.update_writes req.scan t)
  have husable : ∀ o ∈ sel.usable req, o.IsCaptured := fun o ho =>
    hscan o (List.mem_of_mem_filter ho)
  have hpairs := h.connectable_evaluate hup husable (sel.context req now)
  have hseen {kind : Profile → Bool} (hk : ∀ p, kind p.core = kind p) :
      r.store.pairings kind (sel.usable req) =
        (sel.panel.evaluate (sel.usable req) (sel.context req now)
          (sel.panel.update req.scan t)).2.pairings kind (sel.usable req) := by
    have hr : r.store = _ := congrArg (·.store) (select_of_isCompleted hc)
    rw [hr, complete_store]
    exact ProfileTable.pairings_of_writes hk (by rintro _ ⟨seen, rfl⟩; trivial)
      (refreshSeen_writes _ _) _
  rw [hseen (fun _ => rfl), hseen (fun _ => rfl), connectable_of_isCompleted hc]
  exact hpairs

end Selector

namespace Sample

lemma run_add_remove {n : NetworkId} (h : n < NetworkId.last) :
    (Operation.remove n).run ((Operation.add "home" .psk).run { nextId := n }) =
      { nextId := n + 1 } := by
  let p : Profile := { id := n, ssid := ⟨"home", by decide⟩, security := .psk }
  have ha : ({ nextId := n } : ProfileTable).append p = .ok _ :=
    ProfileTable.append_eq_ok_iff.mpr ⟨h, rfl⟩
  have hadd : ({ nextId := n } : ProfileTable).add "home" .psk =
      .ok (n, { profiles := IdMap.empty.insert n p, nextId := n + 1 }) := by
    change (({ nextId := n } : ProfileTable).append p).bind (fun t => .ok (n, t)) = _
    rw [ha]
    rfl
  have herase : (IdMap.empty.insert n p).erase n = .empty := by
    apply IdMap.ext_entries
    simp [IdMap.erase, IdMap.insert, IdMap.empty, IdMap.insertEntry]
  rw [Operation.run, Operation.run, hadd]
  change ({ profiles := (IdMap.empty.insert n p).erase n, nextId := n + 1 } : ProfileTable) = _
  rw [herase]

lemma arises_of_nextId (n : NetworkId) : ({ nextId := n } : ProfileTable).Arises := by
  have hall : ∀ k, k < UInt32.size → ({ nextId := .ofNat k } : ProfileTable).Arises := by
    intro k hk
    induction k with
    | zero => exact .empty
    | succ k ih =>
      have hlast : UInt32.ofNat k < NetworkId.last := by
        rw [UInt32.lt_iff_toNat_lt, UInt32.toNat_ofNat_of_lt' (Nat.lt_of_succ_lt hk)]
        exact Nat.lt_of_succ_lt_succ hk
      rw [UInt32.ofNat_add]
      change ({ nextId := .ofNat k + 1 } : ProfileTable).Arises
      rw [← run_add_remove hlast]
      exact .operation (.operation (ih (Nat.lt_of_succ_lt hk)) _) _
  have hn := hall n.toNat n.toNat_lt
  rwa [UInt32.ofNat_toNat] at hn

def bar : Observation :=
  observation ⟨"bar", by decide⟩ 4 home.rssi .none

def farCafe : Observation :=
  observation cafe.ssid 5 office.rssi .none

def openScan : Request where
  scan := [cafe, bar, home, farCafe]
  link := .disconnected
  untrustedAllowed := true

def scarceTable : ProfileTable :=
  (Operation.add "home" .psk).run { nextId := 4294967293 }

end Sample

namespace Selector

theorem connectable_exact_scarceTable :
    let r := Sample.selector.select Sample.openScan 0 Sample.scarceTable
    r.memory.connectable.map Pairing.core =
        r.store.pairings (fun p => p.ephemeral && p.isEnabled) Sample.openScan.scan ++
          r.store.pairings (fun p => !p.ephemeral && p.isEnabled) Sample.openScan.scan ∧
      r.memory.connectable.map (·.observation) = [Sample.cafe, Sample.farCafe, Sample.home] ∧
      r.store.nextId = NetworkId.last ∧ r.store.resolve Sample.bar = none := by
  intro r
  have ht : Sample.scarceTable.Arises := .operation (Sample.arises_of_nextId _) _
  have hscan : ∀ o ∈ Sample.openScan.scan, o.IsCaptured := by
    have hpsk : Capabilities.psk = .ofString "[WPA2-PSK-CCMP][ESS]" := by decide
    have hnone : Capabilities.none = .ofString "[ESS]" := by decide
    simp only [Sample.openScan, List.forall_mem_cons, Observation.isCaptured_iff]
    exact ⟨⟨_, hnone⟩, ⟨_, hnone⟩, ⟨_, hpsk⟩, ⟨_, hnone⟩, fun _ h => absurd h List.not_mem_nil⟩
  have husable : Sample.selector.usable Sample.openScan = Sample.openScan.scan := by decide
  have hc : r.isCompleted = true := by decide
  have hexact := connectable_exact ht Sample.isDefault_selector hscan hc
  rw [husable] at hexact
  exact ⟨hexact, by decide, by decide, by decide⟩

end Selector

end WirelessSelection
