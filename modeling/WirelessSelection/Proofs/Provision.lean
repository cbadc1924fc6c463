import WirelessSelection.Proofs.Candidates

/-! The policy for untrusted networks makes one profile for each name that lacks an open one, in the
order in which the scan brings the names up. -/

namespace WirelessSelection

lemma Profile.isMatch_iff_of_isOpen {o : Observation} (ho : o.isOpen = true) {p : Profile} :
    p.isMatch o = true ↔ p.ssid = o.ssid ∧ p.isOpen = true := by
  rw [isMatch_iff, ProfileTable.ofCapabilities_of_isOpen ho, isOpen, decide_eq_true_eq]

lemma eraseDups_append_singleton {α : Type} [DecidableEq α] (l : List α) (a : α) :
    (l ++ [a]).eraseDups = if a ∈ l then l.eraseDups else l.eraseDups ++ [a] := by
  rw [List.eraseDups_append]
  by_cases h : a ∈ l <;> simp [List.removeAll, h, List.eraseDups_cons]

namespace ProfileTable

variable {t t' : ProfileTable} {o : Observation} {names : List Ssid} {scan : List Observation}

def hasOpen (t : ProfileTable) (ssid : Ssid) : Bool :=
  t.profiles.values.any fun p => p.ssid = ssid && p.isOpen

/-- The names of open observations that have no open profile, as they first appear. -/
def missing (t : ProfileTable) (scan : List Observation) : List Ssid :=
  (((scan.filter (·.isOpen)).map (·.ssid)).filter fun ssid => !t.hasOpen ssid).eraseDups

def ephemeralEntries (first : NetworkId) (names : List Ssid) : List (NetworkId × Profile) :=
  names.mapIdx fun k ssid =>
    (first + .ofNat k, { id := first + .ofNat k, ssid, security := .unsecured, ephemeral := true })

structure Provides (t : ProfileTable) (names : List Ssid) (t' : ProfileTable) : Prop where
  entries : t'.profiles.entries = t.profiles.entries ++ ephemeralEntries t.nextId names
  nextId : t'.nextId = t.nextId + .ofNat names.length
  lastPick : t'.lastPick = t.lastPick

def untrustedPairs (t : ProfileTable) (scan : List Observation) : List Pairing :=
  scan.filterMap fun o => ((t.resolve o).filter fun p => p.ephemeral && p.isEnabled).map (⟨o, ·⟩)

lemma WellFormed.hasOpen_iff (ht : t.WellFormed) (ho : o.isOpen = true) :
    t.hasOpen o.ssid = true ↔ ∃ p, t.resolve o = some p := by
  simp only [hasOpen, List.any_eq_true, IdMap.mem_values_iff, Bool.and_eq_true, decide_eq_true_eq,
    ht.resolve_eq_some_iff, Profile.isMatch_iff_of_isOpen ho]
  constructor
  · rintro ⟨p, ⟨i, hp⟩, hopen⟩
    obtain rfl := ht.id_eq hp
    exact ⟨p, hp, hopen⟩
  · rintro ⟨p, hp, hopen⟩
    exact ⟨p, ⟨p.id, hp⟩, hopen⟩

lemma WellFormed.resolve_of_creates (ht : t.WellFormed) (hw : Writes Write.Creates t t')
    {p : Profile} (hp : t.resolve o = some p) : t'.resolve o = some p := by
  have hwf := ht.writes hw
  obtain ⟨hget, hmatch⟩ := ht.resolve_eq_some_iff.mp hp
  obtain hsame | ⟨hnone, -⟩ := ht.get?_of_creates (fun _ => id) hw p.id
  · exact hwf.resolve_eq_some_iff.mpr ⟨hsame.trans hget, hmatch⟩
  · exact absurd (hget.symm.trans hnone) (Option.some_ne_none p)

lemma mem_missing_iff {ssid : Ssid} : ssid ∈ t.missing scan ↔
    t.hasOpen ssid = false ∧ ∃ o ∈ scan, o.isOpen = true ∧ o.ssid = ssid := by
  simp only [missing, List.mem_eraseDups, List.mem_filter, List.mem_map, Bool.not_eq_true',
    and_comm, and_left_comm]

lemma missing_append_singleton (t : ProfileTable) (scan : List Observation)
    (ho : o.isOpen = true) : t.missing (scan ++ [o]) =
      if t.hasOpen o.ssid = true ∨ o.ssid ∈ t.missing scan then t.missing scan
      else t.missing scan ++ [o.ssid] := by
  have hone : ([o].filter (·.isOpen)).map (·.ssid) = [o.ssid] := by
    rw [List.filter_cons, if_pos ho]
    rfl
  rw [missing, List.filter_append, List.map_append, hone, List.filter_append, List.filter_cons,
    List.filter_nil]
  cases hopen : t.hasOpen o.ssid with
  | true =>
    rw [if_neg (by simp), List.append_nil, ← missing, if_pos (.inl rfl)]
  | false =>
    rw [if_pos (by simp), eraseDups_append_singleton, ← missing]
    simp only [missing, List.mem_eraseDups, Bool.false_eq_true, false_or]

namespace Provides

lemma nil (t : ProfileTable) : t.Provides [] t where
  entries := (List.append_nil _).symm
  nextId := (UInt32.add_zero _).symm
  lastPick := rfl

lemma eq_of_nil (h : t.Provides [] t') : t' = t := by
  have hprofiles : t'.profiles = t.profiles :=
    IdMap.ext_entries (h.entries.trans (List.append_nil _))
  have hnext : t'.nextId = t.nextId := h.nextId.trans (UInt32.add_zero _)
  change ProfileTable.mk t'.profiles t'.nextId t'.lastPick = t
  rw [hprofiles, hnext, h.lastPick]

lemma hasOpen_iff (h : t.Provides names t') {ssid : Ssid} :
    t'.hasOpen ssid = true ↔ t.hasOpen ssid = true ∨ ssid ∈ names := by
  have hnew : ((ephemeralEntries t.nextId names).map Prod.snd).any
      (fun p => p.ssid = ssid && p.isOpen) = true ↔ ssid ∈ names := by
    simp [ephemeralEntries, Profile.isOpen, List.mem_iff_getElem]
  rw [ProfileTable.hasOpen, ProfileTable.hasOpen, IdMap.values, IdMap.values, h.entries,
    List.map_append, List.any_append, Bool.or_eq_true, hnew]

lemma exists_resolve (h : t.Provides (t.missing scan) t') (ht' : t'.WellFormed) (ho : o ∈ scan)
    (hopen : o.isOpen = true) : ∃ p, t'.resolve o = some p := by
  rw [← ht'.hasOpen_iff hopen, h.hasOpen_iff, mem_missing_iff]
  cases t.hasOpen o.ssid with
  | true => exact .inl rfl
  | false => exact .inr ⟨rfl, o, ho, hopen, rfl⟩

lemma missing_eq_nil (h : t.Provides (t.missing scan) t') (ht' : t'.WellFormed) :
    t'.missing scan = [] := by
  rw [List.eq_nil_iff_forall_not_mem]
  intro ssid hmem
  obtain ⟨hclosed, o, ho, hopen, rfl⟩ := mem_missing_iff.mp hmem
  have hknown := (ht'.hasOpen_iff hopen).mpr (h.exists_resolve ht' ho hopen)
  exact Bool.false_ne_true (hclosed.symm.trans hknown)

lemma toNat_nextId (h : t.Provides names t')
    (hids : t.nextId.toNat + names.length ≤ NetworkId.last.toNat) :
    t'.nextId.toNat = t.nextId.toNat + names.length := by
  have hlast : NetworkId.last.toNat = 4294967295 := rfl
  rw [h.nextId, UInt32.toNat_add, UInt32.toNat_ofNat', Nat.mod_eq_of_lt (a := names.length),
    Nat.mod_eq_of_lt] <;> omega

lemma snoc (h : t.Provides names t') (ht' : t'.WellFormed) (o : Observation) :
    t.Provides (names ++ [o.ssid])
      { t' with
        profiles := t'.profiles.insert t'.nextId (untrusted t'.nextId o)
        nextId := t'.nextId + 1 } where
  entries := by
    have hlt : ∀ e ∈ t'.profiles.entries, e.1 < t'.nextId :=
      IdMap.forall_lt_of_get? fun _ _ => ht'.lt_nextId
    have hinsert : (t'.profiles.insert t'.nextId (untrusted t'.nextId o)).entries =
        t'.profiles.entries ++ [(t'.nextId, untrusted t'.nextId o)] :=
      IdMap.insertEntry_of_forall_lt _ _ hlt
    rw [hinsert, h.entries, List.append_assoc, ephemeralEntries, ephemeralEntries,
      List.mapIdx_concat, h.nextId]
    rfl
  nextId := by
    rw [List.length_append, List.length_singleton, UInt32.ofNat_add, ← UInt32.add_assoc,
      ← h.nextId]
    rfl
  lastPick := h.lastPick

end Provides

end ProfileTable

namespace UntrustedNetworks

open ProfileTable

variable {t : ProfileTable} {o : Observation} {scanned scan : List Observation}
  {state : Tally × ProfileTable}

lemma ephemeral?_of_unresolved (hr : t.resolve o = none) (ho : o.isOpen = true)
    (hlast : t.nextId < NetworkId.last) :
    ephemeral? t o = (some (untrusted t.nextId o),
      { t with
        profiles := t.profiles.insert t.nextId (untrusted t.nextId o)
        nextId := t.nextId + 1 }) := by
  obtain ⟨f, -, hfull⟩ | ⟨t', hc, -, ha⟩ := createEphemeral_of_unresolved hr
  · exact absurd hlast (hfull ho)
  · obtain ⟨-, rfl⟩ := append_eq_ok_iff.mp ha
    rw [ephemeral?, resolve_eq, hr]
    simp only [hc]

structure Supplied (t : ProfileTable) (scanned : List Observation)
    (state : Tally × ProfileTable) : Prop where
  wellFormed : state.2.WellFormed
  provides : t.Provides (t.missing scanned) state.2
  connectable : state.1.evaluation.connectable = state.2.untrustedPairs scanned

namespace Supplied

lemma provides_consider (h : Supplied t scanned state) (ho : o.isOpen = true)
    (hids : t.nextId.toNat + (t.missing (scanned ++ [o])).length ≤ NetworkId.last.toNat) :
    t.Provides (t.missing (scanned ++ [o])) (consider state o).2 := by
  have hknown : (∃ p, state.2.resolve o = some p) ↔
      t.hasOpen o.ssid = true ∨ o.ssid ∈ t.missing scanned := by
    rw [← h.wellFormed.hasOpen_iff ho, h.provides.hasOpen_iff]
  have hmissing := t.missing_append_singleton scanned ho
  rw [consider_snd]
  cases hr : state.2.resolve o with
  | some p =>
    rw [if_pos (hknown.mp ⟨p, hr⟩)] at hmissing
    rw [hmissing, ephemeral?_of_resolved hr]
    exact h.provides
  | none =>
    rw [if_neg (mt hknown.mpr (by simp [hr]))] at hmissing
    rw [hmissing, List.length_append, List.length_singleton] at hids
    have hnext := h.provides.toNat_nextId (by omega)
    have hlast : state.2.nextId < NetworkId.last := by
      rw [UInt32.lt_iff_toNat_lt]
      omega
    rw [hmissing, ephemeral?_of_unresolved hr ho hlast]
    exact h.provides.snoc h.wellFormed o

lemma consider (h : Supplied t scanned state) (hscanned : ∀ o ∈ scanned, o.isOpen = true)
    (ho : o.isOpen = true)
    (hids : t.nextId.toNat + (t.missing (scanned ++ [o])).length ≤ NetworkId.last.toNat) :
    Supplied t (scanned ++ [o]) (consider state o) := by
  have hcreates : Writes Write.Creates state.2 (ephemeral? state.2 o).2 :=
    ephemeral?_writes state.2 trivial
  -- The names that came up before have profiles already, and keep them.
  have hold : (ephemeral? state.2 o).2.untrustedPairs scanned = state.2.untrustedPairs scanned := by
    apply List.filterMap_congr
    intro o' ho'
    obtain ⟨p, hp⟩ := h.provides.exists_resolve h.wellFormed ho' (hscanned o' ho')
    rw [hp, h.wellFormed.resolve_of_creates hcreates hp]
  constructor
  case wellFormed =>
    rw [consider_snd]
    exact h.wellFormed.writes hcreates
  case provides => exact h.provides_consider ho hids
  case connectable =>
    rw [connectable_consider, consider_snd, h.connectable, ← hold,
      filter_ephemeral? h.wellFormed ho]
    exact (filterMap_append_singleton _ scanned o).symm

end Supplied

lemma supplied_foldl (ht : t.WellFormed) (hscan : ∀ o ∈ scan, o.isOpen = true)
    (hids : t.nextId.toNat + (t.missing scan).length ≤ NetworkId.last.toNat) :
    Supplied t scan (scan.foldl consider ({}, t)) := by
  induction scan using List.reverseRecOn with
  | nil => exact ⟨ht, .nil t, rfl⟩
  | append_singleton l o ih =>
    have ho := hscan o (List.mem_append_right _ List.mem_cons_self)
    have hl : ∀ o ∈ l, o.isOpen = true := fun o ho => hscan o (List.mem_append_left _ ho)
    have hle : (t.missing l).length ≤ (t.missing (l ++ [o])).length := by
      rw [t.missing_append_singleton l ho]
      split <;> simp
    rw [List.foldl_append]
    exact (ih hl (by omega)).consider hl ho hids

lemma Tally.push_eq (tally : Tally) (o : Observation) (p : Profile) :
    let ahead := SavedNetworks.beats o.rssi tally.best
    tally.push o p = {
      best := if ahead then some o.rssi else tally.best
      evaluation := {
        proposal := if ahead then some p else tally.evaluation.proposal
        connectable := tally.evaluation.connectable ++ [⟨o, p⟩] } } := by
  rw [push]
  cases tally.best <;> rfl

def verdictOn (pairs : List Pairing) : Evaluation where
  proposal := (SavedNetworks.highest? (·.observation.rssi) pairs).map (·.profile)
  connectable := pairs

lemma evaluation_ofPairs (pairs : List Pairing) :
    (Tally.ofPairs pairs).best =
        (SavedNetworks.highest? (·.observation.rssi) pairs).map (·.observation.rssi) ∧
      (Tally.ofPairs pairs).evaluation = verdictOn pairs := by
  induction pairs using List.reverseRecOn with
  | nil => exact ⟨rfl, rfl⟩
  | append_singleton pairs q ih =>
    obtain ⟨hbest, heval⟩ := ih
    have hpush : Tally.ofPairs (pairs ++ [q]) =
        (Tally.ofPairs pairs).push q.observation q.profile := List.foldl_append
    rw [hpush, Tally.push_eq, hbest, heval, verdictOn, verdictOn,
      SavedNetworks.highest?_append_singleton]
    split <;> exact ⟨rfl, rfl⟩

lemma evaluate_supplied (ht : t.WellFormed) {ctx : Context} (ha : ctx.untrustedAllowed = true)
    (hids : t.nextId.toNat + (t.missing scan).length ≤ NetworkId.last.toNat) :
    ∃ t', evaluate scan ctx t = (verdictOn (t'.untrustedPairs (scan.filter (·.isOpen))), t') ∧
      t'.WellFormed ∧ t.Provides (t.missing scan) t' := by
  have hmissing : t.missing (scan.filter (·.isOpen)) = t.missing scan := by
    simp only [missing, List.filter_filter, Bool.and_self]
  rw [← hmissing] at hids ⊢
  have hs := supplied_foldl ht (fun o ho => List.of_mem_filter ho) hids
  refine ⟨_, ?_, hs.wellFormed, hs.provides⟩
  rw [evaluate, if_pos ha, ← hs.connectable, ← (evaluation_ofPairs _).2, ← tally_foldl]

theorem evaluate_provides (ht : t.Reachable) {ctx : Context} (ha : ctx.untrustedAllowed = true)
    (hids : t.nextId.toNat + (t.missing scan).length ≤ NetworkId.last.toNat) :
    let r := evaluate scan ctx t
    t.Provides (t.missing scan) r.2 ∧
    (∀ o ∈ scan, o.isOpen = true → ∃ p, r.2.resolve o = some p) ∧
    r.1.proposal = (SavedNetworks.highest? (·.observation.rssi)
      (r.2.untrustedPairs (scan.filter (·.isOpen)))).map (·.profile) ∧
    ∀ ctx', ctx'.untrustedAllowed = true → evaluate scan ctx' r.2 = r := by
  obtain ⟨t', hr, hwf, hprovides⟩ := evaluate_supplied ht.wellFormed ha hids
  rw [hr]
  refine ⟨hprovides, fun o => hprovides.exists_resolve hwf, rfl, ?_⟩
  intro ctx' ha'
  have hnone := hprovides.missing_eq_nil hwf
  have hids' : t'.nextId.toNat + (t'.missing scan).length ≤ NetworkId.last.toNat := by
    rwa [hnone, List.length_nil, hprovides.toNat_nextId hids]
  obtain ⟨t'', hr', -, hnothing⟩ := evaluate_supplied hwf ha' hids'
  rw [hnone] at hnothing
  rw [hr', hnothing.eq_of_nil]

end UntrustedNetworks

namespace Sample

def lobby : Observation :=
  observation ⟨"lobby", by decide⟩ 8 (-72) .none

def twin : Observation :=
  observation home.ssid 9 (-72) .none

def closedCafe : ProfileTable :=
  Operation.runAll [.add "home" .psk, .write (.createEphemeral cafe),
    .setAvailability 1 .permanentlyDisabled, .add "bar" .unsecured] .empty

end Sample

namespace UntrustedNetworks

theorem evaluate_provides_closedCafe :
    let t := Sample.closedCafe
    let ctx := Sample.selector.context Sample.openScan 0
    let scan := [Sample.cafe, Sample.lobby, Sample.home, Sample.twin, Sample.bar, Sample.lobby]
    let r := evaluate scan ctx t
    t.missing scan = [Sample.lobby.ssid, Sample.home.ssid] ∧
      r.2.profiles.keys = [0, 1, 2, 3, 4] ∧ r.2.nextId = 5 ∧
      (∃ p, r.2.resolve Sample.twin = some p) ∧ r.1.proposal.map (·.id) = some 3 ∧
      evaluate scan ctx r.2 = r := by
  intro t ctx scan r
  have ht : t.Reachable := ⟨_, rfl⟩
  have ha : ctx.untrustedAllowed = true := rfl
  have hmissing : t.missing scan = [Sample.lobby.ssid, Sample.home.ssid] := by decide +kernel
  have hnext : t.nextId = 3 := by decide
  have hids : t.nextId.toNat + (t.missing scan).length ≤ NetworkId.last.toNat := by
    rw [hmissing, hnext]
    decide
  obtain ⟨hprovides, hresolve, hproposal, hagain⟩ := evaluate_provides ht ha hids
  refine ⟨hmissing, ?_, ?_, hresolve Sample.twin (by decide) rfl, ?_, hagain ctx ha⟩
  · rw [IdMap.keys, hprovides.entries, hmissing, hnext]
    decide +kernel
  · rw [hprovides.nextId, hmissing, hnext]
    decide
  · rw [hproposal]
    decide +kernel

end UntrustedNetworks

end WirelessSelection
