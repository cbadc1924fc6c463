import WirelessSelection.Proofs.Operation
import WirelessSelection.Proofs.Store.Refusal
import WirelessSelection.Scenario.Replay

namespace WirelessSelection

namespace Selector

variable {σ : Type} [ProfileStore σ] {sel : Selector σ} {settings : Settings}

lemma settings_of_withDefaultEvaluators (h : withDefaultEvaluators settings = .ok sel) :
    sel.settings = settings := by
  rw [withDefaultEvaluators_eq] at h
  cases hv : settings.validate with
  | error f => simp [hv, Except.map] at h
  | ok _ =>
    simp only [hv, Except.map, Except.ok.injEq] at h
    rw [← h]

lemma isDefault_of_withDefaultEvaluators (h : withDefaultEvaluators settings = .ok sel) :
    sel.IsDefault := by
  obtain rfl := settings_of_withDefaultEvaluators h
  exact ⟨sel.memory, h⟩

end Selector

namespace Scenario

variable {s : Scenario} {r r' r'' : Progress} {step : Step} {l l' : List Step}

lemma runStep_scan_eq_ok_iff {time : Millis} {link : Link} {attachment : Option Attachment}
    {sightings : List Sighting} : s.runStep r (.scan time link attachment sightings) = .ok r' ↔
      ∃ req, s.request r.table time link attachment sightings = .ok req ∧
        runScan r time req = r' := by
  refine bind_eq_ok_iff.trans ?_
  simp only [pure, Except.pure, Except.ok.injEq]

lemma runChoice_eq_ok_iff {time : Millis} {id : NetworkId} : runChoice r time id = .ok r' ↔
    ∃ accepted events picked table,
      Override.choose r.table id (r.clock.setElapsed time).wall = (accepted, events, picked) ∧
      (if accepted then picked.markPicked id time else .ok picked) = .ok table ∧
      r' = { r with
        clock := r.clock.setElapsed time
        table
        events := r.events ++ events
        reports := r.reports ++ [{ time, action := "user_choice", accepted := some accepted }] } := by
  rw [runChoice]
  obtain ⟨accepted, events, picked⟩ := Override.choose r.table id (r.clock.setElapsed time).wall
  cases accepted <;> refine bind_eq_ok_iff.trans ?_
  all_goals
    constructor
    · rintro ⟨table, ht, h⟩
      exact ⟨_, events, picked, table, rfl, ht, (Except.ok.inj h).symm⟩
    · rintro ⟨_, _, _, table, ⟨⟩, ht, rfl⟩
      exact ⟨table, ht, rfl⟩

lemma runStep_userChoice_eq_ok_iff {time : Millis} {ssid : String} :
    s.runStep r (.userChoice time ssid) = .ok r' ↔
      ∃ id, savedId r.table ssid = .ok id ∧ runChoice r time id = .ok r' :=
  bind_eq_ok_iff

lemma clock_runStep (h : s.runStep r step = .ok r') : r'.clock = r.clock.setElapsed step.time := by
  cases step with
  | scan time link attachment sightings =>
    obtain ⟨req, -, rfl⟩ := runStep_scan_eq_ok_iff.mp h
    rfl
  | userChoice time ssid =>
    obtain ⟨id, -, h⟩ := runStep_userChoice_eq_ok_iff.mp h
    obtain ⟨_, _, _, _, -, -, rfl⟩ := runChoice_eq_ok_iff.mp h
    rfl

structure Sound (s : Scenario) (r : Progress) : Prop where
  wellFormed : r.table.WellFormed
  isDefault : r.selector.IsDefault
  settings : r.selector.settings = s.settings
  wallStart : r.clock.wallStart = s.wallStart

lemma Sound.runStep (hr : s.Sound r) (h : s.runStep r step = .ok r') : s.Sound r' := by
  have hclock : r'.clock.wallStart = s.wallStart := by
    rw [clock_runStep h]
    exact hr.wallStart
  cases step with
  | scan time link attachment sightings =>
    obtain ⟨req, -, rfl⟩ := runStep_scan_eq_ok_iff.mp h
    have hw := Selector.select_ofRound hr.isDefault req (r.clock.setElapsed time).elapsed r.table
    exact ⟨hr.wellFormed.writes hw, hr.isDefault.after _, hr.settings, hclock⟩
  | userChoice time ssid =>
    obtain ⟨id, -, h⟩ := runStep_userChoice_eq_ok_iff.mp h
    obtain ⟨accepted, events, picked, table, hc, ht, rfl⟩ := runChoice_eq_ok_iff.mp h
    have hpicked : picked.WellFormed := by
      have hw := hr.wellFormed.writes
        (Override.pick_writes r.table id (r.clock.setElapsed time).wall)
      rwa [← Override.choose_snd, hc] at hw
    refine ⟨?_, hr.isDefault, hr.settings, hclock⟩
    split at ht
    · exact hpicked.markPicked ht
    · exact Except.ok.inj ht ▸ hpicked

lemma mem_saved_of_savedId {t : ProfileTable} {ssid : String} {id : NetworkId}
    (h : savedId t ssid = .ok id) : ∃ p ∈ t.saved, p.id = id := by
  rw [savedId] at h
  split at h
  · next p hp => exact ⟨p, List.mem_of_find?_eq_some hp, Except.ok.inj h⟩
  · contradiction

lemma runChoice_of_stored {id : NetworkId} {p : Profile}
    (hp : r.table.profiles.get? id = some p) (time : Millis) :
    ∃ events, runChoice r time id = .ok { r with
      clock := r.clock.setElapsed time
      table := { (Override.pick r.table id (r.clock.setElapsed time).wall).2 with
        lastPick := some ⟨id, time⟩ }
      events := r.events ++ events
      reports := r.reports ++
        [{ time, action := "user_choice", accepted := some true }] } := by
  let wall := (r.clock.setElapsed time).wall
  have haccepted : (Override.choose r.table id wall).1 = true := by
    rw [Override.choose, Override.pick, ProfileTable.profile?_eq, hp]
  have hkeys := ProfileTable.view_of_writes (f := fun _ => ()) (fun _ _ _ => rfl)
    (Override.pick_writes r.table id wall)
  have hstored : (Override.pick r.table id wall).2.profiles.contains id = true := by
    have hsome := IdMap.get?_map_of_view hkeys id
    rw [hp] at hsome
    obtain ⟨q, hq, -⟩ := Option.map_eq_some_iff.mp hsome
    exact Option.isSome_iff_exists.mpr ⟨q, hq⟩
  refine ⟨(Override.choose r.table id wall).2.1, runChoice_eq_ok_iff.mpr
    ⟨true, (Override.choose r.table id wall).2.1, (Override.pick r.table id wall).2, _, ?_, ?_, rfl⟩⟩
  · exact Prod.ext haccepted (Prod.ext rfl (Override.choose_snd ..))
  · exact if_pos hstored

lemma Sound.runStep_userChoice (hr : s.Sound r) {ssid : String} {id : NetworkId}
    (hid : savedId r.table ssid = .ok id) (time : Millis) :
    ∃ events, s.runStep r (.userChoice time ssid) = .ok { r with
      clock := r.clock.setElapsed time
      table := { (Override.pick r.table id (r.clock.setElapsed time).wall).2 with
        lastPick := some ⟨id, time⟩ }
      events := r.events ++ events
      reports := r.reports ++
        [{ time, action := "user_choice", accepted := some true }] } := by
  obtain ⟨p, hp, rfl⟩ := mem_saved_of_savedId hid
  have hk := hr.wellFormed.mem_values_iff.mp (List.mem_of_mem_filter hp)
  obtain ⟨events, h⟩ := runChoice_of_stored hk time
  exact ⟨events, runStep_userChoice_eq_ok_iff.mpr ⟨p.id, hid, h⟩⟩

lemma runSteps_cons_eq_none_iff : s.runSteps (step :: l) r = (none, r'') ↔
    ∃ r', s.runStep r step = .ok r' ∧ s.runSteps l r' = (none, r'') := by
  rw [runSteps]
  cases s.runStep r step <;> simp

lemma runSteps_append_eq_none_iff : s.runSteps (l ++ l') r = (none, r'') ↔
    ∃ r', s.runSteps l r = (none, r') ∧ s.runSteps l' r' = (none, r'') := by
  induction l generalizing r with
  | nil => simp [runSteps]
  | cons step l ih =>
    simp only [List.cons_append, runSteps_cons_eq_none_iff, ih]
    constructor
    · rintro ⟨r₁, h₁, r₂, h₂, h₃⟩
      exact ⟨r₂, ⟨r₁, h₁, h₂⟩, h₃⟩
    · rintro ⟨r₂, ⟨r₁, h₁, h₂⟩, h₃⟩
      exact ⟨r₁, h₁, r₂, h₂, h₃⟩

lemma invariant_runSteps {P : Progress → Prop}
    (hstep : ∀ step ∈ l, ∀ r r', P r → s.runStep r step = .ok r' → P r') (hr : P r)
    (h : s.runSteps l r = (none, r')) : P r' := by
  induction l generalizing r with
  | nil =>
    cases h
    exact hr
  | cons step l ih =>
    obtain ⟨r₁, h₁, h₂⟩ := runSteps_cons_eq_none_iff.mp h
    have hl := fun step' hs => hstep step' (List.mem_cons_of_mem step hs)
    exact ih hl (hstep step List.mem_cons_self r r₁ hr h₁) h₂

lemma Sound.runSteps (hr : s.Sound r) (h : s.runSteps l r = (none, r')) : s.Sound r' :=
  invariant_runSteps (fun _ _ _ _ hr h => hr.runStep h) hr h

lemma sound_runSteps (hr : s.Sound r) (l : List Step) : s.Sound (s.runSteps l r).2 := by
  induction l generalizing r with
  | nil => exact hr
  | cons step l ih =>
    rw [Scenario.runSteps]
    cases hstep : s.runStep r step with
    | error f => exact hr
    | ok r' => exact ih (hr.runStep hstep)

lemma elapsed_le_of_runSteps {bound : Millis} (hl : ∀ step ∈ l, step.time ≤ bound)
    (hr : r.clock.elapsed ≤ bound) (h : s.runSteps l r = (none, r')) :
    r'.clock.elapsed ≤ bound := by
  refine invariant_runSteps (P := fun r => r.clock.elapsed ≤ bound) ?_ hr h
  intro step hs r r' hr h
  rw [clock_runStep h]
  change (if r.clock.elapsed ≤ step.time then step.time else r.clock.elapsed) ≤ bound
  split
  · exact hl step hs
  · exact hr

lemma runSteps_with (s : Scenario) (networks : List SavedNetwork) (steps l : List Step)
    (r : Progress) : ({ s with networks, steps } : Scenario).runSteps l r = s.runSteps l r := by
  induction l generalizing r with
  | nil => rfl
  | cons step l ih =>
    have hstep : ({ s with networks, steps } : Scenario).runStep r step = s.runStep r step := rfl
    rw [runSteps, runSteps, hstep]
    cases s.runStep r step with
    | error f => rfl
    | ok r => exact ih r

lemma wellFormed_setUpNetwork {t : ProfileTable} (ht : t.WellFormed) (n : SavedNetwork) :
    (setUpNetwork t n).2.WellFormed := by
  rw [setUpNetwork]
  cases ha : t.add n.ssid n.security with
  | error f => exact ht
  | ok added =>
    have hadded := ht.add ha
    dsimp only
    split
    · exact hadded.run (.change added.1 (.setEnabled false))
    · exact hadded

lemma wellFormed_setUp {t : ProfileTable} (ht : t.WellFormed) (networks : List SavedNetwork) :
    (setUp networks t).2.WellFormed := by
  induction networks generalizing t with
  | nil => exact ht
  | cons n rest ih =>
    have hn := wellFormed_setUpNetwork ht n
    rw [setUp]
    cases hr : setUpNetwork t n with
    | mk result table =>
      rw [hr] at hn
      cases result with
      | ok _ => exact ih hn
      | error f => exact hn

def start (s : Scenario) (selector : Selector ProfileTable) (table : ProfileTable) : Progress where
  selector
  clock := .starting s.wallStart
  table

lemma sound_start {sel : Selector ProfileTable} {t : ProfileTable} (ht : t.WellFormed)
    (hsel : Selector.withDefaultEvaluators s.settings = .ok sel) : s.Sound (s.start sel t) :=
  ⟨ht, Selector.isDefault_of_withDefaultEvaluators hsel,
    Selector.settings_of_withDefaultEvaluators hsel, rfl⟩

lemma wellFormed_replay (s : Scenario) {t : ProfileTable} (ht : t.WellFormed) :
    (s.replay t).table.WellFormed := by
  have hset := wellFormed_setUp ht s.networks
  rw [Scenario.replay]
  cases hsel : Selector.withDefaultEvaluators (σ := ProfileTable) s.settings with
  | error f => exact ht
  | ok sel =>
    cases hs : setUp s.networks t with
    | mk fault table =>
      rw [hs] at hset
      have hrun := (sound_runSteps (sound_start hset hsel) s.steps).wellFormed
      rw [start] at hrun
      cases fault with
      | some f => exact hset
      | none =>
        dsimp only
        split <;> next h => rwa [h] at hrun

lemma replay_of_runSteps {t table : ProfileTable} {sel : Selector ProfileTable}
    (hsel : Selector.withDefaultEvaluators s.settings = .ok sel)
    (hset : setUp s.networks t = (none, table))
    (hrun : s.runSteps s.steps (s.start sel table) = (none, r)) :
    s.replay t = { reports := .ok r.reports, events := r.events, table := r.table } := by
  rw [start] at hrun
  rw [replay, hsel]
  simp only [hset, hrun]

lemma exists_runSteps_of_replay {t : ProfileTable} {reports : List Report}
    (h : (s.replay t).reports = .ok reports) :
    ∃ sel table r, Selector.withDefaultEvaluators s.settings = .ok sel ∧
      setUp s.networks t = (none, table) ∧
      s.runSteps s.steps (s.start sel table) = (none, r) ∧ r.reports = reports := by
  cases hsel : (Selector.withDefaultEvaluators s.settings : Except Fault (Selector ProfileTable)) with
  | error f => simp [replay, hsel] at h
  | ok sel =>
    cases hset : setUp s.networks t with
    | mk fault table =>
      cases fault with
      | some f => simp [replay, hsel, hset] at h
      | none =>
        cases hrun : s.runSteps s.steps (s.start sel table) with
        | mk fault r =>
          have hrun' := hrun
          rw [start] at hrun'
          cases fault with
          | some f => simp [replay, hsel, hset, hrun'] at h
          | none =>
            rw [replay_of_runSteps hsel hset hrun, Except.ok.injEq] at h
            exact ⟨sel, table, r, rfl, rfl, hrun, h⟩

end Scenario

end WirelessSelection
