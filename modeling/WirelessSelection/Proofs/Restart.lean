import WirelessSelection.Proofs.Invariant
import WirelessSelection.Proofs.Replay

/-! A restart between two steps of a replay. What a selector and its clock hold in memory is lost,
and as long as the device is not associated, nothing that follows depends on it. -/

namespace WirelessSelection

lemma Clock.setElapsed_of_le {c : Clock} {time : Millis} (h : c.elapsed ≤ time) :
    c.setElapsed time = { elapsed := time, wallStart := c.wallStart } := by
  change ({ elapsed := if c.elapsed ≤ time then time else c.elapsed, wallStart := c.wallStart } :
    Clock) = _
  rw [if_pos h]

lemma Clock.elapsed_le_setElapsed (c : Clock) (time : Millis) :
    c.elapsed ≤ (c.setElapsed time).elapsed := by
  change c.elapsed ≤ if c.elapsed ≤ time then time else c.elapsed
  split
  · assumption
  · exact UInt64.le_refl _

lemma Clock.le_setElapsed (c : Clock) (time : Millis) : time ≤ (c.setElapsed time).elapsed := by
  change time ≤ if c.elapsed ≤ time then time else c.elapsed
  split
  · exact UInt64.le_refl _
  · next h => exact UInt64.le_of_lt (UInt64.not_le.mp h)

lemma Situation.skip?_eq_of_link {s s' : Situation} (settings : Settings) (h : s'.link = s.link)
    (hl : s.link ≠ .connected) : s'.skip? settings = s.skip? settings := by
  rw [skip?, skip?, h]
  cases hs : s.link with
  | disconnected | transitioning => rfl
  | connected => exact absurd hs hl

namespace Selector

variable {σ : Type} [ProfileStore σ]

lemma skip?_of_memory (sel : Selector σ) (memory : Memory) {req : Request}
    (hl : req.link ≠ .connected) (usable : List Observation) (now : Millis) (store : σ) :
    { sel with memory }.skip? req usable now store = sel.skip? req usable now store := by
  have hgate : ({ sel with memory }.situation req usable now store).skip? sel.settings =
      (sel.situation req usable now store).skip? sel.settings :=
    Situation.skip?_eq_of_link sel.settings rfl hl
  rw [skip?, skip?, hgate]

lemma select_of_memory (sel : Selector σ) (memory : Memory) {req : Request}
    (hl : req.link ≠ .connected) (now : Millis) (store : σ) :
    ∃ last, { sel with memory }.select req now store =
      let round := sel.select req now store
      { round with memory := { round.memory with lastSelection := last } } := by
  have hskip := sel.skip?_of_memory memory hl (sel.usable req) now (sel.panel.update req.scan store)
  cases hs : sel.skip? req (sel.usable req) now (sel.panel.update req.scan store) with
  | some reason =>
    rw [hs] at hskip
    exact ⟨memory.lastSelection, by rw [select_of_skip? hskip, select_of_skip? hs]; rfl⟩
  | none =>
    rw [hs] at hskip
    exact ⟨some now, by
      rw [select_of_skip?_eq_none hskip, select_of_skip?_eq_none hs]; rfl⟩

end Selector

namespace Scenario

variable {s : Scenario} {past whole whole' part : Progress}

/-- A replay that was started afresh in place of another one, which it followed until `past`. -/
structure Resumes (past whole part : Progress) : Prop where
  selector : ∃ memory, whole.selector = { part.selector with memory }
  wallStart : whole.clock.wallStart = part.clock.wallStart
  table : whole.table = part.table
  events : whole.events = past.events ++ part.events
  reports : whole.reports = past.reports ++ part.reports

lemma Resumes.extend (h : Resumes past whole part) {wholeSelector partSelector}
    (hs : ∃ memory, wholeSelector = { partSelector with memory }) (clock : Clock)
    (table : ProfileTable) (events : List Event) (reports : List Report) :
    Resumes past
      { selector := wholeSelector
        clock
        table
        events := whole.events ++ events
        reports := whole.reports ++ reports }
      { selector := partSelector
        clock
        table
        events := part.events ++ events
        reports := part.reports ++ reports } where
  selector := hs
  wallStart := rfl
  table := rfl
  events := by rw [h.events, List.append_assoc]
  reports := by rw [h.reports, List.append_assoc]

lemma Resumes.runScan (h : Resumes past whole part) {time : Millis}
    (hclock : whole.clock.setElapsed time = part.clock.setElapsed time) {req : Request}
    (hl : req.link ≠ .connected) :
    Resumes past (runScan whole time req) (runScan part time req) := by
  obtain ⟨memory, hsel⟩ := h.selector
  obtain ⟨last, hround⟩ := part.selector.select_of_memory memory hl
    (part.clock.setElapsed time).elapsed part.table
  rw [Scenario.runScan, Scenario.runScan, hclock, h.table, hsel, hround]
  refine h.extend ?_ _ _ _ _
  exact ⟨_, rfl⟩

lemma Resumes.runChoice (h : Resumes past whole part) {time : Millis}
    (hclock : whole.clock.setElapsed time = part.clock.setElapsed time) {id : NetworkId}
    (hw : runChoice whole time id = .ok whole') :
    ∃ part', runChoice part time id = .ok part' ∧ Resumes past whole' part' := by
  obtain ⟨accepted, events, picked, table, hc, ht, rfl⟩ := runChoice_eq_ok_iff.mp hw
  rw [hclock, h.table] at hc
  refine ⟨_, runChoice_eq_ok_iff.mpr ⟨accepted, events, picked, table, hc, ht, rfl⟩, ?_⟩
  rw [hclock]
  exact h.extend h.selector _ _ _ _

lemma link_of_request {t : ProfileTable} {time : Millis} {link : Link}
    {attachment : Option Attachment} {sightings : List Sighting} {req : Request}
    (h : s.request t time link attachment sightings = .ok req) : req.link = link := by
  obtain ⟨scan, -, h⟩ := bind_eq_ok_iff.mp h
  obtain ⟨association, -, h⟩ := bind_eq_ok_iff.mp h
  rw [← Except.ok.inj h]

def Step.isAssociated : Step → Bool
  | scan _ .connected _ _ => true
  | _ => false

lemma Resumes.runStep (h : Resumes past whole part) {step : Step}
    (hlink : step.isAssociated = false) (hwhole : whole.clock.elapsed ≤ step.time)
    (hpart : part.clock.elapsed ≤ step.time) (hw : s.runStep whole step = .ok whole') :
    ∃ part', s.runStep part step = .ok part' ∧ Resumes past whole' part' := by
  have hclock : whole.clock.setElapsed step.time = part.clock.setElapsed step.time := by
    rw [Clock.setElapsed_of_le hwhole, Clock.setElapsed_of_le hpart, h.wallStart]
  cases step with
  | scan time link attachment sightings =>
    obtain ⟨req, hreq, rfl⟩ := runStep_scan_eq_ok_iff.mp hw
    have hl : req.link ≠ .connected := by
      rw [link_of_request hreq]
      rintro rfl
      contradiction
    rw [h.table] at hreq
    exact ⟨_, runStep_scan_eq_ok_iff.mpr ⟨req, hreq, rfl⟩, h.runScan hclock hl⟩
  | userChoice time ssid =>
    obtain ⟨id, hid, hw⟩ := runStep_userChoice_eq_ok_iff.mp hw
    obtain ⟨part', hp, hr⟩ := h.runChoice hclock hw
    rw [h.table] at hid
    exact ⟨part', runStep_userChoice_eq_ok_iff.mpr ⟨id, hid, hp⟩, hr⟩

lemma elapsed_of_runStep {r r' : Progress} {step : Step} (h : s.runStep r step = .ok r')
    (hr : r.clock.elapsed ≤ step.time) : r'.clock.elapsed = step.time := by
  rw [clock_runStep h, Clock.setElapsed_of_le hr]

lemma Resumes.runSteps {l : List Step} (h : Resumes past whole part)
    (hlinks : ∀ step ∈ l, step.isAssociated = false) (htimes : (l.map Step.time).Pairwise (· ≤ ·))
    (hwhole : ∀ step ∈ l, whole.clock.elapsed ≤ step.time)
    (hpart : ∀ step ∈ l, part.clock.elapsed ≤ step.time)
    (hw : s.runSteps l whole = (none, whole')) :
    ∃ part', s.runSteps l part = (none, part') ∧ Resumes past whole' part' := by
  induction l generalizing whole part with
  | nil =>
    cases hw
    exact ⟨part, rfl, h⟩
  | cons step l ih =>
    obtain ⟨whole₁, hw₁, hw⟩ := runSteps_cons_eq_none_iff.mp hw
    have hmem : step ∈ step :: l := List.mem_cons_self
    obtain ⟨part₁, hp₁, h₁⟩ := h.runStep (hlinks step hmem) (hwhole step hmem) (hpart step hmem) hw₁
    obtain ⟨hfirst, htimes⟩ := List.pairwise_cons.mp htimes
    have hlater : ∀ step' ∈ l, step.time ≤ step'.time := fun step' hs =>
      hfirst step'.time (List.mem_map_of_mem hs)
    obtain ⟨part', hp, h'⟩ := ih h₁ (fun step' hs => hlinks step' (List.mem_cons_of_mem step hs))
      htimes (by rwa [elapsed_of_runStep hw₁ (hwhole step hmem)])
      (by rwa [elapsed_of_runStep hp₁ (hpart step hmem)]) hw
    exact ⟨part', runSteps_cons_eq_none_iff.mpr ⟨part₁, hp₁, hp⟩, h'⟩

lemma Sound.resumes_start {sel : Selector ProfileTable} (h : s.Sound past)
    (hsel : Selector.withDefaultEvaluators s.settings = .ok sel) :
    Resumes past past (s.start sel past.table) where
  selector := by
    obtain ⟨memory, hm⟩ := h.isDefault
    rw [h.settings, hsel, Except.ok.injEq] at hm
    exact ⟨past.selector.memory, by rw [start, hm, ← h.settings]⟩
  wallStart := h.wallStart
  table := rfl
  events := (List.append_nil _).symm
  reports := (List.append_nil _).symm

theorem replay_restart {t : ProfileTable} (ht : t.Arises) {before after : List Step}
    (hsteps : s.steps = before ++ after) (htimes : (s.steps.map Step.time).Pairwise (· ≤ ·))
    (hlinks : ∀ step ∈ after, step.isAssociated = false) {reports : List Report}
    (hok : (s.replay t).reports = .ok reports) :
    let first := { s with steps := before }.replay t
    ∃ table, Snapshot.decode (Snapshot.encode first.table) = .ok table ∧
      let second := { s with networks := [], steps := after }.replay table
      ∃ reports₁ reports₂, first.reports = .ok reports₁ ∧ second.reports = .ok reports₂ ∧
        reports₁ ++ reports₂ = reports ∧ first.events ++ second.events = (s.replay t).events ∧
        second.table = (s.replay t).table := by
  obtain ⟨sel, table, whole, hsel, hset, hrun, rfl⟩ := exists_runSteps_of_replay hok
  have hwhole := replay_of_runSteps hsel hset hrun
  rw [hsteps] at hrun htimes
  obtain ⟨past, hbefore, hafter⟩ := runSteps_append_eq_none_iff.mp hrun
  have hsound : s.Sound past := by
    have hwf := wellFormed_setUp ht.reachable.wellFormed s.networks
    rw [hset] at hwf
    exact (sound_start hwf hsel).runSteps hbefore
  rw [List.map_append, List.pairwise_append] at htimes
  obtain ⟨-, htimes, hlater⟩ := htimes
  have hpast : ∀ step ∈ after, past.clock.elapsed ≤ step.time := by
    intro step hs
    refine elapsed_le_of_runSteps ?_ UInt64.zero_le hbefore
    exact fun step' hs' =>
      hlater _ (List.mem_map_of_mem hs') _ (List.mem_map_of_mem hs)
  obtain ⟨part, hpart, hresumes⟩ := (hsound.resumes_start hsel).runSteps hlinks htimes hpast
    (fun _ _ => UInt64.zero_le) hafter
  have hfirst := replay_of_runSteps (s := { s with steps := before }) hsel hset
    ((runSteps_with s s.networks before before _).trans hbefore)
  have hsecond := replay_of_runSteps (s := { s with networks := [], steps := after }) hsel rfl
    ((runSteps_with s [] after after _).trans hpart)
  rw [hfirst, hwhole]
  refine ⟨past.table, hsound.wellFormed.hasFreshId.decode_encode, ?_⟩
  rw [hsecond]
  exact ⟨past.reports, part.reports, rfl, rfl, hresumes.reports.symm, hresumes.events.symm,
    hresumes.table.symm⟩

end Scenario

namespace Sample

open Scenario

def sighting (o : Observation) (capabilities : String) : Sighting where
  ssid := o.ssid.text
  bssid := o.bssid
  frequency := o.frequency
  rssi := o.rssi
  capabilities

def sightings : List Sighting :=
  [sighting home "[WPA2-PSK-CCMP][ESS]", sighting office "[WPA2-PSK-CCMP][ESS]",
    sighting cafe "[ESS]"]

def morning : List Step :=
  [.scan 0 .disconnected none sightings,
    .scan 5 .connected (some ⟨some home.ssid.text, home.bssid, home.frequency, home.rssi⟩) sightings,
    .userChoice 7 "office"]

def evening : List Step :=
  [.scan 7 .disconnected none sightings, .scan 70000 .transitioning none sightings,
    .userChoice 70000 "home", .scan 80000 .disconnected none sightings]

def day : Scenario where
  networks := [⟨"home", .psk, false⟩, ⟨"office", .psk, true⟩]
  untrustedAllowed := true
  wallStart := 1000
  steps := morning ++ evening

end Sample

namespace Scenario

open Sample

theorem replay_restart_day :
    let first := { day with steps := morning }.replay .empty
    (day.replay .empty).reports.isOk = true ∧ (day.replay .empty).events.length = 7 ∧
      ∃ table, Snapshot.decode (Snapshot.encode first.table) = .ok table ∧
        let second := { day with networks := [], steps := evening }.replay table
        second.reports.isOk = true ∧ first.events ++ second.events = (day.replay .empty).events ∧
          second.table = (day.replay .empty).table := by
  intro first
  have hok : (day.replay .empty).reports.isOk = true := by decide +kernel
  refine ⟨hok, by decide +kernel, ?_⟩
  cases hreports : (day.replay .empty).reports with
  | error f =>
    rw [hreports] at hok
    contradiction
  | ok reports =>
    obtain ⟨table, hdecode, reports₁, reports₂, -, hsecond, -, hevents, htable⟩ :=
      replay_restart .empty rfl (by decide) (by decide) hreports
    exact ⟨table, hdecode, by rw [hsecond]; rfl, hevents, htable⟩

end Scenario

end WirelessSelection
