import WirelessSelection.Proofs.Identity
import WirelessSelection.Proofs.Restart
import WirelessSelection.Proofs.Store.Refusal

/-! Replays that fail. Whatever a step or a network to set up is refused for, it is refused before
anything has changed. -/

namespace WirelessSelection

lemma Selector.exists_withDefaultEvaluators {σ : Type} [ProfileStore σ] {settings : Settings}
    (h : settings.Valid) : ∃ sel : Selector σ, withDefaultEvaluators settings = .ok sel := by
  rw [withDefaultEvaluators_eq, settings.validate_eq_ok_iff.mpr h]
  exact ⟨_, rfl⟩

namespace ProfileTable

variable {t t' : ProfileTable}

lemma WellFormed.stored_of_add (ht : t.WellFormed) {name : String} {security : Security}
    {id : NetworkId} (h : t.add name security = .ok (id, t')) :
    ∃ p, t'.profiles.get? id = some p := by
  obtain ⟨p, hp, rfl, -⟩ := ht.identifies_of_add h
  exact ⟨p, (ht.add h).mem_values_iff.mp hp.mem⟩

end ProfileTable

namespace Scenario

variable {s : Scenario} {t t' : ProfileTable} {r r' : Progress} {step : Step} {l : List Step}
  {f : Fault}

def unknownName : Fault :=
  .invalidSettings "step names an SSID with no saved network"

def Unsaved (t : ProfileTable) (ssid : String) : Prop :=
  ∀ p ∈ t.saved, p.ssid.text ≠ ssid

def Sighting.Fits (n : Sighting) : Prop :=
  n.ssid.utf8ByteSize ≤ 32

inductive Refused (t : ProfileTable) : Step → Fault → Prop
  | sighting {time link attachment sightings} {n : Sighting} (hn : n ∈ sightings)
    (hlong : ¬ n.Fits) : Refused t (.scan time link attachment sightings) .ssidTooLong
  | attachment {time link sightings} {a : Attachment} {ssid : String}
    (hfits : ∀ n : Sighting, n ∈ sightings → n.Fits) (ha : a.ssid = some ssid)
    (h : Unsaved t ssid) : Refused t (.scan time link (some a) sightings) unknownName
  | userChoice {time ssid} (h : Unsaved t ssid) : Refused t (.userChoice time ssid) unknownName

lemma savedId_eq_error_iff {ssid : String} :
    savedId t ssid = .error f ↔ Unsaved t ssid ∧ f = unknownName := by
  rw [savedId]
  cases hfind : t.saved.find? (·.ssid.text = ssid) with
  | some p =>
    have hp := List.find?_some hfind
    refine iff_of_false (fun h => by contradiction) ?_
    rintro ⟨h, -⟩
    exact h p (List.mem_of_find?_eq_some hfind) (of_decide_eq_true hp)
  | none =>
    have hall : Unsaved t ssid := by simpa [Unsaved] using hfind
    simp only [hall, true_and, Except.error.injEq, unknownName, eq_comm]

lemma capture_eq_error_iff {n : Sighting} {time : Millis} :
    n.capture time = .error f ↔ ¬ n.Fits ∧ f = .ssidTooLong := by
  rw [Sighting.Fits, Nat.not_le, ← Ssid.parse_eq_error_iff]
  refine bind_eq_error_iff.trans (or_iff_left ?_)
  rintro ⟨ssid, -, h⟩
  contradiction

lemma captures_eq_error_iff {sightings : List Sighting} {time : Millis} :
    sightings.mapM (·.capture time) = .error f ↔
      (∃ n ∈ sightings, ¬ n.Fits) ∧ f = .ssidTooLong := by
  induction sightings with
  | nil => simp [pure, Except.pure]
  | cons n rest ih =>
    rw [List.mapM_cons, bind_eq_error_iff, capture_eq_error_iff, List.exists_mem_cons_iff,
      or_and_right]
    refine or_congr_right' fun hn => ?_
    constructor
    · rintro ⟨o, -, h⟩
      obtain h | ⟨_, -, h⟩ := bind_eq_error_iff.mp h
      · exact ih.mp h
      · contradiction
    · intro h
      cases ho : n.capture time with
      | error e =>
        obtain ⟨hlong, rfl⟩ := capture_eq_error_iff.mp ho
        exact absurd ⟨hlong, h.2⟩ hn
      | ok o => exact ⟨o, rfl, bind_eq_error_iff.mpr (.inl (ih.mpr h))⟩

lemma resolve_eq_error_iff {attachment : Option Attachment} :
    Attachment.resolve t attachment = .error f ↔
      ∃ a ssid, attachment = some a ∧ a.ssid = some ssid ∧ savedId t ssid = .error f := by
  cases attachment with
  | none => simp [Attachment.resolve]
  | some a =>
    refine bind_eq_error_iff.trans ?_
    cases ha : a.ssid with
    | none => simp [pure, Except.pure, ha]
    | some ssid =>
      have hmap : some <$> savedId t ssid = .error f ↔ savedId t ssid = .error f := by
        cases savedId t ssid <;> simp [Functor.map, Except.map]
      simp [Option.mapM_some, pure, Except.pure, ha, hmap]

lemma request_eq_error_iff {time : Millis} {link : Link} {attachment : Option Attachment}
    {sightings : List Sighting} : s.request t time link attachment sightings = .error f ↔
      Refused t (.scan time link attachment sightings) f := by
  rw [request, bind_eq_error_iff, captures_eq_error_iff]
  constructor
  case mp =>
    rintro (⟨⟨n, hn, hlong⟩, rfl⟩ | ⟨scan, hscan, h⟩)
    · exact .sighting hn hlong
    · obtain h | ⟨_, -, h⟩ := bind_eq_error_iff.mp h
      · obtain ⟨a, ssid, rfl, ha, h⟩ := resolve_eq_error_iff.mp h
        obtain ⟨hunsaved, rfl⟩ := savedId_eq_error_iff.mp h
        refine .attachment ?_ ha hunsaved
        intro n hn
        by_contra hlong
        rw [captures_eq_error_iff.mpr ⟨⟨n, hn, hlong⟩, rfl⟩] at hscan
        contradiction
      · contradiction
  case mpr =>
    intro h
    cases h with
    | sighting hn hlong => exact .inl ⟨⟨_, hn, hlong⟩, rfl⟩
    | @attachment _ _ _ a ssid hfits ha h =>
      have hresolve : Attachment.resolve t (some a) = .error unknownName :=
        resolve_eq_error_iff.mpr ⟨a, ssid, rfl, ha, savedId_eq_error_iff.mpr ⟨h, rfl⟩⟩
      cases hscan : sightings.mapM (·.capture time) with
      | error e =>
        obtain ⟨⟨n, hn, hlong⟩, -⟩ := captures_eq_error_iff.mp hscan
        exact absurd (hfits n hn) hlong
      | ok scan => exact .inr ⟨scan, rfl, bind_eq_error_iff.mpr (.inl hresolve)⟩

lemma runStep_eq_error_iff (hr : s.Sound r) :
    s.runStep r step = .error f ↔ Refused r.table step f := by
  cases step with
  | scan time link attachment sightings =>
    rw [← request_eq_error_iff (s := s)]
    refine bind_eq_error_iff.trans (or_iff_left ?_)
    rintro ⟨req, -, h⟩
    contradiction
  | userChoice time ssid =>
    have hrefused :
        Refused r.table (.userChoice time ssid) f ↔ savedId r.table ssid = .error f := by
      rw [savedId_eq_error_iff]
      constructor
      · intro h
        cases h with
        | userChoice h => exact ⟨h, rfl⟩
      · rintro ⟨h, rfl⟩
        exact .userChoice h
    rw [hrefused]
    refine bind_eq_error_iff.trans (or_iff_left ?_)
    rintro ⟨id, hid, h⟩
    obtain ⟨events, hok⟩ := hr.runStep_userChoice hid time
    rw [runStep, hid] at hok
    exact absurd (h.symm.trans hok) (by simp)

lemma runSteps_eq_some (h : s.runSteps l r = (some f, r')) :
    ∃ before step after, l = before ++ step :: after ∧
      s.runSteps before r = (none, r') ∧ s.runStep r' step = .error f := by
  induction l generalizing r with
  | nil => cases h
  | cons step l ih =>
    rw [runSteps] at h
    cases hstep : s.runStep r step with
    | error e =>
      rw [hstep] at h
      cases h
      exact ⟨[], step, l, rfl, rfl, hstep⟩
    | ok r₁ =>
      rw [hstep] at h
      obtain ⟨before, failing, after, rfl, hbefore, hfails⟩ := ih h
      exact ⟨step :: before, failing, after, rfl,
        runSteps_cons_eq_none_iff.mpr ⟨r₁, hstep, hbefore⟩, hfails⟩

lemma setUpNetwork_eq_error (ht : t.WellFormed) {n : SavedNetwork}
    (h : setUpNetwork t n = (.error f, t')) : t' = t ∧ t.add n.ssid n.security = .error f := by
  rw [setUpNetwork] at h
  cases ha : t.add n.ssid n.security with
  | error e =>
    rw [ha] at h
    cases h
    exact ⟨rfl, rfl⟩
  | ok added =>
    obtain ⟨p, hp⟩ := ht.stored_of_add ha
    rw [ha] at h
    dsimp only at h
    split at h
    · rw [ProfileTable.change_of_stored hp] at h
      cases h
    · cases h

lemma setUp_eq_some {networks : List SavedNetwork} (ht : t.WellFormed)
    (h : setUp networks t = (some f, t')) :
    ∃ before n after, networks = before ++ n :: after ∧ setUp before t = (none, t') ∧
      t'.add n.ssid n.security = .error f := by
  induction networks generalizing t with
  | nil => cases h
  | cons n rest ih =>
    have hn := wellFormed_setUpNetwork ht n
    rw [setUp] at h
    cases hsetup : setUpNetwork t n with
    | mk result t₁ =>
      rw [hsetup] at h hn
      cases result with
      | error e =>
        cases h
        obtain ⟨rfl, hadd⟩ := setUpNetwork_eq_error ht hsetup
        exact ⟨[], n, rest, rfl, rfl, hadd⟩
      | ok _ =>
        obtain ⟨before, failing, after, rfl, hbefore, hadd⟩ := ih hn h
        refine ⟨n :: before, failing, after, rfl, ?_, hadd⟩
        rw [setUp, hsetup]
        exact hbefore

def runInPlace (s : Scenario) (r : Progress) : Step → Option Fault × Progress
  | .scan time link attachment sightings =>
    match s.request r.table time link attachment sightings with
    | .error f => (some f, { r with clock := r.clock.setElapsed time })
    | .ok req => (none, runScan r time req)
  | .userChoice time ssid =>
    let clock := r.clock.setElapsed time
    match savedId r.table ssid with
    | .error f => (some f, { r with clock })
    | .ok id =>
      let (accepted, events, table) := Override.choose r.table id clock.wall
      let r := { r with clock, table, events := r.events ++ events }
      match if accepted then table.markPicked id time else .ok table with
      | .error f => (some f, r)
      | .ok table =>
        let report := { time, action := "user_choice", accepted := some accepted }
        (none, { r with table, reports := r.reports ++ [report] })

def runAllInPlace (s : Scenario) : List Step → Progress → Option Fault × Progress
  | [], r => (none, r)
  | step :: rest, r =>
    match s.runInPlace r step with
    | (none, r) => s.runAllInPlace rest r
    | (some f, r) => (some f, r)

def replayInPlace (s : Scenario) (t : ProfileTable) : Outcome :=
  match Selector.withDefaultEvaluators s.settings with
  | .error f => { reports := .error f, events := [], table := t }
  | .ok selector =>
    match setUp s.networks t with
    | (some f, table) => { reports := .error f, events := [], table }
    | (none, table) =>
      match s.runAllInPlace s.steps (s.start selector table) with
      | (some f, r) => { reports := .error f, events := r.events, table := r.table }
      | (none, r) => { reports := .ok r.reports, events := r.events, table := r.table }

lemma runInPlace_of_ok (h : s.runStep r step = .ok r') : s.runInPlace r step = (none, r') := by
  cases step with
  | scan time link attachment sightings =>
    obtain ⟨req, hreq, rfl⟩ := runStep_scan_eq_ok_iff.mp h
    rw [runInPlace, hreq]
  | userChoice time ssid =>
    obtain ⟨id, hid, h⟩ := runStep_userChoice_eq_ok_iff.mp h
    obtain ⟨accepted, events, picked, table, hc, ht, rfl⟩ := runChoice_eq_ok_iff.mp h
    rw [runInPlace, hid]
    simp only [hc, ht]

lemma runInPlace_of_error (hr : s.Sound r) (h : s.runStep r step = .error f) :
    s.runInPlace r step = (some f, { r with clock := r.clock.setElapsed step.time }) := by
  have hrefused := (runStep_eq_error_iff hr).mp h
  cases step with
  | scan time link attachment sightings =>
    rw [runInPlace, request_eq_error_iff.mpr hrefused]
    rfl
  | userChoice time ssid =>
    cases hrefused with
    | userChoice hunsaved =>
      rw [runInPlace, savedId_eq_error_iff.mpr ⟨hunsaved, rfl⟩]
      rfl

lemma runAllInPlace_eq (hr : s.Sound r) : ∃ clock, s.runAllInPlace l r =
    ((s.runSteps l r).1, { (s.runSteps l r).2 with clock }) := by
  induction l generalizing r with
  | nil => exact ⟨r.clock, rfl⟩
  | cons step l ih =>
    rw [runAllInPlace, runSteps]
    cases hstep : s.runStep r step with
    | error e =>
      rw [runInPlace_of_error hr hstep]
      exact ⟨_, rfl⟩
    | ok r₁ =>
      rw [runInPlace_of_ok hstep]
      exact ih (hr.runStep hstep)

/-- No failure can come between two changes of a step, so replays need not undo anything. -/
theorem replayInPlace_eq (ht : t.WellFormed) : s.replayInPlace t = s.replay t := by
  have hset := wellFormed_setUp ht s.networks
  rw [replayInPlace, replay]
  cases hsel : Selector.withDefaultEvaluators (σ := ProfileTable) s.settings with
  | error f => rfl
  | ok sel =>
    cases hs : setUp s.networks t with
    | mk fault table =>
      rw [hs] at hset
      cases fault with
      | some f => rfl
      | none =>
        obtain ⟨clock, hrun⟩ := runAllInPlace_eq (l := s.steps) (sound_start hset hsel)
        rw [start] at hrun
        dsimp only
        rw [start, hrun]
        cases s.runSteps s.steps { selector := sel, clock := .starting s.wallStart, table } with
        | mk fault r => cases fault <;> rfl

lemma replay_error_cases (hs : s.settings.Valid) (hf : (s.replay t).reports = .error f) :
    (∃ table, setUp s.networks t = (some f, table) ∧
        s.replay t = { reports := .error f, events := [], table }) ∨
      ∃ sel table r, Selector.withDefaultEvaluators s.settings = .ok sel ∧
        setUp s.networks t = (none, table) ∧
        s.runSteps s.steps (s.start sel table) = (some f, r) ∧
        s.replay t = { reports := .error f, events := r.events, table := r.table } := by
  obtain ⟨sel, hsel⟩ := Selector.exists_withDefaultEvaluators (σ := ProfileTable) hs
  cases hset : setUp s.networks t with
  | mk fault table =>
    cases fault with
    | some e =>
      have hreplay : s.replay t = { reports := .error e, events := [], table } := by
        rw [replay, hsel]
        simp only [hset]
      rw [hreplay] at hf
      obtain rfl := Except.error.inj hf
      exact .inl ⟨table, rfl, hreplay⟩
    | none =>
      cases hrun : s.runSteps s.steps (s.start sel table) with
      | mk fault r =>
        cases fault with
        | none =>
          rw [replay_of_runSteps hsel hset hrun] at hf
          contradiction
        | some e =>
          have hreplay : s.replay t =
              { reports := .error e, events := r.events, table := r.table } := by
            rw [start] at hrun
            rw [replay, hsel]
            simp only [hset, hrun]
          rw [hreplay] at hf
          obtain rfl := Except.error.inj hf
          exact .inr ⟨sel, table, r, hsel, rfl, hrun, hreplay⟩

end Scenario

namespace Sample

open Scenario

def hopeful : Scenario :=
  { day with steps := morning ++ .userChoice 9 "cafe" :: evening }

def wordy : Scenario :=
  { day with networks := day.networks ++ [⟨"the access point in the back room", .psk, false⟩] }

end Sample

namespace Scenario

variable {s : Scenario} {t : ProfileTable} {f : Fault}

theorem replay_of_error (hs : s.settings.Valid) (ht : t.Arises)
    (hf : (s.replay t).reports = .error f) :
    s.replayInPlace t = s.replay t ∧
      ((∃ before n after, s.networks = before ++ n :: after ∧
          setUp before t = (none, (s.replay t).table) ∧
          (s.replay t).table.add n.ssid n.security = .error f ∧ (s.replay t).events = []) ∨
        ∃ before step after, s.steps = before ++ step :: after ∧
          let first := { s with steps := before }.replay t
          (∃ reports, first.reports = .ok reports) ∧ Refused first.table step f ∧
            s.replay t = { first with reports := .error f }) := by
  have hwf := ht.reachable.wellFormed
  have hset := wellFormed_setUp hwf s.networks
  refine ⟨replayInPlace_eq hwf, ?_⟩
  obtain ⟨table, hsetup, hreplay⟩ | ⟨sel, table, r, hsel, hsetup, hrun, hreplay⟩ :=
    replay_error_cases hs hf
  · obtain ⟨before, n, after, hn, hbefore, hadd⟩ := setUp_eq_some hwf hsetup
    rw [hreplay]
    exact .inl ⟨before, n, after, hn, hbefore, hadd, rfl⟩
  · rw [hsetup] at hset
    obtain ⟨before, step, after, hsteps, hbefore, hfails⟩ := runSteps_eq_some hrun
    have hsound := (sound_start hset hsel).runSteps hbefore
    have hfirst := replay_of_runSteps (s := { s with steps := before }) hsel hsetup
      ((runSteps_with s s.networks before before _).trans hbefore)
    refine .inr ⟨before, step, after, hsteps, ?_⟩
    dsimp only
    rw [hfirst, hreplay]
    exact ⟨⟨r.reports, rfl⟩, (runStep_eq_error_iff hsound).mp hfails, rfl⟩

open Sample

theorem replay_of_error_day :
    ((hopeful.replay .empty).events ≠ [] ∧ ∃ before step after,
      hopeful.steps = before ++ step :: after ∧
        let first := { hopeful with steps := before }.replay .empty
        (∃ reports, first.reports = .ok reports) ∧ Refused first.table step unknownName ∧
          hopeful.replay .empty = { first with reports := .error unknownName }) ∧
      ∃ before n after, wordy.networks = before ++ n :: after ∧
        setUp before .empty = (none, (wordy.replay .empty).table) ∧
        (wordy.replay .empty).table.add n.ssid n.security = .error .ssidTooLong ∧
        (wordy.replay .empty).events = [] := by
  have hvalid : day.settings.Valid := (day.settings.validate_eq_ok_iff).mp rfl
  have hlost : (hopeful.replay .empty).reports = .error unknownName := by decide +kernel
  have hevents : (hopeful.replay .empty).events ≠ [] := by decide +kernel
  have hlong : (wordy.replay .empty).reports = .error .ssidTooLong := by decide +kernel
  have hsetup : (setUp wordy.networks .empty).1 = some .ssidTooLong := by decide +kernel
  constructor
  · obtain ⟨-, ⟨_, _, _, -, -, -, hnone⟩ | hstep⟩ :=
      replay_of_error (s := hopeful) hvalid .empty hlost
    · exact absurd hnone hevents
    · exact ⟨hevents, hstep⟩
  · obtain ⟨-, hnetwork | ⟨_, _, _, -, ⟨_, hreports⟩, -⟩⟩ :=
      replay_of_error (s := wordy) hvalid .empty hlong
    · exact hnetwork
    · obtain ⟨_, _, _, -, hset, -⟩ := exists_runSteps_of_replay hreports
      rw [hset] at hsetup
      contradiction

end Scenario

end WirelessSelection
