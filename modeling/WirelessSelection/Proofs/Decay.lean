import Mathlib.Data.List.Induction
import WirelessSelection.Proofs.Restart

/-! The award for the last pick, over the time of a replay. The stamp of a pick is saved with the
table, so after a restart the award stands still until the new clock has come as far. -/

namespace WirelessSelection

namespace SavedNetworks

variable {ctx ctx' : Context} {pick : Pick}

lemma toInt_lastPickAward (ctx : Context) (pick : Pick) : (lastPickAward ctx pick).toInt =
    max 0 (ctx.settings.weights.lastPickAward.toInt -
      ((ctx.now.toNat - pick.timestamp.toNat) / 60000 : Nat)) := by
  have hupper := ctx.settings.weights.lastPickAward.toInt_le
  have hlower := ctx.settings.weights.lastPickAward.le_toInt
  have hminutes : (Millis.since ctx.now pick.timestamp / 60000).toNat =
      (ctx.now.toNat - pick.timestamp.toNat) / 60000 := by
    rw [UInt64.toNat_div, Millis.toNat_since]
    rfl
  have hends : Int32.minValue.toInt = -2147483648 ∧ Int32.maxValue.toInt = 2147483647 := by decide
  rw [lastPickAward, Score.toInt_max, Score.sub, Score.toInt_saturate, minutesSince,
    Score.toInt_saturate, hminutes]
  simp only [Int32.toInt_zero]
  omega

lemma lastPickAward_lt_iff (hs : ctx'.settings = ctx.settings)
    (hlater : ctx.now.toNat + 60000 ≤ ctx'.now.toNat) (hpos : 0 < lastPickAward ctx pick) :
    lastPickAward ctx' pick < lastPickAward ctx pick ↔
      pick.timestamp.toNat + 60000 ≤ ctx'.now.toNat := by
  rw [Int32.lt_iff_toInt_lt, toInt_lastPickAward] at hpos
  rw [Int32.lt_iff_toInt_lt, toInt_lastPickAward, toInt_lastPickAward, hs]
  simp only [Int32.toInt_zero] at hpos
  omega

end SavedNetworks

def Selector.pickAward? {σ : Type} [ProfileStore σ] (sel : Selector σ) (req : Request)
    (now : Millis) (store : σ) : Option (Pick × Score) :=
  (ProfileStore.lastPick? (sel.untrustedStage req now store).2).map fun pick =>
    (pick, SavedNetworks.lastPickAward (sel.context req now) pick)

lemma Selector.pickAward?_eq (sel : Selector ProfileTable) {t : ProfileTable} (ht : t.WellFormed)
    (req : Request) (now : Millis) : sel.pickAward? req now t = t.lastPick.map fun pick =>
      (pick, SavedNetworks.lastPickAward (sel.context req now) pick) := by
  have hext := ProfileTable.Extends.of_writes ht (sel.untrustedStage_ofRound req now t)
  rw [pickAward?]
  exact congrArg _ hext.lastPick_eq

namespace Scenario

variable {s : Scenario} {t : ProfileTable} {r r' : Progress} {step : Step} {l past : List Step}

def Step.isChoice : Step → Bool
  | userChoice .. => true
  | scan .. => false

lemma lastPick_setUp (networks : List SavedNetwork) (t : ProfileTable) :
    (setUp networks t).2.lastPick = t.lastPick := by
  have hadd {t t' : ProfileTable} {name : String} {security : Security} {id : NetworkId}
      (h : t.add name security = .ok (id, t')) : t'.lastPick = t.lastPick := by
    obtain ⟨ssid, -, ⟨slot, p, -, -, rfl⟩ | ⟨-, -, ha⟩⟩ := ProfileTable.add_cases h
    · rfl
    · rw [(ProfileTable.append_eq_ok_iff.mp ha).2]
  have hone (t : ProfileTable) (n : SavedNetwork) :
      (setUpNetwork t n).2.lastPick = t.lastPick := by
    rw [setUpNetwork]
    cases ha : t.add n.ssid n.security with
    | error f => rfl
    | ok added =>
      have hadded : added.2.lastPick = t.lastPick := hadd ha
      dsimp only
      split
      · rw [ProfileTable.change_snd]
        exact hadded
      · exact hadded
  induction networks generalizing t with
  | nil => rfl
  | cons n rest ih =>
    have hn := hone t n
    rw [setUp]
    cases hr : setUpNetwork t n with
    | mk result table =>
      rw [hr] at hn
      cases result with
      | ok _ => exact (ih table).trans hn
      | error f => exact hn

lemma lastPick_runStep (hr : s.Sound r) (h : s.runStep r step = .ok r')
    (hstep : step.isChoice = false) : r'.table.lastPick = r.table.lastPick := by
  cases step with
  | userChoice time ssid => contradiction
  | scan time link attachment sightings =>
    obtain ⟨req, -, rfl⟩ := runStep_scan_eq_ok_iff.mp h
    have hw := Selector.select_ofRound hr.isDefault req (r.clock.setElapsed time).elapsed r.table
    exact (ProfileTable.Extends.of_writes hr.wellFormed hw).lastPick_eq

def Progress.IsCurrent (r : Progress) : Prop :=
  ∀ pick, r.table.lastPick = some pick → pick.timestamp ≤ r.clock.elapsed

lemma isCurrent_of_choice (hr : s.Sound r) (h : s.runStep r step = .ok r')
    (hstep : step.isChoice = true) : r'.IsCurrent := by
  cases step with
  | scan => contradiction
  | userChoice time ssid =>
    obtain ⟨id, hid, -⟩ := runStep_userChoice_eq_ok_iff.mp h
    obtain ⟨events, hrun⟩ := hr.runStep_userChoice hid time
    obtain rfl := Except.ok.inj (hrun.symm.trans h)
    intro pick hpick
    obtain rfl := Option.some.inj hpick
    exact r.clock.le_setElapsed time

lemma Progress.IsCurrent.runStep (hc : r.IsCurrent) (hr : s.Sound r)
    (h : s.runStep r step = .ok r') : r'.IsCurrent := by
  cases hstep : step.isChoice with
  | true => exact isCurrent_of_choice hr h hstep
  | false =>
    intro pick hpick
    rw [lastPick_runStep hr h hstep] at hpick
    rw [clock_runStep h]
    exact UInt64.le_trans (hc pick hpick) (r.clock.elapsed_le_setElapsed step.time)

lemma Progress.IsCurrent.runSteps (hc : r.IsCurrent) (hr : s.Sound r)
    (h : s.runSteps l r = (none, r')) : r'.IsCurrent := by
  refine (invariant_runSteps (P := fun r => s.Sound r ∧ r.IsCurrent) ?_ ⟨hr, hc⟩ h).2
  rintro step - r r' ⟨hr, hc⟩ h
  exact ⟨hr.runStep h, hc.runStep hr h⟩

def Reaches (s : Scenario) (t : ProfileTable) (past : List Step) (r : Progress) : Prop :=
  ∃ sel table, Selector.withDefaultEvaluators s.settings = .ok sel ∧
    setUp s.networks t = (none, table) ∧ s.runSteps past (s.start sel table) = (none, r)

def Progress.nowAt (r : Progress) (step : Step) : Millis :=
  (r.clock.setElapsed step.time).elapsed

def Progress.pickAward? (r : Progress) (step : Step) (req : Request) : Option (Pick × Score) :=
  r.selector.pickAward? req (r.nowAt step) r.table

structure Completes (s : Scenario) (t : ProfileTable) (past : List Step) (step : Step)
    (r : Progress) (req : Request) : Prop where
  isPrefix : past ++ [step] <+: s.steps
  reached : s.Reaches t past r
  asked : ∃ time link attachment sightings, step = .scan time link attachment sightings ∧
    s.request r.table time link attachment sightings = .ok req
  completed : (r.selector.select req (r.nowAt step) r.table).isCompleted = true

lemma Reaches.sound (h : s.Reaches t past r) (ht : t.WellFormed) : s.Sound r := by
  obtain ⟨sel, table, hsel, hset, hrun⟩ := h
  have hwf := wellFormed_setUp ht s.networks
  rw [hset] at hwf
  exact (sound_start hwf hsel).runSteps hrun

lemma Reaches.runSteps_of_append (h : s.Reaches t past r) (h' : s.Reaches t (past ++ l) r') :
    s.runSteps l r = (none, r') := by
  obtain ⟨sel, table, hsel, hset, hrun⟩ := h
  obtain ⟨sel', table', hsel', hset', hrun'⟩ := h'
  obtain rfl := Except.ok.inj (hsel.symm.trans hsel')
  obtain rfl := (Prod.mk.inj (hset.symm.trans hset')).2
  obtain ⟨r₁, hpast, hl⟩ := runSteps_append_eq_none_iff.mp hrun'
  obtain rfl := (Prod.mk.inj (hrun.symm.trans hpast)).2
  exact hl

lemma Reaches.isCurrent (h : s.Reaches t past r) (ht : t.WellFormed)
    (hpick : t.lastPick = none ∨ ∃ step ∈ past, step.isChoice = true) : r.IsCurrent := by
  obtain hnone | ⟨step, hmem, hstep⟩ := hpick
  · have hsound := h.sound ht
    obtain ⟨sel, table, hsel, hset, hrun⟩ := h
    have hwf := wellFormed_setUp ht s.networks
    have hlast := lastPick_setUp s.networks t
    rw [hset] at hwf hlast
    have hstart : (s.start sel table).IsCurrent := by
      intro pick hp
      exact absurd (hp.symm.trans (hlast.trans hnone)) (Option.some_ne_none _)
    exact hstart.runSteps (sound_start hwf hsel) hrun
  · obtain ⟨l, l', rfl⟩ := List.append_of_mem hmem
    obtain ⟨sel, table, hsel, hset, hrun⟩ := h
    obtain ⟨r₁, hl, hrun⟩ := runSteps_append_eq_none_iff.mp hrun
    obtain ⟨r₂, hchoice, hrun⟩ := runSteps_cons_eq_none_iff.mp hrun
    have hsound : s.Sound r₁ := Reaches.sound ⟨sel, table, hsel, hset, hl⟩ ht
    exact (isCurrent_of_choice hsound hchoice hstep).runSteps (hsound.runStep hchoice) hrun

lemma lastPick_runSteps (hr : s.Sound r) (hl : ∀ step ∈ l, step.isChoice = false)
    (h : s.runSteps l r = (none, r')) : r'.table.lastPick = r.table.lastPick := by
  refine (invariant_runSteps (P := fun r' => s.Sound r' ∧ r'.table.lastPick = r.table.lastPick)
    ?_ ⟨hr, rfl⟩ h).2
  rintro step hs r₁ r₂ ⟨hsound, hpick⟩ hstep
  exact ⟨hsound.runStep hstep, (lastPick_runStep hsound hstep (hl step hs)).trans hpick⟩

inductive Saved : ProfileTable → Prop
  | empty : Saved .empty
  | replay {t t' : ProfileTable} (h : Saved t) (s : Scenario)
    (hload : Snapshot.decode (Snapshot.encode (s.replay t).table) = .ok t') : Saved t'

lemma Saved.wellFormed (h : Saved t) : t.WellFormed := by
  induction h with
  | empty => exact ProfileTable.empty_wellFormed
  | @replay t t' _ s hload ih =>
    have hwf := wellFormed_replay s ih
    rw [hwf.hasFreshId.decode_encode] at hload
    exact Except.ok.inj hload ▸ hwf

end Scenario

namespace Sample

open Scenario

def twins : List Sighting :=
  [sighting { home with rssi := -61 } "[WPA2-PSK-CCMP][ESS]",
    sighting { office with rssi := -60 } "[WPA2-PSK-CCMP][ESS]"]

def twinScan (time : Millis) : Step :=
  .scan time .disconnected none twins

def beforeReboot : Scenario where
  settings.weights.lastPickAward := 4
  networks := [⟨"home", .psk, false⟩, ⟨"office", .psk, false⟩]
  steps := [.userChoice 600000 "home"]

def afterReboot : Scenario where
  settings.weights.lastPickAward := 4
  steps := [twinScan 0, twinScan 60000, twinScan 600000, twinScan 660000]

def rebooted : ProfileTable :=
  (beforeReboot.replay .empty).table

lemma decode_rebooted : Snapshot.decode (Snapshot.encode rebooted) = .ok rebooted :=
  (wellFormed_replay beforeReboot ProfileTable.empty_wellFormed).hasFreshId.decode_encode

def rebootedSelector : Selector ProfileTable where
  settings := afterReboot.settings
  panel.seats := [⟨1, UntrustedNetworks.evaluator⟩, ⟨2, SavedNetworks.evaluator⟩]

def twinRequest (time : Millis) : Request where
  scan := [
    { home with rssi := -61, timestamp := time },
    { office with rssi := -60, timestamp := time }]
  link := .disconnected

def scanned (times : List Millis) : Progress :=
  times.foldl (fun r time => runScan r time (twinRequest time))
    (afterReboot.start rebootedSelector rebooted)

lemma request_twins (t : ProfileTable) (time : Millis) :
    afterReboot.request t time .disconnected none twins = .ok (twinRequest time) :=
  rfl

lemma reaches_scanned (times : List Millis) :
    afterReboot.Reaches rebooted (times.map twinScan) (scanned times) := by
  refine ⟨rebootedSelector, rebooted, rfl, rfl, ?_⟩
  induction times using List.reverseRecOn with
  | nil => rfl
  | append_singleton times time ih =>
    have hstep := runStep_scan_eq_ok_iff.mpr ⟨_, request_twins (scanned times).table time, rfl⟩
    rw [List.map_append, scanned, List.foldl_append]
    exact runSteps_append_eq_none_iff.mpr
      ⟨scanned times, ih, runSteps_cons_eq_none_iff.mpr ⟨_, hstep, rfl⟩⟩

lemma completes_scanned (times : List Millis) (time : Millis)
    (hp : times.map twinScan ++ [twinScan time] <+: afterReboot.steps)
    (hc : ((scanned times).selector.select (twinRequest time)
      ((scanned times).nowAt (twinScan time)) (scanned times).table).isCompleted = true) :
    afterReboot.Completes rebooted (times.map twinScan) (twinScan time) (scanned times)
      (twinRequest time) where
  isPrefix := hp
  reached := reaches_scanned times
  asked := ⟨time, .disconnected, none, twins, rfl, request_twins _ time⟩
  completed := hc

end Sample

namespace Scenario

variable {s : Scenario} {t : ProfileTable} {past : List Step}

/-- Within one boot the award falls with every minute. After a restart it does so once the clock is
a minute past the stamp of the pick. -/
theorem pickAward_lt_iff (ht : Saved t) {between : List Step} {step₁ step₂ : Step}
    {r₁ r₂ : Progress} {req₁ req₂ : Request} (h₁ : s.Completes t past step₁ r₁ req₁)
    (h₂ : s.Completes t (past ++ step₁ :: between) step₂ r₂ req₂)
    (hlater : (r₁.nowAt step₁).toNat + 60000 ≤ (r₂.nowAt step₂).toNat)
    (hbetween : ∀ step ∈ between, step.isChoice = false) {pick : Pick} {a : Score}
    (ha : r₁.pickAward? step₁ req₁ = some (pick, a)) (hpos : 0 < a) :
    ∃ b, r₂.pickAward? step₂ req₂ = some (pick, b) ∧
      (b < a ↔ pick.timestamp.toNat + 60000 ≤ (r₂.nowAt step₂).toNat) ∧
      (t.lastPick = none ∨ (∃ step ∈ past, step.isChoice = true) → b < a) := by
  have hwf := ht.wellFormed
  have hsound₁ := h₁.reached.sound hwf
  have hsound₂ := h₂.reached.sound hwf
  rw [Progress.pickAward?, Selector.pickAward?_eq _ hsound₁.wellFormed] at ha
  obtain ⟨pick', hpick, heq⟩ := Option.map_eq_some_iff.mp ha
  obtain ⟨rfl, rfl⟩ := Prod.mk.inj heq
  have hscan : ∀ step ∈ step₁ :: between, step.isChoice = false := by
    obtain ⟨time, link, attachment, sightings, rfl, -⟩ := h₁.asked
    intro step hs
    obtain rfl | hs := List.mem_cons.mp hs
    · rfl
    · exact hbetween step hs
  have hkept := lastPick_runSteps hsound₁ hscan (h₁.reached.runSteps_of_append h₂.reached)
  have hsettings : (r₂.selector.context req₂ (r₂.nowAt step₂)).settings =
      (r₁.selector.context req₁ (r₁.nowAt step₁)).settings :=
    hsound₂.settings.trans hsound₁.settings.symm
  have hlt := SavedNetworks.lastPickAward_lt_iff hsettings hlater hpos
  refine ⟨_, ?_, hlt, ?_⟩
  · rw [Progress.pickAward?, Selector.pickAward?_eq _ hsound₂.wellFormed, hkept, hpick]
    rfl
  · intro hmade
    have hstamp := h₁.reached.isCurrent hwf hmade _ hpick
    have hnow := UInt64.le_trans hstamp (r₁.clock.elapsed_le_setElapsed step₁.time)
    rw [UInt64.le_iff_toNat_le] at hnow
    exact hlt.mpr ((Nat.add_le_add_right hnow 60000).trans hlater)

open Sample

theorem pickAward_lt_iff_caughtUp :
    (scanned [0, 60000]).pickAward? (twinScan 600000) (twinRequest 600000) =
        some (⟨0, 600000⟩, 4) ∧
      ∃ b, (scanned [0, 60000, 600000]).pickAward? (twinScan 660000) (twinRequest 660000) =
        some (⟨0, 600000⟩, b) ∧ b < 4 := by
  have hsaved : Saved rebooted := .replay .empty beforeReboot decode_rebooted
  have h₁ := completes_scanned [0, 60000] 600000 (by decide) (by decide +kernel)
  have h₂ := completes_scanned [0, 60000, 600000] 660000 (by decide) (by decide +kernel)
  have ha : (scanned [0, 60000]).pickAward? (twinScan 600000) (twinRequest 600000) =
      some (⟨0, 600000⟩, 4) := by decide +kernel
  obtain ⟨b, hb, hlt, -⟩ := pickAward_lt_iff hsaved h₁ h₂ (by decide +kernel)
    (fun _ h => absurd h List.not_mem_nil) ha (by decide)
  exact ⟨ha, b, hb, hlt.mpr (by decide +kernel)⟩

/-- The award stands still for the ten minutes in which the clock is behind the stamp. -/
theorem not_pickAward_lt :
    Snapshot.decode (Snapshot.encode (beforeReboot.replay .empty).table) = .ok rebooted ∧
      afterReboot.Completes rebooted [] (twinScan 0) (scanned []) (twinRequest 0) ∧
      afterReboot.Completes rebooted [twinScan 0] (twinScan 60000) (scanned [0])
        (twinRequest 60000) ∧
      (scanned []).nowAt (twinScan 0) = 0 ∧ (scanned [0]).nowAt (twinScan 60000) = 60000 ∧
      (scanned []).pickAward? (twinScan 0) (twinRequest 0) = some (⟨0, 600000⟩, 4) ∧
      (scanned [0]).pickAward? (twinScan 60000) (twinRequest 60000) = some (⟨0, 600000⟩, 4) := by
  have h₁ := completes_scanned [] 0 (by decide) (by decide +kernel)
  have h₂ := completes_scanned [0] 60000 (by decide) (by decide +kernel)
  exact ⟨decode_rebooted, h₁, h₂, by decide +kernel, by decide +kernel, by decide +kernel,
    by decide +kernel⟩

end Scenario

end WirelessSelection
