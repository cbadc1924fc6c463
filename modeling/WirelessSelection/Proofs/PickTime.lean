import Mathlib.Order.Bounds.Defs
import WirelessSelection.Proofs.Decay

/-! The stamp of a pick in a replay is the time that the step gives, while the clock never goes
back. -/

namespace WirelessSelection

lemma Clock.elapsed_setElapsed_cases (c : Clock) (time : Millis) :
    (c.setElapsed time).elapsed = c.elapsed ∨ (c.setElapsed time).elapsed = time := by
  by_cases h : c.elapsed ≤ time
  · exact .inr (if_pos h)
  · exact .inl (if_neg h)

namespace Scenario

variable {s : Scenario} {t : ProfileTable} {r r' : Progress} {l past : List Step}

lemma isGreatest_elapsed (h : s.runSteps l r = (none, r')) :
    IsGreatest {time | time ∈ r.clock.elapsed :: l.map Step.time} r'.clock.elapsed := by
  induction l generalizing r with
  | nil =>
    cases h
    refine ⟨List.mem_cons_self, ?_⟩
    intro time htime
    rw [List.mem_singleton.mp htime]
    exact UInt64.le_refl _
  | cons step l ih =>
    obtain ⟨r₁, h₁, h₂⟩ := runSteps_cons_eq_none_iff.mp h
    obtain ⟨hmem, hle⟩ := ih h₂
    have hstart := hle List.mem_cons_self
    rw [clock_runStep h₁] at hmem hstart
    constructor
    case left =>
      obtain heq | hlater := List.mem_cons.mp hmem
      · rw [heq]
        obtain hkept | hmoved := r.clock.elapsed_setElapsed_cases step.time
        · rw [hkept]
          exact List.mem_cons_self
        · rw [hmoved]
          exact List.mem_cons_of_mem _ List.mem_cons_self
      · exact List.mem_cons_of_mem _ (List.mem_cons_of_mem _ hlater)
    case right =>
      intro time htime
      obtain rfl | htime := List.mem_cons.mp htime
      · exact UInt64.le_trans (r.clock.elapsed_le_setElapsed step.time) hstart
      · obtain rfl | htime := List.mem_cons.mp htime
        · exact UInt64.le_trans (r.clock.le_setElapsed step.time) hstart
        · exact hle (List.mem_cons_of_mem _ htime)

lemma Reaches.isGreatest_elapsed (h : s.Reaches t l r) (hl : l ≠ []) :
    IsGreatest {time | time ∈ l.map Step.time} r.clock.elapsed := by
  obtain ⟨sel, table, -, -, hrun⟩ := h
  obtain ⟨hmem, hle⟩ := Scenario.isGreatest_elapsed hrun
  refine ⟨?_, fun time htime => hle (List.mem_cons_of_mem _ htime)⟩
  obtain hzero | hmem := List.mem_cons.mp hmem
  · -- At zero the clock stands only if no step gives any other time.
    obtain ⟨step, hstep⟩ := List.exists_mem_of_ne_nil l hl
    have hfirst := List.mem_map_of_mem (f := Step.time) hstep
    have htime := hle (List.mem_cons_of_mem _ hfirst)
    rw [hzero] at htime ⊢
    rwa [UInt64.le_antisymm htime UInt64.zero_le] at hfirst
  · exact hmem

lemma Reaches.pickAward?_of_lastPick (h : s.Reaches t l r) (ht : t.WellFormed) {pick : Pick}
    (hpick : r.table.lastPick = some pick) (step : Step) (req : Request) :
    ∃ a, r.pickAward? step req = some (pick, a) ∧
      a.toInt = max 0 (s.settings.weights.lastPickAward.toInt -
        (((r.nowAt step).toNat - pick.timestamp.toNat) / 60000 : Nat)) := by
  have hsound := h.sound ht
  have haward := SavedNetworks.toInt_lastPickAward (r.selector.context req (r.nowAt step)) pick
  refine ⟨_, ?_, haward.trans ?_⟩
  · rw [Progress.pickAward?, Selector.pickAward?_eq _ hsound.wellFormed, hpick]
    rfl
  · change max 0 (r.selector.settings.weights.lastPickAward.toInt - _) = _
    rw [hsound.settings]
    rfl

end Scenario

namespace Sample

open Scenario

def delayed (time : Millis) : Scenario where
  settings.weights.lastPickAward := 4
  networks := [⟨"home", .psk, false⟩, ⟨"office", .psk, false⟩]
  steps := [.scan 600000 .disconnected none [], .userChoice time "home", twinScan 600000]

def delayedAt (time : Millis) (n : Nat) : Progress :=
  ((delayed time).runSteps ((delayed time).steps.take n)
    ((delayed time).start rebootedSelector (setUp (delayed time).networks .empty).2)).2

lemma reaches_delayedAt (time : Millis) (n : Nat)
    (hset : (setUp (delayed time).networks .empty).1 = none)
    (hrun : ((delayed time).runSteps ((delayed time).steps.take n)
      ((delayed time).start rebootedSelector (setUp (delayed time).networks .empty).2)).1 = none) :
    (delayed time).Reaches .empty ((delayed time).steps.take n) (delayedAt time n) :=
  ⟨rebootedSelector, _, rfl, Prod.ext hset rfl, Prod.ext hrun rfl⟩

end Sample

namespace Scenario

variable {s : Scenario} {t : ProfileTable} {r r' : Progress} {past : List Step}

/-- Every pick of a replay is stamped with the time of its step. That is the time of the clock, and
a scan at this time takes nothing from the award, as long as no step before gives a later time. -/
theorem lastPick_of_userChoice (ht : t.Arises) {time : Millis} {ssid : String}
    (h : s.Reaches t past r) (h' : s.Reaches t (past ++ [.userChoice time ssid]) r') :
    ∃ id, savedId r.table ssid = .ok id ∧
      r'.reports = r.reports ++
        [{ time, action := "user_choice", accepted := some true }] ∧
      r'.table.lastPick = some ⟨id, time⟩ ∧
      IsGreatest {time' | time' ∈ (past ++ [Step.userChoice time ssid]).map Step.time}
        r'.clock.elapsed ∧
      (r'.clock.elapsed = time ↔ ∀ step ∈ past, step.time ≤ time) ∧
      ∀ step req, r'.nowAt step = r'.clock.elapsed →
        ∃ a, r'.pickAward? step req = some (⟨id, time⟩, a) ∧
          a.toInt = max 0 (s.settings.weights.lastPickAward.toInt -
            ((r'.clock.elapsed.toNat - time.toNat) / 60000 : Nat)) := by
  have hwf := ht.reachable.wellFormed
  have hgreatest := h'.isGreatest_elapsed (by simp)
  obtain ⟨r₁, hchoice, hnil⟩ := runSteps_cons_eq_none_iff.mp (h.runSteps_of_append h')
  cases hnil
  obtain ⟨id, hid, -⟩ := runStep_userChoice_eq_ok_iff.mp hchoice
  obtain ⟨events, hrun⟩ := (h.sound hwf).runStep_userChoice hid time
  have hr' := Except.ok.inj (hchoice.symm.trans hrun)
  have hpick : r'.table.lastPick = some ⟨id, time⟩ := by rw [hr']
  refine ⟨id, hid, by rw [hr'], hpick, hgreatest, ?_, ?_⟩
  · constructor
    · intro heq step hstep
      have hle := hgreatest.2 (List.mem_map_of_mem (List.mem_append_left _ hstep))
      rwa [heq] at hle
    · intro hearlier
      have htime : time ≤ r'.clock.elapsed :=
        hgreatest.2 (List.mem_map.mpr ⟨_, List.mem_append_right _ (List.mem_singleton_self _), rfl⟩)
      refine UInt64.le_antisymm ?_ htime
      obtain ⟨step, hstep, heq⟩ := List.mem_map.mp hgreatest.1
      rw [← heq]
      obtain hstep | hstep := List.mem_append.mp hstep
      · exact hearlier step hstep
      · rw [List.mem_singleton.mp hstep]
        exact UInt64.le_refl _
  · intro step req hnow
    rw [← hnow]
    exact h'.pickAward?_of_lastPick hwf hpick step req

open Sample

theorem lastPick_of_userChoice_inOrder :
    let r := delayedAt 600000 2
    (delayed 600000).Reaches .empty ((delayed 600000).steps.take 2) r ∧
      r.clock.elapsed = 600000 ∧ ∃ id a, r.table.lastPick = some ⟨id, 600000⟩ ∧
        r.pickAward? (twinScan 600000) (twinRequest 600000) = some (⟨id, 600000⟩, a) ∧
        a.toInt = 4 := by
  intro r
  have hset : (setUp (delayed 600000).networks .empty).1 = none := by decide +kernel
  have h := reaches_delayedAt 600000 1 hset (by decide +kernel)
  have h' := reaches_delayedAt 600000 2 hset (by decide +kernel)
  obtain ⟨id, -, -, hpick, -, hclock, haward⟩ := lastPick_of_userChoice .empty h h'
  have helapsed : r.clock.elapsed = 600000 := hclock.mpr (by decide)
  have hnow : r.nowAt (twinScan 600000) = r.clock.elapsed := by decide +kernel
  obtain ⟨a, ha, hvalue⟩ := haward (twinScan 600000) (twinRequest 600000) hnow
  rw [helapsed] at hvalue
  exact ⟨h', helapsed, id, a, hpick, ha, hvalue⟩

/-- A pick that is listed late. The scan at the same time of the clock finds that ten minutes have
gone by since, and chooses office. -/
theorem not_lastPick_elapsed :
    let r := delayedAt 0 2
    (delayed 0).Reaches .empty ((delayed 0).steps.take 2) r ∧
      (delayed 0).steps.take 2 = (delayed 0).steps.take 1 ++ [.userChoice 0 "home"] ∧
      r.reports.getLast?.bind (·.accepted) = some true ∧ r.clock.elapsed = 600000 ∧
      r.table.lastPick = some ⟨0, 0⟩ ∧
      r.pickAward? (twinScan 600000) (twinRequest 600000) = some (⟨0, 0⟩, 0) ∧
      (r.selector.select (twinRequest 600000) 600000 r.table).candidate.map (·.id) = some 1 := by
  intro r
  have h := reaches_delayedAt 0 2 (by decide +kernel) (by decide +kernel)
  exact ⟨h, rfl, by decide +kernel, by decide +kernel, by decide +kernel, by decide +kernel,
    by decide +kernel⟩

end Scenario

end WirelessSelection
