import Mathlib.Data.List.Induction
import WirelessSelection.Proofs.Operation

/-! The pause between rounds over the whole life of a selector: whatever is asked of it, and over
whatever stores, the window starts at its last completed round. -/

namespace WirelessSelection

namespace Situation

variable {s : Situation} {settings : Settings}

lemma tooRecent?_eq_some_iff {elapsed : Millis} : s.tooRecent? settings = some elapsed ↔
    ∃ last, s.lastSelection = some last ∧ elapsed = Millis.since s.now last ∧
      elapsed < settings.minimumInterval := by
  rw [tooRecent?]
  cases s.lastSelection with
  | none => simp
  | some last =>
    simp only [bind, Option.bind_some, Option.some.injEq, exists_eq_left']
    split
    · next h =>
      rw [Option.some.injEq]
      constructor
      · rintro rfl
        exact ⟨rfl, h⟩
      · exact fun he => he.1.symm
    · next h =>
      refine iff_of_false (Option.some_ne_none _).symm ?_
      rintro ⟨rfl, hlt⟩
      exact h hlt

lemma tooRecent?_of_skip?_eq_none (hl : s.link = .connected) (h : s.skip? settings = none) :
    s.tooRecent? settings = none := by
  rw [skip?, hl] at h
  simp only [associatedSkip?] at h
  split at h
  · contradiction
  split at h
  · contradiction
  split at h
  · contradiction
  · assumption

lemma tooRecent?_of_skip? {elapsed : Millis}
    (h : s.skip? settings = some (.minimumIntervalNotElapsed elapsed)) :
    s.tooRecent? settings = some elapsed := by
  rw [skip?] at h
  split at h
  · contradiction
  · simp at h
  rw [associatedSkip?] at h
  split at h
  · simp at h
  split at h
  · simp at h
  split at h
  · next e he =>
    simp only [Option.some.injEq, SkipReason.minimumIntervalNotElapsed.injEq] at h
    rw [he, h]
  · split at h <;> simp at h

end Situation

namespace Selector

variable {σ : Type} [ProfileStore σ] {sel : Selector σ} {req : Request} {now : Millis} {store : σ}

lemma minimumInterval_le_of_isCompleted (hl : req.link = .connected)
    (h : (sel.select req now store).isCompleted = true) {last : Millis}
    (hlast : sel.memory.lastSelection = some last) :
    sel.settings.minimumInterval ≤ Millis.since now last := by
  rw [isCompleted_select, Option.isNone_iff_eq_none, skip?] at h
  split at h
  · contradiction
  have hn := Situation.tooRecent?_of_skip?_eq_none hl h
  rw [← UInt64.not_lt]
  intro hlt
  have hr := Situation.tooRecent?_eq_some_iff (s := sel.situation req (sel.usable req) now
    (sel.panel.update req.scan store)).mpr ⟨last, hlast, rfl, hlt⟩
  exact Option.some_ne_none _ (hr.symm.trans hn)

lemma elapsed_of_roundSkipped {elapsed : Millis}
    (h : .roundSkipped (.minimumIntervalNotElapsed elapsed) ∈ (sel.select req now store).events) :
    ∃ last, sel.memory.lastSelection = some last ∧ elapsed = Millis.since now last ∧
      elapsed < sel.settings.minimumInterval := by
  rw [roundSkipped_mem_iff, skip?] at h
  split at h
  · simp at h
  · exact Situation.tooRecent?_eq_some_iff.mp (Situation.tooRecent?_of_skip? h)

lemma lastSelection_select (sel : Selector σ) (req : Request) (now : Millis) (store : σ) :
    (sel.select req now store).memory.lastSelection =
      if (sel.select req now store).isCompleted then some now else sel.memory.lastSelection := by
  cases h : (sel.select req now store).isCompleted with
  | true => rw [select_of_isCompleted h]; rfl
  | false =>
    obtain ⟨reason, -, hs⟩ := select_of_not_isCompleted h
    rw [hs]
    rfl

end Selector

/-- What can be asked of a selector, over a store that may be another one at every call. -/
inductive Call (σ : Type)
  | select (req : Request) (store : σ)
  | choose (id : NetworkId) (wall : Millis) (store : σ)

namespace Call

variable {σ : Type} [ProfileStore σ]

def completes (sel : Selector σ) (now : Millis) : Call σ → Bool
  | select req store => (sel.select req now store).isCompleted
  | choose .. => false

def next (sel : Selector σ) (now : Millis) : Call σ → Selector σ
  | select req store => sel.after (sel.select req now store)
  | choose .. => sel

lemma settings_next (sel : Selector σ) (now : Millis) (call : Call σ) :
    (call.next sel now).settings = sel.settings := by
  cases call <;> rfl

lemma lastSelection_next (sel : Selector σ) (now : Millis) (call : Call σ) :
    (call.next sel now).memory.lastSelection =
      if call.completes sel now then some now else sel.memory.lastSelection := by
  cases call with
  | select req store => exact sel.lastSelection_select req now store
  | choose id wall store => rfl

end Call

structure Session (σ : Type) where
  selector : Selector σ
  completions : List Millis := []

namespace Session

variable {σ : Type} [ProfileStore σ]

def call (s : Session σ) (c : Millis × Call σ) : Session σ where
  selector := c.2.next s.selector c.1
  completions := s.completions ++ if c.2.completes s.selector c.1 then [c.1] else []

def run (sel : Selector σ) (calls : List (Millis × Call σ)) : Session σ :=
  calls.foldl call { selector := sel }

lemma run_append_singleton (sel : Selector σ) (calls : List (Millis × Call σ))
    (c : Millis × Call σ) : run sel (calls ++ [c]) = (run sel calls).call c := by
  rw [run, List.foldl_append]
  rfl

lemma settings_run (sel : Selector σ) (calls : List (Millis × Call σ)) :
    (run sel calls).selector.settings = sel.settings := by
  induction calls using List.reverseRecOn with
  | nil => rfl
  | append_singleton calls c ih => rw [run_append_singleton, call, Call.settings_next, ih]

lemma lastSelection_run {sel : Selector σ} (h : sel.memory.lastSelection = none)
    (calls : List (Millis × Call σ)) :
    (run sel calls).selector.memory.lastSelection = (run sel calls).completions.getLast? := by
  induction calls using List.reverseRecOn with
  | nil => exact h
  | append_singleton calls c ih =>
    rw [run_append_singleton, call, Call.lastSelection_next]
    split
    · simp
    · rw [ih, List.append_nil]

lemma completions_sublist (sel : Selector σ) (calls : List (Millis × Call σ)) :
    (run sel calls).completions.Sublist (calls.map Prod.fst) := by
  induction calls using List.reverseRecOn with
  | nil => exact List.Sublist.slnil
  | append_singleton calls c ih =>
    rw [run_append_singleton, List.map_append]
    refine ih.append ?_
    split
    · exact List.Sublist.refl _
    · exact List.nil_sublist _

lemma le_of_mem_completions {sel : Selector σ} {calls : List (Millis × Call σ)}
    {now last t : Millis}
    (hclock : (calls.map Prod.fst ++ [now]).Pairwise (· ≤ ·))
    (hlast : (run sel calls).completions.getLast? = some last)
    (ht : t ∈ (run sel calls).completions) : t ≤ last ∧ last ≤ now := by
  have hp := hclock.sublist ((completions_sublist sel calls).append (List.Sublist.refl [now]))
  obtain ⟨l, hl⟩ := List.getLast?_eq_some_iff.mp hlast
  rw [hl] at hp ht
  have happ := List.pairwise_append.mp hp
  refine ⟨?_, happ.2.2 last (by simp) now List.mem_cons_self⟩
  obtain ht | ht := List.mem_append.mp ht
  · exact (List.pairwise_append.mp happ.1).2.2 t ht last List.mem_cons_self
  · rw [List.mem_singleton.mp ht]
    exact UInt64.le_refl _

theorem minimumInterval_between_rounds {sel : Selector σ} (hsel : sel.memory.lastSelection = none)
    {calls : List (Millis × Call σ)} {now : Millis}
    (hclock : (calls.map Prod.fst ++ [now]).Pairwise (· ≤ ·)) :
    let s := run sel calls
    (∀ req store, req.link = .connected → (s.selector.select req now store).isCompleted = true →
      ∀ t ∈ s.completions,
        t ≤ now ∧ sel.settings.minimumInterval.toNat ≤ now.toNat - t.toNat) ∧
    (∀ req store elapsed, .roundSkipped (.minimumIntervalNotElapsed elapsed) ∈
        (s.selector.select req now store).events →
      ∃ t, s.completions.getLast? = some t ∧ t ≤ now ∧ elapsed.toNat = now.toNat - t.toNat ∧
        elapsed < sel.settings.minimumInterval) ∧
    s.selector.memory.lastSelection = s.completions.getLast? ∧
    ∀ c : Call σ, (s.call (now, c)).selector.memory.lastSelection =
      if c.completes s.selector now then some now else s.selector.memory.lastSelection := by
  intro s
  have hwindow := lastSelection_run hsel calls
  have hsettings := settings_run sel calls
  refine ⟨?_, ?_, hwindow, fun c => c.lastSelection_next s.selector now⟩
  · intro req store hl hc t ht
    obtain ⟨last, hlast⟩ : ∃ last, s.completions.getLast? = some last :=
      ⟨_, List.getLast?_eq_some_getLast (List.ne_nil_of_mem ht)⟩
    obtain ⟨hle, hnow⟩ := le_of_mem_completions hclock hlast ht
    have hgap := Selector.minimumInterval_le_of_isCompleted hl hc (hwindow.trans hlast)
    rw [UInt64.le_iff_toNat_le, Millis.toNat_since, hsettings] at hgap
    rw [UInt64.le_iff_toNat_le] at hle hnow ⊢
    omega
  · intro req store elapsed he
    obtain ⟨last, hlast, heq, hlt⟩ := Selector.elapsed_of_roundSkipped he
    rw [hwindow] at hlast
    have hmem := List.mem_of_getLast? hlast
    rw [hsettings] at hlt
    refine ⟨last, hlast, (le_of_mem_completions hclock hlast hmem).2, ?_, hlt⟩
    rw [heq, Millis.toNat_since]

def sampleCalls : List (Millis × Call ProfileTable) :=
  [(0, .select (Sample.request .disconnected) Sample.table), (5, .choose 1 5 Sample.table)]

theorem minimumInterval_between_rounds_sample :
    let s := run Sample.selector sampleCalls
    s.completions = [0] ∧
    (s.selector.select (Sample.request .connected) 10000 Sample.table).isCompleted = true ∧
    (∀ t ∈ s.completions, t ≤ 10000 ∧ 10000 ≤ (10000 : Millis).toNat - t.toNat) ∧
    ∃ elapsed, .roundSkipped (.minimumIntervalNotElapsed elapsed) ∈
        (s.selector.select (Sample.request .connected) 9999 Sample.table).events ∧
      ∃ t, s.completions.getLast? = some t ∧ elapsed.toNat = (9999 : Millis).toNat - t.toNat := by
  intro s
  have hsel : Sample.selector.memory.lastSelection = none := rfl
  have hlate : (sampleCalls.map Prod.fst ++ [10000]).Pairwise (· ≤ ·) := by decide
  have hearly : (sampleCalls.map Prod.fst ++ [9999]).Pairwise (· ≤ ·) := by decide
  have hc : (s.selector.select (Sample.request .connected) 10000
      Sample.table).isCompleted = true := by
    decide
  have hs : .roundSkipped (.minimumIntervalNotElapsed 9999) ∈
      (s.selector.select (Sample.request .connected) 9999 Sample.table).events := by
    decide
  have hcompleted := (minimumInterval_between_rounds hsel hlate).1 _ _ rfl hc
  obtain ⟨t, ht, -, helapsed, -⟩ := (minimumInterval_between_rounds hsel hearly).2.1 _ _ _ hs
  exact ⟨by decide, hc, hcompleted, 9999, hs, t, ht, helapsed⟩

end Session

end WirelessSelection
