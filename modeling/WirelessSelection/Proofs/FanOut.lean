import WirelessSelection.Proofs.Preference
import WirelessSelection.Proofs.Store.Recording

/-! What a pick leaves on every profile when any of its writes may fail. -/

namespace WirelessSelection

namespace Override

open ProfileStore

variable {r : Recorder ProfileTable} {id : NetworkId} {choice : ConnectChoice} {p : Profile}

def restored (fails : Attempt → Bool) (p : Profile) : Profile :=
  { p with status := { p.status with
    availability :=
      if fails (.change p.id (.setEnabled true)) then p.status.availability else .enabled
    choice := if fails (.change p.id .clearChoice) then p.status.choice else none } }

def takes (fails : Attempt → Bool) (id : NetworkId) (choice : ConnectChoice) (p : Profile) : Bool :=
  !p.ephemeral && p.id ≠ id && p.status.seen && p.status.choice.map (·.key) ≠ some choice.key &&
    !fails (.change p.id (.setChoice choice))

lemma takes_eq (fails : Attempt → Bool) (id : NetworkId) (choice : ConnectChoice) (p : Profile) :
    takes fails id choice p = ((isOverridden id choice.key p && !p.ephemeral) &&
      !fails (.change p.id (.setChoice choice))) := by
  rw [takes, isOverridden]
  cases p.ephemeral <;> simp

lemma get?_of_needed {c : Change} {r' : Recorder ProfileTable}
    (hp : r.store.profiles.get? id = some p)
    (hr' : r' = (change r id c).2 ∨ r' = r ∧ p.apply c = p) (i : NetworkId) :
    r'.store.profiles.get? i =
      if i = id then some (if r.fails (.change id c) then p else p.apply c)
      else r.store.profiles.get? i := by
  obtain rfl | ⟨rfl, hsame⟩ := hr'
  · rw [Recorder.get?_change]
    by_cases hi : i = id
    · subst hi
      rw [hp, if_pos rfl]
      cases r.fails (.change i c) <;> simp
    · rw [if_neg (fun h => hi h.1), if_neg hi]
  · rw [hsame, ite_self]
    split
    · next hi => rw [hi, hp]
    · rfl

lemma get?_reinstate_of_fails (ht : r.store.WellFormed) (hp : r.store.profiles.get? id = some p)
    (i : NetworkId) : (reinstate r id p).store.profiles.get? i =
      if i = id then some (restored r.fails p) else r.store.profiles.get? i := by
  obtain rfl := ht.id_eq hp
  let enabled := if p.isEnabled then r else (change r p.id (.setEnabled true)).2
  let p₁ := if r.fails (.change p.id (.setEnabled true)) then p else p.apply (.setEnabled true)
  have hneeded : enabled = (change r p.id (.setEnabled true)).2 ∨
      enabled = r ∧ p.apply (.setEnabled true) = p := by
    by_cases he : p.isEnabled = true
    · exact .inr ⟨if_pos he, Profile.apply_setEnabled he⟩
    · exact .inl (if_neg he)
  have hfails : enabled.fails = r.fails := by
    obtain h | ⟨h, -⟩ := hneeded
    · rw [h, Recorder.fails_change]
    · rw [h]
  have henabled := get?_of_needed hp hneeded
  have hp₁ : enabled.store.profiles.get? p.id = some p₁ := by rw [henabled, if_pos rfl]
  have hchoice : p₁.status.choice = p.status.choice := by
    simp only [p₁]
    split <;> rfl
  have hcleared : reinstate r p.id p = (change enabled p.id .clearChoice).2 ∨
      reinstate r p.id p = enabled ∧ p₁.apply .clearChoice = p₁ := by
    by_cases hc : p.status.choice.isSome = true
    · exact .inl (if_pos hc)
    · have hnone : p₁.status.choice = none :=
        hchoice.trans (Option.not_isSome_iff_eq_none.mp hc)
      exact .inr ⟨if_neg hc, Profile.apply_clearChoice hnone⟩
  rw [get?_of_needed hp₁ hcleared, hfails, henabled]
  have hrestored : restored r.fails p =
      if r.fails (.change p.id .clearChoice) then p₁ else p₁.apply .clearChoice := by
    rw [restored]
    simp only [p₁]
    cases r.fails (.change p.id (.setEnabled true)) <;>
      cases r.fails (.change p.id .clearChoice) <;> rfl
  rw [hrestored]
  split <;> rfl

lemma fanOut_of_stored (choice : ConnectChoice) (n : Nat) {q : Profile}
    (hq : r.store.profiles.get? q.id = some p) : fanOut choice (n, r) q =
      (if r.fails (.change q.id (.setChoice choice)) then n else n + 1,
        (change r q.id (.setChoice choice)).2) := by
  have hresult : (change r q.id (.setChoice choice)).1 =
      if r.fails (.change q.id (.setChoice choice)) then .error .storage else .ok () := by
    change (r.attempt (.change q.id (.setChoice choice)) (change · q.id (.setChoice choice))).1 = _
    cases hf : r.fails (.change q.id (.setChoice choice)) with
    | true => rw [Recorder.attempt_of_fails hf, if_pos rfl]
    | false =>
      rw [Recorder.attempt_of_not_fails hf, ProfileTable.change_of_stored hq,
        if_neg Bool.false_ne_true]
  rw [fanOut]
  cases hc : change r q.id (.setChoice choice) with
  | mk result r' =>
    rw [hc] at hresult
    cases hf : r.fails (.change q.id (.setChoice choice)) with
    | true =>
      obtain rfl : result = .error .storage := by simpa [hf] using hresult
      rfl
    | false =>
      obtain rfl : result = .ok () := by simpa [hf] using hresult
      rfl

lemma fst_foldl_fanOut (choice : ConnectChoice) {l : List Profile} (n : Nat)
    (hl : ∀ q ∈ l, ∃ p, r.store.profiles.get? q.id = some p) :
    (l.foldl (fanOut choice) (n, r)).1 =
      n + l.countP fun q => !r.fails (.change q.id (.setChoice choice)) := by
  induction l generalizing n r with
  | nil => rfl
  | cons q l ih =>
    obtain ⟨p, hp⟩ := hl q List.mem_cons_self
    have hrest : ∀ q' ∈ l, ∃ p', (change r q.id (.setChoice choice)).2.store.profiles.get? q'.id =
        some p' := by
      intro q' hq'
      obtain ⟨p', hp'⟩ := hl q' (List.mem_cons_of_mem _ hq')
      rw [Recorder.get?_change, hp']
      split
      · exact ⟨_, rfl⟩
      · exact ⟨_, rfl⟩
    rw [List.foldl_cons, fanOut_of_stored choice n hp, ih _ hrest, Recorder.fails_change,
      List.countP_cons]
    cases r.fails (.change q.id (.setChoice choice)) with
    | true => simp
    | false => simp; omega

lemma pick_of_stored (hp : r.store.profiles.get? id = some p) (wall : Millis) : pick r id wall =
    let state := ((reinstate r id p).store.profiles.values.filter
      fun q => isOverridden id p.key q && !q.ephemeral).foldl
        (fanOut ⟨p.key, wall⟩) (0, reinstate r id p)
    (some state.1, state.2) := by
  rw [← List.filter_filter, pick, Recorder.profile?_eq, hp]
  rfl

lemma get?_pick_of_fails (ht : r.store.WellFormed) (hp : r.store.profiles.get? id = some p)
    (wall : Millis) (i : NetworkId) :
    let choice : ConnectChoice := ⟨p.key, wall⟩
    (pick r id wall).2.store.profiles.get? i = (r.store.profiles.get? i).map fun q =>
      if i = id then restored r.fails q
      else if takes r.fails id choice q then q.apply (.setChoice choice)
      else q := by
  have hw := reinstate_writes r id p
  have hwf := ht.writes (Recorder.writes_store hw)
  rw [pick_of_stored hp]
  dsimp only
  rw [foldl_fanOut_snd, Recorder.get?_foldl_change_filter hwf, Recorder.fails_of_writes hw,
    get?_reinstate_of_fails ht hp]
  by_cases hi : i = id
  · have hself : isOverridden id p.key (restored r.fails p) = false := by
      simp [isOverridden, restored, ht.id_eq hp]
    rw [if_pos hi, hi, hp, Option.map_some, Option.map_some, hself, if_pos rfl]
    rfl
  · rw [if_neg hi]
    cases hq : r.store.profiles.get? i with
    | none => rfl
    | some q =>
      rw [Option.map_some, Option.map_some, if_neg hi, takes_eq, ht.id_eq hq]
      simp

lemma fst_pick_of_fails (ht : r.store.WellFormed) (hp : r.store.profiles.get? id = some p)
    (wall : Millis) : (pick r id wall).1 =
      some (r.store.profiles.values.countP (takes r.fails id ⟨p.key, wall⟩)) := by
  have hw := reinstate_writes r id p
  have hwf := ht.writes (Recorder.writes_store hw)
  have hstored : ∀ q ∈ (reinstate r id p).store.profiles.values.filter
      (fun q => isOverridden id p.key q && !q.ephemeral),
      ∃ p', (reinstate r id p).store.profiles.get? q.id = some p' := by
    intro q hq
    exact ⟨q, hwf.mem_values_iff.mp (List.mem_of_mem_filter hq)⟩
  -- The snapshot differs from the table before in the picked network alone, which never counts.
  have hsame : (reinstate r id p).store.profiles.view (takes r.fails id ⟨p.key, wall⟩) =
      r.store.profiles.view (takes r.fails id ⟨p.key, wall⟩) := by
    apply IdMap.view_congr
    intro i
    rw [get?_reinstate_of_fails ht hp]
    split
    · next hi =>
      rw [hi, hp, Option.map_some, Option.map_some]
      simp [takes, restored, ht.id_eq hp]
    · rfl
  rw [pick_of_stored hp, IdMap.countP_values, ← hsame, ← IdMap.countP_values]
  dsimp only
  rw [fst_foldl_fanOut _ _ hstored, Recorder.fails_of_writes hw, Nat.zero_add, List.countP_filter]
  congr 2
  funext q
  rw [takes_eq, Bool.and_comm]

lemma pick_again (ht : r.store.WellFormed) (hp : r.store.profiles.get? id = some p)
    (hf : ∀ i c, r.fails (.change i c) = false) (wall wall' : Millis) :
    pick (pick r id wall).2 id wall' = (some 0, (pick r id wall).2) := by
  let r' := (pick r id wall).2
  have hget := get?_pick_of_fails ht hp wall
  have hp' : r'.store.profiles.get? id = some (restored r.fails p) := by
    rw [hget, hp, Option.map_some, if_pos rfl]
  have hready : reinstate r' id (restored r.fails p) = r' := by
    simp [reinstate, restored, hf, Profile.isEnabled, Status.isEnabled]
  have hkey : (restored r.fails p).key = p.key := rfl
  have hnone : (r'.store.profiles.values.filter
      fun q => isOverridden id p.key q && !q.ephemeral) = [] := by
    rw [List.filter_eq_nil_iff]
    intro q hq
    obtain ⟨i, hi⟩ := IdMap.mem_values_iff.mp hq
    rw [hget] at hi
    obtain ⟨q₀, hq₀, rfl⟩ := Option.map_eq_some_iff.mp hi
    obtain rfl := ht.id_eq hq₀
    split
    · next hid => simp [isOverridden, restored, hid]
    · split
      · simp [isOverridden, Profile.apply, Status.apply]
      · next htakes => simpa [takes_eq, hf] using htakes
  change pick r' id wall' = (some 0, r')
  rw [pick_of_stored hp', hready, hkey, hnone]
  rfl

end Override

namespace Sample

def settled : List Operation :=
  [.add "home" .psk, .add "office" .psk, .add "shop" .psk, .add "gym" .psk, .add "lab" .psk,
    .select selector isDefault_selector (request .disconnected) 0]

def bundle : Recorder ProfileTable where
  store := Operation.runAll (settled ++
    [.write (.change 2 (.setSeen true)), .write (.change 4 (.setSeen true)),
      -- The shop was turned to home before, and home to the office.
      .write (.change 2 (.setChoice ⟨.derive home.ssid .psk, 5⟩)),
      .write (.change 0 (.setChoice ⟨.derive office.ssid .psk, 6⟩)),
      .write (.change 0 (.setEnabled false))]) .empty
  fails a := a = .change 0 .clearChoice ∨
    a = .change 4 (.setChoice ⟨.derive home.ssid .psk, 100⟩)

end Sample

namespace Override

open ProfileStore

variable {r : Recorder ProfileTable}

theorem pick_of_failing_writes (hr : r.store.Reachable) (id : NetworkId) (wall : Millis) :
    (r.store.profiles.get? id = none → pick r id wall = (none, r)) ∧
    ∀ p, r.store.profiles.get? id = some p →
      let choice : ConnectChoice := ⟨p.key, wall⟩
      let r' := (pick r id wall).2
      (pick r id wall).1 = some (r.store.profiles.values.countP (takes r.fails id choice)) ∧
      (∀ i, r'.store.profiles.get? i = (r.store.profiles.get? i).map fun q =>
        if i = id then restored r.fails q
        else if takes r.fails id choice q then
          { q with status := { q.status with choice := some choice } }
        else q) ∧
      r'.store.nextId = r.store.nextId ∧ r'.store.lastPick = r.store.lastPick ∧
      ((∀ i c, r.fails (.change i c) = false) → ∀ wall', pick r' id wall' = (some 0, r')) := by
  have ht := hr.wellFormed
  constructor
  · intro hnone
    rw [pick, Recorder.profile?_eq, hnone]
  · intro p hp choice r'
    obtain ⟨hnext, hlast⟩ := ProfileTable.counters_of_writes
      (Recorder.writes_store (pick_writes r id wall))
    exact ⟨fst_pick_of_fails ht hp wall, get?_pick_of_fails ht hp wall, hnext, hlast,
      fun hf wall' => pick_again ht hp hf wall wall'⟩

open Sample

theorem pick_of_failing_writes_bundle :
    let r' := (pick bundle 0 100).2
    (pick bundle 0 100).1 = some 1 ∧
      (r'.store.profiles.get? 0).map (fun q => (q.isEnabled, q.status.choice)) =
        some (true, some ⟨.derive office.ssid .psk, 6⟩) ∧
      (r'.store.profiles.get? 1).map (·.status.choice) =
        some (some ⟨.derive home.ssid .psk, 100⟩) ∧
      (r'.store.profiles.get? 2).map (·.status.choice) =
        some (some ⟨.derive home.ssid .psk, 5⟩) ∧
      [3, 4, 5].map r'.store.profiles.get? = [3, 4, 5].map bundle.store.profiles.get? ∧
      let lucky := { bundle with fails := fun _ => false }
      pick (pick lucky 0 100).2 0 200 = (some 0, (pick lucky 0 100).2) := by
  intro r'
  have hr : bundle.store.Reachable := ⟨_, rfl⟩
  have hhome : (bundle.store.profiles.get? 0).map (·.key) = some (.derive home.ssid .psk) := by
    decide +kernel
  obtain ⟨p, hp, hkey⟩ := Option.map_eq_some_iff.mp hhome
  obtain ⟨hcount, hget, -⟩ := (pick_of_failing_writes hr 0 100).2 p hp
  let lucky : Recorder ProfileTable := { bundle with fails := fun _ => false }
  obtain ⟨-, -, -, -, hagain⟩ := (pick_of_failing_writes (r := lucky) hr 0 100).2 p hp
  rw [hkey] at hcount hget
  refine ⟨?_, ?_, ?_, ?_, ?_, hagain (fun _ _ => rfl) 200⟩
  · rw [hcount]
    decide +kernel
  · rw [hget]
    decide +kernel
  · rw [hget]
    decide +kernel
  · rw [hget]
    decide +kernel
  · simp only [List.map_cons, List.map_nil, r', hget]
    decide +kernel

end Override

end WirelessSelection
