import WirelessSelection.Proofs.Selection

/-! Every observation of a scan is kept in its place or counted under the first reason to drop
it. -/

namespace WirelessSelection

namespace DropReason

def Applies (o : Observation) (blacklist : List Bssid) (settings : Settings) : DropReason → Prop
  | hidden => o.ssid.text = ""
  | blacklisted => o.bssid ∈ blacklist
  | lowSignal => ∃ th, settings.thresholds? o.band = some th ∧ o.rssi < th.floor

def place : DropReason → ℕ
  | hidden => 0
  | blacklisted => 1
  | lowSignal => 2

def IsFirst (r : DropReason) (o : Observation) (blacklist : List Bssid) (settings : Settings) :
    Prop :=
  r.Applies o blacklist settings ∧
    ∀ r' : DropReason, r'.Applies o blacklist settings → r.place ≤ r'.place

lemma place_injective : Function.Injective place := by
  rintro (_ | _ | _) (_ | _ | _) <;> simp [place]

lemma IsFirst.unique {r r' : DropReason} {o : Observation} {blacklist : List Bssid}
    {settings : Settings} (h : r.IsFirst o blacklist settings)
    (h' : r'.IsFirst o blacklist settings) : r = r' :=
  place_injective ((h.2 r' h'.1).antisymm (h'.2 r h.1))

end DropReason

namespace Observation

variable {o : Observation} {blacklist blacklist' : List Bssid} {settings settings' : Settings}

def IsUsable (o : Observation) (blacklist : List Bssid) (settings : Settings) : Prop :=
  o.ssid.text ≠ "" ∧ o.bssid ∉ blacklist ∧
    ∀ th, settings.thresholds? o.band = some th → th.floor ≤ o.rssi

lemma isBelowFloor_iff : o.isBelowFloor settings = true ↔
    ∃ th, settings.thresholds? o.band = some th ∧ o.rssi < th.floor := by
  rw [← Bool.not_eq_false, isBelowFloor_eq_false_iff]
  simp only [not_forall, Int32.not_le, exists_prop]

lemma isFirst_of_dropReason? {r : DropReason} (h : o.dropReason? blacklist settings = some r) :
    r.IsFirst o blacklist settings := by
  rw [dropReason?] at h
  split at h
  · next hhidden =>
    obtain rfl := Option.some.inj h
    exact ⟨String.isEmpty_iff.mp hhidden, fun r' _ => Nat.zero_le r'.place⟩
  split at h
  · next hshown hlisted =>
    obtain rfl := Option.some.inj h
    refine ⟨hlisted, fun r' hr' => ?_⟩
    cases r' with
    | hidden => exact absurd (String.isEmpty_iff.mpr hr') hshown
    | blacklisted => exact le_rfl
    | lowSignal => exact Nat.le_succ 1
  split at h
  · next hshown hunlisted hlow =>
    obtain rfl := Option.some.inj h
    refine ⟨isBelowFloor_iff.mp hlow, fun r' hr' => ?_⟩
    cases r' with
    | hidden => exact absurd (String.isEmpty_iff.mpr hr') hshown
    | blacklisted => exact absurd hr' hunlisted
    | lowSignal => exact le_rfl
  · contradiction

lemma isUsable_iff : o.IsUsable blacklist settings ↔
    ∀ r : DropReason, ¬ r.Applies o blacklist settings := by
  constructor
  · rintro ⟨hname, hunlisted, hfloor⟩ r
    cases r with
    | hidden => exact hname
    | blacklisted => exact hunlisted
    | lowSignal =>
      rintro ⟨th, hth, hlow⟩
      exact Int32.not_le.mpr hlow (hfloor th hth)
  · intro h
    refine ⟨h .hidden, h .blacklisted, fun th hth => ?_⟩
    by_contra hlow
    exact h .lowSignal ⟨th, hth, Int32.not_le.mp hlow⟩

lemma dropReason?_eq_some_iff {r : DropReason} :
    o.dropReason? blacklist settings = some r ↔ r.IsFirst o blacklist settings := by
  refine ⟨isFirst_of_dropReason?, fun h => ?_⟩
  cases hd : o.dropReason? blacklist settings with
  | none => exact absurd h.1 (isUsable_iff.mp (dropReason?_eq_none_iff.mp hd) r)
  | some r' => rw [(isFirst_of_dropReason? hd).unique h]

instance : Decidable (o.IsUsable blacklist settings) :=
  decidable_of_iff _ dropReason?_eq_none_iff

instance (r : DropReason) : Decidable (r.IsFirst o blacklist settings) :=
  decidable_of_iff _ dropReason?_eq_some_iff

lemma IsUsable.of_stricter (hlist : blacklist ⊆ blacklist')
    (hghz24 : settings.ghz24.floor ≤ settings'.ghz24.floor)
    (hghz5 : settings.ghz5.floor ≤ settings'.ghz5.floor)
    (h : o.IsUsable blacklist' settings') : o.IsUsable blacklist settings := by
  obtain ⟨hname, hunlisted, hfloor⟩ := h
  refine ⟨hname, fun hmem => hunlisted (hlist hmem), ?_⟩
  intro th hth
  cases hband : o.band with
  | ghz24 =>
    rw [hband] at hth hfloor
    obtain rfl := Option.some.inj hth
    exact Int32.le_trans hghz24 (hfloor _ rfl)
  | ghz5 =>
    rw [hband] at hth hfloor
    obtain rfl := Option.some.inj hth
    exact Int32.le_trans hghz5 (hfloor _ rfl)
  | other =>
    rw [hband] at hth
    contradiction

end Observation

namespace Screening

variable {scan : List Observation} {blacklist : List Bssid} {settings : Settings}

def empty : Screening := ⟨[], 0, 0, 0⟩

def count (s : Screening) : DropReason → ℕ
  | .hidden => s.hidden
  | .blacklisted => s.blacklisted
  | .lowSignal => s.lowSignal

def note (blacklist : List Bssid) (settings : Settings) (s : Screening) (o : Observation) :
    Screening :=
  match o.dropReason? blacklist settings with
  | none => { s with kept := s.kept ++ [o] }
  | some .hidden => { s with hidden := s.hidden + 1 }
  | some .blacklisted => { s with blacklisted := s.blacklisted + 1 }
  | some .lowSignal => { s with lowSignal := s.lowSignal + 1 }

def append (s s' : Screening) : Screening where
  kept := s.kept ++ s'.kept
  hidden := s.hidden + s'.hidden
  blacklisted := s.blacklisted + s'.blacklisted
  lowSignal := s.lowSignal + s'.lowSignal

lemma kept_ofScan (scan : List Observation) (blacklist : List Bssid) (settings : Settings) :
    (ofScan scan blacklist settings).kept = scan.filter (·.IsUsable blacklist settings) := by
  rw [ofScan]
  refine List.filter_congr fun o _ => ?_
  rw [decide_eq_decide]
  exact Observation.dropReason?_eq_none_iff

lemma count_ofScan (scan : List Observation) (blacklist : List Bssid) (settings : Settings)
    (r : DropReason) : (ofScan scan blacklist settings).count r =
      scan.countP fun o => r.IsFirst o blacklist settings := by
  have hfirst (o : Observation) : decide (r.IsFirst o blacklist settings) =
      decide (o.dropReason? blacklist settings = some r) := by
    rw [decide_eq_decide]
    exact Observation.dropReason?_eq_some_iff.symm
  simp only [hfirst]
  cases r <;> rfl

lemma ofScan_append (scan scan' : List Observation) (blacklist : List Bssid)
    (settings : Settings) : ofScan (scan ++ scan') blacklist settings =
      (ofScan scan blacklist settings).append (ofScan scan' blacklist settings) := by
  simp only [ofScan, append, List.filter_append, List.countP_append]

lemma append_ofScan_singleton (s : Screening) (o : Observation) :
    s.append (ofScan [o] blacklist settings) = s.note blacklist settings o := by
  rw [note, ofScan]
  cases h : o.dropReason? blacklist settings with
  | none => simp [append, h]
  | some r => cases r <;> simp [append, h]

lemma ofScan_eq_foldl (scan : List Observation) (blacklist : List Bssid) (settings : Settings) :
    ofScan scan blacklist settings = scan.foldl (note blacklist settings) empty := by
  induction scan using List.reverseRecOn with
  | nil => rfl
  | append_singleton scan o ih =>
    rw [ofScan_append, append_ofScan_singleton, ih, List.foldl_append]
    rfl

lemma length_note (s : Screening) (o : Observation) :
    (s.note blacklist settings o).kept.length + (s.note blacklist settings o).dropped =
      s.kept.length + s.dropped + 1 := by
  rw [note]
  cases o.dropReason? blacklist settings with
  | none =>
    simp only [dropped, List.length_append, List.length_singleton]
    omega
  | some r =>
    cases r <;> simp only [dropped] <;> omega

lemma length_ofScan (scan : List Observation) (blacklist : List Bssid) (settings : Settings) :
    (ofScan scan blacklist settings).kept.length + (ofScan scan blacklist settings).dropped =
      scan.length := by
  rw [ofScan_eq_foldl]
  induction scan using List.reverseRecOn with
  | nil => rfl
  | append_singleton scan o ih =>
    rw [List.foldl_append, List.foldl_cons, List.foldl_nil, length_note, ih, List.length_append]
    rfl

lemma foldl_note_of_isUsable {kept : List Observation}
    (h : ∀ o ∈ kept, o.IsUsable blacklist settings) (s : Screening) :
    kept.foldl (note blacklist settings) s = { s with kept := s.kept ++ kept } := by
  induction kept generalizing s with
  | nil => rw [List.foldl_nil, List.append_nil]
  | cons o kept ih =>
    have hreason := Observation.dropReason?_eq_none_iff.mpr (h o List.mem_cons_self)
    rw [List.foldl_cons, ih fun o' ho' => h o' (List.mem_cons_of_mem o ho'), note, hreason]
    simp

lemma ofScan_kept (scan : List Observation) (blacklist : List Bssid) (settings : Settings) :
    ofScan (ofScan scan blacklist settings).kept blacklist settings =
      { empty with kept := (ofScan scan blacklist settings).kept } := by
  rw [ofScan_eq_foldl (ofScan scan blacklist settings).kept]
  refine foldl_note_of_isUsable ?_ empty
  intro o ho
  rw [kept_ofScan] at ho
  exact of_decide_eq_true (List.mem_filter.mp ho).2

lemma kept_sublist_of_stricter {blacklist' : List Bssid} {settings' : Settings}
    (hlist : blacklist ⊆ blacklist') (hghz24 : settings.ghz24.floor ≤ settings'.ghz24.floor)
    (hghz5 : settings.ghz5.floor ≤ settings'.ghz5.floor) (scan : List Observation) :
    (ofScan scan blacklist' settings').kept.Sublist (ofScan scan blacklist settings).kept := by
  rw [kept_ofScan, kept_ofScan]
  refine List.monotone_filter_right scan fun o ho => ?_
  exact decide_eq_true ((of_decide_eq_true ho).of_stricter hlist hghz24 hghz5)

theorem ofScan_accounts (scan : List Observation) (blacklist : List Bssid) (settings : Settings) :
    let s := ofScan scan blacklist settings
    s = scan.foldl (note blacklist settings) empty ∧
      s.kept = scan.filter (·.IsUsable blacklist settings) ∧
      (∀ r, s.count r = scan.countP fun o => r.IsFirst o blacklist settings) ∧
      s.kept.length + s.dropped = scan.length ∧
      (∀ scan', ofScan (scan ++ scan') blacklist settings =
        s.append (ofScan scan' blacklist settings)) ∧
      ofScan s.kept blacklist settings = { empty with kept := s.kept } ∧
      ∀ blacklist' settings', blacklist ⊆ blacklist' →
        settings.ghz24.floor ≤ settings'.ghz24.floor →
        settings.ghz5.floor ≤ settings'.ghz5.floor →
        (ofScan scan blacklist' settings').kept.Sublist s.kept := by
  intro s
  refine ⟨ofScan_eq_foldl scan blacklist settings, kept_ofScan scan blacklist settings,
    count_ofScan scan blacklist settings, length_ofScan scan blacklist settings, ?_,
    ofScan_kept scan blacklist settings, ?_⟩
  · intro scan'
    exact ofScan_append scan scan' blacklist settings
  · intro blacklist' settings' hlist hghz24 hghz5
    exact kept_sublist_of_stricter hlist hghz24 hghz5 scan

def street : List Observation :=
  [Sample.home, Sample.observation ⟨"", by decide⟩ 4 (-90) .psk, Sample.office,
    Sample.observation ⟨"far", by decide⟩ 5 (-86) .psk, Sample.cafe]

def streetBlacklist : List Bssid :=
  [⟨#v[2, 0, 0, 0, 0, 4]⟩, Sample.office.bssid]

theorem ofScan_accounts_street :
    let s := ofScan street streetBlacklist {}
    let strict : Settings := { ghz24 := { floor := -65, qualified := -60, saturated := -50 } }
    s = ⟨[Sample.home, Sample.cafe], 1, 1, 1⟩ ∧ s.kept.length + s.dropped = 5 ∧
      ofScan s.kept streetBlacklist {} = ⟨[Sample.home, Sample.cafe], 0, 0, 0⟩ ∧
      streetBlacklist ⊆ Sample.home.bssid :: streetBlacklist ∧
      (({} : Settings).ghz24.floor ≤ strict.ghz24.floor) ∧
      (ofScan street (Sample.home.bssid :: streetBlacklist) strict).kept.Sublist s.kept := by
  intro s strict
  have hs : s = ⟨[Sample.home, Sample.cafe], 1, 1, 1⟩ := by decide
  have hlist : streetBlacklist ⊆ Sample.home.bssid :: streetBlacklist := List.subset_cons_self _ _
  obtain ⟨-, -, -, hlength, -, hagain, hstrict⟩ := ofScan_accounts street streetBlacklist {}
  refine ⟨hs, hlength, ?_, hlist, by decide, hstrict _ strict hlist (by decide) (by decide)⟩
  exact hagain.trans (congrArg (fun s => { empty with kept := s.kept }) hs)

end Screening

end WirelessSelection
