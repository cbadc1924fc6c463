import Mathlib.Data.List.Basic
import WirelessSelection.Radio.Bssid

namespace WirelessSelection

namespace Hex

def IsDigit (c : Char) : Prop :=
  c ∈ "0123456789abcdefABCDEF".toList

instance (c : Char) : Decidable (IsDigit c) :=
  inferInstanceAs (Decidable (c ∈ _))

lemma exists_value? {c : Char} (h : IsDigit c) : ∃ n, value? c = some n := by
  have hall : "0123456789abcdefABCDEF".toList.all (fun c => (value? c).isSome) = true := by decide
  exact Option.isSome_iff_exists.mp (List.all_eq_true.mp hall c h)

lemma toNat_lt_of_value? {c : Char} {n : ℕ} (h : value? c = some n) : c.toNat < 128 := by
  have hle (d : Char) (hd : d.toNat < 128) (hc : c ≤ d) : c.toNat < 128 :=
    Nat.lt_of_le_of_lt hc hd
  rw [value?] at h
  split at h
  · next hc => exact hle '9' (by decide) hc.2
  split at h
  · next hc => exact hle 'f' (by decide) hc.2
  split at h
  · next hc => exact hle 'F' (by decide) hc.2
  · contradiction

lemma of_value? {c : Char} {n : ℕ} (h : value? c = some n) :
    IsDigit c ∧ n < 16 ∧ digit n = c.toLower := by
  have hall : ∀ k : Fin 128, ∀ n ∈ value? (Char.ofNat k),
      IsDigit (Char.ofNat k) ∧ n < 16 ∧ digit n = (Char.ofNat k).toLower := by decide
  have hc := hall ⟨c.toNat, toNat_lt_of_value? h⟩ n
  rw [Char.ofNat_toNat] at hc
  exact hc h

def IsPair (g : List Char) : Prop :=
  g.length = 2 ∧ ∀ c ∈ g, IsDigit c

lemma of_pair? {a b : Char} {o : UInt8} (h : pair? a b = some o) :
    IsPair [a, b] ∧ pair o = [a, b].map Char.toLower := by
  obtain ⟨m, ha, h⟩ := Option.bind_eq_some_iff.mp h
  obtain ⟨n, hb, h⟩ := Option.bind_eq_some_iff.mp h
  obtain ⟨hda, hm, hma⟩ := of_value? ha
  obtain ⟨hdb, hn, hnb⟩ := of_value? hb
  have ho : o.toNat = 16 * m + n := by
    rw [← Option.some.inj h, UInt8.toNat_ofNat_of_lt' (by simp only [UInt8.size]; omega)]
  refine ⟨⟨rfl, by simp [hda, hdb]⟩, ?_⟩
  have hhigh : (16 * m + n) / 16 = m := by omega
  have hlow : (16 * m + n) % 16 = n := by omega
  rw [pair, ho, hhigh, hlow, hma, hnb]
  rfl

lemma exists_pair? {a b : Char} (h : IsPair [a, b]) : ∃ o, pair? a b = some o := by
  obtain ⟨m, ha⟩ := exists_value? (h.2 a List.mem_cons_self)
  obtain ⟨n, hb⟩ := exists_value? (h.2 b (List.mem_cons_of_mem a List.mem_cons_self))
  exact ⟨_, by rw [pair?, ha, hb]; rfl⟩

end Hex

namespace Bssid

lemma groups_of_octets? {l : List Char} {os : List UInt8} (h : octets? l = some os) :
    ∃ groups : List (List Char), groups ≠ [] ∧ (∀ g ∈ groups, Hex.IsPair g) ∧
      l = [':'].intercalate groups ∧ os.map Hex.pair = groups.map (List.map Char.toLower) := by
  fun_induction octets? l generalizing os with
  | case1 a b =>
    obtain ⟨o, ho, h⟩ := Option.bind_eq_some_iff.mp h
    obtain rfl := Option.some.inj h
    obtain ⟨hpair, hlower⟩ := Hex.of_pair? ho
    exact ⟨[[a, b]], by simp, by simpa using hpair, by simp, by simp [hlower]⟩
  | case2 a b rest ih =>
    obtain ⟨o, ho, h⟩ := Option.bind_eq_some_iff.mp h
    obtain ⟨os', hos', h⟩ := Option.bind_eq_some_iff.mp h
    obtain rfl := Option.some.inj h
    obtain ⟨hpair, hlower⟩ := Hex.of_pair? ho
    obtain ⟨groups, hne, hpairs, rfl, hlowers⟩ := ih hos'
    refine ⟨[a, b] :: groups, by simp, ?_, ?_, ?_⟩
    · exact List.forall_mem_cons.mpr ⟨hpair, hpairs⟩
    · rw [List.intercalate_cons_of_ne_nil hne]
      rfl
    · rw [List.map_cons, List.map_cons, hlower, hlowers]
  | case3 => contradiction

lemma exists_octets? {groups : List (List Char)} (hne : groups ≠ [])
    (hpairs : ∀ g ∈ groups, Hex.IsPair g) :
    ∃ os, octets? ([':'].intercalate groups) = some os ∧ os.length = groups.length := by
  induction groups with
  | nil => contradiction
  | cons g groups ih =>
    obtain ⟨hg, hrest⟩ := List.forall_mem_cons.mp hpairs
    obtain ⟨a, b, rfl⟩ := List.length_eq_two.mp hg.1
    obtain ⟨o, ho⟩ := Hex.exists_pair? hg
    cases groups with
    | nil =>
      refine ⟨[o], ?_, rfl⟩
      rw [List.intercalate_singleton, octets?, ho]
      rfl
    | cons g' groups =>
      obtain ⟨os, hos, hlength⟩ := ih (List.cons_ne_nil g' groups) hrest
      refine ⟨o :: os, ?_, congrArg (· + 1) hlength⟩
      rw [List.intercalate_cons_cons, List.append_assoc]
      simp only [List.cons_append, List.nil_append, octets?, ho, hos]
      rfl

lemma ofOctets?_eq_some_iff {os : List UInt8} {b : Bssid} :
    ofOctets? os = some b ↔ os = b.octets.toList := by
  constructor
  · intro h
    rw [ofOctets?] at h
    split at h
    · obtain rfl := Option.some.inj h
      rfl
    · contradiction
  · rintro rfl
    exact ofOctets?_toList b

lemma ofString?_eq_some_iff {s : String} {b : Bssid} :
    ofString? s = some b ↔ octets? s.toList = some b.octets.toList := by
  rw [ofString?]
  constructor
  · intro h
    obtain ⟨os, hos, hb⟩ := Option.bind_eq_some_iff.mp h
    rw [hos, ofOctets?_eq_some_iff.mp hb]
  · intro h
    exact Option.bind_eq_some_iff.mpr ⟨_, h, ofOctets?_toList b⟩

lemma parse_eq_ok_iff {s : String} {b : Bssid} : parse s = .ok b ↔ ofString? s = some b := by
  rw [parse]
  cases ofString? s <;> simp

lemma parse_eq_error_iff {s : String} : parse s = .error .invalidBssid ↔ ofString? s = none := by
  rw [parse]
  cases ofString? s <;> simp

def IsSpelling (s : String) : Prop :=
  ∃ groups : List (List Char), groups.length = 6 ∧ (∀ g ∈ groups, Hex.IsPair g) ∧
    s.toList = [':'].intercalate groups

lemma map_toLower_intercalate (groups : List (List Char)) :
    ([':'].intercalate groups).map Char.toLower =
      [':'].intercalate (groups.map (List.map Char.toLower)) := by
  induction groups with
  | nil => rfl
  | cons g groups ih =>
    cases groups with
    | nil => simp
    | cons g' groups =>
      rw [List.intercalate_cons_cons, List.map_append, List.map_append, ih]
      exact List.intercalate_cons_cons.symm

lemma of_ofString? {s : String} {b : Bssid} (h : ofString? s = some b) :
    IsSpelling s ∧ b.text = s.toLower := by
  obtain ⟨groups, -, hpairs, hs, hlower⟩ := groups_of_octets? (ofString?_eq_some_iff.mp h)
  constructor
  · have hlength := congrArg List.length hlower
    rw [List.length_map, List.length_map, Vector.length_toList] at hlength
    exact ⟨groups, hlength.symm, hpairs, hs⟩
  · rw [text, chars, hlower, ← map_toLower_intercalate, ← hs, ← String.toList_map,
      String.ofList_toList]
    rfl

lemma exists_ofString? {s : String} (h : IsSpelling s) : ∃ b, ofString? s = some b := by
  obtain ⟨groups, hlength, hpairs, hs⟩ := h
  have hne : groups ≠ [] := List.ne_nil_of_length_pos (by omega)
  obtain ⟨os, hos, hsize⟩ := exists_octets? hne hpairs
  rw [ofString?, hs, hos]
  exact ⟨_, dif_pos (hsize.trans hlength)⟩

lemma text_injective : Function.Injective text := by
  intro b b' h
  have hb := ofString?_text b
  rw [h, ofString?_text] at hb
  exact (Option.some.inj hb).symm

theorem parse_exact (s : String) (b : Bssid) :
    ((∃ b', parse s = .ok b') ↔ IsSpelling s) ∧
      (parse s = .ok b ↔ IsSpelling s ∧ b.text = s.toLower) ∧
      (parse s = .error .invalidBssid ↔ ¬ IsSpelling s) ∧
      parse b.text = .ok b ∧ Function.Injective text := by
  have hexists : (∃ b', ofString? s = some b') ↔ IsSpelling s :=
    ⟨fun ⟨_, h⟩ => (of_ofString? h).1, exists_ofString?⟩
  simp only [parse_eq_ok_iff, parse_eq_error_iff]
  refine ⟨hexists, ⟨of_ofString?, ?_⟩, ?_, ofString?_text b, text_injective⟩
  · rintro ⟨hs, htext⟩
    obtain ⟨b', hb'⟩ := exists_ofString? hs
    rwa [← text_injective ((of_ofString? hb').2.trans htext.symm)]
  · rw [← hexists, ← Option.isSome_iff_exists, Option.not_isSome_iff_eq_none]

end Bssid

end WirelessSelection
