import WirelessSelection.Proofs.Invariant

/-! Profiles are told apart by name and security, and no name can be made to look like another one
with other security. -/

namespace WirelessSelection

namespace Ssid

lemma text_inj {s s' : Ssid} : s.text = s'.text ↔ s = s' := by
  cases s
  cases s'
  rw [mk.injEq]

lemma parse_text (s : Ssid) : parse s.text = .ok s := by
  rw [parse, ofString?, dif_pos s.size_le]

lemma text_of_parse {name : String} {s : Ssid} (h : parse name = .ok s) : s.text = name := by
  rw [parse, ofString?] at h
  by_cases hn : name.utf8ByteSize ≤ 32
  · rw [dif_pos hn] at h
    rw [← Except.ok.inj h]
  · rw [dif_neg hn] at h
    contradiction

end Ssid

namespace Security

lemma eq_of_keyManagement_suffix {a b : Security}
    (h : a.keyManagement.toList <:+ b.keyManagement.toList) : a = b := by
  revert h
  cases a <;> cases b <;> decide

end Security

namespace ProfileKey

variable {a b : Security}

lemma textOf_inj {s s' : String} : textOf s a = textOf s' b ↔ s = s' ∧ a = b := by
  have hsuffix (s : String) (a : Security) : a.keyManagement.toList <:+ (textOf s a).toList := by
    rw [textOf, String.toList_append]
    exact List.suffix_append _ _
  constructor
  · intro h
    -- Names are not escaped, but the key management at the end gives away where a name ends.
    have hab : a = b := by
      obtain hab | hba := List.suffix_or_suffix_of_suffix (hsuffix s a) (h ▸ hsuffix s' b)
      · exact Security.eq_of_keyManagement_suffix hab
      · exact (Security.eq_of_keyManagement_suffix hba).symm
    subst hab
    rw [textOf, textOf, String.append_left_inj, String.append_left_inj,
      String.append_right_inj] at h
    exact ⟨h, rfl⟩
  · rintro ⟨rfl, rfl⟩
    rfl

lemma derive_inj {s s' : Ssid} : derive s a = derive s' b ↔ s = s' ∧ a = b := by
  rw [derive, derive, mk.injEq, textOf_inj, Ssid.text_inj]

end ProfileKey

lemma Profile.isMatch_iff {p : Profile} {o : Observation} :
    p.isMatch o = true ↔ p.ssid = o.ssid ∧ p.security = .ofCapabilities o.capabilities := by
  rw [isMatch, decide_eq_true_eq]
  exact ProfileKey.derive_inj

namespace ProfileTable

variable {t t' : ProfileTable} {name : String} {security : Security} {id : NetworkId}
  {p q : Profile}

structure Identifies (t : ProfileTable) (name : String) (security : Security) (p : Profile) :
    Prop where
  mem : p ∈ t.profiles.values
  text_eq : p.ssid.text = name
  security_eq : p.security = security

structure Promotes (t : ProfileTable) (p : Profile) (t' : ProfileTable) : Prop where
  saved : t'.profiles.get? p.id = some { p with ephemeral := false }
  others {i} : i ≠ p.id → t'.profiles.get? i = t.profiles.get? i
  nextId : t'.nextId = t.nextId
  lastPick : t'.lastPick = t.lastPick

lemma modify_save_of_saved (hp : t.profiles.get? id = some p) (hsaved : p.ephemeral = false) :
    t.profiles.modify id (fun q => { q with ephemeral := false }) = t.profiles := by
  apply IdMap.modify_eq_self
  intro q hq
  rw [← Option.some.inj (hp.symm.trans hq), ← hsaved]

lemma Identifies.unique (ht : t.WellFormed) (hp : t.Identifies name security p)
    (hq : t.Identifies name security q) : p = q := by
  have hp' := ht.mem_values_iff.mp hp.mem
  have hq' := ht.mem_values_iff.mp hq.mem
  have hkey : p.key = q.key := by
    rw [Profile.key, Profile.key, ProfileKey.derive_inj, ← Ssid.text_inj, hp.text_eq, hq.text_eq,
      hp.security_eq, hq.security_eq]
    exact ⟨rfl, rfl⟩
  rw [ht.key_injective hp' hq' hkey, hq'] at hp'
  exact (Option.some.inj hp').symm

lemma WellFormed.resolve_iff_identifies (ht : t.WellFormed) {o : Observation} :
    t.resolve o = some p ↔ t.Identifies o.ssid.text (.ofCapabilities o.capabilities) p := by
  rw [ht.resolve_eq_some_iff, Profile.isMatch_iff, ← ht.mem_values_iff, ← Ssid.text_inj]
  constructor
  · rintro ⟨hmem, htext, hsecurity⟩
    exact ⟨hmem, htext, hsecurity⟩
  · intro h
    exact ⟨h.mem, h.text_eq, h.security_eq⟩

lemma Identifies.add_eq (ht : t.WellFormed) (h : t.Identifies name security p) :
    t.add name security = .ok (p.id,
      { t with profiles := t.profiles.modify p.id fun q => { q with ephemeral := false } }) := by
  obtain ⟨hmem, rfl, rfl⟩ := h
  have hfind : t.find? (.derive p.ssid p.security) = some (p.id, p) :=
    ht.find?_eq_some_iff.mpr ⟨ht.mem_values_iff.mp hmem, rfl⟩
  rw [add, Profile.create, Ssid.parse_text]
  simp only [bind, Except.bind, pure, Except.pure, Profile.key, hfind]

lemma Identifies.promotes (ht : t.WellFormed) (h : t.Identifies name security p) : t.Promotes p
    { t with profiles := t.profiles.modify p.id fun q => { q with ephemeral := false } } where
  saved := by rw [IdMap.get?_modify, if_pos rfl, ht.mem_values_iff.mp h.mem, Option.map_some]
  others hi := by rw [IdMap.get?_modify, if_neg hi]
  nextId := rfl
  lastPick := rfl

lemma identifies_of_find? {ssid : Ssid} {slot : NetworkId} (hname : Ssid.parse name = .ok ssid)
    (h : t.find? (.derive ssid security) = some (slot, p)) : t.Identifies name security p := by
  obtain ⟨hget, hkey⟩ := get?_of_find? h
  obtain ⟨rfl, hsecurity⟩ := ProfileKey.derive_inj.mp hkey
  exact ⟨IdMap.mem_values_iff.mpr ⟨slot, hget⟩, Ssid.text_of_parse hname, hsecurity⟩

lemma WellFormed.identifies_of_add (ht : t.WellFormed) (h : t.add name security = .ok (id, t')) :
    ∃ p, t'.Identifies name security p ∧ p.id = id ∧ p.ephemeral = false := by
  have ht' := ht.add h
  obtain ⟨ssid, hname, ⟨slot, q, hfind, rfl, rfl⟩ | ⟨-, rfl, happend⟩⟩ := add_cases h
  · have hq := identifies_of_find? hname hfind
    obtain rfl := ht.id_eq (get?_of_find? hfind).1
    exact ⟨{ q with ephemeral := false },
      ⟨ht'.mem_values_iff.mpr (hq.promotes ht).saved, hq.text_eq, hq.security_eq⟩, rfl, rfl⟩
  · obtain ⟨-, rfl⟩ := append_eq_ok_iff.mp happend
    refine ⟨{ id := t.nextId, ssid, security },
      ⟨ht'.mem_values_iff.mpr ?_, Ssid.text_of_parse hname, rfl⟩, rfl, rfl⟩
    rw [IdMap.get?_insert, if_pos rfl]

lemma WellFormed.add_again (ht : t.WellFormed) (h : t.add name security = .ok (id, t')) :
    t'.add name security = .ok (id, t') := by
  have ht' := ht.add h
  obtain ⟨p, hp, rfl, hsaved⟩ := ht.identifies_of_add h
  rw [hp.add_eq ht', modify_save_of_saved (ht'.mem_values_iff.mp hp.mem) hsaved]

lemma WellFormed.reuses_iff (ht : t.WellFormed) :
    (∃ id t', t.add name security = .ok (id, t') ∧ id ∈ t.profiles.keys) ↔
      ∃ p, t.Identifies name security p := by
  constructor
  · rintro ⟨id, t', h, hold⟩
    obtain ⟨ssid, hname, ⟨slot, q, hfind, -, -⟩ | ⟨-, rfl, -⟩⟩ := add_cases h
    · exact ⟨q, identifies_of_find? hname hfind⟩
    · exact absurd (ht.hasFreshId _ hold) (UInt32.lt_irrefl _)
  · rintro ⟨p, hp⟩
    refine ⟨p.id, _, hp.add_eq ht, IdMap.mem_keys_iff.mpr ?_⟩
    rw [ht.mem_values_iff.mp hp.mem]
    rfl

theorem identified_by_name_and_security :
    (∀ (s s' : String) (a b : Security), ProfileKey.textOf s a = ProfileKey.textOf s' b →
      s = s' ∧ a = b) ∧
    ∀ t : ProfileTable, t.Arises →
      (∀ o p, ProfileStore.resolve t o = .ok (some p) ↔
        ∀ q, t.Identifies o.ssid.text (.ofCapabilities o.capabilities) q ↔ q = p) ∧
      ∀ name security,
        ((∃ id t', t.add name security = .ok (id, t') ∧ id ∈ t.profiles.keys) ↔
          ∃ p, t.Identifies name security p) ∧
        (∀ p, t.Identifies name security p →
          ∃ t', t.add name security = .ok (p.id, t') ∧ t.Promotes p t') ∧
        ∀ id t', t.add name security = .ok (id, t') → t'.add name security = .ok (id, t') := by
  refine ⟨fun s s' a b => ProfileKey.textOf_inj.mp, ?_⟩
  intro t harises
  have ht := harises.reachable.wellFormed
  refine ⟨?_, fun name security => ⟨ht.reuses_iff, ?_, fun id t' => ht.add_again⟩⟩
  · intro o p
    rw [resolve_eq, Except.ok.injEq, ht.resolve_iff_identifies]
    constructor
    · intro hp q
      exact ⟨fun hq => hq.unique ht hp, fun hq => hq ▸ hp⟩
    · intro h
      exact (h p).mpr rfl
  · intro p hp
    exact ⟨_, hp.add_eq ht, hp.promotes ht⟩

def imposter : Observation :=
  Sample.observation ⟨"home\"WPA_PSK", by decide⟩ 4 (-40) .none

theorem identified_by_name_and_security_imposter :
    let t := (Operation.write (.createEphemeral imposter)).run Sample.table
    let p : Profile := { id := 2, ssid := imposter.ssid, security := .unsecured, ephemeral := true }
    t.profiles.keys = [0, 1, 2] ∧ ProfileStore.resolve t imposter = .ok (some p) ∧
      ProfileStore.resolve t Sample.home = .ok (t.profiles.get? 0) ∧
      ¬ (∃ p, t.Identifies "home\"WPA_PSK" .psk p) ∧
      ∃ t', t.add "home\"WPA_PSK" .unsecured = .ok (2, t') ∧ t.Promotes p t' ∧
        t'.add "home\"WPA_PSK" .unsecured = .ok (2, t') := by
  intro t p
  have ht : t.Arises :=
    .operation (.operation (.operation .empty (.add "home" .psk)) (.add "office" .psk)) _
  obtain ⟨hresolve, hadd⟩ := identified_by_name_and_security.2 t ht
  have hp : ProfileStore.resolve t imposter = .ok (some p) := by decide
  refine ⟨by decide, hp, by decide, ?_, ?_⟩
  · rw [← (hadd _ _).1]
    rintro ⟨id, t', hnew, hold⟩
    have hid : (t.add "home\"WPA_PSK" .psk).map Prod.fst = .ok 3 := by decide
    rw [hnew, Except.map, Except.ok.injEq] at hid
    obtain rfl : id = 3 := hid
    exact absurd hold (by decide)
  · obtain ⟨-, hpromotes, hagain⟩ := hadd "home\"WPA_PSK" .unsecured
    obtain ⟨t', ht', hchanged⟩ := hpromotes p (((hresolve imposter p).mp hp p).mpr rfl)
    exact ⟨t', ht', hchanged, hagain 2 t' ht'⟩

end ProfileTable

end WirelessSelection
