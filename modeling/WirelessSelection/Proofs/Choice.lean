import Mathlib.Data.List.Chain
import Mathlib.Data.List.Perm.Subperm
import WirelessSelection.Proofs.Invariant
import WirelessSelection.Proofs.Preference

/-! Only a pick hands choices out, and a network that holds one was last picked before the network
that the choice names. -/

namespace WirelessSelection

def Write.SetsNoChoice : Write → Prop
  | change _ (.setChoice _) => False
  | _ => True

def Operation.SetsNoChoice : Operation → Prop
  | write w => w.SetsNoChoice
  | _ => True

lemma Write.OfRound.setsNoChoice {w : Write} (h : w.OfRound) : w.SetsNoChoice := by
  cases w with
  | createEphemeral o => trivial
  | change id c => cases c <;> trivial

namespace Override

variable {t : ProfileTable} {u : NetworkId}

lemma choose_of_unknown (h : t.profiles.get? u = none) (wall : Millis) :
    choose t u wall = (false, [], t) := by
  rw [choose, pick, ProfileTable.profile?_eq, h]

lemma choose_of_stored {p : Profile} (h : t.profiles.get? u = some p) (wall : Millis) :
    (choose t u wall).1 = true := by
  rw [choose, pick, ProfileTable.profile?_eq, h]

lemma key_yielded (u : NetworkId) (choice : ConnectChoice) (p : Profile) :
    (yielded u choice p).key = p.key := by
  rw [yielded]
  split <;> rfl

lemma choice_yielded_cases {choice c : ConnectChoice} {p : Profile}
    (h : (yielded u choice p).status.choice = some c) : c = choice ∨ p.status.choice = some c := by
  rw [yielded] at h
  split at h
  · exact .inl (Option.some.inj h).symm
  · exact .inr h

end Override

namespace ProfileTable

variable {t t' t'' : ProfileTable}

structure Keeps (t t' : ProfileTable) : Prop where
  stored {i p} : t.profiles.get? i = some p → ∃ q, t'.profiles.get? i = some q ∧ q.key = p.key
  choice {i p c} : t'.profiles.get? i = some p → p.status.choice = some c →
    ∃ q, t.profiles.get? i = some q ∧ q.key = p.key ∧ q.status.choice = some c

namespace Keeps

lemma refl (t : ProfileTable) : Keeps t t where
  stored hp := ⟨_, hp, rfl⟩
  choice hp hc := ⟨_, hp, rfl, hc⟩

lemma trans (h : Keeps t t') (h' : Keeps t' t'') : Keeps t t'' where
  stored hp := by
    obtain ⟨q, hq, hk⟩ := h.stored hp
    obtain ⟨r, hr, hk'⟩ := h'.stored hq
    exact ⟨r, hr, hk'.trans hk⟩
  choice hp hc := by
    obtain ⟨q, hq, hk, hqc⟩ := h'.choice hp hc
    obtain ⟨r, hr, hk', hrc⟩ := h.choice hq hqc
    exact ⟨r, hr, hk'.trans hk, hrc⟩

lemma of_modify (id : NetworkId) {f : Profile → Profile} (hf : Harmless f)
    (hc : ∀ p c, (f p).status.choice = some c → p.status.choice = some c) :
    Keeps t { t with profiles := t.profiles.modify id f } where
  stored {i p} hp := by
    rw [IdMap.get?_modify, hp]
    split
    · exact ⟨f p, rfl, hf.key p⟩
    · exact ⟨p, rfl, rfl⟩
  choice hp hpc := by
    obtain ⟨q, hq, rfl | rfl⟩ := get?_modify_cases hp
    · exact ⟨q, hq, (hf.key q).symm, hc q _ hpc⟩
    · exact ⟨_, hq, rfl, hpc⟩

lemma of_append (ht : t.WellFormed) {p : Profile} (ha : t.append p = .ok t')
    (hc : p.status.choice = none) : Keeps t t' := by
  obtain ⟨-, rfl⟩ := append_eq_ok_iff.mp ha
  constructor
  case stored =>
    intro i q hq
    refine ⟨q, ?_, rfl⟩
    rw [IdMap.get?_insert, if_neg (UInt32.ne_of_lt (ht.lt_nextId hq)), hq]
  case choice =>
    intro i q c hq hqc
    rw [IdMap.get?_insert] at hq
    split at hq
    · rw [← Option.some.inj hq, hc] at hqc
      contradiction
    · exact ⟨q, hq, rfl, hqc⟩

lemma run_write (ht : t.WellFormed) {w : Write} (hw : w.SetsNoChoice) : Keeps t (w.run t) := by
  cases w with
  | change id c =>
    rw [Write.run, change_snd]
    refine of_modify id (harmless_apply c) ?_
    intro p choice h
    cases c with
    | setChoice => exact hw.elim
    | clearChoice => contradiction
    | recordCandidate | clearCandidate | setEnabled | setSeen => exact h
  | createEphemeral o =>
    obtain he | ⟨-, -, ha⟩ := createEphemeral_snd t o
    · rw [Write.run, he]
      exact refl t
    · exact of_append ht ha rfl

lemma of_writes (ht : t.WellFormed) (h : Writes Write.SetsNoChoice t t') : Keeps t t' := by
  induction h with
  | refl => exact refl t
  | tail hp hs ih =>
    obtain ⟨w, hw, rfl⟩ := hs
    exact ih.trans (run_write (ht.writes hp) hw)

end Keeps

lemma run_cases (ht : t.WellFormed) {op : Operation} (hop : op.SetsNoChoice) :
    (∃ u wall p, op = .choose u wall ∧ t.profiles.get? u = some p) ∨ (∃ id, op = .remove id) ∨
      Keeps t (op.run t) := by
  cases op with
  | add ssid security =>
    refine .inr (.inr ?_)
    obtain ⟨id, ha⟩ | ha := add_run_cases t ssid security
    · obtain ⟨name, -, ⟨slot, p, -, -, he⟩ | ⟨-, -, he⟩⟩ := add_cases ha
      · rw [he]
        exact .of_modify slot harmless_save fun _ _ h => h
      · exact .of_append ht he rfl
    · rw [ha]
      exact .refl t
  | remove id => exact .inr (.inl ⟨id, rfl⟩)
  | setAvailability id a =>
    rw [run_setAvailability]
    exact .inr (.inr (.of_modify id (harmless_setAvailability a) fun _ _ h => h))
  | markPicked id timestamp =>
    refine .inr (.inr ?_)
    rw [Operation.run, markPicked]
    split
    · exact ⟨fun hp => ⟨_, hp, rfl⟩, fun hp hc => ⟨_, hp, rfl, hc⟩⟩
    · exact .refl t
  | write w => exact .inr (.inr (.run_write ht hop))
  | select sel hd req now =>
    have hw := Selector.select_ofRound hd req now t
    exact .inr (.inr (.of_writes ht (hw.mono fun _ => Write.OfRound.setsNoChoice)))
  | choose u wall =>
    cases hu : t.profiles.get? u with
    | none =>
      rw [Operation.run, Override.choose_of_unknown hu]
      exact .inr (.inr (.refl t))
    | some p => exact .inl ⟨u, wall, p, rfl, hu⟩
  | reload =>
    rw [ht.reload]
    exact .inr (.inr (.refl t))

/-- With `last` as the turn of each key's last pick and `n` as the latest turn, every choice names a
key that was picked after the key of the profile that holds it. -/
structure Ranked (last : ProfileKey → ℕ) (n : ℕ) (t : ProfileTable) : Prop where
  le key : last key ≤ n
  lt {i p c} : t.profiles.get? i = some p → p.status.choice = some c → last p.key < last c.key

variable {last : ProfileKey → ℕ} {n : ℕ}

lemma Ranked.of_keeps (h : Ranked last n t) (hk : Keeps t t') : Ranked last n t' where
  le := h.le
  lt hp hc := by
    obtain ⟨q, hq, hkey, hqc⟩ := hk.choice hp hc
    rw [← hkey]
    exact h.lt hq hqc

lemma Ranked.remove (h : Ranked last n t) (id : NetworkId) : Ranked last n (t.remove id).2 where
  le := h.le
  lt hp hc := h.lt (get?_of_remove hp) hc

lemma Ranked.choose (h : Ranked last n t) (ht : t.WellFormed) {u : NetworkId} {p : Profile}
    (hp : t.profiles.get? u = some p) (wall : Millis) :
    Ranked (Function.update last p.key (n + 1)) (n + 1) (Override.choose t u wall).2.2 where
  le key := by
    rw [Function.update_apply]
    split
    · exact Nat.le_refl _
    · exact Nat.le_succ_of_le (h.le key)
  lt {i q c} hq hc := by
    rw [Override.get?_choose ht hp] at hq
    split at hq
    · -- The picked network holds no choice any more.
      rw [← Option.some.inj hq] at hc
      contradiction
    · next hi =>
      obtain ⟨q₀, hq₀, rfl⟩ := Option.map_eq_some_iff.mp hq
      have hne : q₀.key ≠ p.key := fun hk => hi (ht.key_injective hq₀ hp hk)
      rw [Override.key_yielded, Function.update_of_ne hne, Function.update_apply]
      split
      · exact Nat.lt_succ_of_le (h.le q₀.key)
      · next hkey =>
        obtain rfl | hc := Override.choice_yielded_cases hc
        · contradiction
        · exact h.lt hq₀ hc

/-- The tables that come about from an empty one while choices are left to picks. Evaluators may
write what they like, apart from choices. -/
inductive ArisesByPicks : ProfileTable → Prop
  | empty : ArisesByPicks .empty
  | operation {t : ProfileTable} (h : ArisesByPicks t) (op : Operation) (hop : op.SetsNoChoice) :
    ArisesByPicks (op.run t)
  | round {t : ProfileTable} (h : ArisesByPicks t) {sel : Selector ProfileTable}
    (hs : sel.Within Write.SetsNoChoice) (req : Request) (now : Millis) :
    ArisesByPicks (sel.select req now t).store

lemma ArisesByPicks.ranked (h : t.ArisesByPicks) :
    t.WellFormed ∧ ∃ last n, Ranked last n t := by
  induction h with
  | empty => exact ⟨empty_wellFormed, fun _ => 0, 0, fun _ => Nat.le_refl _, fun h => by contradiction⟩
  | @operation t _ op hop ih =>
    obtain ⟨ht, last, n, hr⟩ := ih
    refine ⟨ht.run_operation op, ?_⟩
    obtain ⟨u, wall, p, rfl, hp⟩ | ⟨id, rfl⟩ | hk := run_cases ht hop
    · exact ⟨_, _, hr.choose ht hp wall⟩
    · exact ⟨last, n, hr.remove id⟩
    · exact ⟨last, n, hr.of_keeps hk⟩
  | @round t _ sel hs req now ih =>
    obtain ⟨ht, last, n, hr⟩ := ih
    have hw := hs.select_writes (fun _ _ => trivial) req now t
    exact ⟨ht.writes hw, last, n, hr.of_keeps (.of_writes ht hw)⟩

lemma ArisesByPicks.runAll (h : t.ArisesByPicks) {ops : List Operation}
    (hops : ∀ op ∈ ops, op.SetsNoChoice) :
    (Operation.runAll ops t).ArisesByPicks := by
  induction ops generalizing t with
  | nil => exact h
  | cons op ops ih =>
    exact ih (.operation h op (hops op List.mem_cons_self))
      fun op' ho => hops op' (List.mem_cons_of_mem op ho)

def YieldsTo (t : ProfileTable) (p q : Profile) : Prop :=
  p ∈ t.profiles.values ∧ q ∈ t.profiles.values ∧ p.status.choice.map (·.key) = some q.key

instance (t : ProfileTable) (p q : Profile) : Decidable (t.YieldsTo p q) :=
  inferInstanceAs (Decidable (_ ∧ _ ∧ _))

lemma Ranked.lt_of_yieldsTo (h : Ranked last n t) {p q : Profile} (hy : t.YieldsTo p q) :
    last p.key < last q.key := by
  obtain ⟨hp, -, hc⟩ := hy
  obtain ⟨i, hi⟩ := IdMap.mem_values_iff.mp hp
  obtain ⟨c, hc, hk⟩ := Option.map_eq_some_iff.mp hc
  rw [← hk]
  exact h.lt hi hc

lemma Ranked.lt_of_transGen (h : Ranked last n t) {p q : Profile}
    (hy : Relation.TransGen t.YieldsTo p q) : last p.key < last q.key := by
  induction hy with
  | single hy => exact h.lt_of_yieldsTo hy
  | tail _ hy ih => exact Nat.lt_trans ih (h.lt_of_yieldsTo hy)

lemma Ranked.nodup_of_isChain (h : Ranked last n t) {path : List Profile}
    (hp : path.IsChain t.YieldsTo) : path.Nodup := by
  have hlt : path.IsChain fun p q => last p.key < last q.key :=
    hp.imp fun _ _ => h.lt_of_yieldsTo
  refine (List.isChain_iff_pairwise.mp hlt).imp ?_
  rintro p q hpq rfl
  exact Nat.lt_irrefl _ hpq

theorem yieldsTo_acyclic (h : t.ArisesByPicks) :
    (∀ p, ¬ Relation.TransGen t.YieldsTo p p) ∧
    (∀ p, ¬ t.YieldsTo p p) ∧
    (∀ p q, t.YieldsTo p q → ¬ t.YieldsTo q p) ∧
    ∀ path : List Profile, (∀ p ∈ path, p ∈ t.profiles.values) → path.IsChain t.YieldsTo →
      path.length ≤ t.profiles.values.length := by
  obtain ⟨-, last, n, hr⟩ := h.ranked
  refine ⟨?_, ?_, ?_, ?_⟩
  · intro p hp
    exact Nat.lt_irrefl _ (hr.lt_of_transGen hp)
  · intro p hp
    exact Nat.lt_irrefl _ (hr.lt_of_yieldsTo hp)
  · intro p q hpq hqp
    exact Nat.lt_asymm (hr.lt_of_yieldsTo hpq) (hr.lt_of_yieldsTo hqp)
  · intro path hstored hpath
    exact ((hr.nodup_of_isChain hpath).subperm hstored).length_le

def returned : List Operation :=
  [.add "home" .psk, .add "office" .psk, .add "cafe" .unsecured,
    .select Sample.selector Sample.isDefault_selector (Sample.request .disconnected) 0,
    .choose 1 5, .remove 1, .add "office" .psk,
    .select Sample.selector Sample.isDefault_selector
      { Sample.request .disconnected with scan := [Sample.office, Sample.cafe] } 10,
    .choose 2 15]

theorem yieldsTo_acyclic_returned :
    let t := Operation.runAll returned .empty
    let path := [0, 3, 2].filterMap t.profiles.get?
    path.map (·.id) = [0, 3, 2] ∧ path.IsChain t.YieldsTo ∧
      path.length ≤ t.profiles.values.length ∧ ∀ p ∈ path, ¬ Relation.TransGen t.YieldsTo p p := by
  intro t path
  have ht : t.ArisesByPicks := .runAll .empty (by simp [returned, Operation.SetsNoChoice])
  have hpath : path.IsChain t.YieldsTo := by decide
  obtain ⟨hcycle, -, -, hlength⟩ := yieldsTo_acyclic ht
  exact ⟨by decide, hpath, hlength path (by decide) hpath, fun p _ => hcycle p⟩

end ProfileTable

end WirelessSelection
