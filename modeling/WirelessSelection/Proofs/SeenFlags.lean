import WirelessSelection.Proofs.Operation
import WirelessSelection.Proofs.Verdict

/-! The seen flags of a table say at any time which profiles were connectable in the last completed
round. -/

namespace WirelessSelection

open ProfileTable

lemma get?_refreshSeen {t : ProfileTable} (ht : t.WellFormed) (connectable : List Pairing)
    (i : NetworkId) : (Selector.refreshSeen connectable t).profiles.get? i =
      (t.profiles.get? i).map
        (·.apply (.setSeen (decide (i ∈ connectable.map (·.profile.id))))) := by
  let ids := sortedIds (connectable.map (·.profile.id))
  let marked := ids.foldl (fun t i => (ProfileStore.change t i (.setSeen true)).2) t
  have hids : i ∈ ids ↔ i ∈ connectable.map (·.profile.id) := mem_sortedIds
  have hmarked : marked.profiles.get? i = if i ∈ ids then
      (t.profiles.get? i).map (·.apply (.setSeen true)) else t.profiles.get? i := by
    have hg := get?_foldl_change (fun i => i) (.setSeen true) ids t i
    rwa [List.map_id'] at hg
  have hwrites : Writes (fun _ => True) t marked :=
    Writes.foldl (fun t => t) (fun s i _ => Writes.change s i (.setSeen true) trivial) t
  have hw : marked.WellFormed := ht.writes hwrites
  refine (hw.get?_foldl_change (fun p => p.status.seen && p.id ∉ ids) (.setSeen false) i).trans ?_
  rw [hmarked]
  cases hp : t.profiles.get? i with
  | none => simp
  | some p =>
    obtain rfl := ht.id_eq hp
    by_cases hi : p.id ∈ ids
    · rw [if_pos hi, decide_eq_true (hids.mp hi), Option.map_some, Option.map_some, if_neg]
      simp [Profile.apply, hi]
    · rw [if_neg hi, decide_eq_false (fun h => hi (hids.mpr h)), Option.map_some, Option.map_some]
      by_cases hs : p.status.seen = true
      · rw [if_pos (by simp [hs, hi])]
      · have hsame : p.apply (.setSeen false) = p := by
          rw [← eq_false_of_ne_true hs]
          rfl
        rw [if_neg (by simp [hs]), hsame]

lemma seen_select {sel : Selector ProfileTable} (h : sel.IsDefault) {t : ProfileTable}
    (ht : t.WellFormed) {req : Request} {now : Millis}
    (hc : (sel.select req now t).isCompleted = true) :
    (∀ q ∈ (sel.select req now t).memory.connectable,
      ∃ p, (sel.select req now t).store.profiles.get? q.profile.id = some p) ∧
    ∀ i p, (sel.select req now t).store.profiles.get? i = some p → (p.status.seen = true ↔
      i ∈ (sel.select req now t).memory.connectable.map (·.profile.id)) := by
  have hup := ht.writes (h.within.update_writes req.scan t)
  have hw := hup.writes (h.within.evaluate_writes (sel.usable req) (sel.context req now) _)
  have hget := get?_refreshSeen hw (sel.panel.evaluate (sel.usable req) (sel.context req now)
    (sel.panel.update req.scan t)).1.connectable
  rw [Selector.select_of_isCompleted hc, Selector.complete_store]
  constructor
  · intro q hq
    obtain ⟨p, hp, -⟩ := (h.backed_of_mem hup hq).1.stored
    exact ⟨_, by rw [hget, hp]; rfl⟩
  · intro i p hp
    rw [hget] at hp
    obtain ⟨p₀, -, rfl⟩ := Option.map_eq_some_iff.mp hp
    exact decide_eq_true_iff

structure SeenKept (t t' : ProfileTable) : Prop where
  nextId_le : t.nextId ≤ t'.nextId
  seen {i p} : t'.profiles.get? i = some p →
    (∃ q, t.profiles.get? i = some q ∧ q.status.seen = p.status.seen) ∨
      t.nextId ≤ i ∧ p.status.seen = false

namespace SeenKept

variable {t t' : ProfileTable}

lemma refl (t : ProfileTable) : SeenKept t t where
  nextId_le := UInt32.le_refl _
  seen hp := .inl ⟨_, hp, rfl⟩

lemma of_view (hn : t'.nextId = t.nextId)
    (hv : t'.profiles.view (·.status.seen) = t.profiles.view (·.status.seen)) : SeenKept t t' where
  nextId_le := hn ▸ UInt32.le_refl _
  seen {i p} hp := by
    have hm : (i, p.status.seen) ∈ t.profiles.view (·.status.seen) := by
      rw [← hv]
      exact IdMap.mem_view.mpr ⟨p, hp, rfl⟩
    exact .inl (IdMap.mem_view.mp hm)

lemma of_writes {allowed : Change → Prop}
    (h : ∀ c, allowed c → ∀ p : Profile, (p.apply c).status.seen = p.status.seen)
    (hw : Writes (Write.Changes allowed) t t') : SeenKept t t' :=
  of_view (counters_of_writes hw).1 (view_of_writes h hw)

lemma of_append {p : Profile} (h : t.append p = .ok t') (hs : p.status.seen = false) :
    SeenKept t t' := by
  obtain ⟨hlast, rfl⟩ := append_eq_ok_iff.mp h
  refine ⟨UInt32.le_of_lt (lt_succ_of_lt_last hlast), ?_⟩
  intro i q hq
  rw [IdMap.get?_insert] at hq
  split at hq
  · next hi =>
    obtain rfl := Option.some.inj hq
    exact .inr ⟨hi ▸ UInt32.le_refl _, hs⟩
  · exact .inl ⟨q, hq, rfl⟩

lemma of_modify {id : NetworkId} {f : Profile → Profile}
    (hf : ∀ p, (f p).status.seen = p.status.seen) :
    SeenKept t { t with profiles := t.profiles.modify id f } :=
  of_view rfl (IdMap.view_modify hf)

end SeenKept

lemma seenKept_run {t : ProfileTable} (ht : t.WellFormed) (op : Operation)
    (hw : ∀ id seen, op ≠ .write (.change id (.setSeen seen)))
    (hs : ∀ sel hd req now, op = .select sel hd req now →
      (sel.select req now t).isCompleted = false) : SeenKept t (op.run t) := by
  cases op with
  | add ssid security =>
    obtain ⟨id, ha⟩ | ha := add_run_cases t ssid security
    · obtain ⟨name, -, ⟨slot, p, -, -, he⟩ | ⟨-, -, he⟩⟩ := add_cases ha
      · rw [he]
        exact .of_modify fun _ => rfl
      · exact .of_append he rfl
    · rw [ha]
      exact .refl t
  | remove id =>
    refine ⟨UInt32.le_refl _, ?_⟩
    intro i p hp
    exact .inl ⟨p, get?_of_remove hp, rfl⟩
  | setAvailability id a =>
    rw [run_setAvailability]
    exact .of_modify fun _ => rfl
  | markPicked id timestamp =>
    rw [Operation.run, markPicked]
    split
    · exact .of_view rfl rfl
    · exact .refl t
  | write w =>
    cases w with
    | change id c =>
      rw [Operation.run, Write.run, change_snd]
      apply SeenKept.of_modify
      intro p
      cases c with
      | setSeen seen => exact absurd rfl (hw id seen)
      | recordCandidate | clearCandidate | setEnabled | setChoice | clearChoice => rfl
    | createEphemeral o =>
      obtain he | ⟨-, -, ha⟩ := createEphemeral_snd t o
      · rw [Operation.run, Write.run, he]
        exact .refl t
      · exact .of_append ha rfl
  | select sel hd req now =>
    exact .of_writes (by rintro _ rfl _; rfl) (Selector.skip_writes hd (hs sel hd req now rfl))
  | choose id wall =>
    rw [Operation.run, Override.choose_snd]
    refine .of_writes ?_ (Override.pick_writes t id wall)
    intro c hc p
    cases c with
    | setSeen | recordCandidate | clearCandidate => contradiction
    | setEnabled | setChoice | clearChoice => rfl
  | reload =>
    rw [ht.reload]
    exact .refl t

structure History where
  table : ProfileTable := .empty
  connectable : List Pairing := []

namespace History

def after (h : History) (op : Operation) : History where
  table := op.run h.table
  connectable :=
    match op with
    | .select sel _ req now =>
      let round := sel.select req now h.table
      if round.isCompleted then round.memory.connectable else h.connectable
    | _ => h.connectable

def ofRun (ops : List Operation) : History :=
  ops.foldl after {}

lemma table_ofRun (ops : List Operation) : (ofRun ops).table = Operation.runAll ops .empty := by
  induction ops using List.reverseRecOn with
  | nil => rfl
  | append_singleton ops op ih =>
    rw [ofRun, Operation.runAll, List.foldl_append, List.foldl_append] at *
    exact congrArg op.run ih

structure Exact (h : History) : Prop where
  wellFormed : h.table.WellFormed
  id_lt {q} : q ∈ h.connectable → q.profile.id < h.table.nextId
  seen_iff {i p} : h.table.profiles.get? i = some p →
    (p.status.seen = true ↔ i ∈ h.connectable.map (·.profile.id))

lemma Exact.of_seenKept {h : History} (he : h.Exact) {t : ProfileTable} (ht : t.WellFormed)
    (hk : SeenKept h.table t) : Exact { h with table := t } where
  wellFormed := ht
  id_lt hq := UInt32.lt_of_lt_of_le (he.id_lt hq) hk.nextId_le
  seen_iff {i p} hp := by
    obtain ⟨q, hq, hs⟩ | ⟨hi, hs⟩ := hk.seen hp
    · rw [← hs]
      exact he.seen_iff hq
    · -- A new id is behind all those that were ever connectable.
      refine iff_of_false (by rw [hs]; exact Bool.false_ne_true) ?_
      intro hm
      obtain ⟨q, hq, rfl⟩ := List.mem_map.mp hm
      exact UInt32.not_lt.mpr hi (he.id_lt hq)

lemma Exact.after {h : History} (he : h.Exact) (op : Operation)
    (hop : ∀ id seen, op ≠ .write (.change id (.setSeen seen))) : (h.after op).Exact := by
  have hwf := he.wellFormed.run_operation op
  by_cases hc : ∃ sel hd req now, op = .select sel hd req now ∧
      (sel.select req now h.table).isCompleted = true
  · obtain ⟨sel, hd, req, now, rfl, hc⟩ := hc
    have hseen := seen_select hd he.wellFormed hc
    have hconn : (h.after (.select sel hd req now)).connectable =
        (sel.select req now h.table).memory.connectable := if_pos hc
    refine ⟨hwf, ?_, ?_⟩
    · intro q hq
      rw [hconn] at hq
      obtain ⟨p, hp⟩ := hseen.1 q hq
      exact hwf.lt_nextId hp
    · intro i p hp
      rw [hconn]
      exact hseen.2 i p hp
  · have hskip : ∀ sel hd req now, op = .select sel hd req now →
        (sel.select req now h.table).isCompleted = false := by
      intro sel hd req now heq
      exact eq_false_of_ne_true fun ht => hc ⟨sel, hd, req, now, heq, ht⟩
    have hconn : h.after op = { h with table := op.run h.table } := by
      cases op with
      | select sel hd req now =>
        refine congrArg (History.mk _) (if_neg ?_)
        rw [hskip sel hd req now rfl]
        exact Bool.false_ne_true
      | add | remove | setAvailability | markPicked | write | choose | reload => rfl
    rw [hconn]
    exact he.of_seenKept hwf (seenKept_run he.wellFormed op hop hskip)

lemma exact_ofRun {ops : List Operation}
    (hops : ∀ op ∈ ops, ∀ id seen, op ≠ .write (.change id (.setSeen seen))) :
    (ofRun ops).Exact := by
  induction ops using List.reverseRecOn with
  | nil => exact ⟨empty_wellFormed, fun h => absurd h List.not_mem_nil, fun h => by contradiction⟩
  | append_singleton ops op ih =>
    rw [ofRun, List.foldl_append]
    have hlast := hops op (List.mem_append_right _ List.mem_cons_self)
    exact (ih fun op ho => hops op (List.mem_append_left _ ho)).after op hlast

theorem seen_iff_connectable {ops : List Operation}
    (hops : ∀ op ∈ ops, ∀ id seen, op ≠ .write (.change id (.setSeen seen)))
    {p : Profile} (hp : p ∈ (ofRun ops).table.profiles.values) :
    p.status.seen = true ↔ p.id ∈ (ofRun ops).connectable.map (·.profile.id) := by
  have he := exact_ofRun hops
  obtain ⟨i, hi⟩ := IdMap.mem_values_iff.mp hp
  rw [he.wellFormed.id_eq hi]
  exact he.seen_iff hi

def sample : List Operation :=
  [.add "home" .psk,
    .select Sample.selector Sample.isDefault_selector (Sample.request .disconnected) 0,
    .select Sample.selector Sample.isDefault_selector (Sample.request .transitioning) 10]

theorem seen_iff_connectable_cafe :
    let p := (untrusted 1 Sample.cafe).apply (.setSeen true)
    p ∈ (ofRun sample).table.profiles.values ∧
      (p.status.seen = true ↔ p.id ∈ (ofRun sample).connectable.map (·.profile.id)) := by
  intro p
  have hops : ∀ op ∈ sample, ∀ id seen, op ≠ .write (.change id (.setSeen seen)) := by
    simp [sample]
  have hp : p ∈ (ofRun sample).table.profiles.values := by decide
  exact ⟨hp, seen_iff_connectable hops hp⟩

end History

end WirelessSelection
