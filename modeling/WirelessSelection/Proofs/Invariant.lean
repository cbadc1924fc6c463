import WirelessSelection.Evaluator.Scripted
import WirelessSelection.Proofs.Operation

namespace WirelessSelection

lemma Scripted.fixed_within {σ : Type} [ProfileStore σ] (allowed : Write → Prop) (name : String)
    (id : NetworkId) : (fixed name id : Evaluator σ).Within allowed where
  update_writes _ _ := .refl
  evaluate_writes _ _ _ := .refl

namespace Selector

variable {σ : Type} [ProfileStore σ] {sel : Selector σ}

def Lawful (sel : Selector σ) : Prop :=
  sel.Within fun _ => True

lemma Lawful.select_writes (h : sel.Lawful) (req : Request) (now : Millis) (store : σ) :
    Writes (fun _ => True) store (sel.select req now store).store :=
  Within.select_writes h (fun _ _ => trivial) req now store

lemma IsDefault.lawful (h : sel.IsDefault) : sel.Lawful :=
  h.within.mono fun _ _ => trivial

end Selector

def Sample.pinned : Selector ProfileTable where
  settings := {}
  panel.seats := [⟨0, Scripted.fixed "pinned" 1⟩]

lemma Sample.pinned_lawful : Sample.pinned.Lawful := by
  simp [Sample.pinned, Selector.Lawful, Selector.Within, Scripted.fixed_within]

namespace ProfileTable

variable {t t' : ProfileTable}

inductive Arises : ProfileTable → Prop
  | empty : Arises .empty
  | operation {t : ProfileTable} (h : Arises t) (op : Operation) : Arises (op.run t)
  | round {t : ProfileTable} (h : Arises t) {sel : Selector ProfileTable} (hs : sel.Lawful)
    (req : Request) (now : Millis) : Arises (sel.select req now t).store

lemma Reachable.run (h : t.Reachable) (op : Operation) : (op.run t).Reachable := by
  obtain ⟨ops, rfl⟩ := h
  exact ⟨ops ++ [op], Operation.runAll_append ops [op] .empty⟩

lemma Reachable.writes (h : t.Reachable) {allowed : Write → Prop} (hw : Writes allowed t t') :
    t'.Reachable := by
  induction hw with
  | refl => exact h
  | tail _ hs ih =>
    obtain ⟨w, -, rfl⟩ := hs
    exact ih.run (.write w)

lemma Arises.reachable (h : t.Arises) : t.Reachable := by
  induction h with
  | empty => exact ⟨[], rfl⟩
  | operation _ op ih => exact ih.run op
  | round _ hs req now ih => exact ih.writes (hs.select_writes req now _)

lemma WellFormed.keys_nodup (h : t.WellFormed) : (t.profiles.values.map Profile.key).Nodup := by
  rw [IdMap.values, List.map_map, List.Nodup, List.pairwise_map]
  refine t.profiles.ordered.imp_of_mem ?_
  intro e e' he he' hlt hk
  have hid := h.key_injective (IdMap.mem_entries_iff.mp he) (IdMap.mem_entries_iff.mp he') hk
  exact UInt32.lt_irrefl _ (hid ▸ hlt)

theorem invariant_of_arises (h : t.Arises) :
    (∀ id p, t.profiles.get? id = some p → p.id = id ∧ id < t.nextId ∧
      (p.ephemeral = true → p.security = .unsecured) ∧
      p.status.candidate.isSome = p.status.score.isSome) ∧
    (t.profiles.values.map Profile.key).Nodup ∧
    ∀ pick, t.lastPick = some pick → ∃ p, t.profiles.get? pick.id = some p := by
  have hwf := h.reachable.wellFormed
  refine ⟨?_, hwf.keys_nodup, ?_⟩
  · intro id p hp
    exact ⟨hwf.id_eq hp, hwf.lt_nextId hp, hwf.ephemeral_unsecured hp, hwf.candidate_scored hp⟩
  · intro pick hp
    exact Option.isSome_iff_exists.mp (hwf.lastPick_stored hp)

theorem invariant_of_arises_cafe :
    let made := (Operation.select Sample.selector Sample.isDefault_selector
      (Sample.request .disconnected) 0).run Sample.table
    let t := (Operation.markPicked 2 7).run
      (Sample.pinned.select (Sample.request .disconnected) 5 made).store
    t.profiles.keys = [0, 1, 2] ∧ (t.profiles.values.map Profile.key).Nodup ∧
      (∃ p, t.profiles.get? 2 = some p ∧ p.ephemeral = true ∧ p.security = .unsecured) ∧
      ∃ p, t.profiles.get? 0 = some p ∧ p.status.candidate = some Sample.home ∧
        p.status.score.isSome = true := by
  intro made t
  have ht : t.Arises :=
    .operation (.round (.operation (.operation (.operation .empty (.add "home" .psk))
      (.add "office" .psk)) _) Sample.pinned_lawful _ _) _
  obtain ⟨hprofiles, hkeys, hpick⟩ := invariant_of_arises ht
  refine ⟨by decide, hkeys, ?_, ?_⟩
  · obtain ⟨p, hp⟩ := hpick ⟨2, 7⟩ (by decide)
    have he : (t.profiles.get? 2).map (·.ephemeral) = some true := by decide
    rw [hp, Option.map_some, Option.some.injEq] at he
    exact ⟨p, hp, he, (hprofiles 2 p hp).2.2.1 he⟩
  · have hc : (t.profiles.get? 0).map (·.status.candidate) = some (some Sample.home) := by decide
    obtain ⟨p, hp, hc⟩ := Option.map_eq_some_iff.mp hc
    exact ⟨p, hp, hc, by rw [← (hprofiles 0 p hp).2.2.2, hc, Option.isSome_some]⟩

end ProfileTable

end WirelessSelection
