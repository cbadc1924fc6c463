import WirelessSelection.Proofs.Operation
import WirelessSelection.Proofs.Seating

/-! What a panel decides, told turn by turn. The evaluators speak in the order of their ranks, each
to the store that the one before it left, and the candidate is that of the last proposal or of the
first. -/

namespace WirelessSelection

lemma findSome?_eq_some_iff_of_sorted {α β κ : Type} [LinearOrder κ] (key : α → κ)
    {f : α → Option β} {l : List α} (hl : l.Pairwise (key · < key ·)) {b : β} :
    l.findSome? f = some b ↔
      ∃ a ∈ l, f a = some b ∧ ∀ a' ∈ l, (f a').isSome → key a ≤ key a' := by
  constructor
  · intro h
    obtain ⟨l₁, a, l₂, rfl, ha, hnone⟩ := List.findSome?_eq_some_iff.mp h
    refine ⟨a, List.mem_append_right _ List.mem_cons_self, ha, ?_⟩
    intro a' ha' hsome
    obtain ha' | ha' := List.mem_append.mp ha'
    · rw [hnone a' ha'] at hsome
      contradiction
    · obtain rfl | ha' := List.mem_cons.mp ha'
      · exact le_rfl
      · exact le_of_lt ((List.pairwise_cons.mp (List.pairwise_append.mp hl).2.1).1 a' ha')
  · rintro ⟨a, ha, hb, hfirst⟩
    obtain ⟨l₁, l₂, rfl⟩ := List.append_of_mem ha
    refine List.findSome?_eq_some_iff.mpr ⟨l₁, a, l₂, rfl, hb, ?_⟩
    intro a' ha'
    by_contra hne
    have hlt := (List.pairwise_append.mp hl).2.2 a' ha' a List.mem_cons_self
    have hle := hfirst a' (List.mem_append_left _ ha') (Option.isSome_iff_ne_none.mpr hne)
    exact hlt.not_ge hle

def Context.resolving (ctx : Context) (r : Resolution) : Context :=
  { ctx with settings := { ctx.settings with resolution := r } }

def Evaluator.IgnoresResolution {σ : Type} (e : Evaluator σ) : Prop :=
  ∀ usable ctx r store, e.evaluate usable (ctx.resolving r) store = e.evaluate usable ctx store

structure Turn (σ : Type) where
  place : Seat σ × ℕ
  evaluation : Evaluation

inductive Turns {σ : Type} (usable : List Observation) (ctx : Context) :
    σ → List (Turn σ) → σ → Prop
  | nil {store} : Turns usable ctx store [] store
  | cons {store after final} {t : Turn σ} {turns} :
      t.place.1.evaluator.evaluate usable ctx store = (t.evaluation, after) →
      Turns usable ctx after turns final → Turns usable ctx store (t :: turns) final

namespace Turn

variable {σ : Type} {r : Resolution} {turns : List (Turn σ)} {p : Profile}

def rank (t : Turn σ) : ℕ ×ₗ ℕ :=
  Panel.rank t.place

def proposal? (r : Resolution) (turns : List (Turn σ)) : Option Profile :=
  match r with
  | .lastWins => turns.reverse.findSome? (·.evaluation.proposal)
  | .firstWins => turns.findSome? (·.evaluation.proposal)

lemma proposal?_cons (r : Resolution) (t : Turn σ) (turns : List (Turn σ)) :
    proposal? r (t :: turns) = Panel.resolve r t.evaluation.proposal (proposal? r turns) := by
  cases r with
  | lastWins =>
    rw [proposal?, proposal?, List.reverse_cons, List.findSome?_append, List.findSome?_singleton]
    cases turns.reverse.findSome? (·.evaluation.proposal) <;> rfl
  | firstWins =>
    rw [proposal?, proposal?, List.findSome?_cons, Panel.resolve]
    cases t.evaluation.proposal <;> rfl

lemma proposal?_eq_none_iff :
    proposal? r turns = none ↔ ∀ t ∈ turns, t.evaluation.proposal = none := by
  cases r <;> simp [proposal?]

lemma proposal?_lastWins_eq_some_iff (h : turns.Pairwise (·.rank < ·.rank)) :
    proposal? .lastWins turns = some p ↔ ∃ t ∈ turns, t.evaluation.proposal = some p ∧
      ∀ t' ∈ turns, t'.evaluation.proposal.isSome → t'.rank ≤ t.rank := by
  -- The last proposal is the first one of the turns told backwards, by ranks in the dual order.
  have hreverse : turns.reverse.Pairwise
      fun t t' => OrderDual.toDual t.rank < OrderDual.toDual t'.rank := List.pairwise_reverse.mpr h
  rw [proposal?, findSome?_eq_some_iff_of_sorted (fun t => OrderDual.toDual t.rank) hreverse]
  simp only [List.mem_reverse, OrderDual.toDual_le_toDual]

lemma proposal?_firstWins_eq_some_iff (h : turns.Pairwise (·.rank < ·.rank)) :
    proposal? .firstWins turns = some p ↔ ∃ t ∈ turns, t.evaluation.proposal = some p ∧
      ∀ t' ∈ turns, t'.evaluation.proposal.isSome → t.rank ≤ t'.rank :=
  findSome?_eq_some_iff_of_sorted rank h

end Turn

namespace Panel

variable {σ : Type} {usable : List Observation} {ctx : Context}

lemma connectable_hear (state : Verdict × σ) (s : Seat σ) :
    (hear usable ctx state s).1.connectable =
      state.1.connectable ++ (s.evaluator.evaluate usable ctx state.2).1.connectable :=
  rfl

lemma store_hear (state : Verdict × σ) (s : Seat σ) :
    (hear usable ctx state s).2 = (s.evaluator.evaluate usable ctx state.2).2 :=
  rfl

lemma resolve_assoc (r : Resolution) (p q s : Option Profile) :
    resolve r (resolve r p q) s = resolve r p (resolve r q s) := by
  cases r <;> cases p <;> cases q <;> cases s <;> rfl

lemma exists_turns (usable : List Observation) (ctx : Context) (order : List (Seat σ × ℕ))
    (state : Verdict × σ) :
    let state' := (order.map Prod.fst).foldl (hear usable ctx) state
    ∃ turns : List (Turn σ), turns.map Turn.place = order ∧
      Turns usable ctx state.2 turns state'.2 ∧
      state'.1.connectable = state.1.connectable ++ turns.flatMap (·.evaluation.connectable) ∧
      state'.1.candidate = resolve ctx.settings.resolution state.1.candidate
        (Turn.proposal? ctx.settings.resolution turns) := by
  induction order generalizing state with
  | nil =>
    refine ⟨[], rfl, .nil, (List.append_nil _).symm, ?_⟩
    cases ctx.settings.resolution <;> simp [resolve, Turn.proposal?]
  | cons e order ih =>
    obtain ⟨turns, hplaces, hturns, hconnectable, hcandidate⟩ := ih (hear usable ctx state e.1)
    let t : Turn σ := ⟨e, (e.1.evaluator.evaluate usable ctx state.2).1⟩
    refine ⟨t :: turns, by rw [List.map_cons, hplaces], .cons rfl hturns, ?_, ?_⟩
    · rw [List.map_cons, List.foldl_cons, hconnectable, connectable_hear, List.append_assoc]
      rfl
    · rw [List.map_cons, List.foldl_cons, hcandidate, Turn.proposal?_cons, ← resolve_assoc]
      rfl

lemma foldl_hear_resolving {seats : List (Seat σ)}
    (h : ∀ s ∈ seats, s.evaluator.IgnoresResolution) (r : Resolution) {state state' : Verdict × σ}
    (hconnectable : state'.1.connectable = state.1.connectable) (hstore : state'.2 = state.2) :
    let after := seats.foldl (hear usable ctx) state
    let after' := seats.foldl (hear usable (ctx.resolving r)) state'
    after'.1.connectable = after.1.connectable ∧ after'.2 = after.2 := by
  induction seats generalizing state state' with
  | nil => exact ⟨hconnectable, hstore⟩
  | cons s seats ih =>
    have hs := h s List.mem_cons_self usable ctx r state.2
    apply ih fun s' hs' => h s' (List.mem_cons_of_mem s hs')
    · rw [connectable_hear, connectable_hear, hstore, hs, hconnectable]
    · rw [store_hear, store_hear, hstore, hs]

structure Recounts (regs : List (Seat σ)) (usable : List Observation) (ctx : Context) (store : σ)
    (turns : List (Turn σ)) (outcome : Verdict × σ) : Prop where
  each_once : (turns.map Turn.place).Perm regs.zipIdx
  ascending : turns.Pairwise (·.rank < ·.rank)
  run : Turns usable ctx store turns outcome.2
  connectable_eq : outcome.1.connectable = turns.flatMap (·.evaluation.connectable)
  candidate_eq_none_iff : outcome.1.candidate = none ↔ ∀ t ∈ turns, t.evaluation.proposal = none
  candidate_of_lastWins : ctx.settings.resolution = .lastWins → ∀ p,
    (outcome.1.candidate = some p ↔ ∃ t ∈ turns, t.evaluation.proposal = some p ∧
      ∀ t' ∈ turns, t'.evaluation.proposal.isSome → t'.rank ≤ t.rank)
  candidate_of_firstWins : ctx.settings.resolution = .firstWins → ∀ p,
    (outcome.1.candidate = some p ↔ ∃ t ∈ turns, t.evaluation.proposal = some p ∧
      ∀ t' ∈ turns, t'.evaluation.proposal.isSome → t.rank ≤ t'.rank)

theorem evaluate_in_order {regs : List (Seat σ)} {panel : Panel σ}
    (h : registerAll regs = .ok panel) (usable : List Observation) (ctx : Context) (store : σ) :
    (∃ turns, Recounts regs usable ctx store turns (panel.evaluate usable ctx store)) ∧
      ((∀ s ∈ regs, s.evaluator.IgnoresResolution) → ∀ r,
        let e := panel.evaluate usable ctx store
        let e' := panel.evaluate usable (ctx.resolving r) store
        e'.1.connectable = e.1.connectable ∧ e'.2 = e.2) := by
  obtain ⟨order, hseats, hperm, hsorted⟩ := exists_order h
  constructor
  · obtain ⟨turns, rfl, hturns, hconnectable, hcandidate⟩ :=
      exists_turns usable ctx order ({}, store)
    rw [hseats, ← evaluate] at hturns hconnectable hcandidate
    rw [Selector.resolve_none] at hcandidate
    have hsorted' := List.pairwise_map.mp hsorted
    refine ⟨turns, hperm, hsorted', hturns, hconnectable, ?_, ?_, ?_⟩
    · rw [hcandidate, Turn.proposal?_eq_none_iff]
    · intro hr p
      rw [hcandidate, hr, Turn.proposal?_lastWins_eq_some_iff hsorted']
    · intro hr p
      rw [hcandidate, hr, Turn.proposal?_firstWins_eq_some_iff hsorted']
  · intro hignores r
    refine foldl_hear_resolving ?_ r rfl rfl
    intro s hs
    rw [← hseats] at hs
    obtain ⟨e, he, rfl⟩ := List.mem_map.mp hs
    exact hignores e.1 (List.fst_mem_of_mem_zipIdx (hperm.mem_iff.mp he))

def signing (name : String) (proposal : Option Profile) : Evaluator (List String) where
  name
  evaluate _ _ store := ({ proposal }, store ++ [name])

def signers : List (Seat (List String)) :=
  [(2, "third", some 1), (1, "first", none), (1, "second", some 0), (2, "fourth", none)].map
    fun (priority, name, id) => ⟨priority, signing name (id.bind Sample.table.profiles.get?)⟩

theorem evaluate_in_order_signers :
    ∃ panel, registerAll signers = .ok panel ∧ ∀ ctx : Context,
      let e := panel.evaluate [] (ctx.resolving .lastWins) []
      let e' := panel.evaluate [] (ctx.resolving .firstWins) []
      e.2 = ["first", "second", "third", "fourth"] ∧ e'.2 = e.2 ∧
        e.1.candidate = Sample.table.profiles.get? 1 ∧
        e'.1.candidate = Sample.table.profiles.get? 0 ∧
        ∃ turns, Recounts signers [] (ctx.resolving .firstWins) [] turns e' := by
  obtain ⟨panel, hpanel⟩ : ∃ panel, registerAll signers = .ok panel := ⟨_, rfl⟩
  refine ⟨panel, hpanel, fun ctx => ?_⟩
  have hignores : ∀ s ∈ signers, s.evaluator.IgnoresResolution := by
    intro s hs
    obtain ⟨_, -, rfl⟩ := List.mem_map.mp hs
    exact fun _ _ _ _ => rfl
  obtain ⟨-, hsame⟩ := evaluate_in_order hpanel [] (ctx.resolving .lastWins) []
  obtain ⟨hturns, -⟩ := evaluate_in_order hpanel [] (ctx.resolving .firstWins) []
  obtain rfl := Except.ok.inj hpanel
  exact ⟨rfl, (hsame hignores .firstWins).2, rfl, rfl, hturns⟩

end Panel

end WirelessSelection
