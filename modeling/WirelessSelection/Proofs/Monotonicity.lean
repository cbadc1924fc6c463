import WirelessSelection.Proofs.Candidates
import WirelessSelection.Proofs.Decay

namespace WirelessSelection

namespace Score

variable {a a' b b' : Score}

lemma saturate_mono {m n : Int} (h : m ≤ n) : saturate m ≤ saturate n := by
  rw [Int32.le_iff_toInt_le, toInt_saturate, toInt_saturate]
  omega

lemma add_mono (ha : a ≤ a') (hb : b ≤ b') : add a b ≤ add a' b' :=
  saturate_mono (Int.add_le_add (Int32.le_iff_toInt_le.mp ha) (Int32.le_iff_toInt_le.mp hb))

lemma mul_mono (ha : a ≤ a') (hb : 0 < b) : mul a b ≤ mul a' b := by
  have hpos : 0 ≤ b.toInt := Int.le_of_lt (Int32.lt_iff_toInt_lt.mp hb)
  exact saturate_mono (Int.mul_le_mul_of_nonneg_right (Int32.le_iff_toInt_le.mp ha) hpos)

lemma foldl_add_mono (ha : a ≤ a') (l : List Score) : l.foldl add a ≤ l.foldl add a' := by
  induction l generalizing a a' with
  | nil => exact ha
  | cons b l ih => exact ih (add_mono ha (Int32.le_refl b))

end Score

namespace SavedNetworks

section Highest

variable {α β : Type} {f f' : α → Score} {l before after : List α} {a a' b : α}

def higher? (f : α → Score) : Option α → Option α → Option α
  | x, none => x
  | x, some b => if beats (f b) (x.map f) then some b else x

lemma highest?_append (f : α → Score) (l m : List α) :
    highest? f (l ++ m) = higher? f (highest? f l) (highest? f m) := by
  induction m using List.reverseRecOn with
  | nil => rw [List.append_nil]; rfl
  | append_singleton m a ih =>
    rw [← List.append_assoc, highest?_append_singleton, highest?_append_singleton, ih]
    cases highest? f l <;> cases highest? f m <;> grind [higher?, beats]

lemma highest?_singleton (f : α → Score) (a : α) : highest? f [a] = some a :=
  highest?_append_singleton f [] a

lemma highest?_of_raised {g : α → β} (ha : f a ≤ f a') (hg : g a' = g a)
    (h : (highest? f (before ++ a :: after)).map g = some (g a)) :
    (highest? f (before ++ a' :: after)).map g = some (g a) := by
  rw [List.append_cons, highest?_append, highest?_append, highest?_singleton] at h ⊢
  -- Only the best of what comes before and of what comes after it can stand against it.
  generalize highest? f before = x at h ⊢
  generalize highest? f after = y at h ⊢
  cases x <;> cases y <;> grind [higher?, beats]

lemma highest?_of_lowered (h : highest? f l = some b) (hb : f' b = f b)
    (hle : ∀ c ∈ l, f' c ≤ f c) : highest? f' l = some b := by
  have hmem := mem_of_highest? h
  obtain ⟨-, before, after, hl, hbefore⟩ := List.find?_eq_some_iff_append.mp h
  refine List.find?_eq_some_iff_append.mpr ⟨?_, before, after, hl, ?_⟩
  · rw [List.all_eq_true]
    intro c hc
    rw [decide_eq_true_eq, hb]
    exact Int32.le_trans (hle c hc) (le_of_highest? h hc)
  · intro c hc
    have hcl : c ∈ l := hl ▸ List.mem_append_left _ hc
    have hnot := hbefore c hc
    rw [Bool.not_eq_true', ← Bool.not_eq_true, List.all_eq_true] at hnot ⊢
    intro hall
    have hbc := of_decide_eq_true (hall b hmem)
    rw [hb] at hbc
    refine hnot fun d hd => decide_eq_true ?_
    exact Int32.le_trans (le_of_highest? h hd) (Int32.le_trans hbc (hle c hcl))

end Highest

variable {ctx : Context} {last : Option Pick} {o : Observation} {p : Profile} {rssi : Int32}
  {now : Millis}

lemma usableSignal_mono (settings : Settings) (h : o.rssi ≤ rssi) :
    usableSignal settings o ≤ usableSignal settings { o with rssi } := by
  have hband : ({ o with rssi } : Observation).band = o.band := rfl
  rw [Int32.le_iff_toInt_le] at h ⊢
  rw [usableSignal, usableSignal, hband]
  cases settings.thresholds? o.band <;> simp only [Score.toInt_min, Score.toInt_max] <;> omega

lemma score_mono (hv : ctx.settings.Valid) (h : o.rssi ≤ rssi) (p : Profile) :
    score ctx last o p ≤ score ctx last { o with rssi } p := by
  have hsignal := Score.add_mono (usableSignal_mono ctx.settings h)
    (Int32.le_refl ctx.settings.weights.rssiOffset)
  exact Score.foldl_add_mono (Score.mul_mono hsignal hv.slope_pos) _

lemma lastPickAward_anti (h : ctx.now ≤ now) (pick : Pick) :
    lastPickAward { ctx with now } pick ≤ lastPickAward ctx pick := by
  rw [UInt64.le_iff_toNat_le] at h
  rw [Int32.le_iff_toInt_le, toInt_lastPickAward, toInt_lastPickAward]
  dsimp only
  omega

lemma score_anti (h : ctx.now ≤ now) (o : Observation) (p : Profile) :
    score { ctx with now } last o p ≤ score ctx last o p := by
  simp only [score, awards, List.foldl_append]
  refine Score.foldl_add_mono (Score.foldl_add_mono ?_ _) _
  cases last.filter (·.id = p.id) with
  | none =>
    rw [Option.toList_none, List.map_nil, List.map_nil]
    exact Int32.le_refl _
  | some pick => exact Score.add_mono (Int32.le_refl _) (lastPickAward_anti h pick)

lemma score_of_not_picked (h : ∀ pick, last = some pick → pick.id ≠ p.id) (now : Millis)
    (o : Observation) : score { ctx with now } last o p = score ctx last o p := by
  have hnone : last.filter (·.id = p.id) = none := by
    rw [Option.filter_eq_none_iff]
    intro pick hpick
    simpa using h pick hpick
  simp only [score, awards, hnone, Option.toList_none, List.map_nil]

end SavedNetworks

lemma ProfileTable.pairings_of_resolved {t : ProfileTable} {kind : Profile → Bool}
    {o : Observation} {p : Profile} (hr : t.resolve o = some p) (hk : kind p = true)
    (before after : List Observation) : t.pairings kind (before ++ o :: after) =
      t.pairings kind before ++ (o, p.core) :: t.pairings kind after := by
  rw [pairings, List.filterMap_append, List.filterMap_cons, hr, Option.filter_some, if_pos hk]
  rfl

namespace SavedNetworks

variable {t : ProfileTable} {ctx : Context} {scan : List Observation} {n : Profile}

lemma leader?_of_proposal (h : (evaluate scan ctx t).1.proposal = some n) :
    ∃ o, leader? ctx t.lastPick (t.pairings ofSaved scan) = some (o, n.core) := by
  have hlead := proposal_evaluate t scan ctx
  rw [h, Option.map_some, eq_comm, Option.map_eq_some_iff] at hlead
  obtain ⟨⟨o, c⟩, ho, rfl⟩ := hlead
  exact ⟨o, ho⟩

lemma resolve_of_proposal (ht : t.WellFormed) (h : (evaluate scan ctx t).1.proposal = some n)
    {o : Observation} (hm : n.isMatch o = true) :
    ∃ p, t.resolve o = some p ∧ ofSaved p = true ∧ p.core = n.core := by
  obtain ⟨o', hlead⟩ := leader?_of_proposal h
  obtain ⟨-, p, hr, hk, hcore⟩ := ProfileTable.mem_pairings_iff.mp (mem_of_highest? hlead)
  have hget := (ht.resolve_eq_some_iff.mp hr).1
  have hmatch : p.isMatch o = true := (Profile.isMatch_eq_of_core hcore o).trans hm
  exact ⟨p, ht.resolve_eq_some_iff.mpr ⟨hget, hmatch⟩, hk, hcore⟩

lemma proposal_of_raised (ht : t.WellFormed) (hv : ctx.settings.Valid)
    {before after : List Observation} {o : Observation} {rssi : Int32}
    (h : (evaluate (before ++ o :: after) ctx t).1.proposal = some n) (hm : n.isMatch o = true)
    (hr : o.rssi ≤ rssi) :
    (evaluate (before ++ { o with rssi } :: after) ctx t).1.proposal.map Profile.core =
      some n.core := by
  obtain ⟨p, hp, hk, hcore⟩ := resolve_of_proposal ht h hm
  -- The name and the security decide on the profile, and the signal does not.
  have hp' : t.resolve { o with rssi } = some p := hp
  have hlead := proposal_evaluate t (before ++ o :: after) ctx
  rw [h, Option.map_some, ProfileTable.pairings_of_resolved hp hk, eq_comm, ← hcore] at hlead
  rw [proposal_evaluate, ProfileTable.pairings_of_resolved hp' hk, ← hcore]
  rw [leader?] at hlead ⊢
  exact highest?_of_raised (a := (o, p.core)) (score_mono hv hr p.core) rfl hlead

lemma proposal_of_later (h : (evaluate scan ctx t).1.proposal = some n)
    (hpick : ∀ pick, t.lastPick = some pick → pick.id ≠ n.id) {now : Millis}
    (hnow : ctx.now ≤ now) :
    (evaluate scan { ctx with now } t).1.proposal.map Profile.core = some n.core := by
  obtain ⟨o, hlead⟩ := leader?_of_proposal h
  have hlater : leader? { ctx with now } t.lastPick (t.pairings ofSaved scan) = some (o, n.core) :=
    highest?_of_lowered hlead (score_of_not_picked hpick now o)
      fun c _ => score_anti hnow c.1 c.2
  rw [proposal_evaluate, hlater, Option.map_some]

theorem proposal_monotone (ht : t.Reachable) (hv : ctx.settings.Valid)
    (h : (evaluate scan ctx t).1.proposal = some n) :
    (∀ before o after rssi, scan = before ++ o :: after → n.isMatch o = true → o.rssi ≤ rssi →
      (evaluate (before ++ { o with rssi } :: after) ctx t).1.proposal.map Profile.core =
        some n.core) ∧
    ((∀ pick, t.lastPick = some pick → pick.id ≠ n.id) → ∀ now, ctx.now ≤ now →
      (evaluate scan { ctx with now } t).1.proposal.map Profile.core = some n.core) := by
  constructor
  · rintro before o after rssi rfl hm hr
    exact proposal_of_raised ht.wellFormed hv h hm hr
  · intro hpick now hnow
    exact proposal_of_later h hpick hnow

theorem proposal_monotone_home :
    let t := (Operation.markPicked 1 0).run Sample.table
    let ctx := Sample.selector.context Sample.crowd 28800000
    ctx.settings.Valid ∧ t.lastPick = some ⟨1, 0⟩ ∧
      ∃ n, (evaluate [Sample.farHome, Sample.office, Sample.home] ctx t).1.proposal = some n ∧
        n.id = 0 ∧
        (evaluate [{ Sample.farHome with rssi := -50 }, Sample.office, Sample.home] ctx
          t).1.proposal.map Profile.core = some n.core ∧
        (evaluate [Sample.farHome, Sample.office, Sample.home] { ctx with now := 30000000 }
          t).1.proposal.map Profile.core = some n.core := by
  intro t ctx
  have ht : t.Reachable := Sample.reachable_table.run (.markPicked 1 0)
  have hv : ctx.settings.Valid := ⟨by decide, by decide, by decide⟩
  have hlast : t.lastPick = some ⟨1, 0⟩ := by decide
  have hhome : (evaluate [Sample.farHome, Sample.office, Sample.home] ctx t).1.proposal.map
      (·.id) = some 0 := by decide +kernel
  obtain ⟨n, hn, hid⟩ := Option.map_eq_some_iff.mp hhome
  have hmatch : n.isMatch Sample.farHome = true := by
    have hall : (evaluate [Sample.farHome, Sample.office, Sample.home] ctx t).1.proposal.map
        (·.isMatch Sample.farHome) = some true := by decide +kernel
    rw [hn] at hall
    exact Option.some.inj hall
  obtain ⟨hraised, hlater⟩ := proposal_monotone ht hv hn
  refine ⟨hv, hlast, n, hn, hid, ?_, ?_⟩
  · simpa only [List.nil_append] using
      hraised [] Sample.farHome _ (-50) rfl hmatch (by decide)
  · have hnow : ctx.now ≤ 30000000 := by decide +kernel
    have hpick : ∀ pick, t.lastPick = some pick → pick.id ≠ n.id := by
      intro pick hpick
      rw [hlast, Option.some.injEq] at hpick
      rw [← hpick, hid]
      decide
    exact hlater hpick _ hnow

end SavedNetworks

end WirelessSelection
