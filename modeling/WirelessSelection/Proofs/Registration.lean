import WirelessSelection.Proofs.Seating

/-! Attempts to register on a panel. A new seat goes behind all the others and the table is sorted
again, which comes to one stable sort of the seats that were accepted. -/

namespace WirelessSelection.Panel

variable {σ : Type} {panel panel' : Panel σ} {seats regs : List (Seat σ)} {s : Seat σ}

def byPriority (a b : Seat σ) : Bool :=
  a.priority ≤ b.priority

def sort (seats : List (Seat σ)) : List (Seat σ) :=
  seats.mergeSort byPriority

lemma byPriority_iff {a b : Seat σ} : byPriority a b = true ↔ a.priority ≤ b.priority :=
  decide_eq_true_iff

lemma byPriority_trans (a b c : Seat σ) (hab : byPriority a b = true)
    (hbc : byPriority b c = true) : byPriority a c = true := by
  rw [byPriority_iff] at hab hbc ⊢
  exact UInt8.le_trans hab hbc

lemma byPriority_total (a b : Seat σ) : (byPriority a b || byPriority b a) = true := by
  rw [Bool.or_eq_true, byPriority_iff, byPriority_iff]
  exact UInt8.le_total a.priority b.priority

lemma sort_perm (seats : List (Seat σ)) : (sort seats).Perm seats :=
  List.mergeSort_perm seats byPriority

lemma pairwise_sort (seats : List (Seat σ)) : (sort seats).Pairwise (·.priority ≤ ·.priority) :=
  (List.pairwise_mergeSort byPriority_trans byPriority_total seats).imp byPriority_iff.mp

lemma filter_sort (seats : List (Seat σ)) (priority : UInt8) :
    (sort seats).filter (·.priority = priority) = seats.filter (·.priority = priority) := by
  have hlevel : (seats.filter (·.priority = priority)).Pairwise (byPriority · · = true) := by
    refine List.pairwise_of_forall_mem_list ?_
    intro a ha b hb
    have ha := of_decide_eq_true (List.mem_filter.mp ha).2
    have hb := of_decide_eq_true (List.mem_filter.mp hb).2
    exact byPriority_iff.mpr (ha ▸ hb ▸ UInt8.le_refl _)
  have hsub := (List.sublist_mergeSort byPriority_trans byPriority_total hlevel
    List.filter_sublist).filter (·.priority = priority)
  rw [List.filter_filter] at hsub
  simp only [Bool.and_self] at hsub
  exact (hsub.eq_of_length ((sort_perm seats).filter _).length_eq.symm).symm

lemma rank_le_iff {a b : Seat σ × ℕ} :
    rank a ≤ rank b ↔ List.zipIdxLE byPriority a b = true := by
  rw [rank, rank, Prod.Lex.toLex_le_toLex, List.zipIdxLE]
  simp only [byPriority_iff, UInt8.le_iff_toNat_le]
  split_ifs
  · rw [decide_eq_true_iff]
    omega
  · simp only [iff_true]
    omega
  · simp only [iff_false]
    omega

lemma pairwise_zipIdx (h : seats.Pairwise (·.priority ≤ ·.priority)) :
    seats.zipIdx.Pairwise (rank · < rank ·) := by
  rw [List.pairwise_iff_getElem] at h ⊢
  intro i j hi hj hij
  rw [List.length_zipIdx] at hi hj
  rw [List.getElem_zipIdx, List.getElem_zipIdx, rank_lt_iff]
  obtain hlt | heq := UInt8.lt_or_eq_of_le (h i j hi hj hij)
  · exact .inl hlt
  · exact .inr ⟨heq, by simpa using hij⟩

lemma map_fst_eq_sort {order : List (Seat σ × ℕ)} (hperm : order.Perm regs.zipIdx)
    (hsorted : order.Pairwise (rank · < rank ·)) : order.map Prod.fst = sort regs := by
  rw [sort, ← List.mergeSort_zipIdx]
  congr 1
  have hmerge : (regs.zipIdx.mergeSort (List.zipIdxLE byPriority)).Pairwise (rank · ≤ rank ·) := by
    refine (List.pairwise_mergeSort ?_ ?_ _).imp rank_le_iff.mpr
    · intro a b c hab hbc
      exact rank_le_iff.mp (le_trans (rank_le_iff.mpr hab) (rank_le_iff.mpr hbc))
    · intro a b
      rw [Bool.or_eq_true, ← rank_le_iff, ← rank_le_iff]
      exact le_total _ _
  refine List.Perm.eq_of_pairwise ?_ (hsorted.imp le_of_lt) hmerge
    (hperm.trans (List.mergeSort_perm ..).symm)
  intro a b ha hb hab hba
  -- A rank ends with a place, and there is one seat in each place.
  have hplace : a.2 = b.2 := congrArg (fun r => (ofLex r).2) (le_antisymm hab hba)
  have ha := List.mem_zipIdx_iff_getElem?.mp (hperm.mem_iff.mp ha)
  have hb := List.mem_zipIdx_iff_getElem?.mp ((List.mergeSort_perm ..).mem_iff.mp hb)
  rw [hplace, hb] at ha
  exact Prod.ext (Option.some.inj ha.symm) hplace

lemma insertSeat_eq_sort (h : seats.Pairwise (·.priority ≤ ·.priority)) (s : Seat σ) :
    insertSeat s seats = sort (seats ++ [s]) := by
  have hn : ∀ e ∈ seats.zipIdx, e.2 < seats.length := by
    intro e he
    simpa using List.snd_lt_of_mem_zipIdx he
  obtain ⟨order, hmap, hperm, hsorted⟩ := exists_insertSeat s hn (pairwise_zipIdx h)
  rw [List.zipIdx_map_fst] at hmap
  rw [← hmap]
  refine map_fst_eq_sort ?_ hsorted
  rw [List.zipIdx_append, List.zipIdx_singleton, Nat.zero_add]
  exact hperm.trans (List.perm_append_singleton (s, seats.length) seats.zipIdx).symm

lemma seats_eq_sort (h : registerAll regs = .ok panel) : panel.seats = sort regs := by
  obtain ⟨order, hmap, hperm, hsorted⟩ := exists_order h
  rw [← hmap, map_fst_eq_sort hperm hsorted]

def push (panel : Panel σ) (s : Seat σ) : Except Fault Unit × Panel σ :=
  if panel.size < capacity then (.ok (), { seats := panel.seats ++ [s] })
  else (.error .panelFull, panel)

def enroll (panel : Panel σ) (s : Seat σ) : Except Fault Unit × Panel σ :=
  if s.evaluator.name ∈ panel.names then (.error .duplicateName, panel)
  else
    match panel.push s with
    | (.ok (), panel) => (.ok (), { seats := sort panel.seats })
    | (.error f, panel) => (.error f, panel)

/-- A panel, and the seats that it has accepted, the oldest first. -/
structure Roll (σ : Type) where
  panel : Panel σ := {}
  accepted : List (Seat σ) := []

def Roll.attempt (roll : Roll σ) (s : Seat σ) : Roll σ :=
  match roll.panel.enroll s with
  | (.ok (), panel) => { panel, accepted := roll.accepted ++ [s] }
  | (.error _, panel) => { roll with panel }

def Roll.ofAttempts (attempts : List (Seat σ)) : Roll σ :=
  attempts.foldl attempt {}

structure Answers (panel : Panel σ) (s : Seat σ) : Prop where
  duplicate_iff : (panel.enroll s).1 = .error .duplicateName ↔ s.evaluator.name ∈ panel.names
  full_iff : (panel.enroll s).1 = .error .panelFull ↔
    s.evaluator.name ∉ panel.names ∧ panel.size = capacity
  ok_iff : (panel.enroll s).1 = .ok () ↔ s.evaluator.name ∉ panel.names ∧ panel.size < capacity
  unchanged {f} : (panel.enroll s).1 = .error f → (panel.enroll s).2 = panel
  register_eq : panel.register s.evaluator s.priority =
    (panel.enroll s).1.map fun _ => (panel.enroll s).2

structure Roll.Orderly (roll : Roll σ) : Prop where
  registered : registerAll roll.accepted = .ok roll.panel
  seats_eq : roll.panel.seats = sort roll.accepted
  ascending : roll.panel.seats.Pairwise (·.priority ≤ ·.priority)
  ties_eq (priority : UInt8) : roll.panel.seats.filter (·.priority = priority) =
    roll.accepted.filter (·.priority = priority)
  names_nodup : roll.panel.names.Nodup
  size_le : roll.panel.size ≤ capacity

lemma enroll_cases (panel : Panel σ) (s : Seat σ) :
    (s.evaluator.name ∈ panel.names ∧ panel.enroll s = (.error .duplicateName, panel)) ∨
    (s.evaluator.name ∉ panel.names ∧ capacity ≤ panel.size ∧
      panel.enroll s = (.error .panelFull, panel)) ∨
    (s.evaluator.name ∉ panel.names ∧ panel.size < capacity ∧
      panel.enroll s = (.ok (), { seats := sort (panel.seats ++ [s]) })) := by
  rw [enroll, push]
  by_cases hname : s.evaluator.name ∈ panel.names
  · exact .inl ⟨hname, if_pos hname⟩
  · rw [if_neg hname]
    by_cases hroom : panel.size < capacity
    · rw [if_pos hroom]
      exact .inr (.inr ⟨hname, hroom, rfl⟩)
    · rw [if_neg hroom]
      exact .inr (.inl ⟨hname, Nat.not_lt.mp hroom, rfl⟩)

lemma register_eq_enroll (h : panel.seats.Pairwise (·.priority ≤ ·.priority)) (s : Seat σ) :
    panel.register s.evaluator s.priority =
      (panel.enroll s).1.map fun _ => (panel.enroll s).2 := by
  rw [register]
  obtain ⟨hname, he⟩ | ⟨hname, hfull, he⟩ | ⟨hname, hroom, he⟩ := panel.enroll_cases s
  · rw [if_pos hname, he]
    rfl
  · rw [if_neg hname, if_pos hfull, he]
    rfl
  · rw [if_neg hname, if_neg (Nat.not_le.mpr hroom), he, insertSeat_eq_sort h]
    rfl

namespace Roll

variable {roll : Roll σ}

lemma Orderly.answers (h : roll.Orderly) (s : Seat σ) : roll.panel.Answers s := by
  have hregister := register_eq_enroll h.ascending s
  obtain ⟨hname, he⟩ | ⟨hname, hfull, he⟩ | ⟨hname, hroom, he⟩ := roll.panel.enroll_cases s
  · exact ⟨by simp [he, hname], by simp [he, hname], by simp [he, hname], by simp [he], hregister⟩
  · have hsize := h.size_le.antisymm hfull
    exact ⟨by simp [he, hname], by simp [he, hname, hsize], by simp [he, hname, hsize],
      by simp [he], hregister⟩
  · exact ⟨by simp [he, hname], by simp [he, hname, hroom.ne], by simp [he, hname, hroom],
      by simp [he], hregister⟩

lemma orderly_of_registered (h : registerAll roll.accepted = .ok roll.panel)
    (hnames : roll.panel.names.Nodup) (hsize : roll.panel.size ≤ capacity) : roll.Orderly where
  registered := h
  seats_eq := seats_eq_sort h
  ascending := by
    rw [seats_eq_sort h]
    exact pairwise_sort roll.accepted
  ties_eq priority := by
    rw [seats_eq_sort h]
    exact filter_sort roll.accepted priority
  names_nodup := hnames
  size_le := hsize

lemma Orderly.attempt (h : roll.Orderly) (s : Seat σ) : (roll.attempt s).Orderly := by
  rw [Roll.attempt]
  obtain ⟨-, he⟩ | ⟨-, -, he⟩ | ⟨hname, hroom, he⟩ := roll.panel.enroll_cases s
  · rw [he]
    exact h
  · rw [he]
    exact h
  · rw [he]
    have hperm : (sort (roll.panel.seats ++ [s])).Perm (s :: roll.panel.seats) :=
      (sort_perm _).trans (List.perm_append_singleton s roll.panel.seats)
    apply orderly_of_registered
    · rw [registerAll_append_singleton, h.registered]
      exact (register_eq_enroll h.ascending s).trans (by rw [he]; rfl)
    · exact (hperm.map _).nodup_iff.mpr (List.nodup_cons.mpr ⟨hname, h.names_nodup⟩)
    · exact hperm.length_eq.trans_le hroom

lemma orderly_ofAttempts (attempts : List (Seat σ)) : (ofAttempts attempts).Orderly := by
  induction attempts using List.reverseRecOn with
  | nil => exact orderly_of_registered rfl .nil (Nat.zero_le _)
  | append_singleton attempts s ih =>
    rw [ofAttempts, List.foldl_append]
    exact ih.attempt s

end Roll

theorem attempts_orderly (attempts : List (Seat σ)) :
    (Roll.ofAttempts attempts).Orderly ∧ ∀ s, (Roll.ofAttempts attempts).panel.Answers s := by
  have h := Roll.orderly_ofAttempts attempts
  exact ⟨h, h.answers⟩

end WirelessSelection.Panel
