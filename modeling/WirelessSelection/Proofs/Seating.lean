import Mathlib.Data.List.Induction
import Mathlib.Data.Prod.Lex
import WirelessSelection.Evaluator.Panel
import WirelessSelection.Proofs.Store.Refusal

namespace WirelessSelection.Panel

variable {σ : Type} {panel panel' : Panel σ} {regs : List (Seat σ)}

def registerAll (regs : List (Seat σ)) : Except Fault (Panel σ) :=
  regs.foldlM (fun panel s => panel.register s.evaluator s.priority) {}

def rank (e : Seat σ × ℕ) : ℕ ×ₗ ℕ :=
  toLex (e.1.priority.toNat, e.2)

lemma rank_lt_iff {a b : Seat σ × ℕ} : rank a < rank b ↔
    a.1.priority < b.1.priority ∨ a.1.priority = b.1.priority ∧ a.2 < b.2 := by
  rw [rank, rank, Prod.Lex.toLex_lt_toLex, UInt8.lt_iff_toNat_lt, UInt8.toNat_inj]

lemma register_eq_ok_iff {e : Evaluator σ} {priority : UInt8} :
    panel.register e priority = .ok panel' ↔ e.name ∉ panel.names ∧ panel.size < capacity ∧
      panel'.seats = insertSeat { priority, evaluator := e } panel.seats := by
  rw [register]
  by_cases hname : e.name ∈ panel.names
  · simp [hname]
  · by_cases hfull : capacity ≤ panel.size
    · simp [hname, hfull]
    · cases panel'
      simp [hname, hfull, Nat.not_le.mp hfull, eq_comm]

lemma registerAll_append_singleton (regs : List (Seat σ)) (s : Seat σ) :
    registerAll (regs ++ [s]) =
      registerAll regs >>= fun panel => panel.register s.evaluator s.priority := by
  rw [registerAll, List.foldlM_append]
  simp only [List.foldlM_cons, List.foldlM_nil, bind_pure]
  rfl

lemma exists_insertSeat (s : Seat σ) {n : ℕ} {order : List (Seat σ × ℕ)}
    (hn : ∀ e ∈ order, e.2 < n) (horder : order.Pairwise (rank · < rank ·)) :
    ∃ order' : List (Seat σ × ℕ), order'.map Prod.fst = insertSeat s (order.map Prod.fst) ∧
      order'.Perm ((s, n) :: order) ∧ order'.Pairwise (rank · < rank ·) := by
  induction order with
  | nil => exact ⟨[(s, n)], rfl, .refl _, List.pairwise_singleton _ _⟩
  | cons e order ih =>
    obtain ⟨he, horder'⟩ := List.pairwise_cons.mp horder
    rw [List.map_cons, insertSeat]
    by_cases hle : e.1.priority ≤ s.priority
    · obtain ⟨order', hmap, hperm, hsorted⟩ :=
        ih (fun b hb => hn b (List.mem_cons_of_mem e hb)) horder'
      rw [if_pos hle]
      refine ⟨e :: order', by rw [List.map_cons, hmap], ?_, ?_⟩
      · exact (hperm.cons e).trans (List.Perm.swap (s, n) e order)
      · refine List.pairwise_cons.mpr ⟨?_, hsorted⟩
        intro b hb
        obtain rfl | hb := List.mem_cons.mp (hperm.mem_iff.mp hb)
        -- Among seats of one priority the new one is the last, as its number is the highest.
        · rw [rank_lt_iff]
          obtain hlt | heq := UInt8.lt_or_eq_of_le hle
          · exact .inl hlt
          · exact .inr ⟨heq, hn e List.mem_cons_self⟩
        · exact he b hb
    · rw [if_neg hle]
      refine ⟨(s, n) :: e :: order, rfl, .refl _, List.pairwise_cons.mpr ⟨?_, horder⟩⟩
      have hse : rank (s, n) < rank e := rank_lt_iff.mpr (.inl (UInt8.not_le.mp hle))
      intro b hb
      obtain rfl | hb := List.mem_cons.mp hb
      · exact hse
      · exact hse.trans (he b hb)

lemma exists_order (h : registerAll regs = .ok panel) : ∃ order : List (Seat σ × ℕ),
    order.map Prod.fst = panel.seats ∧ order.Perm regs.zipIdx ∧
      order.Pairwise (rank · < rank ·) := by
  induction regs using List.reverseRecOn generalizing panel with
  | nil =>
    obtain rfl := Except.ok.inj h
    exact ⟨[], rfl, .refl _, .nil⟩
  | append_singleton regs s ih =>
    rw [registerAll_append_singleton] at h
    obtain ⟨before, hbefore, hafter⟩ := bind_eq_ok_iff.mp h
    obtain ⟨order, hseats, hperm, hsorted⟩ := ih hbefore
    have hn : ∀ e ∈ order, e.2 < regs.length := by
      intro e he
      have := List.snd_lt_of_mem_zipIdx (hperm.mem_iff.mp he)
      simpa using this
    obtain ⟨order', hmap, hperm', hsorted'⟩ := exists_insertSeat s hn hsorted
    refine ⟨order', ?_, ?_, hsorted'⟩
    · rw [hmap, hseats, (register_eq_ok_iff.mp hafter).2.2]
    · rw [List.zipIdx_append, List.zipIdx_singleton]
      refine hperm'.trans ((hperm.cons _).trans ?_)
      simpa using (List.perm_append_singleton (s, regs.length) regs.zipIdx).symm

end WirelessSelection.Panel
