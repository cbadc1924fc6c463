import Mathlib.Data.List.Nodup
import WirelessSelection.Json.Decode

/-! JSON values with the members of their objects in another order. -/

namespace WirelessSelection.Json

structure Arrangement where
  order : List (Literal × Json) → List (Literal × Json)
  perm (members : List (Literal × Json)) : (order members).Perm members

namespace Arrangement

variable (a : Arrangement)

mutual

def arrange : Json → Json
  | .array items => .array (arrangeItems items)
  | .object members => .object (a.order (arrangeMembers members))
  | j => j

def arrangeItems : List Json → List Json
  | [] => []
  | j :: rest => arrange j :: arrangeItems rest

def arrangeMembers : List (Literal × Json) → List (Literal × Json)
  | [] => []
  | (key, j) :: rest => (key, arrange j) :: arrangeMembers rest

end

lemma arrangeItems_eq (items : List Json) : a.arrangeItems items = items.map a.arrange := by
  induction items with
  | nil => rfl
  | cons j items ih => rw [arrangeItems, ih, List.map_cons]

lemma arrange_map {α : Type} (f : α → Json) (xs : List α) :
    a.arrange (.array (xs.map f)) = .array (xs.map fun x => a.arrange (f x)) := by
  rw [arrange, arrangeItems_eq, List.map_map]
  rfl

lemma arrangeMembers_eq (members : List (Literal × Json)) :
    a.arrangeMembers members = members.map fun m => (m.1, a.arrange m.2) := by
  induction members with
  | nil => rfl
  | cons m members ih => rw [arrangeMembers, ih, List.map_cons]

def standing : Arrangement where
  order members := members
  perm := .refl

mutual

lemma arrange_standing : ∀ j, standing.arrange j = j
  | .array items => congrArg array (arrangeItems_standing items)
  | .object members => congrArg object (arrangeMembers_standing members)
  | .null | .bool _ | .number _ | .string _ => rfl

lemma arrangeItems_standing : ∀ items, standing.arrangeItems items = items
  | [] => rfl
  | j :: items => by rw [arrangeItems, arrange_standing j, arrangeItems_standing items]

lemma arrangeMembers_standing : ∀ members, standing.arrangeMembers members = members
  | [] => rfl
  | (key, j) :: members => by
    rw [arrangeMembers, arrange_standing j, arrangeMembers_standing members]

end

end Arrangement

/-- An object gives a value to a name, and gives it nothing else. -/
def Gives (j : Json) (name : String) (v : Json) : Prop :=
  ∃ members, j = .object members ∧ members.filter (·.1 = .text name) = [(.text name, v)]

variable {α β : Type} {name : String} {names : List String} {ms ms' : List (String × Json)}

lemma mapM_eq_some_map {f : α → Option β} {g : α → β} {l : List α}
    (h : ∀ x ∈ l, f x = some (g x)) : l.mapM f = some (l.map g) := by
  induction l with
  | nil => rfl
  | cons x l ih =>
    obtain ⟨hx, hl⟩ := List.forall_mem_cons.mp h
    rw [List.mapM_cons, hx, ih hl]
    rfl

lemma filter_eq_singleton [DecidableEq α] {key : α} {v : β} {l : List (α × β)}
    (hkeys : (l.map Prod.fst).Nodup) (hv : (key, v) ∈ l) : l.filter (·.1 = key) = [(key, v)] := by
  induction l with
  | nil => contradiction
  | cons m l ih =>
    obtain ⟨hm, hkeys⟩ := List.nodup_cons.mp hkeys
    obtain rfl | hv := List.mem_cons.mp hv
    · rw [List.filter_cons_of_pos (by simp), List.cons.injEq]
      refine ⟨rfl, List.filter_eq_nil_iff.mpr ?_⟩
      intro m hmem hkey
      exact hm (List.mem_map.mpr ⟨m, hmem, of_decide_eq_true hkey⟩)
    · have hne : m.1 ≠ key := fun h => hm (List.mem_map.mpr ⟨_, hv, h.symm⟩)
      rw [List.filter_cons_of_neg (by simpa using hne), ih hkeys hv]

lemma member?_of_perm {v : Json} (hnames : (ms.map Prod.fst).Nodup) (hv : (name, v) ∈ ms)
    (hperm : ms'.Perm ms) : member? ms' name = some (some v) := by
  have hfilter := hperm.filter (·.1 = name)
  rw [filter_eq_singleton hnames hv, List.perm_singleton] at hfilter
  rw [member?, hfilter]

lemma exists_namedMembers? (a : Arrangement) (ms : List (String × Json)) :
    ∃ ms', namedMembers? (a.order (ms.map fun m => (.text m.1, m.2))) = some ms' ∧
      ms'.Perm ms := by
  let members := ms.map fun m => (Literal.text m.1, m.2)
  have hnamed : ∀ m ∈ a.order members,
      (m.1.text?.map (·, m.2)) = some (m.1.text?.getD "", m.2) := by
    intro m hm
    obtain ⟨m', -, rfl⟩ := List.mem_map.mp ((a.perm members).mem_iff.mp hm)
    rfl
  refine ⟨_, mapM_eq_some_map hnamed, ?_⟩
  have hperm := (a.perm members).map fun m => (m.1.text?.getD "", m.2)
  rw [List.map_map] at hperm
  exact hperm.trans (.of_eq (List.map_id ms))

namespace Arrangement

variable (a : Arrangement)

lemma arrange_record (ms : List (String × Json)) : a.arrange (record ms) =
    .object (a.order ((ms.map fun m => (m.1, a.arrange m.2)).map fun m => (.text m.1, m.2))) := by
  rw [record, arrange, arrangeMembers_eq, List.map_map, List.map_map]
  rfl

variable {a}

lemma gives_record {v : Json} (hnames : (ms.map Prod.fst).Nodup) (hv : (name, v) ∈ ms) :
    (a.arrange (record ms)).Gives name (a.arrange v) := by
  let members := (ms.map fun m => (m.1, a.arrange m.2)).map fun m => (Literal.text m.1, m.2)
  have hkeys : (members.map Prod.fst).Nodup := by
    have hliterals := List.Nodup.map (f := Literal.text) (fun _ _ => Literal.text.inj) hnames
    simpa [members, Function.comp_def] using hliterals
  have hmem : (.text name, a.arrange v) ∈ members :=
    List.mem_map_of_mem (List.mem_map_of_mem hv)
  have hfilter := (a.perm members).filter (·.1 = .text name)
  rw [filter_eq_singleton hkeys hmem, List.perm_singleton] at hfilter
  exact ⟨_, a.arrange_record ms, hfilter⟩

lemma gives_array (f : α → Json) (xs : List α) (hnames : (ms.map Prod.fst).Nodup)
    (hv : (name, .array (xs.map f)) ∈ ms) :
    (a.arrange (record ms)).Gives name (.array (xs.map fun x => a.arrange (f x))) := by
  rw [← arrange_map]
  exact gives_record hnames hv

lemma exists_members (hnames : (ms.map Prod.fst).Nodup) :
    ∃ members ms', a.arrange (record ms) = .object members ∧ namedMembers? members = some ms' ∧
      ∀ m ∈ ms, member? ms' m.1 = some (some (a.arrange m.2)) := by
  obtain ⟨ms', hms', hperm⟩ := exists_namedMembers? a (ms.map fun m => (m.1, a.arrange m.2))
  refine ⟨_, ms', a.arrange_record ms, hms', ?_⟩
  intro m hm
  refine member?_of_perm ?_ (List.mem_map.mpr ⟨m, hm, rfl⟩) hperm
  rwa [List.map_map]

lemma fields?_of_subset (hnames : (ms.map Prod.fst).Nodup) (hsub : ms' ⊆ ms) :
    (a.arrange (record ms)).fields? (ms'.map Prod.fst) =
      some (ms'.map fun m => some (a.arrange m.2)) := by
  obtain ⟨members, named, hrecord, hnamed, hmember⟩ := exists_members (a := a) hnames
  rw [hrecord, fields?, hnamed]
  refine List.mapM_map.trans (mapM_eq_some_map ?_)
  intro m hm
  exact hmember m (hsub hm)

lemma fields?_arrange (hms : ms.map Prod.fst = names) (hnames : names.Nodup) :
    (a.arrange (record ms)).fields? names = some (ms.map fun m => some (a.arrange m.2)) := by
  subst hms
  exact fields?_of_subset hnames (List.Subset.refl ms)

lemma fields?_of_tagged {tag : String × Json} (hms : ms.map Prod.fst = names)
    (hnames : (tag.1 :: names).Nodup) :
    (a.arrange (record (tag :: ms))).fields? names =
      some (ms.map fun m => some (a.arrange m.2)) := by
  subst hms
  exact fields?_of_subset hnames (List.subset_cons_self tag ms)

lemma areSound_eq_all (depth : ℕ) (items : List Json) :
    areSound depth items = items.all (isSound depth) := by
  induction items with
  | nil => rfl
  | cons j items ih => rw [areSound, ih, List.all_cons]

lemma areSoundMembers_eq_all (depth : ℕ) (members : List (Literal × Json)) :
    areSoundMembers depth members =
      members.all fun m => m.1.text?.isSome && isSound depth m.2 := by
  induction members with
  | nil => rfl
  | cons m members ih => rw [areSoundMembers, ih, List.all_cons]

mutual

lemma isSound_arrange (depth : ℕ) : ∀ j, isSound depth (a.arrange j) = isSound depth j
  | .array items => by
    cases depth with
    | zero => rfl
    | succ depth => exact areSound_arrangeItems depth items
  | .object members => by
    cases depth with
    | zero => rfl
    | succ depth =>
      rw [arrange, isSound, isSound, areSoundMembers_eq_all, (a.perm _).all_eq,
        ← areSoundMembers_eq_all]
      exact areSoundMembers_arrangeMembers depth members
  | .null | .bool _ | .number _ | .string _ => rfl

lemma areSound_arrangeItems (depth : ℕ) :
    ∀ items, areSound depth (a.arrangeItems items) = areSound depth items
  | [] => rfl
  | j :: items => by
    rw [arrangeItems, areSound, areSound, isSound_arrange depth j,
      areSound_arrangeItems depth items]

lemma areSoundMembers_arrangeMembers (depth : ℕ) :
    ∀ members, areSoundMembers depth (a.arrangeMembers members) = areSoundMembers depth members
  | [] => rfl
  | (key, j) :: members => by
    rw [arrangeMembers, areSoundMembers, areSoundMembers, isSound_arrange depth j,
      areSoundMembers_arrangeMembers depth members]

end

end Arrangement

end WirelessSelection.Json
