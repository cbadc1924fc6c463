import Mathlib.Data.List.Forall2
import WirelessSelection.Proofs.Json.Arrangement
import WirelessSelection.Scenario.Json

namespace WirelessSelection

namespace Json

variable {α : Type} {a : Arrangement}

lemma intIn?_ofInt {low high n : Int} (hl : low ≤ n) (hu : n < high) :
    (ofInt n).intIn? low high = some n := by
  simp [intIn?, int?, ofInt, Numeral.int?_ofInt, hl, hu]

@[simp] lemma int32?_arrange (n : Int32) : (a.arrange (ofInt32 n)).int32? = some n := by
  have hl : Int32.minValue.toInt ≤ n.toInt := n.le_toInt
  have hu : n.toInt < Int32.maxValue.toInt + 1 := Int.lt_add_one_of_le n.toInt_le
  change (ofInt n.toInt).int32? = some n
  rw [int32?, intIn?_ofInt hl hu, Option.map_some, Int32.ofInt_toInt]

@[simp] lemma uint32?_arrange (n : UInt32) : (a.arrange (ofUInt32 n)).uint32? = some n := by
  have hu : (n.toNat : Int) < UInt32.size := Int.ofNat_lt.mpr n.toNat_lt
  change (ofInt n.toNat).uint32? = some n
  rw [uint32?, intIn?_ofInt (Int.natCast_nonneg _) hu, Option.map_some, Int.toNat_natCast,
    UInt32.ofNat_toNat]

@[simp] lemma uint64?_arrange (n : UInt64) : (a.arrange (ofUInt64 n)).uint64? = some n := by
  have hu : (n.toNat : Int) < UInt64.size := Int.ofNat_lt.mpr n.toNat_lt
  change (ofInt n.toNat).uint64? = some n
  rw [uint64?, intIn?_ofInt (Int.natCast_nonneg _) hu, Option.map_some, Int.toNat_natCast,
    UInt64.ofNat_toNat]

@[simp] lemma text?_arrange (s : String) : (a.arrange (ofString s)).text? = some s :=
  rfl

@[simp] lemma variant?_arrange (s : String) : (a.arrange (ofString s)).variant? = some s :=
  rfl

@[simp] lemma bool?_arrange (b : Bool) : (a.arrange (.bool b)).bool? = some b :=
  rfl

-- Not by definition: the kernel would compute with the bounds of the integers to compare the sides.
@[simp] lemma required?_some (decode? : Json → Option α) (j : Json) :
    required? decode? (some j) = decode? j := by
  rw [required?, Option.bind_some]

@[simp] lemma defaulted?_some (decode? : Json → Option α) (d : α) (j : Json) :
    defaulted? decode? d (some j) = decode? j := by
  rw [defaulted?]

lemma list?_arrange {decode? : Json → Option α} {f : α → Json}
    (h : ∀ x, decode? (a.arrange (f x)) = some x) (xs : List α) :
    list? decode? (a.arrange (.array (xs.map f))) = some xs := by
  rw [Arrangement.arrange_map, list?, List.mapM_map]
  refine (mapM_eq_some_map (g := id) fun x _ => h x).trans ?_
  rw [List.map_id]

lemma nullable?_arrange {decode? : Json → Option α} {f : α → Json}
    (hnull : ∀ x, a.arrange (f x) ≠ .null) (h : ∀ x, decode? (a.arrange (f x)) = some x)
    (o : Option α) : nullable? decode? (a.arrange (ofOption f o)) = some o := by
  cases o with
  | none => rfl
  | some x =>
    rw [ofOption, nullable?, h, Option.map_some]
    exact hnull x

variable {depth : Nat}

@[simp] lemma isSound_null : isSound depth .null = true := by
  cases depth <;> rfl

@[simp] lemma isSound_ofString (s : String) : isSound depth (ofString s) = true := by
  cases depth <;> rfl

lemma isSound_ofInt {n : Int} (h : n.natAbs < UInt64.size) : isSound depth (ofInt n) = true := by
  have hfinite : (Numeral.ofInt n).isFinite = true := by
    simp [Numeral.isFinite, Numeral.ofInt, h]
  rw [ofInt]
  cases depth <;> exact hfinite

@[simp] lemma isSound_ofInt32 (n : Int32) : isSound depth (ofInt32 n) = true := by
  have hl : -2 ^ 31 ≤ n.toInt := n.le_toInt
  have hu : n.toInt < 2 ^ 31 := n.toInt_lt
  refine isSound_ofInt ?_
  simp only [UInt64.size]
  omega

@[simp] lemma isSound_ofUInt32 (n : UInt32) : isSound depth (ofUInt32 n) = true := by
  have hu : n.toNat < 2 ^ 32 := n.toNat_lt
  refine isSound_ofInt ?_
  simp only [UInt64.size]
  omega

@[simp] lemma isSound_ofUInt64 (n : UInt64) : isSound depth (ofUInt64 n) = true :=
  isSound_ofInt n.toNat_lt

lemma isSound_ofOption {f : α → Json} (h : ∀ x, isSound depth (f x) = true) (o : Option α) :
    isSound depth (ofOption f o) = true := by
  cases o with
  | none => exact isSound_null
  | some x => exact h x

@[simp] lemma isSound_array (items : List Json) :
    isSound (depth + 1) (.array items) = items.all (isSound depth) :=
  Arrangement.areSound_eq_all depth items

@[simp] lemma isSound_record (ms : List (String × Json)) :
    isSound (depth + 1) (record ms) = ms.all fun m => isSound depth m.2 := by
  rw [record, isSound, Arrangement.areSoundMembers_eq_all, List.all_map]
  rfl

end Json

open Json

variable (a : Arrangement)

@[simp] lemma Bssid.ofJson?_arrange (b : Bssid) : ofJson? (a.arrange b.toJson) = some b := by
  rw [ofJson?, toJson, text?_arrange, Option.bind_some, ofString?_text]

@[simp] lemma Security.ofJson?_arrange (s : Security) :
    ofJson? (a.arrange (ofString s.name)) = some s := by
  rw [ofJson?, variant?_arrange]
  cases s <;> rfl

@[simp] lemma Resolution.ofJson?_arrange (r : Resolution) :
    ofJson? (a.arrange (ofString r.name)) = some r := by
  rw [ofJson?, variant?_arrange]
  cases r <;> rfl

@[simp] lemma Thresholds.ofJson?_arrange (t : Thresholds) :
    ofJson? (a.arrange t.toJson) = some t := by
  rw [ofJson?, toJson, Arrangement.fields?_arrange (by rfl) (by decide)]
  simp

@[simp] lemma Weights.ofJson?_arrange (w : Weights) : ofJson? (a.arrange w.toJson) = some w := by
  rw [ofJson?, toJson, Arrangement.fields?_arrange (by rfl) (by decide)]
  simp

@[simp] lemma Settings.ofJson?_arrange (s : Settings) : ofJson? (a.arrange s.toJson) = some s := by
  rw [ofJson?, toJson, Arrangement.fields?_arrange (by rfl) (by decide)]
  simp

namespace Scenario

lemma SavedNetwork.ofJson?_arrange (n : SavedNetwork) : ofJson? (a.arrange n.toJson) = some n := by
  rw [ofJson?, toJson, Arrangement.fields?_arrange (by rfl) (by decide)]
  simp

lemma Sighting.ofJson?_arrange (s : Sighting) : ofJson? (a.arrange s.toJson) = some s := by
  rw [ofJson?, toJson, Arrangement.fields?_arrange (by rfl) (by decide)]
  simp

lemma Attachment.ofJson?_arrange (t : Attachment) : ofJson? (a.arrange t.toJson) = some t := by
  have hnull : ∀ s, a.arrange (ofString s) ≠ .null := by simp [Arrangement.arrange, ofString]
  rw [ofJson?, toJson, Arrangement.fields?_arrange (by rfl) (by decide)]
  simp [nullable?_arrange hnull text?_arrange]

@[simp] lemma linkOfJson?_arrange (link : Link) :
    linkOfJson? (a.arrange (ofString link.name)) = some link := by
  cases link <;> rfl

variable {depth : Nat}

lemma Sighting.isSound_toJson (s : Sighting) : isSound (depth + 1) s.toJson = true := by
  rw [toJson, isSound_record]
  simp [Bssid.toJson]

lemma Attachment.isSound_toJson (t : Attachment) : isSound (depth + 1) t.toJson = true := by
  rw [toJson, isSound_record]
  simp [Bssid.toJson, isSound_ofOption]

namespace Step

lemma isSound_toJson (st : Step) : isSound (depth + 3) st.toJson = true := by
  cases st with
  | scan time link attachment sightings =>
    have hattachment : isSound (depth + 2) (ofOption Attachment.toJson attachment) = true :=
      isSound_ofOption Attachment.isSound_toJson attachment
    rw [toJson, isSound_record]
    simp [hattachment, Sighting.isSound_toJson]
  | userChoice time ssid =>
    rw [toJson, isSound_record]
    simp

lemma ofAction?_scan (j : Json) : ofAction? "scan" j = scanOfJson? j :=
  rfl

lemma ofAction?_userChoice (j : Json) : ofAction? "user_choice" j = userChoiceOfJson? j :=
  rfl

variable {a} {action : String} {ms : List (String × Json)}

lemma ofJson?_of_tagged (hnames : ("action" :: ms.map Prod.fst).Nodup)
    (hsound : isSound (depthLimit + 1) (record (("action", ofString action) :: ms)) = true) :
    ofJson? (a.arrange (record (("action", ofString action) :: ms))) =
      ofAction? action (a.arrange (record (("action", ofString action) :: ms))) := by
  have hnames : ((("action", ofString action) :: ms).map Prod.fst).Nodup := hnames
  obtain ⟨members, named, hrecord, hnamed, hmember⟩ := Arrangement.exists_members (a := a) hnames
  have haction := hmember _ List.mem_cons_self
  rw [← a.isSound_arrange, hrecord] at hsound
  have hmembers : areSoundMembers depthLimit members = true := hsound
  rw [hrecord, ofJson?, hmembers, hnamed]
  simp [haction]

-- Not by definition either: the time is read first, and the kernel would compute with its bound.
lemma ofJson?_arrange (st : Step) : ofJson? (a.arrange st.toJson) = some st := by
  have hsound : isSound (depthLimit + 1) st.toJson = true := st.isSound_toJson
  cases st with
  | scan time link attachment sightings =>
    have hnull : ∀ t : Attachment, a.arrange t.toJson ≠ .null := by
      simp [Attachment.toJson, Arrangement.arrange_record]
    rw [toJson, ofJson?_of_tagged (by simp) hsound, ofAction?_scan, scanOfJson?,
      Arrangement.fields?_of_tagged (by rfl) (by decide)]
    simp -implicitDefEqProofs [nullable?_arrange hnull (Attachment.ofJson?_arrange a),
      list?_arrange (Sighting.ofJson?_arrange a)]
  | userChoice time ssid =>
    rw [toJson, ofJson?_of_tagged (by simp) hsound, ofAction?_userChoice, userChoiceOfJson?,
      Arrangement.fields?_of_tagged (by rfl) (by decide)]
    simp -implicitDefEqProofs

end Step

lemma ofJson?_arrange (s : Scenario) : ofJson? (a.arrange s.toJson) = some s := by
  rw [ofJson?, toJson, Arrangement.fields?_arrange (by rfl) (by decide)]
  simp [list?_arrange (SavedNetwork.ofJson?_arrange a), list?_arrange (Bssid.ofJson?_arrange a),
    list?_arrange (Step.ofJson?_arrange (a := a))]

inductive Step.IsShownBy (j : Json) : Step → Prop
  | scan {time : Millis} {link : Link} {attachment : Option Attachment} {sightings : List Sighting}
      {k : Json} {items : List Json} :
      j.Gives "action" (ofString "scan") → j.Gives "association" k →
      j.Gives "observations" (.array items) →
      attachment.elim (k = .null) (fun t => k.Gives "bssid" (ofString t.bssid.text)) →
      List.Forall₂ (fun s item => item.Gives "bssid" (ofString s.bssid.text)) sightings items →
      IsShownBy j (.scan time link attachment sightings)
  | userChoice {time : Millis} {ssid : String} :
      j.Gives "action" (ofString "user_choice") → IsShownBy j (.userChoice time ssid)

structure IsShownBy (s : Scenario) (j : Json) : Prop where
  blacklist : j.Gives "blacklist" (.array (s.blacklist.map fun b => ofString b.text))
  steps : ∃ items, j.Gives "steps" (.array items) ∧
    List.Forall₂ (fun st item => Step.IsShownBy item st) s.steps items

lemma Sighting.gives_bssid (s : Sighting) :
    (a.arrange s.toJson).Gives "bssid" (ofString s.bssid.text) :=
  Arrangement.gives_record (by simp) (List.mem_cons_of_mem _ List.mem_cons_self)

lemma Attachment.gives_bssid (t : Attachment) :
    (a.arrange t.toJson).Gives "bssid" (ofString t.bssid.text) :=
  Arrangement.gives_record (by simp) (List.mem_cons_of_mem _ List.mem_cons_self)

lemma Step.isShownBy_toJson (st : Step) : Step.IsShownBy (a.arrange st.toJson) st := by
  cases st with
  | scan time link attachment sightings =>
    have haction : (a.arrange (toJson (.scan time link attachment sightings))).Gives "action"
        (ofString "scan") := Arrangement.gives_record (by simp) List.mem_cons_self
    have hattachment : (a.arrange (toJson (.scan time link attachment sightings))).Gives
        "association" (a.arrange (ofOption Attachment.toJson attachment)) :=
      Arrangement.gives_record (by simp) (by simp)
    have hsightings : (a.arrange (toJson (.scan time link attachment sightings))).Gives
        "observations" (.array (sightings.map fun s => a.arrange s.toJson)) :=
      Arrangement.gives_array Sighting.toJson sightings (by simp) (by simp)
    refine .scan haction hattachment hsightings ?_ ?_
    · cases attachment with
      | none => rfl
      | some t => exact t.gives_bssid a
    · rw [List.forall₂_map_right_iff, List.forall₂_same]
      exact fun s _ => s.gives_bssid a
  | userChoice time ssid =>
    exact .userChoice (Arrangement.gives_record (by simp) List.mem_cons_self)

lemma isShownBy_toJson (s : Scenario) : s.IsShownBy (a.arrange s.toJson) where
  blacklist := Arrangement.gives_array Bssid.toJson s.blacklist (by simp) (by simp)
  steps := by
    refine ⟨_, Arrangement.gives_array Step.toJson s.steps (by simp) (by simp), ?_⟩
    rw [List.forall₂_map_right_iff, List.forall₂_same]
    exact fun st _ => st.isShownBy_toJson a

theorem ofJson?_toJson (s : Scenario) :
    (ofJson? s.toJson = some s ∧ s.IsShownBy s.toJson) ∧
      ∀ a : Arrangement,
        ofJson? (a.arrange s.toJson) = some s ∧ s.IsShownBy (a.arrange s.toJson) := by
  have hread (a : Arrangement) :
      ofJson? (a.arrange s.toJson) = some s ∧ s.IsShownBy (a.arrange s.toJson) :=
    ⟨s.ofJson?_arrange a, s.isShownBy_toJson a⟩
  have hstanding := hread .standing
  rw [Arrangement.arrange_standing] at hstanding
  exact ⟨hstanding, hread⟩

end Scenario

end WirelessSelection
