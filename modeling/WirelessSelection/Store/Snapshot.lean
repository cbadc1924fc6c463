import WirelessSelection.Codec.Text
import WirelessSelection.Store.Table

/-! A table of profiles as bytes: a version, the profiles by id, the next id and the last pick. -/

namespace WirelessSelection

namespace Format

variable {α : Type}

def enumerated (values : List α) (index : α → UInt32)
    (h : ∀ a, values[(index a).toNat]? = some a) : Format α :=
  Varint.word32.adapt (fun w => values[w.toNat]?) index h

def counted (f : Format α) : Format { l : List α // l.length < UInt64.size } where
  write l := Varint.count.write ⟨l.val.length, l.property⟩ ++ l.val.flatMap f.write
  read b := do
    let (n, b) ← Varint.count.read b
    match h : readMany f n.val b with
    | some (l, b) => some (⟨l, length_of_readMany f h ▸ n.isLt⟩, b)
    | none => none
  read_write l rest := by
    simp only [List.append_assoc, Varint.count.read_write, bind, Option.bind_some]
    have hr := readMany_write f l.val rest
    split
    · next h =>
      rw [hr] at h
      simp only [Option.some.injEq, Prod.mk.injEq] at h
      obtain ⟨rfl, rfl⟩ := h
      rfl
    · next h =>
      rw [hr] at h
      simp at h
  read_append {b rest v} h t := by
    simp only [bind, Option.bind_eq_some_iff] at h ⊢
    obtain ⟨⟨n, b₁⟩, h₁, h₂⟩ := h
    refine ⟨(n, b₁ ++ t), Varint.count.read_append h₁ t, ?_⟩
    split at h₂
    · next hm =>
      simp only [Option.some.injEq, Prod.mk.injEq] at h₂
      obtain ⟨rfl, rfl⟩ := h₂
      have hr := readMany_append f hm t
      split
      · next h =>
        rw [hr] at h
        simp only [Option.some.injEq, Prod.mk.injEq] at h
        obtain ⟨rfl, rfl⟩ := h
        rfl
      · next h =>
        rw [hr] at h
        simp at h
    · simp at h₂

def idMap (f : Format α) : Format (IdMap α) :=
  (counted (Varint.word32.pair f)).iso (fun l => .ofList l.val)
    (fun m => ⟨m.entries, Nat.lt_of_le_of_lt m.length_entries_le (by decide)⟩)
    fun m => m.ofList_entries

end Format

namespace Snapshot

open Format Varint

def ssid : Format Ssid :=
  shortText.adapt (fun s => Ssid.ofString? s.text)
    (fun s => ⟨s.text, Nat.lt_of_le_of_lt s.size_le (by decide)⟩)
    fun s => by simp [Ssid.ofString?, s.size_le]

theorem utf8ByteSize_ofList_le (l : List Char) : (String.ofList l).utf8ByteSize ≤ 4 * l.length := by
  induction l with
  | nil => simp
  | cons c l ih =>
    have := c.utf8Size_le_four
    simp only [String.ofList_cons, String.utf8ByteSize_append, String.utf8ByteSize_singleton,
      List.length_cons]
    omega

def bssid : Format Bssid :=
  shortText.adapt (fun s => Bssid.ofString? s.text)
    (fun b => ⟨b.text, by
      have := utf8ByteSize_ofList_le b.chars
      rw [b.length_chars] at this
      exact Nat.lt_of_le_of_lt this (by decide)⟩) Bssid.ofString?_text

def observation : Format Observation :=
  (ssid.pair (bssid.pair (word32.pair (int32.pair (byte.pair word64))))).iso
    (fun (ssid, bssid, frequency, rssi, bits, timestamp) =>
      { ssid, bssid, frequency, rssi, capabilities := ⟨bits⟩, timestamp })
    (fun o => (o.ssid, o.bssid, o.frequency, o.rssi, o.capabilities.bits, o.timestamp))
    fun _ => rfl

def security : Format Security :=
  enumerated [.unsecured, .wep, .psk, .sae, .eap]
    (fun | .unsecured => 0 | .wep => 1 | .psk => 2 | .sae => 3 | .eap => 4)
    fun s => by cases s <;> rfl

def availability : Format Availability :=
  enumerated [.enabled, .temporarilyDisabled, .permanentlyDisabled]
    (fun | .enabled => 0 | .temporarilyDisabled => 1 | .permanentlyDisabled => 2)
    fun a => by cases a <;> rfl

def choice : Format ConnectChoice :=
  (shortText.pair word64).iso
    (fun (key, timestamp) => { key := ⟨key.text, key.size_lt⟩, timestamp })
    (fun c => (⟨c.key.text, c.key.size_lt⟩, c.timestamp)) fun _ => rfl

def status : Format Status :=
  (availability.pair
      ((option observation).pair ((option int32).pair (bit.pair (option choice))))).iso
    (fun (availability, candidate, score, seen, choice) =>
      { availability, candidate, score, seen, choice })
    (fun s => (s.availability, s.candidate, s.score, s.seen, s.choice)) fun _ => rfl

def profile : Format Profile :=
  (word32.pair (ssid.pair (security.pair (bit.pair status)))).iso
    (fun (id, ssid, security, ephemeral, status) => { id, ssid, security, ephemeral, status })
    (fun p => (p.id, p.ssid, p.security, p.ephemeral, p.status)) fun _ => rfl

def pick : Format Pick :=
  (word32.pair word64).iso (fun (id, timestamp) => { id, timestamp })
    (fun p => (p.id, p.timestamp)) fun _ => rfl

def table : Format ProfileTable :=
  ((idMap profile).pair (word32.pair (option pick))).iso
    (fun (profiles, nextId, lastPick) => { profiles, nextId, lastPick })
    (fun t => (t.profiles, t.nextId, t.lastPick)) fun _ => rfl

def version : UInt8 := 1

/-- Moves the next id behind the ids in use; there is none behind the last one. -/
def repair? (t : ProfileTable) : Option ProfileTable :=
  match t.profiles.lastKey? with
  | none => some t
  | some last =>
    if last = NetworkId.last then none
    else some { t with nextId := max t.nextId (last + 1) }

def encode (t : ProfileTable) : Bytes :=
  version :: table.write t

def decode? : Bytes → Option ProfileTable
  | [] => none
  | v :: body => if v = version then do repair? (← table.read body).1 else none

theorem decode?_encode_append (t : ProfileTable) (rest : Bytes) :
    decode? (encode t ++ rest) = repair? t := by
  simp [encode, decode?, table.read_write]

def decode (b : Bytes) : Except Fault ProfileTable :=
  match decode? b with
  | some t => .ok t
  | none => .error .corrupted

end Snapshot

end WirelessSelection
