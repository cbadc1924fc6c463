import WirelessSelection.Proofs.Identity
import WirelessSelection.Proofs.Store.Refusal

/-! Calls on a table as they work in place, where nothing is undone. Each of them refuses what it
refuses before its first write. -/

namespace WirelessSelection

/-- What has been written before a failure stays written. -/
abbrev InPlace (α : Type) := ExceptT Fault (StateM ProfileTable) α

namespace InPlace

variable {α β : Type}

def exec (x : InPlace α) (t : ProfileTable) : Except Fault α × ProfileTable :=
  x.run.run t

def ofExcept : Except Fault α → InPlace α
  | .ok a => pure a
  | .error f => throw f

@[simp] lemma exec_pure (a : α) (t : ProfileTable) : exec (pure a) t = (.ok a, t) :=
  rfl

@[simp] lemma exec_throw (f : Fault) (t : ProfileTable) :
    exec (throw f : InPlace α) t = (.error f, t) :=
  rfl

@[simp] lemma exec_ofExcept (r : Except Fault α) (t : ProfileTable) :
    exec (ofExcept r) t = (r, t) := by
  cases r <;> rfl

@[simp] lemma exec_get (t : ProfileTable) : exec (get : InPlace ProfileTable) t = (.ok t, t) :=
  rfl

@[simp] lemma exec_modify (g : ProfileTable → ProfileTable) (t : ProfileTable) :
    exec (modify g : InPlace Unit) t = (.ok (), g t) :=
  rfl

@[simp] lemma exec_bind (x : InPlace α) (g : α → InPlace β) (t : ProfileTable) :
    exec (x >>= g) t = match exec x t with
      | (.ok a, t') => exec (g a) t'
      | (.error f, t') => (.error f, t') := by
  cases h : exec x t with
  | mk r t' =>
    change (ExceptT.bindCont g (exec x t).1) (exec x t).2 = _
    rw [h]
    cases r <;> rfl

def updateProfile (slot : NetworkId) (g : Profile → Profile) (t : ProfileTable) : ProfileTable :=
  { t with profiles := t.profiles.modify slot g }

def insertProfile (slot : NetworkId) (p : Profile) (t : ProfileTable) : ProfileTable :=
  { t with profiles := t.profiles.insert slot p }

-- The counter moves on before there is a profile with the id.
def allocate : InPlace NetworkId := do
  let (id, next) ← ofExcept (← get).allocate
  modify fun t => { t with nextId := next }
  return id

def save (slot : NetworkId) (existing : Profile) : InPlace NetworkId := do
  if existing.ephemeral then
    modify (updateProfile slot fun q => { q with ephemeral := false })
  return existing.id

def add (name : String) (security : Security) : InPlace NetworkId := do
  let p ← ofExcept (Profile.create (← get).nextId name security)
  match (← get).find? p.key with
  | some (slot, existing) => save slot existing
  | none =>
    let id ← allocate
    modify (insertProfile id p)
    return id

def createEphemeral (o : Observation) : InPlace Profile := do
  if !o.isOpen then
    throw .notOpen
  match ← ofExcept (ProfileStore.resolve (← get) o) with
  | some existing => return existing
  | none =>
    let created := Profile.create (← get).nextId o.ssid.text .unsecured
    let p ← ofExcept (created.mapError fun _ => .corrupted)
    let p := { p with ephemeral := true }
    let _ ← allocate
    modify (insertProfile p.id p)
    return p

def update (id : NetworkId) (g : ProfileTable → ProfileTable) : InPlace Unit := do
  if !(← get).profiles.contains id then
    throw (.unknownNetwork id)
  modify g

def setAvailability (id : NetworkId) (a : Availability) : InPlace Unit :=
  update id (updateProfile id fun p => { p with status := { p.status with availability := a } })

def markPicked (id : NetworkId) (timestamp : Millis) : InPlace Unit :=
  update id fun t => { t with lastPick := some { id, timestamp } }

def change (id : NetworkId) (c : Change) : InPlace Unit :=
  update id (updateProfile id (·.apply c))

variable {t : ProfileTable} {p : Profile}

lemma exec_allocate (t : ProfileTable) : allocate.exec t =
    if t.nextId < NetworkId.last then (.ok t.nextId, { t with nextId := t.nextId + 1 })
    else (.error .idsExhausted, t) := by
  simp only [allocate, ProfileTable.allocate, exec_bind, exec_get, exec_ofExcept]
  split_ifs <;> rfl

lemma exec_save {slot : NetworkId} (hp : t.profiles.get? slot = some p) : (save slot p).exec t =
    (.ok p.id, updateProfile slot (fun q => { q with ephemeral := false }) t) := by
  rw [save]
  cases he : p.ephemeral with
  | true => rfl
  | false =>
    rw [updateProfile, ProfileTable.modify_save_of_saved hp he]
    rfl

lemma id_of_create {id : NetworkId} {name : String} {security : Security}
    (h : Profile.create id name security = .ok p) : p.id = id := by
  obtain ⟨ssid, -, h⟩ := bind_eq_ok_iff.mp h
  rw [← Except.ok.inj h]

lemma exec_add (name : String) (security : Security) (t : ProfileTable) :
    (add name security).exec t = t.settle (t.add name security) := by
  rw [add, ProfileTable.add]
  simp only [exec_bind, exec_get, exec_ofExcept]
  cases hp : Profile.create t.nextId name security with
  | error f => rfl
  | ok p =>
    change (match t.find? p.key with
      | some (slot, existing) => _
      | none => _ : InPlace NetworkId).exec t = t.settle (match t.find? p.key with
      | some (slot, existing) => _
      | none => _)
    cases hfind : t.find? p.key with
    | some e => exact exec_save (ProfileTable.get?_of_find? hfind).1
    | none =>
      simp only [exec_bind, exec_allocate, ProfileTable.append, ProfileTable.allocate]
      split_ifs
      · rw [id_of_create hp]
        rfl
      · rfl

lemma exec_createEphemeral (o : Observation) (t : ProfileTable) :
    (createEphemeral o).exec t = ProfileStore.createEphemeral t o := by
  have hcreate : Profile.create t.nextId o.ssid.text .unsecured =
      .ok { id := t.nextId, ssid := o.ssid, security := .unsecured } := by
    rw [Profile.create, Ssid.parse_text]
    rfl
  rw [createEphemeral, ProfileTable.createEphemeral_eq_settle, ProfileTable.createEphemeral]
  cases o.isOpen with
  | false => rfl
  | true =>
    simp only [Bool.not_true, Bool.false_eq_true, ↓reduceIte, exec_bind, exec_get, exec_ofExcept,
      ProfileTable.resolve_eq]
    cases t.resolve o with
    | some existing => rfl
    | none =>
      simp only [exec_bind, exec_get, exec_ofExcept, hcreate, Except.mapError, exec_allocate,
        ProfileTable.append, ProfileTable.allocate]
      split_ifs <;> rfl

lemma exec_update (id : NetworkId) (g : ProfileTable → ProfileTable) (t : ProfileTable) :
    (update id g).exec t =
      if t.profiles.contains id then (.ok (), g t) else (.error (.unknownNetwork id), t) := by
  simp only [update, exec_bind, exec_get]
  cases t.profiles.contains id <;> rfl

end InPlace

inductive Part
  | availability
  | candidate
  | seen
  | choice

def Status.graft (s : Status) (part : Part) (s' : Status) : Status :=
  match part with
  | .availability => { s with availability := s'.availability }
  | .candidate => { s with candidate := s'.candidate, score := s'.score }
  | .seen => { s with seen := s'.seen }
  | .choice => { s with choice := s'.choice }

def Change.part : Change → Part
  | recordCandidate .. | clearCandidate => .candidate
  | setEnabled _ => .availability
  | setChoice _ | clearChoice => .choice
  | setSeen _ => .seen

lemma Status.apply_eq_graft (s : Status) (c : Change) : s.apply c = s.graft c.part (s.apply c) := by
  cases c <;> rfl

namespace ProfileTable

variable {t t' : ProfileTable} {id : NetworkId}

structure Touches (t : ProfileTable) (id : NetworkId) (part : Part) (t' : ProfileTable) : Prop where
  profile : ∃ p s, t.profiles.get? id = some p ∧
    t'.profiles.get? id = some { p with status := p.status.graft part s }
  others {i} : i ≠ id → t'.profiles.get? i = t.profiles.get? i
  nextId : t'.nextId = t.nextId
  lastPick : t'.lastPick = t.lastPick

lemma touches_of_modify {part : Part} {g : Profile → Profile}
    (hg : ∀ p, ∃ s, g p = { p with status := p.status.graft part s })
    (h : t.modify id g = .ok t') : t.Touches id part t' := by
  rw [modify] at h
  split at h
  · next hc =>
    obtain ⟨p, hp⟩ := Option.isSome_iff_exists.mp hc
    obtain ⟨s, hs⟩ := hg p
    obtain rfl := Except.ok.inj h
    refine ⟨⟨p, s, hp, ?_⟩, fun hi => ?_, rfl, rfl⟩
    · rw [IdMap.get?_modify, if_pos rfl, hp, Option.map_some, hs]
    · rw [IdMap.get?_modify, if_neg hi]
  · contradiction

inductive Call
  | add (name : String) (security : Security)
  | createEphemeral (o : Observation)
  | setAvailability (id : NetworkId) (a : Availability)
  | markPicked (id : NetworkId) (timestamp : Millis)
  | change (id : NetworkId) (c : Change)

namespace Call

@[reducible] def Reply : Call → Type
  | add .. => NetworkId
  | createEphemeral _ => Profile
  | setAvailability .. | markPicked .. | change .. => Unit

def run (t : ProfileTable) : (call : Call) → Except Fault call.Reply × ProfileTable
  | add name security => t.settle (t.add name security)
  | createEphemeral o => ProfileStore.createEphemeral t o
  | setAvailability id a => t.settle ((t.setAvailability id a).map ((), ·))
  | markPicked id timestamp => t.settle ((t.markPicked id timestamp).map ((), ·))
  | change id c => ProfileStore.change t id c

def inPlace : (call : Call) → InPlace call.Reply
  | add name security => .add name security
  | createEphemeral o => .createEphemeral o
  | setAvailability id a => .setAvailability id a
  | markPicked id timestamp => .markPicked id timestamp
  | change id c => .change id c

def slot? : Call → Option NetworkId
  | add .. | createEphemeral _ => none
  | setAvailability id _ | markPicked id _ | change id _ => some id

inductive Refused (t : ProfileTable) : Call → Fault → Prop
  | nameTooLong {name security} : 32 < name.utf8ByteSize →
      Refused t (add name security) .ssidTooLong
  | noIdToSave {name security ssid} : Ssid.parse name = .ok ssid →
      t.find? (.derive ssid security) = none → t.nextId = NetworkId.last →
      Refused t (add name security) .idsExhausted
  | notOpen {o} : o.isOpen = false → Refused t (createEphemeral o) .notOpen
  | noIdToCreate {o} : o.isOpen = true → t.resolve o = none → t.nextId = NetworkId.last →
      Refused t (createEphemeral o) .idsExhausted
  | notStored {call id} : call.slot? = some id → t.profiles.get? id = none →
      Refused t call (.unknownNetwork id)

def Leaves (t t' : ProfileTable) : Call → Prop
  | add .. => (∃ slot, t' = InPlace.updateProfile slot (fun p => { p with ephemeral := false }) t) ∨
      ∃ p, t.append p = .ok t'
  | createEphemeral _ => t' = t ∨ ∃ p, t.append p = .ok t'
  | setAvailability id _ => t.Touches id .availability t'
  | markPicked id timestamp => t' = { t with lastPick := some { id, timestamp } }
  | change id c => t.Touches id c.part t'

lemma exec_inPlace (call : Call) (t : ProfileTable) : call.inPlace.exec t = call.run t := by
  cases call with
  | add name security => exact InPlace.exec_add name security t
  | createEphemeral o => exact InPlace.exec_createEphemeral o t
  | setAvailability id a =>
    refine (InPlace.exec_update id _ t).trans ?_
    rw [run, ProfileTable.setAvailability, modify]
    split <;> rfl
  | markPicked id timestamp =>
    refine (InPlace.exec_update id _ t).trans ?_
    rw [run, ProfileTable.markPicked]
    split <;> rfl
  | change id c =>
    refine (InPlace.exec_update id _ t).trans ?_
    rw [run, change_eq_settle, modify]
    split <;> rfl

lemma refused_iff_of_slot? {call : Call} {f : Fault} (h : call.slot? = some id) :
    call.Refused t f ↔ t.profiles.get? id = none ∧ f = .unknownNetwork id := by
  constructor
  · intro hr
    cases hr with
    | notStored hslot hnone =>
      obtain rfl := Option.some.inj (hslot.symm.trans h)
      exact ⟨hnone, rfl⟩
    | nameTooLong | noIdToSave | notOpen | noIdToCreate => contradiction
  · rintro ⟨hnone, rfl⟩
    exact .notStored h hnone

lemma run_eq_error_iff {call : Call} {f : Fault} :
    call.run t = (.error f, t') ↔ call.Refused t f ∧ t' = t := by
  cases call with
  | add name security =>
    rw [run, settle_eq_error_iff, add_eq_error_iff]
    refine and_congr_left' ⟨?_, ?_⟩
    · rintro (⟨hlong, rfl⟩ | ⟨ssid, hname, hnew, hlast, rfl⟩)
      · exact .nameTooLong hlong
      · exact .noIdToSave hname hnew hlast
    · rintro (hlong | ⟨hname, hnew, hlast⟩ | _ | _ | hslot)
      · exact .inl ⟨hlong, rfl⟩
      · exact .inr ⟨_, hname, hnew, hlast, rfl⟩
      · contradiction
  | createEphemeral o =>
    rw [run, createEphemeral_eq_settle, settle_eq_error_iff, createEphemeral_eq_error_iff]
    refine and_congr_left' ⟨?_, ?_⟩
    · rintro (⟨hclosed, rfl⟩ | ⟨hopen, hnew, hlast, rfl⟩)
      · exact .notOpen hclosed
      · exact .noIdToCreate hopen hnew hlast
    · rintro (_ | _ | hclosed | ⟨hopen, hnew, hlast⟩ | hslot)
      · exact .inl ⟨hclosed, rfl⟩
      · exact .inr ⟨hopen, hnew, hlast, rfl⟩
      · contradiction
  | setAvailability id a =>
    rw [run, settle_eq_error_iff, map_eq_error_iff, refused_iff_of_slot? rfl]
    exact and_congr_left' modify_eq_error_iff
  | markPicked id timestamp =>
    rw [run, settle_eq_error_iff, map_eq_error_iff, refused_iff_of_slot? rfl]
    exact and_congr_left' markPicked_eq_error_iff
  | change id c =>
    rw [run, change_eq_settle, settle_eq_error_iff, map_eq_error_iff, refused_iff_of_slot? rfl]
    exact and_congr_left' modify_eq_error_iff

lemma leaves_of_run {call : Call} {reply : call.Reply} (h : call.run t = (.ok reply, t')) :
    call.Leaves t t' := by
  cases call with
  | add name security =>
    obtain ⟨ssid, -, ⟨slot, p, -, -, rfl⟩ | ⟨-, -, happend⟩⟩ := add_cases (settle_eq_ok_iff.mp h)
    · exact .inl ⟨slot, rfl⟩
    · exact .inr ⟨_, happend⟩
  | createEphemeral o =>
    obtain ⟨-, ⟨-, rfl⟩ | ⟨-, -, happend⟩⟩ := createEphemeral_cases (settle_eq_ok_iff.mp h)
    · exact .inl rfl
    · exact .inr ⟨_, happend⟩
  | setAvailability id a =>
    exact touches_of_modify (fun p => ⟨{ p.status with availability := a }, rfl⟩)
      (map_mk_eq_ok_iff.mp (settle_eq_ok_iff.mp h))
  | markPicked id timestamp =>
    have hmark : t.markPicked id timestamp = .ok t' := map_mk_eq_ok_iff.mp (settle_eq_ok_iff.mp h)
    rw [ProfileTable.markPicked] at hmark
    split at hmark
    · exact (Except.ok.inj hmark).symm
    · contradiction
  | change id c =>
    refine touches_of_modify (fun p => ⟨p.status.apply c, ?_⟩)
      (map_mk_eq_ok_iff.mp (settle_eq_ok_iff.mp h))
    rw [Profile.apply, ← Status.apply_eq_graft]

end Call

theorem failed_call_changes_nothing (t t' : ProfileTable) (call : Call) :
    (∀ f, call.inPlace.exec t = (.error f, t') ↔ call.Refused t f ∧ t' = t) ∧
      (∀ reply, call.inPlace.exec t = (.ok reply, t') → call.Leaves t t') ∧
      call.inPlace.exec t = call.run t := by
  rw [call.exec_inPlace]
  exact ⟨fun f => Call.run_eq_error_iff, fun reply => Call.leaves_of_run, rfl⟩

def strayTable : ProfileTable where
  profiles := .ofList [
    (3, { id := 9, ssid := Sample.home.ssid, security := .psk }),
    (7, { id := 3, ssid := Sample.cafe.ssid, security := .unsecured, ephemeral := true })]
  nextId := NetworkId.last
  lastPick := some ⟨9, 60000⟩

theorem failed_call_changes_nothing_strayTable :
    Snapshot.decode (Snapshot.encode strayTable) = .ok strayTable ∧
      (Call.add "office" .psk).inPlace.exec strayTable = (.error .idsExhausted, strayTable) ∧
      (Call.createEphemeral Sample.office).inPlace.exec strayTable = (.error .notOpen, strayTable) ∧
      (Call.markPicked 9 0).inPlace.exec strayTable = (.error (.unknownNetwork 9), strayTable) ∧
      ∃ t', (Call.change 3 (.recordCandidate Sample.home (-5))).inPlace.exec strayTable =
        (.ok (), t') ∧ strayTable.Touches 3 .candidate t' := by
  have hfails (call : Call) {f : Fault} (h : call.Refused strayTable f) :
      call.inPlace.exec strayTable = (.error f, strayTable) :=
    ((failed_call_changes_nothing strayTable strayTable call).1 f).mpr ⟨h, rfl⟩
  refine ⟨HasFreshId.decode_encode (by decide), hfails _ ?_, hfails _ ?_, hfails _ ?_, ?_⟩
  · exact .noIdToSave rfl (by decide) rfl
  · exact .notOpen (by decide)
  · exact .notStored rfl (by decide)
  · let call := Call.change 3 (.recordCandidate Sample.home (-5))
    obtain ⟨t', ht'⟩ : ∃ t', call.inPlace.exec strayTable = (.ok (), t') := ⟨_, rfl⟩
    exact ⟨t', ht', (failed_call_changes_nothing strayTable t' call).2.1 () ht'⟩

end ProfileTable

end WirelessSelection
