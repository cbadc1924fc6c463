import WirelessSelection.Proofs.Round
import WirelessSelection.Proofs.Store.Restoration

namespace WirelessSelection

/-- A call on the table or its port, a round or a pick over it, or a restart from its own bytes. -/
inductive Operation
  | add (ssid : String) (security : Security)
  | remove (id : NetworkId)
  | setAvailability (id : NetworkId) (a : Availability)
  | markPicked (id : NetworkId) (timestamp : Millis)
  | write (w : Write)
  | select (sel : Selector ProfileTable) (isDefault : sel.IsDefault) (req : Request) (now : Millis)
  | choose (id : NetworkId) (wall : Millis)
  | reload

namespace Operation

def run (op : Operation) (t : ProfileTable) : ProfileTable :=
  match op with
  | add ssid security => ((t.add ssid security).map Prod.snd).toOption.getD t
  | remove id => (t.remove id).2
  | setAvailability id a => (t.setAvailability id a).toOption.getD t
  | markPicked id timestamp => (t.markPicked id timestamp).toOption.getD t
  | write w => w.run t
  | select sel _ req now => (sel.select req now t).store
  | choose id wall => (Override.choose t id wall).2.2
  | reload => (Snapshot.decode (Snapshot.encode t)).toOption.getD t

def runAll (ops : List Operation) (t : ProfileTable) : ProfileTable :=
  ops.foldl (fun t op => op.run t) t

lemma runAll_append (ops ops' : List Operation) (t : ProfileTable) :
    runAll (ops ++ ops') t = runAll ops' (runAll ops t) :=
  List.foldl_append ..

end Operation

namespace ProfileTable

variable {t : ProfileTable}

def Reachable (t : ProfileTable) : Prop :=
  ∃ ops, Operation.runAll ops empty = t

lemma getD_toOption_cases (t : ProfileTable) (r : Except Fault ProfileTable) :
    r = .ok (r.toOption.getD t) ∨ r.toOption.getD t = t := by
  cases r with
  | error f => exact .inr rfl
  | ok t' => exact .inl rfl

lemma run_setAvailability (t : ProfileTable) (id : NetworkId) (a : Availability) :
    (Operation.setAvailability id a).run t = { t with
      profiles := t.profiles.modify id fun p => { p with status := { p.status with
        availability := a } } } := by
  rw [Operation.run, setAvailability, modify]
  split
  · rfl
  · next h =>
    have hnone : t.profiles.get? id = none := by simpa [IdMap.contains] using h
    rw [IdMap.modify_of_get?_eq_none hnone]
    rfl

lemma add_run_cases (t : ProfileTable) (ssid : String) (security : Security) :
    (∃ id, t.add ssid security = .ok (id, (Operation.add ssid security).run t)) ∨
      (Operation.add ssid security).run t = t := by
  rw [Operation.run]
  cases t.add ssid security with
  | error f => exact .inr rfl
  | ok r => exact .inl ⟨r.1, rfl⟩

lemma WellFormed.reload (h : t.WellFormed) : Operation.reload.run t = t := by
  rw [Operation.run, h.hasFreshId.decode_encode]
  rfl

lemma WellFormed.run_operation (h : t.WellFormed) (op : Operation) : (op.run t).WellFormed := by
  cases op with
  | add ssid security =>
    obtain ⟨id, ht⟩ | ht := add_run_cases t ssid security
    · exact h.add ht
    · rwa [ht]
  | remove id => exact h.remove id
  | setAvailability id a =>
    rw [run_setAvailability]
    exact h.modify id (harmless_setAvailability a)
  | markPicked id timestamp =>
    obtain ht | ht := getD_toOption_cases t (t.markPicked id timestamp)
    · exact h.markPicked ht
    · rwa [Operation.run, ht]
  | write w => exact h.run w
  | select sel hs req now => exact h.writes (Selector.select_ofRound hs req now t)
  | choose id wall =>
    rw [Operation.run, Override.choose_snd]
    exact h.writes (Override.pick_writes t id wall)
  | reload => rwa [h.reload]

lemma WellFormed.runAll (h : t.WellFormed) (ops : List Operation) :
    (Operation.runAll ops t).WellFormed := by
  induction ops generalizing t with
  | nil => exact h
  | cons op ops ih => exact ih (h.run_operation op)

lemma Reachable.wellFormed (h : t.Reachable) : t.WellFormed := by
  obtain ⟨ops, rfl⟩ := h
  exact empty_wellFormed.runAll ops

end ProfileTable

namespace Sample

def observation (ssid : Ssid) (octet : UInt8) (rssi : Int32) (capabilities : Capabilities) :
    Observation where
  ssid
  bssid := ⟨#v[2, 0, 0, 0, 0, octet]⟩
  frequency := 2412
  rssi
  capabilities
  timestamp := 0

def home : Observation :=
  observation ⟨"home", by decide⟩ 1 (-60) .psk

def office : Observation :=
  observation ⟨"office", by decide⟩ 2 (-75) .psk

def cafe : Observation :=
  observation ⟨"cafe", by decide⟩ 3 (-70) .none

def request (link : Link) : Request where
  scan := [home, office, cafe]
  association := { bssid := some home.bssid }
  link
  untrustedAllowed := true

def selector : Selector ProfileTable where
  settings := {}
  panel.seats := [⟨1, UntrustedNetworks.evaluator⟩, ⟨2, SavedNetworks.evaluator⟩]

lemma isDefault_selector : selector.IsDefault :=
  ⟨{}, rfl⟩

def table : ProfileTable :=
  Operation.runAll [.add "home" .psk, .add "office" .psk] .empty

lemma reachable_table : table.Reachable :=
  ⟨_, rfl⟩

end Sample

end WirelessSelection
