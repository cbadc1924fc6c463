import WirelessSelection.Proofs.Invariant
import WirelessSelection.Proofs.Store.Refusal

/-! Ids as they are handed out. A ledger is a table with a note of every call that may make a
profile. -/

namespace WirelessSelection

namespace ProfileTable

variable {t : ProfileTable}

lemma add_eq_idsExhausted_iff {name : String} {security : Security} :
    t.add name security = .error .idsExhausted ↔ t.nextId = NetworkId.last ∧
      ∃ ssid, Ssid.parse name = .ok ssid ∧ t.find? (.derive ssid security) = none := by
  rw [add_eq_error_iff]
  constructor
  · rintro (⟨-, h⟩ | ⟨ssid, hname, hnew, hlast, -⟩)
    · contradiction
    · exact ⟨hlast, ssid, hname, hnew⟩
  · rintro ⟨hlast, ssid, hname, hnew⟩
    exact .inr ⟨ssid, hname, hnew, hlast, rfl⟩

lemma createEphemeral_eq_idsExhausted_iff {o : Observation} :
    ProfileStore.createEphemeral t o = (.error .idsExhausted, t) ↔ t.nextId = NetworkId.last ∧
      o.isOpen = true ∧ t.resolve o = none := by
  rw [createEphemeral_eq_settle, settle_eq_error_iff, and_iff_left rfl,
    createEphemeral_eq_error_iff]
  constructor
  · rintro (⟨-, h⟩ | ⟨hopen, hnew, hlast, -⟩)
    · contradiction
    · exact ⟨hlast, hopen, hnew⟩
  · rintro ⟨hlast, hopen, hnew⟩
    exact .inr ⟨hopen, hnew, hlast, rfl⟩

end ProfileTable

structure Creation where
  before : ProfileTable
  after : ProfileTable

namespace Creation

variable {c : Creation} {p : Profile} {t t' : ProfileTable}

def made (c : Creation) : List NetworkId :=
  c.after.profiles.keys.filter (· ∉ c.before.profiles.keys)

def Reuses (c : Creation) : Prop :=
  c.after = c.before ∨ ∃ slot, c.after = { c.before with
    profiles := c.before.profiles.modify slot fun p => { p with ephemeral := false } }

structure Inserts (c : Creation) (p : Profile) : Prop where
  entries : c.after.profiles.entries = c.before.profiles.entries ++ [(p.id, p)]
  behind : ∀ id ∈ c.before.profiles.keys, id < p.id
  issued : p.id = c.before.nextId
  advances : c.before.nextId < c.after.nextId
  lastPick : c.after.lastPick = c.before.lastPick

lemma Reuses.keys (h : c.Reuses) : c.after.profiles.keys = c.before.profiles.keys := by
  obtain h | ⟨slot, h⟩ := h <;> rw [h]
  exact IdMap.keys_modify ..

lemma Reuses.nextId (h : c.Reuses) : c.after.nextId = c.before.nextId := by
  obtain h | ⟨slot, h⟩ := h <;> rw [h]

lemma Reuses.made (h : c.Reuses) : c.made = [] := by
  rw [Creation.made, h.keys, List.filter_eq_nil_iff]
  simp

lemma Inserts.keys (h : c.Inserts p) :
    c.after.profiles.keys = c.before.profiles.keys ++ [p.id] := by
  rw [IdMap.keys, h.entries, List.map_append]
  rfl

lemma Inserts.made (h : c.Inserts p) : c.made = [p.id] := by
  have hnew : p.id ∉ c.before.profiles.keys := fun hm => UInt32.lt_irrefl _ (h.behind _ hm)
  rw [Creation.made, h.keys, List.filter_append]
  simp [hnew]

lemma inserts_of_append (ht : t.HasFreshId) (hid : p.id = t.nextId) (ha : t.append p = .ok t') :
    Inserts ⟨t, t'⟩ p := by
  obtain ⟨hlast, rfl⟩ := ProfileTable.append_eq_ok_iff.mp ha
  have hentries : ∀ e ∈ t.profiles.entries, e.1 < t.nextId := fun e he =>
    ht e.1 (List.mem_map_of_mem he)
  refine ⟨?_, ?_, hid, ProfileTable.lt_succ_of_lt_last hlast, rfl⟩
  · rw [hid]
    exact IdMap.insertEntry_of_forall_lt t.nextId p hentries
  · rw [hid]
    exact ht

lemma of_add (ht : t.HasFreshId) (name : String) (security : Security) :
    Reuses ⟨t, (Operation.add name security).run t⟩ ∨
      ∃ p, Inserts ⟨t, (Operation.add name security).run t⟩ p := by
  obtain ⟨id, ha⟩ | ha := ProfileTable.add_run_cases t name security
  · obtain ⟨ssid, -, ⟨slot, p, -, -, he⟩ | ⟨-, -, he⟩⟩ := ProfileTable.add_cases ha
    · exact .inl (.inr ⟨slot, he⟩)
    · exact .inr ⟨_, inserts_of_append ht rfl he⟩
  · exact .inl (.inl ha)

lemma of_createEphemeral (ht : t.HasFreshId) (o : Observation) :
    Reuses ⟨t, (ProfileStore.createEphemeral t o).2⟩ ∨
      ∃ p, Inserts ⟨t, (ProfileStore.createEphemeral t o).2⟩ p := by
  obtain he | ⟨-, -, ha⟩ := ProfileTable.createEphemeral_snd t o
  · exact .inl (.inl he)
  · exact .inr ⟨_, inserts_of_append ht rfl ha⟩

lemma keys_after (h : c.Reuses ∨ ∃ p, c.Inserts p) :
    c.after.profiles.keys = c.before.profiles.keys ++ c.made := by
  obtain h | ⟨p, h⟩ := h
  · rw [h.keys, h.made, List.append_nil]
  · rw [h.keys, h.made]

lemma pairwise_made (h : c.Reuses ∨ ∃ p, c.Inserts p) : c.made.Pairwise (· < ·) := by
  obtain h | ⟨p, h⟩ := h
  · rw [h.made]
    exact .nil
  · rw [h.made]
    exact List.pairwise_singleton ..

lemma of_mem_made (h : c.Reuses ∨ ∃ p, c.Inserts p) {id : NetworkId} (hid : id ∈ c.made) :
    id = c.before.nextId ∧ id < c.after.nextId := by
  obtain h | ⟨p, h⟩ := h
  · rw [h.made] at hid
    contradiction
  · rw [h.made, List.mem_singleton] at hid
    rw [hid, h.issued]
    exact ⟨rfl, h.advances⟩

lemma nextId_le (h : c.Reuses ∨ ∃ p, c.Inserts p) : c.before.nextId ≤ c.after.nextId := by
  obtain h | ⟨p, h⟩ := h
  · rw [h.nextId]
    exact UInt32.le_refl _
  · exact UInt32.le_of_lt h.advances

lemma hasFreshId (h : c.Reuses ∨ ∃ p, c.Inserts p) (ht : c.before.HasFreshId) :
    c.after.HasFreshId := by
  intro id hid
  rw [keys_after h] at hid
  obtain hid | hid := List.mem_append.mp hid
  · exact UInt32.lt_of_lt_of_le (ht id hid) (nextId_le h)
  · exact (of_mem_made h hid).2

end Creation

structure Ledger where
  table : ProfileTable
  creations : List Creation := []

namespace Ledger

variable {start t : ProfileTable} {l : Ledger}

def note (l : Ledger) (t : ProfileTable) : Ledger where
  table := t
  creations := l.creations ++ [⟨l.table, t⟩]

def issued (l : Ledger) : List NetworkId :=
  l.creations.flatMap Creation.made

open ProfileStore

instance : ProfileStore Ledger where
  resolve l := resolve l.table
  profile? l := profile? l.table
  saved l := saved l.table
  all l := all l.table
  lastPick? l := lastPick? l.table
  createEphemeral l o :=
    let (result, t) := createEphemeral l.table o
    (result, l.note t)
  change l id c :=
    let (result, t) := change l.table id c
    (result, { l with table := t })

lemma run_change (l : Ledger) (id : NetworkId) (c : Change) :
    (Write.change id c).run l = { l with table := l.table.changed id c } :=
  congrArg (Ledger.mk · l.creations) (ProfileTable.change_snd l.table id c)

lemma table_run (l : Ledger) (w : Write) : (w.run l).table = w.run l.table := by
  cases w <;> rfl

def isPlain : Operation → Bool
  | .remove _ | .setAvailability .. | .markPicked .. | .reload => true
  | .add .. | .write _ | .select .. | .choose .. => false

/-- The ledgers of all runs that begin with a table. Rounds and picks act on the ledger itself, which
notes what they ask of the table. -/
inductive Follows (start : ProfileTable) : Ledger → Prop
  | start : Follows start { table := start }
  | add {l : Ledger} (h : Follows start l) (name : String) (security : Security) :
    Follows start (l.note ((Operation.add name security).run l.table))
  | plain {l : Ledger} (h : Follows start l) (op : Operation) (hop : isPlain op = true) :
    Follows start { l with table := op.run l.table }
  | write {l : Ledger} (h : Follows start l) (w : Write) : Follows start (w.run l)
  | round {l : Ledger} (h : Follows start l) {sel : Selector Ledger} (hs : sel.Lawful)
    (req : Request) (now : Millis) : Follows start (sel.select req now l).store
  | choose {l : Ledger} (h : Follows start l) (id : NetworkId) (wall : Millis) :
    Follows start (Override.choose l id wall).2.2

namespace Follows

lemma of_writes (h : l.Follows start) {allowed : Write → Prop} (hw : Writes allowed l.table t) :
    ∃ l', Follows start l' ∧ l'.table = t := by
  induction hw with
  | refl => exact ⟨l, h, rfl⟩
  | tail _ hs ih =>
    obtain ⟨w, -, rfl⟩ := hs
    obtain ⟨l', hl', rfl⟩ := ih
    exact ⟨_, hl'.write w, table_run l' w⟩

lemma run_operation (h : l.Follows start) (op : Operation) :
    ∃ l', Follows start l' ∧ l'.table = op.run l.table := by
  cases op with
  | add name security => exact ⟨_, h.add name security, rfl⟩
  | remove id => exact ⟨_, h.plain (.remove id) rfl, rfl⟩
  | setAvailability id a => exact ⟨_, h.plain (.setAvailability id a) rfl, rfl⟩
  | markPicked id timestamp => exact ⟨_, h.plain (.markPicked id timestamp) rfl, rfl⟩
  | write w => exact ⟨_, h.write w, table_run l w⟩
  | select sel hs req now => exact h.of_writes (Selector.select_ofRound hs req now l.table)
  | choose id wall =>
    rw [Operation.run, Override.choose_snd]
    exact h.of_writes (Override.pick_writes l.table id wall)
  | reload => exact ⟨_, h.plain .reload rfl, rfl⟩

lemma runAll (h : l.Follows start) (ops : List Operation) :
    ∃ l', Follows start l' ∧ l'.table = Operation.runAll ops l.table := by
  induction ops generalizing l with
  | nil => exact ⟨l, h, rfl⟩
  | cons op ops ih =>
    obtain ⟨l', hl', ht⟩ := h.run_operation op
    rw [Operation.runAll, List.foldl_cons, ← ht]
    exact ih hl'

end Follows

structure Accounts (start : ProfileTable) (l : Ledger) : Prop where
  fresh : l.table.HasFreshId
  creations {c} : c ∈ l.creations → c.Reuses ∨ ∃ p, c.Inserts p
  increasing : l.issued.Pairwise (· < ·)
  bounds {id} : id ∈ l.issued → start.nextId ≤ id ∧ id < l.table.nextId
  keys {id} : id ∈ l.table.profiles.keys → id ∈ start.profiles.keys ∨ id ∈ l.issued
  nextId_le : start.nextId ≤ l.table.nextId

namespace Accounts

lemma of_start (h : start.HasFreshId) : Accounts start { table := start } where
  fresh := h
  creations h := absurd h List.not_mem_nil
  increasing := .nil
  bounds h := absurd h List.not_mem_nil
  keys := .inl
  nextId_le := UInt32.le_refl _

lemma note (h : Accounts start l)
    (hc : Creation.Reuses ⟨l.table, t⟩ ∨ ∃ p, Creation.Inserts ⟨l.table, t⟩ p) :
    Accounts start (l.note t) := by
  have hissued : (l.note t).issued = l.issued ++ Creation.made ⟨l.table, t⟩ := by
    rw [issued, Ledger.note, List.flatMap_append, List.flatMap_singleton]
    rfl
  constructor
  case fresh => exact Creation.hasFreshId hc h.fresh
  case creations =>
    intro c hm
    obtain hm | hm := List.mem_append.mp hm
    · exact h.creations hm
    · rwa [List.mem_singleton.mp hm]
  case increasing =>
    rw [hissued, List.pairwise_append]
    refine ⟨h.increasing, Creation.pairwise_made hc, ?_⟩
    intro i hi j hj
    rw [(Creation.of_mem_made hc hj).1]
    exact (h.bounds hi).2
  case bounds =>
    intro id hid
    rw [hissued] at hid
    obtain hid | hid := List.mem_append.mp hid
    · exact ⟨(h.bounds hid).1, UInt32.lt_of_lt_of_le (h.bounds hid).2 (Creation.nextId_le hc)⟩
    · obtain ⟨rfl, hlt⟩ := Creation.of_mem_made hc hid
      exact ⟨h.nextId_le, hlt⟩
  case keys =>
    intro id hid
    rw [hissued, List.mem_append, ← or_assoc]
    exact (List.mem_append.mp (Creation.keys_after hc ▸ hid)).imp_left h.keys
  case nextId_le => exact UInt32.le_trans h.nextId_le (Creation.nextId_le hc)

lemma of_keys (h : Accounts start l) (hk : ∀ id ∈ t.profiles.keys, id ∈ l.table.profiles.keys)
    (hn : t.nextId = l.table.nextId) : Accounts start { l with table := t } where
  fresh id hid := hn ▸ h.fresh id (hk id hid)
  creations := h.creations
  increasing := h.increasing
  bounds := hn ▸ h.bounds
  keys hid := h.keys (hk _ hid)
  nextId_le := hn ▸ h.nextId_le

lemma run_write (h : Accounts start l) (w : Write) : Accounts start (w.run l) := by
  cases w with
  | change id c =>
    rw [run_change]
    refine h.of_keys ?_ rfl
    intro i hi
    rwa [ProfileTable.changed, IdMap.keys_modify] at hi
  | createEphemeral o => exact h.note (Creation.of_createEphemeral h.fresh o)

lemma of_writes {l' : Ledger} (h : Accounts start l) {allowed : Write → Prop}
    (hw : Writes allowed l l') : Accounts start l' := by
  induction hw with
  | refl => exact h
  | tail _ hs ih =>
    obtain ⟨w, -, rfl⟩ := hs
    exact ih.run_write w

lemma of_plain (h : Accounts start l) {op : Operation} (hop : isPlain op = true) :
    Accounts start { l with table := op.run l.table } := by
  cases op with
  | remove id => exact h.of_keys (fun _ => IdMap.mem_keys_of_erase) rfl
  | setAvailability id a =>
    rw [ProfileTable.run_setAvailability]
    refine h.of_keys ?_ rfl
    intro i hi
    rwa [IdMap.keys_modify] at hi
  | markPicked id timestamp =>
    rw [Operation.run, ProfileTable.markPicked]
    split
    · exact h.of_keys (fun _ hi => hi) rfl
    · exact h
  | reload =>
    rw [Operation.run, h.fresh.decode_encode]
    exact h
  | add | write | select | choose => contradiction

lemma of_follows (hstart : start.HasFreshId) (h : l.Follows start) : Accounts start l := by
  induction h with
  | start => exact of_start hstart
  | add _ name security ih => exact ih.note (Creation.of_add ih.fresh name security)
  | plain _ op hop ih => exact ih.of_plain hop
  | write _ w ih => exact ih.run_write w
  | round _ hs req now ih => exact ih.of_writes (hs.select_writes req now _)
  | choose _ id wall ih =>
    rw [Override.choose_snd]
    exact ih.of_writes (Override.pick_writes _ id wall)

end Accounts

theorem issued_increasing (hstart : start = .empty ∨ ∃ b, Snapshot.decode b = .ok start) :
    (∀ ops, ∃ l : Ledger, l.Follows start ∧ l.table = Operation.runAll ops start) ∧
    ∀ l : Ledger, l.Follows start →
      (∀ c ∈ l.creations, c.Reuses ∧ c.made = [] ∨ ∃ p, c.Inserts p ∧ c.made = [p.id]) ∧
      l.issued.Pairwise (· < ·) ∧
      (∀ id ∈ l.issued, ∀ old ∈ start.profiles.keys, old < id) ∧
      (∀ id ∈ l.table.profiles.keys, id ∈ start.profiles.keys ∨ id ∈ l.issued) ∧
      (∀ name security, l.table.add name security = .error .idsExhausted ↔
        l.table.nextId = NetworkId.last ∧ ∃ ssid, Ssid.parse name = .ok ssid ∧
          l.table.find? (.derive ssid security) = none) ∧
      ∀ o, createEphemeral l.table o = (.error .idsExhausted, l.table) ↔
        l.table.nextId = NetworkId.last ∧ o.isOpen = true ∧ l.table.resolve o = none := by
  have hfresh : start.HasFreshId := by
    obtain rfl | ⟨b, hb⟩ := hstart
    · exact ProfileTable.empty_wellFormed.hasFreshId
    · exact ProfileTable.hasFreshId_of_decode hb
  refine ⟨fun ops => Follows.start.runAll ops, ?_⟩
  intro l hl
  have ha := Accounts.of_follows hfresh hl
  refine ⟨?_, ha.increasing, ?_, fun id => ha.keys, ?_, ?_⟩
  · intro c hc
    obtain hr | ⟨p, hi⟩ := ha.creations hc
    · exact .inl ⟨hr, hr.made⟩
    · exact .inr ⟨p, hi, hi.made⟩
  · intro id hid old hold
    exact UInt32.lt_of_lt_of_le (hfresh old hold) (ha.bounds hid).1
  · exact fun name security => ProfileTable.add_eq_idsExhausted_iff
  · exact fun o => ProfileTable.createEphemeral_eq_idsExhausted_iff

def lateTable : ProfileTable where
  profiles := .ofList
    [(4294967292, { id := 4294967292, ssid := Sample.home.ssid, security := .psk })]
  nextId := 4294967293

def selector : Selector Ledger where
  settings := {}
  panel.seats := [⟨1, UntrustedNetworks.evaluator⟩, ⟨2, SavedNetworks.evaluator⟩]

theorem issued_increasing_lateTable :
    let saved := note { table := lateTable } ((Operation.add "office" .psk).run lateTable)
    let forgotten : Ledger := { saved with table := (Operation.remove 4294967293).run saved.table }
    let l := (selector.select (Sample.request .disconnected) 0 forgotten).store
    Snapshot.decode (Snapshot.encode { lateTable with nextId := 0 }) = .ok lateTable ∧
      l.issued = [4294967293, 4294967294] ∧ l.issued.Pairwise (· < ·) ∧
      (∀ id ∈ l.issued, ∀ old ∈ lateTable.profiles.keys, old < id) ∧
      l.table.add "work" .psk = .error .idsExhausted := by
  intro saved forgotten l
  have hdecode : Snapshot.decode (Snapshot.encode { lateTable with nextId := 0 }) = .ok lateTable :=
    ProfileTable.decode_encode_eq_ok_iff.mpr (by decide)
  have hdefault : selector.IsDefault := ⟨{}, rfl⟩
  have hl : l.Follows lateTable :=
    .round (.plain (.add .start "office" .psk) (.remove 4294967293) rfl) hdefault.lawful _ _
  obtain ⟨-, hledgers⟩ := issued_increasing (.inr ⟨_, hdecode⟩)
  obtain ⟨-, hincreasing, habove, -, hadd, -⟩ := hledgers l hl
  exact ⟨hdecode, by decide, hincreasing, habove,
    (hadd "work" .psk).mpr ⟨by decide, ⟨"work", by decide⟩, rfl, by decide⟩⟩

end Ledger

end WirelessSelection
