import WirelessSelection.Proofs.Invariant
import WirelessSelection.Proofs.Selection

/-! The events of a selector in use. Whatever evaluators and store it works with, the events of each
call say how the call ended, what it returned and what the selector remembers from then on. -/

namespace WirelessSelection

structure Station (σ : Type) where
  selector : Selector σ
  store : σ

inductive Command
  | select (req : Request) (now : Millis)
  | choose (id : NetworkId) (wall : Millis)

inductive Answer
  | candidate (n : Option Profile)
  | accepted (ok : Bool)

structure Exchange (σ : Type) where
  before : Station σ
  command : Command
  answer : Answer
  events : List Event
  after : Station σ

def Keyed {σ : Type} [ProfileStore σ] (store : σ) : Prop :=
  ∀ id p, ProfileStore.profile? store id = some p → p.id = id

variable {σ : Type} [ProfileStore σ]

namespace Station

def perform (s : Station σ) : Command → Exchange σ
  | .select req now =>
    let r := s.selector.select req now s.store
    { before := s
      command := .select req now
      answer := .candidate r.candidate
      events := r.events
      after := { selector := s.selector.after r, store := r.store } }
  | .choose id wall =>
    let (ok, events, store) := Override.choose s.store id wall
    { before := s
      command := .choose id wall
      answer := .accepted ok
      events
      after := { s with store } }

def transcript : Station σ → List Command → List (Exchange σ)
  | _, [] => []
  | s, c :: commands => s.perform c :: (s.perform c).after.transcript commands

end Station

namespace Exchange

def Announces (told : List Event) (n : Option Profile) (store : σ) : Prop :=
  told = [] ∨ ∃ proposed chosen, told = [.candidateOverridden proposed chosen] ∧
    n.map (·.id) = some chosen ∧ (Keyed store → chosen ≠ proposed)

def Truthful (e : Exchange σ) : Prop :=
  let memory := e.after.selector.memory
  match e.command, e.answer with
  | .select req now, .candidate n =>
    (∃ reason, e.events = [.roundSkipped reason] ∧ n = none ∧ memory.connectable = [] ∧
      memory.openUnsaved = [] ∧
      memory.lastSelection = e.before.selector.memory.lastSelection) ∨
    ∃ told, e.events = told ++ [.roundCompleted
        { candidate := n.map (·.id)
          scanned := req.scan.length
          usable := (e.before.selector.usable req).length
          connectable := memory.connectable.length
          openUnsaved := memory.openUnsaved.length }] ∧
      Announces told n e.after.store ∧ memory.lastSelection = some now
  | .choose id _, .accepted ok =>
    if ok then ∃ count, e.events = [.userChoiceSet id count]
    else e.events = [] ∧ e.after.store = e.before.store
  | _, _ => False

end Exchange

lemma Override.id_ne_of_chosen? {store : σ} (hk : Keyed store) {p n : Profile}
    {connectable : List Pairing} (h : chosen? store p connectable = some n) : n.id ≠ p.id := by
  obtain ⟨choice, q, -, hq, rfl, -⟩ := chosen?_eq_some_iff.mp h
  have hne : q.profile.id ≠ p.id := by
    have := List.find?_some hq
    simp only [Bool.and_eq_true, decide_eq_true_eq] at this
    exact this.1
  cases hr : ProfileStore.profile? store q.profile.id with
  | none => exact hne
  | some r => rwa [Option.getD_some, hk _ _ hr]

lemma Selector.announces_settle (store : σ) (connectable : List Pairing) (p : Option Profile) :
    let settled := p.map (settle store connectable)
    Exchange.Announces ((settled.map Prod.snd).getD []) (settled.map Prod.fst) store := by
  cases p with
  | none => exact .inl rfl
  | some p =>
    change Exchange.Announces (settle store connectable p).2 (some (settle store connectable p).1) _
    rw [settle]
    cases hc : Override.chosen? store p connectable with
    | none => exact .inl rfl
    | some n => exact .inr ⟨p.id, n.id, rfl, rfl, fun hk => Override.id_ne_of_chosen? hk hc⟩

lemma Selector.events_complete (sel : Selector σ) (req : Request) (usable : List Observation)
    (now : Millis) (store : σ) :
    let r := sel.complete req usable now store
    ∃ told, r.events = told ++ [.roundCompleted
        { candidate := r.candidate.map (·.id)
          scanned := req.scan.length
          usable := usable.length
          connectable := r.memory.connectable.length
          openUnsaved := r.memory.openUnsaved.length }] ∧
      Exchange.Announces told r.candidate r.store :=
  ⟨_, rfl, announces_settle ..⟩

namespace Station

lemma truthful_select (s : Station σ) (req : Request) (now : Millis) :
    (s.perform (.select req now)).Truthful := by
  cases hc : (s.selector.select req now s.store).isCompleted with
  | false =>
    obtain ⟨reason, -, hs⟩ := Selector.select_of_not_isCompleted hc
    refine .inl ⟨reason, ?_⟩
    rw [perform, hs]
    exact ⟨rfl, rfl, rfl, rfl, rfl⟩
  | true =>
    obtain ⟨told, he, ha⟩ := s.selector.events_complete req (s.selector.usable req) now
      (s.selector.panel.update req.scan s.store)
    refine .inr ⟨told, ?_⟩
    rw [perform, Selector.select_of_isCompleted hc]
    exact ⟨he, ha, rfl⟩

lemma truthful_choose (s : Station σ) (id : NetworkId) (wall : Millis) :
    (s.perform (.choose id wall)).Truthful := by
  have hpick : (Override.pick s.store id wall).1 = none →
      (Override.pick s.store id wall).2 = s.store := by
    rw [Override.pick]
    split
    · exact fun _ => rfl
    · exact fun h => absurd h (Option.some_ne_none _)
  rw [perform, Override.choose]
  cases hp : Override.pick s.store id wall with
  | mk count store =>
    rw [hp] at hpick
    cases count with
    | none => exact ⟨rfl, hpick rfl⟩
    | some count => exact ⟨count, rfl⟩

lemma truthful_perform (s : Station σ) (c : Command) : (s.perform c).Truthful := by
  cases c with
  | select req now => exact s.truthful_select req now
  | choose id wall => exact s.truthful_choose id wall

lemma truthful_of_mem_transcript (s : Station σ) (commands : List Command) :
    ∀ e ∈ s.transcript commands, e.Truthful := by
  induction commands generalizing s with
  | nil => exact fun e he => absurd he List.not_mem_nil
  | cons c commands ih =>
    intro e he
    obtain rfl | he := List.mem_cons.mp he
    · exact s.truthful_perform c
    · exact ih _ e he

lemma commands_transcript (s : Station σ) (commands : List Command) :
    (s.transcript commands).map (·.command) = commands := by
  induction commands generalizing s with
  | nil => rfl
  | cons c commands ih =>
    rw [transcript, List.map_cons, ih]
    cases c <;> rfl

end Station

lemma Exchange.Truthful.chosen_ne {e : Exchange σ} (h : e.Truthful) (hk : Keyed e.after.store)
    {proposed chosen : NetworkId} (hm : .candidateOverridden proposed chosen ∈ e.events) :
    chosen ≠ proposed := by
  obtain ⟨before, command, answer, events, after⟩ := e
  cases command with
  | select req now =>
    cases answer with
    | accepted ok => exact h.elim
    | candidate n =>
      obtain ⟨reason, he, -⟩ | ⟨told, he, ha, -⟩ := h
      · rw [he, List.mem_singleton] at hm
        contradiction
      · rw [he, List.mem_append, List.mem_singleton] at hm
        obtain rfl | ⟨p, c, rfl, -, hne⟩ := ha
        · simp at hm
        · simp only [List.mem_singleton, Event.candidateOverridden.injEq, reduceCtorEq,
            or_false] at hm
          rw [hm.1, hm.2]
          exact hne hk
  | choose id wall =>
    cases answer with
    | candidate n => exact h.elim
    | accepted ok =>
      cases ok with
      | true =>
        obtain ⟨count, he⟩ := h
        rw [he, List.mem_singleton] at hm
        contradiction
      | false =>
        rw [h.1] at hm
        exact absurd hm List.not_mem_nil

namespace ProfileTable

variable {t t' : ProfileTable}

lemma keyed_run (h : Keyed t) (w : Write) : Keyed (w.run t) := by
  intro i p hp
  cases w with
  | change id c =>
    rw [Write.run, change_snd, profile?_eq] at hp
    obtain ⟨q, hq, rfl | rfl⟩ := get?_modify_cases hp
    · exact h i q hq
    · exact h i _ hq
  | createEphemeral o =>
    obtain he | ⟨-, -, ha⟩ := createEphemeral_snd t o
    · rw [Write.run, he] at hp
      exact h i p hp
    · obtain ⟨-, he⟩ := append_eq_ok_iff.mp ha
      rw [Write.run, he, profile?_eq, IdMap.get?_insert] at hp
      split at hp
      · next hi => rw [← Option.some.inj hp, hi, untrusted]
      · exact h i p hp

lemma keyed_of_writes (h : Keyed t) {allowed : Write → Prop} (hw : Writes allowed t t') :
    Keyed t' := by
  induction hw with
  | refl => exact h
  | tail _ hs ih =>
    obtain ⟨w, -, rfl⟩ := hs
    exact keyed_run ih w

end ProfileTable

namespace Station

variable {s : Station ProfileTable}

lemma perform_writes (hl : s.selector.Lawful) (c : Command) :
    Writes (fun _ => True) s.store (s.perform c).after.store := by
  cases c with
  | select req now => exact hl.select_writes req now s.store
  | choose id wall =>
    change Writes _ s.store (Override.choose s.store id wall).2.2
    rw [Override.choose_snd]
    exact (Override.pick_writes s.store id wall).mono fun _ _ => trivial

lemma lawful_perform (hl : s.selector.Lawful) (c : Command) :
    (s.perform c).after.selector.Lawful := by
  cases c <;> exact hl

lemma keyed_of_mem_transcript (hl : s.selector.Lawful) (hk : Keyed s.store)
    (commands : List Command) : ∀ e ∈ s.transcript commands, Keyed e.after.store := by
  induction commands generalizing s with
  | nil => exact fun e he => absurd he List.not_mem_nil
  | cons c commands ih =>
    have hkept := ProfileTable.keyed_of_writes hk (perform_writes hl c)
    intro e he
    obtain rfl | he := List.mem_cons.mp he
    · exact hkept
    · exact ih (lawful_perform hl c) hkept e he

theorem transcript_truthful :
    (∀ (σ : Type) [ProfileStore σ] (s : Station σ) (commands : List Command),
      (s.transcript commands).map (·.command) = commands ∧
        ∀ e ∈ s.transcript commands, e.Truthful) ∧
    ∀ (s : Station ProfileTable) (commands : List Command), s.selector.Lawful → Keyed s.store →
      ∀ e ∈ s.transcript commands, ∀ proposed chosen,
        .candidateOverridden proposed chosen ∈ e.events → chosen ≠ proposed := by
  constructor
  · intro σ _ s commands
    exact ⟨s.commands_transcript commands, s.truthful_of_mem_transcript commands⟩
  · intro s commands hl hk e he proposed chosen hm
    exact (s.truthful_of_mem_transcript commands e he).chosen_ne
      (keyed_of_mem_transcript hl hk commands e he) hm

def sampleCommands : List Command :=
  [.select (Sample.request .disconnected) 0, .choose 1 5,
    .select (Sample.request .disconnected) 20000, .select (Sample.request .transitioning) 30000,
    .choose 9 40000]

theorem transcript_truthful_office :
    let s : Station ProfileTable := { selector := Sample.selector, store := Sample.table }
    (s.transcript sampleCommands).map (·.events.length) = [1, 1, 2, 1, 0] ∧
      (∀ e ∈ s.transcript sampleCommands, e.Truthful) ∧
      ∃ e ∈ s.transcript sampleCommands,
        .candidateOverridden 0 1 ∈ e.events ∧ (1 : NetworkId) ≠ 0 := by
  intro s
  have hk : Keyed s.store := fun _ _ hp => Sample.reachable_table.wellFormed.id_eq hp
  have hl : s.selector.Lawful := Sample.isDefault_selector.lawful
  have hover : ∃ e ∈ s.transcript sampleCommands, .candidateOverridden 0 1 ∈ e.events := by decide
  obtain ⟨e, he, hm⟩ := hover
  exact ⟨by decide, (transcript_truthful.1 ProfileTable s sampleCommands).2, e, he, hm,
    transcript_truthful.2 s sampleCommands hl hk e he 0 1 hm⟩

end Station

end WirelessSelection
