import WirelessSelection.Proofs.Store.Frame

namespace WirelessSelection

def Round.isCompleted {σ : Type} (r : Round σ) : Bool :=
  r.events.any fun
    | .roundCompleted _ => true
    | _ => false

lemma Situation.skip?_of_saved {s s' : Situation} (settings : Settings)
    (h : (s'.current.filter fun p => !p.ephemeral).map Profile.core =
      (s.current.filter fun p => !p.ephemeral).map Profile.core)
    (hs : s' = { s with current := s'.current }) : s'.skip? settings = s.skip? settings := by
  have hsufficient (s : Situation) : s.isSufficient settings =
      ((s.current.filter fun p => !p.ephemeral).map Profile.core).any fun p =>
        !p.isOpen && !s.offersFasterBand && s.hasQualifiedSignal settings := by
    rw [isSufficient, Option.any_map]
    cases s.current with
    | none => rfl
    | some p =>
      have hopen : p.core.isOpen = p.isOpen := rfl
      cases he : p.ephemeral <;> simp [he, hopen, Option.filter_some]
  have hsame : s'.isSufficient settings = s.isSufficient settings := by
    rw [hsufficient, hsufficient, h, hs]
    rfl
  rw [skip?, skip?, associatedSkip?, associatedSkip?, hsame, hs]
  rfl

/-- Touches a store through writes of an allowed kind, and in no other way. -/
structure Evaluator.Within {σ : Type} [ProfileStore σ] (allowed : Write → Prop)
    (e : Evaluator σ) : Prop where
  update_writes (scan : List Observation) (store : σ) :
    Writes allowed store (e.update scan store)
  evaluate_writes (usable : List Observation) (ctx : Context) (store : σ) :
    Writes allowed store (e.evaluate usable ctx store).2

namespace Selector

variable {σ : Type} [ProfileStore σ] {sel : Selector σ}

open ProfileStore

def Within (allowed : Write → Prop) (sel : Selector σ) : Prop :=
  ∀ seat ∈ sel.panel.seats, seat.evaluator.Within allowed

/-- A selector made with the default evaluators, whatever it remembers by now. -/
def IsDefault (sel : Selector σ) : Prop :=
  ∃ memory, withDefaultEvaluators sel.settings = .ok { sel with memory }

def usable (sel : Selector σ) (req : Request) : List Observation :=
  (Screening.ofScan req.scan req.blacklist sel.settings).kept

lemma select_of_skip? {req : Request} {now : Millis} {store : σ} {reason : SkipReason}
    (h : sel.skip? req (sel.usable req) now (sel.panel.update req.scan store) = some reason) :
    sel.select req now store = sel.skip reason (sel.panel.update req.scan store) := by
  rw [usable] at h
  rw [select, h]

lemma select_of_skip?_eq_none {req : Request} {now : Millis} {store : σ}
    (h : sel.skip? req (sel.usable req) now (sel.panel.update req.scan store) = none) :
    sel.select req now store =
      sel.complete req (sel.usable req) now (sel.panel.update req.scan store) := by
  rw [usable] at h
  rw [select, h]
  rfl

lemma isCompleted_complete (req : Request) (usable : List Observation) (now : Millis) (store : σ) :
    (sel.complete req usable now store).isCompleted = true := by
  rw [complete, Round.isCompleted, List.any_append]
  exact Bool.or_true _

lemma isCompleted_select (sel : Selector σ) (req : Request) (now : Millis) (store : σ) :
    (sel.select req now store).isCompleted =
      (sel.skip? req (sel.usable req) now (sel.panel.update req.scan store)).isNone := by
  cases h : sel.skip? req (sel.usable req) now (sel.panel.update req.scan store) with
  | some reason => rw [select_of_skip? h]; rfl
  | none => rw [select_of_skip?_eq_none h, isCompleted_complete]; rfl

lemma select_of_isCompleted {req : Request} {now : Millis} {store : σ}
    (h : (sel.select req now store).isCompleted = true) :
    sel.select req now store =
      sel.complete req (sel.usable req) now (sel.panel.update req.scan store) := by
  rw [isCompleted_select, Option.isNone_iff_eq_none] at h
  exact select_of_skip?_eq_none h

def verdict (sel : Selector σ) (req : Request) (now : Millis) (store : σ) : Verdict :=
  (sel.panel.evaluate (sel.usable req) (sel.context req now) (sel.panel.update req.scan store)).1

lemma connectable_of_isCompleted {req : Request} {now : Millis} {store : σ}
    (h : (sel.select req now store).isCompleted = true) :
    (sel.select req now store).memory.connectable = (sel.verdict req now store).connectable := by
  rw [select_of_isCompleted h]
  rfl

lemma openUnsaved_of_isCompleted {req : Request} {now : Millis} {store : σ}
    (h : (sel.select req now store).isCompleted = true) :
    (sel.select req now store).memory.openUnsaved =
      ((sel.usable req).filter (·.isOpen)).filter
        (isUnsaved (sel.select req now store).store) := by
  rw [select_of_isCompleted h]
  rfl

lemma candidate_of_isCompleted {req : Request} {now : Millis} {store : σ}
    (h : (sel.select req now store).isCompleted = true) :
    (sel.select req now store).candidate = (sel.verdict req now store).candidate.map fun p =>
      (settle (sel.select req now store).store
        (sel.select req now store).memory.connectable p).1 := by
  rw [select_of_isCompleted h]
  exact Option.map_map ..

lemma select_of_not_isCompleted {req : Request} {now : Millis} {store : σ}
    (h : (sel.select req now store).isCompleted = false) :
    ∃ reason, sel.skip? req (sel.usable req) now (sel.panel.update req.scan store) = some reason ∧
      sel.select req now store = sel.skip reason (sel.panel.update req.scan store) := by
  cases hs : sel.skip? req (sel.usable req) now (sel.panel.update req.scan store) with
  | some reason => exact ⟨reason, rfl, select_of_skip? hs⟩
  | none =>
    rw [isCompleted_select, hs] at h
    contradiction

lemma roundSkipped_mem_iff {req : Request} {now : Millis} {store : σ} {reason : SkipReason} :
    .roundSkipped reason ∈ (sel.select req now store).events ↔
      sel.skip? req (sel.usable req) now (sel.panel.update req.scan store) = some reason := by
  cases h : sel.skip? req (sel.usable req) now (sel.panel.update req.scan store) with
  | some reason' =>
    rw [select_of_skip? h, skip, List.mem_singleton, Option.some.injEq, Event.roundSkipped.injEq,
      eq_comm]
  | none =>
    have hsettle (s : σ) (l : List Pairing) (p : Profile) :
        .roundSkipped reason ∉ (settle s l p).2 := by
      rw [settle]
      split <;> simp
    rw [select_of_skip?_eq_none h, complete]
    refine iff_of_false ?_ (Option.some_ne_none _).symm
    simp only [List.mem_append, List.mem_singleton, reduceCtorEq, or_false]
    cases (sel.panel.evaluate (sel.usable req) (sel.context req now)
      (sel.panel.update req.scan store)).1.candidate with
    | none => exact List.not_mem_nil
    | some p => exact hsettle _ _ p

lemma IsDefault.panel_eq (h : sel.IsDefault) :
    sel.panel.seats = [⟨1, UntrustedNetworks.evaluator⟩, ⟨2, SavedNetworks.evaluator⟩] := by
  obtain ⟨memory, h⟩ := h
  rw [withDefaultEvaluators_eq] at h
  cases hv : sel.settings.validate with
  | error f => simp [hv, Except.map] at h
  | ok _ =>
    simp only [hv, Except.map, Except.ok.injEq] at h
    exact (congrArg (·.panel.seats) h).symm

lemma IsDefault.after (h : sel.IsDefault) (r : Round σ) : (sel.after r).IsDefault :=
  h

lemma IsDefault.update_eq (h : sel.IsDefault) (scan : List Observation) (store : σ) :
    sel.panel.update scan store = SavedNetworks.update scan store := by
  rw [Panel.update, h.panel_eq]
  rfl

lemma map_resolve (r : Resolution) (f : Profile → Profile) (p q : Option Profile) :
    (Panel.resolve r p q).map f = Panel.resolve r (p.map f) (q.map f) := by
  cases r <;> cases p <;> cases q <;> rfl

lemma resolve_none (r : Resolution) (p : Option Profile) : Panel.resolve r none p = p := by
  cases r <;> cases p <;> rfl

lemma IsDefault.evaluate_eq (h : sel.IsDefault) (usable : List Observation) (ctx : Context)
    (store : σ) : sel.panel.evaluate usable ctx store =
      let u := UntrustedNetworks.evaluate usable ctx store
      let s := SavedNetworks.evaluate usable ctx u.2
      ({ candidate := Panel.resolve ctx.settings.resolution u.1.proposal s.1.proposal
         connectable := u.1.connectable ++ s.1.connectable }, s.2) := by
  rw [Panel.evaluate, h.panel_eq]
  simp only [List.foldl_cons, List.foldl_nil, Panel.hear, resolve_none, List.nil_append]
  rfl

def untrustedStage (sel : Selector σ) (req : Request) (now : Millis) (store : σ) :
    Evaluation × σ :=
  UntrustedNetworks.evaluate (sel.usable req) (sel.context req now)
    (SavedNetworks.update req.scan store)

def savedStage (sel : Selector σ) (req : Request) (now : Millis) (store : σ) : Evaluation × σ :=
  SavedNetworks.evaluate (sel.usable req) (sel.context req now)
    (sel.untrustedStage req now store).2

lemma untrustedStage_of_not_allowed (sel : Selector σ) {req : Request}
    (h : req.untrustedAllowed = false) (now : Millis) (store : σ) :
    sel.untrustedStage req now store = ({}, SavedNetworks.update req.scan store) :=
  UntrustedNetworks.evaluate_of_not_allowed _ h _

lemma untrustedStage_creates (sel : Selector σ) (req : Request) (now : Millis) (store : σ) :
    Writes Write.Creates (SavedNetworks.update req.scan store)
      (sel.untrustedStage req now store).2 :=
  UntrustedNetworks.evaluate_creates ..

lemma untrustedStage_ofRound (sel : Selector σ) (req : Request) (now : Millis) (store : σ) :
    Writes Write.OfRound store (sel.untrustedStage req now store).2 :=
  (SavedNetworks.update_ofRound req.scan store).trans
    ((sel.untrustedStage_creates req now store).mono fun _ => Write.Creates.ofRound)

lemma savedStage_ofRound (sel : Selector σ) (req : Request) (now : Millis) (store : σ) :
    Writes Write.OfRound store (sel.savedStage req now store).2 :=
  (sel.untrustedStage_ofRound req now store).trans (SavedNetworks.evaluate_ofRound ..)

lemma IsDefault.connectable_eq (h : sel.IsDefault) {req : Request} {now : Millis} {store : σ}
    (hc : (sel.select req now store).isCompleted = true) :
    (sel.select req now store).memory.connectable =
      (sel.untrustedStage req now store).1.connectable ++
        (sel.savedStage req now store).1.connectable := by
  rw [connectable_of_isCompleted hc, verdict, h.evaluate_eq, h.update_eq]
  rfl

lemma IsDefault.store_eq (h : sel.IsDefault) {req : Request} {now : Millis} {store : σ}
    (hc : (sel.select req now store).isCompleted = true) :
    (sel.select req now store).store =
      refreshSeen (sel.select req now store).memory.connectable
        (sel.savedStage req now store).2 := by
  rw [h.connectable_eq hc, select_of_isCompleted hc, complete, h.evaluate_eq, h.update_eq]
  rfl

lemma IsDefault.verdict_candidate (h : sel.IsDefault) (req : Request) (now : Millis) (store : σ) :
    (sel.verdict req now store).candidate =
      Panel.resolve sel.settings.resolution (sel.untrustedStage req now store).1.proposal
        (sel.savedStage req now store).1.proposal := by
  rw [verdict, h.evaluate_eq, h.update_eq]
  rfl

lemma IsDefault.candidate_eq (h : sel.IsDefault) {req : Request} {now : Millis} {store : σ}
    (hc : (sel.select req now store).isCompleted = true) :
    (sel.select req now store).candidate =
      (Panel.resolve sel.settings.resolution (sel.untrustedStage req now store).1.proposal
        (sel.savedStage req now store).1.proposal).map fun p =>
          (settle (sel.select req now store).store
            (sel.select req now store).memory.connectable p).1 := by
  rw [candidate_of_isCompleted hc, h.verdict_candidate]

lemma IsDefault.select_of_not_allowed (h : sel.IsDefault) {req : Request}
    (hu : req.untrustedAllowed = false) {now : Millis} {store : σ}
    (hc : (sel.select req now store).isCompleted = true) :
    (sel.select req now store).memory.connectable = (sel.savedStage req now store).1.connectable ∧
      (sel.select req now store).candidate = (sel.savedStage req now store).1.proposal.map fun p =>
        (settle (sel.select req now store).store
          (sel.savedStage req now store).1.connectable p).1 := by
  have hconn := h.connectable_eq hc
  rw [sel.untrustedStage_of_not_allowed hu, List.nil_append] at hconn
  refine ⟨hconn, ?_⟩
  rw [h.candidate_eq hc, sel.untrustedStage_of_not_allowed hu, resolve_none, hconn]

lemma IsDefault.update_writes (h : sel.IsDefault) (scan : List Observation) (store : σ) :
    Writes (Write.Changes (· = .clearCandidate)) store (sel.panel.update scan store) := by
  rw [h.update_eq]
  exact SavedNetworks.update_writes scan store

lemma skip_writes (h : sel.IsDefault) {req : Request} {now : Millis} {store : σ}
    (hc : (sel.select req now store).isCompleted = false) :
    Writes (Write.Changes (· = .clearCandidate)) store (sel.select req now store).store := by
  obtain ⟨reason, -, hs⟩ := select_of_not_isCompleted hc
  rw [hs]
  exact h.update_writes req.scan store

lemma complete_store (sel : Selector σ) (req : Request) (usable : List Observation) (now : Millis)
    (store : σ) : (sel.complete req usable now store).store =
      refreshSeen (sel.panel.evaluate usable (sel.context req now) store).1.connectable
        (sel.panel.evaluate usable (sel.context req now) store).2 :=
  rfl

section Within

variable {allowed allowed' : Write → Prop}

lemma Within.mono (h : sel.Within allowed) (hw : ∀ w, allowed w → allowed' w) :
    sel.Within allowed' := by
  intro seat hs
  constructor
  case update_writes => exact fun scan store => ((h seat hs).update_writes scan store).mono hw
  case evaluate_writes =>
    exact fun usable ctx store => ((h seat hs).evaluate_writes usable ctx store).mono hw

lemma Within.update_writes (h : sel.Within allowed) (scan : List Observation) (store : σ) :
    Writes allowed store (sel.panel.update scan store) :=
  Writes.foldl id (fun s seat hs => (h seat hs).update_writes scan s) store

lemma Within.evaluate_writes (h : sel.Within allowed) (usable : List Observation) (ctx : Context)
    (store : σ) : Writes allowed store (sel.panel.evaluate usable ctx store).2 :=
  Writes.foldl Prod.snd (f := Panel.hear usable ctx)
    (fun b seat hs => (h seat hs).evaluate_writes usable ctx b.2) ({}, store)

lemma Within.select_writes (h : sel.Within allowed)
    (hseen : ∀ id seen, allowed (.change id (.setSeen seen))) (req : Request) (now : Millis)
    (store : σ) : Writes allowed store (sel.select req now store).store := by
  have hu := h.update_writes req.scan store
  cases hc : (sel.select req now store).isCompleted with
  | false =>
    obtain ⟨reason, -, hs⟩ := select_of_not_isCompleted hc
    rw [hs]
    exact hu
  | true =>
    have he := h.evaluate_writes (sel.usable req) (sel.context req now)
      (sel.panel.update req.scan store)
    rw [select_of_isCompleted hc, complete_store]
    refine hu.trans (he.trans ((refreshSeen_writes _ _).mono ?_))
    intro w hw
    cases w with
    | change id c =>
      obtain ⟨seen, rfl⟩ := hw
      exact hseen id seen
    | createEphemeral o => exact hw.elim

end Within

lemma IsDefault.within (h : sel.IsDefault) : sel.Within Write.OfRound := by
  intro seat hs
  rw [h.panel_eq, List.mem_cons, List.mem_singleton] at hs
  obtain rfl | rfl := hs
  · constructor
    case update_writes => exact fun _ _ => .refl
    case evaluate_writes => exact UntrustedNetworks.evaluate_ofRound
  · constructor
    case update_writes => exact SavedNetworks.update_ofRound
    case evaluate_writes => exact SavedNetworks.evaluate_ofRound

lemma select_ofRound (h : sel.IsDefault) (req : Request) (now : Millis) (store : σ) :
    Writes Write.OfRound store (sel.select req now store).store :=
  h.within.select_writes (fun _ _ => trivial) req now store

end Selector

end WirelessSelection
