import WirelessSelection.Proofs.Repetition
import WirelessSelection.Proofs.Store.Likeness

/-! A round over a store that loses some of the notes made on profiles. It goes as it would over a
table that loses none, since nothing that it decides on is ever read back from them. -/

namespace WirelessSelection

variable {t : ProfileTable} {r : Recorder ProfileTable}

namespace UntrustedNetworks

structure Follows (state : Tally × ProfileTable) (state' : Tally × Recorder ProfileTable) :
    Prop where
  core : state'.1.core = state.1.core
  mirrors : state'.2.Mirrors state.2

lemma ephemeral?_of_mirrors (h : r.Mirrors t) (o : Observation) :
    (ephemeral? r o).1.map Profile.core = (ephemeral? t o).1.map Profile.core ∧
      (ephemeral? r o).2.Mirrors (ephemeral? t o).2 := by
  rw [ephemeral?, ephemeral?, h.resolve_eq, ProfileTable.resolve_eq]
  obtain ⟨hp, hp'⟩ | ⟨p, p', hp, hp', hc⟩ := map_eq_map_cases (h.alike.resolve_core o)
  · obtain ⟨r', hmake, hfails, hstore⟩ := h.createEphemeral_eq o
    rw [hp, hp']
    simp only [hmake]
    obtain ⟨f, f', hc, hc'⟩ | ⟨p, u, u', hc, hc', halike⟩ := h.alike.createEphemeral hp hp'
    · rw [hc'] at hstore ⊢
      rw [hc]
      exact ⟨rfl, fun hf => h.annotates (hfails ▸ hf), hstore ▸ h.alike⟩
    · rw [hc'] at hstore ⊢
      rw [hc]
      exact ⟨rfl, fun hf => h.annotates (hfails ▸ hf), hstore ▸ halike⟩
  · rw [hp, hp']
    refine ⟨?_, h⟩
    simp only [Profile.ephemeral_eq_of_core hc]
    split
    · exact congrArg some hc
    · rfl

lemma Follows.consider {state : Tally × ProfileTable} {state' : Tally × Recorder ProfileTable}
    (h : Follows state state') (o : Observation) :
    Follows (consider state o) (consider state' o) := by
  obtain ⟨hcore, hmirrors⟩ := ephemeral?_of_mirrors h.mirrors o
  rw [UntrustedNetworks.consider, UntrustedNetworks.consider]
  cases he : ephemeral? state.2 o with
  | mk found u =>
    cases he' : ephemeral? state'.2 o with
    | mk found' u' =>
      rw [he, he'] at hcore hmirrors
      obtain ⟨rfl, rfl⟩ | ⟨p, p', rfl, rfl, hc⟩ := map_eq_map_cases hcore
      · exact ⟨h.core, hmirrors⟩
      · refine ⟨?_, hmirrors⟩
        simp only [Profile.isEnabled_eq_of_core hc]
        split
        · rw [Tally.core_push, Tally.core_push, h.core, hc]
        · exact h.core

lemma evaluate_of_mirrors (h : r.Mirrors t) (usable : List Observation) (ctx : Context) :
    (evaluate usable ctx r).1.core = (evaluate usable ctx t).1.core ∧
      (evaluate usable ctx r).2.Mirrors (evaluate usable ctx t).2 := by
  rw [evaluate, evaluate]
  split
  · have hrun : Follows ((usable.filter (·.isOpen)).foldl consider ({}, t))
        ((usable.filter (·.isOpen)).foldl consider ({}, r)) :=
      List.foldl_rel ⟨rfl, h⟩ fun o _ _ _ hstep => hstep.consider o
    refine ⟨Prod.ext (congrArg (·.evaluation.proposal) hrun.core) ?_, hrun.mirrors⟩
    have hpairs := congrArg (·.evaluation.connectable.map fun q => (q.observation, q.profile))
      hrun.core
    simp only [Tally.core, List.map_map] at hpairs
    exact hpairs
  · exact ⟨rfl, h⟩

end UntrustedNetworks

namespace SavedNetworks

variable {ctx : Context} {last : Option Pick}

/-- The policy at one point of a scan, over a table and over a recorder. What it has recorded may
differ. -/
structure Follows (state : Tally × ProfileTable) (state' : Tally × Recorder ProfileTable) :
    Prop where
  best : state'.1.best = state.1.best
  core : state'.1.evaluation.core = state.1.evaluation.core
  mirrors : state'.2.Mirrors state.2

variable {state : Tally × ProfileTable} {state' : Tally × Recorder ProfileTable}

lemma Follows.consider (h : Follows state state') (o : Observation) :
    Follows (consider ctx last state o) (consider ctx last state' o) := by
  have hround : ∀ c, (∃ o s, c = Change.recordCandidate o s) → c.OfRound := by
    rintro _ ⟨o, s, rfl⟩
    trivial
  -- A candidate that was lost is tried again, so the writes may differ from here on.
  have hmirrors := h.mirrors.of_changes hround (consider_writes ctx last state' o)
    (consider_writes ctx last state o)
  rw [SavedNetworks.consider, SavedNetworks.consider, h.mirrors.resolve_eq,
    ProfileTable.resolve_eq] at hmirrors ⊢
  obtain ⟨hp, hp'⟩ | ⟨p, p', hp, hp', hc⟩ := map_eq_map_cases (h.mirrors.alike.resolve_core o)
  · rw [hp, hp']
    exact h
  · have hkind : (!p'.ephemeral && p'.isEnabled) = (!p.ephemeral && p.isEnabled) := by
      rw [Profile.ephemeral_eq_of_core hc, Profile.isEnabled_eq_of_core hc]
    simp only [hp, hp', hkind] at hmirrors ⊢
    by_cases hk : (!p.ephemeral && p.isEnabled) = true
    · rw [if_pos hk, if_pos hk] at hmirrors ⊢
      obtain ⟨hbest, hcore⟩ := rate_of_core h.best h.core hc o state.2 state'.2
      exact ⟨hbest, hcore, hmirrors⟩
    · rw [if_neg hk, if_neg hk]
      exact h

lemma evaluate_of_mirrors (h : r.Mirrors t) (usable : List Observation) (ctx : Context) :
    (evaluate usable ctx r).1.core = (evaluate usable ctx t).1.core ∧
      (evaluate usable ctx r).2.Mirrors (evaluate usable ctx t).2 := by
  have hrun (last : Option Pick) : Follows (usable.foldl (consider ctx last) ({}, t))
      (usable.foldl (consider ctx last) ({}, r)) :=
    List.foldl_rel ⟨rfl, rfl, h⟩ fun o _ _ _ hstep => hstep.consider o
  have hlast : ProfileStore.lastPick? r = ProfileStore.lastPick? t := h.alike.lastPick_eq
  rw [evaluate, evaluate, hlast]
  exact ⟨(hrun _).core, (hrun _).mirrors⟩

end SavedNetworks

section Decisions

variable {connectable connectable' : List Pairing} {p p' : Profile}

lemma Recorder.Mirrors.record_core (h : r.Mirrors t) (hp : p'.core = p.core) :
    ((ProfileStore.profile? r p'.id).getD p').core =
      ((ProfileStore.profile? t p.id).getD p).core := by
  rw [Profile.id_eq_of_core hp]
  obtain ⟨hq, hq'⟩ | ⟨q, q', hq, hq', hc⟩ := map_eq_map_cases (h.profile?_core p.id) <;>
    rw [hq, hq']
  · exact hp
  · exact hc

lemma Override.chosen?_of_mirrors (h : r.Mirrors t) (hp : p'.core = p.core)
    (hc : connectable'.map Pairing.core = connectable.map Pairing.core) :
    (chosen? r p' connectable').map Profile.core = (chosen? t p connectable).map Profile.core := by
  have hchoice : choice? r p' = choice? t p := Profile.choice_eq_of_core (h.record_core hp)
  rw [chosen?, chosen?, hchoice, Profile.id_eq_of_core hp]
  cases choice? t p with
  | none => rfl
  | some choice =>
    simp only [bind, Option.bind_some]
    obtain ⟨hq, hq'⟩ | ⟨q, q', hq, hq', hcore⟩ :=
      map_eq_map_cases (find?_of_core hc p.id choice.key) <;> rw [hq, hq']
    · rfl
    · have hrecord := h.record_core (Prod.mk.inj hcore).2
      rw [Option.bind_some, Option.bind_some, Profile.isEnabled_eq_of_core hrecord]
      split
      · exact congrArg some hrecord
      · rfl

lemma Selector.settle_of_mirrors (h : r.Mirrors t) (hp : p'.core = p.core)
    (hc : connectable'.map Pairing.core = connectable.map Pairing.core) :
    (settle r connectable' p').1.core = (settle t connectable p).1.core ∧
      (settle r connectable' p').2 = (settle t connectable p).2 := by
  rw [settle, settle]
  obtain ⟨hn, hn'⟩ | ⟨n, n', hn, hn', hcore⟩ :=
    map_eq_map_cases (Override.chosen?_of_mirrors h hp hc) <;> rw [hn, hn']
  · exact ⟨h.record_core hp, rfl⟩
  · exact ⟨hcore, congrArg₂ (fun i j => [Event.candidateOverridden i j])
      (Profile.id_eq_of_core hp) (Profile.id_eq_of_core hcore)⟩

lemma Selector.isUnsaved_of_mirrors (h : r.Mirrors t) (o : Observation) :
    isUnsaved r o = isUnsaved t o := by
  rw [isUnsaved, isUnsaved, h.resolve_eq, ProfileTable.resolve_eq]
  obtain ⟨hp, hp'⟩ | ⟨p, p', hp, hp', hc⟩ := map_eq_map_cases (h.alike.resolve_core o) <;>
    rw [hp, hp']
  exact Profile.ephemeral_eq_of_core hc

end Decisions

structure Round.Follows (round : Round ProfileTable) (round' : Round (Recorder ProfileTable)) :
    Prop where
  candidate : round'.candidate.map Profile.core = round.candidate.map Profile.core
  events_eq : round'.events = round.events
  connectable :
    round'.memory.connectable.map Pairing.core = round.memory.connectable.map Pairing.core
  openUnsaved_eq : round'.memory.openUnsaved = round.memory.openUnsaved
  mirrors : round'.store.Mirrors round.store

namespace Selector

variable {sel : Selector ProfileTable} {sel' : Selector (Recorder ProfileTable)} {req : Request}
  {now : Millis}

lemma IsDefault.evaluate_of_mirrors (h : sel.IsDefault) (h' : sel'.IsDefault) (hm : r.Mirrors t)
    (usable : List Observation) (ctx : Context) :
    let e := sel.panel.evaluate usable ctx t
    let e' := sel'.panel.evaluate usable ctx r
    e'.1.candidate.map Profile.core = e.1.candidate.map Profile.core ∧
      e'.1.connectable.map Pairing.core = e.1.connectable.map Pairing.core ∧ e'.2.Mirrors e.2 := by
  obtain ⟨hu, hmade⟩ := UntrustedNetworks.evaluate_of_mirrors hm usable ctx
  obtain ⟨hs, hrated⟩ := SavedNetworks.evaluate_of_mirrors hmade usable ctx
  obtain ⟨hu₁, hu₂⟩ := Prod.mk.inj hu
  obtain ⟨hs₁, hs₂⟩ := Prod.mk.inj hs
  rw [h.evaluate_eq, h'.evaluate_eq]
  refine ⟨?_, ?_, hrated⟩
  · rw [map_resolve, map_resolve, hu₁, hs₁]
  · rw [List.map_append, List.map_append, hu₂, hs₂]

lemma refreshSeen_of_mirrors (hm : r.Mirrors t) {connectable connectable' : List Pairing} :
    (refreshSeen connectable' r).Mirrors (refreshSeen connectable t) := by
  have hround : ∀ c, (∃ seen, c = Change.setSeen seen) → c.OfRound := by
    rintro _ ⟨seen, rfl⟩
    trivial
  exact hm.of_changes hround (refreshSeen_writes connectable' r) (refreshSeen_writes connectable t)

lemma complete_follows (h : sel.IsDefault) (h' : sel'.IsDefault)
    (hs : sel'.settings = sel.settings) (hm : r.Mirrors t) (req : Request)
    (usable : List Observation) (now : Millis) :
    (sel.complete req usable now t).Follows (sel'.complete req usable now r) := by
  have hctx : sel'.context req now = sel.context req now := by rw [context, context, hs]
  obtain ⟨hcandidate, hc, hrated⟩ := h.evaluate_of_mirrors h' hm usable (sel.context req now)
  rw [complete, complete, hctx]
  generalize sel.panel.evaluate usable (sel.context req now) t = e at hcandidate hc hrated
  generalize sel'.panel.evaluate usable (sel.context req now) r = e' at hcandidate hc hrated
  have hswept : (refreshSeen e'.1.connectable e'.2).Mirrors (refreshSeen e.1.connectable e.2) :=
    refreshSeen_of_mirrors hrated
  have hopen : (usable.filter (·.isOpen)).filter (isUnsaved (refreshSeen e'.1.connectable e'.2)) =
      (usable.filter (·.isOpen)).filter (isUnsaved (refreshSeen e.1.connectable e.2)) :=
    List.filter_congr fun o _ => isUnsaved_of_mirrors hswept o
  have hlength : e'.1.connectable.length = e.1.connectable.length := by
    simpa only [List.length_map] using congrArg List.length hc
  obtain ⟨hp, hp'⟩ | ⟨p, p', hp, hp', hcore⟩ := map_eq_map_cases hcandidate
  · constructor
    case candidate => simp only [hp, hp', Option.map_none]
    case events_eq => simp only [hp, hp', hopen, hlength, Option.map_none]
    case connectable => exact hc
    case openUnsaved_eq => exact hopen
    case mirrors => exact hswept
  · obtain ⟨hsettled, hevents⟩ := settle_of_mirrors hswept hcore hc
    constructor
    case candidate => simp only [hp, hp', Option.map_some, hsettled]
    case events_eq =>
      simp only [hp, hp', hopen, hlength, Option.map_some, hevents, Profile.id_eq_of_core hsettled]
    case connectable => exact hc
    case openUnsaved_eq => exact hopen
    case mirrors => exact hswept

lemma skip?_of_mirrors (hs : sel'.settings = sel.settings)
    (hl : sel'.memory.lastSelection = sel.memory.lastSelection) (hm : r.Mirrors t) (req : Request)
    (usable : List Observation) (now : Millis) :
    sel'.skip? req usable now r = sel.skip? req usable now t := by
  have hcurrent : (sel'.situation req usable now r).current.map Profile.core =
      (sel.situation req usable now t).current.map Profile.core := by
    rw [situation, situation]
    cases req.association.network with
    | none => rfl
    | some id => exact hm.profile?_core id
  have hsaved : ((sel'.situation req usable now r).current.filter fun p => !p.ephemeral).map
      Profile.core = ((sel.situation req usable now t).current.filter fun p => !p.ephemeral).map
      Profile.core := by
    rw [Profile.filter_core fun _ => rfl, Profile.filter_core fun _ => rfl, hcurrent]
  rw [skip?, skip?, hs, Situation.skip?_of_saved sel.settings hsaved]
  rw [situation, situation, hl]

lemma select_follows (h : sel.IsDefault) (h' : sel'.IsDefault) (hs : sel'.settings = sel.settings)
    (hl : sel'.memory.lastSelection = sel.memory.lastSelection) (hm : r.Mirrors t) (req : Request)
    (now : Millis) : (sel.select req now t).Follows (sel'.select req now r) := by
  have hround : ∀ c, c = Change.clearCandidate → c.OfRound := by
    rintro _ rfl
    trivial
  have hupdated : (sel'.panel.update req.scan r).Mirrors (sel.panel.update req.scan t) :=
    hm.of_changes hround (h'.update_writes req.scan r) (h.update_writes req.scan t)
  have husable : sel'.usable req = sel.usable req := by rw [usable, usable, hs]
  have hskip := skip?_of_mirrors hs hl hupdated req (sel.usable req) now
  cases hreason : sel.skip? req (sel.usable req) now (sel.panel.update req.scan t) with
  | none =>
    rw [hreason, ← husable] at hskip
    rw [select_of_skip?_eq_none hreason, select_of_skip?_eq_none hskip, husable]
    exact complete_follows h h' hs hupdated req (sel.usable req) now
  | some reason =>
    rw [hreason, ← husable] at hskip
    rw [select_of_skip? hreason, select_of_skip? hskip]
    exact ⟨rfl, rfl, rfl, rfl, hupdated⟩

end Selector

def ProfileTable.isSeen (t : ProfileTable) (id : NetworkId) : Bool :=
  (t.profiles.get? id).any (·.status.seen)

namespace ProfileTable

variable {t' : ProfileTable}

lemma isSeen_of_changes {allowed : Change → Prop}
    (h : ∀ c, allowed c → ∀ p : Profile, (p.apply c).status.seen = p.status.seen)
    (hw : Writes (Write.Changes allowed) t t') (i : NetworkId) : t'.isSeen i = t.isSeen i := by
  have hget := IdMap.get?_map_of_view (view_of_writes (f := (·.status.seen)) h hw) i
  have hany (x : Option Profile) : x.any (·.status.seen) = (x.map (·.status.seen)).any id := by
    rw [Option.any_map]
    rfl
  rw [isSeen, isSeen, hany, hany, hget]

lemma isSeen_of_creates (ht : t.WellFormed) (hw : Writes Write.Creates t t') (i : NetworkId) :
    t'.isSeen i = t.isSeen i := by
  rw [isSeen, isSeen]
  obtain hi | ⟨hi, o, -, ho⟩ := ht.get?_of_creates (fun _ => id) hw i
  · rw [hi]
  · rw [hi, ho]
    rfl

end ProfileTable

namespace Recorder

lemma get?_refreshSeen (hr : r.store.WellFormed) (connectable : List Pairing) (i : NetworkId) :
    let seen := decide (i ∈ connectable.map (·.profile.id))
    (Selector.refreshSeen connectable r).store.profiles.get? i =
      (r.store.profiles.get? i).map fun p =>
        if r.fails (.change i (.setSeen seen)) then p else p.apply (.setSeen seen) := by
  let ids := sortedIds (connectable.map (·.profile.id))
  let marked := ids.foldl (fun r i => (ProfileStore.change r i (.setSeen true)).2) r
  have hids : i ∈ ids ↔ i ∈ connectable.map (·.profile.id) := mem_sortedIds
  have hmarked := get?_foldl_change (fun i => i) (.setSeen true) ids r i
  rw [List.map_id'] at hmarked
  have hwrites : Writes (fun _ => True) r marked :=
    Writes.foldl (fun r => r) (fun r i _ => Writes.change r i (.setSeen true) trivial) r
  have hwf : marked.store.WellFormed := hr.writes (writes_store hwrites)
  refine (get?_foldl_change_filter hwf (fun p => p.status.seen && p.id ∉ ids) _ i).trans ?_
  rw [hmarked, fails_of_writes hwrites]
  cases hp : r.store.profiles.get? i with
  | none => simp
  | some p =>
    obtain rfl := hr.id_eq hp
    by_cases hi : p.id ∈ ids
    · simp only [decide_eq_true (hids.mp hi), hi]
      cases r.fails (.change p.id (.setSeen true)) <;> simp [Profile.apply, hi]
    · simp only [decide_eq_false (fun h => hi (hids.mpr h)), hi]
      by_cases hs : p.status.seen = true
      · cases r.fails (.change p.id (.setSeen false)) <;> simp [hs, hi]
      · have hsame : p.apply (.setSeen false) = p := by
          rw [← eq_false_of_ne_true hs]
          rfl
        simp [hsame]

end Recorder

namespace Sample

def recordingSelector : Selector (Recorder ProfileTable) where
  settings := {}
  panel.seats := [⟨1, UntrustedNetworks.evaluator⟩, ⟨2, SavedNetworks.evaluator⟩]

lemma isDefault_recordingSelector : recordingSelector.IsDefault :=
  ⟨{}, rfl⟩

def laterScan : Request where
  scan := [home, cafe, bar]
  link := .disconnected
  untrustedAllowed := true

def forgetful : Recorder ProfileTable where
  store := (selector.select (request .disconnected) 0 table).store
  fails
    -- Home is 0 and the office 1. The café became 2 in the round before, and the bar will be 3.
    | .change id (.recordCandidate ..) => id = 0
    | .change id (.setSeen _) => id = 1 || id = 3
    | _ => false

end Sample

namespace Selector

variable {sel : Selector ProfileTable} {sel' : Selector (Recorder ProfileTable)} {req : Request}
  {now : Millis}

lemma savedStage_of_recorder (sel' : Selector (Recorder ProfileTable)) (hr : r.store.WellFormed)
    (req : Request) (now : Millis) :
    let r' := (sel'.savedStage req now r).2
    r'.fails = r.fails ∧ r'.store.WellFormed ∧ ∀ i, r'.store.isSeen i = r.store.isSeen i := by
  have hupdate := Recorder.writes_store (SavedNetworks.update_writes req.scan r)
  have hcreate := Recorder.writes_store (sel'.untrustedStage_creates req now r)
  have hrecord := Recorder.writes_store (SavedNetworks.evaluate_writes (sel'.usable req)
    (sel'.context req now) (sel'.untrustedStage req now r).2)
  have hall := sel'.savedStage_ofRound req now r
  refine ⟨Recorder.fails_of_writes hall, hr.writes (Recorder.writes_store hall), ?_⟩
  intro i
  have hmade := ProfileTable.isSeen_of_creates (hr.writes hupdate) hcreate i
  have hupdated := ProfileTable.isSeen_of_changes (by rintro _ rfl _; rfl) hupdate i
  have hrecorded := ProfileTable.isSeen_of_changes (by rintro _ ⟨o, s, rfl⟩ _; rfl) hrecord i
  exact hrecorded.trans (hmade.trans hupdated)

lemma seen_select_of_recorder (h' : sel'.IsDefault) (hr : r.store.WellFormed)
    (hc : (sel'.select req now r).isCompleted = true) {i : NetworkId} {p : Profile}
    (hp : (sel'.select req now r).store.store.profiles.get? i = some p) :
    let seen := decide (i ∈ (sel'.select req now r).memory.connectable.map (·.profile.id))
    p.status.seen = if r.fails (.change i (.setSeen seen)) then r.store.isSeen i else seen := by
  intro seen
  obtain ⟨hfails, hwf, hseen⟩ := savedStage_of_recorder sel' hr req now
  rw [h'.store_eq hc, Recorder.get?_refreshSeen hwf, hfails] at hp
  obtain ⟨q, hq, rfl⟩ := Option.map_eq_some_iff.mp hp
  change (if r.fails (.change i (.setSeen seen)) = true then q
    else q.apply (.setSeen seen)).status.seen = _
  split
  · rw [← hseen, ProfileTable.isSeen, hq, Option.any_some]
  · rfl

theorem select_of_failing_annotations (hr : r.store.Reachable)
    (hf : ∀ a, r.fails a = true → a.Annotates) (h : sel.IsDefault) (h' : sel'.IsDefault)
    (hs : sel'.settings = sel.settings) (hm : sel'.memory = sel.memory) (req : Request)
    (now : Millis) :
    let round := sel.select req now r.store
    let round' := sel'.select req now r
    round'.candidate.map (·.id) = round.candidate.map (·.id) ∧ round'.events = round.events ∧
      round'.memory.connectable.map (fun q => (q.observation, q.profile.id)) =
        round.memory.connectable.map (fun q => (q.observation, q.profile.id)) ∧
      round'.memory.openUnsaved = round.memory.openUnsaved ∧
      (round'.isCompleted = true → ∀ p ∈ round'.store.store.profiles.values,
        let seen := decide (p.id ∈ round'.memory.connectable.map (·.profile.id))
        (r.fails (.change p.id (.setSeen seen)) = false → p.status.seen = seen) ∧
          (r.fails (.change p.id (.setSeen seen)) = true →
            p.status.seen = r.store.isSeen p.id)) := by
  intro round round'
  have hmirrors : r.Mirrors r.store := ⟨hf _, .refl hr.wellFormed⟩
  have hround : round.Follows round' :=
    select_follows h h' hs (congrArg (·.lastSelection) hm) hmirrors req now
  refine ⟨?_, hround.events_eq, ?_, hround.openUnsaved_eq, ?_⟩
  · have hid := congrArg (Option.map (·.id)) hround.candidate
    rwa [Option.map_map, Option.map_map] at hid
  · exact Pairing.map_of_core hround.connectable fun c => (c.1, c.2.id)
  · intro hc p hp seen
    obtain ⟨i, hi⟩ := IdMap.mem_values_iff.mp hp
    obtain rfl := hround.mirrors.alike.wellFormed'.id_eq hi
    have hseen : p.status.seen =
        if r.fails (.change p.id (.setSeen seen)) then r.store.isSeen p.id else seen :=
      seen_select_of_recorder h' hr.wellFormed hc hi
    constructor
    · intro hkept
      rwa [hkept, if_neg Bool.false_ne_true] at hseen
    · intro hlost
      rwa [hlost, if_pos rfl] at hseen

theorem select_of_failing_annotations_forgetful :
    let round := Sample.selector.select Sample.laterScan 10 Sample.forgetful.store
    let round' := Sample.recordingSelector.select Sample.laterScan 10 Sample.forgetful
    round'.candidate.map (·.id) = some 0 ∧ round'.events = round.events ∧
      round'.memory.connectable.map (fun q => (q.observation, q.profile.id)) =
        [(Sample.cafe, 2), (Sample.bar, 3), (Sample.home, 0)] ∧
      round'.memory.openUnsaved = [Sample.cafe, Sample.bar] ∧
      ∀ p ∈ round'.store.store.profiles.values, (p.id = 0 → p.status.seen = true) ∧
        (p.id = 1 → p.status.seen = true) ∧ (p.id = 3 → p.status.seen = false) := by
  intro round round'
  have hreach : Sample.forgetful.store.Reachable :=
    ⟨[.add "home" .psk, .add "office" .psk,
      .select Sample.selector Sample.isDefault_selector (Sample.request .disconnected) 0], rfl⟩
  have hf : ∀ a, Sample.forgetful.fails a = true → a.Annotates := by
    intro a ha
    cases a with
    | resolve | createEphemeral => contradiction
    | change id c => cases c <;> trivial
  obtain ⟨hcandidate, hevents, hconnectable, hopen, hseen⟩ :=
    select_of_failing_annotations hreach hf Sample.isDefault_selector
      Sample.isDefault_recordingSelector rfl rfl Sample.laterScan 10
  have hc : round'.isCompleted = true := by decide
  have hids : round'.memory.connectable.map (·.profile.id) = [2, 3, 0] := by decide
  refine ⟨?_, hevents, ?_, ?_, ?_⟩
  · rw [hcandidate]
    decide
  · rw [hconnectable]
    decide
  · rw [hopen]
    decide
  · intro p hp
    obtain ⟨hkept, hlost⟩ := hseen hc p hp
    rw [hids] at hkept hlost
    refine ⟨?_, ?_, ?_⟩ <;> intro hid <;> rw [hid] at hkept hlost
    · exact hkept (by decide)
    · exact (hlost (by decide)).trans (by decide)
    · exact (hlost (by decide)).trans (by decide)

end Selector

end WirelessSelection
