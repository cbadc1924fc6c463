import Mathlib.Logic.Relation
import WirelessSelection.Proofs.Store.WellFormed
import WirelessSelection.Selector

namespace WirelessSelection

inductive Write
  | change (id : NetworkId) (c : Change)
  | createEphemeral (o : Observation)

def Change.OfRound : Change → Prop
  | recordCandidate .. | clearCandidate | setSeen _ => True
  | setEnabled _ | setChoice _ | clearChoice => False

def Change.OfPick : Change → Prop
  | setEnabled _ | setChoice _ | clearChoice => True
  | recordCandidate .. | clearCandidate | setSeen _ => False

namespace Write

def OfRound : Write → Prop
  | change _ c => c.OfRound
  | createEphemeral _ => True

def Changes (allowed : Change → Prop) : Write → Prop
  | change _ c => allowed c
  | createEphemeral _ => False

def Creates : Write → Prop
  | change .. => False
  | createEphemeral _ => True

lemma Creates.ofRound {w : Write} (h : w.Creates) : w.OfRound := by
  cases w with
  | change id c => exact h.elim
  | createEphemeral o => trivial

lemma Changes.mono {allowed allowed' : Change → Prop} (h : ∀ c, allowed c → allowed' c) {w : Write}
    (hw : w.Changes allowed) : w.Changes allowed' := by
  cases w with
  | change id c => exact h c hw
  | createEphemeral o => exact hw

lemma Changes.ofRound {allowed : Change → Prop} (h : ∀ c, allowed c → c.OfRound) {w : Write}
    (hw : w.Changes allowed) : w.OfRound := by
  cases w with
  | change id c => exact h c hw
  | createEphemeral o => exact hw.elim

def run {σ : Type} [ProfileStore σ] (w : Write) (store : σ) : σ :=
  match w with
  | change id c => (ProfileStore.change store id c).2
  | createEphemeral o => (ProfileStore.createEphemeral store o).2

end Write

def Writes {σ : Type} [ProfileStore σ] (allowed : Write → Prop) : σ → σ → Prop :=
  Relation.ReflTransGen fun store store' => ∃ w, allowed w ∧ w.run store = store'

namespace Writes

variable {σ : Type} [ProfileStore σ] {allowed allowed' : Write → Prop} {store store' : σ}

open ProfileStore

lemma mono (h : ∀ w, allowed w → allowed' w) (hw : Writes allowed store store') :
    Writes allowed' store store' :=
  Relation.ReflTransGen.mono (fun _ _ ⟨w, hw, hs⟩ => ⟨w, h w hw, hs⟩) _ _ hw

lemma mono_changes {allowed allowed' : Change → Prop} (h : ∀ c, allowed c → allowed' c)
    (hw : Writes (Write.Changes allowed) store store') :
    Writes (Write.Changes allowed') store store' :=
  hw.mono fun _ => Write.Changes.mono h

lemma ofRound {allowed : Change → Prop} (h : ∀ c, allowed c → c.OfRound)
    (hw : Writes (Write.Changes allowed) store store') : Writes Write.OfRound store store' :=
  hw.mono fun _ => Write.Changes.ofRound h

lemma change (store : σ) (id : NetworkId) (c : Change) (h : allowed (.change id c)) :
    Writes allowed store (ProfileStore.change store id c).2 :=
  Relation.ReflTransGen.single ⟨_, h, rfl⟩

lemma createEphemeral (store : σ) {o : Observation} (h : allowed (.createEphemeral o)) :
    Writes allowed store (ProfileStore.createEphemeral store o).2 :=
  Relation.ReflTransGen.single ⟨_, h, rfl⟩

lemma foldl {α β : Type} (store : β → σ) {f : β → α → β} {l : List α}
    (h : ∀ b, ∀ a ∈ l, Writes allowed (store b) (store (f b a))) (b : β) :
    Writes allowed (store b) (store (l.foldl f b)) := by
  induction l generalizing b with
  | nil => exact .refl
  | cons a l ih =>
    have hl := ih (fun b a ha => h b a (List.mem_cons_of_mem _ ha)) (f b a)
    exact (h b a List.mem_cons_self).trans hl

end Writes

namespace SavedNetworks

variable {σ : Type} [ProfileStore σ]

open ProfileStore

lemma update_writes (scan : List Observation) (store : σ) :
    Writes (Write.Changes (· = .clearCandidate)) store (update scan store) :=
  Writes.foldl id (fun s p _ => Writes.change s p.id .clearCandidate (by rfl)) store

lemma update_ofRound (scan : List Observation) (store : σ) :
    Writes Write.OfRound store (update scan store) := by
  refine (update_writes scan store).ofRound ?_
  rintro _ rfl
  trivial

lemma record_snd (tally : Tally) (store : σ) (id : NetworkId) (o : Observation) (s : Score) :
    (record tally store id o s).2 =
      if beats s (tally.recorded.lookup id) then (change store id (.recordCandidate o s)).2
      else store := by
  rw [record]
  split
  · cases change store id (.recordCandidate o s) with
    | mk result store => cases result <;> rfl
  · rfl

lemma consider_writes (ctx : Context) (last : Option Pick) (state : Tally × σ) (o : Observation) :
    Writes (Write.Changes fun c => ∃ o s, c = .recordCandidate o s) state.2
      (consider ctx last state o).2 := by
  rw [consider]
  split
  · next p _ =>
    split
    · change Writes _ state.2 (record _ _ _ _ _).2
      rw [record_snd]
      split
      · exact Writes.change state.2 p.id _ ⟨_, _, rfl⟩
      · exact .refl
    · exact .refl
  · exact .refl

lemma evaluate_writes (usable : List Observation) (ctx : Context) (store : σ) :
    Writes (Write.Changes fun c => ∃ o s, c = .recordCandidate o s) store
      (evaluate usable ctx store).2 :=
  Writes.foldl Prod.snd (fun b o _ => consider_writes ctx (lastPick? store) b o) ({}, store)

lemma evaluate_ofRound (usable : List Observation) (ctx : Context) (store : σ) :
    Writes Write.OfRound store (evaluate usable ctx store).2 := by
  refine (evaluate_writes usable ctx store).ofRound ?_
  rintro _ ⟨o, s, rfl⟩
  trivial

end SavedNetworks

namespace UntrustedNetworks

variable {σ : Type} [ProfileStore σ]

open ProfileStore

lemma ephemeral?_writes {allowed : Write → Prop} (store : σ) {o : Observation}
    (h : allowed (.createEphemeral o)) : Writes allowed store (ephemeral? store o).2 := by
  rw [ephemeral?]
  split
  · exact .refl
  · have hw : Writes allowed store (createEphemeral store o).2 := Writes.createEphemeral store h
    cases hc : createEphemeral store o with
    | mk result store' =>
      rw [hc] at hw
      cases result <;> exact hw
  · exact .refl

lemma ephemeral?_ofRound (store : σ) (o : Observation) :
    Writes Write.OfRound store (ephemeral? store o).2 :=
  ephemeral?_writes store trivial

lemma evaluate_of_not_allowed (usable : List Observation) {ctx : Context}
    (h : ctx.untrustedAllowed = false) (store : σ) : evaluate usable ctx store = ({}, store) := by
  rw [evaluate, h, if_neg Bool.false_ne_true]

lemma consider_snd (state : Tally × σ) (o : Observation) :
    (consider state o).2 = (ephemeral? state.2 o).2 := by
  rw [consider]
  split <;> next h => rw [h]

lemma evaluate_writes {allowed : Write → Prop} {usable : List Observation}
    (h : ∀ o ∈ usable, allowed (.createEphemeral o)) (ctx : Context) (store : σ) :
    Writes allowed store (evaluate usable ctx store).2 := by
  rw [evaluate]
  split
  · refine Writes.foldl Prod.snd (f := consider) (fun b o ho => ?_) ({}, store)
    rw [consider_snd]
    exact ephemeral?_writes b.2 (h o (List.mem_of_mem_filter ho))
  · exact .refl

lemma evaluate_creates (usable : List Observation) (ctx : Context) (store : σ) :
    Writes Write.Creates store (evaluate usable ctx store).2 :=
  evaluate_writes (fun _ _ => trivial) ctx store

lemma evaluate_ofRound (usable : List Observation) (ctx : Context) (store : σ) :
    Writes Write.OfRound store (evaluate usable ctx store).2 :=
  evaluate_writes (fun _ _ => trivial) ctx store

end UntrustedNetworks

namespace Selector

variable {σ : Type} [ProfileStore σ]

lemma refreshSeen_writes (connectable : List Pairing) (store : σ) :
    Writes (Write.Changes fun c => ∃ seen, c = .setSeen seen) store
      (refreshSeen connectable store) := by
  refine Relation.ReflTransGen.trans (Writes.foldl id (fun s i _ => ?_) store)
    (Writes.foldl id (fun s p _ => ?_) _)
  · exact Writes.change s i (.setSeen true) ⟨true, rfl⟩
  · exact Writes.change s p.id (.setSeen false) ⟨false, rfl⟩

lemma refreshSeen_ofRound (connectable : List Pairing) (store : σ) :
    Writes Write.OfRound store (refreshSeen connectable store) := by
  refine (refreshSeen_writes connectable store).ofRound ?_
  rintro _ ⟨seen, rfl⟩
  trivial

end Selector

namespace Override

variable {σ : Type} [ProfileStore σ]

open ProfileStore

lemma reinstate_writes (store : σ) (id : NetworkId) (picked : Profile) :
    Writes (Write.Changes Change.OfPick) store (reinstate store id picked) := by
  have henable : Writes (Write.Changes Change.OfPick) store
      (if picked.isEnabled then store else (change store id (.setEnabled true)).2) := by
    split
    · exact .refl
    · exact Writes.change store id (.setEnabled true) trivial
  rw [reinstate]
  split
  · exact henable.trans (Writes.change _ id .clearChoice trivial)
  · exact henable

lemma fanOut_snd (choice : ConnectChoice) (state : Nat × σ) (p : Profile) :
    (fanOut choice state p).2 = (change state.2 p.id (.setChoice choice)).2 := by
  rw [fanOut]
  split <;> next h => rw [h]

lemma pick_writes (store : σ) (id : NetworkId) (wall : Millis) :
    Writes (Write.Changes Change.OfPick) store (pick store id wall).2 := by
  rw [pick]
  split
  · exact .refl
  · next picked _ =>
    refine (reinstate_writes store id picked).trans ?_
    refine Writes.foldl Prod.snd (fun b p _ => ?_) (0, reinstate store id picked)
    rw [fanOut_snd]
    exact Writes.change b.2 p.id _ trivial

lemma choose_snd (store : σ) (id : NetworkId) (wall : Millis) :
    (choose store id wall).2.2 = (pick store id wall).2 := by
  rw [choose]
  split <;> next h => rw [h]

end Override

end WirelessSelection
