import EventRelay.Proofs.Flow

namespace EventRelay

namespace Relay

variable {σ : Type} [EventSource σ]

/-- An act, or one step of a poller or of a one-time task. -/
inductive Stride : Relay σ → Relay σ → Prop
  | act {r r' : Relay σ} (h : Act r r') : Stride r r'
  | poller {r : Relay σ} {id : TaskId} {failures : Nat} {stage : PollerStage} (h : r.PollerAt id failures stage) :
      Stride r (r.pollerTurn id failures stage).2
  | firing {r : Relay σ} {id : TaskId} {event : Event} {targets : List SubId} (h : r.FiringAt id event targets) :
      Stride r (r.firingTurn id event targets)

abbrev Strides : Relay σ → Relay σ → Prop := Relation.ReflTransGen Stride

theorem Acts.strides {r r' : Relay σ} (h : Acts r r') : Strides r r' := by
  induction h with
  | refl => exact .refl
  | tail _ act ih => exact ih.tail (.act act)

theorem Deeds.strides {r r' : Relay σ} (h : Deeds r r') : Strides r r' := Acts.strides (Deeds.acts h)

theorem move_strides (r : Relay σ) (m : Move) : Strides r (r.move m) := by
  rcases move_cases r m with acts | ⟨id, failures, stage, -, hp, he⟩ | ⟨id, event, targets, -, hf, he⟩
  · exact acts.strides
  · rw [he]
    exact .single (.poller hp)
  · rw [he]
    exact .single (.firing hf)

theorem follow_strides (r : Relay σ) (moves : List Move) : Strides r (r.follow moves) := by
  induction moves generalizing r with
  | nil => exact .refl
  | cons m rest ih => exact (move_strides r m).trans (ih _)

/-- Every state that can be seen is a number of strides away from a new relay. -/
theorem Seen.strides {source : σ} {r : Relay σ} (h : Seen source r) :
    ∃ start, Created source start ∧ Strides start r := by
  cases h with
  | between h =>
    obtain ⟨start, moves, hs, rfl⟩ := h
    exact ⟨start, hs, follow_strides start moves⟩
  | inside h worker found head made =>
    obtain ⟨start, moves, hs, rfl⟩ := h
    have began := (follow_strides start moves).tail (.act (.began worker found head))
    exact ⟨start, hs, began.trans (Deeds.strides (react_deeds _ _ _))⟩

theorem Invariant.stride {P : Relay σ → Prop} (h : Invariant P) {r r' : Relay σ} (hs : Stride r r') (hr : P r) :
    P r' := by
  cases hs with
  | act act => exact h.act act hr
  | poller hp => exact h.poller hp hr
  | firing hf => exact h.firing hf hr

theorem Invariant.strides {P : Relay σ → Prop} (h : Invariant P) {r r' : Relay σ} (hs : Strides r r') (hr : P r) :
    P r' := by
  induction hs with
  | refl => exact hr
  | tail _ stride ih => exact h.stride stride ih

/-- A stride adds to the flow of a subscriber only what a poller hands to those registered under its name, stamped with
the index under which it was fetched, or what a one-time task hands to those it was fired at. -/
theorem Stride.supply {r r' : Relay σ} (h : Stride r r') :
    r.Steady r' ∨
    (∃ id failures stage f, r.PollerAt id failures stage ∧ .resultTaken id (.fetched f) ∈ r'.past ∧
      r.Gained r' (r.registry.membersOf f.event.name) ⟨f.event.indexed f.index, id⟩) ∨
    ∃ id event targets, r.FiringAt id event targets ∧ r.Gained r' targets ⟨event, id⟩ := by
  cases h with
  | act h => exact .inl (Acts.steady (.single h))
  | @poller id failures stage hp =>
    rcases (pollerTurn_step r id failures stage).flow hp with ⟨token, f, r₁, consulted, -, he⟩ | ⟨calm, -⟩
    · have same := consulted.sameControl
      have told : r.Calm (r₁.note (.resultTaken id (.fetched f))) := consulted.calm.trans (note_calm _ rfl)
      have poller : (r₁.note (.resultTaken id (.fetched f))).PollerAt id failures stage := same.pollerAt.mpr hp
      have passed := passOn_gained poller f
      have gained := (told.gained [] _).trans passed
      have taken : .resultTaken id (.fetched f) ∈ (r.pollerTurn id failures stage).2.past :=
        he ▸ passed.past.subset List.mem_cons_self
      rw [List.nil_append, ← he] at gained
      have members : (r₁.note (.resultTaken id (.fetched f))).registry = r.registry := same.registry
      rw [members] at gained
      exact .inr (.inl ⟨id, failures, stage, f, hp, taken, gained⟩)
    · exact .inl calm.toSteady
  | firing hf => exact .inr (.inr ⟨_, _, _, hf, firingTurn_gained hf⟩)

theorem Stride.ongoing {r r' : Relay σ} (h : Stride r r') : r.Ongoing r' := by
  rcases h.supply with steady | ⟨_, _, _, _, _, _, gained⟩ | ⟨_, _, _, _, gained⟩
  · exact steady.toOngoing
  · exact gained.toOngoing
  · exact gained.toOngoing

theorem Strides.ongoing {r r' : Relay σ} (h : Strides r r') : r.Ongoing r' := by
  induction h with
  | refl => exact .refl r
  | tail _ stride ih => exact ih.trans stride.ongoing

end Relay

end EventRelay
