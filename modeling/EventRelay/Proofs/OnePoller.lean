import EventRelay.Proofs.Lifecycle

namespace EventRelay

namespace Relay

variable {σ : Type}

/-- Without a controller a poller just ends. -/
theorem finish_lifecycle {r : Relay σ} (h : r.Lifecycle) (hc : r.hasController = false) (id : TaskId) :
    (r.endTask id .finished).Lifecycle := by
  have hs : ∀ {s}, r.slot ≠ some s := by
    intro s he
    rw [h.gone hc] at he
    contradiction
  have hc' : r.hasController = true → False := by simp [hc]
  refine ⟨⟨?_, h.gone, fun ht => (hc' ht).elim, h.since, fun he => absurd he hs, fun ht => (hc' ht).elim, ?_,
    h.spent, h.issued⟩, h.vacant, h.flag, fun he => absurd he hs⟩
  · intro i j f g p q hi hj
    exact h.unique (endTask_pollerAt_iff.mp hi).2 (endTask_pollerAt_iff.mp hj).2
  · intro j f p token hj ht
    exact h.held (endTask_pollerAt_iff.mp hj).2 ht

theorem moveTo_lifecycle {r : Relay σ} (h : r.Lifecycle) {s : PollerSlot} (hs : r.slot = some s) (index : Nat) :
    { r with cursor := r.cursor.moveTo index }.Lifecycle := by
  refine ⟨⟨h.unique, h.gone, h.current, h.since, h.task, ?_, h.held, h.spent, h.issued⟩, h.vacant, h.flag,
    h.stopping⟩
  intro _ he
  change r.slot = none at he
  rw [hs] at he
  contradiction

/-- A poller that dies while somebody is registered leaves its slot as it was. -/
theorem die_lifecycle {r : Relay σ} (h : r.Lifecycle) (hc : r.hasController = true)
    (hr : r.registry.isEmpty = false) {id : TaskId} {failures : Nat} {stage : PollerStage}
    (hp : r.PollerAt id failures stage) {draw : Nat} (hd : r.settings.backoff.delay? failures draw = none) :
    (r.endTask id .panicked).Lifecycle := by
  have hn : ∀ {j f p}, ¬ (r.endTask id .panicked).PollerAt j f p := by
    intro j f p hj
    obtain ⟨hne, hj⟩ := endTask_pollerAt_iff.mp hj
    exact hne (h.unique hj hp)
  obtain ⟨token, hs⟩ := h.current hc hp
  have died : (r.endTask id .panicked).DiedPausing id := by
    obtain ⟨name, ht⟩ := hp
    exact ⟨name, failures, stage, draw, by simp [endTask_get?, ht], hd⟩
  refine ⟨⟨fun hj => absurd hj hn, h.gone, fun _ _ _ _ hj => absurd hj hn, h.since, fun {s} he => .inr ?_, h.unset,
    fun hj => absurd hj hn, h.spent, h.issued⟩, h.vacant, h.flag, fun _ he => ?_⟩
  · change r.slot = some s at he
    rw [hs] at he
    cases he
    exact died
  · change r.registry.isEmpty = true at he
    rw [hr] at he
    contradiction

theorem firingTurn_still {r : Relay σ} {id : TaskId} {event : Event} {targets : List SubId}
    (hf : r.FiringAt id event targets) : r.Still (r.firingTurn id event targets) := by
  have out := dispatch_aside r targets ⟨event, id⟩
  obtain ⟨name, ht⟩ := hf
  exact out.toStill.trans (updateTask_still (out.rows id _ ht) rfl rfl)

theorem created_lifecycle {source : σ} {r : Relay σ} (h : Created source r) : r.Lifecycle := by
  have hn : ∀ {id f stage}, ¬ r.PollerAt id f stage := by
    rintro id f stage ⟨name, ht⟩
    rw [h.no_task] at ht
    contradiction
  obtain ⟨settings, surroundings, handlers, h⟩ := h
  obtain ⟨bus, -, rfl⟩ := Option.map_eq_some_iff.mp h
  exact ⟨⟨fun hp => absurd hp hn, nofun, fun _ _ _ _ hp => absurd hp hn, nofun, nofun, fun _ _ => rfl,
    fun hp => absurd hp hn, nofun, nofun⟩, fun _ => rfl, nofun, nofun⟩

variable [EventSource σ]

/-- A poller that finds nobody registered takes itself out of the slot. -/
theorem exitPoller_lifecycle {r : Relay σ} (h : r.Lifecycle) {id : TaskId} {failures : Nat} {stage : PollerStage}
    (hp : r.PollerAt id failures stage) (hr : r.registry.isEmpty = true) : (r.exitPoller id).2.Lifecycle := by
  have hn : ∀ {j f p}, ¬ (r.exitPoller id).2.PollerAt j f p := by
    intro j f p hj
    obtain ⟨hne, hj⟩ := endTask_pollerAt_iff.mp hj
    exact hne (h.unique hj hp)
  have hs : (r.exitPoller id).2.slot = none := rfl
  exact ⟨⟨fun hj => absurd hj hn, fun _ => hs, fun _ _ _ _ hj => absurd hj hn, by simp [hs], by simp [hs],
    fun _ _ => rfl, fun hj => absurd hj hn, h.spent, by simp [hs]⟩, fun _ => hr, by simp [hs], by simp [hs]⟩

theorem pauseAfter_lifecycle {r : Relay σ} (h : r.Lifecycle) (hc : r.hasController = true)
    (hr : r.registry.isEmpty = false) {id : TaskId} {failures : Nat} {stage : PollerStage} {token : TokenId}
    (hp : r.PollerAt id failures stage) (ht : token ∈ r.cancelled ∨ r.slot = some ⟨id, token⟩)
    (fault : FetchFault) : (r.pauseAfter id failures token fault).2.Lifecycle := by
  unfold pauseAfter
  split
  · rename_i hd
    exact die_lifecycle h hc hr hp hd
  · rename_i delay _
    have same : r.SameControl ({ r with draws := r.draws + 1 }.note
        (.fetchFailed id r.sourceName fault (min (failures + 1) maxFailures) delay)) :=
      ⟨rfl, rfl, rfl, rfl, rfl, rfl, rfl, fun _ _ _ => Iff.rfl⟩
    apply setWork_lifecycle (h.same same) (same.pollerAt.mpr hp)
    intro t he
    cases he
    exact ht

/-- However an answer is taken, the poller stays in step with the registry. -/
theorem Taken.lifecycle {r : Relay σ} {id : TaskId} {failures : Nat} {token : TokenId} {result : FetchResult}
    {turn : Turn × Relay σ} (taken : r.Taken id failures token result turn) (h : r.Lifecycle) {stage : PollerStage}
    (hp : r.PollerAt id failures stage) (ht : token ∈ r.cancelled ∨ r.slot = some ⟨id, token⟩) :
    turn.2.Lifecycle := by
  have told : ∀ o, r.SameControl (r.note o) := fun o => (note_aside r o).toSameControl
  cases taken with
  | orphaned hc => exact finish_lifecycle h hc id
  | exited _ hr => exact exitPoller_lifecycle h hp hr
  | @passed f hc _ =>
    obtain ⟨t, hs⟩ := h.current hc hp
    have moved : ((r.note (.resultTaken id (.fetched f))).moveCursor f).Lifecycle :=
      (moveTo_lifecycle (h.same (told _)) hs f.index).same (moveCursor_aside _ f).toSameControl
    have out := handOut_aside ((r.note (.resultTaken id (.fetched f))).moveCursor f) id f
    have poller := out.toSameControl.pollerAt.mpr ((moveCursor_aside _ f).toSameControl.pollerAt.mpr hp)
    exact setWork_lifecycle (moved.same out.toSameControl) poller 0 nofun
  | ignored => exact setWork_lifecycle (h.same ((told _).trans (note_aside _ _).toSameControl)) hp failures nofun
  | failed hc hr => exact pauseAfter_lifecycle (h.same (told _)) hc hr hp ht _

theorem PollerStep.lifecycle {r : Relay σ} {id : TaskId} {failures : Nat} {stage : PollerStage}
    {turn : Turn × Relay σ} (step : r.PollerStep id failures stage turn) (h : r.Lifecycle)
    (hp : r.PollerAt id failures stage) : turn.2.Lifecycle := by
  have held : ∀ {token reply r'}, r.Consulted id stage token reply r' →
      token ∈ r'.cancelled ∨ r'.slot = some ⟨id, token⟩ := by
    intro token reply r' consulted
    rw [consulted.sameControl.cancelled, consulted.sameControl.slot]
    rcases consulted.token with ht | ⟨hc, s, hs, rfl⟩
    · exact h.held hp ht
    · obtain ⟨t, he⟩ := h.current hc hp
      rw [hs] at he
      cases he
      exact .inr hs
  cases step with
  | orphaned alone =>
    cases hc : r.hasController with
    | false => exact finish_lifecycle h hc id
    | true =>
      obtain ⟨t, hs⟩ := h.current hc hp
      rw [alone hc] at hs
      contradiction
  | exited _ hr => exact exitPoller_lifecycle h hp hr
  | answered consulted =>
    have same := consulted.sameControl
    exact (takeResult_taken ..).lifecycle (h.same same) (same.pollerAt.mpr hp) (held consulted)
  | queued consulted =>
    have same := consulted.sameControl
    apply setWork_lifecycle (h.same same) (same.pollerAt.mpr hp)
    intro t he
    cases he
    exact held consulted
  | rested => exact setWork_lifecycle h hp failures nofun
  | asleep | resting => exact h

theorem pollerTurn_lifecycle {r : Relay σ} (h : r.Lifecycle) {id : TaskId} {failures : Nat} {stage : PollerStage}
    (hp : r.PollerAt id failures stage) : (r.pollerTurn id failures stage).2.Lifecycle :=
  (pollerTurn_step r id failures stage).lifecycle h hp

theorem lifecycle_invariant : Invariant (Lifecycle : Relay σ → Prop) :=
  ⟨Act.lifecycle, fun hp h => pollerTurn_lifecycle h hp, fun hf h => h.same (firingTurn_still hf).toSameControl⟩

/-- Whenever somebody looks at a relay, its poller is in step with its registry. -/
theorem seen_lifecycle {source : σ} {r : Relay σ} (h : Seen source r) : r.Lifecycle :=
  lifecycle_invariant.seen (fun _ => created_lifecycle) h

/-- The controller has at most one unfinished poller, the one in its slot; the slot is empty exactly while the cursor
is unset; and the poller is told to stop exactly while nobody is registered. Only a poller that died over a delay that
could not be computed stays in the slot without being there. -/
theorem poller_follows_registry {source : σ} {r : Relay σ} (h : Seen source r) (hc : r.hasController = true) :
    ((∀ {i j f g} {p q : PollerStage}, r.PollerAt i f p → r.PollerAt j g q → i = j) ∧
      ∀ {id f} {p : PollerStage}, r.PollerAt id f p → ∃ token, r.slot = some ⟨id, token⟩) ∧
    ((r.slot = none ↔ r.cursor = .unset) ∧ ∀ {s}, r.slot = some s → r.cursor.since.isSome = true) ∧
    (r.registry.isEmpty = false → ∃ s, r.slot = some s ∧ r.isCancelled s.token = false ∧
      ((∃ f p, r.PollerAt s.task f p) ∨ r.DiedPausing s.task)) ∧
    (r.registry.isEmpty = true → ∀ {s}, r.slot = some s →
      r.isCancelled s.token = true ∧ ∃ f p, r.PollerAt s.task f p) := by
  have inv := seen_lifecycle h
  refine ⟨⟨inv.unique, inv.current hc⟩, ⟨⟨inv.unset hc, fun hu => ?_⟩, inv.since⟩, fun hr => ?_, fun hr s hs => ?_⟩
  · cases hs : r.slot with
    | none => rfl
    | some s =>
      have stamped := inv.since hs
      rw [hu] at stamped
      contradiction
  · cases hs : r.slot with
    | none =>
      rw [inv.vacant hs] at hr
      contradiction
    | some s => exact ⟨s, rfl, (inv.flag hs).trans hr, inv.task hs⟩
  · exact ⟨(inv.flag hs).trans hr, inv.stopping hs hr⟩

theorem poller_follows_registry_plain :
    let r := (plain (Script.create [])).follow [.request (.call (.add "a" 0)), .turn 0]
    r.hasController = true ∧ r.registry.isEmpty = false ∧
      ∃ s, r.slot = some s ∧ r.isCancelled s.token = false ∧ ((∃ f p, r.PollerAt s.task f p) ∨ r.DiedPausing s.task) :=
  ⟨by decide, by decide,
    (poller_follows_registry (.between ((Reachable.created (plain_created _)).follow _)) (by decide)).2.2.1 (by decide)⟩

end Relay

end EventRelay
