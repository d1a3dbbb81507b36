import EventRelay.Proofs.Enrolment
import EventRelay.Proofs.OnePoller
import EventRelay.Proofs.Ring

namespace EventRelay

namespace Relay

/-- The fetch with that ticket waits alone, where the controller's cursor stands. -/
def Waits (r : Relay EventRing) (ticket : Ticket) : Prop :=
  ∃ w, r.source.line.waiters = [w] ∧ w.ticket = ticket ∧
    (r.hasController = true → w.cursor = r.cursor ∧ (w.woken = false → r.source.find? r.cursor = none))

structure Waiting (r : Relay EventRing) : Prop where
  fetching : ∀ {id f token ticket}, r.PollerAt id f (.fetching token ticket) → r.Waits ticket
  nobody : (∀ id f token ticket, ¬ r.PollerAt id f (.fetching token ticket)) → r.source.line.waiters = []

theorem Waiting.stirred {r r' : Relay EventRing} (h : r.Waiting)
    (pollers : ∀ {id f p}, r'.PollerAt id f p ↔ r.PollerAt id f p)
    (controller : r'.hasController = true → r.hasController = true ∧ r'.cursor = r.cursor)
    (source : r.source.Stirred r'.source) : r'.Waiting := by
  refine ⟨fun hp => ?_, fun hn => source.nobody (h.nobody fun id f token ticket hp => hn _ _ _ _ (pollers.mpr hp))⟩
  obtain ⟨w, hw, ht, hc⟩ := h.fetching (pollers.mp hp)
  obtain ⟨w', hw', ht', hcur, hwoken⟩ := source.one hw
  refine ⟨w', hw', ht'.trans ht, fun hc' => ?_⟩
  obtain ⟨hc', he⟩ := controller hc'
  obtain ⟨hat, hnone⟩ := hc hc'
  rw [he]
  refine ⟨hcur.trans hat, fun hs => ?_⟩
  obtain ⟨asleep, slots⟩ := hwoken hs
  rw [EventRing.find?_congr slots]
  exact hnone asleep

theorem Waiting.same {r r' : Relay EventRing} (h : r.Waiting) (hs : r.Still r') : r'.Waiting :=
  h.stirred hs.toSameControl.pollerAt (fun hc => ⟨hs.toSameControl.hasController ▸ hc, hs.cursor⟩)
    (hs.source ▸ .refl _)

theorem Waiting.with_registry {r : Relay EventRing} (h : r.Waiting) (registry : Registry) :
    { r with registry }.Waiting :=
  h.stirred Iff.rfl (fun hc => ⟨hc, rfl⟩) (.refl _)

theorem Waiting.idle {r : Relay EventRing} (hn : ∀ id f token ticket, ¬ r.PollerAt id f (.fetching token ticket))
    (hl : r.source.line.waiters = []) : r.Waiting :=
  ⟨fun hp => absurd hp (hn _ _ _ _), fun _ => hl⟩

/-- However the poller is brought in step with the registry, only a poller that is left alone goes on waiting. -/
theorem Waiting.align {r r' : Relay EventRing} (h : r.Waiting) (ht : r.Tracked) (hc : r.hasController = true)
    (ha : r.Alignment r') : r'.Waiting := by
  have quiet : (∀ s, r.slot = some s → r.taskEnded s.task = true) → r.source.line.waiters = [] :=
    fun hs => h.nobody fun id f token ticket => ht.no_poller hc hs id f _
  have started : ∀ {r₀ : Relay EventRing}, (∀ id f p, ¬ r₀.PollerAt id f p) → r₀.source.line.waiters = [] →
      r₀.startPoller.Waiting := by
    intro r₀ hn hl
    refine .idle (fun id f token ticket hp => ?_) hl
    obtain ⟨-, hstage⟩ := startPoller_pollerAt hn hp
    contradiction
  cases ha with
  | resting | stopping | running => exact h
  | started hs hr =>
    have dead : ∀ s, r.slot = some s → r.taskEnded s.task = true := by simp [hs]
    exact started (ht.no_poller hc dead) (quiet dead)
  | buried hs he hr =>
    have dead : ∀ s, r.slot = some s → r.taskEnded s.task = true := by simp [hs, he]
    exact .idle (fun id f token ticket => ht.no_poller hc dead id f _) (quiet dead)
  | replaced hs he hr =>
    have dead : ∀ s, r.slot = some s → r.taskEnded s.task = true := by simp [hs, he]
    have hn : ∀ id f p, ¬ r.vacate.PollerAt id f p := ht.no_poller hc dead
    exact started hn (quiet dead)
  | stopped => exact h.stirred Iff.rfl (fun hc => ⟨hc, rfl⟩) (EventRing.interrupt_stirred _)
  | revived => exact h.stirred Iff.rfl (fun hc => ⟨hc, rfl⟩) (.refl _)

/-- What holds of every relay over a ring: its poller, its registry, its ring and the line there are in order. -/
structure Orderly (r : Relay EventRing) : Prop extends Lifecycle r, Waiting r where
  sound : r.source.Sound
  proper : r.registry.Proper r.subscribers.size

theorem Orderly.still {r r' : Relay EventRing} (h : r.Orderly) (hs : r.Still r') : r'.Orderly where
  toLifecycle := h.toLifecycle.same hs.toSameControl
  toWaiting := h.toWaiting.same hs
  sound := hs.source ▸ h.sound
  proper := by
    rw [hs.registry, hs.size]
    exact h.proper

theorem Alignment.lineOnly {r r' : Relay EventRing} (h : r.Alignment r') : EventRing.LineOnly r.source r'.source := by
  cases h with
  | resting | started | buried | replaced | stopped | stopping | revived | running => exact ⟨_, rfl⟩

theorem Alignment.keeps {r r' : Relay EventRing} (h : r.Alignment r') :
    r'.registry = r.registry ∧ r'.subscribers = r.subscribers := by
  cases h with
  | resting | started | buried | replaced | stopped | stopping | revived | running => exact ⟨rfl, rfl⟩

/-- After a change of the registry the relay is in order again. -/
theorem Orderly.follow_registry {r r' : Relay EventRing} (h : r.Orderly) (hc : r.hasController = true)
    {registry : Registry} (proper : registry.Proper r.subscribers.size) (hs : { r with registry }.Still r') :
    r'.followRegistry.Orderly := by
  have changed : { r with registry }.Tracked :=
    ⟨h.unique, h.gone, h.current, h.since, h.task, h.unset, h.held, h.spent, h.issued⟩
  have waiting : { r with registry }.Waiting := h.toWaiting.with_registry registry
  have tracked := changed.same hs.toSameControl
  have hc' : r'.hasController = true := hs.toSameControl.hasController.trans hc
  have aligned := followRegistry_alignment r'
  obtain ⟨registry_eq, subscribers_eq⟩ := aligned.keeps
  refine ⟨tracked.follow_registry hc', (waiting.same hs).align tracked hc' aligned, ?_, ?_⟩
  · exact EventRing.Sound.lineOnly (hs.source ▸ h.sound) aligned.lineOnly
  · rw [registry_eq, subscribers_eq, hs.registry, hs.size]
    exact proper

theorem letGo_orderly {r : Relay EventRing} (h : r.Orderly) (hl : r.handles = 1) :
    { r with handles := r.handles - 1 }.letGo.Orderly := by
  have gone : ¬ { r with handles := r.handles - 1 }.hasController = true := by simp [hasController, hl]
  have stopped : { r with handles := r.handles - 1 }.abandonPoller.Waiting ∧
      EventRing.LineOnly r.source { r with handles := r.handles - 1 }.abandonPoller.source ∧
      { r with handles := r.handles - 1 }.abandonPoller.subscribers = r.subscribers := by
    unfold abandonPoller
    split
    · exact ⟨h.toWaiting.stirred Iff.rfl (fun hc => absurd hc gone) (.refl _), ⟨_, rfl⟩, rfl⟩
    · exact ⟨h.toWaiting.stirred Iff.rfl (fun hc => absurd hc gone) (EventRing.interrupt_stirred _), ⟨_, rfl⟩, rfl⟩
  obtain ⟨waiting, line, subscribers⟩ := stopped
  have still := (withRegistry_aside { r with handles := r.handles - 1 }.abandonPoller Registry.empty).toStill
  refine ⟨letGo_lifecycle h.toTracked hl, ?_, ?_, ?_⟩
  · exact (waiting.with_registry _).same still
  · exact (h.sound.lineOnly line).lineOnly (still.source ▸ ⟨_, rfl⟩)
  · have emptied : { r with handles := r.handles - 1 }.letGo.registry = .empty := still.registry
    rw [emptied]
    exact .empty _

theorem Deed.orderly {r r' : Relay EventRing} (h : Deed r r') (ho : r.Orderly) : r'.Orderly := by
  have lifecycle := h.lifecycle ho.toLifecycle
  have still : ∀ {r' : Relay EventRing}, r.Still r' → r'.Orderly := ho.still
  cases h with
  | told o _ => exact still (note_aside r o).toStill
  | aligned hc altered changed => exact ho.follow_registry hc (ho.proper.altered altered) changed.aside.toStill
  | discarded reason sub => exact still (discardPending_aside r reason sub).toStill
  | fired event _ => exact still (fireEvent_aside r event).toStill
  | permitted sub f => exact still (updateSubscriber_aside r sub _).toStill
  | observed | pushed => exact still ⟨⟨rfl, rfl, rfl, rfl, rfl, rfl, rfl, fun _ _ _ => Iff.rfl⟩, rfl, rfl, rfl⟩
  | slept => exact ⟨lifecycle, ho.toWaiting.stirred Iff.rfl (fun hc => ⟨hc, rfl⟩) (.refl _), ho.sound, ho.proper⟩
  | posted accepted =>
    obtain ⟨source, hp, rfl⟩ := postToSource_ok accepted
    obtain ⟨-, rfl, -⟩ := EventRing.post_ok hp
    exact ⟨lifecycle, ho.toWaiting.stirred Iff.rfl (fun hc => ⟨hc, rfl⟩) (EventRing.woken_stirred _ rfl),
      EventRing.store_sound ho.sound _ _, ho.proper⟩
  | interrupted =>
    exact ⟨lifecycle, ho.toWaiting.stirred Iff.rfl (fun hc => ⟨hc, rfl⟩) (EventRing.interrupt_stirred _),
      ho.sound.lineOnly ⟨_, rfl⟩, ho.proper⟩
  | closed =>
    have sound : r.source.close.Sound :=
      ⟨ho.sound.room, ho.sound.bound, ho.sound.filling, ho.sound.place, ho.sound.recent⟩
    exact ⟨lifecycle, ho.toWaiting.stirred Iff.rfl (fun hc => ⟨hc, rfl⟩) (EventRing.woken_stirred _ rfl), sound,
      ho.proper⟩
  | cloned hc => exact ⟨lifecycle, ho.toWaiting.stirred Iff.rfl (fun _ => ⟨hc, rfl⟩) (.refl _), ho.sound, ho.proper⟩
  | dropped other =>
    refine ⟨lifecycle, ho.toWaiting.stirred Iff.rfl (fun hc => ⟨?_, rfl⟩) (.refl _), ho.sound, ho.proper⟩
    simp only [hasController, bne_iff_ne] at hc ⊢
    omega
  | letGone last => exact letGo_orderly ho last

theorem Act.orderly {r r' : Relay EventRing} (h : Act r r') (ho : r.Orderly) : r'.Orderly := by
  rcases h.still with hd | hs
  · exact hd.orderly ho
  · exact ho.still hs

theorem Waiting.nobody_of_ready {r : Relay EventRing} (h : r.Waiting) {id : TaskId} (sole : r.Sole id) {failures : Nat}
    {stage : PollerStage} (hp : r.PollerAt id failures stage)
    (hs : ∀ token ticket, stage ≠ .fetching token ticket) : r.source.line.waiters = [] :=
  h.nobody fun _ _ token ticket hj => hs token ticket (hp.stage_eq (sole _ _ _ hj ▸ hj))

theorem Consulted.lineOnly {r r' : Relay EventRing} {id : TaskId} {stage : PollerStage} {token : TokenId}
    {reply : FetchReply} (h : r.Consulted id stage token reply r') : EventRing.LineOnly r.source r'.source := by
  cases h with
  | declined | withdrawn => exact ⟨_, rfl⟩
  | asked _ _ _ _ answer => exact EventRing.fetch_lineOnly answer
  | resumed _ _ answer => exact EventRing.resume_lineOnly answer

/-- A fetch that has ended leaves nobody in line. -/
theorem Consulted.ready_nobody {r r' : Relay EventRing} {id : TaskId} {failures : Nat} {stage : PollerStage}
    {token : TokenId} {result : FetchResult} (h : r.Consulted id stage token (.ready result) r') (hw : r.Waiting)
    (sole : r.Sole id) (hp : r.PollerAt id failures stage) : r'.source.line.waiters = [] := by
  cases h with
  | declined => exact hw.nobody_of_ready sole hp nofun
  | asked _ _ _ _ answer => exact EventRing.fetch_ready (hw.nobody_of_ready sole hp nofun) answer
  | withdrawn =>
    obtain ⟨w, hl, rfl, -⟩ := hw.fetching hp
    exact WaitLine.leave_one hl
  | resumed _ awake answer =>
    obtain ⟨w, hl, rfl, -⟩ := hw.fetching hp
    exact EventRing.resume_ready hl awake answer

/-- A fetch that goes on to wait found nothing, at the cursor where the controller stands. -/
theorem Consulted.pending_waits {r r' : Relay EventRing} {id : TaskId} {failures : Nat} {stage : PollerStage}
    {token : TokenId} {ticket : Ticket} (h : r.Consulted id stage token (.pending ticket) r') (hw : r.Waiting)
    (sole : r.Sole id) (hp : r.PollerAt id failures stage) : r'.Waits ticket := by
  cases h with
  | asked _ _ _ _ answer =>
    obtain ⟨hl, hn⟩ := EventRing.fetch_pending (hw.nobody_of_ready sole hp nofun) answer
    exact ⟨_, hl, rfl, fun _ => ⟨rfl, fun _ => hn⟩⟩
  | resumed _ awake answer =>
    obtain ⟨w, hl, rfl, hc⟩ := hw.fetching hp
    obtain ⟨hl', hn⟩ := EventRing.resume_pending hl awake answer
    refine ⟨_, hl', rfl, fun hcon => ?_⟩
    have stands : w.cursor = r.cursor := (hc hcon).1
    exact ⟨stands, fun _ => stands ▸ hn⟩

theorem PollerStep.waiting {r : Relay EventRing} {id : TaskId} {failures : Nat} {stage : PollerStage}
    {turn : Turn × Relay EventRing} (step : r.PollerStep id failures stage turn) (h : r.Waiting) (sole : r.Sole id)
    (hp : r.PollerAt id failures stage) : turn.2.Waiting := by
  cases step with
  | orphaned => exact .idle (fun _ _ _ _ => sole.endTask .finished) (h.nobody_of_ready sole hp nofun)
  | exited =>
    have left : ({ r with slot := none }.resetCursor.note (.pollerStopped r.sourceName)).Sole id := sole
    exact .idle (fun _ _ _ _ => left.endTask .finished) (h.nobody_of_ready sole hp nofun)
  | answered consulted =>
    have sole' := sole.same consulted.sameControl
    apply Waiting.idle (fun _ _ _ _ => (takeResult_taken ..).not_fetching sole')
    rw [(takeResult_taken ..).leavesAlone.source]
    exact consulted.ready_nobody h sole hp
  | @queued _ token ticket r' consulted =>
    have sole' := sole.same consulted.sameControl
    have waits := consulted.pending_waits h sole hp
    have poller := setWork_pollerAt (consulted.sameControl.pollerAt.mpr hp) failures (.fetching token ticket)
    refine ⟨fun hq => ?_, fun hn => absurd poller (hn _ _ _ _)⟩
    cases sole'.setWork hq
    exact waits
  | rested =>
    refine .idle (fun _ _ _ _ hq => ?_) (h.nobody_of_ready sole hp nofun)
    have stage := sole.setWork hq
    contradiction
  | asleep | resting => exact h

theorem PollerStep.leaves {r : Relay EventRing} {id : TaskId} {failures : Nat} {stage : PollerStage}
    {turn : Turn × Relay EventRing} (step : r.PollerStep id failures stage turn) :
    EventRing.LineOnly r.source turn.2.source ∧ turn.2.registry = r.registry ∧
      turn.2.subscribers.size = r.subscribers.size := by
  cases step with
  | orphaned | exited | rested | asleep | resting => exact ⟨⟨_, rfl⟩, rfl, rfl⟩
  | queued consulted => exact ⟨consulted.lineOnly, consulted.sameControl.registry, consulted.size⟩
  | @answered _ token result r' consulted =>
    have taken := (takeResult_taken r' id failures token result).leavesAlone
    exact ⟨taken.source ▸ consulted.lineOnly, taken.registry.trans consulted.sameControl.registry,
      taken.size.trans consulted.size⟩

theorem pollerTurn_orderly {r : Relay EventRing} (h : r.Orderly) {id : TaskId} {failures : Nat} {stage : PollerStage}
    (hp : r.PollerAt id failures stage) : (r.pollerTurn id failures stage).2.Orderly := by
  have step := pollerTurn_step r id failures stage
  obtain ⟨line, registry, size⟩ := step.leaves
  refine ⟨step.lifecycle h.toLifecycle hp, ?_, h.sound.lineOnly line, ?_⟩
  · exact step.waiting h.toWaiting (fun _ _ _ hq => h.unique hq hp) hp
  · rw [registry, size]
    exact h.proper

theorem orderly_invariant : Invariant Orderly :=
  ⟨Act.orderly, fun hp h => pollerTurn_orderly h hp, fun hf h => h.still (firingTurn_still hf)⟩

theorem created_orderly {config : RingSize} {r : Relay EventRing} (h : Created (EventRing.create config) r) :
    r.Orderly := by
  have lifecycle := created_lifecycle h
  have idle : ∀ id f token ticket, ¬ r.PollerAt id f (.fetching token ticket) := by
    rintro id f token ticket ⟨name, ht⟩
    rw [h.no_task] at ht
    contradiction
  obtain ⟨settings, surroundings, handlers, h⟩ := h
  obtain ⟨bus, -, rfl⟩ := Option.map_eq_some_iff.mp h
  exact ⟨lifecycle, .idle idle rfl, EventRing.create_sound config, .empty _⟩

theorem seen_orderly {config : RingSize} {r : Relay EventRing} (h : Seen (EventRing.create config) r) : r.Orderly :=
  orderly_invariant.seen (fun _ => created_orderly) h

end Relay

end EventRelay
