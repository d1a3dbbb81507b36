import EventRelay.Proofs.CutOff
import EventRelay.Proofs.Handing
import EventRelay.Proofs.Lives
import EventRelay.Proofs.Stop
import EventRelay.Session.Relay

namespace EventRelay

namespace Occurrence

/-- A fact that may still come about without a controller. Whatever puts an event into a queue is left out. -/
def isAftermath : Occurrence → Bool
  | .subscriberRemoved .. | .subscribersRemoved .. | .spawned .. | .interruptCalled .client | .posted .. | .discarded ..
  | .entered .. | .reacted .. | .written _ | .completed .. | .handlerPanicked .. => true
  | _ => false

theorem isAftermath_of_remark {o : Occurrence} (h : o.isRemark = true) : o.isAftermath = true := by
  cases o <;> first | rfl | contradiction

/-- The fact needs no controller, or it tells that the event was handed to one of the targets. -/
def hands (targets : List SubId) (d : Delivery) (o : Occurrence) : Bool :=
  o.isAftermath || targets.any fun sub => decide (o.handing? = some (sub, d))

theorem hands_iff {targets : List SubId} {d : Delivery} {o : Occurrence} :
    o.hands targets d = true ↔ o.isAftermath = true ∨ ∃ sub ∈ targets, o.handing? = some (sub, d) := by
  simp [hands]

theorem isInterrupt_of_aside {o : Occurrence} (h : o.isAside = true) : o.isInterrupt = false := by
  cases o <;> first | rfl | contradiction

end Occurrence

/-- A poller that goes withdraws the fetch that it waits for. -/
def PollerStage.leave {σ : Type} [EventSource σ] (source : σ) : PollerStage → σ
  | .fetching _ ticket => EventSource.cancel source ticket
  | .ready | .pausing .. => source

namespace Relay

variable {σ : Type}

/-- Those registered exist, and no name has two lists. -/
structure Enrolled (r : Relay σ) : Prop where
  proper : r.registry.Proper r.subscribers.size
  tidy : r.registry.Tidy

theorem Enrolled.same {r r' : Relay σ} (h : r.Enrolled) (registry : r'.registry = r.registry)
    (size : r'.subscribers.size = r.subscribers.size) : r'.Enrolled :=
  ⟨by rw [registry, size]; exact h.proper, by rw [registry]; exact h.tidy⟩

theorem Enrolled.altered {r r' : Relay σ} (h : r.Enrolled) (altered : r.registry.Altered r.subscribers.size r'.registry)
    (size : r'.subscribers.size = r.subscribers.size) : r'.Enrolled :=
  ⟨by rw [size]; exact h.proper.altered altered, h.tidy.altered altered⟩

/-- Whoever stands on a list is registered under its name. -/
theorem Enrolled.listed {r : Relay σ} (h : r.Enrolled) {sub : SubId} :
    sub ∈ r.registry.entries.flatMap Prod.snd ↔ ∃ name, sub ∈ r.registry.membersOf name := by
  constructor
  · intro hs
    obtain ⟨e, he, hm⟩ := List.mem_flatMap.mp hs
    exact ⟨e.1, h.tidy.membersOf he ▸ hm⟩
  · rintro ⟨name, hs⟩
    obtain ⟨e, he, hm⟩ := Registry.membersOf_mem hs
    exact List.mem_flatMap.mpr ⟨e, he, hm ▸ hs⟩

theorem created_enrolled {source : σ} {r : Relay σ} (h : Created source r) : r.Enrolled := by
  obtain ⟨settings, surroundings, handlers, h⟩ := h
  obtain ⟨bus, -, rfl⟩ := Option.map_eq_some_iff.mp h
  exact ⟨.empty _, .empty⟩

theorem withRegistry_bus (r : Relay σ) (registry : Registry) : (r.withRegistry registry).bus = r.bus := by
  unfold withRegistry
  dsimp only
  split <;> rfl

/-- Nobody is told of what is discarded with the last handle. -/
theorem discardAll_abandoned_bus (r : Relay σ) (subs : List SubId) :
    (r.discardAll .abandoned subs).bus = r.bus := by
  induction subs generalizing r with
  | nil => rfl
  | cons sub rest ih =>
    refine (ih (r.discardPending .abandoned sub)).trans ?_
    unfold discardPending
    split
    · rfl
    · split <;> rfl

theorem discardAll_aside (r : Relay σ) (reason : DiscardReason) (subs : List SubId) :
    r.Aside (r.discardAll reason subs) :=
  Aside.foldl (fun r sub => discardPending_aside r reason sub) subs r

theorem discardAll_adds (r : Relay σ) (reason : DiscardReason) (subs : List SubId) :
    Adds Occurrence.isAside r (r.discardAll reason subs) :=
  Adds.foldl (fun r sub => discardPending_adds r reason sub) subs r

/-- The calls of the source's interrupt, the latest first. -/
def interrupts (r : Relay σ) : List Occurrence := r.past.filter Occurrence.isInterrupt

/-- There is no controller any more. -/
structure Headless (r : Relay σ) : Prop extends Lifecycle r where
  alone : r.hasController = false

/-- Whatever flag a poller still holds was raised, an older one as well as the one that went with the last handle. -/
theorem Headless.raised {r : Relay σ} (h : r.Headless) {id : TaskId} {failures : Nat} {stage : PollerStage}
    (hp : r.PollerAt id failures stage) {token : TokenId} (ht : stage.token? = some token) :
    r.isCancelled token = true := by
  rcases h.held hp ht with raised | slot
  · exact isCancelled_iff.mpr raised
  · rw [h.gone h.alone] at slot
    contradiction

/-- The fact needs no controller, or it tells that an event was handed over which waited for that in `r`. -/
def Lingers (r : Relay σ) (o : Occurrence) : Prop :=
  o.isAftermath = true ∨ ∃ sub d, o.handing? = some (sub, d) ∧ r.InFlight sub d

/-- Without a controller, from one state to another: no poller came, nothing was fired, and into the queues went only
what waited to be handed over by tasks that had not run. -/
structure Outlasts (r r' : Relay σ) : Prop where
  past : ∃ news, r'.past = news ++ r.past ∧ ∀ o ∈ news, r.Lingers o
  pollers : r'.pollerCount = r.pollerCount
  unfired : r.Unfired r'
  pending : ∀ {sub d}, d ∈ r'.pendingOf sub → d ∈ r.pendingOf sub ∨ r.InFlight sub d

theorem Unfired.inFlight {r r' : Relay σ} (h : r.Unfired r') {sub : SubId} {d : Delivery} (hd : r'.InFlight sub d) :
    r.InFlight sub d := by
  obtain ⟨targets, named, hf⟩ := hd
  exact ⟨targets, named, h.old hf⟩

theorem Lingers.of_earlier {r r' : Relay σ} {o : Occurrence} (h : r'.Lingers o)
    (earlier : ∀ {sub d}, r'.InFlight sub d → r.InFlight sub d) : r.Lingers o := by
  rcases h with after | ⟨sub, d, handed, waited⟩
  · exact .inl after
  · exact .inr ⟨sub, d, handed, earlier waited⟩

theorem Outlasts.refl (r : Relay σ) : r.Outlasts r :=
  ⟨⟨[], rfl, fun _ ho => absurd ho List.not_mem_nil⟩, rfl, .tasks rfl, .inl⟩

theorem Outlasts.trans {r r' r'' : Relay σ} (h : r.Outlasts r') (h' : r'.Outlasts r'') : r.Outlasts r'' where
  past := by
    obtain ⟨news, he, hn⟩ := h.past
    obtain ⟨news', he', hn'⟩ := h'.past
    refine ⟨news' ++ news, by rw [he', he, List.append_assoc], fun o ho => ?_⟩
    rcases List.mem_append.mp ho with later | earlier
    · exact (hn' o later).of_earlier h.unfired.inFlight
    · exact hn o earlier
  pollers := h'.pollers.trans h.pollers
  unfired := h.unfired.trans h'.unfired
  pending hd := by
    rcases h'.pending hd with old | waited
    · exact h.pending old
    · exact .inr (h.unfired.inFlight waited)

theorem startWorker_hands (r : Relay σ) (targets : List SubId) (d : Delivery) (sub : SubId) (s : Subscriber) :
    Adds (Occurrence.hands targets d) r (r.startWorker sub s) := by
  unfold startWorker
  split
  · exact .refl r
  · exact note_adds _ rfl

theorem handTo_hands (r : Relay σ) {targets : List SubId} {sub : SubId} (named : sub ∈ targets) (d : Delivery) :
    Adds (Occurrence.hands targets d) r (r.handTo sub d) := by
  have handed : ∀ o : Occurrence, o.handing? = some (sub, d) → o.hands targets d = true :=
    fun o told => Occurrence.hands_iff.mpr (.inr ⟨sub, named, told⟩)
  unfold handTo
  split
  · exact .refl r
  · split
    · exact note_adds _ (handed _ rfl)
    · have queued : Adds (Occurrence.hands targets d) r
          ((r.updateSubscriber sub (·.append d)).note (.queued (r.party sub) d)) := note_adds _ (handed _ rfl)
      exact queued.trans (startWorker_hands _ targets d sub _)

theorem dispatch_hands (r : Relay σ) {targets subs : List SubId} (named : ∀ sub ∈ subs, sub ∈ targets) (d : Delivery) :
    Adds (Occurrence.hands targets d) r (r.dispatch subs d) := by
  induction subs generalizing r with
  | nil => exact .refl r
  | cons sub rest ih =>
    obtain ⟨first, others⟩ := List.forall_mem_cons.mp named
    exact (handTo_hands r first d).trans (ih (r.handTo sub d) others)

/-- A task hands over what it was given to hand over. -/
theorem firingTurn_outlasts {r : Relay σ} {id : TaskId} {event : Event} {targets : List SubId}
    (hf : r.FiringAt id event targets) : r.Outlasts (r.firingTurn id event targets) where
  past := by
    obtain ⟨news, he, hn⟩ := dispatch_hands r (fun _ named => named) ⟨event, id⟩
    refine ⟨news, he, fun o ho => ?_⟩
    rcases Occurrence.hands_iff.mp (hn o ho) with after | ⟨sub, named, handed⟩
    · exact .inl after
    · exact .inr ⟨sub, ⟨event, id⟩, handed, targets, named, hf⟩
  pollers := (firingTurn_still hf).toSameControl.pollerCount
  unfired := firingTurn_unfired r id event targets
  pending {sub d} hd := by
    have gained := firingTurn_gained hf
    obtain ⟨k, hk, flow⟩ := gained.flow sub
    obtain ⟨fresh, -, shorter⟩ := fresh_of_flow gained.past flow
    rcases List.mem_append.mp (shorter.subset (List.mem_append_right fresh hd)) with old | new
    · exact .inl old
    · obtain ⟨some, rfl⟩ := List.mem_replicate.mp new
      have named : sub ∈ targets := List.count_pos_iff.mp (by omega)
      exact .inr ⟨targets, named, hf⟩

variable [EventSource σ]

theorem Alignment.registry {r r' : Relay σ} (h : r.Alignment r') : r'.registry = r.registry := by
  cases h with
  | resting | started | buried | replaced | stopped | stopping | revived | running => rfl

theorem Deed.enrolled {r r' : Relay σ} (h : Deed r r') (hr : r.Enrolled) : r'.Enrolled := by
  have size := h.size
  cases h with
  | aligned _ altered changed =>
    refine hr.altered ?_ size
    rw [(followRegistry_alignment _).registry, changed.aside.registry]
    exact altered
  | letGone _ =>
    refine hr.altered ?_ size
    rw [letGo, (withRegistry_aside _ _).registry]
    exact .clear
  | discarded reason sub => exact hr.same (discardPending_aside r reason sub).registry size
  | fired event _ => exact hr.same (fireEvent_aside r event).registry size
  | posted accepted =>
    obtain ⟨source, -, rfl⟩ := postToSource_ok accepted
    exact hr.same rfl size
  | told | interrupted | closed | pushed | permitted | slept | observed | cloned | dropped => exact hr.same rfl size

theorem PollerStep.enrolled {r : Relay σ} {id : TaskId} {failures : Nat} {stage : PollerStage} {turn : Turn × Relay σ}
    (h : r.PollerStep id failures stage turn) (hr : r.Enrolled) : turn.2.Enrolled := by
  cases h with
  | orphaned | exited | asleep | rested | resting => exact hr.same rfl rfl
  | queued consulted => exact hr.same consulted.sameControl.registry consulted.size
  | @answered _ token result r' consulted =>
    have taken := (takeResult_taken r' id failures token result).leavesAlone
    exact hr.same (taken.registry.trans consulted.sameControl.registry) (taken.size.trans consulted.size)

theorem enrolled_invariant : Invariant (Enrolled : Relay σ → Prop) where
  act act h := by
    rcases act.still with deed | still
    · exact deed.enrolled h
    · exact h.same still.registry still.size
  poller _ h := (pollerTurn_step _ _ _ _).enrolled h
  firing hf h := h.same (firingTurn_still hf).registry (firingTurn_still hf).size

theorem dropHandle_last {r : Relay σ} (last : r.handles = 1) : r.dropHandle =
    { r with handles := r.handles - 1 }.letGo.discardAll .abandoned (r.registry.entries.flatMap Prod.snd) := by
  unfold dropHandle
  dsimp only
  rw [if_pos last]
  rfl

/-- The source is told once that its fetch shall end, if there is a poller in the slot. No notice says so. -/
structure Abandons (r r' : Relay σ) : Prop where
  source : r'.source = if r.slot.isSome then EventSource.interrupt r.source else r.source
  interrupts : r'.interrupts = (if r.slot.isSome then [.interruptCalled .controller] else []) ++ r.interrupts
  bus : r'.bus = r.bus

theorem abandonPoller_abandons (r : Relay σ) : r.Abandons r.abandonPoller := by
  unfold abandonPoller
  cases h : r.slot with
  | none => exact ⟨by rw [h]; rfl, by rw [h]; rfl, rfl⟩
  | some s => exact ⟨by rw [h]; rfl, by rw [h]; rfl, rfl⟩

theorem letGo_abandons (r : Relay σ) : r.Abandons r.letGo := by
  have abandons := abandonPoller_abandons r
  have told : ∀ o ∈ turned r.abandonPoller.registry r.registry.clear.2, o.isInterrupt = false := by
    unfold turned
    cases r.abandonPoller.registry.isEmpty <;> cases r.registry.clear.2.isEmpty <;> simp [Occurrence.isInterrupt]
  refine ⟨(withRegistry_aside _ _).source.trans abandons.source, ?_, (withRegistry_bus _ _).trans abandons.bus⟩
  rw [← abandons.interrupts]
  unfold letGo Relay.interrupts
  rw [withRegistry_past, List.filter_append, List.filter_eq_nil_iff.mpr fun o ho => by simp [told o ho]]
  rfl

theorem letGo_cleared (r : Relay σ) : r.Cleared [] r.letGo := by
  have stopped : r.Cleared [] r.abandonPoller := by
    unfold abandonPoller
    split
    · exact .aloof [] rfl (by simp) rfl fun _ _ _ => Iff.rfl
    · exact .aloof [.interruptCalled .controller] rfl (by simp [Occurrence.queueFact?]) rfl fun _ _ _ => Iff.rfl
  exact stopped.trans (withRegistry_cleared _ _)

/-- What is done when the last handle is dropped: the source is told if there is a poller in the slot, and those who are
registered lose what they have pending, which is counted. Nobody else loses anything, and what was fired waits as it
did. No notice is published. -/
structure Released (r r' : Relay σ) : Prop extends Abandons r r' where
  registered : ∀ {sub name}, sub ∈ r.registry.membersOf name → ∃ s, r.subscribers.get? sub = some s ∧
    r'.subscribers.get? sub = some
      { s with pending := [], tally := { s.tally with discarded := s.tally.discarded + s.pending.length } }
  others : ∀ {sub}, r.Away sub → r'.subscribers.get? sub = r.subscribers.get? sub
  waiting : ∀ {id event targets}, r'.FiringAt id event targets ↔ r.FiringAt id event targets
  pollers : r'.pollerCount = r.pollerCount

theorem letGo_pollerCount (r : Relay σ) : r.letGo.pollerCount = r.pollerCount := by
  refine (withRegistry_aside r.abandonPoller _).toSameControl.pollerCount.trans ?_
  unfold abandonPoller
  split <;> rfl

theorem dropHandle_released {r : Relay σ} (enrolled : r.Enrolled) (last : r.handles = 1) : r.Released r.dropHandle := by
  let gone : Relay σ := { r with handles := r.handles - 1 }
  let listed := r.registry.entries.flatMap Prod.snd
  have abandons : gone.Abandons gone.letGo := letGo_abandons gone
  have counted : gone.letGo.pollerCount = r.pollerCount := letGo_pollerCount gone
  have aside := discardAll_aside gone.letGo .abandoned listed
  have left : r.Cleared [] gone := .aloof [] rfl (by simp) rfl fun _ _ _ => Iff.rfl
  have cleared : r.Cleared listed (gone.letGo.discardAll .abandoned listed) :=
    (left.trans (letGo_cleared gone)).trans (discardAll_cleared gone.letGo .abandoned listed)
  rw [dropHandle_last last]
  refine ⟨⟨aside.source.trans abandons.source, ?_, (discardAll_abandoned_bus _ _).trans abandons.bus⟩, ?_, ?_,
    cleared.firingAt, aside.toSameControl.pollerCount.trans counted⟩
  · have called := (discardAll_adds gone.letGo .abandoned listed).filter fun _ => Occurrence.isInterrupt_of_aside
    exact called.trans abandons.interrupts
  · intro sub name hs
    obtain ⟨s, found⟩ := Table.get?_of_lt (enrolled.proper.member hs)
    refine ⟨s, found, ?_⟩
    rw [cleared.subscribers, if_pos (enrolled.listed.mpr ⟨name, hs⟩), found]
    rfl
  · intro sub away
    rw [cleared.subscribers, if_neg]
    intro hs
    obtain ⟨name, hm⟩ := enrolled.listed.mp hs
    exact away name hm

theorem dropHandle_headless {r : Relay σ} (h : r.Lifecycle) (last : r.handles = 1) : r.dropHandle.Headless := by
  rw [dropHandle_last last]
  have aside := (discardAll_aside { r with handles := r.handles - 1 }.letGo .abandoned
    (r.registry.entries.flatMap Prod.snd)).toSameControl
  exact ⟨(letGo_lifecycle h.toTracked last).same aside, aside.hasController.trans (letGo_hasController last)⟩

theorem headless_invariant : Invariant (Headless : Relay σ → Prop) where
  act {r r'} act h := by
    refine ⟨act.lifecycle h.toLifecycle, ?_⟩
    cases hc : r'.hasController with
    | false => rfl
    | true => exact (act.controller hc).symm.trans h.alone
  poller {r id failures stage} hp h := by
    refine ⟨pollerTurn_lifecycle h.toLifecycle hp, ?_⟩
    rw [hasController, (pollerTurn_step r id failures stage).handles]
    exact h.alone
  firing hf h := by
    have same := (firingTurn_still hf).toSameControl
    exact ⟨h.toLifecycle.same same, same.hasController.trans h.alone⟩

/-- Without a controller a poller ends at its next step, or rises from a pause. -/
inductive LastStep (r : Relay σ) (id : TaskId) (failures : Nat) : PollerStage → Turn × Relay σ → Prop
  | ended {stage : PollerStage} :
      LastStep r id failures stage ({ r with source := stage.leave r.source }.finish id .finished)
  | risen {token : TokenId} {deadline : Nat} :
      LastStep r id failures (.pausing token deadline) (.going, r.setWork id (.poller failures .ready))

theorem Headless.lastStep {r : Relay σ} (h : r.Headless) {id : TaskId} {failures : Nat} {stage : PollerStage}
    (hp : r.PollerAt id failures stage) : r.LastStep id failures stage (r.pollerTurn id failures stage) := by
  have absent : r.hasController ≠ true := by simp [h.alone]
  -- a flag that is not raised is none that the poller holds
  have told : ∀ {token}, r.isCancelled token = false → stage.token? ≠ some token := by
    intro token flag ht
    rw [h.raised hp ht] at flag
    contradiction
  have step := pollerTurn_step r id failures stage
  generalize r.pollerTurn id failures stage = turn at step
  cases step with
  | orphaned => exact .ended
  | exited hc => exact absurd hc absent
  | rested => exact .risen
  | asleep flag => exact absurd rfl (told flag)
  | resting flag => exact absurd rfl (told flag)
  | queued consulted =>
    cases consulted with
    | asked hc => exact absurd hc absent
    | resumed flag => exact absurd rfl (told flag)
  | answered consulted =>
    cases consulted with
    | declined hc | asked hc => exact absurd hc absent
    | resumed flag => exact absurd rfl (told flag)
    | @withdrawn _ ticket =>
      have alone : { r with source := EventSource.cancel r.source ticket }.hasController = false := h.alone
      rw [takeResult, alone]
      exact .ended

theorem Deed.aftermath {r r' : Relay σ} (h : Deed r r') (alone : r.hasController = false) :
    Adds Occurrence.isAftermath r r' ∧ r'.pollerCount = r.pollerCount := by
  have absent : r.hasController ≠ true := by simp [alone]
  cases h with
  | aligned hc | fired _ hc | cloned hc => exact absurd hc absent
  | letGone last => exact absurd (by simp [hasController, last]) absent
  | told o remark => exact ⟨note_adds r (o.isAftermath_of_remark remark), rfl⟩
  | discarded reason sub =>
    refine ⟨?_, (discardPending_aside r reason sub).toSameControl.pollerCount⟩
    unfold discardPending
    split
    · exact .refl r
    · split
      · exact .refl r
      · exact note_adds _ rfl
  | posted accepted =>
    obtain ⟨source, -, rfl⟩ := postToSource_ok accepted
    exact ⟨note_adds _ rfl, rfl⟩
  | interrupted => exact ⟨note_adds _ rfl, rfl⟩
  | closed | pushed | permitted | slept | observed | dropped => exact ⟨.nothing rfl, rfl⟩

theorem Act.aftermath {r r' : Relay σ} (h : Act r r') (alone : r.hasController = false) :
    Adds Occurrence.isAftermath r r' ∧ r'.pollerCount = r.pollerCount := by
  rcases h.still with deed | still
  · exact deed.aftermath alone
  · refine ⟨?_, still.toSameControl.pollerCount⟩
    cases h with
    | deed deed => exact (deed.aftermath alone).1
    | began => exact note_adds _ rfl
    | left _ d panic =>
      rw [leaveHandler_eq]
      cases panic with
      | none => exact note_adds _ rfl
      | some message => exact note_adds _ rfl
    | waited | retired | orphaned => exact .nothing rfl

theorem Act.outlasts {r r' : Relay σ} (h : Act r r') (alone : r.hasController = false) : r.Outlasts r' where
  past := by
    obtain ⟨news, he, hn⟩ := (h.aftermath alone).1
    exact ⟨news, he, fun o ho => .inl (hn o ho)⟩
  pollers := (h.aftermath alone).2
  unfired := by
    refine ⟨fun hf => ?_⟩
    rcases h.justFired hf with old | just
    · exact old
    · exact absurd (just.controller.symm.trans alone) Bool.noConfusion
  pending {sub d} hd := by
    have steady : r.Steady r' := Acts.steady (.single h)
    exact .inl ((steady.pending sub).subset hd)

theorem LastStep.outlasts {r : Relay σ} {id : TaskId} {failures : Nat} {stage : PollerStage} {turn : Turn × Relay σ}
    (h : r.LastStep id failures stage turn) (hp : r.PollerAt id failures stage) (unfired : r.Unfired turn.2) :
    r.Outlasts turn.2 := by
  have nothing := (Outlasts.refl r).past
  cases h with
  | ended =>
    have poller : { r with source := stage.leave r.source }.PollerAt id failures stage := hp
    exact ⟨nothing, (endTask_sameLives poller .finished).pollers, unfired, .inl⟩
  | risen => exact ⟨nothing, (setWork_sameLives hp failures .ready).pollers, unfired, .inl⟩

theorem Stride.outlasts {r r' : Relay σ} (h : Stride r r') (headless : r.Headless) : r.Outlasts r' := by
  cases h with
  | act h => exact h.outlasts headless.alone
  | poller hp => exact (headless.lastStep hp).outlasts hp (pollerTurn_step r _ _ _).unfired
  | firing hf => exact firingTurn_outlasts hf

theorem Strides.outlasts {r r' : Relay σ} (h : Strides r r') (headless : r.Headless) : r.Outlasts r' := by
  induction h with
  | refl => exact .refl r
  | tail reached stride ih => exact ih.trans (stride.outlasts (headless_invariant.strides reached headless))

/-- The poller has ended, and withdrew the fetch that it waited for, if there was one. It began no other, published
nothing, and put nothing into a queue. -/
structure Expired (r : Relay σ) (id : TaskId) (stage : PollerStage) (r' : Relay σ) : Prop where
  source : r'.source = stage.leave r.source
  past : r'.past = r.past
  bus : r'.bus = r.bus
  subscribers : r'.subscribers = r.subscribers
  others : ∀ {j}, j ≠ id → r'.tasks.get? j = r.tasks.get? j
  ended : r'.taskEnded id = true

theorem finish_expired {r : Relay σ} {id : TaskId} {failures : Nat} {stage : PollerStage}
    (hp : r.PollerAt id failures stage) :
    r.Expired id stage ({ r with source := stage.leave r.source }.endTask id .finished) := by
  obtain ⟨name, ht⟩ := hp
  refine ⟨rfl, rfl, rfl, rfl, fun {j} other => ?_, ?_⟩
  · rw [endTask_get?, if_neg other.symm]
  · simp [taskEnded, endTask_get?, ht, Task.hasEnded]

/-- Without a controller the next poll ends a poller wherever it waits. -/
theorem Headless.poll_expires {r : Relay σ} (h : r.Headless) {id : TaskId} {failures : Nat} {stage : PollerStage}
    (hp : r.PollerAt id failures stage) : ∃ r', r.poll id = (.finished, r') ∧ r.Expired id stage r' := by
  rw [poll_of_pollerAt hp]
  have step := h.lastStep hp
  generalize ht : r.pollerTurn id failures stage = turn at step
  cases step with
  | ended => exact ⟨_, pollUpTo_finished hp ht _, finish_expired hp⟩
  | @risen token deadline =>
    have awake : (r.setWork id (.poller failures .ready)).PollerAt id failures .ready := setWork_pollerAt hp _ _
    have headless : (r.setWork id (.poller failures .ready)).Headless := by
      have next := headless_invariant.poller hp h
      rwa [ht] at next
    have step := headless.lastStep awake
    generalize ht' : (r.setWork id (.poller failures .ready)).pollerTurn id failures .ready = turn at step
    cases step with
    | ended =>
      have expired := finish_expired awake
      refine ⟨_, (pollUpTo_going hp ht _).trans (pollUpTo_finished awake ht' _), ?_⟩
      refine ⟨expired.source, expired.past, expired.bus, expired.subscribers, fun {j} other => ?_, expired.ended⟩
      rw [expired.others other, setWork_get?, if_neg other.symm]

/-- What has become of a relay since its last handle was dropped: nothing happened but what needs no controller, no
poller came, and queues got only what tasks had been given to hand over before. A poller that is left can run, and ends
when it is polled. -/
structure Disbanded (r r' : Relay σ) : Prop where
  past : ∃ news, r'.past = news ++ r.dropHandle.past ∧ ∀ o ∈ news, r.Lingers o
  pending : ∀ {sub d}, d ∈ r'.pendingOf sub → d ∈ r.dropHandle.pendingOf sub ∨ r.InFlight sub d
  pollers : r'.pollerCount = r.pollerCount
  poller : ∀ {id failures stage}, r'.PollerAt id failures stage →
    (∃ t, r'.tasks.get? id = some t ∧ r'.isRunnable t = true) ∧
    ∃ r'', r'.poll id = (.finished, r'') ∧ r'.Expired id stage r''

/-- Dropping the last handle stops all that the controller drives, now and in every continuation. -/
theorem last_handle_stops_all {source : σ} {r : Relay σ} (seen : Seen source r) (last : r.handles = 1) :
    r.Released r.dropHandle ∧ ∀ {r'}, Strides r.dropHandle r' → r.Disbanded r' := by
  have released := dropHandle_released (enrolled_invariant.seen (fun _ => created_enrolled) seen) last
  have headless := dropHandle_headless (seen_lifecycle seen) last
  refine ⟨released, fun {r'} after => ?_⟩
  have outlasts := after.outlasts headless
  have before : ∀ {sub d}, r.dropHandle.InFlight sub d → r.InFlight sub d := by
    rintro sub d ⟨targets, named, hf⟩
    exact ⟨targets, named, released.waiting.mp hf⟩
  obtain ⟨news, he, hn⟩ := outlasts.past
  refine ⟨⟨news, he, fun o ho => (hn o ho).of_earlier before⟩, fun hd => (outlasts.pending hd).imp_right before,
    outlasts.pollers.trans released.pollers, fun {id failures stage} hp => ?_⟩
  have headless' := headless_invariant.strides after headless
  refine ⟨?_, headless'.poll_expires hp⟩
  obtain ⟨name, ht⟩ := hp
  exact ⟨_, ht, isRunnable_of_raised fun _ => headless'.raised ⟨name, ht⟩⟩

/-- The last handle is dropped while the poller waits at an empty script, though it was told to stop before and revived
since, with one event pending and another one fired. -/
theorem last_handle_stops_all_plain :
    let r := (plain (Script.create [])).follow [.request (.call (.add "a" 0)), .turn 0,
      .request (.call (.remove "a" 0)), .request (.call (.add "a" 0)), .request (.call (.fire (.named "a"))), .turn 1,
      .request (.call (.fire (.named "a")))]
    let r' := r.dropHandle.follow [.turn 3]
    r.handles = 1 ∧ r.pendingOf 0 = [⟨.named "a", 1⟩] ∧ r.dropHandle.pendingOf 0 = [] ∧
      r'.pendingOf 0 = [⟨.named "a", 3⟩] ∧ r.Released r.dropHandle ∧ r.Disbanded r' ∧
      ∃ r'', r'.poll 0 = (.finished, r'') := by
  intro r r'
  have seen : Seen (Script.create []) r := .between ((Reachable.created (plain_created _)).follow _)
  have last : r.handles = 1 := by decide
  -- it still holds the flag that was raised before it was revived
  have waits : r'.PollerAt 0 0 (.fetching 0 0) := ⟨"rtevent-poller", by decide⟩
  obtain ⟨released, after⟩ := last_handle_stops_all seen last
  have disbanded := after (follow_strides r.dropHandle [.turn 3])
  obtain ⟨-, r'', finished, -⟩ := disbanded.poller waits
  exact ⟨last, by decide, by decide, by decide, released, disbanded, r'', finished⟩

end Relay

end EventRelay
