import EventRelay.Proofs.LastHandle
import EventRelay.Proofs.Refusal

namespace EventRelay

theorem Cursor.stamp_of_since {c : Cursor} (h : c.since.isSome = true) (now : Instant) : c.stamp now = c := by
  obtain ⟨since, hs⟩ := Option.isSome_iff_exists.mp h
  cases c
  cases hs
  rfl

/-- The call puts somebody on the registry, or takes somebody off it. -/
def Call.isEnrolment : Call → Bool
  | .add .. | .remove .. | .removeName _ | .shutdown => true
  | _ => false

/-- The answer to a call that was carried out. -/
def Reply.isDone : Reply → Bool
  | .added | .flag _ | .number _ => true
  | _ => false

/-- A fact that tells neither of an interrupt nor, in a notice, of the life of a poller. -/
def Occurrence.isHushed (o : Occurrence) : Bool := !o.isInterrupt && o.lifeNotice?.isNone

theorem Occurrence.isHushed_of_aside {o : Occurrence} (h : o.isAside = true) : o.isHushed = true := by
  simp [isHushed, Occurrence.isInterrupt_of_aside h, lifeNotice?_of_not_life (isLife_of_aside h)]

namespace Relay

variable {σ : Type}

theorem lifeNotices_eq_past (r : Relay σ) : r.lifeNotices = (r.past.filterMap Occurrence.lifeNotice?).reverse := by
  unfold lifeNotices notices story
  rw [List.map_filterMap, List.filter_filterMap, List.filterMap_reverse]
  rfl

theorem lifeNotices_of_hushed {r r' : Relay σ} (h : Adds Occurrence.isHushed r r') :
    r'.lifeNotices = r.lifeNotices ∧ r'.interrupts = r.interrupts := by
  have silent : ∀ o : Occurrence, o.isHushed = true → o.isInterrupt = false ∧ o.lifeNotice? = none := by
    simp [Occurrence.isHushed]
  rw [lifeNotices_eq_past, lifeNotices_eq_past, h.filterMap fun o ho => (silent o ho).2]
  exact ⟨rfl, h.filter fun o ho => (silent o ho).1⟩

theorem Changed.tasks {r r' : Relay σ} {registry : Registry} (h : r.Changed registry r') : r'.tasks = r.tasks := by
  have same : (r.withRegistry registry).tasks = r.tasks := by
    unfold withRegistry
    dsimp only
    split <;> rfl
  cases h with
  | silent | told => exact same

theorem Changed.hushed {r r' : Relay σ} {registry : Registry} (h : r.Changed registry r') :
    Adds Occurrence.isHushed r r' := by
  have turned : Adds Occurrence.isHushed r (r.withRegistry registry) := by
    refine ⟨_, withRegistry_past r registry, ?_⟩
    unfold Relay.turned
    cases r.registry.isEmpty <;> cases registry.isEmpty <;>
      simp [Occurrence.isHushed, Occurrence.isInterrupt, Occurrence.lifeNotice?, Occurrence.notice?]
  exact turned.trans (h.adds.mono fun _ => Occurrence.isHushed_of_aside)

/-- The controller and its cursor are as before, no queue was touched and no notice was published. -/
structure Unnoticed (r r' : Relay σ) : Prop where
  registry : r'.registry = r.registry
  slot : r'.slot = r.slot
  cursor : r'.cursor = r.cursor
  subscribers : r'.subscribers = r.subscribers
  bus : r'.bus = r.bus
  notices : r'.notices = r.notices

theorem notices_note {r : Relay σ} {o : Occurrence} (silent : o.notice? = none) : (r.note o).notices = r.notices := by
  simp [notices, story, note, silent]

theorem note_unnoticed (r : Relay σ) {o : Occurrence} (silent : o.notice? = none) : r.Unnoticed (r.note o) :=
  ⟨rfl, rfl, rfl, rfl, by simp [note, silent], notices_note silent⟩

theorem Unnoticed.trans {r r' r'' : Relay σ} (h : r.Unnoticed r') (h' : r'.Unnoticed r'') : r.Unnoticed r'' :=
  ⟨h'.registry.trans h.registry, h'.slot.trans h.slot, h'.cursor.trans h.cursor, h'.subscribers.trans h.subscribers,
    h'.bus.trans h.bus, h'.notices.trans h.notices⟩

theorem discardEnrolments_aside (r : Relay σ) (enrolments : List Enrolment) :
    r.Aside (r.discardEnrolments enrolments) ∧ Adds Occurrence.isAside r (r.discardEnrolments enrolments) := by
  unfold discardEnrolments
  exact ⟨Aside.foldl (fun r _ => discardAll_aside r _ _) enrolments r,
    Adds.foldl (fun r _ => discardAll_adds r _ _) enrolments r⟩

/-- A dead poller was found in the slot. If somebody is registered then, a new one goes on where it died; otherwise the
slot and the cursor are cleared. The source is not told in either case. -/
structure Recovered (r r' : Relay σ) : Prop where
  source : r'.source = r.source
  interrupts : r'.interrupts = r.interrupts
  filled : r'.registry.isEmpty = false → r'.slot = some ⟨r.tasks.size, r.tokens⟩ ∧
    r'.PollerAt r.tasks.size 0 .ready ∧ r'.isCancelled r.tokens = false ∧ r'.cursor = r.cursor ∧
    r'.lifeNotices = r.lifeNotices ++ [.pollerStarted]
  emptied : r'.registry.isEmpty = true → r'.slot = none ∧ r'.cursor = .unset ∧ r'.lifeNotices = r.lifeNotices

theorem Recovered.aside {r r₁ r₂ : Relay σ} (h : r.Recovered r₁) (aside : r₁.Aside r₂)
    (facts : Adds Occurrence.isAside r₁ r₂) : r.Recovered r₂ := by
  obtain ⟨notices, interrupts⟩ := lifeNotices_of_hushed (facts.mono fun _ => Occurrence.isHushed_of_aside)
  refine ⟨aside.source.trans h.source, interrupts.trans h.interrupts, fun filled => ?_, fun empty => ?_⟩
  · obtain ⟨slot, poller, flag, cursor, started⟩ := h.filled (aside.registry ▸ filled)
    refine ⟨aside.slot.trans slot, aside.pollerAt poller, ?_, aside.cursor.trans cursor, notices.trans started⟩
    rw [isCancelled, aside.cancelled]
    exact flag
  · obtain ⟨slot, cursor, silent⟩ := h.emptied (aside.registry ▸ empty)
    exact ⟨aside.slot.trans slot, aside.cursor.trans cursor, notices.trans silent⟩

/-- A poller that is dead, and went nowhere, was dead before. -/
theorem Lifecycle.dead_before {r r' : Relay σ} (hl : r.Lifecycle) {s : PollerSlot} (slot : r.slot = some s)
    (stays : ∀ {f p}, r.PollerAt s.task f p → r'.PollerAt s.task f p) (dead : r'.taskEnded s.task = true) :
    r.taskEnded s.task = true := by
  rcases hl.task slot with ⟨f, p, poller⟩ | died
  · rw [taskEnded_of_pollerAt (stays poller)] at dead
    contradiction
  · exact taskEnded_of_diedPausing died

theorem Still.dead {r r' : Relay σ} (h : r.Still r') (hl : r.Lifecycle) {s : PollerSlot} (slot : r'.slot = some s)
    (dead : r'.taskEnded s.task = true) : r.slot = some s ∧ r.taskEnded s.task = true ∧ r'.cursor = r.cursor := by
  have before := h.slot.symm.trans slot
  exact ⟨before, hl.dead_before before h.toSameControl.pollerAt.mpr dead, h.cursor⟩

variable [EventSource σ]

theorem Consulted.unnoticed {r r' : Relay σ} {id : TaskId} {stage : PollerStage} {token : TokenId}
    {reply : FetchReply} (h : r.Consulted id stage token reply r') : r.Unnoticed r' := by
  cases h with
  | declined | withdrawn | resumed => exact ⟨rfl, rfl, rfl, rfl, rfl, rfl⟩
  | asked =>
    have told := note_unnoticed r (o := .fetchStarted id r.cursor) rfl
    exact ⟨told.registry, told.slot, told.cursor, told.subscribers, told.bus, told.notices⟩

/-- A poller that dies over an answer, as it goes, changes nothing that anybody else could see. -/
theorem Taken.unnoticed {r : Relay σ} {id : TaskId} {failures : Nat} {token : TokenId} {result : FetchResult}
    {turn : Turn × Relay σ} (h : r.Taken id failures token result turn)
    (stuck : turn.1 = .blocked ∨ turn.1 = .ended .panicked) : r.Unnoticed turn.2 := by
  cases h with
  | orphaned | exited | passed | ignored => simp [finish, exitPoller] at stuck
  | failed =>
    have told := note_unnoticed r (o := .resultTaken id result) rfl
    revert stuck
    unfold pauseAfter
    split
    · exact fun _ => ⟨told.registry, told.slot, told.cursor, told.subscribers, told.bus, told.notices⟩
    · simp

/-- A step at which a poller waits, or at which it dies, changes nothing that anybody else could see. -/
theorem PollerStep.unnoticed {r : Relay σ} {id : TaskId} {failures : Nat} {stage : PollerStage}
    {turn : Turn × Relay σ} (step : r.PollerStep id failures stage turn)
    (stuck : turn.1 = .blocked ∨ turn.1 = .ended .panicked) : r.Unnoticed turn.2 := by
  cases step with
  | orphaned | exited | rested => simp [finish, exitPoller] at stuck
  | answered consulted => exact consulted.unnoticed.trans ((takeResult_taken ..).unnoticed stuck)
  | queued consulted =>
    have same := consulted.unnoticed
    exact ⟨same.registry, same.slot, same.cursor, same.subscribers, same.bus, same.notices⟩
  | asleep | resting => exact ⟨rfl, rfl, rfl, rfl, rfl, rfl⟩

/-- The poller `id` dies in a step that leads from one state to the other. -/
def Dies (id : TaskId) (r r' : Relay σ) : Prop :=
  ∃ failures stage, r.PollerAt id failures stage ∧ r.pollerTurn id failures stage = (.ended .panicked, r')

theorem Dies.unnoticed {id : TaskId} {r r' : Relay σ} (h : Dies id r r') : r.Unnoticed r' := by
  obtain ⟨failures, stage, -, turned⟩ := h
  have step := pollerTurn_step r id failures stage
  rw [turned] at step
  exact step.unnoticed (.inr rfl)

/-- A poller that took an answer is still there, unless it left the slot or died. -/
theorem Taken.outcome {r : Relay σ} (hl : r.Lifecycle) {id : TaskId} {failures : Nat} {token : TokenId}
    {result : FetchResult} {turn : Turn × Relay σ} (h : r.Taken id failures token result turn) {stage : PollerStage}
    (hp : r.PollerAt id failures stage) :
    turn.1 = .ended .panicked ∨ turn.2.slot = none ∨ ∃ f p, turn.2.PollerAt id f p := by
  cases h with
  | orphaned alone => exact .inr (.inl (hl.gone alone))
  | exited => exact .inr (.inl rfl)
  | @passed f =>
    have poller : (((r.note (.resultTaken id (.fetched f))).moveCursor f).handOut id f).PollerAt id failures stage :=
      (handOut_aside _ id f).pollerAt ((moveCursor_aside _ f).pollerAt hp)
    exact .inr (.inr ⟨_, _, setWork_pollerAt poller 0 .ready⟩)
  | @ignored _ fault =>
    have poller : ((r.note (.resultTaken id result)).note (.nothingFetched fault)).PollerAt id failures stage := hp
    exact .inr (.inr ⟨_, _, setWork_pollerAt poller failures .ready⟩)
  | @failed _ fault =>
    unfold pauseAfter
    split
    · exact .inl rfl
    · rename_i delay _
      have poller : ({ r.note (.resultTaken id result) with draws := r.draws + 1 }.note
          (.fetchFailed id r.sourceName fault (min (failures + 1) maxFailures) delay)).PollerAt id failures stage := hp
      exact .inr (.inr ⟨_, _, setWork_pollerAt poller _ _⟩)

theorem PollerStep.outcome {r : Relay σ} (hl : r.Lifecycle) {id : TaskId} {failures : Nat} {stage : PollerStage}
    {turn : Turn × Relay σ} (step : r.PollerStep id failures stage turn) (hp : r.PollerAt id failures stage) :
    turn.1 = .ended .panicked ∨ turn.2.slot = none ∨ ∃ f p, turn.2.PollerAt id f p := by
  cases step with
  | orphaned alone =>
    refine .inr (.inl ?_)
    cases hc : r.hasController with
    | false => exact hl.gone hc
    | true => exact alone hc
  | exited => exact .inr (.inl rfl)
  | answered consulted =>
    have same := consulted.sameControl
    exact (takeResult_taken ..).outcome (hl.same same) (same.pollerAt.mpr hp)
  | queued consulted => exact .inr (.inr ⟨_, _, setWork_pollerAt (consulted.sameControl.pollerAt.mpr hp) _ _⟩)
  | rested => exact .inr (.inr ⟨_, _, setWork_pollerAt hp _ _⟩)
  | asleep | resting => exact .inr (.inr ⟨_, _, hp⟩)

theorem startPoller_pollerAt_new (r : Relay σ) : r.startPoller.PollerAt r.tasks.size 0 .ready :=
  ⟨r.settings.pollerName, by rw [startPoller_get?, if_pos rfl]⟩

/-- After a change of the registry no dead poller is in the slot. -/
theorem Alignment.alive {r r' : Relay σ} (h : r.Alignment r') {s : PollerSlot} (slot : r'.slot = some s) :
    r'.taskEnded s.task = false := by
  cases h with
  | resting vacant => cases vacant.symm.trans slot
  | buried => cases slot
  | started =>
    cases slot
    exact taskEnded_of_pollerAt (startPoller_pollerAt_new r)
  | replaced =>
    cases slot
    exact taskEnded_of_pollerAt (startPoller_pollerAt_new r.vacate)
  | stopped occupied alive =>
    cases occupied.symm.trans slot
    exact alive
  | stopping occupied alive =>
    cases occupied.symm.trans slot
    exact alive
  | revived _ alive =>
    cases slot
    exact alive
  | running occupied alive =>
    cases occupied.symm.trans slot
    exact alive

theorem Deed.slot {r r' : Relay σ} (h : Deed r r') :
    r'.slot = r.slot ∨ r'.slot = none ∨ ∃ r₀ : Relay σ, r' = r₀.followRegistry := by
  cases h with
  | aligned => exact .inr (.inr ⟨_, rfl⟩)
  | discarded reason sub => exact .inl (discardPending_aside r reason sub).slot
  | fired event _ => exact .inl (fireEvent_aside r event).slot
  | posted accepted =>
    obtain ⟨source, -, rfl⟩ := postToSource_ok accepted
    exact .inl rfl
  | letGone last =>
    refine .inr (.inl ?_)
    rw [letGo, (withRegistry_aside _ _).slot]
    unfold abandonPoller
    split
    · assumption
    · rfl
  | told | interrupted | closed | pushed | permitted | slept | observed | cloned | dropped => exact .inl rfl

theorem Deed.dead {r r' : Relay σ} (h : Deed r r') (hl : r.Lifecycle) {s : PollerSlot} (slot : r'.slot = some s)
    (dead : r'.taskEnded s.task = true) : r.slot = some s ∧ r.taskEnded s.task = true ∧ r'.cursor = r.cursor := by
  have unfollowed : ∀ r₀ : Relay σ, r' ≠ r₀.followRegistry := by
    rintro r₀ rfl
    rw [(followRegistry_alignment r₀).alive slot] at dead
    contradiction
  rcases h.slot with same | vacant | ⟨r₀, followed⟩
  · have before := same.symm.trans slot
    have ended := hl.dead_before before h.grown.pollerAt dead
    rcases h.quiet with ⟨-, cursor⟩ | ⟨r₀, _, -, -, followed⟩
    · exact ⟨before, ended, cursor⟩
    · exact absurd followed (unfollowed r₀)
  · cases vacant.symm.trans slot
  · exact absurd followed (unfollowed r₀)

/-- After a step of a poller, a dead poller is in the slot only if it has just died. -/
theorem PollerStep.dead {r r' : Relay σ} (hl : r.Lifecycle) {id : TaskId} {failures : Nat} {stage : PollerStage}
    (hp : r.PollerAt id failures stage) (turned : (r.pollerTurn id failures stage).2 = r') {s : PollerSlot}
    (slot : r'.slot = some s) (dead : r'.taskEnded s.task = true) : Dies s.task r r' := by
  subst turned
  have step := pollerTurn_step r id failures stage
  have after := step.lifecycle hl hp
  rcases step.outcome hl hp with died | vacant | ⟨f, p, poller⟩
  · have before := (step.unnoticed (.inr died)).slot.symm.trans slot
    obtain ⟨token, own⟩ := hl.current (hl.toTracked.controller before) hp
    cases before.symm.trans own
    exact ⟨failures, stage, hp, Prod.ext died rfl⟩
  · cases vacant.symm.trans slot
  · obtain ⟨token, own⟩ := after.current (after.toTracked.controller slot) poller
    cases slot.symm.trans own
    rw [taskEnded_of_pollerAt poller] at dead
    contradiction

/-- A dead poller that is in the slot was there before, at the same cursor, or it has just died. -/
theorem Stride.dead {r r' : Relay σ} (h : Stride r r') (hl : r.Lifecycle) {s : PollerSlot} (slot : r'.slot = some s)
    (dead : r'.taskEnded s.task = true) :
    (r.slot = some s ∧ r.taskEnded s.task = true ∧ r'.cursor = r.cursor) ∨ Dies s.task r r' := by
  cases h with
  | act act =>
    rcases act.still with deed | still
    · exact .inl (deed.dead hl slot dead)
    · exact .inl (still.dead hl slot dead)
  | firing hf => exact .inl ((firingTurn_still hf).dead hl slot dead)
  | poller hp => exact .inr (PollerStep.dead hl hp rfl slot dead)

/-- Where a dead poller in the slot comes from: it died in one step, and since then the cursor has stayed. -/
structure DeathOf (start r : Relay σ) (s : PollerSlot) (before after : Relay σ) : Prop where
  reached : Strides start before
  dies : Dies s.task before after
  since : Strides after r
  slot : before.slot = some s
  cursor : r.cursor = before.cursor

theorem Strides.death {source : σ} {start r : Relay σ} (h : Created source start) (hs : Strides start r)
    {s : PollerSlot} (slot : r.slot = some s) (dead : r.taskEnded s.task = true) :
    ∃ before after, DeathOf start r s before after := by
  induction hs with
  | refl =>
    obtain ⟨settings, surroundings, handlers, h⟩ := h
    obtain ⟨bus, -, rfl⟩ := Option.map_eq_some_iff.mp h
    cases slot
  | @tail r₁ r₂ reached stride ih =>
    have lifecycle := lifecycle_invariant.strides reached (created_lifecycle h)
    rcases stride.dead lifecycle slot dead with ⟨slot₁, dead₁, cursor⟩ | died
    · obtain ⟨before, after, death⟩ := ih slot₁ dead₁
      exact ⟨before, after, death.reached, death.dies, death.since.tail stride, death.slot, cursor.trans death.cursor⟩
    · have same := died.unnoticed
      exact ⟨r₁, r₂, reached, died, .refl, same.slot.symm.trans slot, same.cursor⟩

/-- A call that changes the registry brings the poller in step with it, and then at most takes from queues. -/
structure Realigned (r r' : Relay σ) : Prop where
  controller : r.hasController = true
  followed : ∃ registry r₁, r.Changed registry r₁ ∧ r₁.followRegistry.Aside r' ∧
    Adds Occurrence.isAside r₁.followRegistry r'

theorem call_realigned {r r' : Relay σ} {c : Call} {reply : Reply} (answer : r.call c = (reply, r'))
    (enrolment : c.isEnrolment = true) (done : reply.isDone = true) : r.Realigned r' := by
  obtain ⟨controller, carried⟩ := carryOut_of_call answer (by rintro rfl; cases done) (by rintro rfl; cases done)
  refine ⟨controller, ?_⟩
  cases c with
  | fire | post | count | settings | sourceName => cases enrolment
  | add name sub =>
    simp only [carryOut] at carried
    split at carried
    · obtain rfl := congrArg Prod.snd carried
      dsimp only [addSubscriber]
      split
      · exact ⟨_, _, .told name _, .refl _, .refl _⟩
      · exact ⟨_, _, .silent, .refl _, .refl _⟩
    · obtain rfl := congrArg Prod.fst carried
      cases done
  | remove name sub =>
    obtain rfl := congrArg Prod.snd carried
    refine ⟨(r.registry.remove name sub).2, _, .silent, ?_⟩
    dsimp only [carryOut, removeSubscriber]
    split
    · exact ⟨(discardPending_aside _ _ sub).trans (note_aside _ _),
        (discardPending_adds _ _ sub).trans (note_adds _ rfl)⟩
    · exact ⟨.refl _, .refl _⟩
  | removeName name =>
    obtain rfl := congrArg Prod.snd carried
    refine ⟨(r.registry.removeName name).2, _, .silent, ?_⟩
    dsimp only [carryOut, removeSubscribers]
    split
    · exact ⟨discardAll_aside _ _ _, discardAll_adds _ _ _⟩
    · exact ⟨(discardAll_aside _ _ _).trans (note_aside _ _), (discardAll_adds _ _ _).trans (note_adds _ rfl)⟩
  | shutdown =>
    obtain rfl := congrArg Prod.snd carried
    exact ⟨_, _, .silent, discardEnrolments_aside _ _⟩

theorem vacate_hushed (r : Relay σ) : Adds Occurrence.isHushed r r.vacate := note_adds _ rfl

/-- With nobody registered, what is left of the dead poller is cleared away. -/
theorem Changed.buried {r r₁ : Relay σ} {registry : Registry} (changed : r.Changed registry r₁)
    (empty : r₁.registry.isEmpty = true) : r.Recovered r₁.vacate.resetCursor := by
  have hushed := (changed.hushed.trans (vacate_hushed r₁)).trans (note_adds _ (o := .cursorReset) rfl)
  obtain ⟨notices, interrupts⟩ := lifeNotices_of_hushed hushed
  refine ⟨changed.aside.source, interrupts, fun filled => ?_, fun _ => ⟨rfl, rfl, notices⟩⟩
  change r₁.registry.isEmpty = false at filled
  rw [empty] at filled
  contradiction

/-- With somebody registered, a new poller takes the place of the dead one, at the cursor that this one had. -/
theorem Changed.replaced {r r₁ : Relay σ} {registry : Registry} (changed : r.Changed registry r₁) (hl : r.Lifecycle)
    {s : PollerSlot} (slot : r.slot = some s) (filled : r₁.registry.isEmpty = false) :
    r.Recovered r₁.vacate.startPoller := by
  have aside := changed.aside
  obtain ⟨notices, interrupts⟩ := lifeNotices_of_hushed (changed.hushed.trans (vacate_hushed r₁))
  have size : r₁.vacate.tasks.size = r.tasks.size := congrArg Table.size changed.tasks
  have tokens : r₁.vacate.tokens = r.tokens := aside.tokens
  have since : r₁.cursor.since.isSome = true := aside.cursor ▸ hl.since slot
  have fresh : r.isCancelled r.tokens = false := by
    rw [Bool.eq_false_iff]
    exact fun raised => Nat.lt_irrefl _ (hl.spent (isCancelled_iff.mp raised))
  refine ⟨aside.source, ?_, fun _ => ⟨?_, ?_, ?_, ?_, ?_⟩, fun empty => ?_⟩
  · rw [← interrupts, Relay.interrupts, startPoller_past]
    rfl
  · rw [← size, ← tokens]
    rfl
  · exact size ▸ startPoller_pollerAt_new r₁.vacate
  · rw [← fresh, isCancelled, isCancelled, ← aside.cancelled]
    rfl
  · exact (Cursor.stamp_of_since since _).trans aside.cursor
  · rw [← notices, lifeNotices_eq_past, lifeNotices_eq_past, startPoller_past,
      List.filterMap_cons_some (f := Occurrence.lifeNotice?) rfl, List.filterMap_cons_none rfl, List.reverse_cons]
  · change r₁.registry.isEmpty = true at empty
    rw [filled] at empty
    contradiction

theorem Changed.recovered {r r₁ : Relay σ} {registry : Registry} (changed : r.Changed registry r₁) (hl : r.Lifecycle)
    {s : PollerSlot} (slot : r.slot = some s) (dead : r.taskEnded s.task = true) : r.Recovered r₁.followRegistry := by
  have slot₁ : r₁.slot = some s := changed.aside.slot.trans slot
  have dead₁ : r₁.taskEnded s.task = true := by rw [taskEnded, changed.tasks]; exact dead
  have alignment := followRegistry_alignment r₁
  generalize r₁.followRegistry = r₂ at alignment
  cases alignment with
  | resting vacant | started vacant => cases slot₁.symm.trans vacant
  | stopped occupied alive | stopping occupied alive | revived occupied alive | running occupied alive =>
    cases slot₁.symm.trans occupied
    rw [dead₁] at alive
    contradiction
  | buried _ _ empty => exact changed.buried empty
  | replaced _ _ filled => exact changed.replaced hl slot filled

/-- A poller that is in the slot though it has ended died in one step, over a failure, and the cursor has stayed since.
That step changed neither the cursor nor the registry and published no notice, as do all steps of a fetch up to the last
one. Every call that changes the registry, or might have, finds the dead poller: with somebody registered afterwards a
new poller is in the slot, which has not failed yet, is not told to stop and goes on at the cursor, and one notice says
so; with nobody registered the slot is empty and the cursor unset, and neither the source nor an observer is told. The
bus has carried the notices up to the call, and those of the call. -/
theorem dead_poller_is_replaced {source : σ} {r : Relay σ} (seen : Seen source r) {s : PollerSlot}
    (slot : r.slot = some s) (dead : r.taskEnded s.task = true) :
    (∃ start before after, Created source start ∧ DeathOf start r s before after ∧ before.Unnoticed after) ∧
    (∀ (r' : Relay σ) id failures stage, (r'.pollerTurn id failures stage).1 = .blocked ∨
      (r'.pollerTurn id failures stage).1 = .ended .panicked → r'.Unnoticed (r'.pollerTurn id failures stage).2) ∧
    r.Announced ∧
    ∀ c reply r', r.perform (.call c) = (reply, r') → c.isEnrolment = true → reply.isDone = true →
      r.Recovered r' ∧ r'.Announced := by
  have announced := seen_announced seen
  refine ⟨?_, fun r' id failures stage => (pollerTurn_step r' id failures stage).unnoticed, announced, ?_⟩
  · obtain ⟨start, created, strides⟩ := seen.strides
    obtain ⟨before, after, death⟩ := strides.death created slot dead
    exact ⟨start, before, after, created, death, death.dies.unnoticed⟩
  · intro c reply r' answer enrolment done
    obtain ⟨registry, r₁, changed, aside, facts⟩ := (call_realigned answer enrolment done).followed
    have called := announced_invariant.acts (perform_deeds r (.call c)).acts announced
    rw [answer] at called
    exact ⟨(changed.recovered (seen_lifecycle seen) slot dead).aside aside facts, called⟩

theorem bereft_reachable : Reachable (Script.create [.failed .closed]) bereft :=
  Reachable.follow (.created ⟨⟨1024, endless, "rtevent-poller"⟩, RelaySession.counting,
    [(⟨"plain", none, .plain, false⟩, [])], by
      simp [create?, plain, Settings.busRoom, Bus.create?, Bus.maxCapacity]⟩) _

/-- Another name for the subscriber makes a new poller, and its removal leaves none. -/
theorem dead_poller_is_replaced_bereft :
    bereft.slot = some ⟨0, 0⟩ ∧ bereft.taskEnded 0 = true ∧
      (bereft.perform (.call (.add "b" 0))).1 = .added ∧
      bereft.Recovered (bereft.perform (.call (.add "b" 0))).2 ∧
      (bereft.perform (.call (.add "b" 0))).2.registry.isEmpty = false ∧
      (bereft.perform (.call .shutdown)).1 = .number 1 ∧
      bereft.Recovered (bereft.perform (.call .shutdown)).2 ∧
      (bereft.perform (.call .shutdown)).2.registry.isEmpty = true := by
  have slot : bereft.slot = some ⟨0, 0⟩ := by decide +kernel
  have dead : bereft.taskEnded 0 = true := by decide +kernel
  have recovers := (dead_poller_is_replaced (.between bereft_reachable) slot dead).2.2.2
  have added : (bereft.perform (.call (.add "b" 0))).1 = .added := by decide +kernel
  have removed : (bereft.perform (.call .shutdown)).1 = .number 1 := by decide +kernel
  exact ⟨slot, dead, added, (recovers _ _ _ (Prod.ext added rfl) rfl rfl).1, by decide +kernel, removed,
    (recovers _ _ _ (Prod.ext removed rfl) rfl rfl).1, by decide +kernel⟩

end Relay

end EventRelay
