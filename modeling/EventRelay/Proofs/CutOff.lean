import EventRelay.Proofs.Delivery
import EventRelay.Proofs.Removal

namespace EventRelay

namespace Relay

variable {σ : Type}

/-- No fired event waits to be handed over that did not wait before. -/
structure Unfired (r r' : Relay σ) : Prop where
  old : ∀ {id event targets}, r'.FiringAt id event targets → r.FiringAt id event targets

theorem Unfired.trans {r r' r'' : Relay σ} (h : r.Unfired r') (h' : r'.Unfired r'') : r.Unfired r'' :=
  ⟨fun hf => h.old (h'.old hf)⟩

theorem Unfired.tasks {r r' : Relay σ} (h : r'.tasks = r.tasks) : r.Unfired r' :=
  ⟨fun ⟨name, ht⟩ => ⟨name, h ▸ ht⟩⟩

theorem note_unfired (r : Relay σ) (o : Occurrence) : r.Unfired (r.note o) := .tasks rfl

theorem updateSubscriber_unfired (r : Relay σ) (sub : SubId) (f : Subscriber → Subscriber) :
    r.Unfired (r.updateSubscriber sub f) :=
  .tasks rfl

/-- What a task turns into is no fired event. -/
theorem updateTask_unfired (r : Relay σ) (id : TaskId) {f : Task → Task}
    (hf : ∀ t event targets, (f t).ending = none → (f t).work ≠ .firing event targets) :
    r.Unfired { r with tasks := r.tasks.update id f } := by
  refine ⟨fun {j event targets} hf => ?_⟩
  obtain ⟨name, ht⟩ := hf
  simp only [Table.get?_update] at ht
  split at ht
  · obtain ⟨t, -, he⟩ := Option.map_eq_some_iff.mp ht
    exact absurd (congrArg Task.work he) (hf t event targets (congrArg Task.ending he))
  · exact ⟨name, ht⟩

theorem setWork_unfired (r : Relay σ) (id : TaskId) {work : Work} (hw : ∀ event targets, work ≠ .firing event targets) :
    r.Unfired (r.setWork id work) :=
  updateTask_unfired r id fun _ event targets _ => hw event targets

theorem endTask_unfired (r : Relay σ) (id : TaskId) (ending : Ending) : r.Unfired (r.endTask id ending) :=
  updateTask_unfired r id fun _ _ _ going => absurd going (Option.some_ne_none ending)

theorem spawn_unfired (r : Relay σ) (name : String) (work : Work)
    (hw : ∀ event targets, work ≠ .firing event targets) : r.Unfired (r.spawn name work).2 := by
  refine ⟨fun {id event targets} hf => ?_⟩
  obtain ⟨name', ht⟩ := hf
  rw [spawn_rows] at ht
  split at ht
  · exact absurd (congrArg Task.work (Option.some.inj ht)) (hw event targets)
  · exact ⟨name', ht⟩

theorem handTo_unfired (r : Relay σ) (sub : SubId) (d : Delivery) : r.Unfired (r.handTo sub d) := by
  unfold handTo startWorker
  split
  · exact .tasks rfl
  · rename_i s _
    split
    · exact .tasks rfl
    · have queued := (updateSubscriber_unfired r sub (·.append d)).trans (note_unfired _ (.queued (r.party sub) d))
      split
      · exact queued
      · have started := queued.trans
          (spawn_unfired _ (workerName s.name) (.worker sub .idle) fun _ _ => Work.noConfusion)
        exact started.trans (updateSubscriber_unfired _ sub _)

theorem dispatch_unfired (r : Relay σ) (targets : List SubId) (d : Delivery) : r.Unfired (r.dispatch targets d) := by
  induction targets generalizing r with
  | nil => exact .tasks rfl
  | cons sub rest ih => exact (handTo_unfired r sub d).trans (ih _)

theorem firingTurn_unfired (r : Relay σ) (id : TaskId) (event : Event) (targets : List SubId) :
    r.Unfired (r.firingTurn id event targets) :=
  (dispatch_unfired r targets _).trans (endTask_unfired _ id _)

theorem leaveHandler_unfired (r : Relay σ) (id : TaskId) (sub : SubId) (d : Delivery) (panic : Option String) :
    r.Unfired (r.leaveHandler id sub d panic).2 := by
  have reported : (r.reportOutcome sub d panic).tasks = r.tasks := by cases panic <;> rfl
  rw [leaveHandler_eq]
  exact Unfired.trans (.tasks reported) (setWork_unfired _ id fun _ _ => Work.noConfusion)

theorem passOn_unfired (r : Relay σ) (id : TaskId) (f : Fetched) : r.Unfired (r.passOn id f).2 := by
  have moved : (r.moveCursor f).tasks = r.tasks := by
    unfold moveCursor
    dsimp only
    split <;> rfl
  have handed : (r.moveCursor f).Unfired ((r.moveCursor f).handOut id f) := by
    unfold handOut
    split
    · exact .tasks rfl
    · exact dispatch_unfired _ _ _
  exact (Unfired.trans (.tasks moved) handed).trans (setWork_unfired _ id fun _ _ => Work.noConfusion)

theorem Changed.cleared {r r' : Relay σ} {registry : Registry} (h : r.Changed registry r') : r.Cleared [] r' := by
  cases h with
  | silent => exact withRegistry_cleared r registry
  | told => exact (withRegistry_cleared r registry).note fun _ => rfl

theorem fireEvent_firingAt {r : Relay σ} {event event' : Event} {id : TaskId} {targets : List SubId}
    (h : (r.fireEvent event).2.FiringAt id event' targets) : r.FiringAt id event' targets ∨
      (event' = event ∧ id = r.tasks.size ∧ targets = r.registry.membersOf event.name) := by
  unfold fireEvent at h
  dsimp only at h
  split at h
  · exact .inl h
  · obtain ⟨name, ht⟩ := h
    rw [spawn_rows] at ht
    split at ht
    · rename_i new
      cases ht
      exact .inr ⟨rfl, new, rfl⟩
    · exact .inl ⟨name, ht⟩

variable [EventSource σ]

/-- The event was fired just now, at those registered under its name. -/
structure JustFired (r r' : Relay σ) (id : TaskId) (event : Event) (targets : List SubId) : Prop where
  controller : r.hasController = true
  state : r' = (r.fireEvent event).2
  task : id = r.tasks.size
  snapshot : targets = r.registry.membersOf event.name

theorem Deed.justFired {r r' : Relay σ} (h : Deed r r') {id : TaskId} {event : Event} {targets : List SubId}
    (hf : r'.FiringAt id event targets) : r.FiringAt id event targets ∨ r.JustFired r' id event targets := by
  have kept : r.Unfired r' → r.FiringAt id event targets ∨ r.JustFired r' id event targets :=
    fun unfired => .inl (unfired.old hf)
  cases h with
  | told | interrupted | closed | pushed | permitted | slept | observed | cloned | dropped => exact kept (.tasks rfl)
  | aligned _ _ changed => exact .inl ((changed.cleared.trans (followRegistry_alignment _).cleared).firingAt.mp hf)
  | discarded reason sub => exact .inl ((discardPending_cleared r reason sub).firingAt.mp hf)
  | fired event' hc =>
    rcases fireEvent_firingAt hf with old | ⟨rfl, task, snapshot⟩
    · exact .inl old
    · exact .inr ⟨hc, rfl, task, snapshot⟩
  | posted accepted =>
    obtain ⟨source, -, rfl⟩ := postToSource_ok accepted
    exact kept (.tasks rfl)
  | letGone _ =>
    have stopped : { r with handles := r.handles - 1 }.abandonPoller.tasks = r.tasks := by
      unfold abandonPoller
      split <;> rfl
    exact kept (Unfired.trans (.tasks stopped) ⟨(withRegistry_cleared _ _).firingAt.mp⟩)

theorem Act.justFired {r r' : Relay σ} (h : Act r r') {id : TaskId} {event : Event} {targets : List SubId}
    (hf : r'.FiringAt id event targets) : r.FiringAt id event targets ∨ r.JustFired r' id event targets := by
  have kept : r.Unfired r' → r.FiringAt id event targets ∨ r.JustFired r' id event targets :=
    fun unfired => .inl (unfired.old hf)
  cases h with
  | deed h => exact h.justFired hf
  | began => exact kept (.tasks rfl)
  | left _ d panic => exact kept (leaveHandler_unfired r _ _ d panic)
  | waited => exact kept (setWork_unfired r _ fun _ _ => Work.noConfusion)
  | retired => exact kept ((updateSubscriber_unfired r _ _).trans (endTask_unfired _ _ _))
  | orphaned => exact kept (endTask_unfired r _ _)

theorem exitPoller_unfired (r : Relay σ) (id : TaskId) : r.Unfired (r.exitPoller id).2 := by
  have left : r.Unfired ({ r with slot := none }.resetCursor.note (.pollerStopped r.sourceName)) := .tasks rfl
  exact left.trans (endTask_unfired _ id .finished)

theorem Taken.unfired {r : Relay σ} {id : TaskId} {failures : Nat} {token : TokenId} {result : FetchResult}
    {turn : Turn × Relay σ} (h : r.Taken id failures token result turn) : r.Unfired turn.2 := by
  have told := note_unfired r (.resultTaken id result)
  cases h with
  | orphaned => exact endTask_unfired r id _
  | exited => exact exitPoller_unfired r id
  | @passed f _ _ => exact told.trans (passOn_unfired _ id f)
  | ignored => exact (told.trans (note_unfired _ _)).trans (setWork_unfired _ id fun _ _ => Work.noConfusion)
  | failed =>
    apply told.trans
    unfold pauseAfter
    split
    · exact endTask_unfired _ id _
    · rename_i delay _
      have drawn : (r.note (.resultTaken id result)).Unfired
          { r.note (.resultTaken id result) with draws := r.draws + 1 } := .tasks rfl
      exact (drawn.trans (note_unfired _ _)).trans (setWork_unfired _ id fun _ _ => Work.noConfusion)

theorem PollerStep.unfired {r : Relay σ} {id : TaskId} {failures : Nat} {stage : PollerStage} {turn : Turn × Relay σ}
    (h : r.PollerStep id failures stage turn) : r.Unfired turn.2 := by
  have consulted : ∀ {token reply r'}, r.Consulted id stage token reply r' → r'.tasks = r.tasks := by
    intro token reply r' h
    cases h with
    | declined | asked | withdrawn | resumed => rfl
  cases h with
  | orphaned => exact endTask_unfired r id _
  | exited => exact exitPoller_unfired r id
  | answered h => exact Unfired.trans (.tasks (consulted h)) (takeResult_taken _ id failures _ _).unfired
  | queued h => exact Unfired.trans (.tasks (consulted h)) (setWork_unfired _ id fun _ _ => Work.noConfusion)
  | rested => exact setWork_unfired r id fun _ _ => Work.noConfusion
  | asleep | resting => exact .tasks rfl

/-- An event that waits to be handed over waited before, or was fired just now. -/
theorem Stride.justFired {r r' : Relay σ} (h : Stride r r') {id : TaskId} {event : Event} {targets : List SubId}
    (hf : r'.FiringAt id event targets) : r.FiringAt id event targets ∨ r.JustFired r' id event targets := by
  cases h with
  | act h => exact h.justFired hf
  | poller => exact .inl ((pollerTurn_step r _ _ _).unfired.old hf)
  | firing => exact .inl ((firingTurn_unfired r _ _ _).old hf)

/-- The call by which an event was fired that waits in `r` to be handed over by this task. -/
structure FiredIn (start r : Relay σ) (id : TaskId) (event : Event) (before : Relay σ) : Prop where
  reached : Strides start before
  controller : before.hasController = true
  task : id = before.tasks.size
  since : Strides (before.fireEvent event).2 r

/-- Every event that waits to be handed over was fired once, at those registered under its name then. -/
theorem fired_origin {source : σ} {start r : Relay σ} (h : Created source start) (hs : Strides start r) {id : TaskId}
    {event : Event} {targets : List SubId} (hf : r.FiringAt id event targets) :
    ∃ before, FiredIn start r id event before ∧ targets = before.registry.membersOf event.name := by
  induction hs with
  | refl =>
    obtain ⟨name, ht⟩ := hf
    rw [h.no_task] at ht
    contradiction
  | @tail r₁ r₂ reached stride ih =>
    rcases stride.justFired hf with old | just
    · obtain ⟨before, origin, snapshot⟩ := ih old
      exact ⟨before, ⟨origin.reached, origin.controller, origin.task, origin.since.tail stride⟩, snapshot⟩
    · exact ⟨r₁, ⟨reached, just.controller, just.task, just.state ▸ .refl⟩, just.snapshot⟩

/-- The subscriber is registered under no name. -/
def Away (r : Relay σ) (sub : SubId) : Prop := ∀ name, sub ∉ r.registry.membersOf name

/-- A continuation in which the subscriber is registered under no name. -/
abbrev StridesAway (sub : SubId) : Relay σ → Relay σ → Prop :=
  Relation.ReflTransGen fun r r' => r.Away sub ∧ Stride r r'

/-- The event waited in `r` to be handed to the subscriber by a task. -/
def InFlight (r : Relay σ) (sub : SubId) (d : Delivery) : Prop :=
  ∃ targets, sub ∈ targets ∧ r.FiringAt d.carrier d.event targets

/-- Since `r` the subscriber got only what waited then to be handed to it. -/
structure Secluded (sub : SubId) (r r' : Relay σ) : Prop where
  ongoing : r.Ongoing r'
  fired : ∀ {id event targets}, r'.FiringAt id event targets → sub ∈ targets → r.FiringAt id event targets
  got : ∃ news, r'.enteredBy sub = r.enteredBy sub ++ news ∧ ∀ d ∈ news ++ r'.pendingOf sub, r.InFlight sub d

omit [EventSource σ] in
theorem secluded_refl {r : Relay σ} {sub : SubId} (emptied : r.pendingOf sub = []) : Secluded sub r r :=
  ⟨.refl r, fun hf _ => hf, [], by simp, by simp [emptied]⟩

theorem Stride.secluded {r r' r'' : Relay σ} {sub : SubId} (h : Stride r' r'') (away : r'.Away sub)
    (hs : Secluded sub r r') : Secluded sub r r'' := by
  obtain ⟨news, entered, all⟩ := hs.got
  have got : ∀ extra, r'.past <:+ r''.past → (r''.flow sub).Sublist (r'.flow sub ++ extra) →
      (∀ d ∈ extra, r.InFlight sub d) →
      ∃ news, r''.enteredBy sub = r.enteredBy sub ++ news ∧ ∀ d ∈ news ++ r''.pendingOf sub, r.InFlight sub d := by
    intro extra older flow inFlight
    obtain ⟨fresh, entered', shorter⟩ := fresh_of_flow older flow
    refine ⟨news ++ fresh, by rw [entered', entered, List.append_assoc], fun d hd => ?_⟩
    rw [List.append_assoc] at hd
    rcases List.mem_append.mp hd with old | new
    · exact all d (List.mem_append_left _ old)
    · rcases List.mem_append.mp (shorter.subset new) with pending | extra
      · exact all d (List.mem_append_right _ pending)
      · exact inFlight d extra
  have fired : ∀ {id event targets}, r''.FiringAt id event targets → sub ∈ targets → r.FiringAt id event targets := by
    intro id event targets hf named
    rcases h.justFired hf with old | just
    · exact hs.fired old named
    · rw [just.snapshot] at named
      exact absurd named (away event.name)
  rcases h.supply with steady | ⟨_, _, _, f, -, -, gained⟩ | ⟨id, event, targets, hf, gained⟩
  · refine ⟨hs.ongoing.trans steady.toOngoing, fired, got [] steady.past ?_ (by simp)⟩
    rw [List.append_nil]
    exact steady.flow sub
  · obtain ⟨k, hk, flow⟩ := gained.flow sub
    rw [List.count_eq_zero.mpr (away f.event.name)] at hk
    obtain rfl : k = 0 := Nat.le_zero.mp hk
    exact ⟨hs.ongoing.trans gained.toOngoing, fired, got _ gained.past flow (by simp)⟩
  · obtain ⟨k, hk, flow⟩ := gained.flow sub
    refine ⟨hs.ongoing.trans gained.toOngoing, fired, got _ gained.past flow fun d hd => ?_⟩
    obtain ⟨some, rfl⟩ := List.mem_replicate.mp hd
    have named : sub ∈ targets := List.count_pos_iff.mp (Nat.lt_of_lt_of_le (Nat.pos_of_ne_zero some) hk)
    exact ⟨targets, named, hs.fired hf named⟩

theorem StridesAway.secluded {r r' : Relay σ} {sub : SubId} (h : StridesAway sub r r')
    (emptied : r.pendingOf sub = []) : Secluded sub r r' := by
  induction h with
  | refl => exact secluded_refl emptied
  | tail _ step ih => exact step.2.secluded step.1 ih

/-- The event was fired before `r`, when the subscriber was registered under its name, by a task that had not run when
the relay was in `r'`. -/
def FiredEarlier (source : σ) (r r' : Relay σ) (sub : SubId) (d : Delivery) : Prop :=
  ∃ start before, Created source start ∧ FiredIn start r d.carrier d.event before ∧
    sub ∈ before.registry.membersOf d.event.name ∧
    r'.FiringAt d.carrier d.event (before.registry.membersOf d.event.name)

/-- What a removal does to queues, and what comes to those removed later. -/
structure CutOff (source : σ) (r r' : Relay σ) (removed : List SubId) : Prop where
  subscribers : ∀ sub, r'.subscribers.get? sub =
    if sub ∈ removed then (r.subscribers.get? sub).map Subscriber.discard else r.subscribers.get? sub
  emptied : ∀ {sub}, sub ∈ removed → r'.pendingOf sub = []
  workers : ∀ {id sub stage}, r'.WorkerAt id sub stage ↔ r.WorkerAt id sub stage
  inside : ∀ {sub d}, QueueFact.inHand (r.queueFacts sub) = some d →
    QueueFact.inHand (r'.queueFacts sub) = some d ∧ Finishes source r' sub d
  late : ∀ {sub}, sub ∈ removed → ∀ {r''}, StridesAway sub r' r'' →
    ∃ news, r''.enteredBy sub = r'.enteredBy sub ++ news ∧
      ∀ d ∈ news, FiredEarlier source r r' sub d ∧ r''.isPolled d = false

/-- Those who are removed lose what is pending, under whatever names it came; all others keep their queues, and what is
inside a handler is handled to its end. As long as a subscriber that was removed is registered under no name, its
handler is given only events that were fired before, while it was registered under their name, by tasks that had not
run yet. The poller brings it nothing. -/
theorem removal_cuts_off {source : σ} {r r' : Relay σ} (seen : Seen source r) {removed : List SubId}
    (removal : r.Removal r' removed) : CutOff source r r' removed := by
  have cleared := removal.cleared
  refine ⟨cleared.subscribers, cleared.emptied, cleared.workerAt, fun inHand => ?_, fun {sub} gone r'' after => ?_⟩
  · have kept := (cleared.inHand _).trans inHand
    exact ⟨kept, finishes_of_inHand kept⟩
  · have secluded := after.secluded (cleared.emptied gone)
    obtain ⟨news, entered, all⟩ := secluded.got
    refine ⟨news, entered, fun d hd => ?_⟩
    obtain ⟨targets, named, hf⟩ := all d (List.mem_append_left _ hd)
    obtain ⟨start, created, strides⟩ := seen.strides
    obtain ⟨before, origin, rfl⟩ := fired_origin created strides (cleared.firingAt.mp hf)
    refine ⟨⟨start, before, created, origin, named, hf⟩, ?_⟩
    obtain ⟨name, ht⟩ := hf
    obtain ⟨t, ht', kind⟩ := secluded.ongoing.kinds ht
    have other : t.isPoller = false := kind
    simp [isPolled, ht', other]

/-- A subscriber is removed with one event pending and another one fired at it. Only the fired one comes. -/
theorem removal_cuts_off_plain :
    let r := (plain (EventRing.create .standard)).follow [.request (.call (.add "a" 0)),
      .request (.call (.post (.named "a"))), .turn 0, .request (.call (.fire (.named "a")))]
    let r' := (r.perform (.call (.remove "a" 0))).2
    let r'' := r'.follow [.turn 2, .turn 1]
    r.pendingOf 0 = [⟨(Event.named "a").indexed 0, 0⟩] ∧ r''.enteredBy 0 = [⟨.named "a", 2⟩] ∧
      Seen (EventRing.create .standard) r ∧ r.Removal r' [0] ∧ CutOff (EventRing.create .standard) r r' [0] := by
  intro r r' r''
  have seen : Seen (EventRing.create .standard) r := .between ((Reachable.created (plain_created _)).follow _)
  have flagged : (r.perform (.call (.remove "a" 0))).1 = .flag true := by decide
  have removal : r.Removal r' [0] := .one (Prod.ext flagged rfl)
  exact ⟨by decide, by decide, seen, removal, removal_cuts_off seen removal⟩

end Relay

end EventRelay
