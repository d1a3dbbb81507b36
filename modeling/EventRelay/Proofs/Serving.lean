import EventRelay.Proofs.Flow
import EventRelay.Proofs.Station

namespace EventRelay

/-- What a fact tells of the queue of a subscriber. -/
def Occurrence.queueFact? (sub : SubId) : Occurrence → Option QueueFact
  | .queued party d => if party.id = sub then some (.queued d) else none
  | .dropped party d => if party.id = sub then some (.dropped d) else none
  | .discarded party ds _ => if party.id = sub then some (.discarded ds) else none
  | .entered party d => if party.id = sub then some (.entered d) else none
  | .completed party d => if party.id = sub then some (.left d false) else none
  | .handlerPanicked party d _ => if party.id = sub then some (.left d true) else none
  | _ => none

/-- The stage of a task that is an unfinished worker of the subscriber. -/
def Task.stageFor? (sub : SubId) (t : Task) : Option WorkerStage :=
  match t.work, t.ending with
  | .worker sub' stage, none => if sub' = sub then some stage else none
  | _, _ => none

/-- The station of a subscriber, if it is there, with its workers and with what happened at its queue. -/
def Station.ofSubscriber (s : Option Subscriber) (workers : TaskId → Option WorkerStage) (facts : List QueueFact) :
    Station where
  capacity := s.bind Subscriber.capacity
  pending := (s.map Subscriber.pending).getD []
  slot := s.bind Subscriber.worker
  tally := (s.map Subscriber.tally).getD ⟨0, 0, 0, 0⟩
  workers := workers
  facts := facts

namespace Relay

variable {σ : Type}

/-- The stages of the unfinished workers of a subscriber. -/
def workersOf (r : Relay σ) (sub : SubId) (id : TaskId) : Option WorkerStage :=
  (r.tasks.get? id).bind (Task.stageFor? sub)

/-- What happened at a queue, the latest first. -/
def queueFacts (r : Relay σ) (sub : SubId) : List QueueFact := r.past.filterMap (Occurrence.queueFact? sub)

def station (r : Relay σ) (sub : SubId) : Station :=
  .ofSubscriber (r.subscribers.get? sub) (r.workersOf sub) (r.queueFacts sub)

theorem workersOf_eq_some {r : Relay σ} {sub : SubId} {id : TaskId} {stage : WorkerStage} :
    r.workersOf sub id = some stage ↔ r.WorkerAt id sub stage := by
  unfold workersOf WorkerAt
  constructor
  · intro h
    obtain ⟨⟨name, work, ending⟩, ht, hs⟩ := Option.bind_eq_some_iff.mp h
    unfold Task.stageFor? at hs
    split at hs
    · rename_i sub' stage' hw he
      split at hs
      · rename_i same
        cases hs
        dsimp only at hw he
        subst hw he same
        exact ⟨name, ht⟩
      · contradiction
    · contradiction
  · rintro ⟨name, ht⟩
    simp [ht, Task.stageFor?]

theorem station_of {r : Relay σ} {sub : SubId} {s : Subscriber} (found : r.subscribers.get? sub = some s) :
    r.station sub = ⟨s.capacity, s.pending, s.worker, s.tally, r.workersOf sub, r.queueFacts sub⟩ := by
  simp [station, Station.ofSubscriber, found]

theorem queueFacts_note (r : Relay σ) (o : Occurrence) (sub : SubId) :
    (r.note o).queueFacts sub = (o.queueFact? sub).toList ++ r.queueFacts sub := by
  cases h : o.queueFact? sub <;> simp [queueFacts, note, h]

theorem note_station (r : Relay σ) {o : Occurrence} {sub : SubId} (ho : o.queueFact? sub = none) :
    (r.note o).station sub = r.station sub := by
  have facts : (r.note o).queueFacts sub = r.queueFacts sub := by simp [queueFacts_note, ho]
  unfold station
  rw [facts]
  rfl

/-- What becomes of the station of `sub` when a subscriber is changed. -/
theorem updateSubscriber_station (r : Relay σ) (sub sub' : SubId) (f : Subscriber → Subscriber) :
    (r.updateSubscriber sub' f).station sub =
      .ofSubscriber (if sub' = sub then (r.subscribers.get? sub).map f else r.subscribers.get? sub)
        (r.workersOf sub) (r.queueFacts sub) := by
  rw [← Table.get?_update]
  rfl

theorem updateSubscriber_station_of_ne (r : Relay σ) {sub sub' : SubId} (other : sub' ≠ sub)
    (f : Subscriber → Subscriber) : (r.updateSubscriber sub' f).station sub = r.station sub := by
  rw [updateSubscriber_station, if_neg other]
  rfl

/-- Permits and reactions are no part of a station. -/
theorem updateSubscriber_station_of_alike (r : Relay σ) (sub sub' : SubId) {f : Subscriber → Subscriber}
    (alike : ∀ s, (f s).capacity = s.capacity ∧ (f s).pending = s.pending ∧ (f s).worker = s.worker ∧
      (f s).tally = s.tally) : (r.updateSubscriber sub' f).station sub = r.station sub := by
  rw [updateSubscriber_station]
  unfold station
  split
  · cases r.subscribers.get? sub <;> simp [Station.ofSubscriber, alike]
  · rfl

/-- The stage of one task was set. -/
theorem workersOf_update {r : Relay σ} {id : TaskId} {t : Task} (ht : r.tasks.get? id = some t) (f : Task → Task)
    (sub : SubId) : { r with tasks := r.tasks.update id f }.workersOf sub =
      Function.update (r.workersOf sub) id ((f t).stageFor? sub) := by
  funext j
  by_cases he : id = j
  · subst he
    simp [workersOf, Table.get?_update, ht]
  · simp [workersOf, Table.get?_update, he, Ne.symm he]

theorem updateTask_station {r : Relay σ} {id : TaskId} {t : Task} (ht : r.tasks.get? id = some t) (f : Task → Task)
    (sub : SubId) : { r with tasks := r.tasks.update id f }.station sub =
      (r.station sub).setStage id ((f t).stageFor? sub) := by
  unfold station Station.setStage
  rw [workersOf_update ht]
  rfl

theorem updateTask_station_of_same {r : Relay σ} {id : TaskId} {t : Task} (ht : r.tasks.get? id = some t)
    {f : Task → Task} {sub : SubId} (hf : (f t).stageFor? sub = t.stageFor? sub) :
    { r with tasks := r.tasks.update id f }.station sub = r.station sub := by
  have stage : t.stageFor? sub = r.workersOf sub id := by simp [workersOf, ht]
  rw [updateTask_station ht, hf, stage]
  unfold Station.setStage
  rw [show (r.station sub).workers = r.workersOf sub from rfl, Function.update_eq_self]
  rfl

theorem workersOf_spawn (r : Relay σ) (name : String) (work : Work) (sub : SubId) :
    (r.spawn name work).2.workersOf sub =
      Function.update (r.workersOf sub) r.tasks.size (Task.stageFor? sub ⟨name, work, none⟩) := by
  funext j
  by_cases he : j = r.tasks.size <;> simp [workersOf, spawn_rows, he]

theorem workersOf_size (r : Relay σ) (sub : SubId) : r.workersOf sub r.tasks.size = none := by
  simp [workersOf, Table.get?_size]

theorem spawn_station (r : Relay σ) (name : String) (work : Work) (sub : SubId) :
    (r.spawn name work).2.station sub =
      (r.station sub).setStage r.tasks.size (Task.stageFor? sub ⟨name, work, none⟩) := by
  unfold station Station.setStage
  rw [workersOf_spawn]
  rfl

theorem spawn_station_of_other (r : Relay σ) {name : String} {work : Work} {sub : SubId}
    (other : Task.stageFor? sub ⟨name, work, none⟩ = none) : (r.spawn name work).2.station sub = r.station sub := by
  have vacant := workersOf_size r sub
  rw [spawn_station, other, ← vacant]
  unfold Station.setStage
  rw [show (r.station sub).workers = r.workersOf sub from rfl, Function.update_eq_self]
  rfl

theorem updateSubscriber_found {r : Relay σ} {sub : SubId} {s : Subscriber} (found : r.subscribers.get? sub = some s)
    (f : Subscriber → Subscriber) : (r.updateSubscriber sub f).subscribers.get? sub = some (f s) := by
  change (r.subscribers.update sub f).get? sub = some (f s)
  simp [Table.get?_update_self, found]

/-- A subscriber was changed, and a fact about it was recorded. -/
theorem report_station {r : Relay σ} {sub : SubId} {s : Subscriber} (found : r.subscribers.get? sub = some s)
    (f : Subscriber → Subscriber) (o : Occurrence) :
    ((r.updateSubscriber sub f).note o).station sub =
      ⟨(f s).capacity, (f s).pending, (f s).worker, (f s).tally, r.workersOf sub,
        (o.queueFact? sub).toList ++ r.queueFacts sub⟩ := by
  have changed : ((r.updateSubscriber sub f).note o).subscribers.get? sub = some (f s) :=
    updateSubscriber_found found f
  rw [station_of changed, queueFacts_note]
  rfl

/-- The station of `sub` takes steps, or is left alone, whoever is in the middle of a step there. -/
def Tended (sub : SubId) (r r' : Relay σ) : Prop := ∀ e, Station.Run (e, r.station sub) (e, r'.station sub)

theorem Tended.of_eq {sub : SubId} {r r' : Relay σ} (h : r'.station sub = r.station sub) : Tended sub r r' := by
  intro e
  rw [h]

theorem Tended.refl (sub : SubId) (r : Relay σ) : Tended sub r r := .of_eq rfl

theorem Tended.trans {sub : SubId} {r r' r'' : Relay σ} (h : Tended sub r r') (h' : Tended sub r' r'') :
    Tended sub r r'' :=
  fun e => (h e).trans (h' e)

theorem Tended.step {sub : SubId} {r r' : Relay σ}
    (h : ∀ e, Station.Step (e, r.station sub) (e, r'.station sub)) : Tended sub r r' :=
  fun e => .single (h e)

theorem note_tended (r : Relay σ) {o : Occurrence} {sub : SubId} (ho : o.queueFact? sub = none) :
    Tended sub r (r.note o) :=
  .of_eq (note_station r ho)

/-- Workers of others come and go unseen. -/
theorem startWorker_station_of_ne (r : Relay σ) {sub sub' : SubId} (other : sub' ≠ sub) (s : Subscriber) :
    (r.startWorker sub' s).station sub = r.station sub := by
  unfold startWorker
  split
  · rfl
  · have spawned : Task.stageFor? sub ⟨workerName s.name, .worker sub' .idle, none⟩ = none := by
      simp [Task.stageFor?, other]
    dsimp only
    rw [updateSubscriber_station_of_ne _ other, spawn_station_of_other r spawned]

theorem handTo_station_of_ne (r : Relay σ) {sub sub' : SubId} (other : sub' ≠ sub) (d : Delivery) :
    (r.handTo sub' d).station sub = r.station sub := by
  have unseen : ∀ (r : Relay σ), (r.party sub').id ≠ sub := fun _ => other
  unfold handTo
  split
  · rfl
  · split
    · rw [note_station _ (by simp [Occurrence.queueFact?, unseen]), updateSubscriber_station_of_ne r other]
    · rw [startWorker_station_of_ne _ other, note_station _ (by simp [Occurrence.queueFact?, unseen]),
        updateSubscriber_station_of_ne r other]

theorem startWorker_station {r : Relay σ} {sub : SubId} {s : Subscriber} (found : r.subscribers.get? sub = some s)
    {s' : Subscriber} (unserved : s'.isServed = false) :
    (r.startWorker sub s').station sub = (r.station sub).staff r.tasks.size := by
  have changed : (r.startWorker sub s').subscribers.get? sub = some { s with worker := some r.tasks.size } := by
    simp only [startWorker, unserved, Bool.false_eq_true, if_false]
    change (r.subscribers.update sub _).get? sub = _
    simp [Table.get?_update_self, found, spawn]
  have workers : (r.startWorker sub s').workersOf sub =
      Function.update (r.workersOf sub) r.tasks.size (some .idle) := by
    have spawned := workersOf_spawn r (workerName s'.name) (.worker sub .idle) sub
    simp only [Task.stageFor?, if_true] at spawned
    simp only [startWorker, unserved, Bool.false_eq_true, if_false]
    exact spawned
  have facts : (r.startWorker sub s').queueFacts sub = r.queueFacts sub := by
    simp only [startWorker, unserved, Bool.false_eq_true, if_false]
    exact queueFacts_note r (.spawned r.tasks.size (workerName s'.name)) sub
  rw [station_of changed, station_of found, workers, facts]
  rfl

/-- An event that is handed to a subscriber is refused by a full queue, and else is accepted and has a worker. -/
theorem handTo_tended (r : Relay σ) (sub sub' : SubId) (d : Delivery) : Tended sub r (r.handTo sub' d) := by
  by_cases same : sub' = sub
  · subst same
    unfold handTo
    split
    · exact .refl sub' r
    · rename_i s found
      have station := station_of found
      have capacity : (r.station sub').isFull = s.isFull := by rw [station]; rfl
      split
      · rename_i full
        have refused : ((r.updateSubscriber sub' Subscriber.countDropped).note (.dropped (r.party sub') d)).station
            sub' = (r.station sub').refuse d := by
          rw [report_station found, station]
          simp [Station.refuse, Subscriber.countDropped, Occurrence.queueFact?, party, Subscriber.capacity]
        apply Tended.step
        intro e
        rw [refused]
        exact .refused d (capacity.trans full)
      · rename_i free
        have room : (r.station sub').isFull = false := by simpa [capacity] using free
        have accepted : ((r.updateSubscriber sub' (·.append d)).note (.queued (r.party sub') d)).station sub' =
            (r.station sub').accept d := by
          rw [report_station found, station]
          simp [Station.accept, Subscriber.append, Occurrence.queueFact?, party, Subscriber.capacity]
        apply Tended.step
        intro e
        by_cases served : s.isServed = true
        · rw [startWorker, if_pos served, accepted]
          exact .accepted d room (by rw [station]; exact served)
        · have unserved : s.isServed = false := by simpa using served
          have appended : ((r.updateSubscriber sub' (·.append d)).note (.queued (r.party sub') d)).subscribers.get?
              sub' = some (s.append d) := updateSubscriber_found found _
          rw [startWorker_station appended unserved, accepted]
          refine .started d room ?_ (workersOf_size r sub')
          simpa [station, Subscriber.isServed] using unserved
  · exact .of_eq (handTo_station_of_ne r same d)

theorem dispatch_tended (r : Relay σ) (sub : SubId) (targets : List SubId) (d : Delivery) :
    Tended sub r (r.dispatch targets d) := by
  induction targets generalizing r with
  | nil => exact .refl sub r
  | cons sub' rest ih => exact (handTo_tended r sub sub' d).trans (ih _)

theorem discardPending_tended (r : Relay σ) (sub sub' : SubId) (reason : DiscardReason) :
    Tended sub r (r.discardPending reason sub') := by
  unfold discardPending
  split
  · exact .refl sub r
  · rename_i s found
    split
    · exact .refl sub r
    · rename_i some
      by_cases same : sub' = sub
      · subst same
        have station := station_of found
        have discarded : ((r.updateSubscriber sub' Subscriber.discard).note
            (.discarded (r.party sub') s.pending reason)).station sub' = (r.station sub').discard := by
          rw [report_station found, station]
          simp [Station.discard, Subscriber.discard, Occurrence.queueFact?, party, Subscriber.capacity]
        apply Tended.step
        intro e
        rw [discarded]
        refine .discarded ?_
        simpa [station] using some
      · apply Tended.of_eq
        have unseen : (r.party sub').id ≠ sub := same
        rw [note_station _ (by simp [Occurrence.queueFact?, unseen]), updateSubscriber_station_of_ne r same]

/-- Subscribers and workers are the same, and the news concern no queue. -/
theorem Tended.facts {sub : SubId} {r r' : Relay σ} (news : List Occurrence) (hp : r'.past = news ++ r.past)
    (unseen : ∀ o ∈ news, o.queueFact? sub = none) (hs : r'.subscribers = r.subscribers)
    (hw : r'.workersOf sub = r.workersOf sub) : Tended sub r r' := by
  apply Tended.of_eq
  have facts : r'.queueFacts sub = r.queueFacts sub := by
    simp [queueFacts, hp, List.filterMap_eq_nil_iff.mpr unseen]
  unfold station
  rw [hs, hw, facts]

theorem Tended.same {sub : SubId} {r r' : Relay σ} (hp : r'.past = r.past) (hs : r'.subscribers = r.subscribers)
    (ht : r'.tasks = r.tasks) : Tended sub r r' :=
  .facts [] hp (fun _ hm => absurd hm List.not_mem_nil) hs (by unfold workersOf; rw [ht])

theorem fireEvent_tended (r : Relay σ) (sub : SubId) (event : Event) : Tended sub r (r.fireEvent event).2 := by
  unfold fireEvent
  dsimp only
  split
  · exact note_tended r rfl
  · exact (note_tended r rfl).trans (.of_eq (spawn_station_of_other _ rfl))

theorem withRegistry_tended (r : Relay σ) (sub : SubId) (registry : Registry) :
    Tended sub r (r.withRegistry registry) := by
  have changed : Tended sub r { r with registry } := .same rfl rfl rfl
  unfold withRegistry
  dsimp only
  split
  · exact changed.trans (note_tended _ rfl)
  · exact changed.trans (note_tended _ rfl)
  · exact changed

theorem Changed.tended {r r' : Relay σ} {registry : Registry} (h : r.Changed registry r') (sub : SubId) :
    Tended sub r r' := by
  cases h with
  | silent => exact withRegistry_tended r sub registry
  | told => exact (withRegistry_tended r sub registry).trans (note_tended _ rfl)

theorem moveCursor_tended (r : Relay σ) (sub : SubId) (f : Fetched) : Tended sub r (r.moveCursor f) := by
  have moved : Tended sub r { r with cursor := r.cursor.moveTo f.index } := .same rfl rfl rfl
  unfold moveCursor
  dsimp only
  split
  · exact moved
  · exact moved.trans (note_tended _ rfl)

theorem handOut_tended (r : Relay σ) (sub : SubId) (id : TaskId) (f : Fetched) : Tended sub r (r.handOut id f) := by
  unfold handOut
  split
  · exact note_tended r rfl
  · exact dispatch_tended r sub _ _

/-- A poller is nobody's worker. -/
theorem setWork_tended {r : Relay σ} {id : TaskId} {failures : Nat} {stage : PollerStage}
    (h : r.PollerAt id failures stage) (sub : SubId) (failures' : Nat) (stage' : PollerStage) :
    Tended sub r (r.setWork id (.poller failures' stage')) := by
  obtain ⟨name, ht⟩ := h
  exact .of_eq (updateTask_station_of_same ht rfl)

theorem endTask_tended {r : Relay σ} {id : TaskId} {failures : Nat} {stage : PollerStage}
    (h : r.PollerAt id failures stage) (sub : SubId) (ending : Ending) : Tended sub r (r.endTask id ending) := by
  obtain ⟨name, ht⟩ := h
  exact .of_eq (updateTask_station_of_same ht rfl)

theorem passOn_tended {r : Relay σ} {id : TaskId} {failures : Nat} {stage : PollerStage}
    (h : r.PollerAt id failures stage) (sub : SubId) (f : Fetched) : Tended sub r (r.passOn id f).2 := by
  have poller : ((r.moveCursor f).handOut id f).PollerAt id failures stage := by
    apply (handOut_aside _ id f).pollerAt
    exact (moveCursor_aside r f).pollerAt h
  have handed := (moveCursor_tended r sub f).trans (handOut_tended _ sub id f)
  exact handed.trans (setWork_tended poller sub 0 .ready)

theorem firingTurn_tended {r : Relay σ} {id : TaskId} {event : Event} {targets : List SubId}
    (h : r.FiringAt id event targets) (sub : SubId) : Tended sub r (r.firingTurn id event targets) := by
  obtain ⟨name, ht⟩ := h
  have row := (dispatch_aside r targets ⟨event, id⟩).rows id _ ht
  exact (dispatch_tended r sub targets _).trans (.of_eq (updateTask_station_of_same row rfl))

variable [EventSource σ]

theorem startPoller_tended (r : Relay σ) (sub : SubId) : Tended sub r r.startPoller := by
  refine .facts [.pollerStarted r.sourceName r.tasks.size r.readClock.1, .spawned r.tasks.size r.settings.pollerName]
    (startPoller_past r) ?_ rfl ?_
  · simp [Occurrence.queueFact?]
  · have vacant := workersOf_size r sub
    have spawned := workersOf_spawn r r.settings.pollerName (.poller 0 .ready) sub
    rw [show Task.stageFor? sub ⟨r.settings.pollerName, .poller 0 .ready, none⟩ = none from rfl, ← vacant,
      Function.update_eq_self] at spawned
    exact spawned

theorem Alignment.tended {r r' : Relay σ} (h : r.Alignment r') (sub : SubId) : Tended sub r r' := by
  have vacated : Tended sub r r.vacate := by
    refine .facts [.pollerReclaimed r.sourceName] rfl ?_ rfl rfl
    simp [Occurrence.queueFact?]
  cases h with
  | resting | stopping | running => exact .refl sub r
  | started => exact startPoller_tended r sub
  | buried =>
    have reset : Tended sub r.vacate r.vacate.resetCursor := by
      refine .facts [.cursorReset] rfl ?_ rfl rfl
      simp [Occurrence.queueFact?]
    exact vacated.trans reset
  | replaced => exact vacated.trans (startPoller_tended _ sub)
  | stopped =>
    refine .facts [.pollerInterrupted r.sourceName, .interruptCalled .controller] rfl ?_ rfl rfl
    simp [Occurrence.queueFact?]
  | revived =>
    refine .facts [.pollerRevived] rfl ?_ rfl rfl
    simp [Occurrence.queueFact?]

theorem letGo_tended (r : Relay σ) (sub : SubId) : Tended sub r r.letGo := by
  have stopped : Tended sub r r.abandonPoller := by
    unfold abandonPoller
    split
    · exact .refl sub r
    · refine .facts [.interruptCalled .controller] rfl ?_ rfl rfl
      simp [Occurrence.queueFact?]
  exact stopped.trans (withRegistry_tended _ sub _)

/-- No request enters a handler, or leaves one. -/
theorem Deed.tended {r r' : Relay σ} (h : Deed r r') (sub : SubId) : Tended sub r r' := by
  cases h with
  | told o remark =>
    apply note_tended
    cases o <;> first | rfl | contradiction
  | aligned _ _ changed => exact (changed.tended sub).trans ((followRegistry_alignment _).tended sub)
  | discarded reason sub' => exact discardPending_tended r sub sub' reason
  | fired event _ => exact fireEvent_tended r sub event
  | posted accepted =>
    obtain ⟨source, -, rfl⟩ := postToSource_ok accepted
    refine .facts [.posted _ r.readClock.1 _] rfl ?_ rfl rfl
    simp [Occurrence.queueFact?]
  | interrupted =>
    refine .facts [.interruptCalled .client] rfl ?_ rfl rfl
    simp [Occurrence.queueFact?]
  | permitted sub' f => exact .of_eq (updateSubscriber_station_of_alike r sub sub' fun _ => ⟨rfl, rfl, rfl, rfl⟩)
  | letGone _ =>
    have dropped : Tended sub r { r with handles := r.handles - 1 } := .same rfl rfl rfl
    exact dropped.trans (letGo_tended _ sub)
  | closed | pushed | slept | observed | cloned | dropped => exact .same rfl rfl rfl

theorem Deeds.tended {r r' : Relay σ} (h : Deeds r r') (sub : SubId) : Tended sub r r' := by
  induction h with
  | refl => exact .refl sub r
  | tail _ deed ih => exact ih.trans (deed.tended sub)

theorem Alignment.size {r r' : Relay σ} (h : r.Alignment r') : r'.subscribers.size = r.subscribers.size := by
  cases h <;> rfl

theorem Deed.size {r r' : Relay σ} (h : Deed r r') : r'.subscribers.size = r.subscribers.size := by
  cases h with
  | aligned _ _ changed => exact (followRegistry_alignment _).size.trans changed.aside.size
  | discarded reason sub => exact (discardPending_aside r reason sub).size
  | fired event _ => exact (fireEvent_aside r event).size
  | posted accepted =>
    obtain ⟨source, -, rfl⟩ := postToSource_ok accepted
    rfl
  | permitted sub f => exact (updateSubscriber_aside r sub _).size
  | letGone _ =>
    refine (withRegistry_aside _ _).size.trans ?_
    unfold abandonPoller
    split <;> rfl
  | told | interrupted | closed | pushed | slept | observed | cloned | dropped => rfl

theorem Deeds.size {r r' : Relay σ} (h : Deeds r r') : r'.subscribers.size = r.subscribers.size := by
  induction h with
  | refl => rfl
  | tail _ deed ih => exact deed.size.trans ih

/-- Subscribers are never lost. -/
theorem Deeds.subscriber {r r' : Relay σ} (h : Deeds r r') {sub : SubId} {s : Subscriber}
    (found : r.subscribers.get? sub = some s) : ∃ s', r'.subscribers.get? sub = some s' :=
  Table.get?_of_lt (h.size ▸ Table.lt_of_get? found)

theorem exitPoller_tended {r : Relay σ} {id : TaskId} {failures : Nat} {stage : PollerStage}
    (h : r.PollerAt id failures stage) (sub : SubId) : Tended sub r (r.exitPoller id).2 := by
  have left : Tended sub r ({ r with slot := none }.resetCursor.note (.pollerStopped r.sourceName)) := by
    refine .facts [.pollerStopped r.sourceName, .cursorReset] rfl ?_ rfl rfl
    simp [Occurrence.queueFact?]
  have poller : ({ r with slot := none }.resetCursor.note (.pollerStopped r.sourceName)).PollerAt id failures stage := h
  exact left.trans (endTask_tended poller sub .finished)

theorem pauseAfter_tended {r : Relay σ} {id : TaskId} {failures : Nat} {stage : PollerStage}
    (h : r.PollerAt id failures stage) (sub : SubId) (token : TokenId) (fault : FetchFault) :
    Tended sub r (r.pauseAfter id failures token fault).2 := by
  unfold pauseAfter
  split
  · exact endTask_tended h sub .panicked
  · rename_i delay _
    have told : Tended sub r ({ r with draws := r.draws + 1 }.note
        (.fetchFailed id r.sourceName fault (min (failures + 1) maxFailures) delay)) := by
      refine .facts [.fetchFailed id r.sourceName fault (min (failures + 1) maxFailures) delay] rfl ?_ rfl rfl
      simp [Occurrence.queueFact?]
    have poller : ({ r with draws := r.draws + 1 }.note
        (.fetchFailed id r.sourceName fault (min (failures + 1) maxFailures) delay)).PollerAt id failures stage := h
    exact told.trans (setWork_tended poller sub _ _)

theorem Taken.tended {r : Relay σ} {id : TaskId} {failures : Nat} {token : TokenId} {result : FetchResult}
    {turn : Turn × Relay σ} (taken : r.Taken id failures token result turn) {stage : PollerStage}
    (h : r.PollerAt id failures stage) (sub : SubId) : Tended sub r turn.2 := by
  have told : Tended sub r (r.note (.resultTaken id result)) := note_tended r rfl
  have poller : (r.note (.resultTaken id result)).PollerAt id failures stage := h
  cases taken with
  | orphaned => exact endTask_tended h sub .finished
  | exited => exact exitPoller_tended h sub
  | @passed f _ _ => exact told.trans (passOn_tended poller sub f)
  | @ignored _ fault =>
    have noted := told.trans (note_tended _ (o := .nothingFetched fault) rfl)
    have next : ((r.note (.resultTaken id result)).note (.nothingFetched fault)).PollerAt id failures stage := h
    exact noted.trans (setWork_tended next sub failures .ready)
  | failed => exact told.trans (pauseAfter_tended poller sub token _)

theorem Consulted.tended {r r' : Relay σ} {id : TaskId} {stage : PollerStage} {token : TokenId}
    {reply : FetchReply} (h : r.Consulted id stage token reply r') (sub : SubId) : Tended sub r r' := by
  cases h with
  | declined => exact .refl sub r
  | asked =>
    refine .facts [.fetchStarted id r.cursor] rfl ?_ rfl rfl
    simp [Occurrence.queueFact?]
  | withdrawn | resumed => exact .same rfl rfl rfl

/-- A poller only adds to queues. -/
theorem PollerStep.tended {r : Relay σ} {id : TaskId} {failures : Nat} {stage : PollerStage} {turn : Turn × Relay σ}
    (step : r.PollerStep id failures stage turn) (h : r.PollerAt id failures stage) (sub : SubId) :
    Tended sub r turn.2 := by
  cases step with
  | orphaned => exact endTask_tended h sub .finished
  | exited => exact exitPoller_tended h sub
  | @answered _ token result r₁ consulted =>
    have poller := consulted.sameControl.pollerAt.mpr h
    exact (consulted.tended sub).trans ((takeResult_taken r₁ id failures token result).tended poller sub)
  | queued consulted =>
    have poller := consulted.sameControl.pollerAt.mpr h
    exact (consulted.tended sub).trans (setWork_tended poller sub _ _)
  | rested => exact setWork_tended h sub _ _
  | asleep | resting => exact .refl sub r

end Relay

end EventRelay
