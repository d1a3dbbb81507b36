import EventRelay.Proofs.Serving
import EventRelay.Source.Ring

namespace EventRelay

namespace Relay

variable {σ : Type}

/-- What a worker of `sub'` has in hand, if that queue is the one that is looked at. -/
def engagement (sub sub' : SubId) (id : TaskId) (d : Delivery) : Option Engagement :=
  if sub' = sub then some ⟨id, d⟩ else none

theorem beginHandling_run {r : Relay σ} {id : TaskId} {sub' : SubId} {s : Subscriber} {d : Delivery}
    {rest : List Delivery} (worker : r.WorkerAt id sub' .idle) (found : r.subscribers.get? sub' = some s)
    (head : s.pending = d :: rest) (sub : SubId) :
    Station.Run (none, r.station sub) (engagement sub sub' id d, (r.beginHandling sub' d rest).station sub) := by
  have spent : (r.beginHandling sub' d rest).station sub =
      ((r.updateSubscriber sub' (fun s => { s with pending := rest })).note
        (.entered ((r.updateSubscriber sub' (fun s => { s with pending := rest })).party sub') d)).station sub :=
    updateSubscriber_station_of_alike _ sub sub' fun _ => ⟨rfl, rfl, rfl, rfl⟩
  rw [spent]
  by_cases same : sub' = sub
  · subst same
    have station := station_of found
    have given : ((r.updateSubscriber sub' (fun s => { s with pending := rest })).note
        (.entered ((r.updateSubscriber sub' (fun s => { s with pending := rest })).party sub') d)).station sub' =
        (r.station sub').give d rest := by
      rw [report_station found, station]
      simp [Station.give, Occurrence.queueFact?, party, Subscriber.capacity]
    rw [given, engagement, if_pos rfl]
    apply Relation.ReflTransGen.single
    refine .began (workersOf_eq_some.mpr worker) ?_
    rw [station]
    exact head
  · have unseen : ∀ r : Relay σ, (r.party sub').id ≠ sub := fun _ => same
    rw [note_station _ (by simp [Occurrence.queueFact?, unseen]), updateSubscriber_station_of_ne r same, engagement,
      if_neg same]

/-- The worker of another subscriber has gone on. -/
theorem setWork_station {r : Relay σ} {id : TaskId} {sub' : SubId} {stage : WorkerStage}
    (worker : r.WorkerAt id sub' stage) (stage' : WorkerStage) (sub : SubId) :
    (r.setWork id (.worker sub' stage')).station sub =
      if sub' = sub then (r.station sub).setStage id (some stage') else r.station sub := by
  obtain ⟨name, ht⟩ := worker
  by_cases same : sub' = sub
  · subst same
    rw [if_pos rfl]
    exact (updateTask_station ht _ sub').trans (by simp [Task.stageFor?])
  · rw [if_neg same]
    apply updateTask_station_of_same ht
    simp [Task.stageFor?, same]

theorem reportOutcome_station_of_ne (r : Relay σ) {sub sub' : SubId} (other : sub' ≠ sub) (d : Delivery)
    (panic : Option String) : (r.reportOutcome sub' d panic).station sub = r.station sub := by
  have unseen : ∀ r : Relay σ, (r.party sub').id ≠ sub := fun _ => other
  unfold reportOutcome
  cases panic with
  | none => rw [note_station _ (by simp [Occurrence.queueFact?, unseen]), updateSubscriber_station_of_ne r other]
  | some message =>
    rw [note_station _ (by simp [Occurrence.queueFact?, unseen]), updateSubscriber_station_of_ne r other]

/-- The outcome is counted and reported, and the worker is idle again. -/
theorem reportOutcome_station {r : Relay σ} {sub : SubId} {s : Subscriber} (found : r.subscribers.get? sub = some s)
    (id : TaskId) (d : Delivery) (panic : Option String) :
    ((r.reportOutcome sub d panic).station sub).setStage id (some .idle) =
      (r.station sub).leave ⟨id, d⟩ panic.isSome := by
  rw [station_of found]
  unfold reportOutcome
  cases panic with
  | none =>
    dsimp only
    rw [report_station found]
    simp [Station.leave, Station.setStage, Subscriber.countDelivered, Occurrence.queueFact?, party, Subscriber.capacity]
  | some message =>
    dsimp only
    rw [report_station found]
    simp [Station.leave, Station.setStage, Subscriber.countPanicked, Occurrence.queueFact?, party, Subscriber.capacity]

theorem leaveHandler_run {r : Relay σ} {id : TaskId} {sub' : SubId} {s : Subscriber} {stage : WorkerStage}
    (worker : r.WorkerAt id sub' stage) (found : r.subscribers.get? sub' = some s) (d : Delivery)
    (panic : Option String) (sub : SubId) :
    Station.Run (engagement sub sub' id d, r.station sub) (none, (r.leaveHandler id sub' d panic).2.station sub) := by
  have reported := (reportOutcome_aside r sub' d panic).workerAt worker
  rw [leaveHandler_eq, setWork_station reported]
  by_cases same : sub' = sub
  · subst same
    rw [if_pos rfl, reportOutcome_station found, engagement, if_pos rfl]
    exact .single (.left (workersOf_eq_some.mpr worker) _)
  · rw [if_neg same, reportOutcome_station_of_ne r same, engagement, if_neg same]

/-- Inside the handler, or past its gate, the worker either waits or leaves. -/
theorem passGate_run {r : Relay σ} {id : TaskId} {sub' : SubId} {s : Subscriber} {stage : WorkerStage}
    (worker : r.WorkerAt id sub' stage) (found : r.subscribers.get? sub' = some s) (d : Delivery)
    (conduct : Conduct) (sub : SubId) :
    Station.Run (engagement sub sub' id d, r.station sub)
      (none, (r.passGate id sub' d conduct).2.station sub) := by
  unfold passGate
  split
  · exact leaveHandler_run worker found d conduct.late sub
  · split
    · rw [setWork_station worker]
      by_cases same : sub' = sub
      · subst same
        rw [if_pos rfl, engagement, if_pos rfl]
        exact .single (.waited (workersOf_eq_some.mpr worker))
      · rw [if_neg same, engagement, if_neg same]
    · have permitted := updateSubscriber_station_of_alike r sub sub' (f := fun s => { s with permits := s.permits - 1 })
        fun _ => ⟨rfl, rfl, rfl, rfl⟩
      have worker' := (updateSubscriber_aside r sub' (fun s => { s with permits := s.permits - 1 })).workerAt worker
      rw [← permitted]
      exact leaveHandler_run worker' (updateSubscriber_found found _) d conduct.late sub

/-- A worker that finds nothing to do leaves the slot and ends in the same go. -/
theorem retire_run {r : Relay σ} {id : TaskId} {sub' : SubId} {s : Subscriber} (worker : r.WorkerAt id sub' .idle)
    (found : r.subscribers.get? sub' = some s) (done : s.pending = []) (sub : SubId) :
    Station.Run (none, r.station sub)
      (none, ((r.updateSubscriber sub' (fun s => { s with worker := none })).endTask id .finished).station sub) := by
  obtain ⟨name, ht⟩ := worker
  have row : (r.updateSubscriber sub' (fun s => { s with worker := none })).tasks.get? id = _ := ht
  by_cases same : sub' = sub
  · subst same
    have station := station_of found
    have freed := updateSubscriber_found found (fun s => { s with worker := none })
    have retired : ((r.updateSubscriber sub' (fun s => { s with worker := none })).endTask id .finished).station sub' =
        (r.station sub').retire id := by
      refine (updateTask_station row _ sub').trans ?_
      rw [station_of freed, station]
      rfl
    rw [retired]
    apply Relation.ReflTransGen.single
    refine .retired (workersOf_eq_some.mpr ⟨name, ht⟩) ?_
    rw [station]
    exact done
  · have gone : ((r.updateSubscriber sub' (fun s => { s with worker := none })).endTask id .finished).station sub =
        r.station sub := by
      refine (updateTask_station_of_same row ?_).trans (updateSubscriber_station_of_ne r same _)
      simp [Task.stageFor?, same]
    rw [gone]

theorem orphan_run {r : Relay σ} {id : TaskId} {sub' : SubId} {stage : WorkerStage} (worker : r.WorkerAt id sub' stage)
    (absent : r.subscribers.get? sub' = none) (sub : SubId) :
    Station.Run (none, r.station sub) (none, (r.endTask id .finished).station sub) := by
  obtain ⟨name, ht⟩ := worker
  by_cases same : sub' = sub
  · subst same
    have ended : (r.endTask id .finished).station sub' = (r.station sub').setStage id none :=
      updateTask_station ht _ sub'
    rw [ended]
    apply Relation.ReflTransGen.single
    refine .orphaned (workersOf_eq_some.mpr ⟨name, ht⟩) ?_
    simp [station, Station.ofSubscriber, absent]
  · have gone : (r.endTask id .finished).station sub = r.station sub := by
      apply updateTask_station_of_same ht
      simp [Task.stageFor?, same]
    rw [gone]

variable [EventSource σ]

/-- Whatever the handler asks for, the event that it was given stays in hand until it returns, panics or waits. -/
theorem enterHandler_run {r : Relay σ} {id : TaskId} {sub' : SubId} {s : Subscriber} {d : Delivery}
    {rest : List Delivery} (worker : r.WorkerAt id sub' .idle) (found : r.subscribers.get? sub' = some s)
    (head : s.pending = d :: rest) (sub : SubId) :
    Station.Run (none, r.station sub)
      (none, ((r.updateSubscriber sub' (fun s => { s with pending := rest })).enterHandler id sub' s d).2.station
        sub) := by
  obtain ⟨r', deeds, after⟩ := enterHandler_cases r id sub' s d rest
  have began := beginHandling_run worker found head sub
  have reacted := deeds.tended sub (engagement sub sub' id d)
  have worker' := deeds.grown.workerAt ((beginHandling_aside r sub' d rest).workerAt worker)
  obtain ⟨s₁, found₁⟩ := Table.get?_of_lt ((beginHandling_aside r sub' d rest).size ▸ Table.lt_of_get? found)
  obtain ⟨s', found'⟩ := deeds.subscriber found₁
  refine (began.trans reacted).trans ?_
  rcases after with ⟨message, he⟩ | ⟨conduct, he⟩
  · rw [he]
    exact leaveHandler_run worker' found' d (some message) sub
  · rw [he]
    exact passGate_run worker' found' d conduct sub

-- Acts would do for each single fact, but they forget who is in the middle of a step, so a turn is followed whole.
theorem workerTurn_run {r : Relay σ} {id : TaskId} {sub' : SubId} {stage : WorkerStage}
    (worker : r.WorkerAt id sub' stage) (sub : SubId) :
    Station.Run (none, r.station sub) (none, (r.workerTurn id sub' stage).2.station sub) := by
  unfold workerTurn
  split
  · rename_i absent
    exact orphan_run worker absent sub
  · rename_i s found
    cases stage with
    | inside d =>
      have resumed : Station.Run (none, r.station sub) (engagement sub sub' id d, r.station sub) := by
        unfold engagement
        split
        · rename_i same
          subst same
          exact .single (.resumed (workersOf_eq_some.mpr worker))
        · exact .refl
      exact resumed.trans (passGate_run worker found d _ sub)
    | idle =>
      dsimp only
      split
      · rename_i done
        exact retire_run worker found done sub
      · rename_i d rest head
        exact enterHandler_run worker found head sub

/-- Between two moves nobody is in the middle of a step. -/
theorem move_run (r : Relay σ) (m : Move) (sub : SubId) :
    Station.Run (none, r.station sub) (none, (r.move m).station sub) := by
  rcases move_deeds_or_turn r m with deeds | ⟨id, name, work, -, ht, he⟩
  · exact deeds.tended sub none
  · rw [he]
    cases work with
    | worker sub' stage => exact workerTurn_run ⟨name, ht⟩ sub
    | poller failures stage => exact (pollerTurn_step r id failures stage).tended ⟨name, ht⟩ sub none
    | firing event targets => exact firingTurn_tended ⟨name, ht⟩ sub none

omit [EventSource σ] in
theorem created_station {source : σ} {r : Relay σ} (h : Created source r) (sub : SubId) :
    ∃ capacity tally, r.station sub = ⟨capacity, [], none, tally, fun _ => none, []⟩ := by
  have workers : r.workersOf sub = fun _ => none := by
    funext id
    simp [workersOf, h.no_task]
  obtain ⟨settings, surroundings, handlers, h⟩ := h
  obtain ⟨bus, -, rfl⟩ := Option.map_eq_some_iff.mp h
  cases hs : (Table.ofList (handlers.map fun h => Subscriber.create h.1 h.2)).get? sub with
  | none =>
    refine ⟨none, ⟨0, 0, 0, 0⟩, ?_⟩
    simp [station, Station.ofSubscriber, workers, hs, queueFacts]
  | some s =>
    obtain ⟨x, -, rfl⟩ := List.mem_map.mp (List.mem_of_getElem? hs)
    rw [station_of hs, workers]
    exact ⟨_, _, rfl⟩

/-- Between two moves the queue of a subscriber is a sound station at which nobody is in the middle of a step. -/
theorem reachable_sound {source : σ} {r : Relay σ} (h : Reachable source r) (sub : SubId) :
    (r.station sub).Sound none := by
  apply h.keeps (P := fun r => (r.station sub).Sound none)
  · intro r created
    obtain ⟨capacity, tally, he⟩ := created_station created sub
    rw [he]
    exact Station.sound_new capacity tally
  · intro r m
    exact Station.Run.sound (move_run r m sub)

/-- The queue of a subscriber is a sound station in every state that somebody can look at. -/
theorem seen_sound {source : σ} {r : Relay σ} (h : Seen source r) (sub : SubId) : ∃ e, (r.station sub).Sound e := by
  cases h with
  | between hr => exact ⟨none, reachable_sound hr sub⟩
  | @inside r id sub' s d rest hr worker found head made =>
    have began := beginHandling_run worker found head sub
    have reacted := (react_deeds (r.beginHandling sub' d rest) sub' ((s.due d.event.name).take made)).tended sub
    exact ⟨_, Station.Run.sound (began.trans (reacted _)) (reachable_sound hr sub)⟩

theorem given_queueFacts (past : List Occurrence) (sub : SubId) :
    QueueFact.given (past.filterMap (Occurrence.queueFact? sub)) =
      past.reverse.filterMap (Occurrence.entryOf? sub) := by
  induction past with
  | nil => rfl
  | cons o past ih =>
    rw [List.reverse_cons, List.filterMap_append, ← ih]
    cases o with
    | entered party d =>
      by_cases he : party.id = sub <;> simp [Occurrence.queueFact?, Occurrence.entryOf?, QueueFact.given, he]
    | queued party | dropped party | discarded party | completed party | handlerPanicked party =>
      by_cases he : party.id = sub <;> simp [Occurrence.queueFact?, Occurrence.entryOf?, QueueFact.given, he]
    | _ => exact (List.append_nil _).symm

/-- The events that a queue accepted, without those that were discarded from it, are those that the handler was
given, then those that still wait, all in the order in which they were accepted. A discard takes just what waits at
that time, and the handler is not given an event before it has returned from the one before, or panicked. -/
theorem queue_serves_in_order {source : σ} {r : Relay σ} (h : Seen source r) (sub : SubId) :
    QueueFact.retained (r.queueFacts sub) = r.enteredBy sub ++ r.pendingOf sub ∧
    ∀ fact before, fact :: before <:+ r.queueFacts sub → fact.Fits before := by
  obtain ⟨e, sound⟩ := seen_sound h sub
  constructor
  · have given : QueueFact.given (r.queueFacts sub) = r.enteredBy sub := given_queueFacts r.past sub
    rw [← given]
    exact sound.order
  · exact sound.fits

/-- An event is handled, and the next one is discarded while it waits. -/
theorem queue_serves_in_order_plain :
    let r := (plain (EventRing.create .standard)).follow [.request (.call (.add "a" 0)),
      .request (.call (.fire (.named "a"))), .request (.call (.fire ((Event.named "a").carrying [7]))), .turn 1,
      .turn 3, .turn 2, .request (.call (.remove "a" 0))]
    r.queueFacts 0 = [.discarded [⟨(Event.named "a").carrying [7], 2⟩], .queued ⟨(Event.named "a").carrying [7], 2⟩,
        .left ⟨.named "a", 1⟩ false, .entered ⟨.named "a", 1⟩, .queued ⟨.named "a", 1⟩] ∧
      Seen (EventRing.create .standard) r ∧
      QueueFact.retained (r.queueFacts 0) = r.enteredBy 0 ++ r.pendingOf 0 := by
  intro r
  have seen : Seen (EventRing.create .standard) r := .between ((Reachable.created (plain_created _)).follow _)
  exact ⟨by decide, seen, (queue_serves_in_order seen 0).1⟩

/-- How the queue of a subscriber is served. -/
structure Served (r : Relay σ) (sub : SubId) (s : Subscriber) : Prop where
  occupied : s.worker.isSome = true ↔ ∃! id, ∃ stage, r.WorkerAt id sub stage
  slot : ∀ {id}, s.worker = some id → ∃ stage, r.WorkerAt id sub stage
  alone : ∀ {id id' stage stage'}, r.WorkerAt id sub stage → r.WorkerAt id' sub stage' → id = id'
  attended : s.pending ≠ [] → s.worker.isSome = true
  runnable : ∀ {id name stage}, r.tasks.get? id = some ⟨name, .worker sub stage, none⟩ →
    r.isRunnable ⟨name, .worker sub stage, none⟩ = true ∨
    ∃ d, stage = .inside d ∧ QueueFact.inHand (r.queueFacts sub) = some d ∧ s.permits = 0
  bounded : ∀ {n}, s.handler.capacity = some n → s.pending.length ≤ max n 1

/-- In every state a queue has one worker or none: one if anything waits, and then in its slot. The worker can go on
unless the event that the handler was given last waits for a permit there. A bounded queue stays in its bounds. -/
theorem queue_is_served {source : σ} {r : Relay σ} (h : Seen source r) {sub : SubId} {s : Subscriber}
    (found : r.subscribers.get? sub = some s) : r.Served sub s := by
  obtain ⟨e, sound⟩ := seen_sound h sub
  rw [station_of found] at sound
  have workers : ∀ id, s.worker = some id ↔ ∃ stage, r.WorkerAt id sub stage := by
    intro id
    simp only [← workersOf_eq_some]
    rw [← Option.isSome_iff_exists]
    exact (sound.slot id).symm
  have alone : ∀ {id id' stage stage'}, r.WorkerAt id sub stage → r.WorkerAt id' sub stage' → id = id' := by
    intro id id' stage stage' hw hw'
    have slot := (workers id).mpr ⟨stage, hw⟩
    have slot' := (workers id').mpr ⟨stage', hw'⟩
    exact Option.some.inj (slot.symm.trans slot')
  refine ⟨⟨fun occupied => ?_, fun ⟨id, hw, _⟩ => ?_⟩, fun {id} => (workers id).mp, alone, sound.served, ?_, ?_⟩
  · obtain ⟨id, slot⟩ := Option.isSome_iff_exists.mp occupied
    obtain ⟨stage, hw⟩ := (workers id).mp slot
    exact ⟨id, ⟨stage, hw⟩, fun id' ⟨stage', hw'⟩ => alone hw' hw⟩
  · simp [(workers id).mpr hw]
  · intro id name stage ht
    cases stage with
    | idle => exact .inl rfl
    | inside d =>
      have inHand := sound.inside (workersOf_eq_some.mpr ⟨name, ht⟩)
      by_cases closed : s.permits = 0
      · exact .inr ⟨d, rfl, inHand, closed⟩
      · left
        simp [isRunnable, Task.hasEnded, found, closed]
  · intro n hn
    have capacity : s.capacity = some (max 1 n) := by simp [Subscriber.capacity, hn]
    have bound := sound.bounded _ capacity
    rwa [Nat.max_comm] at bound

/-- A worker that has handled an event finds the next one in its queue. -/
theorem queue_is_served_plain :
    let r := (plain (EventRing.create .standard)).follow [.request (.call (.add "a" 0)),
      .request (.call (.fire (.named "a"))), .request (.call (.fire (.named "a"))), .turn 1, .turn 3, .turn 2]
    ∃ s, r.subscribers.get? 0 = some s ∧ Seen (EventRing.create .standard) r ∧
      s.pending = [⟨.named "a", 2⟩] ∧ s.worker = some 3 ∧ r.Served 0 s := by
  intro r
  have seen : Seen (EventRing.create .standard) r := .between ((Reachable.created (plain_created _)).follow _)
  obtain ⟨s, found⟩ : ∃ s, r.subscribers.get? 0 = some s := Table.get?_of_lt (by decide)
  have waits : (r.subscribers.get? 0).map Subscriber.pending = some [⟨.named "a", 2⟩] := by decide
  have slot : (r.subscribers.get? 0).map Subscriber.worker = some (some 3) := by decide
  rw [found] at waits slot
  exact ⟨s, found, seen, Option.some.inj waits, Option.some.inj slot, queue_is_served seen found⟩

end Relay

end EventRelay
