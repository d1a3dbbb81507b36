import EventRelay.Proofs.Lockstep

namespace EventRelay

namespace Vantage

open Relay (passOn_eq maxFailures)

variable {σ : Type} [EventSource σ] {v : Vantage σ} {pairs : TaskId → TaskId → Prop} {r r' : Relay σ} {i j : TaskId}

/-- Turns with the same outcome, that leave relays which look alike. -/
structure Agree (v : Vantage σ) (pairs : TaskId → TaskId → Prop) (turn turn' : Turn × Relay σ) : Prop where
  outcome : turn.1 = turn'.1
  alike : v.Alike pairs turn.2 turn'.2

/-- Two works that look alike are of one kind. -/
inductive SameKind : Work → Work → Prop
  | poller (f f' : Nat) (p p' : PollerStage) : SameKind (.poller f p) (.poller f' p')
  | worker (sub : SubId) (stage stage' : WorkerStage) : SameKind (.worker sub stage) (.worker sub stage')
  | firing (event : Event) (targets : List SubId) : SameKind (.firing event targets) (.firing event targets)

theorem sameKind_work (v : Vantage σ) (w : Work) : SameKind w (v.work w) ∧ SameKind (v.work w) w := by
  cases w with
  | poller f p =>
    cases p with
    | fetching token ticket =>
      simp only [work]
      split <;> exact ⟨.poller .., .poller ..⟩
    | ready | pausing => exact ⟨.poller .., .poller ..⟩
  | worker sub stage => cases stage <;> exact ⟨.worker .., .worker ..⟩
  | firing => exact ⟨.firing .., .firing ..⟩

theorem same_work {w w' : Work} (same : v.work w = v.work w') : SameKind w w' := by
  have left := (v.sameKind_work w).1
  have right := (v.sameKind_work w').2
  rw [same] at left
  generalize v.work w' = seen at left right
  cases left <;> cases right <;> constructor

theorem work_poller (watches : v.watchesFetches = true) (f : Nat) (p : PollerStage) :
    v.work (.poller f p) = .poller f p := by
  cases p <;> simp [Vantage.work, watches]

namespace Alike

theorem finish (h : v.Alike pairs r r') (known : pairs i j) (ending : Ending) :
    v.Agree pairs (r.finish i ending) (r'.finish j ending) :=
  ⟨rfl, h.endTask (h.pairs known) ending⟩

theorem leaveHandler (h : v.Alike pairs r r') (known : pairs i j) {sub : SubId} (seen : v.hides sub = false)
    {d d' : Delivery} (same : d.event = d'.event) (panic : Option String) :
    v.Agree pairs (r.leaveHandler i sub d panic) (r'.leaveHandler j sub d' panic) := by
  have shown : v.shows (.worker sub .idle) = true := by simp [shows, seen]
  refine ⟨rfl, ?_⟩
  cases panic with
  | none =>
    have counted := h.updateSeen sub (f := Subscriber.countDelivered) (g := Subscriber.countDelivered)
      (fun _ quiet => ⟨quiet, quiet⟩)
      fun t t' like => ⟨like.handler, like.reactions, like.events, like.served, like.permits, by
        simp only [Subscriber.countDelivered, like.tally]⟩
    have told : v.sight? (.completed (r.party sub) d) = v.sight? (.completed (r'.party sub) d') := by
      simp [sight?, Relay.party, seen, same]
    exact (counted.note told).setWork (h.pairs known) shown shown rfl
  | some message =>
    have counted := h.updateSeen sub (f := Subscriber.countPanicked) (g := Subscriber.countPanicked)
      (fun _ quiet => ⟨quiet, quiet⟩)
      fun t t' like => ⟨like.handler, like.reactions, like.events, like.served, like.permits, by
        simp only [Subscriber.countPanicked, like.tally]⟩
    have told : v.sight? (.handlerPanicked (r.party sub) d message) =
        v.sight? (.handlerPanicked (r'.party sub) d' message) := rfl
    exact (counted.note told).setWork (h.pairs known) shown shown rfl

theorem permitsOf (h : v.Alike pairs r r') {sub : SubId} (seen : v.hides sub = false) :
    r.permitsOf sub = r'.permitsOf sub := by
  unfold Relay.permitsOf
  rcases h.subscriber sub with ⟨hn, hn'⟩ | ⟨s, s', hs, hs', peers⟩
  · rw [hn, hn']
  · rw [hs, hs']
    exact (peers.resembles seen).permits

theorem passGate (h : v.Alike pairs r r') (known : pairs i j) {sub : SubId} (seen : v.hides sub = false)
    {d d' : Delivery} (same : d.event = d'.event) (conduct : Conduct) :
    v.Agree pairs (r.passGate i sub d conduct) (r'.passGate j sub d' conduct) := by
  have permits := h.permitsOf seen
  unfold Relay.permitsOf at permits
  unfold Relay.passGate
  rw [permits]
  split
  · exact h.leaveHandler known seen same _
  · split
    · have shown : ∀ d, v.shows (.worker sub (.inside d)) = true := fun d => by simp [shows, seen]
      have work : v.work (.worker sub (.inside d)) = v.work (.worker sub (.inside d')) := by simp only [work, same]
      exact ⟨rfl, h.setWork (h.pairs known) (shown d) (shown d') work⟩
    · have used := h.updateSeen sub (f := fun s => { s with permits := s.permits - 1 })
        (g := fun s => { s with permits := s.permits - 1 }) (fun _ quiet => ⟨quiet, quiet⟩)
        fun t t' like => ⟨like.handler, like.reactions, like.events, like.served, by simp only [like.permits],
          like.tally⟩
      exact used.leaveHandler known seen same _

theorem enterHandler (h : v.Alike pairs r r') (known : pairs i j) {sub : SubId} (seen : v.hides sub = false)
    {s s' : Subscriber} (like : s.Resembles s') {d d' : Delivery} (same : d.event = d'.event) :
    v.Agree pairs (r.enterHandler i sub s d) (r'.enterHandler j sub s' d') := by
  have told : v.sight? (.entered (r.party sub) d) = v.sight? (.entered (r'.party sub) d') := by
    simp [sight?, Relay.party, seen, same]
  have spent := (h.note told).updateSeen sub (f := (·.spend d.event.name)) (g := (·.spend d'.event.name))
    (fun _ quiet => by simp [Subscriber.spend, quiet])
    fun t t' like => ⟨like.handler, by simp only [Subscriber.spend, like.reactions, same], like.events, like.served,
      like.permits, like.tally⟩
  have reacted := spent.react sub (s.due d.event.name)
  have due : s.due d.event.name = s'.due d'.event.name := by rw [like.due, same]
  rw [← same] at reacted
  have written : v.sight? (.written d.event) = v.sight? (.written d.event) := rfl
  have logged := reacted.note written
  unfold Relay.enterHandler
  rw [← due, like.handler, ← same]
  dsimp only
  cases s'.handler.writesLog with
  | true =>
    cases (s'.handler.conduct d.event).early with
    | some message => exact logged.leaveHandler known seen same _
    | none => exact logged.passGate known seen same _
  | false =>
    cases (s'.handler.conduct d.event).early with
    | some message => exact reacted.leaveHandler known seen same _
    | none => exact reacted.passGate known seen same _

theorem workerTurn (h : v.Alike pairs r r') (known : pairs i j) {sub : SubId} (seen : v.hides sub = false)
    {stage stage' : WorkerStage} (same : v.work (.worker sub stage) = v.work (.worker sub stage')) :
    v.Agree pairs (r.workerTurn i sub stage) (r'.workerTurn j sub stage') := by
  rcases h.subscriber sub with ⟨hn, hn'⟩ | ⟨s, s', hs, hs', peers⟩
  · simp only [Relay.workerTurn, hn, hn']
    exact h.finish known .finished
  · have like := peers.resembles seen
    cases stage with
    | inside d =>
      cases stage' with
      | idle => simp [work] at same
      | inside d' =>
        have event : d.event = d'.event := by
          simp only [work, Work.worker.injEq, WorkerStage.inside.injEq, Delivery.mk.injEq] at same
          exact same.2.1
        simp only [Relay.workerTurn, hs, hs', like.handler, event]
        exact h.passGate known seen event _
    | idle =>
      cases stage' with
      | inside => simp [work] at same
      | idle =>
        have events := like.events
        cases queue : s.pending with
        | nil =>
          cases queue' : s'.pending with
          | cons => simp [queue, queue'] at events
          | nil =>
            have left := h.updateSeen sub (f := fun s => { s with worker := none })
              (g := fun s => { s with worker := none }) (fun _ quiet => ⟨quiet, quiet⟩)
              fun t t' like => ⟨like.handler, like.reactions, like.events, rfl, like.permits, like.tally⟩
            simp only [Relay.workerTurn, hs, hs', queue, queue']
            exact left.finish known .finished
        | cons d rest =>
          cases queue' : s'.pending with
          | nil => simp [queue, queue'] at events
          | cons d' rest' =>
            simp only [queue, queue', List.map_cons, List.cons.injEq] at events
            have taken := h.updateSeen sub (f := fun s => { s with pending := rest })
              (g := fun s => { s with pending := rest' }) (fun _ quiet => ⟨quiet, quiet⟩)
              fun t t' like => ⟨like.handler, like.reactions, events.2, like.served, like.permits, like.tally⟩
            simp only [Relay.workerTurn, hs, hs', queue, queue']
            exact taken.enterHandler known seen like events.1

theorem firingTurn (h : v.Alike pairs r r') (known : pairs i j) (event : Event) (targets : List SubId) :
    v.Agree pairs (r.turn i (.firing event targets)) (r'.turn j (.firing event targets)) := by
  have handed : v.Alike pairs (r.dispatch targets ⟨event, i⟩) (r'.dispatch targets ⟨event, j⟩) :=
    h.dispatch targets rfl
  exact handed.finish known .finished

theorem exitPoller (h : v.Alike pairs r r') (known : pairs i j) :
    v.Agree pairs (r.exitPoller i) (r'.exitPoller j) := by
  have unseen : v.sight? (.pollerStopped r.sourceName) = v.sight? (.pollerStopped r'.sourceName) := rfl
  exact (h.vacate.resetCursor.note unseen).finish known .finished

theorem moveCursor (h : v.Alike pairs r r') (f : Fetched) : v.Alike pairs (r.moveCursor f) (r'.moveCursor f) := by
  have moved := h.withCursor (r'.cursor.moveTo f.index)
  unfold Relay.moveCursor
  rw [h.cursor]
  dsimp only
  split
  · exact moved
  · exact moved.note rfl

theorem handOut (h : v.Alike pairs r r') (f : Fetched) : v.Alike pairs (r.handOut i f) (r'.handOut j f) := by
  unfold Relay.handOut
  rw [h.registry]
  split
  · exact h.note rfl
  · exact h.dispatch _ rfl

theorem passOn (h : v.Alike pairs r r') (known : pairs i j) (f : Fetched) :
    v.Agree pairs (r.passOn i f) (r'.passOn j f) := by
  rw [passOn_eq, passOn_eq]
  have handed : v.Alike pairs ((r.moveCursor f).handOut i f) ((r'.moveCursor f).handOut j f) :=
    (h.moveCursor f).handOut f
  exact ⟨rfl, handed.setWork (handed.pairs known) rfl rfl rfl⟩

theorem pauseAfter (h : v.Alike pairs r r') (known : pairs i j) (failures : Nat) (token : TokenId)
    (fault : FetchFault) :
    v.Agree pairs (r.pauseAfter i failures token fault) (r'.pauseAfter j failures token fault) := by
  have delay : r.settings.backoff.delay? failures (r.surroundings.draw r.draws) =
      r'.settings.backoff.delay? failures (r'.surroundings.draw r'.draws) :=
    h.seen (fun r => r.settings.backoff.delay? failures (r.surroundings.draw r.draws)) fun _ => rfl
  have now : r.now = r'.now := h.seen Relay.now fun _ => rfl
  unfold Relay.pauseAfter
  rw [delay]
  split
  · exact h.finish known .panicked
  · rename_i delay _
    have drawn : v.Alike pairs { r with draws := r.draws + 1 } { r' with draws := r'.draws + 1 } :=
      h.reframe (congrArg (fun r : Relay σ => { r with draws := r.draws + 1 }) h.frame) rfl rfl
    have told : v.sight? (.fetchFailed i r.sourceName fault (min (failures + 1) maxFailures) delay) =
        v.sight? (.fetchFailed j r'.sourceName fault (min (failures + 1) maxFailures) delay) := rfl
    have work : Work.poller (min (failures + 1) maxFailures) (.pausing token (r.now + delay.nanos)) =
        .poller (min (failures + 1) maxFailures) (.pausing token (r'.now + delay.nanos)) := by rw [now]
    exact ⟨rfl, (drawn.note told).setWork (h.pairs known) rfl rfl work⟩

theorem takeFault (h : v.Alike pairs r r') (known : pairs i j) (failures : Nat) (token : TokenId)
    (fault : FetchFault) :
    v.Agree pairs (r.takeFault i failures token fault) (r'.takeFault j failures token fault) := by
  unfold Relay.takeFault
  split
  · exact h.pauseAfter known failures token fault
  · have missed : v.sight? (.nothingFetched fault) = v.sight? (.nothingFetched fault) := rfl
    exact ⟨rfl, (h.note missed).setWork (h.pairs known) rfl rfl rfl⟩

theorem takeResult (h : v.Alike pairs r r') (known : pairs i j) (failures : Nat) (token : TokenId)
    (result : FetchResult) :
    v.Agree pairs (r.takeResult i failures token result) (r'.takeResult j failures token result) := by
  have told : v.sight? (.resultTaken i result) = v.sight? (.resultTaken j result) := by cases result <;> rfl
  have noted := h.note told
  have empty : r.registry.isEmpty = r'.registry.isEmpty := by rw [h.registry]
  unfold Relay.takeResult
  rw [h.hasController, empty]
  split
  · exact h.finish known .finished
  · split
    · exact h.exitPoller known
    · cases result with
      | fetched f => exact noted.passOn known f
      | failed fault => exact noted.takeFault known failures token fault
      | panicked message => exact noted.takeFault known failures token _

theorem restTurn (h : v.Alike pairs r r') (known : pairs i j) (failures : Nat) (token : TokenId) (deadline : Nat) :
    v.Agree pairs (r.pollerTurn i failures (.pausing token deadline))
      (r'.pollerTurn j failures (.pausing token deadline)) := by
  have now : r.now = r'.now := h.seen Relay.now fun _ => rfl
  simp only [Relay.pollerTurn, h.isCancelled, now]
  split
  · exact ⟨rfl, h.setWork (h.pairs known) rfl rfl rfl⟩
  · exact ⟨rfl, h⟩

/-- A task and its twin take a turn, if they do so as pollers. -/
theorem turn (h : v.Alike pairs r r') (known : pairs i j) {t t' : Task} (ht : r.tasks.get? i = some t)
    (ht' : r'.tasks.get? j = some t') (poller : ∀ f p f' p', t.work = .poller f p → t'.work = .poller f' p' →
      v.Agree pairs (r.pollerTurn i f p) (r'.pollerTurn j f' p')) :
    v.Agree pairs (r.turn i t.work) (r'.turn j t'.work) := by
  have work := (h.row (h.pairs known) ht ht').1
  have shown := (h.pairs known).shown ht
  generalize hw : t.work = w at work shown poller ⊢
  generalize hw' : t'.work = w' at work poller ⊢
  cases same_work work with
  | poller f f' p p' => exact poller f p f' p' rfl rfl
  | worker sub stage stage' => exact h.workerTurn known (by simpa [shows] using shown) work
  | firing event targets => exact h.firingTurn known event targets

/-- A task and its twin can both run, or neither can, if that holds of pollers. -/
theorem isRunnable (h : v.Alike pairs r r') (twins : v.Twins r r' i j) {t t' : Task} (ht : r.tasks.get? i = some t)
    (ht' : r'.tasks.get? j = some t') (poller : ∀ f p f' p', t.work = .poller f p → t'.work = .poller f' p' →
      r.isRunnable t = r'.isRunnable t') : r.isRunnable t = r'.isRunnable t' := by
  obtain ⟨work, ending⟩ := h.row twins ht ht'
  have shown := twins.shown ht
  obtain ⟨name, w, e⟩ := t
  obtain ⟨name', w', e'⟩ := t'
  cases ending
  cases same_work work with
  | poller f f' p p' => exact poller f p f' p' rfl rfl
  | firing => rfl
  | worker sub stage stage' =>
    cases stage with
    | idle =>
      cases stage' with
      | idle => rfl
      | inside => simp [Vantage.work] at work
    | inside d =>
      cases stage' with
      | idle => simp [Vantage.work] at work
      | inside d' =>
        have seen : v.hides sub = false := by simpa [shows] using shown
        exact congrArg (fun n => !Option.isSome e && n != 0) (h.permitsOf seen)

theorem leaveHandler_right (h : v.Alike pairs r r') {sub : SubId} (hides : v.hides sub = true) {t : Task}
    (ht : r'.tasks.get? j = some t) (unseen : v.shows t.work = false) (d : Delivery) (panic : Option String) :
    v.Alike pairs r (r'.leaveHandler j sub d panic).2 := by
  have idle : v.shows (.worker sub .idle) = false := by simp [shows, hides]
  cases panic with
  | none =>
    have counted := h.update_right (g := Subscriber.countDelivered) hides fun _ quiet => quiet
    have told := counted.note_right (o := .completed (r'.party sub) d) (by simp [sight?, Relay.party, hides])
    exact told.updateTask_right ht unseen idle
  | some message =>
    have counted := h.update_right (g := Subscriber.countPanicked) hides fun _ quiet => quiet
    have told := counted.note_right (o := .handlerPanicked (r'.party sub) d message) rfl
    exact told.updateTask_right ht unseen idle

theorem passGate_right (h : v.Alike pairs r r') {sub : SubId} (hides : v.hides sub = true) {t : Task}
    (ht : r'.tasks.get? j = some t) (unseen : v.shows t.work = false) (d : Delivery) (conduct : Conduct) :
    v.Alike pairs r (r'.passGate j sub d conduct).2 := by
  unfold Relay.passGate
  split
  · exact h.leaveHandler_right hides ht unseen d _
  · split
    · exact h.updateTask_right ht unseen (by simp [shows, hides])
    · have used := h.update_right (g := fun s => { s with permits := s.permits - 1 }) hides fun _ quiet => quiet
      exact used.leaveHandler_right hides ht unseen d _

theorem enterHandler_right (h : v.Alike pairs r r') {sub : SubId} (hides : v.hides sub = true) {t : Task}
    (ht : r'.tasks.get? j = some t) (unseen : v.shows t.work = false) {s : Subscriber} (quiet : s.reactions = [])
    (d : Delivery) : v.Alike pairs r (r'.enterHandler j sub s d).2 := by
  have told := h.note_right (o := .entered (r'.party sub) d) (by simp [sight?, Relay.party, hides])
  have spent := told.update_right (g := (·.spend d.event.name)) hides fun _ quiet => by simp [Subscriber.spend, quiet]
  have logged := spent.note_right (o := .written d.event) rfl
  have due : s.due d.event.name = [] := by simp [Subscriber.due, quiet]
  unfold Relay.enterHandler
  rw [due]
  dsimp only [Relay.react, List.foldl_nil]
  cases s.handler.writesLog with
  | true =>
    cases (s.handler.conduct d.event).early with
    | some message => exact logged.leaveHandler_right hides ht unseen d _
    | none => exact logged.passGate_right hides ht unseen d _
  | false =>
    cases (s.handler.conduct d.event).early with
    | some message => exact spent.leaveHandler_right hides ht unseen d _
    | none => exact spent.passGate_right hides ht unseen d _

/-- A worker that is hidden takes its turns alone. -/
theorem workerTurn_right (h : v.Alike pairs r r') {sub : SubId} (hides : v.hides sub = true) {t : Task}
    (ht : r'.tasks.get? j = some t) (unseen : v.shows t.work = false) (stage : WorkerStage) :
    v.Alike pairs r (r'.workerTurn j sub stage).2 := by
  rcases h.subscriber sub with ⟨-, hn⟩ | ⟨_, s, -, hs, peers⟩
  · simp only [Relay.workerTurn, hn]
    exact h.updateTask_right ht unseen unseen
  · cases stage with
    | inside d =>
      simp only [Relay.workerTurn, hs]
      exact h.passGate_right hides ht unseen d _
    | idle =>
      cases queue : s.pending with
      | nil =>
        simp only [Relay.workerTurn, hs, queue]
        have left := h.update_right (g := fun s => { s with worker := none }) hides fun _ quiet => quiet
        exact left.updateTask_right ht unseen unseen
      | cons d rest =>
        simp only [Relay.workerTurn, hs, queue]
        have taken := h.update_right (g := fun s => { s with pending := rest }) hides fun _ quiet => quiet
        exact taken.enterHandler_right hides ht unseen (peers.quiet hides).2 d

theorem afterFetch (h : v.Alike pairs r r') (known : pairs i j) (failures : Nat) (token : TokenId)
    (answer : FetchReply × σ) :
    v.Agree pairs (r.afterFetch i failures token answer) (r'.afterFetch j failures token answer) := by
  obtain ⟨reply, source⟩ := answer
  have told : v.Alike pairs { r with source } { r' with source } := h.withSource rfl
  cases reply with
  | ready result => exact told.takeResult known failures token result
  | pending ticket => exact ⟨rfl, told.setWork (h.pairs known) rfl rfl rfl⟩

section Clear

variable (clear : ∀ s, v.mask s = s)
include clear

theorem sameSource (h : v.Alike pairs r r') : r.source = r'.source := by
  have same := h.source
  rwa [clear, clear] at same

theorem beginFetch (h : v.Alike pairs r r') (known : pairs i j) (failures : Nat) (token : TokenId) :
    v.Agree pairs (r.beginFetch i failures token) (r'.beginFetch j failures token) := by
  have answer : EventSource.fetch r.source r.cursor = EventSource.fetch r'.source r'.cursor := by
    rw [h.sameSource clear, h.cursor]
  have began : v.Alike pairs (r.note (.fetchStarted i r.cursor)) (r'.note (.fetchStarted j r'.cursor)) := by
    refine h.note ?_
    rw [h.cursor]
    rfl
  unfold Relay.beginFetch
  rw [h.isCancelled]
  split
  · exact h.takeResult known failures token (.failed .interrupted)
  · change v.Agree pairs (Relay.afterFetch _ i failures token (EventSource.fetch r.source r.cursor))
      (Relay.afterFetch _ j failures token (EventSource.fetch r'.source r'.cursor))
    rw [answer]
    exact began.afterFetch known failures token _

theorem prepareFetch (h : v.Alike pairs r r') (known : pairs i j) (failures : Nat) :
    v.Agree pairs (r.prepareFetch i failures) (r'.prepareFetch j failures) := by
  have empty : r.registry.isEmpty = r'.registry.isEmpty := by rw [h.registry]
  unfold Relay.prepareFetch
  rw [h.hasController, empty]
  split
  · exact h.finish known .finished
  · split
    · exact h.exitPoller known
    · rcases h.slots with ⟨hn, hn'⟩ | ⟨s, s', hs, hs', token, -⟩
      · rw [hn, hn']
        exact h.finish known .finished
      · rw [hs, hs']
        dsimp only
        rw [token]
        exact h.beginFetch clear known failures s'.token

variable (watches : v.watchesFetches = true)
include watches

theorem isRunnable_of_clear (h : v.Alike pairs r r') (twins : v.Twins r r' i j) {t t' : Task}
    (ht : r.tasks.get? i = some t) (ht' : r'.tasks.get? j = some t') : r.isRunnable t = r'.isRunnable t' := by
  refine h.isRunnable twins ht ht' fun f p f' p' hw hw' => ?_
  obtain ⟨work, ending⟩ := h.row twins ht ht'
  have now : r.now = r'.now := h.seen Relay.now fun _ => rfl
  rw [hw, hw', work_poller watches, work_poller watches] at work
  simp only [Relay.isRunnable, Task.hasEnded, hw, hw', work, ending, h.isCancelled, h.sameSource clear, now]
  cases p' <;> rfl

theorem resumeFetch (h : v.Alike pairs r r') (known : pairs i j) (failures : Nat) (token : TokenId) (ticket : Ticket) :
    v.Agree pairs (r.resumeFetch i failures token ticket) (r'.resumeFetch j failures token ticket) := by
  have source := h.sameSource clear
  have choices : r.choices = r'.choices := by simpa [Vantage.frame, watches] using congrArg Relay.choices h.frame
  have arrival : r.surroundings.arrivalFirst r.choices = r'.surroundings.arrivalFirst r'.choices := by
    rw [h.surroundings, choices]
  have chosen : v.Alike pairs { r with choices := r.choices + 1 } { r' with choices := r'.choices + 1 } := by
    refine h.reframe ?_ rfl rfl
    change { v.frame r with choices := if v.watchesFetches then r.choices + 1 else 0 } =
      { v.frame r' with choices := if v.watchesFetches then r'.choices + 1 else 0 }
    rw [h.frame, choices]
  unfold Relay.resumeFetch
  rw [h.isCancelled, source, arrival]
  split
  · exact (h.withSource rfl).takeResult known failures token (.failed .interrupted)
  · split
    · exact chosen.afterFetch known failures token _
    · exact ⟨rfl, h⟩

theorem pollerTurn (h : v.Alike pairs r r') (known : pairs i j) {f f' : Nat} {p p' : PollerStage}
    (same : v.work (.poller f p) = v.work (.poller f' p')) :
    v.Agree pairs (r.pollerTurn i f p) (r'.pollerTurn j f' p') := by
  rw [work_poller watches, work_poller watches] at same
  cases same
  cases p with
  | ready => exact h.prepareFetch clear known f
  | fetching token ticket => exact h.resumeFetch clear watches known f token ticket
  | pausing token deadline => exact h.restTurn known f token deadline

end Clear

end Alike

end Vantage

end EventRelay
