import EventRelay.Proofs.Frame
import Mathlib.Logic.Relation

namespace EventRelay

/-- Facts that only report what has been done already. -/
def Occurrence.isRemark : Occurrence → Bool
  | .subscriberRemoved .. | .subscribersRemoved .. | .reacted .. | .written _ => true
  | _ => false

/-- One of `n` subscribers was put on a registry, or somebody was taken off it. -/
inductive Registry.Altered (registry : Registry) (n : Nat) : Registry → Prop
  | insert (name : String) {sub : SubId} (known : sub < n) : Altered registry n (registry.insert name sub).2
  | remove (name : String) (sub : SubId) : Altered registry n (registry.remove name sub).2
  | removeName (name : String) : Altered registry n (registry.removeName name).2
  | clear : Altered registry n registry.clear.2

/-- What an observer does to a bus: it comes, asks, or leaves. -/
inductive Bus.Observed (b : Bus) : Bus → Prop
  | subscribe (key : String) : Observed b (b.subscribe key)
  | receive (key : String) : Observed b (b.receive key).2
  | unsubscribe (key : String) : Observed b (b.unsubscribe key)

namespace Relay

variable {σ : Type}

/-- The registry was changed, and this was reported if somebody was added. -/
inductive Changed (r : Relay σ) (registry : Registry) : Relay σ → Prop
  | silent : Changed r registry (r.withRegistry registry)
  | told (name : String) (party : Party) :
      Changed r registry ((r.withRegistry registry).note (.subscriberAdded name party))

theorem Changed.aside {r r' : Relay σ} {registry : Registry} (h : r.Changed registry r') :
    Aside { r with registry } r' := by
  cases h with
  | silent => exact withRegistry_aside r registry
  | told => exact (withRegistry_aside r registry).trans (note_aside _ _)

theorem Changed.grown {r r' : Relay σ} {registry : Registry} (h : r.Changed registry r') : r.Grown r' :=
  ⟨h.aside.rows, h.aside.past⟩

theorem hasSubscriber_lt {r : Relay σ} {sub : SubId} (h : r.hasSubscriber sub = true) : sub < r.subscribers.size := by
  obtain ⟨s, hs⟩ := Option.isSome_iff_exists.mp h
  exact Table.lt_of_get? hs

/-- The one step of a task that hands a fired event over. -/
def firingTurn (r : Relay σ) (id : TaskId) (event : Event) (targets : List SubId) : Relay σ :=
  ((r.dispatch targets ⟨event, id⟩).finish id .finished).2

variable [EventSource σ]

/-- The poller is told to stop, and nobody knows of it any more. -/
def abandonPoller (r : Relay σ) : Relay σ :=
  match r.slot with
  | none => r
  | some s => ({ r with slot := none }.cancelToken s.token).interruptSource .controller

/-- What is left when the last handle is gone, before anything pending is discarded. -/
def letGo (r : Relay σ) : Relay σ := r.abandonPoller.withRegistry r.registry.clear.2

/-- What a request, a client or an observer does at one go. -/
inductive Deed : Relay σ → Relay σ → Prop
  | told {r : Relay σ} (o : Occurrence) (remark : o.isRemark = true) : Deed r (r.note o)
  | aligned {r r' : Relay σ} {registry : Registry} (controller : r.hasController = true)
      (altered : r.registry.Altered r.subscribers.size registry) (changed : r.Changed registry r') :
      Deed r r'.followRegistry
  | discarded {r : Relay σ} (reason : DiscardReason) (sub : SubId) : Deed r (r.discardPending reason sub)
  | fired {r : Relay σ} (event : Event) (controller : r.hasController = true) : Deed r (r.fireEvent event).2
  | posted {r r' : Relay σ} {event : Event} {index : Nat} (accepted : r.postToSource event = .ok (index, r')) :
      Deed r r'
  | interrupted {r : Relay σ} : Deed r (r.interruptSource .client)
  | closed {r : Relay σ} : Deed r { r with source := EventSource.close r.source }
  | pushed {r : Relay σ} (items : List FetchResult) :
      Deed r { r with source := EventSource.push r.source items }
  | permitted {r : Relay σ} (sub : SubId) (f : Nat → Nat) :
      Deed r (r.updateSubscriber sub (fun s => { s with permits := f s.permits }))
  | slept {r : Relay σ} (d : Duration) : Deed r (r.sleep d)
  | observed {r : Relay σ} {bus : Bus} (visit : r.bus.Observed bus) : Deed r (RelaySession.withBus r bus)
  | cloned {r : Relay σ} (controller : r.hasController = true) : Deed r { r with handles := r.handles + 1 }
  | dropped {r : Relay σ} (other : r.handles ≠ 1) : Deed r { r with handles := r.handles - 1 }
  | letGone {r : Relay σ} (last : r.handles = 1) : Deed r { r with handles := r.handles - 1 }.letGo

/-- A deed, or something that a worker does at one go. -/
inductive Act : Relay σ → Relay σ → Prop
  | deed {r r' : Relay σ} (h : Deed r r') : Act r r'
  | began {r : Relay σ} {id : TaskId} {sub : SubId} {s : Subscriber} {d : Delivery} {rest : List Delivery}
      (worker : r.WorkerAt id sub .idle) (found : r.subscribers.get? sub = some s) (head : s.pending = d :: rest) :
      Act r (r.beginHandling sub d rest)
  | left {r : Relay σ} {id : TaskId} {sub : SubId} {stage : WorkerStage} (worker : r.WorkerAt id sub stage)
      (d : Delivery) (panic : Option String) : Act r (r.leaveHandler id sub d panic).2
  | waited {r : Relay σ} {id : TaskId} {sub : SubId} {stage : WorkerStage} (worker : r.WorkerAt id sub stage)
      (d : Delivery) : Act r (r.setWork id (.worker sub (.inside d)))
  | retired {r : Relay σ} {id : TaskId} {sub : SubId} {s : Subscriber} (worker : r.WorkerAt id sub .idle)
      (found : r.subscribers.get? sub = some s) (done : s.pending = []) :
      Act r ((r.updateSubscriber sub (fun s => { s with worker := none })).endTask id .finished)
  | orphaned {r : Relay σ} {id : TaskId} {sub : SubId} {stage : WorkerStage} (worker : r.WorkerAt id sub stage)
      (absent : r.subscribers.get? sub = none) : Act r (r.endTask id .finished)

abbrev Deeds : Relay σ → Relay σ → Prop := Relation.ReflTransGen Deed

abbrev Acts : Relay σ → Relay σ → Prop := Relation.ReflTransGen Act

theorem Deeds.acts {r r' : Relay σ} (h : Deeds r r') : Acts r r' := by
  induction h with
  | refl => exact .refl
  | tail _ hd ih => exact ih.tail (.deed hd)

theorem discardAll_deeds (r : Relay σ) (reason : DiscardReason) (subs : List SubId) :
    Deeds r (r.discardAll reason subs) := by
  induction subs generalizing r with
  | nil => exact .refl
  | cons sub rest ih => exact .head (.discarded reason sub) (ih _)

theorem discardEnrolments_deeds (r : Relay σ) (enrolments : List Enrolment) :
    Deeds r (r.discardEnrolments enrolments) := by
  induction enrolments generalizing r with
  | nil => exact .refl
  | cons e rest ih => exact (discardAll_deeds r _ e.2).trans (ih _)

theorem addSubscriber_deed {r : Relay σ} (hc : r.hasController = true) (name : String) {sub : SubId}
    (hs : r.hasSubscriber sub = true) : Deed r (r.addSubscriber name sub) := by
  have altered : r.registry.Altered r.subscribers.size (r.registry.insert name sub).2 :=
    .insert name (hasSubscriber_lt hs)
  unfold addSubscriber
  dsimp only
  split
  · exact .aligned hc altered (.told name _)
  · exact .aligned hc altered .silent

theorem removeSubscriber_deeds {r : Relay σ} (hc : r.hasController = true) (name : String) (sub : SubId) :
    Deeds r (r.removeSubscriber name sub).2 := by
  have h : Deeds r (r.withRegistry (r.registry.remove name sub).2).followRegistry :=
    .single (.aligned hc (.remove name sub) .silent)
  unfold removeSubscriber
  dsimp only
  split
  · exact (h.tail (.discarded _ sub)).tail (.told _ rfl)
  · exact h

theorem removeSubscribers_deeds {r : Relay σ} (hc : r.hasController = true) (name : String) :
    Deeds r (r.removeSubscribers name).2 := by
  have h : Deeds r (r.withRegistry (r.registry.removeName name).2).followRegistry :=
    .single (.aligned hc (.removeName name) .silent)
  unfold removeSubscribers
  dsimp only
  split
  · exact h.trans (discardAll_deeds _ _ _)
  · exact (h.trans (discardAll_deeds _ _ _)).tail (.told _ rfl)

theorem shutdown_deeds {r : Relay σ} (hc : r.hasController = true) : Deeds r r.shutdown.2 :=
  .head (.aligned hc .clear .silent) (discardEnrolments_deeds _ _)

theorem postToSource_deeds {r : Relay σ} {event : Event} {index : Nat} {r' : Relay σ}
    (h : r.postToSource event = .ok (index, r')) : Deeds r r' :=
  .single (.posted h)

theorem carryOut_deeds {r : Relay σ} (hc : r.hasController = true) (c : Call) : Deeds r (r.carryOut c).2 := by
  cases c with
  | add name sub =>
    simp only [carryOut]
    split
    · rename_i hs
      exact .single (addSubscriber_deed hc name hs)
    · exact .refl
  | remove name sub => exact removeSubscriber_deeds hc name sub
  | removeName name => exact removeSubscribers_deeds hc name
  | fire event => exact .single (.fired event hc)
  | post event =>
    simp only [carryOut]
    split
    · exact .refl
    · rename_i h
      exact postToSource_deeds h
  | shutdown => exact shutdown_deeds hc
  | count _ | settings | sourceName => exact .refl

/-- Whatever is asked for is done in deeds. -/
theorem perform_deeds (r : Relay σ) (c : Command) : Deeds r (r.perform c).2 := by
  cases c with
  | call c =>
    simp only [perform, call]
    split
    · exact .refl
    · rename_i hc
      split
      · exact .refl
      · exact carryOut_deeds (by simpa using hc) c
  | postToSource event =>
    simp only [perform]
    split
    · exact .refl
    · rename_i h
      exact postToSource_deeds h
  | interruptSource => exact .single .interrupted
  | closeSource => exact .single .closed
  | pushToSource items => exact .single (.pushed items)
  | grant sub permits => exact .single (.permitted sub (· + permits))
  | inspect _ | describe _ => exact .refl

theorem react_deeds (r : Relay σ) (sub : SubId) (commands : List Command) :
    Deeds r (r.react sub commands) := by
  induction commands generalizing r with
  | nil => exact .refl
  | cons c rest ih => exact ((perform_deeds r c).tail (.told _ rfl)).trans (ih _)

theorem dropHandle_deeds (r : Relay σ) : Deeds r r.dropHandle := by
  unfold dropHandle
  dsimp only
  split
  · rename_i h
    exact .head (.letGone h) (discardAll_deeds _ _ _)
  · rename_i h
    exact .single (.dropped h)

theorem reclaim_grown (r : Relay σ) : r.Grown r.reclaim := by
  unfold reclaim
  split
  · exact .refl r
  · split
    · have h : r.Grown ({ r with slot := none }.note (.pollerReclaimed r.sourceName)) :=
        ⟨fun _ _ h => h, List.suffix_cons _ _⟩
      dsimp only
      split
      · exact h.trans (resetCursor_grown _)
      · exact h
    · exact .refl r

theorem startPoller_grown (r : Relay σ) : r.Grown r.startPoller := by
  refine ⟨fun id t ht => ?_, ?_⟩
  · exact (spawn_grown { r with } _ _).rows id t ht
  · exact (List.suffix_cons _ _).trans (List.suffix_cons _ _)

theorem alignPoller_grown (r : Relay σ) : r.Grown r.alignPoller := by
  unfold alignPoller
  split
  · exact .refl r
  · exact startPoller_grown r
  · split
    · exact .refl r
    · exact ⟨fun _ _ h => h, (List.suffix_cons _ _).trans (List.suffix_cons _ _)⟩
  · split
    · exact ⟨fun _ _ h => h, List.suffix_cons _ _⟩
    · exact .refl r

theorem followRegistry_grown (r : Relay σ) : r.Grown r.followRegistry :=
  (reclaim_grown r).trans (alignPoller_grown _)

theorem letGo_grown (r : Relay σ) : r.Grown r.letGo := by
  have stopped : r.Grown r.abandonPoller := by
    unfold abandonPoller
    split
    · exact .refl r
    · exact ⟨fun _ _ h => h, List.suffix_cons _ _⟩
  have emptied : r.abandonPoller.Changed r.registry.clear.2 r.letGo := .silent
  exact stopped.trans emptied.grown

/-- An accepted event is in the source, under the index that was answered. -/
theorem postToSource_ok {r r' : Relay σ} {event : Event} {index : Nat}
    (h : r.postToSource event = .ok (index, r')) : ∃ source,
    EventSource.post r.source r.readClock.1 event = .ok (index, source) ∧
    r' = { r.readClock.2 with source }.note (.posted index r.readClock.1 event) := by
  unfold postToSource at h
  dsimp only at h
  split at h
  · contradiction
  · rename_i source hp
    cases h
    exact ⟨source, hp, rfl⟩

theorem Deed.grown {r r' : Relay σ} (h : Deed r r') : r.Grown r' := by
  cases h with
  | told o _ => exact (note_aside r o).toGrown
  | aligned _ _ changed => exact changed.grown.trans (followRegistry_grown _)
  | discarded reason sub => exact (discardPending_aside r reason sub).toGrown
  | fired event _ => exact (fireEvent_aside r event).toGrown
  | posted h =>
    obtain ⟨source, -, rfl⟩ := postToSource_ok h
    exact ⟨fun _ _ h => h, List.suffix_cons _ _⟩
  | interrupted => exact ⟨fun _ _ h => h, List.suffix_cons _ _⟩
  | permitted sub f => exact (updateSubscriber_aside r sub _).toGrown
  | letGone last =>
    have h : r.Grown { r with handles := r.handles - 1 } := ⟨fun _ _ h => h, List.suffix_refl _⟩
    exact h.trans (letGo_grown _)
  | closed | pushed | slept | observed | cloned | dropped => exact ⟨fun _ _ h => h, List.suffix_refl _⟩

theorem Deeds.grown {r r' : Relay σ} (h : Deeds r r') : r.Grown r' := by
  induction h with
  | refl => exact .refl r
  | tail _ hd ih => exact ih.trans hd.grown

/-- What a worker does leaves the controller and the source alone. -/
theorem Act.still {r r' : Relay σ} (h : Act r r') : Deed r r' ∨ r.Still r' := by
  cases h with
  | deed h => exact .inl h
  | began _ _ _ => exact .inr (beginHandling_aside r _ _ _).toStill
  | left worker d panic => exact .inr (leaveHandler_still worker d panic)
  | waited worker d =>
    obtain ⟨name, ht⟩ := worker
    exact .inr (updateTask_still ht rfl rfl)
  | @retired id sub _ worker _ _ =>
    obtain ⟨name, ht⟩ := worker
    have freed := updateSubscriber_aside r sub (fun s => { s with worker := none })
    exact .inr (freed.toStill.trans (updateTask_still (freed.rows id _ ht) rfl rfl))
  | orphaned worker _ =>
    obtain ⟨name, ht⟩ := worker
    exact .inr (updateTask_still ht rfl rfl)

theorem passGate_acts {r : Relay σ} {id : TaskId} {sub : SubId} {stage : WorkerStage}
    (h : r.WorkerAt id sub stage) (d : Delivery) (conduct : Conduct) :
    Acts r (r.passGate id sub d conduct).2 := by
  unfold passGate
  split
  · exact .single (.left h d conduct.late)
  · split
    · exact .single (.waited h d)
    · have worker := (updateSubscriber_aside r sub (fun s => { s with permits := s.permits - 1 })).workerAt h
      exact .head (.deed (.permitted sub (· - 1))) (.single (.left worker d conduct.late))

/-- A handler at work makes its requests, and then panics at once or comes to where it may wait. -/
theorem enterHandler_cases (r : Relay σ) (id : TaskId) (sub : SubId) (s : Subscriber) (d : Delivery)
    (rest : List Delivery) : ∃ r', Deeds (r.beginHandling sub d rest) r' ∧
      ((∃ message, (r.updateSubscriber sub (fun s => { s with pending := rest })).enterHandler id sub s d =
        r'.leaveHandler id sub d (some message)) ∨
      ∃ conduct, (r.updateSubscriber sub (fun s => { s with pending := rest })).enterHandler id sub s d =
        r'.passGate id sub d conduct) := by
  have reacted := react_deeds (r.beginHandling sub d rest) sub (s.due d.event.name)
  have written : ∀ r : Relay σ, Deeds r (if s.handler.writesLog then r.note (.written d.event) else r) := by
    intro r
    split
    · exact .single (.told _ rfl)
    · exact .refl
  refine ⟨_, reacted.trans (written _), ?_⟩
  unfold enterHandler
  dsimp only
  cases (s.handler.conduct d.event).early with
  | some message => exact .inl ⟨message, rfl⟩
  | none => exact .inr ⟨_, rfl⟩

/-- A handler at work makes its requests before anything else happens to its worker. -/
theorem enterHandler_acts {r : Relay σ} {id : TaskId} {sub : SubId} {s : Subscriber} {d : Delivery}
    {rest : List Delivery} (h : r.WorkerAt id sub .idle) (found : r.subscribers.get? sub = some s)
    (head : s.pending = d :: rest) :
    Acts r ((r.updateSubscriber sub (fun s => { s with pending := rest })).enterHandler id sub s d).2 := by
  have began : Acts r (r.beginHandling sub d rest) := .single (.began h found head)
  obtain ⟨r', before, after⟩ := enterHandler_cases r id sub s d rest
  have worker := before.grown.workerAt ((beginHandling_aside r sub d rest).workerAt h)
  refine (began.trans (Deeds.acts before)).trans ?_
  rcases after with ⟨message, he⟩ | ⟨conduct, he⟩
  · rw [he]
    exact .single (.left worker d (some message))
  · rw [he]
    exact passGate_acts worker d conduct

/-- A worker takes its steps in acts. -/
theorem workerTurn_acts {r : Relay σ} {id : TaskId} {sub : SubId} {stage : WorkerStage}
    (h : r.WorkerAt id sub stage) : Acts r (r.workerTurn id sub stage).2 := by
  unfold workerTurn
  split
  · rename_i absent
    exact .single (.orphaned h absent)
  · rename_i s found
    cases stage with
    | inside d => exact passGate_acts h d _
    | idle =>
      dsimp only
      split
      · rename_i done
        exact .single (.retired h found done)
      · rename_i d rest head
        exact enterHandler_acts h found head

/-- A move is a chain of deeds, or the step of a task that has not ended. -/
theorem move_deeds_or_turn (r : Relay σ) (m : Move) :
    Deeds r (r.move m) ∨
    ∃ id name work, m = .turn id ∧ r.tasks.get? id = some ⟨name, work, none⟩ ∧ r.move m = (r.turn id work).2 := by
  cases m with
  | request c => exact .inl (perform_deeds r c)
  | sleep d => exact .inl (.single (.slept d))
  | cloneHandle =>
    left
    simp only [move, cloneHandle]
    split
    · rename_i hc
      exact .single (.cloned hc)
    · exact .refl
  | dropHandle => exact .inl (dropHandle_deeds r)
  | subscribe key => exact .inl (.single (.observed (.subscribe key)))
  | receive key => exact .inl (.single (.observed (.receive key)))
  | unsubscribe key => exact .inl (.single (.observed (.unsubscribe key)))
  | turn id =>
    simp only [move, advance]
    cases ht : r.tasks.get? id with
    | none => exact .inl .refl
    | some t =>
      obtain ⟨name, work, ending⟩ := t
      cases ending with
      | some ending => exact .inl .refl
      | none => exact .inr ⟨id, name, work, rfl, ht, rfl⟩

/-- A move is a chain of acts, or the step of a poller, or the step of a one-time task. -/
theorem move_cases (r : Relay σ) (m : Move) :
    Acts r (r.move m) ∨
    (∃ id failures stage, m = .turn id ∧ r.PollerAt id failures stage ∧
      r.move m = (r.pollerTurn id failures stage).2) ∨
    ∃ id event targets, m = .turn id ∧ r.FiringAt id event targets ∧
      r.move m = r.firingTurn id event targets := by
  rcases move_deeds_or_turn r m with deeds | ⟨id, name, work, hm, ht, he⟩
  · exact .inl deeds.acts
  · cases work with
    | worker sub stage =>
      left
      rw [he]
      exact workerTurn_acts ⟨name, ht⟩
    | poller failures stage => exact .inr (.inl ⟨id, failures, stage, hm, ⟨name, ht⟩, he⟩)
    | firing event targets => exact .inr (.inr ⟨id, event, targets, hm, ⟨name, ht⟩, he⟩)

/-- What is kept by every act, by the poller and by the one-time tasks. -/
structure Invariant (P : Relay σ → Prop) : Prop where
  act : ∀ {r r' : Relay σ}, Act r r' → P r → P r'
  poller : ∀ {r : Relay σ} {id : TaskId} {failures : Nat} {stage : PollerStage},
    r.PollerAt id failures stage → P r → P (r.pollerTurn id failures stage).2
  firing : ∀ {r : Relay σ} {id : TaskId} {event : Event} {targets : List SubId},
    r.FiringAt id event targets → P r → P (r.firingTurn id event targets)

theorem Invariant.acts {P : Relay σ → Prop} (h : Invariant P) {r r' : Relay σ} (ha : Acts r r') (hr : P r) :
    P r' := by
  induction ha with
  | refl => exact hr
  | tail _ act ih => exact h.act act ih

theorem Invariant.move {P : Relay σ → Prop} (h : Invariant P) (r : Relay σ) (m : Move) (hr : P r) :
    P (r.move m) := by
  rcases move_cases r m with ha | ⟨id, failures, stage, -, hp, he⟩ | ⟨id, event, targets, -, hf, he⟩
  · exact h.acts ha hr
  · rw [he]
    exact h.poller hp hr
  · rw [he]
    exact h.firing hf hr

theorem Invariant.reachable {P : Relay σ → Prop} (h : Invariant P) {source : σ}
    (hstart : ∀ r, Created source r → P r) {r : Relay σ} (hr : Reachable source r) : P r :=
  hr.keeps hstart h.move

/-- An invariant is seen to hold even by handlers at work. -/
theorem Invariant.seen {P : Relay σ → Prop} (h : Invariant P) {source : σ}
    (hstart : ∀ r, Created source r → P r) {r : Relay σ} (hr : Seen source r) : P r := by
  cases hr with
  | between hr => exact h.reachable hstart hr
  | inside hr worker found head made =>
    have began := h.act (.began worker found head) (h.reachable hstart hr)
    exact h.acts (react_deeds _ _ _).acts began

end Relay

end EventRelay
