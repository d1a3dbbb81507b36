import EventRelay.Proofs.Facts
import EventRelay.Proofs.Receiving

namespace EventRelay

namespace Bus

theorem gather_concat {α : Type} (pick : BusStep → BusAnswer → Option α) (b : Bus) (steps : List BusStep)
    (x : BusStep) :
    b.gather pick (steps ++ [x]) = b.gather pick steps ++ (pick x ((b.after steps).step x).1).toList := by
  induction steps generalizing b with
  | nil => simp [gather, after]
  | cons y rest ih =>
    simp only [List.cons_append, gather, ih, List.append_assoc]
    rfl

/-- A bus of that capacity went through a session in which just these notices were published, in this order and numbered
from zero. What it retains is among them, and it has one handle. -/
structure Carries (capacity : Nat) (b : Bus) (bodies : List NoticeBody) : Prop where
  handles : b.handles = 1
  numbered : b.numbered = bodies.length
  retained : ∀ n ∈ b.retained, bodies[n.seq]? = some n.body
  session : ∃ start steps, create? capacity = some start ∧ b = start.after steps ∧
    start.gather BusStep.notice? steps = bodies.mapIdx Notice.mk

variable {capacity : Nat} {b b' : Bus} {bodies : List NoticeBody}

theorem create?_carries (h : create? capacity = some b) : b.Carries capacity [] := by
  have made := h
  simp only [create?, Option.ite_none_left_eq_some, Option.some.injEq] at made
  obtain ⟨-, rfl⟩ := made
  exact ⟨rfl, rfl, fun _ hn => absurd hn List.not_mem_nil, _, [], h, rfl, rfl⟩

theorem publish_retained {body : NoticeBody} {n : Notice} (h : n ∈ (b.publish body).retained) :
    n ∈ b.retained ∨ n = ⟨b.numbered, body⟩ := by
  rw [publish_eq] at h
  split at h
  · exact .inl h
  · exact (List.mem_append.mp (List.mem_of_mem_drop h)).imp_right List.mem_singleton.mp

theorem Carries.publish (h : b.Carries capacity bodies) (body : NoticeBody) :
    (b.publish body).Carries capacity (bodies ++ [body]) := by
  have effect : (b.publish body).handles = b.handles ∧ (b.publish body).numbered = b.numbered + 1 := by
    rw [publish_eq]
    split <;> exact ⟨rfl, rfl⟩
  have kept : ∀ n ∈ (b.publish body).retained, (bodies ++ [body])[n.seq]? = some n.body := by
    intro n hn
    rcases publish_retained hn with old | rfl
    · have there := h.retained n old
      rw [List.getElem?_append_left (List.getElem?_eq_some_iff.mp there).1, there]
    · simp [h.numbered]
  obtain ⟨start, steps, created, rfl, told⟩ := h.session
  refine ⟨effect.1.trans h.handles, ?_, kept, start, steps ++ [BusStep.publish body], created,
    (after_concat start steps (.publish body)).symm, ?_⟩
  · rw [effect.2, h.numbered, List.length_append, List.length_singleton]
  · have answer : ((start.after steps).step (.publish body)).1 = .seq bodies.length := by
      simp [Bus.step, h.handles, h.numbered]
    rw [gather_concat, told, answer, List.mapIdx_concat]
    rfl

/-- What observers do publishes nothing. -/
theorem Carries.observed (h : b.Carries capacity bodies) (visit : b.Observed b') : b'.Carries capacity bodies := by
  have visited : ∃ x, (∀ body, x ≠ BusStep.publish body) ∧ b' = (b.step x).2 ∧ b'.handles = b.handles := by
    cases visit with
    | subscribe key => exact ⟨.subscribe key, by simp, by simp [Bus.step, h.handles], rfl⟩
    | receive key =>
      refine ⟨.receive key, by simp, rfl, ?_⟩
      rcases receive_moves b key with he | ⟨next, he⟩ <;> rw [he]
      rfl
    | unsubscribe key => exact ⟨.unsubscribe key, by simp, rfl, rfl⟩
  obtain ⟨x, other, rfl, handles⟩ := visited
  obtain ⟨start, steps, created, rfl, told⟩ := h.session
  have same := step_sameWindow (start.after steps) other
  refine ⟨handles.trans h.handles, same.numbered.trans h.numbered, same.retained ▸ h.retained, start, steps ++ [x],
    created, (after_concat start steps x).symm, ?_⟩
  rw [gather_concat, told, notice?_of_ne other]
  exact List.append_nil _

theorem Carries.foldl_publish (h : b.Carries capacity bodies) (more : List NoticeBody) :
    (more.foldl Bus.publish b).Carries capacity (bodies ++ more) := by
  induction more generalizing b bodies with
  | nil => exact (List.append_nil bodies).symm ▸ h
  | cons body rest ih => exact List.append_cons bodies body rest ▸ ih (h.publish body)

end Bus

namespace Relay

variable {σ : Type}

/-- The notices published so far, in order. -/
def notices (r : Relay σ) : List NoticeBody := r.story.filterMap Occurrence.notice?

/-- The bus carries the notices of the facts, each under its number. -/
def Announced (r : Relay σ) : Prop := r.bus.Carries r.settings.busRoom r.notices

/-- The notices of the new facts were published, in order, and nothing else happened to the bus. -/
structure Airs (r r' : Relay σ) : Prop where
  settings : r'.settings = r.settings
  told : ∃ news, r'.past = news ++ r.past ∧
    r'.bus = (news.reverse.filterMap Occurrence.notice?).foldl Bus.publish r.bus

section Airing

variable {r r' r'' : Relay σ}

theorem Airs.announced (h : r.Airs r') (announced : r.Announced) : r'.Announced := by
  obtain ⟨settings, news, past, bus⟩ := h
  have notices : r'.notices = r.notices ++ news.reverse.filterMap Occurrence.notice? := by
    simp only [Relay.notices, story, past, List.reverse_append, List.filterMap_append]
  rw [Announced, bus, settings, notices]
  exact Bus.Carries.foldl_publish announced _

theorem Airs.nothing (settings : r'.settings = r.settings) (past : r'.past = r.past) (bus : r'.bus = r.bus) :
    r.Airs r' :=
  ⟨settings, [], past, bus⟩

theorem Airs.refl (r : Relay σ) : r.Airs r := .nothing rfl rfl rfl

theorem Airs.trans (h : r.Airs r') (h' : r'.Airs r'') : r.Airs r'' := by
  obtain ⟨settings, news, past, bus⟩ := h
  obtain ⟨settings', news', past', bus'⟩ := h'
  refine ⟨settings'.trans settings, news' ++ news, by rw [past', past, List.append_assoc], ?_⟩
  rw [bus', bus, List.reverse_append, List.filterMap_append, List.foldl_append]

/-- One fact was added, and nothing happened to the bus but what goes with it. -/
theorem Airs.one {o : Occurrence} (settings : r'.settings = r.settings) (past : r'.past = o :: r.past)
    (bus : r'.bus = (r.note o).bus) : r.Airs r' := by
  refine ⟨settings, [o], past, bus.trans ?_⟩
  cases told : o.notice? <;> simp [note, told]

theorem note_airs (r : Relay σ) (o : Occurrence) : r.Airs (r.note o) := .one rfl rfl rfl

end Airing

theorem spawn_airs (r : Relay σ) (name : String) (work : Work) : r.Airs (r.spawn name work).2 := .one rfl rfl rfl

theorem startWorker_airs (r : Relay σ) (sub : SubId) (s : Subscriber) : r.Airs (r.startWorker sub s) := by
  unfold startWorker
  split
  · exact .refl r
  · exact .one rfl rfl rfl

theorem handTo_airs (r : Relay σ) (sub : SubId) (d : Delivery) : r.Airs (r.handTo sub d) := by
  unfold handTo
  split
  · exact .refl r
  · split
    · exact .one rfl rfl rfl
    · have queued : r.Airs ((r.updateSubscriber sub (·.append d)).note (.queued (r.party sub) d)) := .one rfl rfl rfl
      exact queued.trans (startWorker_airs _ sub _)

theorem dispatch_airs (r : Relay σ) (targets : List SubId) (d : Delivery) : r.Airs (r.dispatch targets d) :=
  targets.foldlRecOn _ (.refl r) fun r' done sub _ => done.trans (handTo_airs r' sub d)

theorem discardPending_airs (r : Relay σ) (reason : DiscardReason) (sub : SubId) :
    r.Airs (r.discardPending reason sub) := by
  unfold discardPending
  split
  · exact .refl r
  · split
    · exact .refl r
    · exact .one rfl rfl rfl

theorem fireEvent_airs (r : Relay σ) (event : Event) : r.Airs (r.fireEvent event).2 := by
  unfold fireEvent
  dsimp only
  split
  · exact note_airs r _
  · exact (note_airs r _).trans (spawn_airs _ _ _)

theorem withRegistry_airs (r : Relay σ) (registry : Registry) : r.Airs (r.withRegistry registry) := by
  unfold withRegistry
  dsimp only
  split
  · exact .one rfl rfl rfl
  · exact .one rfl rfl rfl
  · exact .nothing rfl rfl rfl

theorem Changed.airs {r r' : Relay σ} {registry : Registry} (h : r.Changed registry r') : r.Airs r' := by
  cases h with
  | silent => exact withRegistry_airs r registry
  | told => exact (withRegistry_airs r registry).trans (note_airs _ _)

theorem leaveHandler_airs (r : Relay σ) (id : TaskId) (sub : SubId) (d : Delivery) (panic : Option String) :
    r.Airs (r.leaveHandler id sub d panic).2 := by
  cases panic with
  | none => exact .one rfl rfl rfl
  | some message => exact .one rfl rfl rfl

theorem firingTurn_airs (r : Relay σ) (id : TaskId) (event : Event) (targets : List SubId) :
    r.Airs (r.firingTurn id event targets) :=
  (dispatch_airs r targets ⟨event, id⟩).trans (.nothing rfl rfl rfl)

theorem moveCursor_airs (r : Relay σ) (f : Fetched) : r.Airs (r.moveCursor f) := by
  unfold moveCursor
  dsimp only
  split
  · exact .nothing rfl rfl rfl
  · exact .one rfl rfl rfl

theorem handOut_airs (r : Relay σ) (id : TaskId) (f : Fetched) : r.Airs (r.handOut id f) := by
  unfold handOut
  split
  · exact note_airs r _
  · exact dispatch_airs r _ _

theorem resetCursor_airs (r : Relay σ) : r.Airs r.resetCursor := .one rfl rfl rfl

variable [EventSource σ]

theorem vacate_airs (r : Relay σ) : r.Airs r.vacate := .one rfl rfl rfl

theorem exitPoller_airs (r : Relay σ) (id : TaskId) : r.Airs (r.exitPoller id).2 := by
  have reset : r.Airs { r with slot := none }.resetCursor := .one rfl rfl rfl
  exact reset.trans (.one rfl rfl rfl)

theorem pauseAfter_airs (r : Relay σ) (id : TaskId) (failures : Nat) (token : TokenId) (fault : FetchFault) :
    r.Airs (r.pauseAfter id failures token fault).2 := by
  unfold pauseAfter
  split
  · exact .nothing rfl rfl rfl
  · exact .one rfl rfl rfl

theorem Taken.airs {r : Relay σ} {id : TaskId} {failures : Nat} {token : TokenId} {result : FetchResult}
    {turn : Turn × Relay σ} (h : r.Taken id failures token result turn) : r.Airs turn.2 := by
  have taken := note_airs r (.resultTaken id result)
  cases h with
  | orphaned => exact .nothing rfl rfl rfl
  | exited => exact exitPoller_airs r id
  | @passed f =>
    have handed := (taken.trans (moveCursor_airs _ f)).trans (handOut_airs _ id f)
    exact handed.trans (.nothing rfl rfl rfl)
  | ignored => exact taken.trans (.one rfl rfl rfl)
  | failed => exact taken.trans (pauseAfter_airs _ id _ _ _)

theorem Consulted.airs {r r' : Relay σ} {id : TaskId} {stage : PollerStage} {token : TokenId} {reply : FetchReply}
    (h : r.Consulted id stage token reply r') : r.Airs r' := by
  cases h with
  | asked => exact .one rfl rfl rfl
  | declined | withdrawn | resumed => exact .nothing rfl rfl rfl

theorem PollerStep.airs {r : Relay σ} {id : TaskId} {failures : Nat} {stage : PollerStage} {turn : Turn × Relay σ}
    (step : r.PollerStep id failures stage turn) : r.Airs turn.2 := by
  cases step with
  | orphaned | rested | asleep | resting => exact .nothing rfl rfl rfl
  | exited => exact exitPoller_airs r id
  | answered consulted => exact consulted.airs.trans (takeResult_taken ..).airs
  | queued consulted => exact consulted.airs.trans (.nothing rfl rfl rfl)

theorem startPoller_airs (r : Relay σ) : r.Airs r.startPoller := by
  have spawned : r.Airs ({ r.readClock.2 with cursor := r.cursor.stamp r.readClock.1 }.spawn r.settings.pollerName
      (.poller 0 .ready)).2 := .one rfl rfl rfl
  exact spawned.trans (.one rfl rfl rfl)

theorem stopPoller_airs (r : Relay σ) (s : PollerSlot) : r.Airs (r.stopPoller s) := by
  have interrupted : r.Airs ((r.cancelToken s.token).interruptSource .controller) := .one rfl rfl rfl
  exact interrupted.trans (note_airs _ _)

theorem Alignment.airs {r r' : Relay σ} (h : r.Alignment r') : r.Airs r' := by
  cases h with
  | resting | stopping | running => exact .refl r
  | started => exact startPoller_airs r
  | buried => exact (vacate_airs r).trans (resetCursor_airs _)
  | replaced => exact (vacate_airs r).trans (startPoller_airs _)
  | @stopped s => exact stopPoller_airs r s
  | revived => exact .one rfl rfl rfl

theorem letGo_airs (r : Relay σ) : r.Airs r.letGo := by
  have stopped : r.Airs r.abandonPoller := by
    unfold abandonPoller
    split
    · exact .refl r
    · exact .one rfl rfl rfl
  exact stopped.trans (withRegistry_airs _ _)

/-- A deed publishes what it tells of, unless it is a visit of an observer. -/
theorem Deed.airs {r r' : Relay σ} (h : Deed r r') :
    r.Airs r' ∨ ∃ bus, r.bus.Observed bus ∧ r' = RelaySession.withBus r bus := by
  cases h with
  | told o => exact .inl (note_airs r o)
  | aligned _ _ changed => exact .inl (changed.airs.trans (followRegistry_alignment _).airs)
  | discarded reason sub => exact .inl (discardPending_airs r reason sub)
  | fired event => exact .inl (fireEvent_airs r event)
  | posted accepted =>
    obtain ⟨source, -, rfl⟩ := postToSource_ok accepted
    exact .inl (.one rfl rfl rfl)
  | interrupted => exact .inl (.one rfl rfl rfl)
  | letGone =>
    have dropped : r.Airs { r with handles := r.handles - 1 } := .nothing rfl rfl rfl
    exact .inl (dropped.trans (letGo_airs _))
  | observed visit => exact .inr ⟨_, visit, rfl⟩
  | closed | pushed | permitted | slept | cloned | dropped => exact .inl (.nothing rfl rfl rfl)

theorem Act.airs {r r' : Relay σ} (h : Act r r') :
    r.Airs r' ∨ ∃ bus, r.bus.Observed bus ∧ r' = RelaySession.withBus r bus := by
  cases h with
  | deed h => exact h.airs
  | began => exact .inl (.one rfl rfl rfl)
  | left _ d panic => exact .inl (leaveHandler_airs r _ _ d panic)
  | waited | retired | orphaned => exact .inl (.nothing rfl rfl rfl)

theorem announced_invariant : Invariant (σ := σ) Announced where
  act h announced := by
    rcases h.airs with airs | ⟨bus, visit, rfl⟩
    · exact airs.announced announced
    · exact Bus.Carries.observed announced visit
  poller _ announced := (pollerTurn_step ..).airs.announced announced
  firing _ announced := (firingTurn_airs ..).announced announced

omit [EventSource σ] in
theorem created_announced {source : σ} {r : Relay σ} (h : Created source r) : r.Announced := by
  obtain ⟨settings, surroundings, handlers, h⟩ := h
  obtain ⟨bus, made, rfl⟩ := Option.map_eq_some_iff.mp h
  exact Bus.create?_carries made

/-- Whenever a relay is looked at, its bus has carried just the notices of its facts. -/
theorem seen_announced {source : σ} {r : Relay σ} (h : Seen source r) : r.Announced :=
  announced_invariant.seen (fun _ => created_announced) h

end Relay

end EventRelay
