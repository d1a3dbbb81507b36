import EventRelay.Proofs.Delivery

namespace EventRelay

namespace Occurrence

theorem reading?_of_post {o : Occurrence} {time : Instant} (h : o.postTime? = some time) : o.reading? = some time := by
  simp [reading?, h]

theorem reading?_of_start {o : Occurrence} {time : Instant} (h : o.startTime? = some time) :
    o.reading? = some time := by
  cases o <;> first | contradiction | exact h

/-- Where every time in the facts is later than those before it, the clock served all along. -/
theorem areTimely_of_increasing {facts : List Occurrence} (h : (facts.filterMap reading?).Pairwise (· > ·)) :
    areTimely facts = true := by
  induction facts with
  | nil => rfl
  | cons o earlier ih =>
    have latest : ∀ {time}, o.reading? = some time → ∀ p ∈ earlier, ∀ t, p.reading? = some t → t < time := by
      intro time ho p hp t ht
      rw [List.filterMap_cons_some ho] at h
      exact (List.pairwise_cons.mp h).1 t (List.mem_filterMap.mpr ⟨p, hp, ht⟩)
    have rest : areTimely earlier = true := by
      apply ih
      cases ho : o.reading? with
      | none => rwa [List.filterMap_cons_none ho] at h
      | some time =>
        rw [List.filterMap_cons_some ho] at h
        exact (List.pairwise_cons.mp h).2
    refine Bool.and_eq_true_iff.mpr ⟨Bool.and_eq_true_iff.mpr ⟨?_, ?_⟩, rest⟩
    · simp only [Option.all_eq_true, List.all_eq_true, decide_eq_true_eq]
      intro time ho p hp t ht
      exact Nat.le_of_lt (latest (reading?_of_post ho) p hp t ht)
    · simp only [Option.all_eq_true, List.all_eq_true, decide_eq_true_eq]
      intro time ho p hp t ht
      exact latest (reading?_of_start ho) p hp t (reading?_of_post ht)

end Occurrence

namespace Relay

variable {σ : Type}

/-- The times in the facts, the latest first. -/
def times (r : Relay σ) : List Instant := r.past.filterMap Occurrence.reading?

/-- The readings taken so far, in order. -/
def readingsTaken (r : Relay σ) : List Instant := (List.range r.readings).map r.surroundings.reading

/-- The clock gives these readings, and the times in the facts are among them, in the order in which they were
taken. -/
structure Clocked (reading : Nat → Instant) (r : Relay σ) : Prop where
  clock : r.surroundings.reading = reading
  told : r.times.Sublist r.readingsTaken.reverse

/-- The clock was not read, and no time was told. -/
structure Unread (r r' : Relay σ) : Prop where
  surroundings : r'.surroundings = r.surroundings
  readings : r'.readings = r.readings
  times : r'.times = r.times

theorem Unread.refl (r : Relay σ) : r.Unread r := ⟨rfl, rfl, rfl⟩

theorem Unread.trans {r r' r'' : Relay σ} (h : r.Unread r') (h' : r'.Unread r'') : r.Unread r'' :=
  ⟨h'.surroundings.trans h.surroundings, h'.readings.trans h.readings, h'.times.trans h.times⟩

theorem Unread.clocked {reading : Nat → Instant} {r r' : Relay σ} (h : r.Unread r') (hr : Clocked reading r) :
    Clocked reading r' := by
  refine ⟨h.surroundings ▸ hr.clock, ?_⟩
  rw [readingsTaken, h.times, h.readings, h.surroundings]
  exact hr.told

/-- One reading is taken, and told. -/
theorem Clocked.read {reading : Nat → Instant} {r r' : Relay σ} (h : Clocked reading r)
    (surroundings : r'.surroundings = r.surroundings) (readings : r'.readings = r.readings + 1)
    (times : r'.times = r.surroundings.reading r.readings :: r.times) : Clocked reading r' := by
  have taken : r'.readingsTaken.reverse = r.surroundings.reading r.readings :: r.readingsTaken.reverse := by
    simp [readingsTaken, readings, surroundings, List.range_succ]
  refine ⟨surroundings ▸ h.clock, ?_⟩
  rw [taken, times]
  exact h.told.cons_cons _

theorem created_clocked {source : σ} {r : Relay σ} (h : Created source r) : Clocked r.surroundings.reading r := by
  obtain ⟨settings, surroundings, handlers, h⟩ := h
  obtain ⟨bus, -, rfl⟩ := Option.map_eq_some_iff.mp h
  exact ⟨rfl, List.nil_sublist _⟩

/-- The clock serves as long as each of its readings is later than those before. -/
theorem Clocked.timely {reading : Nat → Instant} {r : Relay σ} (h : Clocked reading r)
    (ticking : ∀ i j, i < j → reading i < reading j) : Occurrence.areTimely r.past = true := by
  have increasing : r.readingsTaken.Pairwise (· < ·) :=
    List.pairwise_map.mpr (List.pairwise_lt_range.imp fun hlt => h.clock ▸ ticking _ _ hlt)
  exact Occurrence.areTimely_of_increasing ((List.pairwise_reverse.mpr increasing).sublist h.told)

theorem note_unread (r : Relay σ) {o : Occurrence} (silent : o.reading? = none) : r.Unread (r.note o) :=
  ⟨rfl, rfl, List.filterMap_cons_none silent⟩

theorem updateSubscriber_unread (r : Relay σ) (sub : SubId) (f : Subscriber → Subscriber) :
    r.Unread (r.updateSubscriber sub f) :=
  ⟨rfl, rfl, rfl⟩

theorem setWork_unread (r : Relay σ) (id : TaskId) (work : Work) : r.Unread (r.setWork id work) := ⟨rfl, rfl, rfl⟩

theorem endTask_unread (r : Relay σ) (id : TaskId) (ending : Ending) : r.Unread (r.endTask id ending) :=
  ⟨rfl, rfl, rfl⟩

theorem spawn_unread (r : Relay σ) (name : String) (work : Work) : r.Unread (r.spawn name work).2 := ⟨rfl, rfl, rfl⟩

theorem handTo_unread (r : Relay σ) (sub : SubId) (d : Delivery) : r.Unread (r.handTo sub d) := by
  unfold handTo startWorker
  split
  · exact .refl r
  · split
    · exact (updateSubscriber_unread r sub _).trans (note_unread _ rfl)
    · have queued := (updateSubscriber_unread r sub (·.append d)).trans
        (note_unread _ (o := .queued (r.party sub) d) rfl)
      split
      · exact queued
      · exact queued.trans ((spawn_unread _ _ _).trans (updateSubscriber_unread _ sub _))

theorem dispatch_unread (r : Relay σ) (targets : List SubId) (d : Delivery) : r.Unread (r.dispatch targets d) :=
  targets.foldlRecOn _ (.refl r) fun r' done sub _ => done.trans (handTo_unread r' sub d)

theorem discardPending_unread (r : Relay σ) (reason : DiscardReason) (sub : SubId) :
    r.Unread (r.discardPending reason sub) := by
  unfold discardPending
  split
  · exact .refl r
  · split
    · exact .refl r
    · exact (updateSubscriber_unread r sub _).trans (note_unread _ rfl)

theorem fireEvent_unread (r : Relay σ) (event : Event) : r.Unread (r.fireEvent event).2 := by
  unfold fireEvent
  dsimp only
  split
  · exact note_unread r rfl
  · exact (note_unread r rfl).trans (spawn_unread _ _ _)

theorem withRegistry_unread (r : Relay σ) (registry : Registry) : r.Unread (r.withRegistry registry) := by
  have changed : r.Unread { r with registry } := ⟨rfl, rfl, rfl⟩
  unfold withRegistry
  dsimp only
  split
  · exact changed.trans (note_unread _ rfl)
  · exact changed.trans (note_unread _ rfl)
  · exact changed

theorem Changed.unread {r r' : Relay σ} {registry : Registry} (h : r.Changed registry r') : r.Unread r' := by
  cases h with
  | silent => exact withRegistry_unread r registry
  | told => exact (withRegistry_unread r registry).trans (note_unread _ rfl)

theorem beginHandling_unread (r : Relay σ) (sub : SubId) (d : Delivery) (rest : List Delivery) :
    r.Unread (r.beginHandling sub d rest) :=
  ((updateSubscriber_unread r sub _).trans (note_unread _ rfl)).trans (updateSubscriber_unread _ sub _)

theorem leaveHandler_unread (r : Relay σ) (id : TaskId) (sub : SubId) (d : Delivery) (panic : Option String) :
    r.Unread (r.leaveHandler id sub d panic).2 := by
  have reported : r.Unread (r.reportOutcome sub d panic) := by
    unfold reportOutcome
    cases panic with
    | none => exact (updateSubscriber_unread r sub _).trans (note_unread _ rfl)
    | some message => exact (updateSubscriber_unread r sub _).trans (note_unread _ rfl)
  rw [leaveHandler_eq]
  exact reported.trans (setWork_unread _ id _)

theorem firingTurn_unread (r : Relay σ) (id : TaskId) (event : Event) (targets : List SubId) :
    r.Unread (r.firingTurn id event targets) :=
  (dispatch_unread r targets _).trans (endTask_unread _ id _)

theorem passOn_unread (r : Relay σ) (id : TaskId) (f : Fetched) : r.Unread (r.passOn id f).2 := by
  have moved : r.Unread (r.moveCursor f) := by
    have cursor : r.Unread { r with cursor := r.cursor.moveTo f.index } := ⟨rfl, rfl, rfl⟩
    unfold moveCursor
    dsimp only
    split
    · exact cursor
    · exact cursor.trans (note_unread _ rfl)
  have handed : (r.moveCursor f).Unread ((r.moveCursor f).handOut id f) := by
    unfold handOut
    split
    · exact note_unread _ rfl
    · exact dispatch_unread _ _ _
  exact (moved.trans handed).trans (setWork_unread _ id _)

variable [EventSource σ] {reading : Nat → Instant}

theorem letGo_unread (r : Relay σ) : r.Unread r.letGo := by
  have stopped : r.Unread r.abandonPoller := by
    unfold abandonPoller
    split <;> exact ⟨rfl, rfl, rfl⟩
  exact stopped.trans (withRegistry_unread _ _)

/-- Only the start of a poller reads the clock. -/
theorem Alignment.clocked {r r' : Relay σ} (h : r.Alignment r') (hr : Clocked reading r) : Clocked reading r' := by
  have kept : r.Unread r' → Clocked reading r' := fun unread => unread.clocked hr
  cases h with
  | resting | stopping | running => exact hr
  | started | replaced => exact hr.read rfl rfl rfl
  | buried | stopped | revived => exact kept ⟨rfl, rfl, rfl⟩

theorem postToSource_clocked {r r' : Relay σ} (h : Clocked reading r) {event : Event} {index : Nat}
    (accepted : r.postToSource event = .ok (index, r')) : Clocked reading r' := by
  obtain ⟨source, -, rfl⟩ := postToSource_ok accepted
  exact h.read rfl rfl rfl

theorem Deed.clocked {r r' : Relay σ} (h : Deed r r') (hr : Clocked reading r) : Clocked reading r' := by
  have kept : r.Unread r' → Clocked reading r' := fun unread => unread.clocked hr
  cases h with
  | told o remark =>
    apply kept (note_unread r _)
    cases o <;> first | rfl | contradiction
  | aligned _ _ changed => exact (followRegistry_alignment _).clocked (changed.unread.clocked hr)
  | discarded reason sub => exact kept (discardPending_unread r reason sub)
  | fired event _ => exact kept (fireEvent_unread r event)
  | posted accepted => exact postToSource_clocked hr accepted
  | letGone _ =>
    have dropped : r.Unread { r with handles := r.handles - 1 } := ⟨rfl, rfl, rfl⟩
    exact kept (dropped.trans (letGo_unread _))
  | interrupted | closed | pushed | permitted | slept | observed | cloned | dropped => exact kept ⟨rfl, rfl, rfl⟩

theorem Act.clocked {r r' : Relay σ} (h : Act r r') (hr : Clocked reading r) : Clocked reading r' := by
  cases h with
  | deed h => exact h.clocked hr
  | began _ _ _ => exact (beginHandling_unread r _ _ _).clocked hr
  | left _ d panic => exact (leaveHandler_unread r _ _ d panic).clocked hr
  | waited _ d => exact (setWork_unread r _ _).clocked hr
  | retired => exact ((updateSubscriber_unread r _ _).trans (endTask_unread _ _ _)).clocked hr
  | orphaned => exact (endTask_unread r _ _).clocked hr

theorem Taken.unread {r : Relay σ} {id : TaskId} {failures : Nat} {token : TokenId} {result : FetchResult}
    {turn : Turn × Relay σ} (h : r.Taken id failures token result turn) : r.Unread turn.2 := by
  have told : r.Unread (r.note (.resultTaken id result)) := note_unread r rfl
  cases h with
  | orphaned | exited => exact ⟨rfl, rfl, rfl⟩
  | @passed f _ _ => exact told.trans (passOn_unread _ id f)
  | ignored => exact (told.trans (note_unread _ rfl)).trans (setWork_unread _ id _)
  | failed =>
    apply told.trans
    unfold pauseAfter
    split
    · exact endTask_unread _ id _
    · exact ⟨rfl, rfl, rfl⟩

theorem PollerStep.unread {r : Relay σ} {id : TaskId} {failures : Nat} {stage : PollerStage} {turn : Turn × Relay σ}
    (h : r.PollerStep id failures stage turn) : r.Unread turn.2 := by
  have consulted : ∀ {token reply r'}, r.Consulted id stage token reply r' → r.Unread r' := by
    intro token reply r' h
    cases h with
    | declined | asked | withdrawn | resumed => exact ⟨rfl, rfl, rfl⟩
  cases h with
  | orphaned | exited | rested => exact ⟨rfl, rfl, rfl⟩
  | answered h => exact (consulted h).trans (takeResult_taken _ id failures _ _).unread
  | queued h => exact (consulted h).trans (setWork_unread _ id _)
  | asleep | resting => exact .refl r

theorem clocked_invariant : Invariant (Clocked reading : Relay σ → Prop) :=
  ⟨Act.clocked, fun _ hr => (pollerTurn_step _ _ _ _).unread.clocked hr,
    fun _ hr => (firingTurn_unread _ _ _ _).clocked hr⟩

end Relay

end EventRelay
