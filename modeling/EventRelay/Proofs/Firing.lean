import EventRelay.Proofs.LastHandle

namespace EventRelay

/-- Nothing is handed over in the name of the task `id`. -/
def Occurrence.spares (id : TaskId) (o : Occurrence) : Bool := o.handing?.all fun h => h.2.carrier != id

theorem Occurrence.spares_of_hands {o : Occurrence} {targets : List SubId} {d : Delivery} {id : TaskId}
    (h : o.hands targets d = true) (other : id ≠ d.carrier) : o.spares id = true := by
  rcases Occurrence.hands_iff.mp h with after | ⟨sub, -, handed⟩
  · cases o <;> first | rfl | contradiction
  · simp [spares, handed, Ne.symm other]

theorem Occurrence.spares_of_upkeep {o : Occurrence} (h : o.isUpkeep = true) (id : TaskId) : o.spares id = true := by
  cases o <;> first | rfl | contradiction

namespace Relay

variable {σ : Type}

/-- What the task `id` has handed over, in order. -/
def handedBy (r : Relay σ) (id : TaskId) : List (SubId × Delivery) := r.handings.filter fun h => h.2.carrier == id

theorem handedBy_of_spares {r r' : Relay σ} {id : TaskId} (h : Adds (Occurrence.spares id) r r') :
    r'.handedBy id = r.handedBy id := by
  obtain ⟨news, past, spare⟩ := h
  have none : (news.reverse.filterMap Occurrence.handing?).filter (fun h => h.2.carrier == id) = [] := by
    refine List.filter_eq_nil_iff.mpr fun h handed => ?_
    obtain ⟨o, ho, he⟩ := List.mem_filterMap.mp handed
    have other := spare o (List.mem_reverse.mp ho)
    simpa [Occurrence.spares, he] using other
  simp only [handedBy, handings, story, past, List.reverse_append, List.filterMap_append, List.filter_append, none,
    List.append_nil]

/-- The task `id` keeps its row, and nothing is handed over in its name. -/
structure Bypasses (id : TaskId) (r r' : Relay σ) : Prop where
  row : ∀ {t}, r.tasks.get? id = some t → r'.tasks.get? id = some t
  facts : Adds (Occurrence.spares id) r r'

theorem Bypasses.refl (id : TaskId) (r : Relay σ) : Bypasses id r r := ⟨fun h => h, .refl r⟩

theorem Bypasses.trans {id : TaskId} {r r' r'' : Relay σ} (h : Bypasses id r r') (h' : Bypasses id r' r'') :
    Bypasses id r r'' :=
  ⟨fun ht => h'.row (h.row ht), h.facts.trans h'.facts⟩

theorem Grown.bypasses {r r' : Relay σ} (h : r.Grown r') {id : TaskId} (facts : Adds (Occurrence.spares id) r r') :
    Bypasses id r r' :=
  ⟨h.rows _ _, facts⟩

theorem note_bypasses (r : Relay σ) {id : TaskId} {o : Occurrence} (ho : o.spares id = true) :
    Bypasses id r (r.note o) :=
  ⟨fun h => h, note_adds r ho⟩

/-- Another task goes on, or ends. -/
theorem updateTask_bypasses (r : Relay σ) {id j : TaskId} (other : j ≠ id) (f : Task → Task) :
    Bypasses j r { r with tasks := r.tasks.update id f } := by
  refine ⟨fun {t} ht => ?_, .nothing rfl⟩
  dsimp only
  rw [Table.get?_update, if_neg (Ne.symm other), ht]

theorem dispatch_bypasses (r : Relay σ) (targets : List SubId) {d : Delivery} {id : TaskId} (other : id ≠ d.carrier) :
    Bypasses id r (r.dispatch targets d) :=
  (dispatch_aside r targets d).toGrown.bypasses
    ((dispatch_hands r (fun _ named => named) d).mono fun _ ho => Occurrence.spares_of_hands ho other)

theorem firingTurn_bypasses (r : Relay σ) {id j : TaskId} (other : j ≠ id) (event : Event) (targets : List SubId) :
    Bypasses j r (r.firingTurn id event targets) :=
  (dispatch_bypasses r targets (d := ⟨event, id⟩) other).trans (updateTask_bypasses _ other _)

theorem reportOutcome_bypasses (r : Relay σ) (id : TaskId) (sub : SubId) (d : Delivery) (panic : Option String) :
    Bypasses id r (r.reportOutcome sub d panic) := by
  refine (reportOutcome_aside r sub d panic).toGrown.bypasses ?_
  cases panic with
  | none => exact note_adds _ rfl
  | some message => exact note_adds _ rfl

theorem passOn_bypasses (r : Relay σ) {id j : TaskId} (other : j ≠ id) (f : Fetched) :
    Bypasses j r (r.passOn id f).2 := by
  have moved : Bypasses j r (r.moveCursor f) := by
    refine ⟨(moveCursor_aside r f).rows _ _, ⟨_, moveCursor_past r f, ?_⟩⟩
    unfold skips
    split <;> simp [Occurrence.spares, Occurrence.handing?]
  have handed : Bypasses j (r.moveCursor f) ((r.moveCursor f).handOut id f) := by
    unfold handOut
    split
    · exact note_bypasses _ rfl
    · exact dispatch_bypasses _ _ other
  rw [passOn_eq]
  exact (moved.trans handed).trans (updateTask_bypasses _ other _)

theorem WorkerAt.other {r : Relay σ} {id j : TaskId} {sub : SubId} {stage : WorkerStage} (h : r.WorkerAt j sub stage)
    (idle : ∀ sub stage, ¬ r.WorkerAt id sub stage) : id ≠ j := by
  rintro rfl
  exact idle sub stage h

variable [EventSource σ]

theorem letGo_spares (r : Relay σ) (id : TaskId) : Adds (Occurrence.spares id) r r.letGo := by
  have stopped : Adds (Occurrence.spares id) r r.abandonPoller := by
    unfold abandonPoller
    split
    · exact .refl r
    · exact note_adds _ rfl
  have emptied : r.abandonPoller.Changed r.registry.clear.2 r.letGo := .silent
  exact stopped.trans (emptied.upkeep.mono fun _ ho => Occurrence.spares_of_upkeep ho id)

/-- No request hands anything over. -/
theorem Deed.spares {r r' : Relay σ} (h : Deed r r') (id : TaskId) : Adds (Occurrence.spares id) r r' := by
  cases h with
  | told o remark =>
    refine note_adds r ?_
    cases o <;> first | rfl | contradiction
  | aligned _ _ changed =>
    exact (changed.upkeep.trans (followRegistry_alignment _).upkeep).mono fun _ ho => Occurrence.spares_of_upkeep ho id
  | discarded reason sub =>
    unfold discardPending
    split
    · exact .refl r
    · split
      · exact .refl r
      · exact note_adds _ rfl
  | fired event _ =>
    have told : Adds (Occurrence.spares id) r (r.note (.fired event (r.registry.membersOf event.name))) :=
      note_adds r rfl
    unfold fireEvent
    dsimp only
    split
    · exact told
    · exact told.trans (note_adds _ rfl)
  | posted accepted =>
    obtain ⟨source, -, rfl⟩ := postToSource_ok accepted
    exact note_adds _ rfl
  | interrupted => exact note_adds _ rfl
  | letGone _ =>
    have dropped : Adds (Occurrence.spares id) r { r with handles := r.handles - 1 } := .nothing rfl
    exact dropped.trans (letGo_spares _ id)
  | closed | pushed | permitted | slept | observed | cloned | dropped => exact .nothing rfl

/-- Neither a request nor a worker does anything to a task that is no worker. -/
theorem Act.bypasses {r r' : Relay σ} (h : Act r r') {id : TaskId} (idle : ∀ sub stage, ¬ r.WorkerAt id sub stage) :
    Bypasses id r r' := by
  cases h with
  | deed h => exact h.grown.bypasses (h.spares id)
  | began => exact (beginHandling_aside r _ _ _).toGrown.bypasses (note_adds _ rfl)
  | left worker d panic =>
    rw [leaveHandler_eq]
    exact (reportOutcome_bypasses r id _ d panic).trans (updateTask_bypasses _ (worker.other idle) _)
  | waited worker => exact updateTask_bypasses r (worker.other idle) _
  | @retired _ sub _ worker =>
    have freed : Bypasses id r (r.updateSubscriber sub (fun s => { s with worker := none })) :=
      ⟨fun h => h, .nothing rfl⟩
    exact freed.trans (updateTask_bypasses _ (worker.other idle) _)
  | orphaned worker => exact updateTask_bypasses r (worker.other idle) _

theorem exitPoller_bypasses (r : Relay σ) {id j : TaskId} (other : j ≠ id) : Bypasses j r (r.exitPoller id).2 := by
  have left : Bypasses j r ({ r with slot := none }.resetCursor.note (.pollerStopped r.sourceName)) :=
    ⟨fun h => h, [.pollerStopped r.sourceName, .cursorReset], rfl, by simp [Occurrence.spares, Occurrence.handing?]⟩
  exact left.trans (updateTask_bypasses _ other _)

theorem Taken.bypasses {r : Relay σ} {id j : TaskId} (other : j ≠ id) {failures : Nat} {token : TokenId}
    {result : FetchResult} {turn : Turn × Relay σ} (h : r.Taken id failures token result turn) :
    Bypasses j r turn.2 := by
  have told : Bypasses j r (r.note (.resultTaken id result)) := note_bypasses r rfl
  cases h with
  | orphaned => exact updateTask_bypasses r other _
  | exited => exact exitPoller_bypasses r other
  | @passed f _ _ => exact told.trans (passOn_bypasses _ other f)
  | @ignored _ fault =>
    exact (told.trans (note_bypasses _ (o := .nothingFetched fault) rfl)).trans (updateTask_bypasses _ other _)
  | failed =>
    apply told.trans
    unfold pauseAfter
    split
    · exact updateTask_bypasses _ other _
    · rename_i fault _ _ _ _ _ delay _
      have failed : Bypasses j (r.note (.resultTaken id result)) ({ r.note (.resultTaken id result) with
          draws := r.draws + 1 }.note (.fetchFailed id r.sourceName fault (min (failures + 1) maxFailures) delay)) :=
        ⟨fun h => h, .one rfl rfl⟩
      exact failed.trans (updateTask_bypasses _ other _)

theorem PollerStep.bypasses {r : Relay σ} {id j : TaskId} (other : j ≠ id) {failures : Nat} {stage : PollerStage}
    {turn : Turn × Relay σ} (step : r.PollerStep id failures stage turn) : Bypasses j r turn.2 := by
  have asked : ∀ {token reply r₁}, r.Consulted id stage token reply r₁ → Bypasses j r r₁ := by
    intro token reply r₁ consulted
    refine ⟨fun ht => ?_, ?_⟩
    · cases consulted with
      | declined | asked | withdrawn | resumed => exact ht
    · rcases consulted.past with same | began
      · exact .nothing same
      · exact .one began rfl
  cases step with
  | orphaned => exact updateTask_bypasses r other _
  | exited => exact exitPoller_bypasses r other
  | answered consulted => exact (asked consulted).trans ((takeResult_taken ..).bypasses other)
  | queued consulted => exact (asked consulted).trans (updateTask_bypasses _ other _)
  | rested => exact updateTask_bypasses r other _
  | asleep | resting => exact .refl j r

/-- A task is bypassed by every stride but its own. -/
theorem Stride.bypasses {r r' : Relay σ} (h : Stride r r') (id : TaskId) : Bypasses id r r' ∨
    (∃ sub stage, r.WorkerAt id sub stage) ∨ (∃ failures stage, r.PollerAt id failures stage) ∨
    ∃ event targets, r.FiringAt id event targets ∧ r' = r.firingTurn id event targets := by
  cases h with
  | act act =>
    by_cases worker : ∃ sub stage, r.WorkerAt id sub stage
    · exact .inr (.inl worker)
    · exact .inl (act.bypasses fun sub stage at_work => worker ⟨sub, stage, at_work⟩)
  | @poller j failures stage hp =>
    by_cases own : id = j
    · exact .inr (.inr (.inl ⟨failures, stage, own ▸ hp⟩))
    · exact .inl ((pollerTurn_step r j failures stage).bypasses own)
  | @firing j event targets hf =>
    by_cases own : id = j
    · subst own
      exact .inr (.inr (.inr ⟨event, targets, hf, rfl⟩))
    · exact .inl (firingTurn_bypasses r own event targets)

theorem PollerStep.size {r : Relay σ} {id : TaskId} {failures : Nat} {stage : PollerStage} {turn : Turn × Relay σ}
    (step : r.PollerStep id failures stage turn) : turn.2.subscribers.size = r.subscribers.size := by
  cases step with
  | orphaned | exited | rested | asleep | resting => rfl
  | queued consulted => exact consulted.size
  | answered consulted => exact (takeResult_taken ..).leavesAlone.size.trans consulted.size

theorem Stride.size {r r' : Relay σ} (h : Stride r r') : r'.subscribers.size = r.subscribers.size := by
  cases h with
  | act act => exact act.still.elim Deed.size Still.size
  | poller => exact (pollerTurn_step ..).size
  | firing hf => exact (firingTurn_still hf).size

/-- The task is yet to hand the event to the targets, and has handed nothing over, or it has handed the event once to
each of them and nothing else, and is done. -/
inductive Owed (r : Relay σ) (id : TaskId) (event : Event) (targets : List SubId) : Prop
  | due (task : r.FiringAt id event targets) (nothing : r.handedBy id = [])
      (known : ∀ sub ∈ targets, sub < r.subscribers.size)
  | paid {name : String} (row : r.tasks.get? id = some ⟨name, .firing event targets, some .finished⟩)
      (handed : r.handedBy id = targets.map fun sub => (sub, ⟨event, id⟩))

omit [EventSource σ] in
theorem FiringAt.alone {r : Relay σ} {id : TaskId} {event : Event} {targets : List SubId}
    (h : r.FiringAt id event targets) : (∀ sub stage, ¬ r.WorkerAt id sub stage) ∧
      (∀ failures stage, ¬ r.PollerAt id failures stage) ∧
      ∀ {event' targets'}, r.FiringAt id event' targets' → event' = event ∧ targets' = targets := by
  obtain ⟨name, row⟩ := h
  refine ⟨fun _ _ ⟨_, worker⟩ => ?_, fun _ _ ⟨_, poller⟩ => ?_, fun ⟨_, firing⟩ => ?_⟩
  · cases row.symm.trans worker
  · cases row.symm.trans poller
  · cases row.symm.trans firing
    exact ⟨rfl, rfl⟩

/-- The step of the task hands the event to each target in turn, and ends it. -/
structure HandsOut (r r' : Relay σ) (id : TaskId) (event : Event) (targets : List SubId) : Prop where
  handed : r.Handed r' (targets.map fun sub => (sub, ⟨event, id⟩))
  still : r.Still r'
  row : ∃ name, r'.tasks.get? id = some ⟨name, .firing event targets, some .finished⟩

omit [EventSource σ] in
theorem firingTurn_handsOut {r : Relay σ} {id : TaskId} {event : Event} {targets : List SubId}
    (hf : r.FiringAt id event targets) (known : ∀ sub ∈ targets, sub < r.subscribers.size) :
    r.HandsOut (r.firingTurn id event targets) id event targets := by
  have handed := dispatch_handed r ⟨event, id⟩ known
  refine ⟨⟨handed.facts, handed.queues⟩, firingTurn_still hf, ?_⟩
  obtain ⟨name, row⟩ := hf
  have kept := (dispatch_aside r targets ⟨event, id⟩).rows id _ row
  refine ⟨name, ?_⟩
  change ((r.dispatch targets ⟨event, id⟩).endTask id .finished).tasks.get? id = _
  rw [endTask_get?, if_pos rfl, kept]
  rfl

omit [EventSource σ] in
theorem HandsOut.handedBy {r r' : Relay σ} {id : TaskId} {event : Event} {targets : List SubId}
    (h : r.HandsOut r' id event targets) (nothing : r.handedBy id = []) :
    r'.handedBy id = targets.map fun sub => (sub, ⟨event, id⟩) := by
  have all : (targets.map fun sub => ((sub, ⟨event, id⟩) : SubId × Delivery)).filter (fun h => h.2.carrier == id) =
      targets.map fun sub => (sub, ⟨event, id⟩) := by
    refine List.filter_eq_self.mpr fun h hm => ?_
    obtain ⟨sub, -, rfl⟩ := List.mem_map.mp hm
    exact beq_self_eq_true id
  unfold Relay.handedBy at *
  rw [h.handed.facts, List.filter_append, nothing, all, List.nil_append]

theorem Owed.stride {r r' : Relay σ} {id : TaskId} {event : Event} {targets : List SubId}
    (h : r.Owed id event targets) (stride : Stride r r') : r'.Owed id event targets := by
  cases h with
  | due task nothing known =>
    obtain ⟨noWorker, noPoller, same⟩ := task.alone
    rcases stride.bypasses id with bypassed | ⟨_, _, worker⟩ | ⟨_, _, poller⟩ | ⟨event', targets', own, he⟩
    · obtain ⟨name, row⟩ := task
      refine .due ⟨name, bypassed.row row⟩ ((handedBy_of_spares bypassed.facts).trans nothing) fun sub hs => ?_
      rw [stride.size]
      exact known sub hs
    · exact absurd worker (noWorker _ _)
    · exact absurd poller (noPoller _ _)
    · obtain ⟨rfl, rfl⟩ := same own
      have out := firingTurn_handsOut task known
      obtain ⟨name, row⟩ := out.row
      exact .paid (he ▸ row) (he ▸ out.handedBy nothing)
  | paid row handed =>
    have ended : ∀ name work, r.tasks.get? id ≠ some ⟨name, work, none⟩ := by simp [row]
    rcases stride.bypasses id with bypassed | ⟨_, _, _, own⟩ | ⟨_, _, _, own⟩ | ⟨_, _, ⟨_, own⟩, -⟩
    · exact .paid (bypassed.row row) ((handedBy_of_spares bypassed.facts).trans handed)
    · exact absurd own (ended _ _)
    · exact absurd own (ended _ _)
    · exact absurd own (ended _ _)

theorem Owed.strides {r r' : Relay σ} {id : TaskId} {event : Event} {targets : List SubId}
    (h : r.Owed id event targets) (hs : Strides r r') : r'.Owed id event targets := by
  induction hs with
  | refl => exact h
  | tail _ stride ih => exact ih.stride stride

end Relay

end EventRelay
