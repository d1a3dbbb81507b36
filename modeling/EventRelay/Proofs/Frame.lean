import EventRelay.Proofs.Run

namespace EventRelay

def Task.isPoller (t : Task) : Bool :=
  match t.work with
  | .poller .. => true
  | _ => false

namespace Relay

variable {σ : Type}

/-- The controller, its stop flags and all pollers are the same in both. -/
structure SameControl (r r' : Relay σ) : Prop where
  settings : r'.settings = r.settings
  handles : r'.handles = r.handles
  registry : r'.registry = r.registry
  slot : r'.slot = r.slot
  cursor : r'.cursor = r.cursor
  tokens : r'.tokens = r.tokens
  cancelled : r'.cancelled = r.cancelled
  pollers : ∀ id t, t.isPoller = true → (r'.tasks.get? id = some t ↔ r.tasks.get? id = some t)

theorem SameControl.refl (r : Relay σ) : r.SameControl r :=
  ⟨rfl, rfl, rfl, rfl, rfl, rfl, rfl, fun _ _ _ => Iff.rfl⟩

theorem SameControl.trans {r r' r'' : Relay σ} (h : r.SameControl r') (h' : r'.SameControl r'') :
    r.SameControl r'' :=
  ⟨h'.settings.trans h.settings, h'.handles.trans h.handles, h'.registry.trans h.registry,
    h'.slot.trans h.slot, h'.cursor.trans h.cursor, h'.tokens.trans h.tokens, h'.cancelled.trans h.cancelled,
    fun id t ht => (h'.pollers id t ht).trans (h.pollers id t ht)⟩

theorem SameControl.pollerAt {r r' : Relay σ} (h : r.SameControl r') {id : TaskId} {failures : Nat}
    {stage : PollerStage} : r'.PollerAt id failures stage ↔ r.PollerAt id failures stage :=
  ⟨fun ⟨name, ht⟩ => ⟨name, (h.pollers id _ rfl).mp ht⟩, fun ⟨name, ht⟩ => ⟨name, (h.pollers id _ rfl).mpr ht⟩⟩

/-- Tasks keep their rows, and what has happened stays as it was. New tasks may come, and new facts. -/
structure Grown (r r' : Relay σ) : Prop where
  rows : ∀ id t, r.tasks.get? id = some t → r'.tasks.get? id = some t
  past : r.past <:+ r'.past

theorem Grown.refl (r : Relay σ) : r.Grown r := ⟨fun _ _ h => h, List.suffix_refl _⟩

theorem Grown.trans {r r' r'' : Relay σ} (h : r.Grown r') (h' : r'.Grown r'') : r.Grown r'' :=
  ⟨fun id t ht => h'.rows id t (h.rows id t ht), h.past.trans h'.past⟩

theorem Grown.workerAt {r r' : Relay σ} (h : r.Grown r') {id : TaskId} {sub : SubId} {stage : WorkerStage}
    (hw : r.WorkerAt id sub stage) : r'.WorkerAt id sub stage := by
  obtain ⟨name, ht⟩ := hw
  exact ⟨name, h.rows id _ ht⟩

theorem Grown.pollerAt {r r' : Relay σ} (h : r.Grown r') {id : TaskId} {failures : Nat} {stage : PollerStage}
    (hp : r.PollerAt id failures stage) : r'.PollerAt id failures stage := by
  obtain ⟨name, ht⟩ := hp
  exact ⟨name, h.rows id _ ht⟩

/-- The source is the same too and no time has passed, and there are as many subscribers. -/
structure Still (r r' : Relay σ) : Prop extends SameControl r r' where
  source : r'.source = r.source
  now : r'.now = r.now
  size : r'.subscribers.size = r.subscribers.size

theorem Still.refl (r : Relay σ) : r.Still r := ⟨.refl r, rfl, rfl, rfl⟩

theorem Still.trans {r r' r'' : Relay σ} (h : r.Still r') (h' : r'.Still r'') : r.Still r'' :=
  ⟨h.toSameControl.trans h'.toSameControl, h'.source.trans h.source, h'.now.trans h.now, h'.size.trans h.size⟩

/-- Only queues, workers and one-time tasks differ, and what is known of the past. -/
structure Aside (r r' : Relay σ) : Prop extends Still r r', Grown r r'

theorem Aside.refl (r : Relay σ) : r.Aside r := ⟨.refl r, .refl r⟩

theorem Aside.trans {r r' r'' : Relay σ} (h : r.Aside r') (h' : r'.Aside r'') : r.Aside r'' :=
  ⟨h.toStill.trans h'.toStill, h.toGrown.trans h'.toGrown⟩

theorem Aside.foldl {α : Type} {f : Relay σ → α → Relay σ} (hf : ∀ (r : Relay σ) a, r.Aside (f r a)) (xs : List α)
    (r : Relay σ) : r.Aside (xs.foldl f r) :=
  xs.foldlRecOn f (.refl r) fun r' done a _ => done.trans (hf r' a)

theorem note_aside (r : Relay σ) (o : Occurrence) : r.Aside (r.note o) :=
  ⟨⟨⟨rfl, rfl, rfl, rfl, rfl, rfl, rfl, fun _ _ _ => Iff.rfl⟩, rfl, rfl, rfl⟩,
    ⟨fun _ _ h => h, List.suffix_cons o r.past⟩⟩

theorem updateSubscriber_aside (r : Relay σ) (sub : SubId) (f : Subscriber → Subscriber) :
    r.Aside (r.updateSubscriber sub f) :=
  ⟨⟨⟨rfl, rfl, rfl, rfl, rfl, rfl, rfl, fun _ _ _ => Iff.rfl⟩, rfl, rfl, Table.size_update r.subscribers sub f⟩,
    ⟨fun _ _ h => h, List.suffix_refl _⟩⟩

theorem spawn_rows (r : Relay σ) (name : String) (work : Work) (id : TaskId) :
    (r.spawn name work).2.tasks.get? id =
      if id = r.tasks.size then some ⟨name, work, none⟩ else r.tasks.get? id :=
  Table.get?_add r.tasks _ id

theorem spawn_grown (r : Relay σ) (name : String) (work : Work) : r.Grown (r.spawn name work).2 := by
  refine ⟨fun id t ht => ?_, List.suffix_cons _ _⟩
  rw [spawn_rows]
  split
  · rename_i h
    rw [h, Table.get?_size] at ht
    contradiction
  · exact ht

theorem spawn_aside (r : Relay σ) (name : String) {work : Work} (hw : Task.isPoller ⟨name, work, none⟩ = false) :
    r.Aside (r.spawn name work).2 := by
  refine ⟨⟨⟨rfl, rfl, rfl, rfl, rfl, rfl, rfl, fun id t ht => ?_⟩, rfl, rfl, rfl⟩, spawn_grown r name work⟩
  rw [spawn_rows]
  split
  · rename_i h
    subst h
    rw [Table.get?_size]
    constructor
    · intro he
      cases he
      rw [hw] at ht
      contradiction
    · intro he
      contradiction
  · rfl

theorem startWorker_aside (r : Relay σ) (sub : SubId) (s : Subscriber) : r.Aside (r.startWorker sub s) := by
  unfold startWorker
  split
  · exact .refl r
  · exact (spawn_aside r _ rfl).trans (updateSubscriber_aside _ sub _)

theorem handTo_aside (r : Relay σ) (sub : SubId) (d : Delivery) : r.Aside (r.handTo sub d) := by
  unfold handTo
  split
  · exact .refl r
  · split
    · exact (updateSubscriber_aside r sub _).trans (note_aside _ _)
    · exact ((updateSubscriber_aside r sub _).trans (note_aside _ _)).trans (startWorker_aside _ sub _)

theorem dispatch_aside (r : Relay σ) (targets : List SubId) (d : Delivery) : r.Aside (r.dispatch targets d) :=
  Aside.foldl (fun r sub => handTo_aside r sub d) targets r

theorem discardPending_aside (r : Relay σ) (reason : DiscardReason) (sub : SubId) :
    r.Aside (r.discardPending reason sub) := by
  unfold discardPending
  split
  · exact .refl r
  · split
    · exact .refl r
    · exact (updateSubscriber_aside r sub _).trans (note_aside _ _)

theorem fireEvent_aside (r : Relay σ) (event : Event) : r.Aside (r.fireEvent event).2 := by
  unfold fireEvent
  dsimp only
  split
  · exact note_aside r _
  · exact (note_aside r _).trans (spawn_aside _ _ rfl)

theorem beginHandling_aside (r : Relay σ) (sub : SubId) (d : Delivery) (rest : List Delivery) :
    r.Aside (r.beginHandling sub d rest) :=
  ((updateSubscriber_aside r sub _).trans (note_aside _ _)).trans (updateSubscriber_aside _ sub _)

theorem withRegistry_aside (r : Relay σ) (registry : Registry) :
    Aside { r with registry } (r.withRegistry registry) := by
  unfold withRegistry
  dsimp only
  split
  · exact note_aside _ _
  · exact note_aside _ _
  · exact .refl _

theorem resetCursor_grown (r : Relay σ) : r.Grown r.resetCursor :=
  ⟨fun _ _ h => h, List.suffix_cons _ _⟩

/-- A task that is no poller goes on, or ends. -/
theorem updateTask_still {r : Relay σ} {id : TaskId} {t : Task} (ht : r.tasks.get? id = some t)
    {f : Task → Task} (hp : t.isPoller = false) (hf : (f t).isPoller = false) :
    r.Still { r with tasks := r.tasks.update id f } := by
  refine ⟨⟨rfl, rfl, rfl, rfl, rfl, rfl, rfl, fun j u hu => ?_⟩, rfl, rfl, rfl⟩
  simp only [Table.get?_update]
  split
  · rename_i h
    subst h
    rw [ht]
    simp only [Option.map_some, Option.some.injEq]
    constructor
    · rintro rfl
      rw [hf] at hu
      contradiction
    · rintro rfl
      rw [hp] at hu
      contradiction
  · rfl

/-- The handler has returned, or panicked, and this is counted and reported. -/
def reportOutcome (r : Relay σ) (sub : SubId) (d : Delivery) : Option String → Relay σ
  | none => (r.updateSubscriber sub Subscriber.countDelivered).note (.completed (r.party sub) d)
  | some message =>
    (r.updateSubscriber sub Subscriber.countPanicked).note (.handlerPanicked (r.party sub) d message)

theorem leaveHandler_eq (r : Relay σ) (id : TaskId) (sub : SubId) (d : Delivery) (panic : Option String) :
    r.leaveHandler id sub d panic = (.going, (r.reportOutcome sub d panic).setWork id (.worker sub .idle)) := by
  cases panic <;> rfl

theorem reportOutcome_aside (r : Relay σ) (sub : SubId) (d : Delivery) (panic : Option String) :
    r.Aside (r.reportOutcome sub d panic) := by
  unfold reportOutcome
  cases panic with
  | none => exact (updateSubscriber_aside r sub _).trans (note_aside _ _)
  | some message => exact (updateSubscriber_aside r sub _).trans (note_aside _ _)

theorem leaveHandler_still {r : Relay σ} {id : TaskId} {sub : SubId} {stage : WorkerStage}
    (h : r.WorkerAt id sub stage) (d : Delivery) (panic : Option String) :
    r.Still (r.leaveHandler id sub d panic).2 := by
  obtain ⟨name, ht⟩ := h
  have reported := reportOutcome_aside r sub d panic
  rw [leaveHandler_eq]
  exact reported.toStill.trans (updateTask_still (reported.rows id _ ht) rfl rfl)

theorem setWork_get? (r : Relay σ) (id : TaskId) (work : Work) (j : TaskId) :
    (r.setWork id work).tasks.get? j =
      if id = j then (r.tasks.get? j).map (fun t => { t with work }) else r.tasks.get? j :=
  Table.get?_update r.tasks id j _

theorem endTask_get? (r : Relay σ) (id : TaskId) (ending : Ending) (j : TaskId) :
    (r.endTask id ending).tasks.get? j =
      if id = j then (r.tasks.get? j).map (fun t => { t with ending := some ending }) else r.tasks.get? j :=
  Table.get?_update r.tasks id j _

theorem setWork_pollerAt {r : Relay σ} {id : TaskId} {failures : Nat} {stage : PollerStage}
    (h : r.PollerAt id failures stage) (failures' : Nat) (stage' : PollerStage) :
    (r.setWork id (.poller failures' stage')).PollerAt id failures' stage' := by
  obtain ⟨name, ht⟩ := h
  exact ⟨name, by simp [setWork_get?, ht]⟩

theorem PollerAt.stage_eq {r : Relay σ} {id : TaskId} {f g : Nat} {p q : PollerStage} (hp : r.PollerAt id f p)
    (hq : r.PollerAt id g q) : p = q := by
  obtain ⟨_, hp⟩ := hp
  obtain ⟨_, hq⟩ := hq
  rw [hp] at hq
  cases hq
  rfl

/-- After a poller has gone on, a poller is either this one, as it has become, or another one. -/
theorem setWork_pollerAt_cases {r : Relay σ} {id : TaskId} {failures : Nat} {stage : PollerStage} {j : TaskId}
    {failures' : Nat} {stage' : PollerStage}
    (h : (r.setWork id (.poller failures stage)).PollerAt j failures' stage') :
    (j = id ∧ failures' = failures ∧ stage' = stage) ∨ (j ≠ id ∧ r.PollerAt j failures' stage') := by
  obtain ⟨name, ht⟩ := h
  rw [setWork_get?] at ht
  by_cases hj : id = j
  · rw [if_pos hj] at ht
    obtain ⟨t, -, he⟩ := Option.map_eq_some_iff.mp ht
    have hw : Work.poller failures stage = .poller failures' stage' := congrArg Task.work he
    cases hw
    exact .inl ⟨hj.symm, rfl, rfl⟩
  · rw [if_neg hj] at ht
    exact .inr ⟨Ne.symm hj, name, ht⟩

/-- An ended task is no unfinished poller. -/
theorem endTask_pollerAt_iff {r : Relay σ} {id : TaskId} {ending : Ending} {j : TaskId} {failures : Nat}
    {stage : PollerStage} :
    (r.endTask id ending).PollerAt j failures stage ↔ j ≠ id ∧ r.PollerAt j failures stage := by
  unfold PollerAt
  simp only [endTask_get?]
  by_cases hj : id = j
  · simp [hj]
  · simp [hj, Ne.symm hj]

end Relay

end EventRelay
